import SensorNode.Text.Digits

/-!
# Attachment ids

An id has 128 bits and is written as 32 hexadecimal digits in five groups. Its first group, the
short id, keeps the symbols of one attachment apart from those of another in a sketch.
-/

namespace SensorNode

structure AttachmentId where
  bits : BitVec 128
deriving DecidableEq, Repr

namespace AttachmentId

def digits (id : AttachmentId) : List Char := Text.fixedDigits 16 32 id.bits.toNat

/-- Hyphens after 8, 12, 16 and 20 of the digits. -/
def hyphenate (digits : List Char) : List Char :=
  digits.take 8 ++ '-' :: (digits.drop 8).take 4 ++ '-' :: (digits.drop 12).take 4 ++
    '-' :: (digits.drop 16).take 4 ++ '-' :: digits.drop 20

def text (id : AttachmentId) : String := String.ofList (hyphenate id.digits)

def shortId (id : AttachmentId) : String := String.ofList (id.digits.take 8)

/-- The digits of a hyphenated text. -/
def dehyphenate? (cs : List Char) : Option (List Char) :=
  let digits := cs.filter (· ≠ '-')
  if digits.length = 32 ∧ hyphenate digits = cs then some digits else none

/-- The digits of an id as it may be given: bare, with hyphens, with hyphens in braces, or with
hyphens after the resource name of such ids, whose letters may be of either case. -/
def givenDigits? (cs : List Char) : Option (List Char) :=
  if cs.length = 32 then some cs
  else if cs.length = 36 then dehyphenate? cs
  else if cs.length = 38 then
    if cs.head? = some '\x7b' ∧ cs.getLast? = some '\x7d' then dehyphenate? (cs.drop 1).dropLast
    else none
  else if cs.length = 45 then
    if (cs.take 9).map Char.toLower = "urn:uuid:".toList then dehyphenate? (cs.drop 9) else none
  else none

/-- Read an id, in digits of either case. -/
def ofText? (s : String) : Option AttachmentId := do
  let value ← Text.hexValue? (← givenDigits? s.toList)
  return ⟨BitVec.ofNat 128 value⟩

/-- The six bits of an id that tell that the others are random. -/
def markMask : BitVec 128 := (0xF000#128 <<< 64) ||| (0xC000#128 <<< 48)

/-- The id of random bits, marked as random. -/
def ofRandom (bits : BitVec 128) : AttachmentId :=
  ⟨(bits &&& ~~~markMask) ||| (0x4000#128 <<< 64) ||| (0x8000#128 <<< 48)⟩

/-- The id with a serial number in its first group and the marks of a random one. -/
def serial (n : Nat) : AttachmentId := ofRandom (BitVec.ofNat 128 n <<< 96)

example : (serial 0x2f).text = "0000002f-0000-4000-8000-000000000000" := by decide +kernel

example : ofText? (serial 5).text = some (serial 5) := by decide +kernel

example : ofText? ("Urn:UUID:" ++ (serial 5).text) = some (serial 5) := by decide +kernel

end AttachmentId

end SensorNode
