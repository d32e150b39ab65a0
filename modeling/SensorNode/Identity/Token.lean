import SensorNode.Identity.Basic
import SensorNode.Text.Digits
import SensorNode.Text.Lines

/-!
# Identity tokens

A token is twelve groups of three hexadecimal digits with hyphens between them. The first eleven
groups are the indices of a record, two of them reserved and written as zero; the twelfth is a
checksum over the others and the secret of the signer.
-/

namespace SensorNode.Identity

/-- The eleven indices of a record in token order. -/
def Record.indices (record : Record) : List Nat :=
  [record.role, record.kind, record.name, 0, record.version, record.model, record.prodDate,
    record.actDate, record.expiryDate, record.sku, 0].map fun field => field.toNat % indexSpace

/-- The record that eleven indices hold; the reserved ones are not looked at. -/
def Record.ofIndices (index : Nat → Nat) : Record where
  role := .ofNat (index 0)
  kind := .ofNat (index 1)
  name := .ofNat (index 2)
  version := .ofNat (index 4)
  model := .ofNat (index 5)
  prodDate := .ofNat (index 6)
  actDate := .ofNat (index 7)
  expiryDate := .ofNat (index 8)
  sku := .ofNat (index 9)

/-- The UTF-16 units of a character. -/
def utf16Units (c : Char) : List Nat :=
  if c.toNat < 0x10000 then [c.toNat]
  else [0xD800 + (c.toNat - 0x10000) / 0x400, 0xDC00 + (c.toNat - 0x10000) % 0x400]

/-- The rolling hash with factor 31 over the UTF-16 units of a text, in 32-bit words. -/
def rollingHash (cs : List Char) : UInt32 :=
  (cs.flatMap utf16Units).foldl (fun hash unit => hash * 31 + .ofNat unit) 0

/-- Holder of a signing secret. -/
structure Signer where
  secret : String

/-- The signer as diagnostics may show it, without its secret. -/
def Signer.display (_ : Signer) : String := "LocalSigner \x7b .. \x7d"

namespace Signer

/-- The hash of the decimal indices, hyphens between them, and the secret; taken as a signed word,
its absolute value is folded into the index space. -/
def checksum (signer : Signer) (indices : List Nat) : Nat :=
  let text := Text.join "-" (indices.map toString) ++ signer.secret
  (rollingHash text.toList).toInt32.toInt.natAbs % indexSpace

end Signer

/-- Three hexadecimal digits. -/
def groupText (index : Nat) : String := String.ofList (Text.fixedDigits 16 3 index)

def writeGroups (indices : List Nat) : String := Text.join "-" (indices.map groupText)

/-- The index that a group of exactly three hexadecimal digits holds. -/
def readGroup (group : List Char) : Except IdentityError Nat :=
  let value? := if group.length = 3 then Text.hexValue? group else none
  match value?.filter (· < indexSpace) with
  | some value => .ok value
  | none => .error (.malformed (.badGroup (String.ofList group)))

namespace Signer

def issue (signer : Signer) : Issuer := fun record =>
  if signer.secret.isEmpty then .error (.unavailable "empty signing secret")
  else .ok (writeGroups (record.indices ++ [signer.checksum record.indices]))

/-- The record of a token that this signer issued. -/
def verify (signer : Signer) (token : String) : Except IdentityError Record := do
  let indices ← (Text.split '-' token.toList).mapM readGroup
  if indices.length ≠ 12 then
    throw (.malformed (.groupCount indices.length))
  if signer.checksum (indices.take 11) ≠ indices.getD 11 0 then
    throw .checksumMismatch
  return .ofIndices fun i => indices.getD i 0

end Signer

end SensorNode.Identity
