/-!
# Blank text

White space is the Unicode property `White_Space`: twenty-five characters in ten ranges. A text is
blank when it holds nothing else, and trimming takes such characters off both ends.
-/

namespace SensorNode.Text

/-- The ranges of the Unicode property `White_Space`, first and last code point. -/
def spaceRanges : List (Nat × Nat) :=
  [(0x9, 0xD), (0x20, 0x20), (0x85, 0x85), (0xA0, 0xA0), (0x1680, 0x1680), (0x2000, 0x200A),
    (0x2028, 0x2029), (0x202F, 0x202F), (0x205F, 0x205F), (0x3000, 0x3000)]

def isSpace (c : Char) : Bool :=
  spaceRanges.any fun range => range.1 ≤ c.toNat && c.toNat ≤ range.2

def isBlank (s : String) : Bool := s.toList.all isSpace

theorem isBlank_eq_false_iff {s : String} :
    isBlank s = false ↔ ∃ c ∈ s.toList, isSpace c = false := by
  simp [isBlank]

/-- Take white space off both ends. -/
def trimChars (cs : List Char) : List Char :=
  ((cs.dropWhile isSpace).reverse.dropWhile isSpace).reverse

def trim (s : String) : String := String.ofList (trimChars s.toList)

@[simp] theorem toList_trim (s : String) : (trim s).toList = trimChars s.toList := by
  simp [trim]

example : trim "\t node \u3000" = "node" := by decide +kernel

end SensorNode.Text
