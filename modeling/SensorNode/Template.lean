import SensorNode.Distinct

/-!
# Templates

A template is a text with slots. In a source text a slot is a name between double braces, the name
an upper-case ASCII letter followed by upper-case letters, digits and underscores. Every other
character, braces included, stands for itself, so a C initializer such as a zero in double braces is
no slot.

`parse` cuts a source into its characters and slots, `names` lists the slots, and `fill` puts a
value into every slot or tells which names have none.

## Implementation notes

`parseAfter` recurses on the text alone: the characters of a slot that was just found are counted
and passed over. A value is copied as it stands and never searched for slots.
-/

namespace SensorNode

/-- Values for slot names; the latest value of a name counts. -/
structure Substitutions where
  entries : List (String × String)
deriving DecidableEq, Repr

namespace Substitutions

def empty : Substitutions := ⟨[]⟩

def set (values : Substitutions) (name value : String) : Substitutions :=
  ⟨(name, value) :: values.entries⟩

def get? (values : Substitutions) (name : String) : Option String := values.entries.lookup name

def setAll (values : Substitutions) (entries : List (String × String)) : Substitutions :=
  entries.foldl (fun current entry => current.set entry.1 entry.2) values

def ofList (entries : List (String × String)) : Substitutions := empty.setAll entries

@[simp] theorem get?_empty (name : String) : empty.get? name = none := rfl

@[simp] theorem get?_set (values : Substitutions) (name value key : String) :
    (values.set name value).get? key = if key = name then some value else values.get? key := by
  simp only [get?, set, List.lookup_cons]
  by_cases h : key = name
  · simp [h]
  · simp [h, beq_eq_false_iff_ne.mpr h]

end Substitutions

namespace Template

/-- A character that stands for itself, or a slot. -/
inductive Piece where
  | char (c : Char)
  | slot (name : String)
deriving DecidableEq, Repr

/-- The source text of a slot. -/
def slotText (name : String) : String := "\x7b\x7b" ++ name ++ "\x7d\x7d"

namespace Piece

/-- The characters a piece is written with. -/
def source : Piece → List Char
  | char c => [c]
  | slot name => (slotText name).toList

def name? : Piece → Option String
  | char _ => none
  | slot name => some name

end Piece

end Template

abbrev Template := List Template.Piece

namespace Template

/-- A text without slots, whatever braces it holds. -/
def literal (s : String) : Template := s.toList.map .char

def slot (name : String) : Template := [.slot name]

def isNameChar (c : Char) : Bool := c.isUpper || c.isDigit || c = '_'

def isName : List Char → Bool
  | [] => false
  | c :: cs => c.isUpper && cs.all isNameChar

/-- The name of the slot that the text starts with. -/
def slotName? : List Char → Option (List Char)
  | '\x7b' :: '\x7b' :: cs =>
    let name := cs.takeWhile isNameChar
    match cs.dropWhile isNameChar with
    | '\x7d' :: '\x7d' :: _ => if isName name then some name else none
    | _ => none
  | _ => none

/-- The template of a text of which the first `passed` characters belong to a slot before it. -/
def parseAfter : (passed : Nat) → List Char → Template
  | _, [] => []
  | passed + 1, _ :: cs => parseAfter passed cs
  | 0, c :: cs =>
    match slotName? (c :: cs) with
    | some name => .slot (String.ofList name) :: parseAfter (name.length + 3) cs
    | none => .char c :: parseAfter 0 cs

def parse (source : String) : Template := parseAfter 0 source.toList

/-- The names of the slots in order, each as often as it appears. -/
def slots (template : Template) : List String := template.filterMap Piece.name?

@[simp] theorem slots_append (a b : Template) : slots (a ++ b) = slots a ++ slots b := by
  simp [slots]

@[simp] theorem slots_literal (s : String) : slots (literal s) = [] := by
  simp [slots, literal, Piece.name?]

@[simp] theorem slots_slot (name : String) : slots (slot name) = [name] := rfl

/-- The names of the slots, each where it first appears. -/
def names (template : Template) : List String := distinct template.slots

/-- Fill the slots, or list the names without a value, each where it first appears. -/
def fillChars (values : Substitutions) : Template → Except (List String) (List Char)
  | [] => .ok []
  | .char c :: rest => (fillChars values rest).map (c :: ·)
  | .slot name :: rest =>
    match values.get? name, fillChars values rest with
    | some value, .ok text => .ok (value.toList ++ text)
    | some _, .error names => .error names
    | none, .ok _ => .error [name]
    | none, .error names => .error (name :: names.filter (· ≠ name))

def fill (values : Substitutions) (template : Template) : Except (List String) String :=
  (fillChars values template).map String.ofList

/-- The names of the slots in a source. -/
def placeholders (source : String) : List String := (parse source).names

/-- Put a value into every slot of a source, or list the names that have none. -/
def render (source : String) (values : Substitutions) : Except (List String) String :=
  (parse source).fill values

example : placeholders (slotText "B" ++ "\x7b" ++ slotText "A" ++ slotText "0" ++ slotText "B") =
    ["B", "A"] := by decide +kernel

end Template

end SensorNode
