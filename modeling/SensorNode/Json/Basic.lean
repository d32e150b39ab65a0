/-!
# JSON values

Numbers keep the form they were written in, since an integer and a number with a fraction or an
exponent are different things to a document. Members keep their order and may repeat a name. A
string is absent when its escapes stand for no Unicode text, as a lone surrogate does: such a
string is well formed, but nothing can be read from it.
-/

namespace SensorNode.Json

structure Exponent where
  negative : Bool
  digits : List Char
deriving DecidableEq, Repr

/-- A number as it was written. The digits are decimal and without superfluous leading zeros in
`whole`. -/
structure Number where
  negative : Bool
  whole : List Char
  fraction : Option (List Char)
  exponent : Option Exponent
deriving DecidableEq, Repr

end SensorNode.Json

namespace SensorNode

inductive Json where
  | null
  | bool (value : Bool)
  | number (value : Json.Number)
  | string (value : Option String)
  | array (items : List Json)
  | object (members : List (Option String × Json))
deriving Repr

namespace Json

def text (s : String) : Json := string (some s)

/-- A natural number, as an integer. -/
def nat (n : Nat) : Json := number ⟨false, (toString n).toList, none, none⟩

def optional {α : Type} (write : α → Json) : Option α → Json
  | none => null
  | some value => write value

def list {α : Type} (write : α → Json) (items : List α) : Json := array (items.map write)

/-- An object whose member names are known to be text. -/
def record (members : List (String × Json)) : Json :=
  object (members.map fun member => (some member.1, member.2))

end Json

end SensorNode
