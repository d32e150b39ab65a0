import SensorNode.Json.Reader

/-!
# Decoding documents

A record is written as an object with a member for each field, or as an array with the fields in
their declared order, of which the last ones may be missing. Members that are no field are ignored
whatever they hold; a field that is given twice makes the record unreadable. Nothing is converted:
an integer field takes neither a fraction nor an exponent, and `null` stands for no field but an
optional one.
-/

namespace SensorNode.Json

/-- An integer without sign below a bound. Minus zero counts as a number with a sign. -/
def natBelow? (bound : Nat) : Json → Option Nat
  | number ⟨false, whole, none, none⟩ =>
    (some (Nat.ofDigitChars 10 whole 0)).filter (· < bound)
  | _ => none

def uint8? (json : Json) : Option UInt8 := (natBelow? UInt8.size json).map UInt8.ofNat

def uint16? (json : Json) : Option UInt16 := (natBelow? UInt16.size json).map UInt16.ofNat

def uint32? (json : Json) : Option UInt32 := (natBelow? UInt32.size json).map UInt32.ofNat

def bool? : Json → Option Bool
  | bool value => some value
  | _ => none

def text? : Json → Option String
  | string value => value
  | _ => none

/-- The word for one of finitely many choices; an object that gives it `null` names it too. -/
def tag? : Json → Option String
  | string value => value
  | object [(name, null)] => name
  | _ => none

def choice? {α : Type} (ofTag? : String → Option α) (json : Json) : Option α :=
  json.tag?.bind ofTag?

def list? {α : Type} (item? : Json → Option α) : Json → Option (List α)
  | array items => items.mapM item?
  | _ => none

/-- A value, or `null` for none. -/
def optional? {α : Type} (value? : Json → Option α) : Json → Option (Option α)
  | null => some none
  | json => (value? json).map some

/-- The fields of a record that are given, by name. -/
abbrev Fields := List (String × Json)

/-- The members by name, unless a name is no text. -/
def namedMembers? (members : List (Option String × Json)) : Option Fields :=
  members.mapM fun member => member.1.map fun name => (name, member.2)

/-- The given fields of a record with the declared field names. -/
def fields? (names : List String) : Json → Option Fields
  | object members => do
    let fields := (← namedMembers? members).filter fun field => field.1 ∈ names
    guard (fields.map Prod.fst).Nodup
    return fields
  | array items => if items.length ≤ names.length then some (names.zip items) else none
  | _ => none

namespace Fields

def required {α : Type} (fields : Fields) (name : String) (value? : Json → Option α) : Option α :=
  (fields.lookup name).bind value?

def withDefault {α : Type} (fields : Fields) (name : String) (value? : Json → Option α)
    (default : α) : Option α :=
  match fields.lookup name with
  | none => some default
  | some json => value? json

/-- An optional field; a missing one holds nothing. -/
def optional {α : Type} (fields : Fields) (name : String) (value? : Json → Option α) :
    Option (Option α) :=
  fields.withDefault name (optional? value?) none

end Fields

end SensorNode.Json
