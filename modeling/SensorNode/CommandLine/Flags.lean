/-!
# Flags

The flags of a command in an argument list. A flag has a long name, and may have a letter; it takes
a value or takes none. A value stands behind an equals sign, directly behind the letter, or in the
next argument, where it must not look like a flag. Letters can be written together, and only the
last of them may take a value. There are no other arguments; two hyphens may end the list.
-/

namespace SensorNode.CommandLine

structure Flag where
  name : String
  letter : Option Char := none
  takesValue : Bool := true
  /-- Whether the flag may be given more than once. -/
  repeats : Bool := false
deriving DecidableEq, Repr

/-- The given flags in order, by name; one without a value has an empty one. -/
abbrev Given := List (String × String)

namespace Given

def has (given : Given) (name : String) : Bool := given.any fun flag => flag.1 = name

def value? (given : Given) (name : String) : Option String := given.lookup name

def values (given : Given) (name : String) : List String :=
  given.filterMap fun flag => if flag.1 = name then some flag.2 else none

end Given

namespace Flag

/-- What one argument gives, and the flag whose value the next argument has to be. -/
structure Reading where
  given : Given
  pending : Option String
deriving DecidableEq, Repr

/-- Read a flag by its name, behind two hyphens. -/
def readName? (flags : List Flag) (cs : List Char) : Option Reading := do
  let name := String.ofList (cs.takeWhile (· ≠ '='))
  let flag ← flags.find? fun flag => flag.name = name
  match cs.dropWhile (· ≠ '='), flag.takesValue with
  | [], true => return ⟨[], some name⟩
  | [], false => return ⟨[(name, "")], none⟩
  | _ :: value, true => return ⟨[(name, String.ofList value)], none⟩
  | _ :: _, false => none

/-- The value behind a letter, without an equals sign between them. -/
def attachedValue : List Char → String
  | '=' :: value => String.ofList value
  | value => String.ofList value

/-- Read flags by their letters, behind one hyphen. -/
def readLetters? (flags : List Flag) : List Char → Option Reading
  | [] => some ⟨[], none⟩
  | c :: cs => do
    let flag ← flags.find? fun flag => flag.letter = some c
    if flag.takesValue then
      if cs.isEmpty then return ⟨[], some flag.name⟩
      else return ⟨[(flag.name, attachedValue cs)], none⟩
    else
      let reading ← readLetters? flags cs
      return { reading with given := (flag.name, "") :: reading.given }

def read? (flags : List Flag) (argument : String) : Option Reading :=
  match argument.toList with
  | '-' :: '-' :: cs => readName? flags cs
  | '-' :: c :: cs => readLetters? flags (c :: cs)
  | _ => none

/-- Whether an argument of its own can be a value: a hyphen alone can, a flag cannot. -/
def isValue (argument : String) : Bool :=
  match argument.toList with
  | '-' :: _ :: _ => false
  | _ => true

/-- The flags in a list of arguments. -/
def scan? (flags : List Flag) : List String → Option Given
  | [] => some []
  | argument :: rest =>
    if argument = "--" && rest.isEmpty then some []
    else do
      let reading ← read? flags argument
      match reading.pending, rest with
      | none, rest => return reading.given ++ (← scan? flags rest)
      | some name, value :: rest =>
        guard (isValue value)
        return reading.given ++ (name, value) :: (← scan? flags rest)
      | some _, [] => none

/-- The flags in a list of arguments, unless one is given twice that must not be. -/
def given? (flags : List Flag) (arguments : List String) : Option Given := do
  let given ← scan? flags arguments
  let single := flags.filter fun flag => !flag.repeats
  guard (single.all fun flag => (given.values flag.name).length ≤ 1)
  return given

end Flag

end SensorNode.CommandLine
