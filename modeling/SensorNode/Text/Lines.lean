/-!
# Separated text and lines

`split` cuts a text at each separator, `join` puts one between its parts. A line ends with a line
feed or with a carriage return and a line feed; text after the last line feed is a line too, unless
it is empty.
-/

namespace SensorNode.Text

/-- The parts between separators; one more than there are separators. -/
def split (separator : Char) : List Char → List (List Char)
  | [] => [[]]
  | c :: cs =>
    if c = separator then [] :: split separator cs
    else match split separator cs with
      | [] => [[c]]
      | part :: parts => (c :: part) :: parts

theorem split_ne_nil (separator : Char) (cs : List Char) : split separator cs ≠ [] := by
  cases cs with
  | nil => simp [split]
  | cons c cs =>
    simp only [split]
    split
    · simp
    · split <;> simp

def splitText (separator : Char) (s : String) : List String :=
  (split separator s.toList).map String.ofList

/-- The parts with the separator between each two of them. -/
def join (separator : String) : List String → String
  | [] => ""
  | [part] => part
  | part :: next :: parts => part ++ separator ++ join separator (next :: parts)

@[simp] theorem join_nil (separator : String) : join separator [] = "" := rfl

@[simp] theorem join_singleton (separator part : String) : join separator [part] = part := rfl

theorem join_cons_cons (separator part next : String) (parts : List String) :
    join separator (part :: next :: parts) =
      part ++ separator ++ join separator (next :: parts) := rfl

/-- A line without the carriage return of its line end. -/
def dropReturn (line : List Char) : List Char :=
  if line.getLast? = some '\r' then line.dropLast else line

def lines (cs : List Char) : List (List Char) :=
  let parts := split '\n' cs
  parts.dropLast.map dropReturn ++ parts.getLast?.toList.filter fun last => !last.isEmpty

/-- Set every line that is not empty `width` spaces to the right. -/
def indent (width : Nat) (s : String) : String :=
  join "\n" <| (lines s.toList).map fun line =>
    if line.isEmpty then "" else String.ofList (List.replicate width ' ' ++ line)

/-- Every line with a line feed at its end. -/
def ended (lines : List String) : String := String.join (lines.map (· ++ "\n"))

theorem ended_append (xs ys : List String) : ended (xs ++ ys) = ended xs ++ ended ys := by
  simp [ended]

/-- Spaces behind a text up to a width. -/
def padRight (width : Nat) (s : String) : String :=
  s ++ String.ofList (List.replicate (width - s.length) ' ')

example : lines "a\r\nb\n\nc\r".toList = ["a".toList, "b".toList, [], "c\r".toList] := by
  decide +kernel

example : indent 2 "a;\n\nb;\n" = "  a;\n\n  b;" := by decide +kernel

end SensorNode.Text
