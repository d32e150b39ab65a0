import SensorNode.Json.Basic
import SensorNode.Text.Digits

/-!
# Writing JSON

Compact on one line, or indented by two spaces a level with every item and member on a line of its
own. Only quotes, backslashes and control characters below U+0020 are escaped.
-/

namespace SensorNode.Json

def escapeChar (c : Char) : List Char :=
  if c = '"' then ['\\', '"']
  else if c = '\\' then ['\\', '\\']
  else if c = '\x08' then ['\\', 'b']
  else if c = '\x0c' then ['\\', 'f']
  else if c = '\n' then ['\\', 'n']
  else if c = '\r' then ['\\', 'r']
  else if c = '\t' then ['\\', 't']
  else if c.toNat < 32 then '\\' :: 'u' :: Text.fixedDigits 16 4 c.toNat
  else [c]

def quoted (s : String) : List Char := '"' :: s.toList.flatMap escapeChar ++ ['"']

/-- A string without text is written empty. -/
def quoted? (s : Option String) : List Char := quoted (s.getD "")

namespace Number

def literal (n : Number) : List Char :=
  (if n.negative then ['-'] else []) ++ n.whole ++
    (match n.fraction with
      | none => []
      | some digits => '.' :: digits) ++
    (match n.exponent with
      | none => []
      | some e => 'e' :: (if e.negative then ['-'] else ['+']) ++ e.digits)

end Number

mutual

def compactChars : Json → List Char
  | null => ['n', 'u', 'l', 'l']
  | bool true => ['t', 'r', 'u', 'e']
  | bool false => ['f', 'a', 'l', 's', 'e']
  | number n => n.literal
  | string s => quoted? s
  | array items => '[' :: compactItems items ++ [']']
  | object members => '\x7b' :: compactMembers members ++ ['\x7d']

def compactItems : List Json → List Char
  | [] => []
  | [item] => compactChars item
  | item :: next :: items => compactChars item ++ ',' :: compactItems (next :: items)

def compactMembers : List (Option String × Json) → List Char
  | [] => []
  | [(name, value)] => quoted? name ++ ':' :: compactChars value
  | (name, value) :: next :: members =>
    quoted? name ++ ':' :: compactChars value ++ ',' :: compactMembers (next :: members)

end

/-- A new line at a level. -/
def newLine (level : Nat) : List Char := '\n' :: List.replicate (2 * level) ' '

mutual

def prettyChars (level : Nat) : Json → List Char
  | null => ['n', 'u', 'l', 'l']
  | bool true => ['t', 'r', 'u', 'e']
  | bool false => ['f', 'a', 'l', 's', 'e']
  | number n => n.literal
  | string s => quoted? s
  | array [] => ['[', ']']
  | array (item :: items) =>
    '[' :: newLine (level + 1) ++ prettyChars (level + 1) item ++
      prettyItems (level + 1) items ++ newLine level ++ [']']
  | object [] => ['\x7b', '\x7d']
  | object ((name, value) :: members) =>
    '\x7b' :: newLine (level + 1) ++ quoted? name ++ ':' :: ' ' :: prettyChars (level + 1) value ++
      prettyMembers (level + 1) members ++ newLine level ++ ['\x7d']

/-- Items after the first, each with the comma before it. -/
def prettyItems (level : Nat) : List Json → List Char
  | [] => []
  | item :: items => ',' :: newLine level ++ prettyChars level item ++ prettyItems level items

def prettyMembers (level : Nat) : List (Option String × Json) → List Char
  | [] => []
  | (name, value) :: members =>
    ',' :: newLine level ++ quoted? name ++ ':' :: ' ' :: prettyChars level value ++
      prettyMembers level members

end

def compact (json : Json) : String := String.ofList json.compactChars

def pretty (json : Json) : String := String.ofList (json.prettyChars 0)

end SensorNode.Json
