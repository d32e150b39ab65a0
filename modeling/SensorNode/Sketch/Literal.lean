import SensorNode.Text.Digits

/-!
# C string literals

`escape` writes a text so that it can stand between double quotes in C: quote, backslash, line
feed, carriage return and tab have escapes of their own, any other ASCII control character is
written by three octal digits. Three are the most that C reads, so a digit that follows is never
drawn in; hexadecimal escapes have no such limit. `read?` reads a literal by the rules of C.
-/

namespace SensorNode.Sketch.Literal

def escapeChar (c : Char) : List Char :=
  if c = '\\' then ['\\', '\\']
  else if c = '"' then ['\\', '"']
  else if c = '\n' then ['\\', 'n']
  else if c = '\r' then ['\\', 'r']
  else if c = '\t' then ['\\', 't']
  else if c.toNat < 32 ∨ c.toNat = 127 then '\\' :: Text.fixedDigits 8 3 c.toNat
  else [c]

def escapeChars (cs : List Char) : List Char := cs.flatMap escapeChar

@[simp] theorem escapeChars_append (a b : List Char) :
    escapeChars (a ++ b) = escapeChars a ++ escapeChars b := by
  simp [escapeChars]

def escape (s : String) : String := String.ofList (escapeChars s.toList)

/-- The literal of a text, quotes included. -/
def quote (s : String) : String := "\"" ++ escape s ++ "\""

@[simp] theorem toList_quote (s : String) :
    (quote s).toList = '"' :: (escapeChars s.toList ++ ['"']) := by
  simp [quote, escape, String.toList_append]

def octalDigit? (c : Char) : Option Nat :=
  if '0' ≤ c ∧ c ≤ '7' then some (c.toNat - 48) else none

/-- The character of an escape that is one letter or mark long. -/
def simpleEscape? (c : Char) : Option Char :=
  if c = '\\' ∨ c = '"' then some c
  else if c = 'n' then some '\n'
  else if c = 'r' then some '\r'
  else if c = 't' then some '\t'
  else none

/-- Put a character before what was read after it. -/
def before (c : Char) (r : Option (List Char × List Char)) : Option (List Char × List Char) :=
  r.map fun read => (c :: read.1, read.2)

/-- The text of a literal whose opening quote is read, and what follows its closing quote. An
octal escape takes up to three digits; a line end inside the literal is an error. -/
def readBody? : List Char → Option (List Char × List Char)
  | [] => none
  | '"' :: rest => some ([], rest)
  | '\n' :: _ => none
  | '\\' :: rest =>
    match rest with
    | [] => none
    | a :: rest₁ =>
      match octalDigit? a with
      | none =>
        match simpleEscape? a with
        | none => none
        | some c => before c (readBody? rest₁)
      | some x =>
        match rest₁ with
        | [] => none
        | b :: rest₂ =>
          match octalDigit? b with
          | none => before (Char.ofNat x) (readBody? (b :: rest₂))
          | some y =>
            match rest₂ with
            | [] => none
            | c :: rest₃ =>
              match octalDigit? c with
              | none => before (Char.ofNat (8 * x + y)) (readBody? (c :: rest₃))
              | some z => before (Char.ofNat (64 * x + 8 * y + z)) (readBody? rest₃)
  | c :: rest => before c (readBody? rest)

/-- The text of the literal that stands at the front, and what follows it. -/
def read? : List Char → Option (List Char × List Char)
  | '"' :: rest => readBody? rest
  | _ => none

example : escape "say \"7\x01" = "say \\\"7\\001" := by decide +kernel

example : read? (quote "a\x017\"" ++ ";").toList = some ("a\x017\"".toList, [';']) := by
  decide +kernel

end SensorNode.Sketch.Literal
