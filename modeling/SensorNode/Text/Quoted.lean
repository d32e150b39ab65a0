import SensorNode.Text.Printable

/-!
# Quoted names

Names in messages stand between double quotes. Quotes, backslashes, tabs, line ends and the null
character have escapes of their own; a character that would not show is given by its number.
-/

namespace SensorNode.Text

def escapeNameChar (c : Char) : List Char :=
  if c = '"' then ['\\', '"']
  else if c = '\\' then ['\\', '\\']
  else if c = '\t' then ['\\', 't']
  else if c = '\r' then ['\\', 'r']
  else if c = '\n' then ['\\', 'n']
  else if c = '\x00' then ['\\', '0']
  else if isPrintable c then [c]
  else ['\\', 'u', '\x7b'] ++ Nat.toDigits 16 c.toNat ++ ['\x7d']

def quotedName (s : String) : String :=
  "\"" ++ String.ofList (s.toList.flatMap escapeNameChar) ++ "\""

example : quotedName "a\"\x7f" = "\"a\\\"\\u\x7b7f\x7d\"" := by decide +kernel

end SensorNode.Text
