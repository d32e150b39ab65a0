import SensorNode.Text.Blank

/-!
# Sketch file names

A sketch file is named after its device: the trimmed device id with every character that is no
ASCII letter, digit or underscore replaced by an underscore, or `firmware` when nothing is left.
-/

namespace SensorNode.Sketch

def isNameChar (c : Char) : Bool := c.isAlphanum || c = '_'

def fileStem (deviceId : String) : String :=
  let stem := (Text.trimChars deviceId.toList).map fun c => if isNameChar c then c else '_'
  if stem.isEmpty then "firmware" else String.ofList stem

def deviceFileName (deviceId : String) : String := fileStem deviceId ++ ".ino"

example : deviceFileName " node-7 lab\n" = "node_7_lab.ino" := by decide +kernel

end SensorNode.Sketch
