import SensorNode.Files.Access
import SensorNode.Sketch.Basic

/-!
# Sketch files

A sketch is written where the user says; a directory receives it under its own file name.
-/

namespace SensorNode.Sketch

variable {m : Type → Type} [Monad m]

/-- The path of the file to write. -/
def filePath (sketch : Sketch) (files : FileAccess m) (output : String) : m String := do
  if ← files.isDirectory output then return joinPath output sketch.fileName
  else return output

/-- Write the sketch, and tell where. -/
def save (sketch : Sketch) (files : FileAccess m) (output : String) :
    m (Except FileError String) := do
  let path ← sketch.filePath files output
  return (← files.write path sketch.source).map fun _ => path

end SensorNode.Sketch
