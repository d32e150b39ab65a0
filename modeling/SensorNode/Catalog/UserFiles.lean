import SensorNode.Catalog.Check
import SensorNode.Files.Access
import SensorNode.Json.Reader
import SensorNode.Peripheral.Document
import SensorNode.Text.Quoted

/-!
# Catalog files of users

A user keeps peripherals of their own in a directory with one document a file. The files are taken
in the order of their names; what cannot be read or is faulty is reported and left out, and a
peripheral replaces the one that has its id.
-/

namespace SensorNode

namespace Peripheral

/-- The peripheral of a file, checked. -/
def ofFile (path : String) (content : ByteArray) : Except CatalogError Peripheral :=
  match String.fromUTF8? content with
  | none => .error (.file .notUtf8)
  | some text =>
    match (Json.read? text).bind ofJson? with
    | none => .error (.unreadable path)
    | some peripheral => peripheral.check.map fun _ => peripheral

def load {m : Type → Type} [Monad m] (files : FileAccess m) (path : String) :
    m (Except CatalogError Peripheral) := do
  match ← files.read path with
  | .error error => return .error (.file error)
  | .ok content => return ofFile path content

end Peripheral

namespace Catalog

/-- Why something in a directory is left out. -/
inductive LoadFailure where
  | notADirectory (path : String)
  | unreadableDirectory (path : String) (error : FileError)
  | entry (name : String) (error : CatalogError)
deriving DecidableEq, Repr

namespace LoadFailure

def message : LoadFailure → String
  | notADirectory path => Text.quotedName path ++ " is not a directory"
  | unreadableDirectory path error =>
    "Failed to read directory " ++ Text.quotedName path ++ ": " ++ error.message
  | entry name error => "Failed to load Some(" ++ Text.quotedName name ++ "): " ++ error.message

end LoadFailure

/-- What a directory holds. -/
structure UserFiles where
  peripherals : List Peripheral
  failures : List LoadFailure
  /-- What is logged on the way. -/
  records : List Log.Record

namespace UserFiles

/-- Nothing but a failure. -/
def failed (failure : LoadFailure) : UserFiles := ⟨[], [failure], []⟩

/-- The names of catalog files among those of a directory, in order. -/
def fileNames (names : List String) : List String :=
  (names.filter isJsonName).mergeSort fun a b => a ≤ b

/-- What is logged about a file. -/
def record (name : String) : Except CatalogError Peripheral → Log.Record
  | .ok peripheral =>
    Log.info ("Loaded module '" ++ peripheral.id ++ "' from Some(" ++ Text.quotedName name ++ ")")
  | .error error => Log.warning (LoadFailure.entry name error).message

/-- Divide the outcomes of files by success and failure. -/
def ofOutcomes (outcomes : List (String × Except CatalogError Peripheral)) : UserFiles where
  peripherals := outcomes.filterMap fun outcome => outcome.2.toOption
  failures := outcomes.filterMap fun outcome =>
    match outcome.2 with
    | .ok _ => none
    | .error error => some (.entry outcome.1 error)
  records := outcomes.map fun outcome => record outcome.1 outcome.2

def load {m : Type → Type} [Monad m] (files : FileAccess m) (directory : String) :
    m UserFiles := do
  if ← files.isDirectory directory then
    match ← files.names directory with
    | .error error => return failed (.unreadableDirectory directory error)
    | .ok names =>
      let outcomes ← (fileNames names).mapM fun name => do
        return (name, ← Peripheral.load files (joinPath directory name))
      return ofOutcomes outcomes
  else return failed (.notADirectory directory)

end UserFiles

/-- Put in the peripherals of a directory, and tell what was left out. -/
def loadDirectory {m : Type → Type} [Monad m] (catalog : Catalog) (files : FileAccess m)
    (directory : String) : m (Catalog × List LoadFailure) := do
  let loaded ← UserFiles.load files directory
  return (catalog.putAll loaded.peripherals, loaded.failures)

end Catalog

end SensorNode
