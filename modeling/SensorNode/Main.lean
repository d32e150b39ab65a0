import SensorNode.CommandLine.Run

/-!
# The program

Runs the command line on the files of the machine, with random ids.
-/

namespace SensorNode

namespace FileError

/-- The kind of an error of the machine. -/
def ofMachine (error : IO.Error) : FileError :=
  match error with
  | .noFileOrDirectory .. => .notFound
  | .inappropriateType _ code _ =>
    if code = 20 then .notADirectory else .isADirectory
  | error => .other (toString error)

end FileError

namespace FileAccess

/-- Hand an error of the machine back as a value. -/
def attempt {α : Type} (action : IO α) : IO (Except FileError α) := do
  match ← action.toBaseIO with
  | .ok value => return .ok value
  | .error error => return .error (.ofMachine error)

/-- The files of the machine. -/
def machine : FileAccess IO where
  isDirectory path := do
    if path.isEmpty then return false
    ((← IO.currentDir) / path).isDir
  names path := attempt do
    let entries ← ((← IO.currentDir) / path).readDir
    return entries.toList.map fun entry => entry.fileName
  read path := attempt (IO.FS.readBinFile path)
  write path content := attempt (IO.FS.writeFile path content)

end FileAccess

/-- An id of sixteen random bytes. -/
def drawId : IO AttachmentId := do
  let bytes ← IO.getRandomBytes 16
  return .ofRandom (BitVec.ofNat 128 (bytes.foldl (fun n byte => 256 * n + byte.toNat) 0))

/-- As many ids as a command with some arguments can need. -/
def drawIds (arguments : List String) : IO (Nat → AttachmentId) := do
  let ids ← (List.range (arguments.length + 2)).mapM fun _ => drawId
  return fun k => ids.getD k ⟨0⟩

/-- The levels that a setting of the log can name, from the one that shows least. -/
def logFilters : List (String × (Log.Record → Bool)) :=
  [("off", fun _ => false),
    ("error", fun _ => false),
    ("warn", Log.Record.isWarning),
    ("info", fun record => record.level ≠ .debug),
    ("debug", fun _ => true),
    ("trace", fun _ => true)]

/-- The log of the machine. Its lines do not tell the time. -/
def machineLog (setting : Option String) : Log where
  filter := setting.bind fun name => logFilters.lookup name
  line _ record :=
    let level := match record.level with
      | .debug => "DEBUG "
      | .info => " INFO "
      | .warning => " WARN "
    level ++ Text.join " " (record.text :: record.values.map fun value =>
      value.1 ++ "=" ++ value.2)

end SensorNode

open SensorNode in
def main (arguments : List String) : IO UInt32 := do
  let environment : CommandLine.Environment :=
    { password := ← IO.getEnv "GRIDFORGE_WIFI_PASSWORD"
      identitySecret := ← IO.getEnv "GRIDFORGE_IDENTITY_SECRET" }
  let outcome ← CommandLine.run .machine (← drawIds arguments) environment arguments
  let verbose := (CommandLine.Command.read? environment arguments).any CommandLine.Command.verbose
  IO.eprint (outcome.errorText (machineLog (← IO.getEnv "RUST_LOG")) verbose)
  IO.print outcome.output
  return .ofNat outcome.exitCode
