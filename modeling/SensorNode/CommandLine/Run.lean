import SensorNode.Catalog.Standard
import SensorNode.Catalog.UserFiles
import SensorNode.CommandLine.Command
import SensorNode.CommandLine.Listing
import SensorNode.CommandLine.Outcome
import SensorNode.CommandLine.Output
import SensorNode.Failure
import SensorNode.Identity.Token
import SensorNode.Project.Plan
import SensorNode.Sketch.File

/-!
# Running commands

A run reads and writes files through an access that it is given and takes ids from a numbered
supply, so that it is a function of both. It ends with the exit code 0, with 1 after a failure, and
with 2 when the arguments are no command. The version is told before there is a log.
-/

namespace SensorNode.CommandLine

namespace Outcome

def done (output : String) (notices : List Notice) : Outcome := ⟨0, output, notices⟩

/-- A run that fails ends with its error. -/
def failed (failure : Failure) (notices : List Notice) : Outcome :=
  ⟨1, "", notices ++ [.message ("Error: " ++ failure.message)]⟩

/-- The arguments are no command. -/
def refused : Outcome := ⟨2, "", [.message "Error: invalid arguments"]⟩

end Outcome

def versionText : String := "gridforge 0.1.0\n"

section

variable {m : Type → Type} [Monad m]

/-- What is told about the peripherals of a user: first the log of loading them, then a warning for
each that is left out. -/
def loadNotices (catalog : Catalog) (directory : String) (loaded : Catalog.UserFiles) :
    List Notice :=
  (⟨.debug, "loading user modules", [("dir", directory)]⟩ :: loaded.records ++
      catalog.putAllRecords loaded.peripherals).map Notice.record ++
    loaded.failures.map fun failure => .message ("Warning: " ++ failure.message)

/-- The standard catalog with the peripherals of a user. -/
def loadCatalog (files : FileAccess m) (directory : Option String) :
    m (Except Failure (Catalog × List Notice)) :=
  match Catalog.standard with
  | .error error => return .error (.catalog error)
  | .ok catalog =>
    match directory with
    | none => return .ok (catalog, [.record catalog.readyRecord])
    | some path => do
      let loaded ← Catalog.UserFiles.load files path
      return .ok (catalog.putAll loaded.peripherals,
        .record catalog.readyRecord :: loadNotices catalog path loaded)

/-- Do something with the standard catalog. -/
def withStandard (action : Catalog → String) : Outcome :=
  match Catalog.standard with
  | .error error => .failed (.catalog error) []
  | .ok catalog => .done (action catalog) [.record catalog.readyRecord]

def runBoards (verbose : Bool) : Outcome := withStandard (Listing.boards verbose)

def runPeripherals (category : Option Category) (verbose : Bool) : Outcome :=
  withStandard fun catalog =>
    Listing.peripherals verbose <|
      match category with
      | some category => catalog.inCategory category
      | none => catalog.peripherals

def runPlan (files : FileAccess m) (ids : Nat → AttachmentId) (selection : Selection)
    (format : Format) : m Outcome := do
  match ← loadCatalog files selection.catalogDirectory with
  | .error failure => return .failed failure []
  | .ok (catalog, loading) =>
    let planning := Project.planRecords catalog ids selection.boardId selection.peripheralIds
    let notices := loading ++ planning.map Notice.record
    match Project.planOrFailure catalog ids selection.boardId selection.peripheralIds with
    | .error failure => return .failed failure notices
    | .ok project =>
      let report := Report.ofProject catalog project
      match format with
      | .human => return .done (Output.plan report) notices
      | .json => return .done (Output.planJson report) notices

/-- The settings of the network, with a device named after an id if it has no name. -/
def Settings.network (settings : Settings) (id : AttachmentId) : Network where
  ssid := settings.ssid
  password := settings.password
  broker := settings.broker
  port := settings.port
  deviceId := settings.deviceId.getD (Network.defaultDeviceId id)

/-- The token of the device; a secret signs one for the usual record. -/
def IdentitySource.token? : IdentitySource → Option String
  | .unregistered => none
  | .token text => some text
  | .secret text => some (Identity.resolve (Identity.Signer.mk text).issue {})

def IdentitySource.records : IdentitySource → List Log.Record
  | .secret text => Identity.resolveRecords (Identity.Signer.mk text).issue {}
  | _ => []

/-- What is logged at the end of a run that generates. -/
def generatedRecord (project : Project) (sketch : Sketch) : Log.Record where
  level := .debug
  text := "firmware generated"
  values :=
    [("board", project.board.id),
      ("modules", toString project.attachments.length),
      ("bytes", toString sketch.source.utf8ByteSize)]

/-- Write a sketch if the user says where. -/
def saveTo (files : FileAccess m) (sketch : Sketch) :
    Option String → m (Except Failure (Option String))
  | none => return .ok none
  | some output => return ((← sketch.save files output).map some).mapError .file

/-- The first id names the device, the second is used up by the project, the others go to the
attachments. -/
def runGenerate (files : FileAccess m) (ids : Nat → AttachmentId) (selection : Selection)
    (settings : Settings) (format : Format) : m Outcome := do
  match ← loadCatalog files selection.catalogDirectory with
  | .error failure => return .failed failure []
  | .ok (catalog, loading) =>
    let attachmentIds := fun k => ids (k + 1)
    let planning :=
      Project.planRecords catalog attachmentIds selection.boardId selection.peripheralIds
    let planned := loading ++ planning.map Notice.record
    match Project.planOrFailure catalog attachmentIds selection.boardId
      selection.peripheralIds with
    | .error failure => return .failed failure planned
    | .ok project =>
      let network := settings.network (ids 0)
      let token := settings.identity.token?
      let generating := settings.identity.records ++
        Sketch.generateRecords catalog project.board project.attachments network token
      let notices := planned ++ generating.map Notice.record
      match Sketch.generate catalog project.board project.attachments network token with
      | .error error => return .failed (.render error) notices
      | .ok sketch =>
        match ← saveTo files sketch settings.output with
        | .error failure => return .failed failure notices
        | .ok written =>
          let told := notices ++ [.record (generatedRecord project sketch)]
          let report := Report.ofProject catalog project
          match format with
          | .human => return .done (Output.sketch report sketch written) told
          | .json => return .done (Output.sketchJson report sketch written) told

def runCommand (files : FileAccess m) (ids : Nat → AttachmentId) : Command → m Outcome
  | .version => return .done versionText []
  | .boards verbose => return runBoards verbose
  | .peripherals category verbose => return runPeripherals category verbose
  | .plan selection format _ => runPlan files ids selection format
  | .generate selection settings format _ => runGenerate files ids selection settings format

/-- Run the program with its arguments. -/
def run (files : FileAccess m) (ids : Nat → AttachmentId) (environment : Environment)
    (arguments : List String) : m Outcome :=
  match Command.read? environment arguments with
  | none => return .refused
  | some command => runCommand files ids command

end

end SensorNode.CommandLine
