import SensorNode.Catalog.Known
import SensorNode.Network
import SensorNode.Wiring

/-!
# Projects

A project is a board with the peripherals attached to it, the settings of its network and the token
of its identity. It changes by edits: an attachment is wired next to those that are there or not
made at all, one can be detached, and a change of the board drops them all, since their pins mean
nothing on another one.
-/

namespace SensorNode

structure Project where
  board : Board
  /-- In the order in which they were made. -/
  attachments : List Attachment
  network : Network
  /-- The token that the device announces, if it has one. -/
  identity : Option String
deriving DecidableEq

namespace Project

/-- A project with nothing attached, its device named after a random id. -/
def start (board : Board) (id : AttachmentId) : Project := ⟨board, [], .default id, none⟩

def attachment? (project : Project) (id : AttachmentId) : Option Attachment :=
  project.attachments.find? fun attachment => attachment.id = id

/-- The table in which the attachments hold their pins. -/
def pinTable (project : Project) : PinTable := .replay project.board project.attachments

/-- The attachment that a peripheral would get next. -/
def planned (project : Project) (catalog : Catalog) (id : AttachmentId) (peripheralId : String) :
    Except AllocationError Attachment :=
  match catalog.peripheral? peripheralId with
  | none => .error (.unknownPeripheral peripheralId)
  | some peripheral => planAttachment project.board project.attachments id peripheral

def attach (project : Project) (catalog : Catalog) (id : AttachmentId) (peripheralId : String) :
    Except AllocationError (Attachment × Project) :=
  (project.planned catalog id peripheralId).map fun attachment =>
    (attachment, { project with attachments := project.attachments ++ [attachment] })

/-- What is logged when a peripheral is attached. -/
def attachRecords (project : Project) (catalog : Catalog) (id : AttachmentId)
    (peripheralId : String) : List Log.Record :=
  match catalog.peripheral? peripheralId with
  | none => []
  | some peripheral =>
    PinTable.replayRecords project.board project.attachments ++
      project.pinTable.assignRecords id peripheral ++
      match project.planned catalog id peripheralId with
      | .error _ => []
      | .ok attachment =>
        [Log.info ("Added " ++ peripheral.id ++ " (" ++ attachment.shortId ++ ") on " ++
          attachment.pins.display)]

/-- Remove every attachment with an id. -/
def detach (project : Project) (id : AttachmentId) : Project :=
  { project with attachments := project.attachments.filter fun attachment => attachment.id ≠ id }

def switchBoard (project : Project) (catalog : Catalog) (boardId : String) : Project :=
  { project with board := catalog.boardOrDefault boardId, attachments := [] }

/-- The current in mA that the known attachments draw. The sum of nothing is minus zero. -/
def current (project : Project) (catalog : Catalog) : Float32 :=
  (catalog.known project.attachments).foldl (fun sum attached => sum + attached.2.current) (-0.0)

inductive Edit where
  | attach (id : AttachmentId) (peripheralId : String)
  | detach (id : AttachmentId)
  | switchBoard (boardId : String)
deriving DecidableEq, Repr

/-- The project after an edit; an attachment that cannot be wired changes nothing. -/
def apply (catalog : Catalog) (project : Project) : Edit → Project
  | .attach id peripheralId =>
    match project.attach catalog id peripheralId with
    | .ok attached => attached.2
    | .error _ => project
  | .detach id => project.detach id
  | .switchBoard boardId => project.switchBoard catalog boardId

def run (catalog : Catalog) (project : Project) (edits : List Edit) : Project :=
  edits.foldl (apply catalog) project

end Project

end SensorNode
