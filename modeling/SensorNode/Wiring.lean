import SensorNode.Log
import SensorNode.PinTable
import SensorNode.Peripheral.Basic

/-!
# Wiring

How a new attachment gets its pins. The pin table is rebuilt from the attachments that are there, in
their order; then a peripheral on the shared bus gets the bus pins of the board, and any other one
gets a pin for each capability it needs.

Bus pins are handed out whether or not they are free: that several attachments hold them is what
sharing a bus means. The first holder keeps the reservation.
-/

namespace SensorNode

inductive AllocationError where
  | exhausted (peripheral : String) (capability : Capability)
  | busUnavailable (peripheral : String) (bus : Bus)
  | unknownPeripheral (id : String)
deriving DecidableEq, Repr

namespace AllocationError

def message : AllocationError → String
  | exhausted peripheral capability =>
    "Not enough '" ++ capability.tag ++ "' pins available for module '" ++ peripheral ++ "'"
  | busUnavailable peripheral bus =>
    bus.tag ++ " bus pins unavailable for module '" ++ peripheral ++ "'"
  | unknownPeripheral id => "Module definition '" ++ id ++ "' not found"

end AllocationError

namespace PinTable

/-- Reserve the recorded pins of an attachment as far as they are free. -/
def replayOne (table : PinTable) (attachment : Attachment) : PinTable :=
  attachment.pins.entries.foldl
    (fun current entry => current.tryReserve entry.2 ⟨attachment.id, entry.1⟩) table

/-- The table in which attachments hold the pins they record. -/
def replay (board : Board) (attachments : List Attachment) : PinTable :=
  attachments.foldl replayOne (start board)

/-- What is logged when pins are reserved as far as they are free: each refusal, behind the purpose
of the reservation. -/
def refusals (table : PinTable) : List (String × Gpio × Holder) → List Log.Record
  | [] => []
  | (purpose, gpio, holder) :: rest =>
    match table.reserve gpio holder with
    | .ok next => next.refusals rest
    | .error error => Log.debug (purpose ++ ": " ++ error.message) :: table.refusals rest

def replayRecords (board : Board) (attachments : List Attachment) : List Log.Record :=
  (start board).refusals <| attachments.flatMap fun attachment =>
    attachment.pins.entries.map fun entry =>
      ("Replay of " ++ attachment.peripheralId ++ " " ++ entry.1, entry.2,
        ⟨attachment.id, entry.1⟩)

/-- Pick a pin for each capability in turn, or tell for which one none is left. -/
def pick (owner : AttachmentId) : List Capability → PinTable →
    Except Capability (List Gpio × PinTable)
  | [], table => .ok ([], table)
  | capability :: rest, table =>
    match table.allocate? owner capability true with
    | none => .error capability
    | some (gpio, next) => (pick owner rest next).map fun picked => (gpio :: picked.1, picked.2)

/-- What is logged when pins are picked; the last capability may find none. -/
def pickRecords (owner : AttachmentId) : List Capability → PinTable → List Log.Record
  | [], _ => []
  | capability :: rest, table =>
    match (table.candidates capability true).head? with
    | none => []
    | some pin =>
      Log.debug ("Allocated GPIO " ++ toString pin.gpio.toNat ++ " (" ++ pin.label ++ ") for " ++
        capability.tag ++ " to " ++ owner.text ++ if pin.restricted then " [restricted]" else "")
      :: pickRecords owner rest (table.hold pin.gpio ⟨owner, capability.tag⟩)

/-- Share the pins of a bus. -/
def share (owner : AttachmentId) (bus : Bus) (pins : List Gpio) (table : PinTable) :
    PinTable :=
  pins.foldl (fun current gpio => current.tryReserve gpio ⟨owner, bus.tag⟩) table

/-- The pins for a new attachment of a peripheral. -/
def assignPins (table : PinTable) (id : AttachmentId) (peripheral : Peripheral) :
    Except AllocationError (List Gpio × PinTable) :=
  if peripheral.bus = some .i2c then
    match table.board.sharedBus? .i2c with
    | none => .error (.busUnavailable peripheral.id .i2c)
    | some pins => .ok (pins, table.share id .i2c pins)
  else
    (pick id peripheral.requires table).mapError (.exhausted peripheral.id)

def assignRecords (table : PinTable) (id : AttachmentId) (peripheral : Peripheral) :
    List Log.Record :=
  if peripheral.bus = some .i2c then
    match table.board.sharedBus? .i2c with
    | none => []
    | some pins =>
      table.refusals <| pins.map fun gpio =>
        ("Sharing i2c bus pin for " ++ peripheral.id, gpio, ⟨id, Bus.i2c.tag⟩)
  else pickRecords id peripheral.requires table

/-- Wire a new attachment of a peripheral. -/
def assign (table : PinTable) (id : AttachmentId) (peripheral : Peripheral) :
    Except AllocationError (Attachment × PinTable) :=
  (table.assignPins id peripheral).map fun assigned =>
    (⟨id, peripheral.id, .ofPins assigned.1⟩, assigned.2)

/-- Wire attachments one after the other with one table. -/
def assignAll (table : PinTable) :
    List (AttachmentId × Peripheral) → Except AllocationError (List Attachment)
  | [] => .ok []
  | (id, peripheral) :: rest =>
    match table.assign id peripheral with
    | .error error => .error error
    | .ok (attachment, next) => (next.assignAll rest).map (attachment :: ·)

end PinTable

/-- Wire a new attachment next to those that are there. -/
def planAttachment (board : Board) (attachments : List Attachment) (id : AttachmentId)
    (peripheral : Peripheral) : Except AllocationError Attachment :=
  ((PinTable.replay board attachments).assign id peripheral).map Prod.fst

/-- Wire a list of attachments to a board with every pin free. -/
def planBatch (board : Board) (requests : List (AttachmentId × Peripheral)) :
    Except AllocationError (List Attachment) :=
  (PinTable.start board).assignAll requests

end SensorNode
