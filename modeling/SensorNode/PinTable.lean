import SensorNode.Attachment.Basic

/-!
# Pin tables

A pin table says which pins of a board are reserved, by whom and what for. A pin is reserved on
request, or picked for a capability: the first free candidate of the board, where pins without
restriction may be given precedence over restricted ones.

## Implementation notes

`Request` and `Answer` describe one use of a table as a value, so that a whole history of uses is a
list and `run` a fold over it.
-/

namespace SensorNode

/-- Who holds a pin, and what for. -/
structure Holder where
  owner : AttachmentId
  /-- The name of the pin, a capability or a bus. -/
  function : String
deriving DecidableEq

inductive ReservationError where
  | conflict (gpio : Gpio) (holder : Holder)
  | unknownPin (gpio : Gpio) (board : String)
deriving DecidableEq

namespace ReservationError

def message : ReservationError → String
  | conflict gpio holder =>
    "GPIO " ++ toString gpio.toNat ++ " is already reserved by " ++ holder.owner.text ++ " as '"
      ++ holder.function ++ "'"
  | unknownPin gpio board =>
    "GPIO " ++ toString gpio.toNat ++ " does not exist on board '" ++ board ++ "'"

end ReservationError

/-- A pin that is taken. -/
structure Reservation extends Holder where
  gpio : Gpio
deriving DecidableEq

structure PinTable where
  board : Board
  /-- The reservations under the numbers of their pins. -/
  reserved : SortedMap Gpio Reservation
deriving DecidableEq

namespace PinTable

/-- The table of a board with every pin free. -/
def start (board : Board) : PinTable := ⟨board, .empty⟩

def reset (table : PinTable) : PinTable := start table.board

def reservation? (table : PinTable) (gpio : Gpio) : Option Reservation := table.reserved.get? gpio

def holder? (table : PinTable) (gpio : Gpio) : Option Holder :=
  (table.reservation? gpio).map Reservation.toHolder

def isFree (table : PinTable) (gpio : Gpio) : Bool := (table.holder? gpio).isNone

def hold (table : PinTable) (gpio : Gpio) (holder : Holder) : PinTable :=
  { table with reserved := table.reserved.insert gpio ⟨holder, gpio⟩ }

@[simp] theorem board_hold (table : PinTable) (gpio : Gpio) (holder : Holder) :
    (table.hold gpio holder).board = table.board := rfl

@[simp] theorem reservation?_hold (table : PinTable) (gpio : Gpio) (holder : Holder) (g : Gpio) :
    (table.hold gpio holder).reservation? g =
      if g = gpio then some ⟨holder, gpio⟩ else table.reservation? g := by
  simp [reservation?, hold]

@[simp] theorem holder?_hold (table : PinTable) (gpio : Gpio) (holder : Holder) (g : Gpio) :
    (table.hold gpio holder).holder? g =
      if g = gpio then some holder else table.holder? g := by
  by_cases h : g = gpio <;> simp [holder?, h]

@[simp] theorem reservation?_start (board : Board) (gpio : Gpio) :
    (start board).reservation? gpio = none := rfl

@[simp] theorem holder?_start (board : Board) (gpio : Gpio) : (start board).holder? gpio = none :=
  rfl

/-- The free pins with a capability, in board order. -/
def available (table : PinTable) (capability : Capability) : List Pin :=
  table.board.pins.filter fun pin => table.isFree pin.gpio && pin.can capability

/-- Reserve a pin. A holder may reserve again what it holds; nobody else may. -/
def reserve (table : PinTable) (gpio : Gpio) (holder : Holder) :
    Except ReservationError PinTable :=
  match table.holder? gpio with
  | some current => if current = holder then .ok table else .error (.conflict gpio current)
  | none =>
    if table.board.has gpio then .ok (table.hold gpio holder)
    else .error (.unknownPin gpio table.board.id)

/-- Reserve a pin if that is possible. -/
def tryReserve (table : PinTable) (gpio : Gpio) (holder : Holder) : PinTable :=
  match table.reserve gpio holder with
  | .ok next => next
  | .error _ => table

/-- Pins without restriction first, each kind in its own order. -/
def safeFirst (pins : List Pin) : List Pin :=
  pins.filter (!·.restricted) ++ pins.filter (·.restricted)

/-- The free pins with a capability in the order in which they are taken. -/
def candidates (table : PinTable) (capability : Capability) (preferSafe : Bool) : List Pin :=
  if preferSafe then safeFirst (table.available capability)
  else table.available capability

/-- Pick and reserve a pin for a capability. -/
def allocate? (table : PinTable) (owner : AttachmentId) (capability : Capability)
    (preferSafe : Bool) : Option (Gpio × PinTable) :=
  (table.candidates capability preferSafe).head?.map fun pin =>
    (pin.gpio, table.hold pin.gpio ⟨owner, capability.tag⟩)

inductive Request where
  | reserve (gpio : Gpio) (holder : Holder)
  | allocate (owner : AttachmentId) (capability : Capability) (preferSafe : Bool)
  | reset

inductive Answer where
  | done
  | refused (error : ReservationError)
  | picked (gpio : Option Gpio)
deriving DecidableEq

/-- Serve a request; a refused one leaves the table as it was. -/
def serve (table : PinTable) : Request → Answer × PinTable
  | .reserve gpio holder =>
    match table.reserve gpio holder with
    | .ok next => (.done, next)
    | .error error => (.refused error, table)
  | .allocate owner capability preferSafe =>
    match table.allocate? owner capability preferSafe with
    | some (gpio, next) => (.picked (some gpio), next)
    | none => (.picked none, table)
  | .reset => (.done, table.reset)

/-- The table after a history of requests. -/
def run (table : PinTable) (requests : List Request) : PinTable :=
  requests.foldl (fun current request => (current.serve request).2) table

end PinTable

end SensorNode
