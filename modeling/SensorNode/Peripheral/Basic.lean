import SensorNode.Board.Basic

/-!
# Peripherals

A peripheral is what can be wired to a board: the pins it needs and the source fragments it adds to
a sketch. Fragments are templates; their slots are filled for each attachment.
-/

namespace SensorNode

inductive Category where
  | environmental
  | security
  | actuator
  | power
  | identity
  | display
deriving DecidableEq, Repr

namespace Category

def all : List Category := [environmental, security, actuator, power, identity, display]

def tag : Category → String
  | environmental => "environmental"
  | security => "security"
  | actuator => "actuator"
  | power => "power"
  | identity => "identity"
  | display => "display"

def ofTag? (s : String) : Option Category := all.find? fun category => category.tag = s

theorem ofTag?_tag (category : Category) : ofTag? category.tag = some category := by
  cases category <;> decide +kernel

end Category

/-- Whether a peripheral publishes data, receives commands, or does neither. -/
inductive Topic where
  | telemetry
  | command
  | none
deriving DecidableEq, Repr

namespace Topic

def tag : Topic → String
  | telemetry => "telemetry"
  | command => "command"
  | none => "none"

def ofTag? (s : String) : Option Topic :=
  [telemetry, command, none].find? fun topic => topic.tag = s

theorem ofTag?_tag (topic : Topic) : ofTag? topic.tag = some topic := by
  cases topic <;> decide +kernel

end Topic

structure Peripheral where
  id : String
  name : String
  description : String := ""
  category : Category
  /-- One capability for each pin that the peripheral needs. -/
  requires : List Capability
  bus : Option Bus := none
  /-- The current in mA that the peripheral usually draws. -/
  current : Float32 := 0
  includes : List String := []
  /-- Declares the globals of an attachment. -/
  constructor : String
  /-- Runs once. -/
  setup : String := ""
  /-- Runs on every turn of the loop. -/
  loop : Option String := none
  topic : Topic := .none
  telemetryField : Option String := none
  /-- Reads the sensor and sends what it read. -/
  telemetryRead : Option String := none
  /-- Handles a command; without it a command switches the first pin. -/
  command : Option String := none
  commandOn : Option String := none
  commandOff : Option String := none
  /-- The ids of the libraries that the fragments need. -/
  libraries : List String := []
deriving DecidableEq

/-- A source fragment of a peripheral. -/
inductive Fragment where
  | constructor
  | setup
  | loop
  | telemetryRead
  | command
  | includes
deriving DecidableEq, Repr

namespace Fragment

def name : Fragment → String
  | constructor => "constructor"
  | setup => "setup"
  | loop => "loop"
  | telemetryRead => "telemetry_read"
  | command => "command"
  | includes => "includes"

end Fragment

namespace Peripheral

/-- The number of pins that an attachment of the peripheral has. -/
def arity (peripheral : Peripheral) : Nat :=
  if peripheral.bus = some .i2c then 2 else peripheral.requires.length

def isTelemetry (peripheral : Peripheral) : Bool :=
  peripheral.topic = .telemetry && peripheral.telemetryField.isSome
    && peripheral.telemetryRead.isSome

def isCommand (peripheral : Peripheral) : Bool := peripheral.topic = .command

/-- The levels that switch the peripheral on and off. -/
def levels (peripheral : Peripheral) : String × String :=
  (peripheral.commandOn.getD "HIGH", peripheral.commandOff.getD "LOW")

/-- The fragments that are templates, those that the peripheral has. -/
def fragments (peripheral : Peripheral) : List (Fragment × String) :=
  [(.constructor, peripheral.constructor), (.setup, peripheral.setup)]
    ++ (peripheral.loop.toList.map (Fragment.loop, ·))
    ++ (peripheral.telemetryRead.toList.map (Fragment.telemetryRead, ·))
    ++ (peripheral.command.toList.map (Fragment.command, ·))

end Peripheral

end SensorNode
