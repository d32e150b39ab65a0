/-!
# Boards

A development board is a table of header pins. Each pin is addressed by its GPIO number and lists
the electrical functions it can serve; a restricted pin can be used, but carries a hazard at boot or
shares its function with something else.
-/

namespace SensorNode

/-- An electrical function of a pin. -/
inductive Capability where
  | digitalIn
  | digitalOut
  | analogIn
  | analogOut
  | pwm
  | i2c
  | spi
  | uart
  | power
  | ground
deriving DecidableEq, Repr

namespace Capability

def all : List Capability :=
  [digitalIn, digitalOut, analogIn, analogOut, pwm, i2c, spi, uart, power, ground]

/-- The word for a capability in catalogs and reservations. -/
def tag : Capability → String
  | digitalIn => "digital-in"
  | digitalOut => "digital-out"
  | analogIn => "analog-in"
  | analogOut => "analog-out"
  | pwm => "pwm"
  | i2c => "i2c"
  | spi => "spi"
  | uart => "uart"
  | power => "power"
  | ground => "gnd"

def ofTag? (s : String) : Option Capability := all.find? fun capability => capability.tag = s

/-- The place of a capability in `all`. -/
def rank (capability : Capability) : Nat := all.idxOf capability

theorem ofTag?_tag (capability : Capability) : ofTag? capability.tag = some capability := by
  cases capability <;> decide +kernel

/-- Why a word is no capability. -/
def unknownMessage (s : String) : String := "unknown pin capability '" ++ s ++ "'"

end Capability

/-- A bus that a peripheral sits on instead of pins of its own. -/
inductive Bus where
  | i2c
  | spi
deriving DecidableEq, Repr

namespace Bus

def tag : Bus → String
  | i2c => "i2c"
  | spi => "spi"

def ofTag? (s : String) : Option Bus := [i2c, spi].find? fun bus => bus.tag = s

theorem ofTag?_tag (bus : Bus) : ofTag? bus.tag = some bus := by
  cases bus <;> decide +kernel

end Bus

/-- A family of microcontrollers; the headers of a sketch depend on it. -/
inductive Mcu where
  | esp32
  | esp8266
deriving DecidableEq, Repr

namespace Mcu

def tag : Mcu → String
  | esp32 => "esp32"
  | esp8266 => "esp8266"

def ofTag? (s : String) : Option Mcu := [esp32, esp8266].find? fun mcu => mcu.tag = s

theorem ofTag?_tag (mcu : Mcu) : ofTag? mcu.tag = some mcu := by
  cases mcu <;> decide +kernel

end Mcu

/-- The level of a pin while the board boots. -/
inductive BootState where
  | high
  | low
  | floating
deriving DecidableEq, Repr

namespace BootState

def tag : BootState → String
  | high => "high"
  | low => "low"
  | floating => "floating"

def ofTag? (s : String) : Option BootState := [high, low, floating].find? fun state => state.tag = s

theorem ofTag?_tag (state : BootState) : ofTag? state.tag = some state := by
  cases state <;> decide +kernel

end BootState

/-- The number of a pin in code. -/
abbrev Gpio := UInt8

structure Pin where
  gpio : Gpio
  /-- What is printed beside the pin. -/
  label : String
  capabilities : List Capability
  adcChannel : Option UInt8 := none
  /-- Usable, but only when nothing else is left. -/
  restricted : Bool := false
  restrictionReason : Option String := none
  bootState : Option BootState := none
deriving DecidableEq, Repr

namespace Pin

def can (pin : Pin) (capability : Capability) : Bool := capability ∈ pin.capabilities

end Pin

structure I2cPins where
  sda : Gpio
  scl : Gpio
deriving DecidableEq, Repr

structure SpiPins where
  mosi : Gpio
  miso : Gpio
  clk : Gpio
  cs : Gpio
deriving DecidableEq, Repr

structure Board where
  id : String
  name : String
  mcu : Mcu
  /-- The pins in declaration order; the first of equal candidates is taken. -/
  pins : List Pin
  i2c : I2cPins
  spi : SpiPins
  /-- The current in mA that the board can supply. -/
  maxCurrent : Option UInt32 := none
deriving DecidableEq, Repr

namespace Board

def pin? (board : Board) (gpio : Gpio) : Option Pin := board.pins.find? fun pin => pin.gpio = gpio

def has (board : Board) (gpio : Gpio) : Bool := (board.pin? gpio).isSome

def pinsWith (board : Board) (capability : Capability) : List Pin :=
  board.pins.filter fun pin => pin.can capability

/-- The label of a pin, or its number when it is not on the board. -/
def labelFor (board : Board) (gpio : Gpio) : String :=
  match board.pin? gpio with
  | some pin => pin.label
  | none => "GPIO" ++ toString gpio.toNat

/-- The pins of a bus that several peripherals can share. -/
def sharedBus? (board : Board) : Bus → Option (List Gpio)
  | .i2c => some [board.i2c.sda, board.i2c.scl]
  | .spi => none

end Board

end SensorNode
