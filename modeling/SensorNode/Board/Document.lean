import SensorNode.Board.Basic
import SensorNode.Json.Decode

/-!
# Board documents

The form of boards in catalog files and answers.
-/

namespace SensorNode

namespace Capability

def toJson (capability : Capability) : Json := .text capability.tag

def ofJson? : Json → Option Capability := Json.choice? ofTag?

end Capability

namespace Pin

def fieldNames : List String :=
  ["gpio", "label", "capabilities", "adc_channel", "restricted", "restriction_reason",
    "boot_state"]

def toJson (pin : Pin) : Json := .record
  [("gpio", .nat pin.gpio.toNat),
    ("label", .text pin.label),
    ("capabilities", .list Capability.toJson pin.capabilities),
    ("adc_channel", .optional (fun channel => .nat channel.toNat) pin.adcChannel),
    ("restricted", .bool pin.restricted),
    ("restriction_reason", .optional .text pin.restrictionReason),
    ("boot_state", .optional (fun state => .text state.tag) pin.bootState)]

def ofJson? (json : Json) : Option Pin := do
  let fields ← json.fields? fieldNames
  return {
    gpio := ← fields.required "gpio" Json.uint8?
    label := ← fields.required "label" Json.text?
    capabilities := ← fields.required "capabilities" (Json.list? Capability.ofJson?)
    adcChannel := ← fields.optional "adc_channel" Json.uint8?
    restricted := ← fields.withDefault "restricted" Json.bool? false
    restrictionReason := ← fields.optional "restriction_reason" Json.text?
    bootState := ← fields.optional "boot_state" (Json.choice? BootState.ofTag?) }

end Pin

namespace I2cPins

def fieldNames : List String := ["sda", "scl"]

def toJson (pins : I2cPins) : Json := .record
  [("sda", .nat pins.sda.toNat), ("scl", .nat pins.scl.toNat)]

def ofJson? (json : Json) : Option I2cPins := do
  let fields ← json.fields? fieldNames
  return {
    sda := ← fields.required "sda" Json.uint8?
    scl := ← fields.required "scl" Json.uint8? }

end I2cPins

namespace SpiPins

def fieldNames : List String := ["mosi", "miso", "clk", "cs"]

def toJson (pins : SpiPins) : Json := .record
  [("mosi", .nat pins.mosi.toNat), ("miso", .nat pins.miso.toNat), ("clk", .nat pins.clk.toNat),
    ("cs", .nat pins.cs.toNat)]

def ofJson? (json : Json) : Option SpiPins := do
  let fields ← json.fields? fieldNames
  return {
    mosi := ← fields.required "mosi" Json.uint8?
    miso := ← fields.required "miso" Json.uint8?
    clk := ← fields.required "clk" Json.uint8?
    cs := ← fields.required "cs" Json.uint8? }

end SpiPins

namespace Board

def fieldNames : List String :=
  ["id", "name", "mcu", "pins", "default_i2c", "default_spi", "max_current_total_ma"]

def toJson (board : Board) : Json := .record
  [("id", .text board.id),
    ("name", .text board.name),
    ("mcu", .text board.mcu.tag),
    ("pins", .list Pin.toJson board.pins),
    ("default_i2c", board.i2c.toJson),
    ("default_spi", board.spi.toJson),
    ("max_current_total_ma", .optional (fun current => .nat current.toNat) board.maxCurrent)]

def ofJson? (json : Json) : Option Board := do
  let fields ← json.fields? fieldNames
  return {
    id := ← fields.required "id" Json.text?
    name := ← fields.required "name" Json.text?
    mcu := ← fields.required "mcu" (Json.choice? Mcu.ofTag?)
    pins := ← fields.required "pins" (Json.list? Pin.ofJson?)
    i2c := ← fields.required "default_i2c" I2cPins.ofJson?
    spi := ← fields.required "default_spi" SpiPins.ofJson?
    maxCurrent := ← fields.optional "max_current_total_ma" Json.uint32? }

end Board

end SensorNode
