import SensorNode.Board.Document
import SensorNode.Json.Single
import SensorNode.Peripheral.Basic

/-!
# Peripheral documents

The form of peripherals in catalog files and answers.
-/

namespace SensorNode.Peripheral

def fieldNames : List String :=
  ["id", "name", "description", "category", "requires", "bus", "power_consumption_ma", "includes",
    "constructor", "setup", "loop", "topic_type", "telemetry_field", "telemetry_read", "command",
    "command_on", "command_off", "libraries"]

/-- The document of a peripheral, its current in a form of choice. -/
def toJsonWith (current : String × Json) (peripheral : Peripheral) : Json := .record
  [("id", .text peripheral.id),
    ("name", .text peripheral.name),
    ("description", .text peripheral.description),
    ("category", .text peripheral.category.tag),
    ("requires", .list Capability.toJson peripheral.requires),
    ("bus", .optional (fun bus => .text bus.tag) peripheral.bus),
    current,
    ("includes", .list .text peripheral.includes),
    ("constructor", .text peripheral.constructor),
    ("setup", .text peripheral.setup),
    ("loop", .optional .text peripheral.loop),
    ("topic_type", .text peripheral.topic.tag),
    ("telemetry_field", .optional .text peripheral.telemetryField),
    ("telemetry_read", .optional .text peripheral.telemetryRead),
    ("command", .optional .text peripheral.command),
    ("command_on", .optional .text peripheral.commandOn),
    ("command_off", .optional .text peripheral.commandOff),
    ("libraries", .list .text peripheral.libraries)]

def toJson (peripheral : Peripheral) : Json :=
  peripheral.toJsonWith ("power_consumption_ma", .single peripheral.current)

def ofJson? (json : Json) : Option Peripheral := do
  let fields ← json.fields? fieldNames
  return {
    id := ← fields.required "id" Json.text?
    name := ← fields.required "name" Json.text?
    description := ← fields.withDefault "description" Json.text? ""
    category := ← fields.required "category" (Json.choice? Category.ofTag?)
    requires := ← fields.required "requires" (Json.list? Capability.ofJson?)
    bus := ← fields.optional "bus" (Json.choice? Bus.ofTag?)
    current := ← fields.withDefault "power_consumption_ma" Json.float32? 0
    includes := ← fields.withDefault "includes" (Json.list? Json.text?) []
    constructor := ← fields.required "constructor" Json.text?
    setup := ← fields.withDefault "setup" Json.text? ""
    loop := ← fields.optional "loop" Json.text?
    topic := ← fields.withDefault "topic_type" (Json.choice? Topic.ofTag?) .none
    telemetryField := ← fields.optional "telemetry_field" Json.text?
    telemetryRead := ← fields.optional "telemetry_read" Json.text?
    command := ← fields.optional "command" Json.text?
    commandOn := ← fields.optional "command_on" Json.text?
    commandOff := ← fields.optional "command_off" Json.text?
    libraries := ← fields.withDefault "libraries" (Json.list? Json.text?) [] }

end SensorNode.Peripheral
