import SensorNode.Attachment.Id
import SensorNode.Json.Decode

/-!
# Network settings

What a sketch needs to reach its broker. A device without a name of its own is named after a random
id, modulo a thousand.
-/

namespace SensorNode

namespace Network

def defaultBroker : String := "broker.hivemq.com"

def defaultPort : UInt16 := 1883

end Network

structure Network where
  ssid : String := ""
  password : String := ""
  broker : String := Network.defaultBroker
  port : UInt16 := Network.defaultPort
  /-- Names the device, its topics and the sketch file. -/
  deviceId : String
deriving DecidableEq, Repr

namespace Network

def defaultDeviceId (id : AttachmentId) : String :=
  "micro_node_" ++ toString (id.bits.toNat % 1000)

/-- The settings of a device that is named after a random id. -/
def default (id : AttachmentId) : Network := { deviceId := defaultDeviceId id }

def fieldNames : List String := ["ssid", "password", "broker", "port", "device_id"]

def toJson (network : Network) : Json := .record
  [("ssid", .text network.ssid),
    ("password", .text network.password),
    ("broker", .text network.broker),
    ("port", .nat network.port.toNat),
    ("device_id", .text network.deviceId)]

/-- Settings that take what they do not give from others. -/
def ofJson? (default : Network) (json : Json) : Option Network := do
  let fields ← json.fields? fieldNames
  return {
    ssid := ← fields.withDefault "ssid" Json.text? default.ssid
    password := ← fields.withDefault "password" Json.text? default.password
    broker := ← fields.withDefault "broker" Json.text? default.broker
    port := ← fields.withDefault "port" Json.uint16? default.port
    deviceId := ← fields.withDefault "device_id" Json.text? default.deviceId }

end Network

end SensorNode
