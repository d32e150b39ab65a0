import SensorNode.Attachment.Basic
import SensorNode.Json.Decode

/-!
# Attachment documents

The form of attachments in project documents and answers.
-/

namespace SensorNode

namespace PinMap

def toJson (pins : PinMap) : Json :=
  .record (pins.entries.map fun entry => (entry.1, .nat entry.2.toNat))

/-- The last member of a name counts. -/
def ofJson? : Json → Option PinMap
  | .object members => do
    let named ← Json.namedMembers? members
    let entries ← named.mapM fun member => (Json.uint8? member.2).map fun gpio => (member.1, gpio)
    return SortedMap.ofList entries
  | _ => none

end PinMap

namespace AttachmentId

def toJson (id : AttachmentId) : Json := .text id.text

def ofJson? (json : Json) : Option AttachmentId := json.text?.bind ofText?

end AttachmentId

namespace Attachment

def fieldNames : List String := ["instance_id", "definition_id", "allocated_pins"]

def toJson (attachment : Attachment) : Json := .record
  [("instance_id", attachment.id.toJson),
    ("definition_id", .text attachment.peripheralId),
    ("allocated_pins", attachment.pins.toJson)]

def ofJson? (json : Json) : Option Attachment := do
  let fields ← json.fields? fieldNames
  return {
    id := ← fields.required "instance_id" AttachmentId.ofJson?
    peripheralId := ← fields.required "definition_id" Json.text?
    pins := ← fields.required "allocated_pins" PinMap.ofJson? }

end Attachment

end SensorNode
