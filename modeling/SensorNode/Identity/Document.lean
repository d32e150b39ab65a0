import SensorNode.Identity.Basic
import SensorNode.Json.Decode

/-!
# Identity documents

The form of identity records; a field that is missing has its usual value.
-/

namespace SensorNode.Identity.Record

def fieldNames : List String :=
  ["role", "type", "name", "version", "model", "prod_date", "act_date", "expiry_date", "sku"]

def toJson (record : Record) : Json := .record
  [("role", .nat record.role.toNat),
    ("type", .nat record.kind.toNat),
    ("name", .nat record.name.toNat),
    ("version", .nat record.version.toNat),
    ("model", .nat record.model.toNat),
    ("prod_date", .nat record.prodDate.toNat),
    ("act_date", .nat record.actDate.toNat),
    ("expiry_date", .nat record.expiryDate.toNat),
    ("sku", .nat record.sku.toNat)]

def ofJson? (json : Json) : Option Record := do
  let fields ← json.fields? fieldNames
  return {
    role := ← fields.withDefault "role" Json.uint16? 0
    kind := ← fields.withDefault "type" Json.uint16? 1
    name := ← fields.withDefault "name" Json.uint16? 1
    version := ← fields.withDefault "version" Json.uint16? 1
    model := ← fields.withDefault "model" Json.uint16? 1
    prodDate := ← fields.withDefault "prod_date" Json.uint16? 1
    actDate := ← fields.withDefault "act_date" Json.uint16? 1
    expiryDate := ← fields.withDefault "expiry_date" Json.uint16? 1
    sku := ← fields.withDefault "sku" Json.uint16? 1 }

end SensorNode.Identity.Record
