import SensorNode.Json.Decode

/-!
# Libraries

A library that a sketch needs, as a user finds it in a library manager.
-/

namespace SensorNode

structure Library where
  id : String
  name : String
  description : String
  author : String
  /-- The name to search for. -/
  managerName : String
  url : Option String := none
deriving DecidableEq, Repr

namespace Library

def fieldNames : List String := ["id", "name", "description", "author", "manager_name", "url"]

def toJson (library : Library) : Json := .record
  [("id", .text library.id),
    ("name", .text library.name),
    ("description", .text library.description),
    ("author", .text library.author),
    ("manager_name", .text library.managerName),
    ("url", .optional .text library.url)]

def ofJson? (json : Json) : Option Library := do
  let fields ← json.fields? fieldNames
  return {
    id := ← fields.required "id" Json.text?
    name := ← fields.required "name" Json.text?
    description := ← fields.required "description" Json.text?
    author := ← fields.required "author" Json.text?
    managerName := ← fields.required "manager_name" Json.text?
    url := ← fields.optional "url" Json.text? }

end Library

end SensorNode
