import SensorNode.Json.Basic

/-!
# Sorted members

JSON with the members of every object in the order of their names.
-/

namespace SensorNode.Json

/-- Put a member before the first one with a greater name. -/
def insertMember (member : Option String × Json) :
    List (Option String × Json) → List (Option String × Json)
  | [] => [member]
  | first :: rest =>
    if member.1.getD "" < first.1.getD "" then member :: first :: rest
    else first :: insertMember member rest

mutual

def sorted : Json → Json
  | array items => array (sortedItems items)
  | object members => object (sortedMembers members)
  | json => json

def sortedItems : List Json → List Json
  | [] => []
  | item :: items => sorted item :: sortedItems items

def sortedMembers : List (Option String × Json) → List (Option String × Json)
  | [] => []
  | (name, value) :: members => insertMember (name, sorted value) (sortedMembers members)

end

end SensorNode.Json
