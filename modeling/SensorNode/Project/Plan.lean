import SensorNode.Failure
import SensorNode.Project.Basic

/-!
# Plans

A plan attaches a list of peripherals to a fresh project, in their order and all or none. The ids it
needs come from a numbered supply: the first names the device, the others go to the attachments.
-/

namespace SensorNode.Project

/-- Attach peripherals one after the other; the first failure is that of the whole. -/
def attachAll (catalog : Catalog) :
    Project → List (AttachmentId × String) → Except AllocationError Project
  | project, [] => .ok project
  | project, (id, peripheralId) :: rest =>
    match project.attach catalog id peripheralId with
    | .error error => .error error
    | .ok attached => attachAll catalog attached.2 rest

def attachAllRecords (catalog : Catalog) :
    Project → List (AttachmentId × String) → List Log.Record
  | _, [] => []
  | project, (id, peripheralId) :: rest =>
    project.attachRecords catalog id peripheralId ++
      match project.attach catalog id peripheralId with
      | .error _ => []
      | .ok attached => attachAllRecords catalog attached.2 rest

/-- Each peripheral with the id that its attachment gets. -/
def requests (ids : Nat → AttachmentId) (peripheralIds : List String) :
    List (AttachmentId × String) :=
  peripheralIds.zipIdx.map fun entry => (ids (entry.2 + 1), entry.1)

/-- The project with a list of peripherals on a board; the default one stands in for a board that
the catalog does not have. -/
def plan (catalog : Catalog) (ids : Nat → AttachmentId) (boardId : String)
    (peripheralIds : List String) : Except AllocationError Project :=
  (start (catalog.boardOrDefault boardId) (ids 0)).attachAll catalog (requests ids peripheralIds)

/-- What is logged when a plan is made. -/
def planRecords (catalog : Catalog) (ids : Nat → AttachmentId) (boardId : String)
    (peripheralIds : List String) : List Log.Record :=
  catalog.boardRecords boardId ++
    attachAllRecords catalog (start (catalog.boardOrDefault boardId) (ids 0))
      (requests ids peripheralIds)

/-- The plan, or why the program has none. -/
def planOrFailure (catalog : Catalog) (ids : Nat → AttachmentId) (boardId : String)
    (peripheralIds : List String) : Except Failure Project :=
  (plan catalog ids boardId peripheralIds).mapError .allocation

end SensorNode.Project
