import SensorNode.Catalog.Known
import SensorNode.Distinct

/-!
# Libraries of a sketch

Two libraries that every sketch needs, then those of the known attachments, each where it is first
needed. Ids that the catalog has no library for are left out.
-/

namespace SensorNode.Sketch

/-- The libraries of every sketch, by id. -/
def coreLibraryIds : List String := ["pubsubclient", "arduinojson"]

def neededLibraryIds (catalog : Catalog) (attachments : List Attachment) : List String :=
  distinct <| coreLibraryIds ++
    (catalog.known attachments).flatMap fun attached => attached.2.libraries

def neededLibraries (catalog : Catalog) (attachments : List Attachment) : List Library :=
  (neededLibraryIds catalog attachments).filterMap catalog.library?

/-- What is logged about needed libraries that are left out. -/
def missingLibraryRecords (catalog : Catalog) (attachments : List Attachment) :
    List Log.Record :=
  ((neededLibraryIds catalog attachments).filter fun id => (catalog.library? id).isNone).map
    fun id => Log.debug ("Library '" ++ id ++ "' not in catalog, skipping")

end SensorNode.Sketch
