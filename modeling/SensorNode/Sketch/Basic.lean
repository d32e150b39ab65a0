import SensorNode.Sketch.FileName
import SensorNode.Sketch.Libraries
import SensorNode.Sketch.Sections

/-!
# Sketches

The program of a device: its source text, the name of its file and the libraries it needs. All are
functions of the catalog, the wired board, the settings of the network and the token.
-/

namespace SensorNode

structure Sketch where
  source : String
  fileName : String
  libraries : List Library
deriving DecidableEq, Repr

namespace Sketch

/-- The source text for a wired board. -/
def render (catalog : Catalog) (board : Board) (attachments : List Attachment) (network : Network)
    (identity : Option String) : Except RenderError String :=
  assemble board network identity (catalog.known attachments)

def generate (catalog : Catalog) (board : Board) (attachments : List Attachment)
    (network : Network) (identity : Option String) : Except RenderError Sketch :=
  (render catalog board attachments network identity).map fun source =>
    { source
      fileName := deviceFileName network.deviceId
      libraries := neededLibraries catalog attachments }

/-- What is logged when fragments are rendered, up to the first attachment that fails. -/
def renderRecords (catalog : Catalog) : List Attachment → List Log.Record
  | [] => []
  | attachment :: rest =>
    match catalog.peripheral? attachment.peripheralId with
    | none =>
      Log.warning ("Skipping " ++ attachment.peripheralId ++ " (" ++ attachment.shortId ++
        "): definition not in catalog") :: renderRecords catalog rest
    | some peripheral =>
      Contribution.records attachment peripheral ++
        match Contribution.ofAttachment attachment peripheral with
        | .ok _ => renderRecords catalog rest
        | .error _ => []

def generateRecords (catalog : Catalog) (board : Board) (attachments : List Attachment)
    (network : Network) (identity : Option String) : List Log.Record :=
  renderRecords catalog attachments ++
    match generate catalog board attachments network identity with
    | .error _ => []
    | .ok sketch =>
      missingLibraryRecords catalog attachments ++
        [Log.info ("Generated " ++ sketch.fileName ++ " (" ++
          toString sketch.source.utf8ByteSize ++ " bytes, " ++
          toString sketch.libraries.length ++ " libraries)")]

end Sketch

end SensorNode
