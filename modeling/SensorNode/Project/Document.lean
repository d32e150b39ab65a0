import SensorNode.Attachment.Document
import SensorNode.Board.Document
import SensorNode.Project.Basic

/-!
# Project documents

The form in which a project is shown.
-/

namespace SensorNode.Project

def toJson (project : Project) : Json := .record
  [("board", project.board.toJson),
    ("modules", .list Attachment.toJson project.attachments),
    ("network", project.network.toJson),
    ("identity", .optional .text project.identity)]

end SensorNode.Project
