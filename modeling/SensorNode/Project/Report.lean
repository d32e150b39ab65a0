import SensorNode.Attachment.Document
import SensorNode.Json.Single
import SensorNode.Project.Basic

/-!
# Reports

A report shows the wiring of a project: which pin of the board every pin of every attachment got,
under the label that is printed there, and the current that all of them draw.
-/

namespace SensorNode

namespace Report

structure Row where
  placeholder : String
  gpio : Gpio
  label : String
deriving DecidableEq, Repr

structure Entry where
  id : AttachmentId
  peripheralId : String
  name : String
  rows : List Row
deriving DecidableEq, Repr

end Report

structure Report where
  boardId : String
  boardName : String
  entries : List Report.Entry
  current : Float32
  maxCurrent : Option UInt32
deriving DecidableEq

namespace Report

/-- The entry of an attachment; one that is not known goes by the id of its peripheral. -/
def entry (catalog : Catalog) (board : Board) (attachment : Attachment) : Entry where
  id := attachment.id
  peripheralId := attachment.peripheralId
  name :=
    match catalog.peripheral? attachment.peripheralId with
    | some peripheral => peripheral.name
    | none => attachment.peripheralId
  rows := attachment.pins.entries.map fun pin => ⟨pin.1, pin.2, board.labelFor pin.2⟩

def ofProject (catalog : Catalog) (project : Project) : Report where
  boardId := project.board.id
  boardName := project.board.name
  entries := project.attachments.map (entry catalog project.board)
  current := project.current catalog
  maxCurrent := project.board.maxCurrent

/-- Whether more current is drawn than the board can supply. -/
def overBudget (report : Report) : Bool :=
  match report.maxCurrent with
  | some limit => report.current > limit.toFloat32
  | none => false

def Row.toJson (row : Row) : Json := .record
  [("placeholder", .text row.placeholder), ("gpio", .nat row.gpio.toNat),
    ("label", .text row.label)]

def Entry.toJson (entry : Entry) : Json := .record
  [("instance_id", entry.id.toJson),
    ("short_id", .text entry.id.shortId),
    ("definition_id", .text entry.peripheralId),
    ("name", .text entry.name),
    ("pins", .list Row.toJson entry.rows)]

def toJson (report : Report) : Json := .record
  [("board", .text report.boardId),
    ("board_name", .text report.boardName),
    ("modules", .list Entry.toJson report.entries),
    ("estimated_current_ma", .single report.current),
    ("max_current_ma", .optional (fun limit => .nat limit.toNat) report.maxCurrent)]

end Report

end SensorNode
