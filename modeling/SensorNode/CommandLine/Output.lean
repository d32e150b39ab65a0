import SensorNode.Json.Sorted
import SensorNode.Json.Writer
import SensorNode.Number.Decimal
import SensorNode.Project.Report
import SensorNode.Sketch.Basic

/-!
# Output of plans and sketches

Each for a reader or, as JSON, for other programs. A sketch that is not written to a file is the
output itself.
-/

namespace SensorNode.CommandLine.Output

def rowLine (row : Report.Row) : String :=
  "    " ++ Text.padRight 6 row.placeholder ++ " -> " ++ row.label ++ " (GPIO" ++
    toString row.gpio.toNat ++ ")"

def entryLines (entry : Report.Entry) : List String :=
  ("  " ++ entry.name ++ " [" ++ entry.id.shortId ++ "]") :: entry.rows.map rowLine

def rule : String := String.ofList (List.replicate 60 '─')

def planLines (report : Report) : List String :=
  ["", "Board: " ++ report.boardName ++ " (" ++ report.boardId ++ ")", rule]
    ++ (if report.entries.isEmpty then ["  No modules"] else [])
    ++ report.entries.flatMap entryLines
    ++ ["", "  Estimated draw: " ++ Number.fixed 1 report.current ++ " mA"]
    ++ (report.maxCurrent.toList.map fun limit =>
      "  Board budget:   " ++ toString limit.toNat ++ " mA")
    ++ (if report.overBudget then ["  WARNING: modules exceed the board's current budget"] else [])

def plan (report : Report) : String := Text.ended (planLines report)

def planJson (report : Report) : String := report.toJson.pretty ++ "\n"

def libraryLine (library : Library) : String :=
  "  - " ++ library.managerName ++ " (" ++ library.author ++ ")"

/-- What to say about a sketch, written to a file or not. -/
def sketch (report : Report) (sketch : Sketch) : (written : Option String) → String
  | none => sketch.source
  | some path =>
    Text.ended <|
      ["Wrote " ++ path,
        "Board: " ++ report.boardId ++ " with " ++ toString report.entries.length ++
          " module(s)",
        "",
        "Install these libraries:"] ++ sketch.libraries.map libraryLine

def sketchJson (report : Report) (sketch : Sketch) (written : Option String) : String :=
  let json := Json.record
    [("filename", .text sketch.fileName),
      ("path", .optional .text written),
      ("board", .text report.boardId),
      ("allocation", .list Report.Entry.toJson report.entries),
      ("libraries", .list Library.toJson sketch.libraries),
      ("source", .text sketch.source)]
  json.sorted.pretty ++ "\n"

end SensorNode.CommandLine.Output
