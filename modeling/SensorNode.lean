import SensorNode.Attachment.Document
import SensorNode.Catalog.Check
import SensorNode.Catalog.Standard
import SensorNode.Catalog.UserFiles
import SensorNode.CommandLine.Command
import SensorNode.CommandLine.Run
import SensorNode.Failure
import SensorNode.Files.Tree
import SensorNode.Identity.Document
import SensorNode.Identity.Token
import SensorNode.Json.Sorted
import SensorNode.Json.Writer
import SensorNode.Library
import SensorNode.Main
import SensorNode.Network
import SensorNode.Peripheral.Document
import SensorNode.Project.Document
import SensorNode.Project.Plan
import SensorNode.Project.Report
import SensorNode.Proofs.Attachment.RecordedPins
import SensorNode.Proofs.Board.Precedence
import SensorNode.Proofs.Catalog.Changes
import SensorNode.Proofs.Catalog.Checked
import SensorNode.Proofs.Catalog.UserDirectory
import SensorNode.Proofs.CommandLine.Confinement
import SensorNode.Proofs.CommandLine.PlanAndGenerate
import SensorNode.Proofs.Documents
import SensorNode.Proofs.Identity.Acceptance
import SensorNode.Proofs.Identity.RoundTrip
import SensorNode.Proofs.Json.Members
import SensorNode.Proofs.Outcome
import SensorNode.Proofs.PinTable.Assignment
import SensorNode.Proofs.PinTable.Histories
import SensorNode.Proofs.PinTable.Nested
import SensorNode.Proofs.PinTable.Reservations
import SensorNode.Proofs.PinTable.Settled
import SensorNode.Proofs.PinTable.Wired
import SensorNode.Proofs.Project.BatchPlanning
import SensorNode.Proofs.Project.Edits
import SensorNode.Proofs.Project.Generation
import SensorNode.Proofs.Project.IdIndependence
import SensorNode.Proofs.Project.Leftovers
import SensorNode.Proofs.Project.Monotonicity
import SensorNode.Proofs.Project.Reached
import SensorNode.Proofs.Project.Reattachment
import SensorNode.Proofs.Project.ShortIds
import SensorNode.Proofs.Project.WiringSoundness
import SensorNode.Proofs.Sketch.Filled
import SensorNode.Proofs.Sketch.Settings
import SensorNode.Proofs.Sketch.Unresolved
import SensorNode.Proofs.Template.Filling
import SensorNode.Proofs.Text.Digits
import SensorNode.Sketch.File
import SensorNode.Sketch.FileName
import SensorNode.Sketch.Frame
import SensorNode.Sketch.Literal
import SensorNode.Sketch.Sections
import SensorNode.Wiring
import SensorNode.Proofs.PinTable.Greedy
import SensorNode.Proofs.PinTable.Draining
import SensorNode.Proofs.Catalog.Verdict
import SensorNode.Proofs.Sketch.OnePass
import SensorNode.Proofs.Sketch.Composition
import SensorNode.Proofs.PinTable.FirstHolders
import SensorNode.Proofs.Sketch.Libraries
import SensorNode.Proofs.Identity.HashValue
import SensorNode.Proofs.Identity.ReplacedGroups
