import SensorNode.Catalog.Check
import SensorNode.Sketch.Contribution
import SensorNode.Wiring

/-!
# Failures

What can keep the program from giving an answer, each with where it comes from.
-/

namespace SensorNode

inductive Failure where
  | allocation (error : AllocationError)
  | catalog (error : CatalogError)
  | render (error : Sketch.RenderError)
  | file (error : FileError)
deriving DecidableEq, Repr

namespace Failure

def message : Failure → String
  | allocation error => "Allocation error: " ++ error.message
  | catalog error => "Catalog error: " ++ error.message
  | render error => "Render error: " ++ error.message
  | file error => "IO error: " ++ error.message

end Failure

end SensorNode
