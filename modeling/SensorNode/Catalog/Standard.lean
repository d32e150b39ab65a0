import SensorNode.Catalog.Check
import SensorNode.Catalog.Standard.Boards
import SensorNode.Catalog.Standard.Libraries
import SensorNode.Catalog.Standard.Peripherals

/-!
# The standard catalog

The catalog that comes with the program. It is checked like any other.
-/

namespace SensorNode.Catalog

def standard : Except CatalogError Catalog :=
  build Standard.boards Standard.peripherals Standard.libraries

end SensorNode.Catalog
