import SensorNode.Catalog.Basic
import SensorNode.Number.Decimal
import SensorNode.Text.Lines

/-!
# Listings

The boards and peripherals of a catalog as a user sees them; verbose listings show every pin of a
board and all that a peripheral needs.
-/

namespace SensorNode.CommandLine.Listing

/-- Why a pin is restricted, in brackets. -/
def restrictionNote (pin : Pin) : String :=
  if pin.restricted then "  [restricted: " ++ pin.restrictionReason.getD "unspecified" ++ "]"
  else ""

def pinLine (pin : Pin) : String :=
  "      " ++ Text.padRight 5 pin.label ++ " GPIO" ++
    Text.padRight 3 (toString pin.gpio.toNat) ++ " " ++
    Text.join ", " (pin.capabilities.map Capability.tag) ++ restrictionNote pin

def boardLines (verbose : Bool) (board : Board) : List String :=
  ["  " ++ board.id,
    "    " ++ board.name ++ " (" ++ toString board.pins.length ++ " pins)",
    "    I2C SDA=" ++ board.labelFor board.i2c.sda ++ " SCL=" ++ board.labelFor board.i2c.scl]
    ++ (if verbose then board.pins.map pinLine else []) ++ [""]

def boards (verbose : Bool) (catalog : Catalog) : String :=
  Text.ended (["Supported boards:", ""] ++ catalog.boards.flatMap (boardLines verbose))

def detailLines (peripheral : Peripheral) : List String :=
  ["    " ++ peripheral.description,
    "    Pins:      " ++ Text.join ", " (peripheral.requires.map Capability.tag)]
    ++ (peripheral.bus.toList.map fun bus => "    Bus:       " ++ bus.tag)
    ++ (if peripheral.libraries.isEmpty then []
      else ["    Libraries: " ++ Text.join ", " peripheral.libraries])
    ++ ["    Draw:      " ++ Number.plain peripheral.current ++ " mA", ""]

def peripheralLines (verbose : Bool) (peripheral : Peripheral) : List String :=
  ("  " ++ Text.padRight 16 peripheral.id ++ " " ++ peripheral.name ++ " [" ++
    peripheral.category.tag ++ "]") :: if verbose then detailLines peripheral else []

def peripherals (verbose : Bool) (shown : List Peripheral) : String :=
  Text.ended (["Available modules:", ""] ++ shown.flatMap (peripheralLines verbose))

end SensorNode.CommandLine.Listing
