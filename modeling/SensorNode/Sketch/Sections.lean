import SensorNode.Board.Basic
import SensorNode.Distinct
import SensorNode.Identity.Basic
import SensorNode.Network
import SensorNode.Sketch.Contribution

/-!
# Sections of a sketch

A sketch is assembled from six lists. Headers and globals keep only the first of equal entries; the
other lists hold what the attachments contribute in their order. The settings of the network stand
in literals before any global of an attachment.
-/

namespace SensorNode.Sketch

/-- Declares a text constant. -/
def textConstant (name value : String) : String :=
  "const char* " ++ name ++ " = " ++ Literal.quote value ++ ";"

/-- The token that a device announces. -/
def announcedIdentity (identity : Option String) : String :=
  (identity.filter fun token => !token.isEmpty).getD Identity.unregistered

/-- The headers of every sketch for a family of microcontrollers. -/
def fixedIncludes (mcu : Mcu) : List String :=
  Frame.coreIncludes ++
    match mcu with
    | .esp32 => Frame.esp32Includes
    | .esp8266 => Frame.esp8266Includes

/-- The globals of every sketch. -/
def fixedGlobals (network : Network) (identity : Option String) : List String :=
  ["WiFiClient espClient;",
    "PubSubClient client(espClient);",
    textConstant "mqtt_server" network.broker,
    "const int mqtt_port = " ++ toString network.port.toNat ++ ";",
    textConstant "device_id" network.deviceId,
    textConstant "ghost_identity" (announcedIdentity identity) ++ " // Signed Identity"]

def credentials (network : Network) : List String :=
  [textConstant "ssid" network.ssid, textConstant "password" network.password]

structure Sections where
  includes : List String
  globals : List String
  setups : List String
  loops : List String
  /-- The ids of the peripherals, as the device announces them. -/
  discovery : List String
  commands : List String
deriving DecidableEq, Repr

namespace Sections

/-- The sections of a sketch to which attachments contribute. -/
def collect (mcu : Mcu) (network : Network) (identity : Option String)
    (contributions : List Contribution) : Sections where
  includes := distinct (fixedIncludes mcu ++ contributions.flatMap Contribution.includes)
  globals :=
    distinct (fixedGlobals network identity ++ contributions.map Contribution.constructor)
  setups := contributions.filterMap Contribution.setup
  loops := contributions.flatMap fun part => part.loop.toList ++ part.telemetry.toList
  discovery := contributions.map Contribution.peripheralId
  commands := contributions.filterMap Contribution.command

def discoveryLines (sections : Sections) : String :=
  if sections.discovery.isEmpty then "  // no modules"
  else
    Text.join "\n" (sections.discovery.map fun id => "  mods.add(" ++ Literal.quote id ++ ");")

def commandBranches (sections : Sections) : String :=
  if sections.commands.isEmpty then "    // no command modules"
  else Text.join "\n" sections.commands

/-- Fill a part of the frame. -/
def fillPart (part : String) (template : Template) (values : List (String × String)) :
    Except RenderError String :=
  (template.fill (.ofList values)).mapError (RenderError.frame part)

def helpers (boardId : String) (sections : Sections) : Except RenderError String :=
  fillPart "helpers" Frame.helpers
    [("SIGNATURE", Frame.signature),
      ("BOARD", Literal.escape boardId),
      ("VERSION", Frame.firmwareVersion),
      ("DISCOVERY_MODULES", sections.discoveryLines),
      ("COMMAND_BRANCHES", sections.commandBranches)]

def setup (sections : Sections) : Except RenderError String :=
  fillPart "setup" Frame.setup [("MODULE_SETUP", Text.join "\n" sections.setups)]

def loop (sections : Sections) : Except RenderError String :=
  fillPart "loop" Frame.loop
    [("RECONNECT_INTERVAL", toString Frame.reconnectInterval),
      ("MODULE_LOOP", Text.join "\n" sections.loops)]

/-- The text of a sketch. -/
def source (boardId : String) (network : Network) (sections : Sections) :
    Except RenderError String := do
  let helpers ← sections.helpers boardId
  let setup ← sections.setup
  let loop ← sections.loop
  return Text.join "\n"
    ([Frame.banner, "#include <Arduino.h>"] ++ sections.includes ++ [""] ++ credentials network
      ++ [""] ++ sections.globals ++ ["", helpers, setup, loop])

end Sections

/-- The text of the sketch for attachments of known peripherals. -/
def assemble (board : Board) (network : Network) (identity : Option String)
    (attached : List (Attachment × Peripheral)) : Except RenderError String := do
  let contributions ← attached.mapM fun (attachment, peripheral) =>
    Contribution.ofAttachment attachment peripheral
  (Sections.collect board.mcu network identity contributions).source board.id network

end SensorNode.Sketch
