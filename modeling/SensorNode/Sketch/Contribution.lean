import SensorNode.Attachment.Basic
import SensorNode.Log
import SensorNode.Peripheral.Basic
import SensorNode.Sketch.Literal
import SensorNode.Sketch.Frame
import SensorNode.Text.Blank

/-!
# Contributions

What one attachment adds to a sketch: its rendered fragments, each set into the code around it. The
slots of a fragment take the short id of the attachment, the telemetry field of its peripheral and
the recorded pins; in the default command also the levels that switch it.

A fragment with a slot that has no value makes the whole attachment fail, with the first such
fragment in the order constructor, setup, loop, telemetry, command.
-/

namespace SensorNode.Sketch

inductive RenderError where
  | unresolved (peripheral shortId : String) (fragment : Fragment) (slots : List String)
  | frame (part : String) (slots : List String)
deriving DecidableEq, Repr

namespace RenderError

def message : RenderError → String
  | unresolved peripheral shortId fragment slots =>
    "Module '" ++ peripheral ++ "' (" ++ shortId ++ ") fragment '" ++ fragment.name ++
      "' has unresolved placeholder(s): " ++ Text.join ", " slots
  | frame part slots =>
    "Scaffold section '" ++ part ++ "' has unresolved placeholder(s): " ++ Text.join ", " slots

end RenderError

/-- The values of the slots in the fragments of an attachment. A pin that is recorded under a name
that another value has takes precedence. -/
def slotValues (attachment : Attachment) (peripheral : Peripheral) : Substitutions :=
  let own := Substitutions.empty.set "ID" attachment.shortId
  let named :=
    match peripheral.telemetryField with
    | some field => own.set "FIELD" field
    | none => own
  named.setAll (attachment.pins.entries.map fun entry => (entry.1, toString entry.2.toNat))

/-- Blank setup code is left out. -/
def setupSource? (peripheral : Peripheral) : Option String :=
  if Text.isBlank peripheral.setup then none else some peripheral.setup

def telemetrySource? (peripheral : Peripheral) : Option String :=
  if peripheral.isTelemetry then peripheral.telemetryRead else none

/-- The body of a command and the values it is filled with: the code of the peripheral, or else the
default that switches the first pin. -/
def commandBody? (peripheral : Peripheral) (values : Substitutions) :
    Option (Template × Substitutions) :=
  if peripheral.isCommand then
    match peripheral.command with
    | some source => some (.parse source, values)
    | none =>
      let levels := peripheral.levels
      some (Frame.switchCommand, (values.set "ON" levels.1).set "OFF" levels.2)
  else none

def setupBlock (peripheral : Peripheral) (code : String) : String :=
  "  // Setup " ++ peripheral.name ++ "\n" ++ Text.indent 2 code

def loopBlock (peripheral : Peripheral) (code : String) : String :=
  "  // Loop " ++ peripheral.name ++ "\n" ++ Text.indent 2 code

/-- Measures at most once in an interval; the time of the last measurement is a variable that is
named after the attachment. -/
def telemetryBlock (peripheral : Peripheral) (shortId code : String) : String :=
  let last := "last_" ++ shortId
  Text.join "\n"
    ["  // Telemetry " ++ peripheral.name,
      "  static unsigned long " ++ last ++ " = 0;",
      "  if (millis() - " ++ last ++ " > " ++ toString Frame.telemetryInterval ++ ") \x7b",
      code,
      "    " ++ last ++ " = millis();",
      "  \x7d"]

/-- The name, besides its id, under which a peripheral receives commands. -/
def commandName (peripheral : Peripheral) : String := peripheral.telemetryField.getD "switch"

def commandBlock (peripheral : Peripheral) (code : String) : String :=
  Text.join "\n"
    ["    if (mod == " ++ Literal.quote peripheral.id ++ " || mod == " ++
        Literal.quote (commandName peripheral) ++ ") \x7b",
      Text.indent 6 code,
      Text.indent 6 Frame.acknowledgement,
      "    \x7d"]

structure Contribution where
  peripheralId : String
  includes : List String
  constructor : String
  setup : Option String
  loop : Option String
  telemetry : Option String
  command : Option String
deriving DecidableEq, Repr

namespace Contribution

/-- Header lines are trimmed, and blank ones left out. -/
def headerLines (peripheral : Peripheral) : List String :=
  (peripheral.includes.map Text.trim).filter fun line => !line.isEmpty

/-- What an attachment of a peripheral adds to a sketch. -/
def ofAttachment (attachment : Attachment) (peripheral : Peripheral) :
    Except RenderError Contribution := do
  let values := slotValues attachment peripheral
  let fill (fragment : Fragment) (template : Template) (values : Substitutions) :=
    (template.fill values).mapError
      (RenderError.unresolved peripheral.id attachment.shortId fragment)
  let render (fragment : Fragment) (source : String) := fill fragment (.parse source) values
  let constructor ← render .constructor peripheral.constructor
  let setup ← (setupSource? peripheral).mapM (render .setup)
  let loop ← peripheral.loop.mapM (render .loop)
  let telemetry ← (telemetrySource? peripheral).mapM (render .telemetryRead)
  let command ← (commandBody? peripheral values).mapM fun body => fill .command body.1 body.2
  return {
    peripheralId := peripheral.id
    includes := headerLines peripheral
    constructor
    setup := setup.map (setupBlock peripheral)
    loop := loop.map (loopBlock peripheral)
    telemetry := telemetry.map (telemetryBlock peripheral attachment.shortId)
    command := command.map (commandBlock peripheral) }

/-- What is logged about a peripheral that has a field to send but nothing to read: after the
fragments of a sensor, before that of a command. -/
def records (attachment : Attachment) (peripheral : Peripheral) : List Log.Record :=
  let unread :=
    if peripheral.telemetryField.isSome && peripheral.telemetryRead.isNone then
      [Log.debug (peripheral.id ++ " declares telemetry but no read statement")]
    else []
  match ofAttachment attachment peripheral with
  | .ok _ => unread
  | .error (.unresolved _ _ .command _) => unread
  | .error _ => []

end Contribution

end SensorNode.Sketch
