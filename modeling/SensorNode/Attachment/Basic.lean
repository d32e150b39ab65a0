import SensorNode.Attachment.Id
import SensorNode.Board.Basic
import SensorNode.SortedMap
import SensorNode.Text.Lines
import SensorNode.Text.Quoted

/-!
# Attachments

An attachment is a peripheral wired to a board. It records under the names `PIN_0`, `PIN_1` and so
on which pins the peripheral got, and never changes after it was made.
-/

namespace SensorNode

/-- The name under which the pin with an index is recorded and found in templates. -/
def pinName (index : Nat) : String := "PIN_" ++ toString index

/-- Recorded pins in the order of their names as text. -/
abbrev PinMap := SortedMap String Gpio

namespace PinMap

/-- The pins of a list under the names of their indices. -/
def ofPins (pins : List Gpio) : PinMap :=
  SortedMap.ofList (pins.zipIdx.map fun entry => (pinName entry.2, entry.1))

/-- The pins as a log shows them. -/
def display (pins : PinMap) : String :=
  "\x7b" ++ Text.join ", " (pins.entries.map fun entry =>
    Text.quotedName entry.1 ++ ": " ++ toString entry.2.toNat) ++ "\x7d"

end PinMap

structure Attachment where
  id : AttachmentId
  peripheralId : String
  pins : PinMap
deriving DecidableEq

namespace Attachment

def shortId (attachment : Attachment) : String := attachment.id.shortId

def pin? (attachment : Attachment) (index : Nat) : Option Gpio :=
  attachment.pins.get? (pinName index)

end Attachment

end SensorNode
