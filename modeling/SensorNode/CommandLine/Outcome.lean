import SensorNode.Log
import SensorNode.Text.Lines

/-!
# Outcomes

A run ends with an exit code, a text on its output channel and what it told on its error channel.
There the messages to the user and the records of the log stand in the order in which they were
made. How the records read, and which of them are shown, is up to the surroundings.
-/

namespace SensorNode.CommandLine

/-- What is told on the error channel. -/
inductive Notice where
  | message (text : String)
  | record (record : Log.Record)
deriving DecidableEq, Repr

namespace Notice

def message? : Notice → Option String
  | message text => some text
  | record _ => none

/-- Whether a run tells it that is asked for no details. -/
def isUrgent : Notice → Bool
  | message _ => true
  | record logged => logged.isWarning

def shown (log : Log) (verbose : Bool) : Notice → Bool
  | message _ => true
  | record logged => log.shows verbose logged

/-- How a notice reads that is shown after a number of lines. -/
def line (log : Log) (before : Nat) : Notice → String
  | message text => text
  | record logged => log.line before logged

/-- The text of notices that are shown. -/
def text (log : Log) (notices : List Notice) : String :=
  Text.ended <| notices.zipIdx.map fun entry => entry.1.line log entry.2

end Notice

/-- What a run leaves behind besides files. -/
structure Outcome where
  exitCode : Nat
  output : String
  notices : List Notice
deriving DecidableEq, Repr

namespace Outcome

def messages (outcome : Outcome) : List String := outcome.notices.filterMap Notice.message?

/-- The text on the error channel where no record is shown. -/
def errors (outcome : Outcome) : String := Text.ended outcome.messages

/-- What is shown on the error channel under a log. -/
def shown (log : Log) (verbose : Bool) (outcome : Outcome) : List Notice :=
  outcome.notices.filter (Notice.shown log verbose)

/-- The text on the error channel under a log. -/
def errorText (log : Log) (verbose : Bool) (outcome : Outcome) : String :=
  Notice.text log (outcome.shown log verbose)

end Outcome

end SensorNode.CommandLine
