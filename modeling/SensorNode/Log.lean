/-!
# Log

Beside its answers the program keeps a log of what it does. Which records of the log a user gets to
see, and how each of them reads, is up to the surroundings of the program.

## Implementation notes

The records that a step makes are a definition beside the one of its result, as no result depends on
the log.
-/

namespace SensorNode

namespace Log

inductive Level where
  | debug
  | info
  | warning
deriving DecidableEq, Repr

structure Record where
  level : Level
  text : String
  /-- Values that belong to the text, by name. -/
  values : List (String × String)
deriving DecidableEq, Repr

def debug (text : String) : Record := ⟨.debug, text, []⟩

def info (text : String) : Record := ⟨.info, text, []⟩

def warning (text : String) : Record := ⟨.warning, text, []⟩

def Record.isWarning (record : Record) : Bool := record.level = .warning

end Log

/-- How the surroundings set the log up. -/
structure Log where
  /-- The records to show, if the surroundings choose them. -/
  filter : Option (Log.Record → Bool)
  /-- How a record reads that is shown after a number of lines; it may tell the time. -/
  line : (before : Nat) → Log.Record → String

/-- Whether a record is shown. Where nothing else is chosen, warnings are, and in a verbose run all
records. -/
def Log.shows (log : Log) (verbose : Bool) (record : Log.Record) : Bool :=
  match log.filter with
  | some chosen => chosen record
  | none => verbose || record.isWarning

end SensorNode
