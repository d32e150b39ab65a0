import SensorNode.Catalog.Basic
import SensorNode.CommandLine.Flags
import SensorNode.Network

/-!
# Commands

What the arguments of the program ask for. A password and a signing secret can also come from the
environment, which counts only where the flag is not given. An identity token excludes a signing
secret from either source.
-/

namespace SensorNode.CommandLine

/-- Values for flags that are not given. -/
structure Environment where
  password : Option String := none
  identitySecret : Option String := none
deriving DecidableEq, Repr

inductive Format where
  | human
  | json
deriving DecidableEq, Repr

/-- What to attach to which board. -/
structure Selection where
  boardId : String
  peripheralIds : List String
  /-- A directory with peripherals of the user. -/
  catalogDirectory : Option String
deriving DecidableEq, Repr

/-- How the device introduces itself. -/
inductive IdentitySource where
  | unregistered
  | token (token : String)
  | secret (secret : String)
deriving DecidableEq, Repr

structure Settings where
  ssid : String
  password : String
  broker : String
  port : UInt16
  deviceId : Option String
  identity : IdentitySource
  output : Option String
deriving DecidableEq, Repr

inductive Command where
  | version
  | boards (verbose : Bool)
  | peripherals (category : Option Category) (verbose : Bool)
  | plan (selection : Selection) (format : Format) (verbose : Bool)
  | generate (selection : Selection) (settings : Settings) (format : Format) (verbose : Bool)
deriving DecidableEq, Repr

namespace Command

/-- Whether the user asks for details, also of the log. -/
def verbose : Command → Bool
  | version => false
  | boards verbose => verbose
  | peripherals _ verbose => verbose
  | plan _ _ verbose => verbose
  | generate _ _ _ verbose => verbose

def verboseFlag : Flag := { name := "verbose", letter := some 'v', takesValue := false }

def boardsFlags : List Flag := [verboseFlag]

def peripheralsFlags : List Flag := [verboseFlag, { name := "category", letter := some 'c' }]

def planFlags : List Flag :=
  [verboseFlag,
    { name := "board", letter := some 'b' },
    { name := "module", letter := some 'm', repeats := true },
    { name := "catalog-dir" },
    { name := "format", letter := some 'f' }]

def generateFlags : List Flag :=
  planFlags ++
    [{ name := "ssid" },
      { name := "password" },
      { name := "broker" },
      { name := "port" },
      { name := "device-id" },
      { name := "identity" },
      { name := "identity-secret" },
      { name := "output", letter := some 'o' }]

/-- Read the value of a flag, if it is given; one that cannot be read spoils the command. -/
def readValue? {α : Type} (given : Given) (name : String) (value? : String → Option α) :
    Option (Option α) :=
  match given.value? name with
  | none => some none
  | some s => (value? s).map some

def format? : String → Option Format
  | "human" => some .human
  | "json" => some .json
  | _ => none

def path? (s : String) : Option String := if s.isEmpty then none else some s

/-- A port in decimal; a plus sign is allowed, and a minus sign before zero. -/
def port? (s : String) : Option UInt16 := do
  let (negative, digits) := match s.toList with
    | '+' :: digits => (false, digits)
    | '-' :: digits => (true, digits)
    | digits => (false, digits)
  guard (!digits.isEmpty && digits.all Char.isDigit)
  let port := Nat.ofDigitChars 10 digits 0
  guard (port < UInt16.size && !(negative && port ≠ 0))
  return .ofNat port

def selection? (given : Given) : Option Selection := do
  return {
    boardId := (given.value? "board").getD Catalog.defaultBoardId
    peripheralIds := given.values "module"
    catalogDirectory := ← readValue? given "catalog-dir" path? }

def identity? (environment : Environment) (given : Given) : Option IdentitySource :=
  match given.value? "identity", given.value? "identity-secret" <|> environment.identitySecret with
  | none, none => some .unregistered
  | some token, none => some (.token token)
  | none, some secret => some (.secret secret)
  | some _, some _ => none

def settings? (environment : Environment) (given : Given) : Option Settings := do
  return {
    ssid := (given.value? "ssid").getD ""
    password := (given.value? "password" <|> environment.password).getD ""
    broker := (given.value? "broker").getD Network.defaultBroker
    port := (← readValue? given "port" port?).getD Network.defaultPort
    deviceId := given.value? "device-id"
    identity := ← identity? environment given
    output := ← readValue? given "output" path? }

def boards? (verbose : Bool) (arguments : List String) : Option Command := do
  let given ← Flag.given? boardsFlags arguments
  return .boards (verbose || given.has "verbose")

def peripherals? (verbose : Bool) (arguments : List String) : Option Command := do
  let given ← Flag.given? peripheralsFlags arguments
  return .peripherals (← readValue? given "category" Category.ofTag?)
    (verbose || given.has "verbose")

/-- A plan needs at least one peripheral. -/
def plan? (verbose : Bool) (arguments : List String) : Option Command := do
  let given ← Flag.given? planFlags arguments
  let selection ← selection? given
  guard !selection.peripheralIds.isEmpty
  return .plan selection ((← readValue? given "format" format?).getD .human)
    (verbose || given.has "verbose")

def generate? (environment : Environment) (verbose : Bool) (arguments : List String) :
    Option Command := do
  let given ← Flag.given? generateFlags arguments
  return .generate (← selection? given) (← settings? environment given)
    ((← readValue? given "format" format?).getD .human) (verbose || given.has "verbose")

/-- Read a command that starts with its name. -/
def named? (environment : Environment) (verbose : Bool) (name : String)
    (arguments : List String) : Option Command :=
  match name with
  | "boards" => boards? verbose arguments
  | "modules" => peripherals? verbose arguments
  | "plan" => plan? verbose arguments
  | "generate" => generate? environment verbose arguments
  | _ => none

/-- What an argument before the name of a command asks for. -/
inductive Lead where
  | verbose
  | version
deriving DecidableEq, Repr

/-- Read letters before the name of a command up to one that asks for the version. -/
def leadLetters? (verbose : Bool) : List Char → Option Lead
  | [] => if verbose then some .verbose else none
  | 'V' :: _ => some .version
  | 'v' :: cs => if verbose then none else leadLetters? true cs
  | _ :: _ => none

/-- Read an argument before the name of a command, unless it is such a name. -/
def lead? (verbose : Bool) (argument : String) : Option (Option Lead) :=
  match argument.toList with
  | '-' :: '-' :: cs =>
    if cs = "verbose".toList then if verbose then none else some (some .verbose)
    else if cs = "version".toList then some (some .version)
    else none
  | '-' :: c :: cs => (leadLetters? verbose (c :: cs)).map some
  | _ => some none

/-- Read the arguments; `verbose` tells that this flag was given. -/
def readAfter? (environment : Environment) (verbose : Bool) : List String → Option Command
  | [] => none
  | argument :: rest => do
    match ← lead? verbose argument with
    | some .version => return .version
    | some .verbose => readAfter? environment true rest
    | none => named? environment verbose argument rest

/-- The command that the arguments of the program ask for. -/
def read? (environment : Environment) (arguments : List String) : Option Command :=
  readAfter? environment false arguments

end Command

end SensorNode.CommandLine
