import SensorNode.Attachment.Basic
import SensorNode.Catalog.Basic
import SensorNode.Files.Access
import SensorNode.Sketch.Frame
import SensorNode.Text.Blank

/-!
# Checked catalogs

Entries are checked before they are taken up. The fragments of a peripheral may use no slot but
those that every attachment of it has a value for, header lines none at all; the pins of a board are
distinct and the pins of its shared bus are among them; no two entries of a kind have one id.

Everything that is wrong is listed in the order in which it is looked for, and the first of the list
is reported.
-/

namespace SensorNode

/-- What an id names. -/
inductive EntryKind where
  | board
  | peripheral
  | library
  | pin
deriving DecidableEq, Repr

namespace EntryKind

def name : EntryKind → String
  | board => "board"
  | peripheral => "module"
  | library => "library"
  | pin => "pin"

end EntryKind

inductive CatalogError where
  /-- A document that cannot be read. The words of the reader, which would follow the origin in the
  message behind a colon, are not modelled: they depend on the document alone. -/
  | unreadable (origin : String)
  | undeclaredSlots (peripheral : String) (fragment : Fragment) (slots : List String)
  | duplicate (kind : EntryKind) (id : String)
  | emptyId (kind : EntryKind)
  | missingBusPin (board : String) (bus : Bus) (gpio : Gpio)
  | noBoards
  | file (error : FileError)
deriving DecidableEq, Repr

namespace CatalogError

def message : CatalogError → String
  | unreadable origin => "Failed to parse catalog entry " ++ origin
  | undeclaredSlots peripheral fragment slots =>
    "Module '" ++ peripheral ++ "' fragment '" ++ fragment.name ++
      "' uses undeclared placeholder(s): " ++ Text.join ", " slots
  | duplicate kind id => "Duplicate " ++ kind.name ++ " id '" ++ id ++ "'"
  | emptyId kind => "A " ++ kind.name ++ " entry has an empty id"
  | missingBusPin board bus gpio =>
    "Board '" ++ board ++ "' default " ++ bus.tag ++ " pin GPIO " ++ toString gpio.toNat ++
      " is not on the board"
  | noBoards => "Catalog contains no boards"
  | file error => "IO error: " ++ error.message

end CatalogError

/-- Accept what has no faults, or report the first one. -/
def firstFault (faults : List CatalogError) : Except CatalogError Unit :=
  match faults with
  | [] => .ok ()
  | fault :: _ => .error fault

@[simp] theorem firstFault_eq_ok_iff {faults : List CatalogError} :
    firstFault faults = .ok () ↔ faults = [] := by
  cases faults <;> simp [firstFault]

/-- A fault when the id of an entry is blank. -/
def idFaults (kind : EntryKind) (id : String) : List CatalogError :=
  if Text.isBlank id then [.emptyId kind] else []

section

variable {α κ : Type} [DecidableEq κ]

/-- The faults of entries in their order: those of each entry, then that its key is one of the keys
before it. -/
def entryFaults (kind : EntryKind) (key : α → κ) (idText : κ → String)
    (faults : α → List CatalogError) : (seen : List κ) → List α → List CatalogError
  | _, [] => []
  | seen, entry :: entries =>
    faults entry ++ (if key entry ∈ seen then [.duplicate kind (idText (key entry))] else []) ++
      entryFaults kind key idText faults (key entry :: seen) entries

/-- Entries have no fault when each by itself has none and the keys are distinct. -/
theorem entryFaults_eq_nil_iff {kind : EntryKind} {key : α → κ} {idText : κ → String}
    {faults : α → List CatalogError} {seen : List κ} {entries : List α} :
    entryFaults kind key idText faults seen entries = [] ↔
      (∀ entry ∈ entries, faults entry = []) ∧ (entries.map key).Nodup ∧
        ∀ entry ∈ entries, key entry ∉ seen := by
  induction entries generalizing seen with
  | nil => simp [entryFaults]
  | cons entry entries ih =>
    simp only [entryFaults, List.append_eq_nil_iff, ih, List.mem_cons, forall_eq_or_imp,
      List.map_cons, List.nodup_cons, List.mem_map, not_exists, not_and, not_or,
      ite_eq_right_iff, List.cons_ne_self, imp_false]
    constructor
    · rintro ⟨⟨hfaults, hseen⟩, hrest, hnodup, hkeys⟩
      exact ⟨⟨hfaults, hrest⟩, ⟨fun other hother => (hkeys other hother).1, hnodup⟩, hseen,
        fun other hother => (hkeys other hother).2⟩
    · rintro ⟨⟨hfaults, hrest⟩, ⟨hkeys, hnodup⟩, hseen, hother⟩
      exact ⟨⟨hfaults, hseen⟩, hrest, hnodup, fun other h => ⟨hkeys other h, hother other h⟩⟩

end

namespace Peripheral

/-- The slots that every attachment of the peripheral has a value for. -/
def declaredSlots (peripheral : Peripheral) : List String :=
  ["ID"] ++ (if peripheral.telemetryField.isSome then ["FIELD"] else []) ++
    (List.range peripheral.arity).map pinName

/-- A fault that lists slots, if there are any. -/
def slotFaults (peripheral : Peripheral) (fragment : Fragment) (slots : List String) :
    List CatalogError :=
  if slots.isEmpty then [] else [.undeclaredSlots peripheral.id fragment slots]

def undeclared (peripheral : Peripheral) (slots : List String) : List String :=
  slots.filter fun slot => slot ∉ peripheral.declaredSlots

def fragmentFaults (peripheral : Peripheral) : List CatalogError :=
  peripheral.fragments.flatMap fun (fragment, source) =>
    peripheral.slotFaults fragment (peripheral.undeclared (Template.placeholders source))

/-- The default command needs a pin to switch; the levels are always there. -/
def switchFaults (peripheral : Peripheral) : List CatalogError :=
  if peripheral.isCommand && peripheral.command.isNone then
    let slots := Sketch.Frame.switchCommand.names.filter fun slot => slot ∉ ["ON", "OFF"]
    peripheral.slotFaults .command (peripheral.undeclared slots)
  else []

/-- Header lines are copied as they stand. -/
def includeFaults (peripheral : Peripheral) : List CatalogError :=
  peripheral.includes.flatMap fun line =>
    peripheral.slotFaults .includes (Template.placeholders line)

def faults (peripheral : Peripheral) : List CatalogError :=
  idFaults .peripheral peripheral.id ++ peripheral.fragmentFaults ++ peripheral.switchFaults ++
    peripheral.includeFaults

def check (peripheral : Peripheral) : Except CatalogError Unit := firstFault peripheral.faults

end Peripheral

namespace Board

def pinFaults (board : Board) : List CatalogError :=
  entryFaults .pin Pin.gpio (fun gpio => board.id ++ ":GPIO" ++ toString gpio.toNat) (fun _ => [])
    [] board.pins

def busFaults (board : Board) : List CatalogError :=
  [board.i2c.sda, board.i2c.scl].flatMap fun gpio =>
    if board.has gpio then [] else [.missingBusPin board.id .i2c gpio]

def faults (board : Board) : List CatalogError :=
  idFaults .board board.id ++ board.pinFaults ++ board.busFaults

def check (board : Board) : Except CatalogError Unit := firstFault board.faults

end Board

namespace Catalog

def faults (boards : List Board) (peripherals : List Peripheral) (libraries : List Library) :
    List CatalogError :=
  entryFaults .board Board.id id Board.faults [] boards ++
    entryFaults .peripheral Peripheral.id id Peripheral.faults [] peripherals ++
    entryFaults .library Library.id id (fun _ => []) [] libraries

/-- The catalog of entries without fault. -/
def build (boards : List Board) (peripherals : List Peripheral) (libraries : List Library) :
    Except CatalogError Catalog :=
  if h : boards = [] then .error .noBoards
  else (firstFault (faults boards peripherals libraries)).map fun _ =>
    ⟨boards, peripherals, libraries, h⟩

/-- What is logged when a catalog is built. -/
def readyRecord (catalog : Catalog) : Log.Record :=
  Log.info ("Catalog ready: " ++ toString catalog.boards.length ++ " boards, " ++
    toString catalog.peripherals.length ++ " modules, " ++
    toString catalog.libraries.length ++ " libraries")

/-- Put in a peripheral without fault; a faulty one leaves no trace. -/
def insert (catalog : Catalog) (peripheral : Peripheral) : Except CatalogError Catalog :=
  peripheral.check.map fun _ => catalog.put peripheral

end Catalog

end SensorNode
