import SensorNode.Board.Basic
import SensorNode.Library
import SensorNode.Log
import SensorNode.Peripheral.Basic

/-!
# Catalogs

A catalog lists the boards, peripherals and libraries that projects draw on. It has at least one
board, so that there is always one to fall back to. Of entries with one id the first is found; a
catalog that was checked has no others.
-/

namespace SensorNode

structure Catalog where
  boards : List Board
  peripherals : List Peripheral
  libraries : List Library
  boards_ne_nil : boards ≠ []

namespace Catalog

/-- The id of the board that is used when no other one is asked for. -/
def defaultBoardId : String := "esp32-devkit-v1"

def board? (catalog : Catalog) (id : String) : Option Board :=
  catalog.boards.find? fun board => board.id = id

def peripheral? (catalog : Catalog) (id : String) : Option Peripheral :=
  catalog.peripherals.find? fun peripheral => peripheral.id = id

def library? (catalog : Catalog) (id : String) : Option Library :=
  catalog.libraries.find? fun library => library.id = id

/-- The board with the default id, or else the first one. -/
def defaultBoard (catalog : Catalog) : Board :=
  (catalog.board? defaultBoardId).getD (catalog.boards.head catalog.boards_ne_nil)

/-- The board with an id, or else the default one. -/
def boardOrDefault (catalog : Catalog) (id : String) : Board :=
  (catalog.board? id).getD catalog.defaultBoard

/-- What is logged when the board with an id is asked for. -/
def boardRecords (catalog : Catalog) (id : String) : List Log.Record :=
  match catalog.board? id with
  | some _ => []
  | none =>
    [Log.warning ("Unknown board '" ++ id ++ "', falling back to '" ++
      catalog.defaultBoard.id ++ "'")]

def inCategory (catalog : Catalog) (category : Category) : List Peripheral :=
  catalog.peripherals.filter fun peripheral => peripheral.category = category

theorem defaultBoard_mem (catalog : Catalog) : catalog.defaultBoard ∈ catalog.boards := by
  unfold defaultBoard board?
  cases h : catalog.boards.find? fun board => board.id = defaultBoardId with
  | none => simp
  | some board => exact List.mem_of_find?_eq_some h

theorem boardOrDefault_mem (catalog : Catalog) (id : String) :
    catalog.boardOrDefault id ∈ catalog.boards := by
  unfold boardOrDefault board?
  cases h : catalog.boards.find? fun board => board.id = id with
  | none => exact catalog.defaultBoard_mem
  | some board => exact List.mem_of_find?_eq_some h

/-- Replace the first entry with the same id, or add the peripheral at the end. -/
def putEntry (peripheral : Peripheral) : List Peripheral → List Peripheral
  | [] => [peripheral]
  | entry :: entries =>
    if entry.id = peripheral.id then peripheral :: entries
    else entry :: putEntry peripheral entries

theorem find?_putEntry (peripheral : Peripheral) (entries : List Peripheral) (id : String) :
    (putEntry peripheral entries).find? (fun entry => entry.id = id) =
      if id = peripheral.id then some peripheral
      else entries.find? fun entry => entry.id = id := by
  induction entries with
  | nil =>
    simp [putEntry, List.find?_singleton, eq_comm]
  | cons entry entries ih =>
    simp only [putEntry]
    split
    · next h =>
      by_cases hid : id = peripheral.id
      · simp [hid]
      · have hne : peripheral.id ≠ id := Ne.symm hid
        have hne' : entry.id ≠ id := h ▸ hne
        simp [hid, hne, hne']
    · next h =>
      by_cases hentry : entry.id = id
      · have hne : id ≠ peripheral.id := fun heq => h (hentry.trans heq)
        simp [hentry, hne]
      · simp [hentry, ih]

def put (catalog : Catalog) (peripheral : Peripheral) : Catalog :=
  { catalog with peripherals := putEntry peripheral catalog.peripherals }

/-- Put peripherals in one after the other. -/
def putAll (catalog : Catalog) (peripherals : List Peripheral) : Catalog :=
  peripherals.foldl put catalog

/-- What is logged when peripherals are put in one after the other. -/
def putAllRecords : Catalog → List Peripheral → List Log.Record
  | _, [] => []
  | catalog, peripheral :: rest =>
    (match catalog.peripheral? peripheral.id with
      | some _ => [Log.info ("Overriding built-in module '" ++ peripheral.id ++ "'")]
      | none => []) ++ (catalog.put peripheral).putAllRecords rest

@[simp] theorem boards_put (catalog : Catalog) (peripheral : Peripheral) :
    (catalog.put peripheral).boards = catalog.boards := rfl

@[simp] theorem libraries_put (catalog : Catalog) (peripheral : Peripheral) :
    (catalog.put peripheral).libraries = catalog.libraries := rfl

@[simp] theorem peripheral?_put (catalog : Catalog) (peripheral : Peripheral) (id : String) :
    (catalog.put peripheral).peripheral? id =
      if id = peripheral.id then some peripheral else catalog.peripheral? id :=
  find?_putEntry peripheral catalog.peripherals id

end Catalog

end SensorNode
