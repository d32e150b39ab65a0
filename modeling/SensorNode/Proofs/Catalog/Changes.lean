import SensorNode.Proofs.Catalog.Checked
import SensorNode.Proofs.PinTable.Reservations

/-!
# Changes of a catalog

A catalog can be built exactly from entries that are well-formed. Afterwards it changes by
peripherals that are inserted, which may be refused, and by directories that are loaded, whatever
files they have. No such change touches the boards and the libraries, makes an id occur twice or
lets a peripheral in that does not pass its check. Either kind of change puts checked peripherals
in one after the other, so a single one is looked at.
-/

namespace SensorNode

theorem Board.has_iff_mem {board : Board} {gpio : Gpio} :
    board.has gpio ↔ gpio ∈ board.pins.map Pin.gpio := by
  rw [has_iff, List.mem_map]

namespace Catalog

/-- The entries that make a catalog. -/
structure WellFormed (boards : List Board) (peripherals : List Peripheral)
    (libraries : List Library) : Prop where
  boards_ne_nil : boards ≠ []
  boardIdShows : ∀ board ∈ boards, ∃ c ∈ board.id.toList, Text.isSpace c = false
  pins : ∀ board ∈ boards, (board.pins.map Pin.gpio).Nodup
  sda : ∀ board ∈ boards, board.i2c.sda ∈ board.pins.map Pin.gpio
  scl : ∀ board ∈ boards, board.i2c.scl ∈ board.pins.map Pin.gpio
  boardIds : (boards.map Board.id).Nodup
  peripheral : ∀ peripheral ∈ peripherals, peripheral.check = .ok ()
  peripheralIds : (peripherals.map Peripheral.id).Nodup
  libraryIds : (libraries.map Library.id).Nodup

/-- What a check of each board and each list of ids finds, said of the entries. -/
theorem faults_eq_nil_iff {boards : List Board} {peripherals : List Peripheral}
    {libraries : List Library} :
    faults boards peripherals libraries = [] ↔
      ((∀ board ∈ boards, board.check = .ok ()) ∧ (boards.map Board.id).Nodup) ∧
        ((∀ peripheral ∈ peripherals, peripheral.check = .ok ()) ∧
          (peripherals.map Peripheral.id).Nodup) ∧
        (libraries.map Library.id).Nodup := by
  simp [faults, entryFaults_eq_nil_iff, Board.check, Peripheral.check, and_assoc]

theorem exists_build_iff {boards : List Board} {peripherals : List Peripheral}
    {libraries : List Library} :
    (∃ catalog, build boards peripherals libraries = .ok catalog) ↔
      WellFormed boards peripherals libraries := by
  simp only [build_eq_ok_iff, faults_eq_nil_iff]
  constructor
  · rintro ⟨catalog, ⟨⟨hboards, hboardIds⟩, ⟨hperipherals, hids⟩, hlibraries⟩, rfl, -, -⟩
    have hboard (board : Board) (h : board ∈ catalog.boards) :=
      Board.check_eq_ok_iff.mp (hboards board h)
    exact {
      boards_ne_nil := catalog.boards_ne_nil
      boardIdShows := fun board h => Text.isBlank_eq_false_iff.mp (hboard board h).1
      pins := fun board h => (hboard board h).2.1
      sda := fun board h => Board.has_iff_mem.mp (hboard board h).2.2.1
      scl := fun board h => Board.has_iff_mem.mp (hboard board h).2.2.2
      boardIds := hboardIds
      peripheral := hperipherals
      peripheralIds := hids
      libraryIds := hlibraries }
  · intro h
    have hboard (board : Board) (hmem : board ∈ boards) : board.check = .ok () :=
      Board.check_eq_ok_iff.mpr ⟨Text.isBlank_eq_false_iff.mpr (h.boardIdShows board hmem),
        h.pins board hmem, Board.has_iff_mem.mpr (h.sda board hmem),
        Board.has_iff_mem.mpr (h.scl board hmem)⟩
    exact ⟨⟨boards, peripherals, libraries, h.boards_ne_nil⟩,
      ⟨⟨hboard, h.boardIds⟩, ⟨h.peripheral, h.peripheralIds⟩, h.libraryIds⟩, rfl, rfl, rfl⟩

/-- What can be done to a catalog. The files of a directory may change while they are read. -/
inductive Change : Type 1 where
  | insert (peripheral : Peripheral)
  | load {σ : Type} (files : FileAccess (StateM σ)) (state : σ) (directory : String)

/-- The catalog after a change; an insertion that is refused changes nothing. -/
def change (catalog : Catalog) : Change → Catalog
  | .insert peripheral =>
    match catalog.insert peripheral with
    | .ok next => next
    | .error _ => catalog
  | .load files state directory => ((catalog.loadDirectory files directory).run state).1.1

def changeAll (catalog : Catalog) (changes : List Change) : Catalog := changes.foldl change catalog

/-- What no change takes away. -/
structure Kept (start catalog : Catalog) : Prop where
  boards : catalog.boards = start.boards
  libraries : catalog.libraries = start.libraries
  ids : (catalog.peripherals.map Peripheral.id).Nodup
  checked : Checked catalog

namespace Kept

variable {start catalog : Catalog}

theorem of_build {boards : List Board} {peripherals : List Peripheral} {libraries : List Library}
    (h : build boards peripherals libraries = .ok catalog) : Kept catalog catalog := by
  have hids := (exists_build_iff.mp ⟨catalog, h⟩).peripheralIds
  obtain ⟨-, -, rfl, -⟩ := build_eq_ok_iff.mp h
  exact ⟨rfl, rfl, hids, (Reachable.build h).checked⟩

theorem put {peripheral : Peripheral} (kept : Kept start catalog)
    (h : peripheral.check = .ok ()) : Kept start (catalog.put peripheral) where
  boards := kept.boards
  libraries := kept.libraries
  ids := by
    change ((putEntry peripheral catalog.peripherals).map Peripheral.id).Nodup
    rw [map_id_putEntry]
    exact nodup_insertNew kept.ids
  checked := kept.checked.put h

theorem putAll {peripherals : List Peripheral} (kept : Kept start catalog)
    (h : ∀ peripheral ∈ peripherals, peripheral.check = .ok ()) :
    Kept start (catalog.putAll peripherals) :=
  putAll_induction kept fun peripheral hmem _ ih => ih.put (h peripheral hmem)

theorem change (kept : Kept start catalog) (change : Change) :
    Kept start (catalog.change change) := by
  cases change with
  | insert peripheral =>
      rw [Catalog.change]
      cases h : catalog.insert peripheral with
      | error error => exact kept
      | ok next =>
          obtain ⟨hcheck, rfl⟩ := insert_eq_ok_iff.mp h
          exact kept.put hcheck
  | load files state directory =>
      obtain ⟨peripherals, hchecked, hload⟩ :=
        exists_putAll_of_run_loadDirectory files catalog directory state
      rw [Catalog.change, hload]
      exact kept.putAll hchecked

theorem changeAll (kept : Kept start catalog) (changes : List Change) :
    Kept start (catalog.changeAll changes) := by
  induction changes generalizing catalog with
  | nil => exact kept
  | cons change changes ih => exact ih (kept.change change)

end Kept

/-- How a catalog answers after every history of changes. -/
structure Consistent (start catalog : Catalog) : Prop extends Kept start catalog where
  accepts : ∀ peripheral,
    (∃ next, catalog.insert peripheral = .ok next) ↔ peripheral.check = .ok ()
  accepted : ∀ peripheral next, catalog.insert peripheral = .ok next →
    catalog.change (.insert peripheral) = next ∧ Inserted peripheral catalog next
  refused : ∀ peripheral error, catalog.insert peripheral = .error error →
    catalog.change (.insert peripheral) = catalog
  defaultBoard : catalog.defaultBoard ∈ start.boards
  boardOrDefault : ∀ id, catalog.boardOrDefault id ∈ start.boards

theorem Kept.consistent {start catalog : Catalog} (kept : Kept start catalog) :
    Consistent start catalog where
  toKept := kept
  accepts peripheral := by
    simp only [insert_eq_ok_iff, exists_and_left, exists_eq, and_true]
  accepted peripheral next h := by
    refine ⟨by rw [Catalog.change, h], ?_⟩
    obtain ⟨-, rfl⟩ := insert_eq_ok_iff.mp h
    exact inserted_put kept.ids
  refused peripheral error h := by rw [Catalog.change, h]
  defaultBoard := kept.boards ▸ catalog.defaultBoard_mem
  boardOrDefault id := kept.boards ▸ catalog.boardOrDefault_mem id

/-- A catalog is built exactly from well-formed entries, as they are, and stays consistent whatever
is inserted and loaded. -/
theorem build_and_change (boards : List Board) (peripherals : List Peripheral)
    (libraries : List Library) :
    ((∃ catalog, build boards peripherals libraries = .ok catalog) ↔
        WellFormed boards peripherals libraries) ∧
      ∀ catalog, build boards peripherals libraries = .ok catalog →
        catalog.boards = boards ∧ catalog.peripherals = peripherals ∧
          catalog.libraries = libraries ∧
          ∀ changes, Consistent catalog (catalog.changeAll changes) := by
  refine ⟨exists_build_iff, ?_⟩
  intro catalog h
  obtain ⟨-, hboards, hperipherals, hlibraries⟩ := build_eq_ok_iff.mp h
  exact ⟨hboards, hperipherals, hlibraries, fun changes =>
    ((Kept.of_build h).changeAll changes).consistent⟩

/-- A second lamp takes the place of the first, one without an id is refused. -/
theorem build_and_change_lamps :
    let second : Peripheral := { Small.lamp with name := "Second Lamp" }
    let unnamed : Peripheral := { Small.lamp with id := " " }
    ∃ catalog, build [Small.twoPins] [Small.lamp, Small.clock] [] = .ok catalog ∧
      Consistent catalog (catalog.changeAll [.insert second, .insert unnamed]) ∧
      (catalog.changeAll [.insert second, .insert unnamed]).peripherals.map Peripheral.name =
        ["Second Lamp", "Clock"] := by
  intro second unnamed
  have hbuild : build [Small.twoPins] [Small.lamp, Small.clock] [] = .ok small :=
    build_eq_ok_iff.mpr ⟨by decide +kernel, rfl, rfl, rfl⟩
  obtain ⟨-, hchange⟩ := build_and_change [Small.twoPins] [Small.lamp, Small.clock] []
  obtain ⟨-, -, -, hconsistent⟩ := hchange small hbuild
  exact ⟨small, hbuild, hconsistent _, by decide +kernel⟩

end Catalog

end SensorNode
