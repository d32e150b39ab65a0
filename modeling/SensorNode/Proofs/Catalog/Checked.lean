import SensorNode.Proofs.Catalog.DirectoryLoad
import SensorNode.Proofs.Catalog.Insertion
import SensorNode.Proofs.Template.Filling

/-!
# Checked entries

Every board and every peripheral of a catalog that was built from entries, and then extended by
peripherals and directories, passes its check. For a board this means that its pins have distinct
numbers and that the pins of its shared bus are among them, for a peripheral that its fragments use
no slot but the declared ones.
-/

namespace SensorNode

/-- A board passes when its id shows, its pins are distinct and its bus pins are among them. -/
theorem Board.check_eq_ok_iff {board : Board} :
    board.check = .ok () ↔
      Text.isBlank board.id = false ∧ (board.pins.map Pin.gpio).Nodup ∧
        board.has board.i2c.sda ∧ board.has board.i2c.scl := by
  have hid : idFaults .board board.id = [] ↔ Text.isBlank board.id = false := by simp [idFaults]
  have hpins : board.pinFaults = [] ↔ (board.pins.map Pin.gpio).Nodup := by
    simp [pinFaults, entryFaults_eq_nil_iff]
  have hbus : board.busFaults = [] ↔ board.has board.i2c.sda ∧ board.has board.i2c.scl := by
    simp [busFaults]
  rw [check, firstFault_eq_ok_iff, faults, List.append_eq_nil_iff, List.append_eq_nil_iff, hid,
    hpins, hbus, and_assoc]

/-- A peripheral passes when its id shows, its fragments use declared slots only, so does the
command that it may leave to the default, and its header lines use none. -/
theorem Peripheral.check_eq_ok_iff {peripheral : Peripheral} :
    peripheral.check = .ok () ↔
      Text.isBlank peripheral.id = false ∧
        (∀ entry ∈ peripheral.fragments, ∀ name ∈ (Template.parse entry.2).slots,
          name ∈ peripheral.declaredSlots) ∧
        (peripheral.isCommand → peripheral.command = none →
          pinName 0 ∈ peripheral.declaredSlots) ∧
        ∀ line ∈ peripheral.includes, (Template.parse line).slots = [] := by
  have hslot (fragment : Fragment) (slots : List String) :
      peripheral.slotFaults fragment slots = [] ↔ slots = [] := by
    simp [slotFaults]
  have hid : idFaults .peripheral peripheral.id = [] ↔ Text.isBlank peripheral.id = false := by
    simp [idFaults]
  have hfragments : peripheral.fragmentFaults = [] ↔
      ∀ entry ∈ peripheral.fragments, ∀ name ∈ (Template.parse entry.2).slots,
        name ∈ peripheral.declaredSlots := by
    simp [fragmentFaults, hslot, undeclared, Template.placeholders, Template.mem_names]
  have hswitch : peripheral.switchFaults = [] ↔
      (peripheral.isCommand → peripheral.command = none →
        pinName 0 ∈ peripheral.declaredSlots) := by
    have hpin : pinName 0 = "PIN_0" := by decide +kernel
    simp [switchFaults, hslot, undeclared, Template.mem_names, hpin]
  have hincludes : peripheral.includeFaults = [] ↔
      ∀ line ∈ peripheral.includes, (Template.parse line).slots = [] := by
    simp [includeFaults, hslot, Template.placeholders, Template.names_eq_nil_iff]
  rw [check, firstFault_eq_ok_iff, faults, List.append_eq_nil_iff, List.append_eq_nil_iff,
    List.append_eq_nil_iff, hid, hfragments, hswitch, hincludes, and_assoc, and_assoc]

namespace Catalog

theorem build_eq_ok_iff {boards : List Board} {peripherals : List Peripheral}
    {libraries : List Library} {catalog : Catalog} :
    build boards peripherals libraries = .ok catalog ↔
      faults boards peripherals libraries = [] ∧ catalog.boards = boards ∧
        catalog.peripherals = peripherals ∧ catalog.libraries = libraries := by
  unfold build
  by_cases hboards : boards = []
  · simp only [hboards, ↓reduceDIte, reduceCtorEq, false_iff, not_and]
    exact fun _ h => absurd h catalog.boards_ne_nil
  · simp only [hboards, ↓reduceDIte, Outcome.map_eq_ok_iff]
    constructor
    · rintro ⟨_, hfaults, rfl⟩
      exact ⟨firstFault_eq_ok_iff.mp hfaults, rfl, rfl, rfl⟩
    · rintro ⟨hfaults, rfl, rfl, rfl⟩
      exact ⟨(), firstFault_eq_ok_iff.mpr hfaults, rfl⟩

/-- The catalogs that can be had: built from entries, then extended step by step. -/
inductive Reachable : Catalog → Prop where
  | build {boards : List Board} {peripherals : List Peripheral} {libraries : List Library}
      {catalog : Catalog} (h : build boards peripherals libraries = .ok catalog) :
      Reachable catalog
  | insert {catalog next : Catalog} {peripheral : Peripheral} (before : Reachable catalog)
      (h : catalog.insert peripheral = .ok next) : Reachable next
  | load {catalog : Catalog} (before : Reachable catalog) (disk : Disk) (directory : String) :
      Reachable ((catalog.loadDirectory Disk.access directory).run disk).1.1

/-- Every board and every peripheral passes its check. -/
structure Checked (catalog : Catalog) : Prop where
  board : ∀ board ∈ catalog.boards, board.check = .ok ()
  peripheral : ∀ peripheral ∈ catalog.peripherals, peripheral.check = .ok ()

namespace Checked

variable {catalog : Catalog}

theorem put {peripheral : Peripheral} (checked : Checked catalog)
    (h : peripheral.check = .ok ()) : Checked (catalog.put peripheral) := by
  refine ⟨checked.board, ?_⟩
  intro other hother
  rcases mem_of_mem_putEntry hother with rfl | hother
  · exact h
  · exact checked.peripheral other hother

theorem putAll {peripherals : List Peripheral} (checked : Checked catalog)
    (h : ∀ peripheral ∈ peripherals, peripheral.check = .ok ()) :
    Checked (catalog.putAll peripherals) :=
  putAll_induction checked fun peripheral hmem _ ih => ih.put (h peripheral hmem)

end Checked

theorem Reachable.checked {catalog : Catalog} (h : Reachable catalog) : Checked catalog := by
  induction h with
  | build h =>
      obtain ⟨hfaults, rfl, rfl, rfl⟩ := build_eq_ok_iff.mp h
      simp only [faults, List.append_eq_nil_iff, entryFaults_eq_nil_iff] at hfaults
      obtain ⟨⟨⟨hboards, -⟩, hperipherals, -⟩, -⟩ := hfaults
      exact ⟨fun board h => firstFault_eq_ok_iff.mpr (hboards board h),
        fun peripheral h => firstFault_eq_ok_iff.mpr (hperipherals peripheral h)⟩
  | insert _ h ih =>
      obtain ⟨hcheck, rfl⟩ := insert_eq_ok_iff.mp h
      exact ih.put hcheck
  | @load catalog _ disk directory ih =>
      obtain ⟨peripherals, hchecked, hload⟩ :=
        exists_putAll_of_run_loadDirectory Disk.access catalog directory disk
      rw [hload]
      exact ih.putAll hchecked

theorem mem_of_peripheral? {catalog : Catalog} {id : String} {peripheral : Peripheral}
    (h : catalog.peripheral? id = some peripheral) :
    peripheral ∈ catalog.peripherals ∧ peripheral.id = id :=
  ⟨List.mem_of_find?_eq_some h, by simpa using List.find?_some h⟩

namespace Small

/-- A board with no pins but those of its bus, which can also be switched. -/
def twoPins : Board where
  id := "two"
  name := "Two Pins"
  mcu := .esp32
  pins :=
    [{ gpio := 4, label := "D4", capabilities := [.digitalOut, .i2c] },
      { gpio := 5, label := "D5", capabilities := [.digitalOut, .i2c] }]
  i2c := ⟨4, 5⟩
  spi := ⟨4, 4, 5, 5⟩

/-- Switched by the default command. -/
def lamp : Peripheral where
  id := "lamp"
  name := "Lamp"
  category := .actuator
  requires := [.digitalOut]
  constructor := "int lamp_" ++ Template.slotText "ID" ++ ";"
  topic := .command

def clock : Peripheral where
  id := "clock"
  name := "Clock"
  category := .display
  requires := [.i2c, .i2c]
  bus := some .i2c
  constructor := "Clock clock;"

end Small

/-- A catalog with one board, a peripheral with a pin of its own and one on the bus. -/
def small : Catalog := ⟨[Small.twoPins], [Small.lamp, Small.clock], [], by simp⟩

theorem Reachable.small : Reachable small :=
  .build (build_eq_ok_iff.mpr ⟨by decide +kernel, rfl, rfl, rfl⟩)

end Catalog

end SensorNode
