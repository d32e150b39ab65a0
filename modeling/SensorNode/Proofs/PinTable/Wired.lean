import SensorNode.Proofs.Board.Precedence
import SensorNode.Proofs.PinTable.Assignment

/-!
# Wired attachments

What a table assigns to a peripheral, told of the attachment alone: its names, its pins and their
capabilities.
-/

namespace SensorNode

/-- The pins of the shared bus. -/
def Board.OnBus (board : Board) (gpio : Gpio) : Prop := gpio = board.i2c.sda ∨ gpio = board.i2c.scl

/-- An attachment records a list of pins as its peripheral asks for: those of the shared bus, or
one for each capability. -/
structure Wired (board : Board) (attachment : Attachment) (peripheral : Peripheral)
    (picked : List Gpio) : Prop where
  peripheralId_eq : attachment.peripheralId = peripheral.id
  pins_eq : attachment.pins = .ofPins picked
  length_eq : picked.length = peripheral.arity
  bus_eq : peripheral.bus = some .i2c → picked = [board.i2c.sda, board.i2c.scl]
  nodup : peripheral.bus ≠ some .i2c → picked.Nodup
  provided : peripheral.bus ≠ some .i2c → List.Forall₂ board.Provides peripheral.requires picked

namespace Wired

variable {board : Board} {attachment : Attachment} {peripheral : Peripheral} {picked : List Gpio}

theorem mem_gpios_iff (wired : Wired board attachment peripheral picked) {gpio : Gpio} :
    gpio ∈ attachment.gpios ↔ gpio ∈ picked := by
  obtain ⟨id, peripheralId, pins⟩ := attachment
  obtain rfl : pins = .ofPins picked := wired.pins_eq
  exact Attachment.mem_gpios_ofPins

theorem pin?_eq (wired : Wired board attachment peripheral picked) (i : Nat) :
    attachment.pin? i = picked[i]? := by
  rw [Attachment.pin?, wired.pins_eq, PinMap.get?_ofPins_pinName]

/-- Exactly the names that the peripheral needs are recorded. -/
theorem mem_keys_iff (wired : Wired board attachment peripheral picked) {name : String} :
    name ∈ attachment.pins.keys ↔ ∃ i < peripheral.arity, name = pinName i := by
  rw [wired.pins_eq, PinMap.mem_keys_ofPins_iff, wired.length_eq]

theorem has_of_mem (wired : Wired board attachment peripheral picked)
    (hsda : board.has board.i2c.sda) (hscl : board.has board.i2c.scl) {gpio : Gpio}
    (h : gpio ∈ picked) : board.has gpio := by
  by_cases hbus : peripheral.bus = some .i2c
  · rw [wired.bus_eq hbus] at h
    rcases List.mem_pair.mp h with rfl | rfl
    · exact hsda
    · exact hscl
  · exact Board.has_of_provides (wired.provided hbus) h

theorem exists_pin (wired : Wired board attachment peripheral picked)
    (distinct : (board.pins.map Pin.gpio).Nodup) (hbus : peripheral.bus ≠ some .i2c) {i : Nat}
    {capability : Capability} (h : peripheral.requires[i]? = some capability) :
    ∃ gpio pin, attachment.pin? i = some gpio ∧ board.pin? gpio = some pin ∧
      pin.can capability := by
  obtain ⟨hi, rfl⟩ := List.getElem?_eq_some_iff.mp h
  have hprovided := wired.provided hbus
  have hi' : i < picked.length := hprovided.length_eq ▸ hi
  obtain ⟨pin, hpin, hgpio, hcan⟩ := hprovided.get hi hi'
  refine ⟨picked[i], pin, ?_, ?_, hcan⟩
  · rw [wired.pin?_eq, List.getElem?_eq_getElem hi']
  · rw [← Board.pin?_gpio distinct hpin, hgpio]
    rfl

/-- Two names of one attachment record one pin only if it sits on the bus. -/
theorem bus_of_repeated (wired : Wired board attachment peripheral picked) {name name' : String}
    {gpio : Gpio} (h : attachment.pins.get? name = some gpio)
    (h' : attachment.pins.get? name' = some gpio) (hne : name ≠ name') :
    board.OnBus gpio ∧ peripheral.bus = some .i2c := by
  rw [wired.pins_eq] at h h'
  obtain ⟨i, hi, rfl⟩ := PinMap.get?_ofPins_eq_some_iff.mp h
  obtain ⟨j, hj, rfl⟩ := PinMap.get?_ofPins_eq_some_iff.mp h'
  by_cases hbus : peripheral.bus = some .i2c
  · have hmem : gpio ∈ picked := List.mem_of_getElem? hi
    rw [wired.bus_eq hbus] at hmem
    exact ⟨List.mem_pair.mp hmem, hbus⟩
  · obtain ⟨hlt, hgpio⟩ := List.getElem?_eq_some_iff.mp hi
    have hij : i = j := (List.getElem?_inj hlt (wired.nodup hbus)).mp (hi.trans hj.symm)
    exact absurd (congrArg pinName hij) hne

end Wired

/-- What a table assigns is wired, and away from the bus it was free. -/
theorem PinTable.wired_of_assign {table next : PinTable} {id : AttachmentId}
    {peripheral : Peripheral} {attachment : Attachment}
    (h : table.assign id peripheral = .ok (attachment, next)) :
    ∃ picked, Wired table.board attachment peripheral picked ∧
      (peripheral.bus ≠ some .i2c → ∀ gpio ∈ picked, table.board.has gpio ∧ table.isFree gpio) := by
  obtain ⟨picked, hpicked, rfl⟩ := assign_eq_ok_iff.mp h
  refine ⟨picked, ?_⟩
  rcases assignPins_eq_ok_iff.mp hpicked with ⟨hbus, hpins, -⟩ | ⟨hbus, hpick⟩
  · refine ⟨⟨rfl, rfl, ?_, fun _ => hpins, absurd hbus, absurd hbus⟩, absurd hbus⟩
    simp [hpins, Peripheral.arity, hbus]
  · have served := served_of_pick hpick
    refine ⟨⟨rfl, rfl, ?_, fun h => absurd h hbus, fun _ => served.nodup,
      fun _ => served.provided⟩, fun _ gpio hgpio => ?_⟩
    · simp [Peripheral.arity, hbus, served.provided.length_eq]
    · exact ⟨Board.has_of_provides served.provided hgpio, served.isFree gpio hgpio⟩

end SensorNode
