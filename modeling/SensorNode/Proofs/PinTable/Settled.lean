import SensorNode.Proofs.PinTable.Nested
import SensorNode.Proofs.PinTable.Wired

/-!
# Settled picks

What a greedy pick leaves behind can be said of the picked pins alone: no pin of a later pick would
have served an earlier one better. Such a series of pins is called settled.

A table in which the pins of a settled series are free serves the series again, whatever else is
free in it, and picks no pin of a later rank. The induction is over the series: a pick that differs
from the old one comes before it, so by settledness it is none of the pins that are still to come,
and those stay free.
-/

namespace SensorNode

/-- No pin of a later pick comes before the pin of an earlier one that it could have served. -/
inductive Settled (board : Board) : List Capability → List Gpio → Prop where
  | nil : Settled board [] []
  | cons {capability : Capability} {rest : List Capability} {gpio : Gpio} {later : List Gpio}
      (first : ∀ g ∈ later, board.Provides capability g → board.rank gpio ≤ board.rank g)
      (tail : Settled board rest later) : Settled board (capability :: rest) (gpio :: later)

namespace PinTable

variable {table next : PinTable} {owner : AttachmentId} {capabilities : List Capability}
  {picked : List Gpio}

theorem settled_of_pick (distinct : (table.board.pins.map Pin.gpio).Nodup)
    (h : pick owner capabilities table = .ok (picked, next)) :
    Settled table.board capabilities picked := by
  induction capabilities generalizing table picked with
  | nil =>
      obtain ⟨rfl, -⟩ : [] = picked ∧ table = next := by simpa [pick] using h
      exact .nil
  | cons capability rest ih =>
      obtain ⟨gpio, middle, later, hgpio, hlater, rfl⟩ := pick_cons_eq_ok_iff.mp h
      obtain ⟨-, -, hboard, hmiddle⟩ := of_allocate? hgpio
      refine .cons ?_ (hboard ▸ ih (hboard ▸ distinct) hlater)
      -- what is picked later was free at first, too, so it was a candidate
      rintro g hg ⟨pin, hpin, rfl, hcan⟩
      have hfree : table.isFree pin.gpio :=
        ((hmiddle pin.gpio).mp ((served_of_pick hlater).isFree pin.gpio hg)).1
      exact rank_le_of_allocate? distinct hgpio (mem_candidates_iff.mpr ⟨hpin, hfree, hcan⟩)

/-- A settled series whose pins are free is served again, with pins of no later rank. -/
theorem exists_pick_of_settled (distinct : (table.board.pins.map Pin.gpio).Nodup)
    (settled : Settled table.board capabilities picked) (nodup : picked.Nodup)
    (provided : List.Forall₂ table.board.Provides capabilities picked)
    (free : ∀ gpio ∈ picked, table.isFree gpio) (owner : AttachmentId) :
    ∃ again next, pick owner capabilities table = .ok (again, next) ∧
      List.Forall₂ (fun g g' => table.board.rank g ≤ table.board.rank g') again picked := by
  induction capabilities generalizing table picked with
  | nil =>
      cases settled
      exact ⟨[], table, rfl, .nil⟩
  | cons capability rest ih =>
      cases settled with
      | @cons _ _ gpio later hfirst hsettled =>
      obtain ⟨⟨pin, hpin, rfl, hcan⟩, hprovided⟩ := List.forall₂_cons.mp provided
      obtain ⟨hnotin, hnodup⟩ := List.nodup_cons.mp nodup
      obtain ⟨hfree, hlaterfree⟩ := List.forall_mem_cons.mp free
      have hcandidate : pin ∈ table.candidates capability true :=
        mem_candidates_iff.mpr ⟨hpin, hfree, hcan⟩
      obtain ⟨first, middle, hallocate⟩ :
          ∃ first middle, table.allocate? owner capability true = some (first, middle) :=
        exists_allocate? hcandidate
      obtain ⟨-, hprovides, hboard, hmiddle⟩ := of_allocate? hallocate
      have hrank : table.board.rank first ≤ table.board.rank pin.gpio :=
        rank_le_of_allocate? distinct hallocate hcandidate
      -- were the new pin one of those to come, it would have been picked here before
      have hstill : ∀ g ∈ later, middle.isFree g := by
        intro g hg
        refine (hmiddle g).mpr ⟨hlaterfree g hg, ?_⟩
        rintro rfl
        have hback : table.board.rank pin.gpio ≤ table.board.rank g := hfirst g hg hprovides
        obtain ⟨other, -, rfl, -⟩ := hprovides
        exact hnotin (Board.eq_of_rank_eq hpin (le_antisymm hback hrank) ▸ hg)
      rw [← hboard] at distinct hsettled hprovided
      obtain ⟨again, next, hagain, hranks⟩ := ih distinct hsettled hnodup hprovided hstill
      exact ⟨first :: again, next, pick_cons_eq_ok_iff.mpr
        ⟨first, middle, again, hallocate, hagain, rfl⟩, .cons hrank (hboard ▸ hranks)⟩

end PinTable

/-- What a table assigns away from the bus is settled. -/
theorem PinTable.settled_of_assign {table next : PinTable} {id : AttachmentId}
    {peripheral : Peripheral} {attachment : Attachment}
    (distinct : (table.board.pins.map Pin.gpio).Nodup)
    (h : table.assign id peripheral = .ok (attachment, next)) {picked : List Gpio}
    (wired : Wired table.board attachment peripheral picked)
    (hbus : peripheral.bus ≠ some .i2c) : Settled table.board peripheral.requires picked := by
  obtain ⟨pins, hpins, rfl⟩ := assign_eq_ok_iff.mp h
  rcases assignPins_eq_ok_iff.mp hpins with ⟨hon, -⟩ | ⟨-, hpick⟩
  · exact absurd hon hbus
  · obtain rfl : pins = picked := PinMap.ofPins_injective wired.pins_eq
    exact settled_of_pick distinct hpick

/-- An attachment whose pins are settled and free can be wired once more, with pins of no later
rank. A bus peripheral needs neither. -/
theorem Wired.exists_assignPins {table : PinTable} {attachment : Attachment}
    {peripheral : Peripheral} {picked : List Gpio}
    (wired : Wired table.board attachment peripheral picked)
    (distinct : (table.board.pins.map Pin.gpio).Nodup)
    (settled : peripheral.bus ≠ some .i2c → Settled table.board peripheral.requires picked)
    (free : peripheral.bus ≠ some .i2c → ∀ gpio ∈ picked, table.isFree gpio)
    (id : AttachmentId) :
    ∃ again next, table.assignPins id peripheral = .ok (again, next) ∧
      List.Forall₂ (fun g g' => table.board.rank g ≤ table.board.rank g') again picked := by
  by_cases hbus : peripheral.bus = some .i2c
  · have hpicked := wired.bus_eq hbus
    exact ⟨picked, _, PinTable.assignPins_eq_ok_iff.mpr (.inl ⟨hbus, hpicked, rfl⟩),
      List.forall₂_same.mpr fun _ _ => le_rfl⟩
  · obtain ⟨again, next, hagain, hranks⟩ := PinTable.exists_pick_of_settled distinct
      (settled hbus) (wired.nodup hbus) (wired.provided hbus) (free hbus) id
    exact ⟨again, next, PinTable.assignPins_eq_ok_iff.mpr (.inr ⟨hbus, hagain⟩), hranks⟩

end SensorNode
