import SensorNode.PinTable
import Mathlib.Data.List.Basic
import Mathlib.Data.Prod.Lex

/-!
# Precedence of pins

Pins without restriction are taken before restricted ones, and those of a kind in the order in which
the board declares them. On a board with distinct pins this orders the pins strictly, and
`safeFirst` lists any selection of them by it.
-/

namespace SensorNode.Board

variable {board : Board}

/-- On a board with distinct pins a pin is found under its number. -/
theorem pin?_gpio (distinct : (board.pins.map Pin.gpio).Nodup) {pin : Pin}
    (h : pin ∈ board.pins) : board.pin? pin.gpio = some pin := by
  rw [pin?]
  generalize board.pins = pins at distinct h
  induction pins with
  | nil => simp at h
  | cons first rest ih =>
      obtain ⟨hfirst, hrest⟩ := List.nodup_cons.mp distinct
      rcases List.mem_cons.mp h with rfl | h
      · simp
      · have hne : first.gpio ≠ pin.gpio := fun heq => hfirst (heq ▸ List.mem_map_of_mem h)
        simpa [hne] using ih hrest h

/-- The place of a pin in the declaration of the board. -/
def position (board : Board) (gpio : Gpio) : Nat := (board.pins.map Pin.gpio).idxOf gpio

/-- The place of a pin in the order in which pins are taken. -/
def rank (board : Board) (gpio : Gpio) : Bool ×ₗ Nat :=
  toLex ((board.pin? gpio).any Pin.restricted, board.position gpio)

theorem eq_of_rank_eq {pin other : Pin} (h : pin ∈ board.pins)
    (hrank : board.rank pin.gpio = board.rank other.gpio) : pin.gpio = other.gpio :=
  (List.idxOf_inj (List.mem_map_of_mem h)).mp (congrArg (fun rank => (ofLex rank).2) hrank)

section

variable (distinct : (board.pins.map Pin.gpio).Nodup)
include distinct

theorem rank_lt_iff {a b : Pin} (ha : a ∈ board.pins) (hb : b ∈ board.pins) :
    board.rank a.gpio < board.rank b.gpio ↔
      a.restricted < b.restricted ∨
        a.restricted = b.restricted ∧ board.position a.gpio < board.position b.gpio := by
  rw [rank, rank, pin?_gpio distinct ha, pin?_gpio distinct hb, Prod.Lex.toLex_lt_toLex]
  rfl

theorem pairwise_position_lt :
    board.pins.Pairwise fun a b => board.position a.gpio < board.position b.gpio := by
  apply List.pairwise_iff_getElem.mpr
  intro i j hi hj hlt
  have hposition (k : Nat) (hk : k < board.pins.length) :
      board.position board.pins[k].gpio = k := by
    have hk' : k < (board.pins.map Pin.gpio).length := by rwa [List.length_map]
    have := distinct.idxOf_getElem k hk'
    rwa [List.getElem_map] at this
  rwa [hposition i hi, hposition j hj]

/-- A selection of the pins of the board is listed by rank. -/
theorem pairwise_rank_lt_safeFirst {pins : List Pin} (h : pins.Sublist board.pins) :
    (PinTable.safeFirst pins).Pairwise fun a b => board.rank a.gpio < board.rank b.gpio := by
  have hpairs := (pairwise_position_lt distinct).sublist h
  have hkind (keep : Pin → Bool) (restricted : Bool)
      (hkeep : ∀ pin, keep pin → pin.restricted = restricted) :
      (pins.filter keep).Pairwise fun a b => board.rank a.gpio < board.rank b.gpio := by
    apply (hpairs.filter keep).imp_of_mem
    intro a b ha hb hlt
    obtain ⟨ha, hakeep⟩ := List.mem_filter.mp ha
    obtain ⟨hb, hbkeep⟩ := List.mem_filter.mp hb
    have hsame := (hkeep _ hakeep).trans (hkeep _ hbkeep).symm
    exact (rank_lt_iff distinct (h.subset ha) (h.subset hb)).mpr (.inr ⟨hsame, hlt⟩)
  refine List.pairwise_append.mpr ⟨hkind _ false (by simp), hkind _ true (by simp), ?_⟩
  intro a ha b hb
  obtain ⟨ha, hafree⟩ := List.mem_filter.mp ha
  obtain ⟨hb, hbrestricted⟩ := List.mem_filter.mp hb
  refine (rank_lt_iff distinct (h.subset ha) (h.subset hb)).mpr (.inl ?_)
  exact Bool.lt_iff.mpr ⟨by simpa using hafree, hbrestricted⟩

end

end SensorNode.Board
