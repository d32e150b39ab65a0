import SensorNode.Proofs.Board.Precedence
import SensorNode.Proofs.PinTable.Assignment

/-!
# Tables with nested free pins

Picking is greedy: a pin that becomes free can shift every later pick of a series. Still a table is
never worse off than one of the same board with fewer free pins. It serves each series that the
other one serves, and picks no pin of a later rank.

The induction is over the series, with two tables that stay nested although they pick different
pins. For if the pin that the freer table picks is free in the other one, it comes first there too.
-/

namespace SensorNode.PinTable

variable {table next : PinTable} {owner : AttachmentId} {capability : Capability}

theorem pairwise_rank_lt_candidates (distinct : (table.board.pins.map Pin.gpio).Nodup) :
    (table.candidates capability true).Pairwise
      fun a b => table.board.rank a.gpio < table.board.rank b.gpio := by
  have hsublist : (table.available capability).Sublist table.board.pins := List.filter_sublist
  simpa [candidates] using Board.pairwise_rank_lt_safeFirst distinct hsublist

/-- No candidate comes before the pin that is picked. -/
theorem rank_le_of_allocate? (distinct : (table.board.pins.map Pin.gpio).Nodup) {gpio : Gpio}
    (h : table.allocate? owner capability true = some (gpio, next)) {pin : Pin}
    (hpin : pin ∈ table.candidates capability true) :
    table.board.rank gpio ≤ table.board.rank pin.gpio := by
  obtain ⟨first, hfirst, rfl, -⟩ := allocate?_eq_some_iff.mp h
  have hpairs : (table.candidates capability true).Pairwise
      fun a b => table.board.rank a.gpio < table.board.rank b.gpio :=
    pairwise_rank_lt_candidates distinct
  obtain ⟨rest, hrest⟩ := List.head?_eq_some_iff.mp hfirst
  rw [hrest] at hpin hpairs
  rcases List.mem_cons.mp hpin with rfl | hpin
  · exact le_rfl
  · exact ((List.pairwise_cons.mp hpairs).1 pin hpin).le

theorem exists_allocate? {pin : Pin} (hpin : pin ∈ table.candidates capability true) :
    ∃ gpio next, table.allocate? owner capability true = some (gpio, next) := by
  obtain ⟨first, hfirst⟩ := Option.ne_none_iff_exists'.mp
    (mt List.head?_eq_none_iff.mp (List.ne_nil_of_mem hpin))
  exact ⟨_, _, allocate?_eq_some_iff.mpr ⟨first, hfirst, rfl, rfl⟩⟩

/-- Tables of one board; what is free in the second is free in the first. -/
structure Freer (t u : PinTable) : Prop where
  board_eq : t.board = u.board
  isFree_of : ∀ gpio, u.isFree gpio → t.isFree gpio

namespace Freer

variable {t u u' : PinTable} {a b : AttachmentId}

/-- One pick from each of two nested tables, the second of which has one to make. -/
theorem allocate? (h : Freer t u) (distinct : (u.board.pins.map Pin.gpio).Nodup) {gpio : Gpio}
    (hu : u.allocate? b capability true = some (gpio, u')) :
    ∃ first t', t.allocate? a capability true = some (first, t') ∧
      u.board.rank first ≤ u.board.rank gpio ∧ Freer t' u' := by
  obtain ⟨hfree, ⟨pin, hpin, rfl, hcan⟩, hboard, hnext⟩ := of_allocate? hu
  have hcandidate : pin ∈ t.candidates capability true :=
    mem_candidates_iff.mpr ⟨h.board_eq ▸ hpin, h.isFree_of _ hfree, hcan⟩
  have hserved : ∃ gpio t', t.allocate? a capability true = some (gpio, t') :=
    exists_allocate? hcandidate
  obtain ⟨_, t', hfirst⟩ := hserved
  obtain ⟨-, ⟨first, hmem, rfl, hfirstcan⟩, hboard', hnext'⟩ := of_allocate? hfirst
  rw [h.board_eq] at hmem
  have hrank : u.board.rank first.gpio ≤ u.board.rank pin.gpio := by
    rw [← h.board_eq] at distinct ⊢
    exact rank_le_of_allocate? distinct hfirst hcandidate
  refine ⟨first.gpio, t', hfirst, hrank, ?_, ?_⟩
  · rw [hboard', h.board_eq, hboard]
  · intro g hg
    obtain ⟨hgfree, hne⟩ := (hnext g).mp hg
    refine (hnext' g).mpr ⟨h.isFree_of g hgfree, ?_⟩
    -- were the first pin of `t` free in `u`, then `u` would have picked it as well
    rintro rfl
    have hcandidate' : first ∈ u.candidates capability true :=
      mem_candidates_iff.mpr ⟨hmem, hgfree, hfirstcan⟩
    have hle := rank_le_of_allocate? distinct hu hcandidate'
    exact hne (Board.eq_of_rank_eq hmem (le_antisymm hrank hle))

/-- A freer table serves the same series, with pins of no later rank. -/
theorem pick (h : Freer t u) (distinct : (u.board.pins.map Pin.gpio).Nodup)
    {capabilities : List Capability} {picked : List Gpio}
    (hu : PinTable.pick b capabilities u = .ok (picked, u')) :
    ∃ earlier t', PinTable.pick a capabilities t = .ok (earlier, t') ∧
      List.Forall₂ (fun g g' => u.board.rank g ≤ u.board.rank g') earlier picked := by
  induction capabilities generalizing t u picked with
  | nil =>
      obtain ⟨rfl, -⟩ : [] = picked ∧ u = u' := by simpa [PinTable.pick] using hu
      exact ⟨[], t, rfl, .nil⟩
  | cons capability rest ih =>
      obtain ⟨gpio, middle, later, hgpio, hlater, rfl⟩ := pick_cons_eq_ok_iff.mp hu
      obtain ⟨first, t', hfirst, hrank, hnested⟩ := h.allocate? (a := a) distinct hgpio
      have hboard : middle.board = u.board := (of_allocate? hgpio).2.2.1
      obtain ⟨earlier, t'', hearlier, hranks⟩ := ih hnested (hboard ▸ distinct) hlater
      exact ⟨first :: earlier, t'', pick_cons_eq_ok_iff.mpr
        ⟨first, t', earlier, hfirst, hearlier, rfl⟩, .cons hrank (hboard ▸ hranks)⟩

/-- A freer table wires the same peripherals, with pins of no later rank. -/
theorem assignPins (h : Freer t u) (distinct : (u.board.pins.map Pin.gpio).Nodup)
    {peripheral : Peripheral} {picked : List Gpio}
    (hu : u.assignPins b peripheral = .ok (picked, u')) :
    ∃ earlier t', t.assignPins a peripheral = .ok (earlier, t') ∧
      List.Forall₂ (fun g g' => u.board.rank g ≤ u.board.rank g') earlier picked := by
  rcases assignPins_eq_ok_iff.mp hu with ⟨hbus, hpicked, -⟩ | ⟨hbus, hpick⟩
  · refine ⟨picked, _, assignPins_eq_ok_iff.mpr (.inl ⟨hbus, ?_, rfl⟩), ?_⟩
    · rw [hpicked, h.board_eq]
    · exact List.forall₂_same.mpr fun _ _ => le_rfl
  · obtain ⟨earlier, t', hearlier, hranks⟩ := h.pick (a := a) distinct hpick
    exact ⟨earlier, t', assignPins_eq_ok_iff.mpr (.inr ⟨hbus, hearlier⟩), hranks⟩

end Freer

theorem pick_append_eq_error {xs : List Capability} {missing : Capability}
    (h : pick owner xs table = .error missing) (ys : List Capability) :
    pick owner (xs ++ ys) table = .error missing := by
  induction xs generalizing table with
  | nil => simp [pick] at h
  | cons capability rest ih =>
      rw [List.cons_append, pick_cons_eq_error_iff]
      rcases pick_cons_eq_error_iff.mp h with hnone | ⟨gpio, middle, hgpio, hmiddle⟩
      · exact .inl hnone
      · exact .inr ⟨gpio, middle, hgpio, ih hmiddle⟩

/-- A series fails at the first entry that cannot be served, and names it. -/
theorem exists_of_pick_eq_error {capabilities : List Capability} {missing : Capability}
    (h : pick owner capabilities table = .error missing) :
    ∃ k, (∃ served, pick owner (capabilities.take k) table = .ok served) ∧
      capabilities[k]? = some missing ∧
      pick owner (capabilities.take (k + 1)) table = .error missing := by
  induction capabilities generalizing table with
  | nil => simp [pick] at h
  | cons capability rest ih =>
      rcases pick_cons_eq_error_iff.mp h with ⟨hnone, rfl⟩ | ⟨gpio, middle, hgpio, hmiddle⟩
      · exact ⟨0, ⟨([], table), rfl⟩, rfl, pick_cons_eq_error_iff.mpr (.inl ⟨hnone, rfl⟩)⟩
      · obtain ⟨k, ⟨served, hserved⟩, hmissing, herror⟩ := ih hmiddle
        refine ⟨k + 1, ⟨(gpio :: served.1, served.2), ?_⟩, by simpa using hmissing, ?_⟩
        · exact pick_cons_eq_ok_iff.mpr ⟨gpio, middle, served.1, hgpio, hserved, rfl⟩
        · exact pick_cons_eq_error_iff.mpr (.inr ⟨gpio, middle, hgpio, herror⟩)

end SensorNode.PinTable
