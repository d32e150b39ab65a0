import SensorNode.Proofs.PinTable.Histories
import SensorNode.Proofs.PinTable.Nested

/-!
# Greedy assignment

Away from the shared bus a peripheral gets, capability by capability, the first pin that the table
offers and that no earlier capability got. On a board with distinct pins there is one such series of
pins or none. The table assigns that series with one reservation for each of its pins, and otherwise
it fails at the first capability for which every pin that is offered was chosen before.

A peripheral on the bus gets the bus pins from every table.
-/

namespace SensorNode

namespace PinTable

variable {table next : PinTable} {owner : AttachmentId} {capability : Capability}
  {capabilities rest : List Capability} {gpio : Gpio} {chosen later : List Gpio}

/-- A pin of the board has a capability and is not reserved. -/
def Offers (table : PinTable) (capability : Capability) (gpio : Gpio) : Prop :=
  table.board.Provides capability gpio ∧ table.reservation? gpio = none

/-- No pin that is offered for a capability comes before this one. -/
def OffersFirst (table : PinTable) (capability : Capability) (gpio : Gpio) : Prop :=
  table.Offers capability gpio ∧
    ∀ other, table.Offers capability other → table.board.rank gpio ≤ table.board.rank other

theorem offers_iff_exists_candidate :
    table.Offers capability gpio ↔
      ∃ pin ∈ table.candidates capability true, pin.gpio = gpio := by
  simp only [Offers, Board.Provides, mem_candidates_iff, isFree_iff_reservation?]
  constructor
  · rintro ⟨⟨pin, hpin, rfl, hcan⟩, hfree⟩
    exact ⟨pin, ⟨hpin, hfree, hcan⟩, rfl⟩
  · rintro ⟨pin, ⟨hpin, hfree, hcan⟩, rfl⟩
    exact ⟨⟨pin, hpin, rfl, hcan⟩, hfree⟩

theorem offers_hold_iff {holder : Holder} {other : Gpio} :
    (table.hold gpio holder).Offers capability other ↔
      table.Offers capability other ∧ other ≠ gpio := by
  rw [Offers, Offers, ← isFree_iff_reservation?, ← isFree_iff_reservation?, isFree_hold_iff,
    and_assoc]
  rfl

theorem allocate?_eq_none_iff :
    table.allocate? owner capability true = none ↔ ∀ gpio, ¬table.Offers capability gpio := by
  rw [allocate?, Option.map_eq_none_iff, List.head?_eq_none_iff, List.eq_nil_iff_forall_not_mem]
  simp only [offers_iff_exists_candidate, not_exists, not_and]
  exact ⟨fun h _ pin hpin _ => h pin hpin, fun h pin hpin => h pin.gpio pin hpin rfl⟩

theorem OffersFirst.unique {other : Gpio} (h : table.OffersFirst capability gpio)
    (h' : table.OffersFirst capability other) : gpio = other := by
  have hsame : table.board.rank gpio = table.board.rank other :=
    le_antisymm (h.2 _ h'.1) (h'.2 _ h.1)
  obtain ⟨⟨⟨pin, hpin, rfl, -⟩, -⟩, -⟩ := h
  obtain ⟨⟨⟨pin', -, rfl, -⟩, -⟩, -⟩ := h'
  exact Board.eq_of_rank_eq hpin hsame

/-- The first pin is the one that is picked. -/
theorem allocate?_eq_some_iff_offersFirst (distinct : (table.board.pins.map Pin.gpio).Nodup) :
    table.allocate? owner capability true = some (gpio, next) ↔
      table.OffersFirst capability gpio ∧ next = table.hold gpio ⟨owner, capability.tag⟩ := by
  have hfirst {gpio : Gpio} {next : PinTable}
      (h : table.allocate? owner capability true = some (gpio, next)) :
      table.OffersFirst capability gpio ∧ next = table.hold gpio ⟨owner, capability.tag⟩ := by
    obtain ⟨pin, hhead, rfl, rfl⟩ := allocate?_eq_some_iff.mp h
    refine ⟨⟨offers_iff_exists_candidate.mpr ⟨pin, List.mem_of_head? hhead, rfl⟩, ?_⟩, rfl⟩
    intro other hother
    obtain ⟨candidate, hcandidate, rfl⟩ := offers_iff_exists_candidate.mp hother
    exact rank_le_of_allocate? distinct h hcandidate
  constructor
  · exact hfirst
  · rintro ⟨h, rfl⟩
    obtain ⟨pin, hpin, rfl⟩ := offers_iff_exists_candidate.mp h.1
    obtain ⟨picked, _, hpicked⟩ :
        ∃ picked next, table.allocate? owner capability true = some (picked, next) :=
      exists_allocate? hpin
    obtain ⟨hpickedFirst, rfl⟩ := hfirst hpicked
    rw [h.unique hpickedFirst, hpicked]

/-- For each capability in turn the first pin that is offered and was not chosen before. -/
structure Greedy (table : PinTable) (capabilities : List Capability) (chosen : List Gpio) :
    Prop where
  length_eq : chosen.length = capabilities.length
  nodup : chosen.Nodup
  offered : ∀ (i : Nat) (capability : Capability) (gpio : Gpio),
    capabilities[i]? = some capability → chosen[i]? = some gpio → table.Offers capability gpio
  first : ∀ (i : Nat) (capability : Capability) (gpio : Gpio),
    capabilities[i]? = some capability → chosen[i]? = some gpio →
      ∀ other, table.Offers capability other → other ∉ chosen.take i →
        table.board.rank gpio ≤ table.board.rank other

theorem greedy_nil_iff : Greedy table [] chosen ↔ chosen = [] := by
  constructor
  · exact fun h => List.length_eq_zero_iff.mp h.length_eq
  · rintro rfl
    exact ⟨rfl, .nil, nofun, nofun⟩

/-- After the first pin of a series the rest is one for the table in which that pin is held. -/
theorem greedy_cons_iff (holder : Holder) :
    Greedy table (capability :: rest) (gpio :: later) ↔
      table.OffersFirst capability gpio ∧ Greedy (table.hold gpio holder) rest later := by
  constructor
  · rintro ⟨hlength, hnodup, hoffered, hfirst⟩
    obtain ⟨hnotin, hnodup⟩ := List.nodup_cons.mp hnodup
    refine ⟨⟨hoffered 0 _ _ rfl rfl, fun other h => hfirst 0 _ _ rfl rfl other h nofun⟩, ?_⟩
    refine ⟨Nat.succ.inj hlength, hnodup, ?_, ?_⟩
    · intro i c g hc hg
      refine offers_hold_iff.mpr ⟨hoffered (i + 1) c g hc hg, ?_⟩
      rintro rfl
      exact hnotin (List.mem_of_getElem? hg)
    · intro i c g hc hg other hother hbefore
      obtain ⟨hother, hne⟩ := offers_hold_iff.mp hother
      refine hfirst (i + 1) c g hc hg other hother ?_
      rw [List.take_succ_cons, List.mem_cons, not_or]
      exact ⟨hne, hbefore⟩
  · rintro ⟨⟨hoffers, hrank⟩, hlength, hnodup, hoffered, hfirst⟩
    have hlater : ∀ g ∈ later, g ≠ gpio := by
      intro g hg
      obtain ⟨i, hi⟩ := List.mem_iff_getElem?.mp hg
      have hlt : i < rest.length := hlength ▸ (List.getElem?_eq_some_iff.mp hi).1
      exact (offers_hold_iff.mp (hoffered i _ g (List.getElem?_eq_getElem hlt) hi)).2
    refine ⟨congrArg (· + 1) hlength, ?_, ?_, ?_⟩
    · exact List.nodup_cons.mpr ⟨fun hmem => hlater gpio hmem rfl, hnodup⟩
    · intro i c g hc hg
      cases i with
      | zero =>
          obtain rfl : capability = c := Option.some.inj hc
          obtain rfl : gpio = g := Option.some.inj hg
          exact hoffers
      | succ i => exact (offers_hold_iff.mp (hoffered i c g hc hg)).1
    · intro i c g hc hg other hother hbefore
      cases i with
      | zero =>
          obtain rfl : capability = c := Option.some.inj hc
          obtain rfl : gpio = g := Option.some.inj hg
          exact hrank other hother
      | succ i =>
          rw [List.take_succ_cons, List.mem_cons, not_or] at hbefore
          exact hfirst i c g hc hg other (offers_hold_iff.mpr ⟨hother, hbefore.1⟩) hbefore.2

/-- A restricted pin is chosen only when every other pin that is left is restricted. -/
theorem Greedy.restricted_of_left (greedy : Greedy table capabilities chosen)
    (distinct : (table.board.pins.map Pin.gpio).Nodup) {i : Nat} {pin other : Pin}
    (hcapability : capabilities[i]? = some capability) (hchosen : chosen[i]? = some pin.gpio)
    (hpin : pin ∈ table.board.pins) (hrestricted : pin.restricted)
    (hother : other ∈ table.board.pins) (hoffers : table.Offers capability other.gpio)
    (hleft : other.gpio ∉ chosen.take i) : other.restricted := by
  by_contra hfree
  have hlt : table.board.rank other.gpio < table.board.rank pin.gpio := by
    refine (Board.rank_lt_iff distinct hother hpin).mpr (.inl ?_)
    exact Bool.lt_iff.mpr ⟨Bool.eq_false_iff.mpr hfree, hrestricted⟩
  exact not_lt_of_ge (greedy.first i _ _ hcapability hchosen _ hoffers hleft) hlt

/-- A table with one more reservation for each pin of a series and no other change. -/
structure Grown (table : PinTable) (owner : AttachmentId) (capabilities : List Capability)
    (chosen : List Gpio) (next : PinTable) : Prop where
  board_eq : next.board = table.board
  size_eq : next.reserved.size = table.reserved.size + chosen.length
  row : ∀ (i : Nat) (capability : Capability) (gpio : Gpio),
    capabilities[i]? = some capability → chosen[i]? = some gpio →
      next.reservation? gpio = some ⟨⟨owner, capability.tag⟩, gpio⟩
  kept : ∀ gpio, gpio ∉ chosen → next.reservation? gpio = table.reservation? gpio

namespace Grown

theorem nil : Grown table owner [] [] table := ⟨rfl, rfl, nofun, fun _ _ => rfl⟩

theorem cons (hfree : table.reservation? gpio = none) (hnotin : gpio ∉ later)
    (h : Grown (table.hold gpio ⟨owner, capability.tag⟩) owner rest later next) :
    Grown table owner (capability :: rest) (gpio :: later) next := by
  have hsize : (table.hold gpio ⟨owner, capability.tag⟩).reserved.size =
      table.reserved.size + 1 :=
    SortedMap.size_insert hfree _
  refine ⟨h.board_eq, ?_, ?_, ?_⟩
  · rw [h.size_eq, hsize, List.length_cons, Nat.add_assoc, Nat.add_comm 1]
  · intro i c g hc hg
    cases i with
    | zero =>
        obtain rfl : capability = c := Option.some.inj hc
        obtain rfl : gpio = g := Option.some.inj hg
        rw [h.kept gpio hnotin, reservation?_hold, if_pos rfl]
    | succ i => exact h.row i c g hc hg
  · intro g hg
    obtain ⟨hne, hlater⟩ := not_or.mp (mt List.mem_cons.mpr hg)
    rw [h.kept g hlater, reservation?_hold, if_neg hne]

/-- A series and its owner determine the table. -/
theorem unique {other : PinTable} (hlength : chosen.length = capabilities.length)
    (h : Grown table owner capabilities chosen next)
    (h' : Grown table owner capabilities chosen other) : next = other := by
  have hrows : next.reserved = other.reserved := by
    apply SortedMap.ext_get?
    intro g
    by_cases hg : g ∈ chosen
    · obtain ⟨i, hi⟩ := List.mem_iff_getElem?.mp hg
      have hlt : i < capabilities.length := hlength ▸ (List.getElem?_eq_some_iff.mp hi).1
      have hc := List.getElem?_eq_getElem hlt
      exact (h.row i _ g hc hi).trans (h'.row i _ g hc hi).symm
    · exact (h.kept g hg).trans (h'.kept g hg).symm
  obtain ⟨board, reserved⟩ := next
  obtain ⟨board', reserved'⟩ := other
  obtain rfl : board = board' := h.board_eq.trans h'.board_eq.symm
  obtain rfl : reserved = reserved' := hrows
  rfl

end Grown

theorem greedy_of_pick (distinct : (table.board.pins.map Pin.gpio).Nodup)
    (h : pick owner capabilities table = .ok (chosen, next)) :
    Greedy table capabilities chosen ∧ Grown table owner capabilities chosen next := by
  induction capabilities generalizing table chosen with
  | nil =>
      obtain ⟨rfl, rfl⟩ : [] = chosen ∧ table = next := by simpa [pick] using h
      exact ⟨greedy_nil_iff.mpr rfl, .nil⟩
  | cons capability rest ih =>
      obtain ⟨gpio, middle, later, hgpio, hlater, rfl⟩ := pick_cons_eq_ok_iff.mp h
      obtain ⟨hfirst, rfl⟩ := (allocate?_eq_some_iff_offersFirst distinct).mp hgpio
      obtain ⟨hgreedy, hgrown⟩ := @ih (table.hold gpio _) later distinct hlater
      have hcons := (greedy_cons_iff _).mpr ⟨hfirst, hgreedy⟩
      exact ⟨hcons, hgrown.cons hfirst.1.2 (List.nodup_cons.mp hcons.nodup).1⟩

theorem exists_pick_of_greedy (distinct : (table.board.pins.map Pin.gpio).Nodup)
    (h : Greedy table capabilities chosen) (owner : AttachmentId) :
    ∃ next, pick owner capabilities table = .ok (chosen, next) := by
  induction capabilities generalizing table chosen with
  | nil =>
      obtain rfl := greedy_nil_iff.mp h
      exact ⟨table, rfl⟩
  | cons capability rest ih =>
      cases chosen with
      | nil => exact nomatch h.length_eq
      | cons gpio later =>
          obtain ⟨hfirst, hgreedy⟩ := (greedy_cons_iff ⟨owner, capability.tag⟩).mp h
          obtain ⟨next, hnext⟩ := @ih (table.hold gpio _) later distinct hgreedy
          exact ⟨next, pick_cons_eq_ok_iff.mpr ⟨gpio, _, later,
            (allocate?_eq_some_iff_offersFirst distinct).mpr ⟨hfirst, rfl⟩, hnext, rfl⟩⟩

theorem pick_eq_ok_iff (distinct : (table.board.pins.map Pin.gpio).Nodup) :
    pick owner capabilities table = .ok (chosen, next) ↔
      Greedy table capabilities chosen ∧ Grown table owner capabilities chosen next := by
  constructor
  · exact greedy_of_pick distinct
  · rintro ⟨hgreedy, hgrown⟩
    obtain ⟨other, hother⟩ := exists_pick_of_greedy distinct hgreedy owner
    obtain ⟨-, hgrown'⟩ := greedy_of_pick distinct hother
    rw [hother, hgrown.unique hgreedy.length_eq hgrown']

/-- Every pin that is offered for an entry of a series was chosen for one before it. -/
def StuckAt (table : PinTable) (capabilities : List Capability) (i : Nat) : Prop :=
  ∃ capability chosen, capabilities[i]? = some capability ∧
    Greedy table (capabilities.take i) chosen ∧
    ∀ gpio, table.Offers capability gpio → gpio ∈ chosen

theorem stuckAt_zero_iff :
    StuckAt table (capability :: rest) 0 ↔ ∀ gpio, ¬table.Offers capability gpio := by
  constructor
  · rintro ⟨_, chosen, hc, hgreedy, hall⟩ gpio hoffers
    obtain rfl : capability = _ := Option.some.inj hc
    obtain rfl := greedy_nil_iff.mp hgreedy
    exact nomatch hall gpio hoffers
  · intro hnone
    exact ⟨capability, [], rfl, greedy_nil_iff.mpr rfl, fun gpio h => absurd h (hnone gpio)⟩

theorem stuckAt_succ_iff (holder : Holder) {i : Nat} :
    StuckAt table (capability :: rest) (i + 1) ↔
      ∃ gpio, table.OffersFirst capability gpio ∧ StuckAt (table.hold gpio holder) rest i := by
  constructor
  · rintro ⟨missing, chosen, hc, hgreedy, hall⟩
    rw [List.take_succ_cons] at hgreedy
    cases chosen with
    | nil => exact nomatch hgreedy.length_eq
    | cons gpio later =>
        obtain ⟨hfirst, hlater⟩ := (greedy_cons_iff holder).mp hgreedy
        refine ⟨gpio, hfirst, missing, later, hc, hlater, ?_⟩
        intro other hother
        obtain ⟨hoffers, hne⟩ := offers_hold_iff.mp hother
        exact (List.mem_cons.mp (hall other hoffers)).resolve_left hne
  · rintro ⟨gpio, hfirst, missing, later, hc, hlater, hall⟩
    refine ⟨missing, gpio :: later, hc, ?_, ?_⟩
    · rw [List.take_succ_cons]
      exact (greedy_cons_iff holder).mpr ⟨hfirst, hlater⟩
    · intro other hoffers
      by_cases hne : other = gpio
      · exact List.mem_cons.mpr (.inl hne)
      · exact List.mem_cons_of_mem _ (hall other (offers_hold_iff.mpr ⟨hoffers, hne⟩))

/-- A series ends early at one entry only. -/
theorem StuckAt.unique {i j : Nat} (hi : StuckAt table capabilities i)
    (hj : StuckAt table capabilities j) : i = j := by
  -- who holds the pins that were chosen does not matter
  have holder : Holder := ⟨⟨0⟩, ""⟩
  induction capabilities generalizing table i j with
  | nil =>
      obtain ⟨_, _, hc, -⟩ := hi
      exact nomatch hc
  | cons capability rest ih =>
      have hno {k : Nat} (hzero : StuckAt table (capability :: rest) 0)
          (hsucc : StuckAt table (capability :: rest) (k + 1)) : False := by
        obtain ⟨gpio, hfirst, -⟩ := (stuckAt_succ_iff holder).mp hsucc
        exact stuckAt_zero_iff.mp hzero gpio hfirst.1
      cases i with
      | zero =>
          cases j with
          | zero => rfl
          | succ j => exact (hno hi hj).elim
      | succ i =>
          cases j with
          | zero => exact (hno hj hi).elim
          | succ j =>
              obtain ⟨gpio, hfirst, hi⟩ := (stuckAt_succ_iff holder).mp hi
              obtain ⟨gpio', hfirst', hj⟩ := (stuckAt_succ_iff holder).mp hj
              obtain rfl := hfirst.unique hfirst'
              exact congrArg (· + 1) (ih hi hj)

theorem pick_eq_error_iff (distinct : (table.board.pins.map Pin.gpio).Nodup) :
    pick owner capabilities table = .error capability ↔
      ∃ i, capabilities[i]? = some capability ∧ StuckAt table capabilities i := by
  induction capabilities generalizing table with
  | nil => exact iff_of_false nofun nofun
  | cons first rest ih =>
      have hlater (gpio : Gpio) :
          pick owner rest (table.hold gpio ⟨owner, first.tag⟩) = .error capability ↔ _ :=
        @ih (table.hold gpio _) distinct
      rw [pick_cons_eq_error_iff, allocate?_eq_none_iff]
      simp only [allocate?_eq_some_iff_offersFirst distinct]
      constructor
      · rintro (⟨hnone, rfl⟩ | ⟨gpio, _, ⟨hfirst, rfl⟩, herror⟩)
        · exact ⟨0, rfl, stuckAt_zero_iff.mpr hnone⟩
        · obtain ⟨i, hc, hstuck⟩ := (hlater gpio).mp herror
          exact ⟨i + 1, hc, (stuckAt_succ_iff _).mpr ⟨gpio, hfirst, hstuck⟩⟩
      · rintro ⟨i, hc, hstuck⟩
        cases i with
        | zero => exact .inl ⟨stuckAt_zero_iff.mp hstuck, (Option.some.inj hc).symm⟩
        | succ i =>
            obtain ⟨gpio, hfirst, hstuck⟩ := (stuckAt_succ_iff ⟨owner, first.tag⟩).mp hstuck
            exact .inr ⟨gpio, _, ⟨hfirst, rfl⟩, (hlater gpio).mpr ⟨i, hc, hstuck⟩⟩

theorem tryReserve_eq_serve (table : PinTable) (gpio : Gpio) (holder : Holder) :
    table.tryReserve gpio holder = (table.serve (.reserve gpio holder)).2 := by
  rw [tryReserve, serve]
  cases table.reserve gpio holder <;> rfl

/-- A reservation is made on a free pin of the board and changes nothing elsewhere. -/
theorem reservation?_tryReserve (table : PinTable) (gpio : Gpio) (holder : Holder) (g : Gpio) :
    (table.tryReserve gpio holder).reservation? g =
      if g = gpio ∧ table.reservation? g = none ∧ table.board.has g then some ⟨holder, g⟩
      else table.reservation? g := by
  rw [tryReserve_eq_serve]
  by_cases hg : g = gpio
  · subst hg
    rcases table.serve_reserve_cases g holder with
      ⟨hfree, hboard, hserve⟩ | ⟨hfree, hboard, hserve⟩ | ⟨row, hrow, hserve⟩ <;> rw [hserve]
    · simp [isFree_iff_reservation?.mp hfree, hboard]
    · simp [hboard]
    · simp [hrow]
  · rw [if_neg fun h => hg h.1]
    rcases table.serve_reserve_cases gpio holder with
      ⟨-, -, hserve⟩ | ⟨-, -, hserve⟩ | ⟨row, -, hserve⟩ <;> rw [hserve]
    rw [reservation?_hold, if_neg hg]

/-- Free bus pins of the board are reserved, and nothing else changes. -/
theorem reservation?_share (table : PinTable) (owner : AttachmentId) (bus : Bus)
    (first second g : Gpio) :
    (table.share owner bus [first, second]).reservation? g =
      if (g = first ∨ g = second) ∧ table.reservation? g = none ∧ table.board.has g then
        some ⟨⟨owner, bus.tag⟩, g⟩
      else table.reservation? g := by
  have hshare : table.share owner bus [first, second] =
      (table.tryReserve first ⟨owner, bus.tag⟩).tryReserve second ⟨owner, bus.tag⟩ := rfl
  rw [hshare, reservation?_tryReserve, reservation?_tryReserve, board_tryReserve]
  by_cases hfree : table.reservation? g = none ∧ table.board.has g
  · by_cases hfirst : g = first
    · simp [hfirst ▸ hfree, hfirst]
    · simp [hfree, hfirst]
  · simp [hfree]

end PinTable

namespace Attachment

variable {attachment : Attachment} {id : AttachmentId} {peripheral : Peripheral} {pins : List Gpio}

/-- An attachment of a peripheral that records pins as `PIN_0`, `PIN_1` and so on, and no others. -/
structure Records (attachment : Attachment) (id : AttachmentId) (peripheral : Peripheral)
    (pins : List Gpio) : Prop where
  id_eq : attachment.id = id
  peripheralId_eq : attachment.peripheralId = peripheral.id
  get?_eq_some_iff : ∀ (name : String) (gpio : Gpio), attachment.pins.get? name = some gpio ↔
    ∃ i : Nat, pins[i]? = some gpio ∧ name = "PIN_" ++ toString i

theorem records_iff :
    attachment.Records id peripheral pins ↔ attachment = ⟨id, peripheral.id, .ofPins pins⟩ := by
  constructor
  · rintro ⟨hid, hperipheral, hpins⟩
    obtain ⟨id', peripheralId, map⟩ := attachment
    obtain rfl : id' = id := hid
    obtain rfl : peripheralId = peripheral.id := hperipheral
    obtain rfl : map = .ofPins pins := by
      apply SortedMap.ext_get?
      intro name
      ext gpio
      rw [hpins, PinMap.get?_ofPins_eq_some_iff]
      rfl
    rfl
  · rintro rfl
    exact ⟨rfl, rfl, fun name gpio => PinMap.get?_ofPins_eq_some_iff⟩

end Attachment

namespace PinTable

variable {table next : PinTable} {id : AttachmentId} {peripheral : Peripheral}
  {attachment : Attachment}

/-- What a table assigns to a new attachment of a peripheral, and what that makes of the table. -/
structure AssignsGreedily (table : PinTable) (id : AttachmentId) (peripheral : Peripheral) :
    Prop where
  ok_iff : peripheral.bus ≠ some .i2c → ∀ attachment next,
    table.assign id peripheral = .ok (attachment, next) ↔
      ∃ chosen, Greedy table peripheral.requires chosen ∧
        attachment.Records id peripheral chosen ∧
        Grown table id peripheral.requires chosen next
  /-- A restricted pin is chosen only when nothing else is left. -/
  restricted : ∀ chosen, Greedy table peripheral.requires chosen →
    ∀ (i : Nat) (capability : Capability) (pin : Pin), peripheral.requires[i]? = some capability →
      chosen[i]? = some pin.gpio → pin ∈ table.board.pins → pin.restricted →
        ∀ other ∈ table.board.pins, table.Offers capability other.gpio →
          other.gpio ∉ chosen.take i → other.restricted
  exists_error_iff : peripheral.bus ≠ some .i2c →
    ((∃ error, table.assign id peripheral = .error error) ↔
      ∃ i, StuckAt table peripheral.requires i)
  /-- The error names the first capability for which nothing is left. -/
  eq_error_iff : peripheral.bus ≠ some .i2c → ∀ error,
    table.assign id peripheral = .error error ↔
      ∃ (i : Nat) (capability : Capability), peripheral.requires[i]? = some capability ∧
        StuckAt table peripheral.requires i ∧
        (∀ j < i, ¬StuckAt table peripheral.requires j) ∧
        error = .exhausted peripheral.id capability
  /-- The bus is shared whatever the table holds. -/
  shared : peripheral.bus = some .i2c → ∃ attachment next,
    table.assign id peripheral = .ok (attachment, next) ∧
      attachment.Records id peripheral [table.board.i2c.sda, table.board.i2c.scl] ∧
      next.board = table.board ∧
      ∀ gpio, next.reservation? gpio =
        if (gpio = table.board.i2c.sda ∨ gpio = table.board.i2c.scl) ∧
            table.reservation? gpio = none ∧ table.board.has gpio then
          some ⟨⟨id, "i2c"⟩, gpio⟩
        else table.reservation? gpio

theorem assign_eq_ok_iff_greedy (distinct : (table.board.pins.map Pin.gpio).Nodup)
    (hbus : peripheral.bus ≠ some .i2c) :
    table.assign id peripheral = .ok (attachment, next) ↔
      ∃ chosen, Greedy table peripheral.requires chosen ∧
        attachment.Records id peripheral chosen ∧
        Grown table id peripheral.requires chosen next := by
  simp only [assign_eq_ok_iff, assignPins_eq_ok_iff, hbus, false_and, false_or, ne_eq,
    not_false_eq_true, true_and, pick_eq_ok_iff distinct, Attachment.records_iff]
  exact exists_congr fun chosen => and_assoc.trans (and_congr_right fun _ => and_comm)

theorem assign_eq_error_iff_stuckAt (distinct : (table.board.pins.map Pin.gpio).Nodup)
    (hbus : peripheral.bus ≠ some .i2c) {error : AllocationError} :
    table.assign id peripheral = .error error ↔
      ∃ (i : Nat) (capability : Capability), peripheral.requires[i]? = some capability ∧
        StuckAt table peripheral.requires i ∧ error = .exhausted peripheral.id capability := by
  rw [assign, Outcome.map_eq_error_iff, assignPins_eq_error_iff]
  simp only [hbus, ne_eq, not_false_eq_true, true_and, pick_eq_error_iff distinct]
  constructor
  · rintro ⟨capability, ⟨i, hc, hstuck⟩, rfl⟩
    exact ⟨i, capability, hc, hstuck, rfl⟩
  · rintro ⟨i, capability, hc, hstuck, rfl⟩
    exact ⟨capability, ⟨i, hc, hstuck⟩, rfl⟩

theorem assign_of_bus (hbus : peripheral.bus = some .i2c) :
    table.assign id peripheral =
      .ok (⟨id, peripheral.id, .ofPins [table.board.i2c.sda, table.board.i2c.scl]⟩,
        table.share id .i2c [table.board.i2c.sda, table.board.i2c.scl]) := by
  have hpins : table.assignPins id peripheral =
      .ok ([table.board.i2c.sda, table.board.i2c.scl],
        table.share id .i2c [table.board.i2c.sda, table.board.i2c.scl]) :=
    assignPins_eq_ok_iff.mpr (.inl ⟨hbus, rfl, rfl⟩)
  exact assign_eq_ok_iff.mpr ⟨_, hpins, rfl⟩

/-- On a board with distinct pins a table assigns pins greedily, whatever it holds. -/
theorem assignsGreedily_of_nodup (distinct : (table.board.pins.map Pin.gpio).Nodup)
    (id : AttachmentId) (peripheral : Peripheral) : AssignsGreedily table id peripheral where
  ok_iff hbus _ _ := assign_eq_ok_iff_greedy distinct hbus
  restricted _ hgreedy _ _ _ hcapability hchosen hpin hrestricted _ hother :=
    hgreedy.restricted_of_left distinct hcapability hchosen hpin hrestricted hother
  exists_error_iff hbus := by
    simp only [assign_eq_error_iff_stuckAt distinct hbus]
    constructor
    · rintro ⟨_, i, _, -, hstuck, -⟩
      exact ⟨i, hstuck⟩
    · rintro ⟨i, hstuck⟩
      have hstuck' := hstuck
      obtain ⟨capability, -, hc, -⟩ := hstuck'
      exact ⟨_, i, capability, hc, hstuck, rfl⟩
  eq_error_iff hbus error := by
    rw [assign_eq_error_iff_stuckAt distinct hbus]
    constructor
    · rintro ⟨i, capability, hc, hstuck, rfl⟩
      exact ⟨i, capability, hc, hstuck, fun j hlt hj => hlt.ne (hj.unique hstuck), rfl⟩
    · rintro ⟨i, capability, hc, hstuck, -, rfl⟩
      exact ⟨i, capability, hc, hstuck, rfl⟩
  shared hbus := by
    refine ⟨_, _, assign_of_bus hbus, Attachment.records_iff.mpr rfl, ?_, ?_⟩
    · rw [share_eq_reserveAll, board_reserveAll]
    · exact reservation?_share table id .i2c table.board.i2c.sda table.board.i2c.scl

namespace Small

/-- Three pins to switch, two of them to dim; the first one is restricted. -/
def threePins : Board where
  id := "three"
  name := "Three Pins"
  mcu := .esp8266
  pins :=
    [{ gpio := 0, label := "D0", capabilities := [.digitalOut, .pwm], restricted := true },
      { gpio := 1, label := "D1", capabilities := [.digitalOut] },
      { gpio := 2, label := "D2", capabilities := [.digitalOut, .pwm] }]
  i2c := ⟨0, 1⟩
  spi := ⟨0, 0, 1, 1⟩

def dimmer : Peripheral where
  id := "dimmer"
  name := "Dimmer"
  category := .actuator
  requires := [.digitalOut, .pwm]
  constructor := "Dimmer dimmer;"

/-- The pin that can only be switched is taken. -/
def plainTaken : PinTable := (start threePins).hold 1 ⟨⟨1⟩, "PIN_0"⟩

/-- Only one pin is left. -/
def oneLeft : PinTable := plainTaken.hold 0 ⟨⟨1⟩, "PIN_1"⟩

end Small

/-- The switch gets the pin that could dim, so that the restricted one is left for the dimming.
Without that one the series ends there. -/
theorem assignsGreedily_dimmer :
    (Small.threePins.pins.map Pin.gpio).Nodup ∧
      (∃ chosen next, Greedy Small.plainTaken [.digitalOut, .pwm] chosen ∧
        (Attachment.mk ⟨2⟩ "dimmer" (.ofPins [2, 0])).Records ⟨2⟩ Small.dimmer chosen ∧
        Grown Small.plainTaken ⟨2⟩ [.digitalOut, .pwm] chosen next) ∧
      StuckAt Small.oneLeft [.digitalOut, .pwm] 1 := by
  have distinct : (Small.threePins.pins.map Pin.gpio).Nodup := by decide
  have hbus : Small.dimmer.bus ≠ some .i2c := by decide
  refine ⟨distinct, ?_, ?_⟩
  · have greedy : AssignsGreedily Small.plainTaken ⟨2⟩ Small.dimmer :=
      assignsGreedily_of_nodup distinct ⟨2⟩ Small.dimmer
    obtain ⟨next, hassign⟩ : ∃ next, Small.plainTaken.assign ⟨2⟩ Small.dimmer =
        .ok (⟨⟨2⟩, "dimmer", .ofPins [2, 0]⟩, next) :=
      ⟨(Small.plainTaken.hold 2 ⟨⟨2⟩, "digital-out"⟩).hold 0 ⟨⟨2⟩, "pwm"⟩, by decide +kernel⟩
    obtain ⟨chosen, hchosen⟩ := (greedy.ok_iff hbus _ _).mp hassign
    exact ⟨chosen, next, hchosen⟩
  · have greedy : AssignsGreedily Small.oneLeft ⟨2⟩ Small.dimmer :=
      assignsGreedily_of_nodup distinct ⟨2⟩ Small.dimmer
    have hassign : Small.oneLeft.assign ⟨2⟩ Small.dimmer = .error (.exhausted "dimmer" .pwm) := by
      decide +kernel
    obtain ⟨i, capability, hc, hstuck, -, herror⟩ := (greedy.eq_error_iff hbus _).mp hassign
    obtain rfl : Capability.pwm = capability := (AllocationError.exhausted.inj herror).2
    match i, hc, hstuck with
    | 1, _, hstuck => exact hstuck

end PinTable

end SensorNode
