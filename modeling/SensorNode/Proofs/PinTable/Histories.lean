import SensorNode.Proofs.PinTable.Assignment

/-!
# Histories of a pin table

What holds of a pin table at every moment of its use, on any board, also on one that lists a pin
twice. A pick takes its pin without asking for a reservation, so that no pin changes hands is not a
matter of the checks of one function. But every request other than a reset either leaves the table
as it is or takes one free pin of the board; the rest follows from this by induction over the
requests.
-/

namespace SensorNode.PinTable

variable {table : PinTable} {request : Request} {gpio : Gpio} {holder : Holder}

theorem isFree_iff_reservation? : table.isFree gpio ↔ table.reservation? gpio = none := by
  simp [isFree_iff, holder?]

/-- A reservation is made on a free pin of the board and found on a pin that the holder has. -/
theorem serve_reserve_cases (table : PinTable) (gpio : Gpio) (holder : Holder) :
    (table.isFree gpio ∧ table.board.has gpio ∧
      table.serve (.reserve gpio holder) = (.done, table.hold gpio holder)) ∨
    (table.isFree gpio ∧ ¬table.board.has gpio ∧
      table.serve (.reserve gpio holder) =
        (.refused (.unknownPin gpio table.board.id), table)) ∨
    ∃ row, table.reservation? gpio = some row ∧
      table.serve (.reserve gpio holder) =
        (if row.toHolder = holder then .done else .refused (.conflict gpio row.toHolder),
          table) := by
  cases hrow : table.reservation? gpio with
  | none =>
      by_cases hboard : table.board.has gpio
      · exact .inl ⟨isFree_iff_reservation?.mpr hrow, hboard,
          by simp [serve, reserve, holder?, hrow, hboard]⟩
      · exact .inr (.inl ⟨isFree_iff_reservation?.mpr hrow, hboard,
          by simp [serve, reserve, holder?, hrow, hboard]⟩)
  | some row =>
      refine .inr (.inr ⟨row, rfl, ?_⟩)
      by_cases hsame : row.toHolder = holder <;> simp [serve, reserve, holder?, hrow, hsame]

/-- A pick takes a free pin of the board with the capability, if there is one. -/
theorem serve_allocate_cases (table : PinTable) (owner : AttachmentId) (capability : Capability)
    (preferSafe : Bool) :
    table.serve (.allocate owner capability preferSafe) = (.picked none, table) ∨
    ∃ gpio, table.isFree gpio ∧ table.board.Provides capability gpio ∧
      table.serve (.allocate owner capability preferSafe) =
        (.picked (some gpio), table.hold gpio ⟨owner, capability.tag⟩) := by
  cases hpick : table.allocate? owner capability preferSafe with
  | none => exact .inl (by simp [serve, hpick])
  | some picked =>
      obtain ⟨gpio, next⟩ := picked
      obtain ⟨hfree, hprovides, -⟩ := of_allocate? hpick
      obtain ⟨pin, -, rfl, rfl⟩ := allocate?_eq_some_iff.mp hpick
      exact .inr ⟨pin.gpio, hfree, hprovides, by simp [serve, hpick]⟩

/-- What a request other than a reset makes of a table: it stays as it is, or a free pin of the
board is taken. -/
theorem serve_cases (h : request ≠ .reset) :
    (table.serve request).2 = table ∨
      ∃ gpio holder, table.isFree gpio ∧ table.board.has gpio ∧
        (table.serve request).2 = table.hold gpio holder := by
  cases request with
  | reserve gpio holder =>
      rcases table.serve_reserve_cases gpio holder with
        ⟨hfree, hboard, hserve⟩ | ⟨-, -, hserve⟩ | ⟨row, -, hserve⟩
      · exact .inr ⟨gpio, holder, hfree, hboard, by rw [hserve]⟩
      · exact .inl (by rw [hserve])
      · exact .inl (by rw [hserve])
  | allocate owner capability preferSafe =>
      rcases table.serve_allocate_cases owner capability preferSafe with
        hserve | ⟨gpio, hfree, ⟨pin, hpin, hgpio, -⟩, hserve⟩
      · exact .inl (by rw [hserve])
      · exact .inr ⟨gpio, _, hfree, Board.has_iff.mpr ⟨pin, hpin, hgpio⟩, by rw [hserve]⟩
  | reset => exact absurd rfl h

/-- Without success nothing changes. -/
theorem unchanged_of_serve (h : (∃ error, (table.serve request).1 = .refused error) ∨
    (table.serve request).1 = .picked none) : (table.serve request).2 = table := by
  cases request with
  | reserve gpio holder =>
      rcases table.serve_reserve_cases gpio holder with
        ⟨-, -, hserve⟩ | ⟨-, -, hserve⟩ | ⟨row, -, hserve⟩ <;> rw [hserve] at h ⊢
      simp at h
  | allocate owner capability preferSafe =>
      rcases table.serve_allocate_cases owner capability preferSafe with
        hserve | ⟨gpio, -, -, hserve⟩ <;> rw [hserve] at h ⊢
      simp at h
  | reset => simp [serve] at h

/-- Each reservation stands under the number of its pin, and the board has that pin. -/
structure Consistent (table : PinTable) : Prop where
  gpio_eq : ∀ gpio row, table.reservation? gpio = some row → row.gpio = gpio
  has : ∀ gpio row, table.reservation? gpio = some row → table.board.has gpio

theorem Consistent.hold (h : table.Consistent) (hboard : table.board.has gpio) :
    (table.hold gpio holder).Consistent := by
  constructor
  · intro g row hrow
    rw [reservation?_hold] at hrow
    split at hrow
    · next hg => exact hg ▸ Option.some.inj hrow ▸ rfl
    · exact h.gpio_eq g row hrow
  · intro g row hrow
    rw [reservation?_hold] at hrow
    split at hrow
    · next hg => exact hg ▸ hboard
    · exact h.has g row hrow

theorem consistent_start (board : Board) : (start board).Consistent := ⟨nofun, nofun⟩

theorem board_serve (table : PinTable) (request : Request) :
    (table.serve request).2.board = table.board := by
  by_cases hreset : request = .reset
  · subst hreset
    rfl
  · rcases serve_cases hreset with hnext | ⟨gpio, holder, -, -, hnext⟩ <;> rw [hnext]
    rfl

theorem Consistent.serve (h : table.Consistent) (request : Request) :
    (table.serve request).2.Consistent := by
  by_cases hreset : request = .reset
  · subst hreset
    exact consistent_start table.board
  · rcases serve_cases hreset with hnext | ⟨gpio, holder, -, hboard, hnext⟩
    · rwa [hnext]
    · rw [hnext]
      exact h.hold hboard

/-- All reservations of a table are found unchanged in another one. -/
def KeptIn (table next : PinTable) : Prop :=
  ∀ gpio row, table.reservation? gpio = some row → next.reservation? gpio = some row

theorem keptIn_hold (hfree : table.isFree gpio) : table.KeptIn (table.hold gpio holder) := by
  intro g row hrow
  rw [reservation?_hold, if_neg]
  · exact hrow
  · rintro rfl
    rw [isFree_iff_reservation?.mp hfree] at hrow
    exact nomatch hrow

theorem keptIn_serve (h : request ≠ .reset) : table.KeptIn (table.serve request).2 := by
  rcases serve_cases h with hnext | ⟨gpio, holder, hfree, -, hnext⟩
  · rw [hnext]
    exact fun _ _ => id
  · rw [hnext]
    exact keptIn_hold hfree

theorem run_cons (table : PinTable) (request : Request) (rest : List Request) :
    table.run (request :: rest) = (table.serve request).2.run rest := rfl

theorem board_run (table : PinTable) (requests : List Request) :
    (table.run requests).board = table.board := by
  induction requests generalizing table with
  | nil => rfl
  | cons request rest ih => rw [run_cons, ih, board_serve]

theorem Consistent.run (h : table.Consistent) (requests : List Request) :
    (table.run requests).Consistent := by
  induction requests generalizing table with
  | nil => exact h
  | cons request rest ih => exact ih (h.serve request)

theorem keptIn_run {requests : List Request} (h : .reset ∉ requests) :
    table.KeptIn (table.run requests) := by
  induction requests generalizing table with
  | nil => exact fun _ _ => id
  | cons request rest ih =>
      obtain ⟨hrequest, hrest⟩ := not_or.mp (mt List.mem_cons.mpr h)
      exact fun gpio row hrow => ih hrest gpio row (keptIn_serve (Ne.symm hrequest) gpio row hrow)

/-- The pin that an answer names. -/
def Answer.pin? : Answer → Option Gpio
  | .picked gpio => gpio
  | _ => none

/-- The pins that are picked in the course of a history. -/
def picks (table : PinTable) : List Request → List Gpio
  | [] => []
  | request :: rest => (table.serve request).1.pin?.toList ++ (table.serve request).2.picks rest

/-- A pin that is picked was free and is taken from then on. -/
theorem of_pin?_serve (h : (table.serve request).1.pin? = some gpio) :
    table.isFree gpio ∧ ¬(table.serve request).2.isFree gpio := by
  cases request with
  | reserve g holder =>
      rcases table.serve_reserve_cases g holder with
        ⟨-, -, hserve⟩ | ⟨-, -, hserve⟩ | ⟨row, -, hserve⟩ <;> rw [hserve] at h
      · exact nomatch h
      · exact nomatch h
      · split at h <;> exact nomatch h
  | allocate owner capability preferSafe =>
      rcases table.serve_allocate_cases owner capability preferSafe with
        hserve | ⟨g, hfree, -, hserve⟩ <;> rw [hserve] at h ⊢
      · exact nomatch h
      · obtain rfl : g = gpio := Option.some.inj h
        exact ⟨hfree, fun hnext => (isFree_hold_iff.mp hnext).2 rfl⟩
  | reset => exact nomatch h

/-- Between two resets only free pins are picked, each once. -/
theorem nodup_picks {requests : List Request} (h : .reset ∉ requests) :
    (table.picks requests).Nodup ∧ ∀ gpio ∈ table.picks requests, table.isFree gpio := by
  induction requests generalizing table with
  | nil => exact ⟨.nil, nofun⟩
  | cons request rest ih =>
      obtain ⟨hrequest, hrest⟩ := not_or.mp (mt List.mem_cons.mpr h)
      obtain ⟨hnodup, hfree⟩ := @ih (table.serve request).2 hrest
      -- what is free later was free at first, since nothing is given back
      have hbefore : ∀ gpio, (table.serve request).2.isFree gpio → table.isFree gpio := by
        intro gpio hnext
        rw [isFree_iff_reservation?] at hnext ⊢
        cases hrow : table.reservation? gpio with
        | none => rfl
        | some row =>
            rw [keptIn_serve (Ne.symm hrequest) gpio row hrow] at hnext
            exact nomatch hnext
      rw [picks]
      cases hpin : (table.serve request).1.pin? with
      | none => exact ⟨hnodup, fun gpio hgpio => hbefore gpio (hfree gpio hgpio)⟩
      | some picked =>
          obtain ⟨hpicked, htaken⟩ := of_pin?_serve hpin
          rw [Option.toList_some, List.singleton_append, List.nodup_cons, List.forall_mem_cons]
          exact ⟨⟨fun hmem => htaken (hfree picked hmem), hnodup⟩, hpicked,
            fun gpio hgpio => hbefore gpio (hfree gpio hgpio)⟩

/-- The state of a table of `board` and its answers, at any moment of its use. -/
structure Orderly (board : Board) (table : PinTable) : Prop where
  /-- A reservation stands under its own pin, one of the board. -/
  row : ∀ gpio row, table.reservation? gpio = some row → row.gpio = gpio ∧ board.has gpio
  /-- No reservation is changed or given up before the next reset. -/
  kept : ∀ later, .reset ∉ later → table.KeptIn (table.run later)
  reset : (table.serve .reset).2 = start board
  done_iff : ∀ gpio holder, (table.serve (.reserve gpio holder)).1 = .done ↔
    (table.reservation? gpio = none ∧ board.has gpio) ∨
      ∃ row, table.reservation? gpio = some row ∧ row.owner = holder.owner ∧
        row.function = holder.function
  recorded : ∀ gpio holder, (table.serve (.reserve gpio holder)).1 = .done →
    (table.serve (.reserve gpio holder)).2.reservation? gpio = some ⟨holder, gpio⟩
  refused_iff : ∀ gpio holder error, (table.serve (.reserve gpio holder)).1 = .refused error ↔
    (table.reservation? gpio = none ∧ ¬board.has gpio ∧ error = .unknownPin gpio board.id) ∨
      ∃ row, table.reservation? gpio = some row ∧ row.toHolder ≠ holder ∧
        error = .conflict gpio row.toHolder
  unchanged : ∀ request, (∃ error, (table.serve request).1 = .refused error) ∨
    (table.serve request).1 = .picked none → (table.serve request).2 = table
  picked : ∀ owner capability preferSafe gpio,
    (table.serve (.allocate owner capability preferSafe)).1 = .picked (some gpio) →
      table.reservation? gpio = none ∧ board.Provides capability gpio ∧
        (table.serve (.allocate owner capability preferSafe)).2.reservation? gpio =
          some ⟨⟨owner, capability.tag⟩, gpio⟩
  /-- The pins picked before the next reset are different ones, none of them reserved now. -/
  picks : ∀ later, .reset ∉ later → (table.picks later).Nodup ∧
    ∀ gpio ∈ table.picks later, table.reservation? gpio = none
  available_eq : ∀ capability, table.available capability =
    (board.pinsWith capability).filter fun pin => table.reservation? pin.gpio = none

theorem Consistent.orderly (h : table.Consistent) : Orderly table.board table := by
  have hreserve := table.serve_reserve_cases
  constructor
  case row => exact fun gpio row hrow => ⟨h.gpio_eq gpio row hrow, h.has gpio row hrow⟩
  case kept => exact fun later hlater => keptIn_run hlater
  case reset => rfl
  case done_iff =>
    intro gpio holder
    rcases hreserve gpio holder with
      ⟨hfree, hboard, hserve⟩ | ⟨hfree, hboard, hserve⟩ | ⟨row, hrow, hserve⟩ <;> rw [hserve]
    · simp [isFree_iff_reservation?.mp hfree, hboard]
    · simp [isFree_iff_reservation?.mp hfree, hboard]
    · obtain ⟨⟨owner, function⟩, stored⟩ := row
      obtain ⟨wantedOwner, wantedFunction⟩ := holder
      simp [hrow]
  case recorded =>
    intro gpio holder
    rcases hreserve gpio holder with
      ⟨-, -, hserve⟩ | ⟨-, -, hserve⟩ | ⟨row, hrow, hserve⟩ <;> rw [hserve]
    · simp
    · simp
    · split
      · next hsame => exact fun _ => hrow.trans (by rw [← hsame, ← h.gpio_eq gpio row hrow])
      · nofun
  case refused_iff =>
    intro gpio holder error
    rcases hreserve gpio holder with
      ⟨hfree, hboard, hserve⟩ | ⟨hfree, hboard, hserve⟩ | ⟨row, hrow, hserve⟩ <;> rw [hserve]
    · simp [isFree_iff_reservation?.mp hfree, hboard]
    · simp [isFree_iff_reservation?.mp hfree, hboard, eq_comm]
    · by_cases hsame : row.toHolder = holder
      · simp [hrow, hsame]
      · simp [hrow, hsame, eq_comm (a := error)]
  case unchanged => exact fun request => unchanged_of_serve
  case picked =>
    intro owner capability preferSafe gpio
    rcases table.serve_allocate_cases owner capability preferSafe with
      hserve | ⟨g, hfree, hprovides, hserve⟩ <;> rw [hserve]
    · nofun
    · rintro ⟨⟩
      exact ⟨isFree_iff_reservation?.mp hfree, hprovides, by simp⟩
  case picks =>
    intro later hlater
    obtain ⟨hnodup, hfree⟩ := @nodup_picks table later hlater
    exact ⟨hnodup, fun gpio hgpio => isFree_iff_reservation?.mp (hfree gpio hgpio)⟩
  case available_eq =>
    intro capability
    rw [available, Board.pinsWith, List.filter_filter]
    refine List.filter_congr fun pin _ => ?_
    cases hrow : table.reservation? pin.gpio <;> simp [isFree, holder?, hrow]

/-- Whatever a table has been asked for, it is in order. -/
theorem orderly_run (board : Board) (earlier : List Request) :
    Orderly board ((start board).run earlier) := by
  have hboard : ((start board).run earlier).board = board := board_run (start board) earlier
  have horderly := ((consistent_start board).run earlier).orderly
  rwa [hboard] at horderly

end SensorNode.PinTable
