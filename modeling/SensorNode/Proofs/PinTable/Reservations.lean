import SensorNode.Proofs.Attachment.RecordedPins
import SensorNode.Wiring

/-!
# Reservations

Replaying attachments and sharing a bus are both a series of reservations of which those that cannot
be made are passed over. After such a series a pin has the holder it had before, or else the first
one that asked for it, provided that it is on the board.

So which pins are free after a replay depends on nothing but the set of recorded pins.
-/

namespace SensorNode

theorem Board.has_iff {board : Board} {gpio : Gpio} :
    board.has gpio ↔ ∃ pin ∈ board.pins, pin.gpio = gpio := by
  simp [has, pin?]

namespace PinTable

theorem isFree_iff {table : PinTable} {gpio : Gpio} :
    table.isFree gpio ↔ table.holder? gpio = none := by
  simp [isFree]

@[simp] theorem isFree_start (board : Board) (gpio : Gpio) : (start board).isFree gpio = true := by
  simp [isFree]

@[simp] theorem board_start (board : Board) : (start board).board = board := rfl

theorem isFree_hold_iff {table : PinTable} {gpio g : Gpio} {holder : Holder} :
    (table.hold gpio holder).isFree g ↔ table.isFree g ∧ g ≠ gpio := by
  rw [isFree_iff, isFree_iff, holder?_hold]
  split <;> simp_all

@[simp] theorem board_tryReserve (table : PinTable) (gpio : Gpio) (holder : Holder) :
    (table.tryReserve gpio holder).board = table.board := by
  unfold tryReserve reserve
  split
  · next next hnext =>
    split at hnext
    · split at hnext <;> simp_all
    · split at hnext
      · obtain rfl : table.hold gpio holder = next := by simpa using hnext
        rfl
      · simp at hnext
  · rfl

/-- A pin keeps its holder; a free one of the board gets the new one. -/
theorem holder?_tryReserve (table : PinTable) (gpio : Gpio) (holder : Holder) (g : Gpio) :
    (table.tryReserve gpio holder).holder? g =
      (table.holder? g).or (if table.board.has g ∧ g = gpio then some holder else none) := by
  unfold tryReserve reserve
  cases hheld : table.holder? gpio with
  | some current =>
      have hsame : (table.holder? g).or
          (if table.board.has g ∧ g = gpio then some holder else none) = table.holder? g := by
        by_cases hg : g = gpio <;> simp [hg, hheld]
      rw [hsame]
      by_cases heq : current = holder <;> simp [heq]
  | none =>
      by_cases hboard : table.board.has gpio
      · by_cases hg : g = gpio <;> simp [hboard, hg, hheld]
      · have hnot : ¬(table.board.has g ∧ g = gpio) := fun h => hboard (h.2 ▸ h.1)
        simp [hboard, hnot]

/-- Make reservations in turn, as far as that is possible. -/
def reserveAll (table : PinTable) (wanted : List (Gpio × Holder)) : PinTable :=
  wanted.foldl (fun current entry => current.tryReserve entry.1 entry.2) table

@[simp] theorem board_reserveAll (table : PinTable) (wanted : List (Gpio × Holder)) :
    (table.reserveAll wanted).board = table.board := by
  induction wanted generalizing table with
  | nil => rfl
  | cons entry rest ih => exact (ih _).trans (board_tryReserve table entry.1 entry.2)

/-- A pin keeps its holder, and a free one of the board gets the first that asks for it. -/
theorem holder?_reserveAll (table : PinTable) (wanted : List (Gpio × Holder)) (g : Gpio) :
    (table.reserveAll wanted).holder? g =
      (table.holder? g).or (if table.board.has g then wanted.lookup g else none) := by
  induction wanted generalizing table with
  | nil => simp [reserveAll]
  | cons entry rest ih =>
      change ((table.tryReserve entry.1 entry.2).reserveAll rest).holder? g = _
      rw [ih, holder?_tryReserve, board_tryReserve, Option.or_assoc, lookup_cons_eq_ite]
      -- a later request for the same pin changes nothing: the first holder keeps it
      by_cases hboard : table.board.has g
      · by_cases hg : g = entry.1
        · simp only [hg ▸ hboard, hg, and_self, ↓reduceIte, Option.some_or]
        · simp [hboard, hg]
      · simp [hboard]

theorem lookup_eq_none_iff_notMem {wanted : List (Gpio × Holder)} {g : Gpio} :
    wanted.lookup g = none ↔ g ∉ wanted.map Prod.fst := by
  simp only [List.lookup_eq_none_iff, bne_iff_ne, List.mem_map, not_exists, not_and]
  exact forall₂_congr fun _ _ => ne_comm

theorem isFree_reserveAll_iff {table : PinTable} {wanted : List (Gpio × Holder)} {g : Gpio} :
    (table.reserveAll wanted).isFree g ↔
      table.isFree g ∧ ¬(table.board.has g ∧ g ∈ wanted.map Prod.fst) := by
  have hlookup : wanted.lookup g = none ↔ g ∉ wanted.map Prod.fst := lookup_eq_none_iff_notMem
  rw [isFree_iff, isFree_iff, holder?_reserveAll, Option.or_eq_none_iff]
  refine and_congr_right fun _ => ?_
  by_cases hboard : table.board.has g
  · simp [hboard, hlookup]
  · simp [hboard]

/-- The pins of a shared bus as a series of reservations. -/
theorem share_eq_reserveAll (owner : AttachmentId) (bus : Bus) (pins : List Gpio)
    (table : PinTable) :
    table.share owner bus pins =
      table.reserveAll (pins.map fun gpio => (gpio, ⟨owner, bus.tag⟩)) := by
  rw [share, reserveAll, List.foldl_map]

end PinTable

namespace Attachment

/-- The reservations that an attachment asks for when it is replayed. -/
def recordings (attachment : Attachment) : List (Gpio × Holder) :=
  attachment.pins.entries.map fun entry => (entry.2, ⟨attachment.id, entry.1⟩)

theorem map_fst_recordings (attachment : Attachment) :
    attachment.recordings.map Prod.fst = attachment.gpios := by
  simp [recordings, gpios]

end Attachment

/-- The pins that attachments record. -/
def recorded (attachments : List Attachment) : List Gpio := attachments.flatMap Attachment.gpios

@[simp] theorem recorded_append (xs ys : List Attachment) :
    recorded (xs ++ ys) = recorded xs ++ recorded ys := List.flatMap_append

@[simp] theorem recorded_singleton (attachment : Attachment) :
    recorded [attachment] = attachment.gpios := by
  simp [recorded]

theorem mem_recorded_iff {attachments : List Attachment} {gpio : Gpio} :
    gpio ∈ recorded attachments ↔ ∃ attachment ∈ attachments, gpio ∈ attachment.gpios :=
  List.mem_flatMap

namespace PinTable

theorem replay_eq_reserveAll (board : Board) (attachments : List Attachment) :
    replay board attachments =
      (start board).reserveAll (attachments.flatMap Attachment.recordings) := by
  unfold replay reserveAll
  generalize start board = table
  induction attachments generalizing table with
  | nil => rfl
  | cons first rest ih =>
      rw [List.foldl_cons, ih, List.flatMap_cons, List.foldl_append]
      simp [replayOne, Attachment.recordings, List.foldl_map]

@[simp] theorem board_replay (board : Board) (attachments : List Attachment) :
    (replay board attachments).board = board := by
  rw [replay_eq_reserveAll, board_reserveAll, board_start]

/-- After a replay just the recorded pins of the board are taken. -/
theorem isFree_replay_iff {board : Board} {attachments : List Attachment} {gpio : Gpio} :
    (replay board attachments).isFree gpio ↔
      ¬(board.has gpio ∧ gpio ∈ recorded attachments) := by
  have hgpios : (attachments.flatMap Attachment.recordings).map Prod.fst =
      recorded attachments := by
    simp [recorded, List.map_flatMap, Attachment.map_fst_recordings]
  rw [replay_eq_reserveAll, isFree_reserveAll_iff, hgpios]
  simp

end PinTable

end SensorNode
