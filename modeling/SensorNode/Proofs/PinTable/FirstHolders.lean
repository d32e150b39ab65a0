import SensorNode.Project.Basic
import SensorNode.Proofs.PinTable.Greedy
import SensorNode.Proofs.Text.Utf8

/-!
# First holders

The table that is rebuilt from attachments, told from what they record. A pin of the board is
reserved when an attachment records it, for the first one that does; if that one has several names
for it, under the name that comes first in the order of their bytes. Reservations that are refused
on the way take nothing from this: what they ask for is reserved already or not on the board.

So a pin that several attachments share stays reserved until the last of them is left out, and goes
from one to the next in the order of the list.
-/

namespace SensorNode

/-- Who is the first of a list of attachments to record a pin, and under which name. -/
inductive FirstHolder (gpio : Gpio) : List Attachment → Holder → Prop
  | here {attachment : Attachment} {function : String} (others : List Attachment)
      (recorded : attachment.pins.get? function = some gpio)
      (first : ∀ name, attachment.pins.get? name = some gpio →
        Text.bytes function ≤ Text.bytes name) :
      FirstHolder gpio (attachment :: others) ⟨attachment.id, function⟩
  | later {attachment : Attachment} {others : List Attachment} {holder : Holder}
      (unrecorded : gpio ∉ attachment.gpios)
      (holds : FirstHolder gpio others holder) : FirstHolder gpio (attachment :: others) holder

namespace Attachment

variable {attachment : Attachment} {gpio : Gpio} {holder : Holder}

/-- The entries stand in the order of their names, so the first name of a pin is found first. -/
theorem lookup_recordings_eq_some_iff :
    attachment.recordings.lookup gpio = some holder ↔
      holder.owner = attachment.id ∧ attachment.pins.get? holder.function = some gpio ∧
        ∀ name, attachment.pins.get? name = some gpio →
          Text.bytes holder.function ≤ Text.bytes name := by
  have hsorted := attachment.pins.sorted
  simp only [recordings, List.lookup_eq_some_iff, ← SortedMap.mem_entries_iff]
  constructor
  · rintro ⟨front, back, hsplit, hfront⟩
    obtain ⟨earlier, rest, hentries, rfl, hrest⟩ := List.map_eq_append_iff.mp hsplit
    obtain ⟨⟨function, _⟩, later, rfl, hentry, -⟩ := List.map_eq_cons_iff.mp hrest
    obtain ⟨rfl, rfl⟩ := Prod.mk.inj hentry
    rw [hentries] at hsorted ⊢
    refine ⟨rfl, by simp, fun name hname => Text.bytes_le_iff.mpr ?_⟩
    rcases List.mem_append.mp hname with hname | hname
    · exact absurd rfl (bne_iff_ne.mp (hfront _ (List.mem_map_of_mem hname)))
    · rcases List.mem_cons.mp hname with hname | hname
      · obtain rfl : name = function := congrArg Prod.fst hname
        exact String.le_refl name
      · have hlater := (List.pairwise_append.mp hsorted).2.1
        exact Std.le_of_lt ((List.pairwise_cons.mp hlater).1 _ hname)
  · rintro ⟨howner, hmem, hfirst⟩
    obtain ⟨earlier, later, hentries⟩ := List.append_of_mem hmem
    refine ⟨earlier.map fun entry => (entry.2, ⟨attachment.id, entry.1⟩),
      later.map fun entry => (entry.2, ⟨attachment.id, entry.1⟩), ?_, ?_⟩
    · rw [hentries, List.map_append, List.map_cons, ← howner]
    · rw [List.forall_mem_map]
      rintro ⟨name, pin⟩ hentry
      rw [bne_iff_ne]
      rintro rfl
      -- a name that stands before another is the smaller one
      have hlt : name < holder.function :=
        (List.pairwise_append.mp (hentries ▸ hsorted)).2.2 _ hentry _ List.mem_cons_self
      have hle := hfirst name (hentries ▸ List.mem_append_left _ hentry)
      exact Std.not_lt.mpr (Text.bytes_le_iff.mp hle) hlt

theorem lookup_recordings_eq_none_iff :
    attachment.recordings.lookup gpio = none ↔ gpio ∉ attachment.gpios := by
  rw [PinTable.lookup_eq_none_iff_notMem, map_fst_recordings]

end Attachment

variable {gpio : Gpio} {attachments : List Attachment} {holder : Holder}

/-- The first holder is the one whose recording stands first among all of them. -/
theorem firstHolder_iff_lookup :
    FirstHolder gpio attachments holder ↔
      (attachments.flatMap Attachment.recordings).lookup gpio = some holder := by
  induction attachments with
  | nil => exact ⟨nofun, nofun⟩
  | cons attachment others ih =>
      rw [List.flatMap_cons, List.lookup_append, Option.or_eq_some_iff, ← ih,
        Attachment.lookup_recordings_eq_some_iff, Attachment.lookup_recordings_eq_none_iff]
      constructor
      · intro h
        cases h with
        | here _ recorded first => exact .inl ⟨rfl, recorded, first⟩
        | later unrecorded holds => exact .inr ⟨unrecorded, holds⟩
      · rintro (⟨howner, hrecorded, hfirst⟩ | ⟨hunrecorded, hholds⟩)
        · obtain ⟨owner, function⟩ := holder
          obtain rfl : owner = attachment.id := howner
          exact .here others hrecorded hfirst
        · exact .later hunrecorded hholds

/-- Attachments that do not record a pin can be left out. -/
theorem firstHolder_append_iff {earlier others : List Attachment} (h : gpio ∉ recorded earlier) :
    FirstHolder gpio (earlier ++ others) holder ↔ FirstHolder gpio others holder := by
  induction earlier with
  | nil => rfl
  | cons attachment earlier ih =>
      obtain ⟨hfirst, hrest⟩ := not_or.mp (mt List.mem_append.mpr h)
      rw [List.cons_append, ← ih hrest]
      constructor
      · intro hholder
        cases hholder with
        | here _ recorded _ => exact absurd (Attachment.mem_gpios_iff.mpr ⟨_, recorded⟩) hfirst
        | later _ holds => exact holds
      · exact .later hfirst

/-- Whoever comes after the first holder is of no account. -/
theorem firstHolder_cons_congr {attachment : Attachment} (h : gpio ∈ attachment.gpios)
    (others others' : List Attachment) :
    FirstHolder gpio (attachment :: others) holder ↔
      FirstHolder gpio (attachment :: others') holder := by
  have hinto (xs ys : List Attachment) (hholder : FirstHolder gpio (attachment :: xs) holder) :
      FirstHolder gpio (attachment :: ys) holder := by
    cases hholder with
    | here _ recorded first => exact .here ys recorded first
    | later unrecorded _ => exact absurd h unrecorded
  exact ⟨hinto others others', hinto others' others⟩

theorem notMem_recorded_of_sublist {remaining : List Attachment}
    (h : remaining.Sublist attachments) (hgpio : gpio ∉ recorded attachments) :
    gpio ∉ recorded remaining := by
  rw [mem_recorded_iff] at hgpio ⊢
  rintro ⟨attachment, hmem, hrecords⟩
  exact hgpio ⟨attachment, h.subset hmem, hrecords⟩

namespace PinTable

variable {table : PinTable} {board : Board} {row : Reservation}

theorem reserveAll_eq_run (table : PinTable) (wanted : List (Gpio × Holder)) :
    table.reserveAll wanted = table.run (wanted.map fun entry => .reserve entry.1 entry.2) := by
  rw [reserveAll, run, List.foldl_map]
  simp only [tryReserve_eq_serve]

theorem Consistent.reservation?_eq_some_iff (h : table.Consistent) :
    table.reservation? gpio = some row ↔
      table.holder? gpio = some row.toHolder ∧ row.gpio = gpio := by
  constructor
  · intro hrow
    exact ⟨congrArg (Option.map Reservation.toHolder) hrow, h.gpio_eq gpio row hrow⟩
  · rintro ⟨hholder, hgpio⟩
    obtain ⟨found, hfound, hsame⟩ := Option.map_eq_some_iff.mp hholder
    have hfoundGpio : found.gpio = gpio := h.gpio_eq gpio found hfound
    obtain ⟨foundHolder, foundPin⟩ := found
    obtain ⟨rowHolder, rowPin⟩ := row
    obtain rfl : foundHolder = rowHolder := hsame
    obtain rfl : foundPin = rowPin := hfoundGpio.trans hgpio.symm
    exact hfound

theorem consistent_replay (board : Board) (attachments : List Attachment) :
    (replay board attachments).Consistent := by
  rw [replay_eq_reserveAll, reserveAll_eq_run]
  exact (consistent_start board).run _

/-- The reservation of a pin, from what the attachments record. -/
theorem reservation?_replay_eq_some_iff :
    (replay board attachments).reservation? gpio = some row ↔
      board.has gpio ∧ row.gpio = gpio ∧ FirstHolder gpio attachments row.toHolder := by
  have hholder : (replay board attachments).holder? gpio =
      if board.has gpio then (attachments.flatMap Attachment.recordings).lookup gpio else none := by
    rw [replay_eq_reserveAll, holder?_reserveAll, holder?_start, board_start, Option.none_or]
  rw [(consistent_replay board attachments).reservation?_eq_some_iff, hholder,
    Option.ite_none_right_eq_some, ← firstHolder_iff_lookup]
  exact ⟨fun ⟨⟨hboard, hfirst⟩, hgpio⟩ => ⟨hboard, hgpio, hfirst⟩,
    fun ⟨hboard, hgpio, hfirst⟩ => ⟨⟨hboard, hfirst⟩, hgpio⟩⟩

theorem exists_reservation?_replay_iff :
    (∃ row, (replay board attachments).reservation? gpio = some row) ↔
      board.has gpio ∧ gpio ∈ recorded attachments := by
  rw [← Option.ne_none_iff_exists', ne_eq, ← isFree_iff_reservation?, isFree_replay_iff, not_not]

end PinTable

namespace Project

/-- Detaching by several ids leaves the attachments that have none of them. -/
theorem foldl_detach (project : Project) (ids : List AttachmentId) :
    ids.foldl detach project =
      { project with
        attachments := project.attachments.filter fun attachment => attachment.id ∉ ids } := by
  induction ids generalizing project with
  | nil => simp
  | cons id ids ih =>
      rw [List.foldl_cons, ih, detach, List.filter_filter]
      congr 2
      funext attachment
      simp [Bool.and_comm]

end Project

namespace PinTable

/-- What the table that is rebuilt from attachments holds, and what becomes of it when some of them
are left out. -/
structure RebuildsWiring (board : Board) (attachments : List Attachment) : Prop where
  reserved_iff : ∀ gpio, (∃ row, (replay board attachments).reservation? gpio = some row) ↔
    board.has gpio ∧ gpio ∈ recorded attachments
  row_iff : ∀ gpio row, (replay board attachments).reservation? gpio = some row ↔
    board.has gpio ∧ row.gpio = gpio ∧ FirstHolder gpio attachments row.toHolder
  /-- A project that detaches some has the table of the others. -/
  detached : ∀ project : Project, project.board = board → project.attachments = attachments →
    ∀ ids : List AttachmentId, (ids.foldl Project.detach project).pinTable =
      replay board (attachments.filter fun attachment => attachment.id ∉ ids)
  /-- Whoever remains, a pin becomes free just when none of them records it. -/
  freed_iff : ∀ remaining gpio row,
    (replay board attachments).reservation? gpio = some row →
      ((replay board remaining).reservation? gpio = none ↔ gpio ∉ recorded remaining)
  /-- As long as the first holder remains, its reservation does. -/
  stays : ∀ earlier first others, attachments = earlier ++ first :: others →
    ∀ gpio, gpio ∉ recorded earlier → gpio ∈ first.gpios →
      ∀ earlier' others', earlier'.Sublist earlier → others'.Sublist others →
        (replay board (earlier' ++ first :: others')).reservation? gpio =
          (replay board attachments).reservation? gpio
  /-- Without it the reservation goes to the next one after it, among those that remain. -/
  passes : ∀ earlier first others, attachments = earlier ++ first :: others →
    ∀ gpio, gpio ∉ recorded earlier → gpio ∈ first.gpios →
      ∀ earlier' others', earlier'.Sublist earlier → others'.Sublist others →
        ∀ row, (replay board (earlier' ++ others')).reservation? gpio = some row ↔
          board.has gpio ∧ row.gpio = gpio ∧ FirstHolder gpio others' row.toHolder

/-- Whatever attachments record, their table is rebuilt from it, with and without some of them. -/
theorem rebuildsWiring (board : Board) (attachments : List Attachment) :
    RebuildsWiring board attachments where
  reserved_iff gpio := exists_reservation?_replay_iff
  row_iff gpio row := reservation?_replay_eq_some_iff
  detached project hboard hattachments ids := by
    rw [Project.foldl_detach, Project.pinTable, hboard, hattachments]
  freed_iff remaining gpio row hrow := by
    have hboard := (reservation?_replay_eq_some_iff.mp hrow).1
    rw [← isFree_iff_reservation?, isFree_replay_iff]
    exact not_congr (and_iff_right hboard)
  stays earlier first others hsplit gpio hearlier hfirst earlier' others' hsub _ := by
    have hearlier' := notMem_recorded_of_sublist hsub hearlier
    ext row
    rw [reservation?_replay_eq_some_iff, reservation?_replay_eq_some_iff, hsplit,
      firstHolder_append_iff hearlier, firstHolder_append_iff hearlier',
      firstHolder_cons_congr hfirst others' others]
  passes earlier first others _ gpio hearlier _ earlier' others' hsub _ row := by
    have hearlier' := notMem_recorded_of_sublist hsub hearlier
    rw [reservation?_replay_eq_some_iff, firstHolder_append_iff hearlier']

end PinTable

end SensorNode
