import SensorNode.Proofs.Catalog.Checked
import SensorNode.Proofs.PinTable.Nested
import SensorNode.Proofs.Project.Edits

/-!
# Fewer recorded pins

What is planned for a new attachment depends on the pins of the board that are recorded already, and
on nothing else about the attachments that record them. With fewer of them recorded a plan never
gets worse: it succeeds where it did, with no pin of a later rank, and where it fails it would have
failed with more of them recorded, at the same capability or an earlier one.
-/

namespace SensorNode

/-- Each pin of a board that some attachments record is recorded by others, too. -/
def RecordedWithin (board : Board) (xs ys : List Attachment) : Prop :=
  ∀ gpio, board.has gpio → gpio ∈ recorded xs → gpio ∈ recorded ys

namespace RecordedWithin

variable {board : Board} {xs ys : List Attachment}

/-- Attachments whose pin maps are among those of others. -/
theorem of_subset (h : xs.map Attachment.pins ⊆ ys.map Attachment.pins) :
    RecordedWithin board xs ys := by
  intro gpio _ hrecorded
  obtain ⟨x, hx, hgpio⟩ := mem_recorded_iff.mp hrecorded
  obtain ⟨y, hy, hpins⟩ := List.mem_map.mp (h (List.mem_map_of_mem hx))
  refine mem_recorded_iff.mpr ⟨y, hy, ?_⟩
  rwa [Attachment.gpios, hpins]

theorem freer (h : RecordedWithin board xs ys) :
    PinTable.Freer (.replay board xs) (.replay board ys) := by
  refine ⟨by simp, ?_⟩
  intro gpio hfree
  rw [PinTable.isFree_replay_iff] at hfree ⊢
  rintro ⟨hboard, hrecorded⟩
  exact hfree ⟨hboard, h gpio hboard hrecorded⟩

theorem sameFree (h : RecordedWithin board xs ys) (h' : RecordedWithin board ys xs) :
    PinTable.SameFree (.replay board xs) (.replay board ys) := by
  refine ⟨by simp, ?_⟩
  intro gpio
  apply Bool.eq_iff_iff.mpr
  exact ⟨h'.freer.isFree_of gpio, h.freer.isFree_of gpio⟩

end RecordedWithin

section

variable {board : Board} {attachments : List Attachment} {id : AttachmentId}
  {peripheral : Peripheral}

theorem exists_planAttachment_iff :
    (∃ attachment, planAttachment board attachments id peripheral = .ok attachment) ↔
      peripheral.bus = some .i2c ∨ ∃ served,
        PinTable.pick id peripheral.requires (.replay board attachments) = .ok served := by
  rw [planAttachment, Outcome.exists_map_eq_ok_iff, PinTable.assign, Outcome.exists_map_eq_ok_iff,
    PinTable.assignPins]
  by_cases hbus : peripheral.bus = some .i2c
  · simp [hbus, Board.sharedBus?]
  · simp [hbus, Outcome.mapError_eq_ok_iff]

theorem planAttachment_eq_exhausted_iff {capability : Capability} :
    planAttachment board attachments id peripheral =
        .error (.exhausted peripheral.id capability) ↔
      peripheral.bus ≠ some .i2c ∧
        PinTable.pick id peripheral.requires (.replay board attachments) = .error capability := by
  rw [planAttachment_eq_error_iff, PinTable.assignPins_eq_error_iff]
  simp

theorem exists_exhausted {error : AllocationError}
    (h : planAttachment board attachments id peripheral = .error error) :
    ∃ capability, error = .exhausted peripheral.id capability := by
  obtain ⟨-, capability, -, herror⟩ :=
    PinTable.assignPins_eq_error_iff.mp (planAttachment_eq_error_iff.mp h)
  exact ⟨capability, herror⟩

end

/-- A peripheral that needs only the first of its capabilities. -/
def Peripheral.withFirst (peripheral : Peripheral) (n : Nat) : Peripheral :=
  { peripheral with requires := peripheral.requires.take n }

/-- The plan for a peripheral fails at an entry of what it requires: the entries before it can be
served, it can not, and this is what is reported. -/
structure FailsAt (board : Board) (attachments : List Attachment) (id : AttachmentId)
    (peripheral : Peripheral) (k : Nat) : Prop where
  served : ∃ attachment,
    planAttachment board attachments id (peripheral.withFirst k) = .ok attachment
  missing : ∃ capability, peripheral.requires[k]? = some capability ∧
    planAttachment board attachments id (peripheral.withFirst (k + 1)) =
      .error (.exhausted peripheral.id capability) ∧
    planAttachment board attachments id peripheral =
      .error (.exhausted peripheral.id capability)

/-- Pin for pin, what one attachment records has no later rank than what another does. -/
def PinsNoLater (board : Board) (earlier later : Attachment) : Prop :=
  ∀ i, Option.Rel (fun g g' => board.rank g ≤ board.rank g') (earlier.pin? i) (later.pin? i)

section

variable {board : Board} {xs ys : List Attachment} {id id' : AttachmentId} {peripheral : Peripheral}

/-- What cannot be served at first is not served with more to come. -/
theorem planAttachment_of_withFirst {n : Nat} {capability : Capability}
    (h : planAttachment board xs id (peripheral.withFirst n) =
      .error (.exhausted peripheral.id capability)) :
    planAttachment board xs id peripheral = .error (.exhausted peripheral.id capability) := by
  obtain ⟨hbus, hpick⟩ := planAttachment_eq_exhausted_iff.mp h
  refine planAttachment_eq_exhausted_iff.mpr ⟨hbus, ?_⟩
  rw [← List.take_append_drop n peripheral.requires]
  exact PinTable.pick_append_eq_error hpick _

theorem exists_failsAt {error : AllocationError}
    (h : planAttachment board xs id peripheral = .error error) :
    ∃ k, FailsAt board xs id peripheral k := by
  obtain ⟨capability, rfl⟩ := exists_exhausted h
  obtain ⟨hbus, hpick⟩ := planAttachment_eq_exhausted_iff.mp h
  obtain ⟨k, hserved, hmissing, herror⟩ := PinTable.exists_of_pick_eq_error hpick
  exact ⟨k, exists_planAttachment_iff.mpr (.inr hserved), capability, hmissing,
    planAttachment_eq_exhausted_iff.mpr ⟨hbus, herror⟩, h⟩

theorem Peripheral.withFirst_withFirst {k n : Nat} (h : k ≤ n) :
    (peripheral.withFirst n).withFirst k = peripheral.withFirst k := by
  simp [withFirst, List.take_take, Nat.min_eq_left h]

/-- A plan fails at one entry only. -/
theorem FailsAt.unique {k n : Nat} (hk : FailsAt board xs id peripheral k)
    (hn : FailsAt board xs id peripheral n) : k = n := by
  have hle {k n : Nat} (hk : FailsAt board xs id peripheral k)
      (hn : FailsAt board xs id peripheral n) : n ≤ k := by
    by_contra hlt
    obtain ⟨attachment, hserved⟩ := hn.served
    obtain ⟨capability, -, hmissing, -⟩ := hk.missing
    rw [← Peripheral.withFirst_withFirst (by omega : k + 1 ≤ n)] at hmissing
    have herror := planAttachment_of_withFirst hmissing
    simp [hserved] at herror
  exact Nat.le_antisymm (hle hn hk) (hle hk hn)

end

section

variable {board : Board} {xs ys : List Attachment} {peripheral : Peripheral}

theorem rel_getElem? {α : Type} {R : α → α → Prop} {as bs : List α} (h : List.Forall₂ R as bs)
    (i : Nat) : Option.Rel R as[i]? bs[i]? := by
  induction h generalizing i with
  | nil => exact .none
  | cons hab _ ih =>
      cases i with
      | zero => exact .some hab
      | succ i => exact ih i

/-- A plan that succeeds with more pins recorded succeeds with fewer, and takes no later pins. -/
theorem exists_planAttachment_of_recordedWithin (distinct : (board.pins.map Pin.gpio).Nodup)
    (h : RecordedWithin board xs ys) (id : AttachmentId) {id' : AttachmentId} {later : Attachment}
    (hlater : planAttachment board ys id' peripheral = .ok later) :
    ∃ earlier, planAttachment board xs id peripheral = .ok earlier ∧
      PinsNoLater board earlier later := by
  obtain ⟨next', hassign⟩ := planAttachment_eq_ok_iff.mp hlater
  obtain ⟨picked, hpicked, rfl⟩ := PinTable.assign_eq_ok_iff.mp hassign
  obtain ⟨pins, next, hpins, hranks⟩ :=
    h.freer.assignPins (a := id) (by simpa using distinct) hpicked
  have hearlier := PinTable.assign_eq_ok_iff.mpr ⟨pins, hpins, rfl⟩
  refine ⟨_, planAttachment_eq_ok_iff.mpr ⟨next, hearlier⟩, ?_⟩
  intro i
  simpa [Attachment.pin?] using rel_getElem? hranks i

/-- A plan that fails with fewer pins recorded fails with more, and no later. -/
theorem FailsAt.exists_le (distinct : (board.pins.map Pin.gpio).Nodup)
    (h : RecordedWithin board xs ys) {id : AttachmentId} (id' : AttachmentId) {k : Nat}
    (hfails : FailsAt board xs id peripheral k) :
    ∃ k' ≤ k, FailsAt board ys id' peripheral k' := by
  obtain ⟨capability, -, hshort, -⟩ := hfails.missing
  cases hplan : planAttachment board ys id' (peripheral.withFirst (k + 1)) with
  | ok later =>
      obtain ⟨earlier, hearlier, -⟩ := exists_planAttachment_of_recordedWithin distinct h id hplan
      simp [hearlier] at hshort
  | error error =>
      -- `ys` already fails on the entries up to `k`, so where it fails is among them
      obtain ⟨k', hserved, missing, hmissing, herror, -⟩ := exists_failsAt hplan
      have hlt : k' < (peripheral.requires.take (k + 1)).length :=
        (List.getElem?_eq_some_iff.mp hmissing).1
      have hle : k' ≤ k := by
        rw [List.length_take] at hlt
        omega
      rw [Peripheral.withFirst_withFirst (by omega)] at hserved herror
      refine ⟨k', hle, hserved, missing, ?_, herror, planAttachment_of_withFirst herror⟩
      rwa [Peripheral.withFirst, List.getElem?_take_of_lt (by omega)] at hmissing

/-- With the same pins recorded the plans are the same, but for the id. -/
theorem map_pins_planAttachment (h : RecordedWithin board xs ys) (h' : RecordedWithin board ys xs)
    (id id' : AttachmentId) :
    (planAttachment board xs id peripheral).map Attachment.pins =
      (planAttachment board ys id' peripheral).map Attachment.pins := by
  have hpins := (h.sameFree h').assignPins_eq id id' peripheral
  simpa [planAttachment, PinTable.assign, Outcome.map_map, Function.comp_def] using
    congrArg (Except.map PinMap.ofPins) hpins

end

/-- How the plans for a peripheral depend on what the attachments of a board record. -/
structure PlansByRecorded (board : Board) (peripheral : Peripheral) : Prop where
  succeeds : ∀ (xs ys : List Attachment) (id id' : AttachmentId) (later : Attachment),
    RecordedWithin board xs ys → planAttachment board ys id' peripheral = .ok later →
      ∃ earlier, planAttachment board xs id peripheral = .ok earlier ∧
        PinsNoLater board earlier later
  fails : ∀ (xs ys : List Attachment) (id id' : AttachmentId) (error : AllocationError),
    RecordedWithin board xs ys → planAttachment board xs id peripheral = .error error →
      ∃ k k', k' ≤ k ∧ FailsAt board xs id peripheral k ∧ FailsAt board ys id' peripheral k'
  /-- The entry at which a plan fails is the only one. -/
  failsOnce : ∀ (xs : List Attachment) (id : AttachmentId) (k n : Nat),
    FailsAt board xs id peripheral k → FailsAt board xs id peripheral n → k = n
  agrees : ∀ (xs ys : List Attachment) (id id' : AttachmentId),
    RecordedWithin board xs ys → RecordedWithin board ys xs →
      (planAttachment board xs id peripheral).map Attachment.pins =
        (planAttachment board ys id' peripheral).map Attachment.pins
  /-- What can be attached beside some attachments can be attached beside fewer of them. -/
  removing : ∀ (xs ys : List Attachment) (id : AttachmentId), xs.Sublist ys →
    (∃ later, planAttachment board ys id peripheral = .ok later) →
      ∃ earlier, planAttachment board xs id peripheral = .ok earlier
  /-- Neither the ids nor the order of the attachments count. -/
  anonymous : ∀ (xs ys : List Attachment) (id id' : AttachmentId),
    (xs.map Attachment.pins).Perm (ys.map Attachment.pins) →
      (planAttachment board xs id peripheral).map Attachment.pins =
        (planAttachment board ys id' peripheral).map Attachment.pins

/-- On a board with distinct pins the plans for any peripheral depend on the recorded pins alone,
and get no worse when fewer are recorded. -/
theorem plansByRecorded_of_nodup {board : Board} (distinct : (board.pins.map Pin.gpio).Nodup)
    (peripheral : Peripheral) : PlansByRecorded board peripheral where
  succeeds _ _ id _ _ h hlater := exists_planAttachment_of_recordedWithin distinct h id hlater
  fails xs ys id id' error h herror := by
    obtain ⟨k, hfails⟩ := exists_failsAt herror
    obtain ⟨k', hle, hfails'⟩ := hfails.exists_le distinct h id'
    exact ⟨k, k', hle, hfails, hfails'⟩
  failsOnce _ _ _ _ hk hn := hk.unique hn
  agrees _ _ id id' h h' := map_pins_planAttachment h h' id id'
  removing xs ys id hsublist hlater := by
    obtain ⟨later, hlater⟩ := hlater
    have hwithin : RecordedWithin board xs ys := .of_subset (hsublist.map Attachment.pins).subset
    obtain ⟨earlier, hearlier, -⟩ :=
      exists_planAttachment_of_recordedWithin distinct hwithin id hlater
    exact ⟨earlier, hearlier⟩
  anonymous _ _ id id' hperm :=
    map_pins_planAttachment (.of_subset hperm.subset) (.of_subset hperm.symm.subset) id id'

/-- A second lamp takes the second pin; alone it takes one of no later rank. -/
theorem exists_earlier_lamp :
    ∃ earlier, planAttachment Catalog.Small.twoPins [] ⟨2⟩ Catalog.Small.lamp = .ok earlier ∧
      PinsNoLater Catalog.Small.twoPins earlier ⟨⟨2⟩, "lamp", .ofPins [5]⟩ := by
  let other : Attachment := ⟨⟨1⟩, "lamp", .ofPins [4]⟩
  have hlater : planAttachment Catalog.Small.twoPins [other] ⟨2⟩ Catalog.Small.lamp =
      .ok ⟨⟨2⟩, "lamp", .ofPins [5]⟩ := by
    decide +kernel
  have hwithin : RecordedWithin Catalog.Small.twoPins [] [other] := by
    simp [RecordedWithin, recorded]
  have hplans : PlansByRecorded Catalog.Small.twoPins Catalog.Small.lamp :=
    plansByRecorded_of_nodup (by decide +kernel) Catalog.Small.lamp
  exact hplans.succeeds [] [other] ⟨2⟩ ⟨2⟩ _ hwithin hlater

end SensorNode
