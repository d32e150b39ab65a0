import SensorNode.Project.Report
import SensorNode.Proofs.Project.BatchPlanning
import SensorNode.Proofs.Project.Monotonicity

/-!
# Plans do not depend on ids

The ids of attachments are drawn at random, so two plans for one list of peripherals differ. They
differ in the ids alone: boards, peripherals and pins are the same, and where one plan fails the
other fails for the same reason. For the pins of an attachment depend on the pins that are recorded
before it, whoever records them.
-/

namespace SensorNode

/-- What an attachment is besides its id. -/
def Attachment.wiring (attachment : Attachment) : String × PinMap :=
  (attachment.peripheralId, attachment.pins)

theorem RecordedWithin.of_map_wiring_eq {board : Board} {xs ys : List Attachment}
    (h : xs.map Attachment.wiring = ys.map Attachment.wiring) : RecordedWithin board xs ys := by
  have hpins : xs.map Attachment.pins = ys.map Attachment.pins := by
    simpa [Attachment.wiring, Function.comp_def] using congrArg (List.map Prod.snd) h
  exact .of_subset (hpins ▸ List.Subset.refl _)

/-- Plans beside attachments with the same wiring have the same wiring. -/
theorem map_wiring_planAttachment {board : Board} {xs ys : List Attachment}
    (h : xs.map Attachment.wiring = ys.map Attachment.wiring) (id id' : AttachmentId)
    (peripheral : Peripheral) :
    (planAttachment board xs id peripheral).map Attachment.wiring =
      (planAttachment board ys id' peripheral).map Attachment.wiring := by
  have hwithin : RecordedWithin board xs ys := .of_map_wiring_eq h
  have hpins : (planAttachment board xs id peripheral).map Attachment.pins =
      (planAttachment board ys id' peripheral).map Attachment.pins :=
    map_pins_planAttachment hwithin (.of_map_wiring_eq h.symm) id id'
  have hwiring (zs : List Attachment) (a : AttachmentId) :
      (planAttachment board zs a peripheral).map Attachment.wiring =
        ((planAttachment board zs a peripheral).map Attachment.pins).map (peripheral.id, ·) := by
    simp [planAttachment, PinTable.assign, Outcome.map_map, Function.comp_def, Attachment.wiring]
  rw [hwiring, hwiring, hpins]

namespace Project

variable {project other : Project}

/-- The board of a project and the wiring of its attachments in their order. -/
def wiring (project : Project) : Board × List (String × PinMap) :=
  (project.board, project.attachments.map Attachment.wiring)

theorem map_wiring_attach (catalog : Catalog) (h : project.wiring = other.wiring)
    (id id' : AttachmentId) (peripheralId : String) :
    (project.attach catalog id peripheralId).map (fun attached => attached.2.wiring) =
      (other.attach catalog id' peripheralId).map (fun attached => attached.2.wiring) := by
  obtain ⟨hboard, hwiring⟩ := Prod.mk.inj h
  have hattach (p : Project) (a : AttachmentId) :
      (p.attach catalog a peripheralId).map (fun attached => attached.2.wiring) =
        ((p.planned catalog a peripheralId).map Attachment.wiring).map fun planned =>
          (p.board, p.attachments.map Attachment.wiring ++ [planned]) := by
    simp [attach, Outcome.map_map, Function.comp_def, wiring]
  have hplanned : (project.planned catalog id peripheralId).map Attachment.wiring =
      (other.planned catalog id' peripheralId).map Attachment.wiring := by
    unfold planned
    cases catalog.peripheral? peripheralId with
    | none => rfl
    | some peripheral =>
        rw [hboard]
        exact map_wiring_planAttachment hwiring id id' peripheral
  rw [hattach, hattach, hplanned, hboard, hwiring]

/-- Attaching the same peripherals under other ids gives the same wiring or the same error. -/
theorem map_wiring_attachAll (catalog : Catalog) {requests others : List (AttachmentId × String)}
    (hrequests : requests.map Prod.snd = others.map Prod.snd)
    (h : project.wiring = other.wiring) :
    (project.attachAll catalog requests).map wiring =
      (other.attachAll catalog others).map wiring := by
  induction requests generalizing project other others with
  | nil =>
      obtain rfl : others = [] := by simpa using hrequests.symm
      exact congrArg Except.ok h
  | cons request rest ih =>
      obtain ⟨id, _⟩ := request
      obtain ⟨⟨id', peripheralId⟩, others, rfl, rfl, hrest⟩ :=
        List.map_eq_cons_iff.mp hrequests.symm
      have hattach := map_wiring_attach catalog h id id' peripheralId
      rw [attachAll, attachAll]
      cases hproject : project.attach catalog id peripheralId with
      | error error =>
          rw [hproject] at hattach
          rw [Outcome.map_eq_error_iff.mp hattach.symm]
      | ok attached =>
          rw [hproject] at hattach
          obtain ⟨attached', hother, heq⟩ := Outcome.map_eq_ok_iff.mp hattach.symm
          rw [hother]
          exact ih hrest.symm heq.symm

theorem map_snd_requests (ids : Nat → AttachmentId) (peripheralIds : List String) :
    (requests ids peripheralIds).map Prod.snd = peripheralIds := by
  simp [requests, Function.comp_def]

/-- Plans with other ids have the same wiring or fail alike. -/
theorem map_wiring_planOrFailure (catalog : Catalog) (ids ids' : Nat → AttachmentId)
    (boardId : String) (peripheralIds : List String) :
    (planOrFailure catalog ids boardId peripheralIds).map wiring =
      (planOrFailure catalog ids' boardId peripheralIds).map wiring := by
  have hrequests : (requests ids peripheralIds).map Prod.snd =
      (requests ids' peripheralIds).map Prod.snd := by
    rw [map_snd_requests, map_snd_requests]
  have hstart : (start (catalog.boardOrDefault boardId) (ids 0)).wiring =
      (start (catalog.boardOrDefault boardId) (ids' 0)).wiring := rfl
  have hall := map_wiring_attachAll catalog hrequests hstart
  have hmapError (x : Except AllocationError Project) :
      (x.mapError Failure.allocation).map wiring = (x.map wiring).mapError .allocation := by
    cases x <;> rfl
  rw [planOrFailure, planOrFailure, plan, plan, hmapError, hmapError, hall]

end Project

namespace Report

/-- What an entry shows besides the id. -/
def Entry.content (entry : Entry) : String × String × List Row :=
  (entry.peripheralId, entry.name, entry.rows)

/-- Reports on projects with the same wiring differ in the ids alone. -/
theorem map_content_ofProject {project other : Project} (catalog : Catalog)
    (h : project.wiring = other.wiring) :
    (ofProject catalog project).boardId = (ofProject catalog other).boardId ∧
      (ofProject catalog project).entries.map Entry.content =
        (ofProject catalog other).entries.map Entry.content := by
  obtain ⟨hboard, hwiring⟩ := Prod.mk.inj h
  let content (board : Board) (wired : String × PinMap) : String × String × List Row :=
    (entry catalog board ⟨⟨0⟩, wired.1, wired.2⟩).content
  have hentries (p : Project) : (ofProject catalog p).entries.map Entry.content =
      (p.attachments.map Attachment.wiring).map (content p.board) := by
    simp [ofProject, content, Entry.content, entry, Attachment.wiring, Function.comp_def]
  refine ⟨congrArg Board.id hboard, ?_⟩
  rw [hentries, hentries, hboard, hwiring]

end Report

end SensorNode
