import SensorNode.Project.Basic
import SensorNode.Proofs.PinTable.Assignment

/-!
# Edits of a project

What attaching a peripheral can do: it appends the planned attachment and changes nothing else, or
it fails and says why.
-/

namespace SensorNode

theorem planAttachment_eq_ok_iff {board : Board} {attachments : List Attachment}
    {id : AttachmentId} {peripheral : Peripheral} {attachment : Attachment} :
    planAttachment board attachments id peripheral = .ok attachment ↔
      ∃ next, (PinTable.replay board attachments).assign id peripheral =
        .ok (attachment, next) := by
  simp [planAttachment, Outcome.map_eq_ok_iff]

theorem planAttachment_eq_error_iff {board : Board} {attachments : List Attachment}
    {id : AttachmentId} {peripheral : Peripheral} {error : AllocationError} :
    planAttachment board attachments id peripheral = .error error ↔
      (PinTable.replay board attachments).assignPins id peripheral = .error error := by
  simp [planAttachment, PinTable.assign, Outcome.map_eq_error_iff]

/-- The planned attachment has the id that it was planned for. -/
theorem id_of_planAttachment {board : Board} {attachments : List Attachment} {id : AttachmentId}
    {peripheral : Peripheral} {attachment : Attachment}
    (h : planAttachment board attachments id peripheral = .ok attachment) : attachment.id = id := by
  obtain ⟨next, hassign⟩ := planAttachment_eq_ok_iff.mp h
  obtain ⟨picked, -, rfl⟩ := PinTable.assign_eq_ok_iff.mp hassign
  rfl

namespace Project

variable {catalog : Catalog} {project : Project} {id : AttachmentId} {peripheralId : String}

theorem attach_eq_ok_iff {attachment : Attachment} {next : Project} :
    project.attach catalog id peripheralId = .ok (attachment, next) ↔
      ∃ peripheral, catalog.peripheral? peripheralId = some peripheral ∧
        planAttachment project.board project.attachments id peripheral = .ok attachment ∧
        next = { project with attachments := project.attachments ++ [attachment] } := by
  unfold attach planned
  cases catalog.peripheral? peripheralId with
  | none => simp [Except.map]
  | some peripheral =>
      simp only [Outcome.map_eq_ok_iff, Prod.mk.injEq, Option.some.injEq]
      constructor
      · rintro ⟨_, hplan, rfl, rfl⟩
        exact ⟨peripheral, rfl, hplan, rfl⟩
      · rintro ⟨_, rfl, hplan, rfl⟩
        exact ⟨attachment, hplan, rfl, rfl⟩

/-- The attachment that was made for a peripheral is what the table of the project assigns to it. -/
theorem assign_of_attach {peripheral : Peripheral} {attachment : Attachment} {next : Project}
    (hperipheral : catalog.peripheral? peripheralId = some peripheral)
    (h : project.attach catalog id peripheralId = .ok (attachment, next)) :
    (∃ table, (PinTable.replay project.board project.attachments).assign id peripheral =
        .ok (attachment, table)) ∧
      next = { project with attachments := project.attachments ++ [attachment] } := by
  obtain ⟨_, hfound, hplan, hnext⟩ := attach_eq_ok_iff.mp h
  obtain rfl := Option.some.inj (hperipheral.symm.trans hfound)
  exact ⟨planAttachment_eq_ok_iff.mp hplan, hnext⟩

theorem attach_eq_error_iff {error : AllocationError} :
    project.attach catalog id peripheralId = .error error ↔
      (catalog.peripheral? peripheralId = none ∧ error = .unknownPeripheral peripheralId) ∨
        ∃ peripheral, catalog.peripheral? peripheralId = some peripheral ∧
          planAttachment project.board project.attachments id peripheral = .error error := by
  unfold attach planned
  cases catalog.peripheral? peripheralId with
  | none => simp [Outcome.map_eq_error_iff, @eq_comm _ error]
  | some peripheral => simp [Outcome.map_eq_error_iff]

end Project

end SensorNode
