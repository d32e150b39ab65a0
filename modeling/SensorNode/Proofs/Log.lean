import SensorNode.CommandLine.Run

/-!
# Warnings of the log

Most of what is logged are details. A warning stands for a file that was left out, a board that was
not found, a token that could not be had, and an attachment that is not known.
-/

namespace SensorNode

open Log (Record)

namespace Catalog

/-- The warnings of the log about something in a directory; only about its files there are any. -/
def LoadFailure.records : LoadFailure → List Record
  | failure@(.entry ..) => [Log.warning failure.message]
  | _ => []

theorem UserFiles.filter_isWarning_ofOutcomes
    (outcomes : List (String × Except CatalogError Peripheral)) :
    (ofOutcomes outcomes).records.filter Record.isWarning =
      (ofOutcomes outcomes).failures.flatMap LoadFailure.records := by
  induction outcomes with
  | nil => rfl
  | cons outcome rest ih =>
      obtain ⟨name, result⟩ := outcome
      cases result with
      | ok peripheral => exact ih
      | error error => exact congrArg (Log.warning _ :: ·) ih

theorem filter_isWarning_putAllRecords (catalog : Catalog) (peripherals : List Peripheral) :
    (catalog.putAllRecords peripherals).filter Record.isWarning = [] := by
  induction peripherals generalizing catalog with
  | nil => rfl
  | cons peripheral rest ih =>
      rw [putAllRecords, List.filter_append, ih, List.append_nil]
      cases catalog.peripheral? peripheral.id <;> rfl

theorem filter_isWarning_boardRecords (catalog : Catalog) (id : String) :
    (catalog.boardRecords id).filter Record.isWarning = catalog.boardRecords id := by
  rw [boardRecords]
  cases catalog.board? id <;> rfl

theorem boardRecords_putAll (catalog : Catalog) (peripherals : List Peripheral) (id : String) :
    (catalog.putAll peripherals).boardRecords id = catalog.boardRecords id := by
  induction peripherals generalizing catalog with
  | nil => rfl
  | cons peripheral rest ih => exact ih (catalog.put peripheral)

end Catalog

namespace PinTable

theorem filter_isWarning_refusals (table : PinTable)
    (reservations : List (String × Gpio × Holder)) :
    (table.refusals reservations).filter Record.isWarning = [] := by
  induction reservations generalizing table with
  | nil => rfl
  | cons reservation rest ih =>
      obtain ⟨purpose, gpio, holder⟩ := reservation
      rw [refusals]
      cases table.reserve gpio holder with
      | ok next => exact ih next
      | error error => exact ih table

theorem filter_isWarning_pickRecords (owner : AttachmentId) (capabilities : List Capability)
    (table : PinTable) : (pickRecords owner capabilities table).filter Record.isWarning = [] := by
  induction capabilities generalizing table with
  | nil => rfl
  | cons capability rest ih =>
      rw [pickRecords]
      cases (table.candidates capability true).head? with
      | none => rfl
      | some pin => exact ih _

theorem filter_isWarning_assignRecords (table : PinTable) (id : AttachmentId)
    (peripheral : Peripheral) :
    (table.assignRecords id peripheral).filter Record.isWarning = [] := by
  rw [assignRecords]
  split
  · cases table.board.sharedBus? .i2c with
    | none => rfl
    | some pins => exact filter_isWarning_refusals table _
  · exact filter_isWarning_pickRecords id peripheral.requires table

end PinTable

namespace Project

theorem filter_isWarning_attachRecords (project : Project) (catalog : Catalog)
    (id : AttachmentId) (peripheralId : String) :
    (project.attachRecords catalog id peripheralId).filter Record.isWarning = [] := by
  rw [attachRecords]
  cases catalog.peripheral? peripheralId with
  | none => rfl
  | some peripheral =>
      have hreplay := PinTable.filter_isWarning_refusals (.start project.board)
      have hassign := project.pinTable.filter_isWarning_assignRecords id peripheral
      simp only [List.filter_append, PinTable.replayRecords, hreplay, hassign, List.nil_append]
      cases project.planned catalog id peripheralId <;> rfl

theorem filter_isWarning_attachAllRecords (catalog : Catalog) (project : Project)
    (requests : List (AttachmentId × String)) :
    (attachAllRecords catalog project requests).filter Record.isWarning = [] := by
  induction requests generalizing project with
  | nil => rfl
  | cons request rest ih =>
      obtain ⟨id, peripheralId⟩ := request
      rw [attachAllRecords, List.filter_append, filter_isWarning_attachRecords, List.nil_append]
      cases project.attach catalog id peripheralId with
      | error error => rfl
      | ok attached => exact ih attached.2

/-- Planning warns of a board that is not there, and of nothing else. -/
theorem filter_isWarning_planRecords (catalog : Catalog) (ids : Nat → AttachmentId)
    (boardId : String) (peripheralIds : List String) :
    (planRecords catalog ids boardId peripheralIds).filter Record.isWarning =
      catalog.boardRecords boardId := by
  rw [planRecords, List.filter_append, Catalog.filter_isWarning_boardRecords,
    filter_isWarning_attachAllRecords, List.append_nil]

end Project

theorem Identity.filter_isWarning_resolveRecords (issuer : Issuer) (record : Identity.Record) :
    (resolveRecords issuer record).filter Record.isWarning = resolveRecords issuer record := by
  rw [resolveRecords]
  cases issuer record <;> rfl

theorem CommandLine.IdentitySource.filter_isWarning_records (source : IdentitySource) :
    source.records.filter Record.isWarning = source.records := by
  cases source with
  | unregistered => rfl
  | token text => rfl
  | secret text => exact Identity.filter_isWarning_resolveRecords _ _

namespace Sketch

theorem Contribution.filter_isWarning_records (attachment : Attachment)
    (peripheral : Peripheral) :
    (Contribution.records attachment peripheral).filter Record.isWarning = [] := by
  have hunread : (if peripheral.telemetryField.isSome && peripheral.telemetryRead.isNone then
      [Log.debug (peripheral.id ++ " declares telemetry but no read statement")]
      else []).filter Record.isWarning = [] := by
    split <;> rfl
  rw [Contribution.records]
  split
  · exact hunread
  · exact hunread
  · rfl

/-- Rendering warns of attachments that are not known. -/
theorem filter_isWarning_renderRecords {catalog : Catalog} {attachments : List Attachment}
    (h : ∀ attachment ∈ attachments, (catalog.peripheral? attachment.peripheralId).isSome) :
    (renderRecords catalog attachments).filter Record.isWarning = [] := by
  induction attachments with
  | nil => rfl
  | cons attachment rest ih =>
      obtain ⟨hattachment, hrest⟩ := List.forall_mem_cons.mp h
      obtain ⟨peripheral, hperipheral⟩ := Option.isSome_iff_exists.mp hattachment
      simp only [renderRecords, hperipheral, List.filter_append,
        Contribution.filter_isWarning_records, List.nil_append]
      cases Contribution.ofAttachment attachment peripheral with
      | error error => rfl
      | ok contribution => exact ih hrest

theorem filter_isWarning_generateRecords {catalog : Catalog} {attachments : List Attachment}
    (h : ∀ attachment ∈ attachments, (catalog.peripheral? attachment.peripheralId).isSome)
    (board : Board) (network : Network) (identity : Option String) :
    (generateRecords catalog board attachments network identity).filter Record.isWarning = [] := by
  have hmissing : (missingLibraryRecords catalog attachments).filter Record.isWarning = [] := by
    rw [List.filter_eq_nil_iff, missingLibraryRecords]
    intro record hrecord
    obtain ⟨id, -, rfl⟩ := List.mem_map.mp hrecord
    exact Bool.false_ne_true
  rw [generateRecords, List.filter_append, filter_isWarning_renderRecords h, List.nil_append]
  cases generate catalog board attachments network identity with
  | error error => rfl
  | ok sketch => rw [List.filter_append, hmissing]; rfl

end Sketch

end SensorNode
