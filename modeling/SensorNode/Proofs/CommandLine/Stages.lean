import SensorNode.Proofs.CommandLine.Loading

/-!
# The stages of a command

A command that attaches peripherals loads the catalog and plans, and one that generates renders and
saves a sketch after that. It ends at the first stage that fails, and what it tells grows with each
stage it has passed.
-/

namespace SensorNode.CommandLine

/-- What is told up to the plan. -/
def planNotices (loading : List Notice) (catalog : Catalog) (ids : Nat → AttachmentId)
    (selection : Selection) : List Notice :=
  loading ++
    (Project.planRecords catalog ids selection.boardId selection.peripheralIds).map .record

/-- What is told up to the sketch; the first id has gone to the device. -/
def sketchNotices (loading : List Notice) (catalog : Catalog) (ids : Nat → AttachmentId)
    (selection : Selection) (settings : Settings) (project : Project) : List Notice :=
  planNotices loading catalog (fun k => ids (k + 1)) selection ++
    (settings.identity.records ++ Sketch.generateRecords catalog project.board project.attachments
      (settings.network (ids 0)) settings.identity.token?).map .record

/-- Planning and rendering are told of in records alone. -/
theorem filterMap_message?_planNotices (loading : List Notice) (catalog : Catalog)
    (ids : Nat → AttachmentId) (selection : Selection) :
    (planNotices loading catalog ids selection).filterMap Notice.message? =
      loading.filterMap Notice.message? := by
  rw [planNotices, List.filterMap_append, Notice.filterMap_message?_map_record, List.append_nil]

theorem filterMap_message?_sketchNotices (loading : List Notice) (catalog : Catalog)
    (ids : Nat → AttachmentId) (selection : Selection) (settings : Settings) (project : Project) :
    (sketchNotices loading catalog ids selection settings project).filterMap Notice.message? =
      loading.filterMap Notice.message? := by
  rw [sketchNotices, List.filterMap_append, filterMap_message?_planNotices,
    Notice.filterMap_message?_map_record, List.append_nil]

section

variable {σ : Type} {files : FileAccess (StateM σ)} {state : σ} {ids : Nat → AttachmentId}
  {selection : Selection} {settings : Settings} {catalog : Catalog} {loading : List Notice}
  {project : Project} {sketch : Sketch}

variable (hload : (loadCatalog files selection.catalogDirectory).run state =
  (.ok (catalog, loading), state))

include hload

theorem run_runPlan_of_plan_error {failure : Failure} (format : Format)
    (hplan : Project.planOrFailure catalog ids selection.boardId selection.peripheralIds =
      .error failure) :
    (runPlan files ids selection format).run state =
      (.failed failure (planNotices loading catalog ids selection), state) := by
  rw [runPlan, run_bind_of_unchanged hload]
  simp only [hplan]
  rfl

/-- A plan that can be made is reported. -/
theorem exists_run_runPlan_of_plan (format : Format)
    (hplan : Project.planOrFailure catalog ids selection.boardId selection.peripheralIds =
      .ok project) :
    ∃ output, (runPlan files ids selection format).run state =
        (.done output (planNotices loading catalog ids selection), state) ∧
      (format = .json → output = Output.planJson (.ofProject catalog project)) := by
  rw [runPlan, run_bind_of_unchanged hload]
  simp only [hplan]
  cases format with
  | human => exact ⟨_, rfl, nofun⟩
  | json => exact ⟨_, rfl, fun _ => rfl⟩

theorem exitCode_runPlan (format : Format) :
    ((runPlan files ids selection format).run state).1.exitCode =
      if (Project.planOrFailure catalog ids selection.boardId selection.peripheralIds).isOk then 0
      else 1 := by
  cases hplan : Project.planOrFailure catalog ids selection.boardId selection.peripheralIds with
  | error failure =>
      rw [run_runPlan_of_plan_error hload format hplan]
      rfl
  | ok project =>
      obtain ⟨output, hrun, -⟩ := exists_run_runPlan_of_plan hload format hplan
      rw [hrun]
      rfl

theorem run_runGenerate_of_plan_error {failure : Failure} (format : Format)
    (hplan : Project.planOrFailure catalog (fun k => ids (k + 1)) selection.boardId
      selection.peripheralIds = .error failure) :
    (runGenerate files ids selection settings format).run state =
      (.failed failure (planNotices loading catalog (fun k => ids (k + 1)) selection), state) := by
  rw [runGenerate, run_bind_of_unchanged hload]
  simp only [hplan]
  rfl

variable (hplan : Project.planOrFailure catalog (fun k => ids (k + 1)) selection.boardId
  selection.peripheralIds = .ok project)

include hplan

theorem run_runGenerate_of_render_error {error : Sketch.RenderError} (format : Format)
    (hsketch : Sketch.generate catalog project.board project.attachments
      (settings.network (ids 0)) settings.identity.token? = .error error) :
    (runGenerate files ids selection settings format).run state =
      (.failed (.render error) (sketchNotices loading catalog ids selection settings project),
        state) := by
  rw [runGenerate, run_bind_of_unchanged hload]
  simp only [hplan, hsketch]
  rfl

variable (hsketch : Sketch.generate catalog project.board project.attachments
  (settings.network (ids 0)) settings.identity.token? = .ok sketch)

include hsketch

theorem run_runGenerate_of_save_error {failure : Failure} {next : σ} (format : Format)
    (hsave : (saveTo files sketch settings.output).run state = (.error failure, next)) :
    (runGenerate files ids selection settings format).run state =
      (.failed failure (sketchNotices loading catalog ids selection settings project), next) := by
  rw [runGenerate, run_bind_of_unchanged hload]
  simp only [hplan, hsketch]
  rw [run_bind_of_run hsave]
  rfl

/-- A sketch that is saved, or needs not be, is reported, and a last record is logged. -/
theorem exists_run_runGenerate_of_save {written : Option String} {next : σ} (format : Format)
    (hsave : (saveTo files sketch settings.output).run state = (.ok written, next)) :
    ∃ output, (runGenerate files ids selection settings format).run state =
        (.done output (sketchNotices loading catalog ids selection settings project ++
          [.record (generatedRecord project sketch)]), next) ∧
      match format with
      | .human => output = Output.sketch (.ofProject catalog project) sketch written
      | .json => output = Output.sketchJson (.ofProject catalog project) sketch written := by
  rw [runGenerate, run_bind_of_unchanged hload]
  simp only [hplan, hsketch]
  rw [run_bind_of_run hsave]
  cases format <;> exact ⟨_, rfl, rfl⟩

end

section

variable {view : FileView} {directory : Option String} {loading : List Notice}
  (hloading : loading.filter Notice.isUrgent = alerts view directory [])

include hloading

/-- Without details, planning adds a warning about a board that is not there. -/
theorem filter_isUrgent_planNotices (standard : Catalog) (peripherals : List Peripheral)
    (ids : Nat → AttachmentId) (selection : Selection) :
    (planNotices loading (standard.putAll peripherals) ids selection).filter Notice.isUrgent =
      alerts view directory (standard.boardRecords selection.boardId) := by
  rw [planNotices, List.filter_append, hloading, Notice.filter_isUrgent_map_record,
    Project.filter_isWarning_planRecords, Catalog.boardRecords_putAll, alerts_append,
    List.nil_append]

/-- Without details, generating adds a warning about a token that cannot be had. -/
theorem filter_isUrgent_sketchNotices (standard : Catalog) (peripherals : List Peripheral)
    (ids : Nat → AttachmentId) (selection : Selection) (settings : Settings) (project : Project)
    (hknown : ∀ attachment ∈ project.attachments,
      ((standard.putAll peripherals).peripheral? attachment.peripheralId).isSome) :
    (sketchNotices loading (standard.putAll peripherals) ids selection settings project).filter
        Notice.isUrgent =
      alerts view directory
        (standard.boardRecords selection.boardId ++ settings.identity.records) := by
  rw [sketchNotices, List.filter_append, filter_isUrgent_planNotices hloading,
    Notice.filter_isUrgent_map_record, List.filter_append, IdentitySource.filter_isWarning_records,
    Sketch.filter_isWarning_generateRecords hknown, List.append_nil, alerts_append]

end

end SensorNode.CommandLine
