import SensorNode.CommandLine.Run
import SensorNode.Proofs.Catalog.Standard
import SensorNode.Proofs.CommandLine.Channel
import SensorNode.Proofs.Log

/-!
# The catalog of a command

A command works with the standard catalog or with an extension of it by a directory of the user. As
the standard catalog is there, to load it cannot fail, and the directory is always looked at. For
each file that is left out there is a warning in the log, and a warning to the user comes behind all
of the log.

## Implementation notes

Two functions are unfolded as functions: the check of an application that is unfolded would evaluate
the standard catalog.
-/

namespace SensorNode.CommandLine

theorem exists_withStandard (action : Catalog → String) :
    ∃ output notices, withStandard action = .done output notices ∧
      notices.filter Notice.isUrgent = [] := by
  obtain ⟨catalog, hstandard⟩ := Catalog.exists_standard
  have hunfold : withStandard = withStandard := rfl
  conv at hunfold => rhs; delta withStandard
  exact ⟨action catalog, [.record catalog.readyRecord], by rw [hunfold, hstandard], rfl⟩

/-- The warnings about a directory. -/
def warnings (view : FileView) : Option String → List String
  | none => []
  | some directory =>
    (Catalog.UserFiles.shown view directory).failures.map fun failure =>
      "Warning: " ++ failure.message

/-- The warnings of the log about a directory. -/
def loggedWarnings (view : FileView) : Option String → List Log.Record
  | none => []
  | some directory =>
    (Catalog.UserFiles.shown view directory).failures.flatMap Catalog.LoadFailure.records

/-- The peripherals of a directory. -/
def added (view : FileView) : Option String → List Peripheral
  | none => []
  | some directory => (Catalog.UserFiles.shown view directory).peripherals

theorem filter_isWarning_shown (view : FileView) (directory : String) :
    (Catalog.UserFiles.shown view directory).records.filter Log.Record.isWarning =
      (Catalog.UserFiles.shown view directory).failures.flatMap Catalog.LoadFailure.records := by
  rw [Catalog.UserFiles.shown]
  split
  · cases view.names directory with
    | error error => rfl
    | ok names => exact Catalog.UserFiles.filter_isWarning_ofOutcomes _
  · rfl

/-- What is told without details: what the log and the messages warn of about a directory, and what
the log warns of later. -/
def alerts (view : FileView) (directory : Option String) (later : List Log.Record) : List Notice :=
  (loggedWarnings view directory).map .record ++ (warnings view directory).map .message ++
    later.map .record

theorem alerts_append (view : FileView) (directory : Option String) (xs ys : List Log.Record) :
    alerts view directory xs ++ ys.map .record = alerts view directory (xs ++ ys) := by
  simp [alerts]

theorem filterMap_message?_alerts (view : FileView) (directory : Option String)
    (later : List Log.Record) :
    (alerts view directory later).filterMap Notice.message? = warnings view directory := by
  simp only [alerts, List.filterMap_append, Notice.filterMap_message?_map_record,
    Notice.filterMap_message?_map_message, List.nil_append, List.append_nil]

/-- A run that told `notices` and closed with messages, without details. -/
theorem urgent_eq_of_notices_eq {view : FileView} {directory : Option String}
    {later : List Log.Record} {closing : List String} {notices : List Notice} {outcome : Outcome}
    (hnotices : outcome.notices = notices ++ closing.map .message)
    (hurgent : notices.filter Notice.isUrgent = alerts view directory later) :
    outcome.urgent = alerts view directory later ++ closing.map .message := by
  rw [Outcome.urgent, hnotices, List.filter_append, hurgent, Notice.filter_isUrgent_map_message]

theorem filter_isUrgent_loadNotices (view : FileView) (catalog : Catalog) (directory : String) :
    (loadNotices catalog directory (Catalog.UserFiles.shown view directory)).filter
        Notice.isUrgent = alerts view (some directory) [] := by
  have hfailures (failures : List Catalog.LoadFailure) :
      (failures.map fun failure => Notice.message ("Warning: " ++ failure.message)) =
        (failures.map fun failure => "Warning: " ++ failure.message).map .message := by
    simp
  rw [loadNotices, List.filter_append, hfailures, Notice.filter_isUrgent_map_message,
    Notice.filter_isUrgent_map_record, List.cons_append,
    List.filter_cons_of_neg Bool.false_ne_true, List.filter_append, filter_isWarning_shown,
    Catalog.filter_isWarning_putAllRecords, List.append_nil, alerts, List.map_nil, List.append_nil]
  rfl

/-- Files at rest add what they show to the standard catalog. -/
theorem exists_run_loadCatalog {standard : Catalog} (hstandard : Catalog.standard = .ok standard)
    {σ : Type} {files : FileAccess (StateM σ)} {state : σ} (h : files.AtRest state)
    (directory : Option String) :
    ∃ notices, (loadCatalog files directory).run state =
        (.ok (standard.putAll (added (files.view state) directory), notices), state) ∧
      notices.filter Notice.isUrgent = alerts (files.view state) directory [] := by
  have hunfold : @loadCatalog = @loadCatalog := rfl
  conv at hunfold => rhs; delta loadCatalog
  rw [hunfold, hstandard]
  cases directory with
  | none => exact ⟨[.record standard.readyRecord], rfl, rfl⟩
  | some path =>
      have hload := Catalog.UserFiles.run_load h path
      exact ⟨_, run_bind_of_unchanged hload,
        filter_isUrgent_loadNotices (files.view state) standard path⟩

/-- What is loaded from a disk is a catalog that can be had. -/
theorem reachable_putAll_added {standard : Catalog} (hstandard : Catalog.standard = .ok standard)
    (disk : Disk) (directory : Option String) :
    (standard.putAll (added disk.view directory)).Reachable := by
  have hreachable : standard.Reachable := .build hstandard
  cases directory with
  | none => exact hreachable
  | some path =>
      have hload := hreachable.load disk path
      rwa [Catalog.run_loadDirectory disk.atRest] at hload

end SensorNode.CommandLine
