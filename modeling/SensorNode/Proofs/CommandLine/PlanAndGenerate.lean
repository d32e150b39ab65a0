import SensorNode.Proofs.CommandLine.Stages
import SensorNode.Proofs.Json.Members
import SensorNode.Proofs.Project.Generation
import SensorNode.Proofs.Project.IdIndependence

/-!
# A plan and its sketch

The two commands that attach peripherals agree. Each loads the catalog anew and draws ids of its
own, and the one that generates has a sketch to render after the plan is made. But a plan does not
depend on its ids, and what a plan attaches from a checked catalog can always be rendered. So both
succeed or both fail, with the same messages, and what they report differs in the ids alone.
-/

namespace SensorNode

/-- Entries with the same content have the same document, but for the two members of the id. -/
theorem Report.sortedBut_toJson {entry other : Report.Entry} (h : entry.content = other.content) :
    Json.SortedBut ["instance_id", "short_id"] entry.toJson other.toJson.sorted := by
  obtain ⟨hid, hname, hrows⟩ : entry.peripheralId = other.peripheralId ∧
      entry.name = other.name ∧ entry.rows = other.rows := by
    simpa [Report.Entry.content] using h
  intro name hnames
  obtain ⟨hinstance, hshort⟩ : name ≠ "instance_id" ∧ name ≠ "short_id" := by
    simpa using hnames
  have hsorted : other.toJson.sorted.member? name = (other.toJson.member? name).map Json.sorted :=
    Json.member?_sorted_record (by simp) name
  have hmember : other.toJson.member? name = entry.toJson.member? name := by
    simp only [Report.Entry.toJson, Json.member?_record_cons, hid, hname, hrows,
      if_neg hinstance.symm, if_neg hshort.symm]
  rw [hsorted, hmember]

/-- The documents of a plan and of a sketch show the same board and, in the same order, entries that
differ in their ids alone. The members of the second are in order. -/
structure ShowSameWiring (plan sketch : Json) : Prop where
  board : ∃ board, plan.member? "board" = some board ∧ sketch.member? "board" = some board
  entries : ∃ entries entries', plan.member? "modules" = some (.array entries) ∧
    sketch.member? "allocation" = some (.array entries') ∧
    List.Forall₂ (Json.SortedBut ["instance_id", "short_id"]) entries entries'

namespace CommandLine.Output

theorem exists_planJson (report : Report) :
    ∃ document : Json, planJson report = document.pretty ++ "\n" ∧
      document.member? "board" = some (.text report.boardId) ∧
      document.member? "modules" = some (.array (report.entries.map Report.Entry.toJson)) := by
  refine ⟨report.toJson, rfl, ?_, ?_⟩ <;>
    simp [Report.toJson, Json.member?_record_cons, Json.list]

theorem exists_sketchJson (report : Report) (sketch : Sketch) (written : Option String) :
    ∃ document : Json, sketchJson report sketch written = document.pretty ++ "\n" ∧
      document.member? "board" = some (.text report.boardId) ∧
      document.member? "allocation" =
        some (.array (report.entries.map fun entry => entry.toJson.sorted)) := by
  refine ⟨_, rfl, ?_, ?_⟩
  · rw [Json.member?_sorted_record (by simp)]
    simp [Json.member?_record_cons, Json.text, Json.sorted]
  · rw [Json.member?_sorted_record (by simp)]
    simp only [Json.member?_record_cons, String.reduceEq, if_false, if_true, Option.map_some,
      Json.sorted_list]
    rfl

/-- Reports that differ in the ids alone are shown by documents that do. -/
theorem exists_showSameWiring {report other : Report} (hboard : report.boardId = other.boardId)
    (hentries : report.entries.map Report.Entry.content =
      other.entries.map Report.Entry.content) (sketch : Sketch) :
    ∃ planned generated : Json, ShowSameWiring planned generated ∧
      planJson report = planned.pretty ++ "\n" ∧
      sketchJson other sketch none = generated.pretty ++ "\n" := by
  obtain ⟨planned, hplanned, hplannedBoard, hmodules⟩ := exists_planJson report
  obtain ⟨generated, hgenerated, hgeneratedBoard, hallocation⟩ :=
    exists_sketchJson other sketch none
  have hcontents : List.Forall₂ (fun entry entry' : Report.Entry =>
      entry.content = entry'.content) report.entries other.entries := by
    have heq : List.Forall₂ Eq (report.entries.map Report.Entry.content)
        (other.entries.map Report.Entry.content) := by
      rw [List.forall₂_eq_eq_eq]
      exact hentries
    exact List.forall₂_map_left_iff.mp (List.forall₂_map_right_iff.mp heq)
  have hshown : List.Forall₂ (Json.SortedBut ["instance_id", "short_id"])
      (report.entries.map Report.Entry.toJson)
      (other.entries.map fun entry => entry.toJson.sorted) := by
    rw [List.forall₂_map_left_iff, List.forall₂_map_right_iff]
    exact hcontents.imp fun _ _ => Report.sortedBut_toJson
  exact ⟨planned, generated, ⟨⟨_, hplannedBoard, hboard ▸ hgeneratedBoard⟩,
    _, _, hmodules, hallocation, hshown⟩, hplanned, hgenerated⟩

end CommandLine.Output

namespace CommandLine

/-- How the outcomes of a plan and of a sketch go together. -/
structure Agree (format format' : Format) (planned generated : Outcome) : Prop where
  exitCode_eq : generated.exitCode = planned.exitCode
  messages_eq : generated.messages = planned.messages
  /-- When they fail, the same is shown on the error channel, unless the log shows details. -/
  shown_eq : planned.exitCode = 1 → ∀ (log log' : Log) (verbose verbose' : Bool),
    log.IsTerse verbose → log'.IsTerse verbose' → log'.filter = log.filter →
      generated.shown log' verbose' = planned.shown log verbose
  /-- It reads the same but for the time that the log may tell. -/
  errorText_eq : planned.exitCode = 1 → ∀ (log : Log) (verbose verbose' : Bool),
    log.IsTerse verbose → log.IsTerse verbose' →
      generated.errorText log verbose' = planned.errorText log verbose
  documents : planned.exitCode = 0 → format = .json → format' = .json →
    ∃ plan sketch : Json, ShowSameWiring plan sketch ∧ planned.output = plan.pretty ++ "\n" ∧
      generated.output = sketch.pretty ++ "\n"

theorem Agree.failed (format format' : Format) (failure : Failure) {view : FileView}
    {directory : Option String} {later : List Log.Record} {notices notices' : List Notice}
    (h : notices.filter Notice.isUrgent = alerts view directory later)
    (h' : notices'.filter Notice.isUrgent = alerts view directory later) :
    Agree format format' (.failed failure notices) (.failed failure notices') := by
  have hplanned : (Outcome.failed failure notices).urgent =
      alerts view directory later ++ ["Error: " ++ failure.message].map .message :=
    urgent_eq_of_notices_eq rfl h
  have hgenerated : (Outcome.failed failure notices').urgent =
      alerts view directory later ++ ["Error: " ++ failure.message].map .message :=
    urgent_eq_of_notices_eq rfl h'
  have hurgent := hgenerated.trans hplanned.symm
  refine ⟨rfl, ?_, ?_, ?_, nofun⟩
  · rw [← Outcome.filterMap_message?_urgent, hurgent, Outcome.filterMap_message?_urgent]
  · intro _ log log' verbose verbose' hterse hterse' hfilter
    exact Outcome.shown_eq_of_urgent_eq hterse hterse' hfilter hurgent
  · intro _ log verbose verbose' hterse hterse'
    rw [Outcome.errorText, Outcome.shown_eq_of_urgent_eq hterse hterse' rfl hurgent,
      ← Outcome.errorText]

theorem agree_runPlan_runGenerate (disk : Disk) (ids ids' : Nat → AttachmentId)
    (selection : Selection) {settings : Settings} (houtput : settings.output = none)
    (format format' : Format) :
    Agree format format' ((runPlan Disk.access ids selection format).run disk).1
      ((runGenerate Disk.access ids' selection settings format').run disk).1 := by
  obtain ⟨loading, hload, hloading⟩ :=
    exists_run_loadCatalog Catalog.standard_eq disk.atRest selection.catalogDirectory
  have checked : (Catalog.Standard.catalog.putAll
      (added (Disk.access.view disk) selection.catalogDirectory)).Checked :=
    (reachable_putAll_added Catalog.standard_eq disk selection.catalogDirectory).checked
  have hurgent (ids : Nat → AttachmentId) := filter_isUrgent_planNotices hloading
    Catalog.Standard.catalog (added (Disk.access.view disk) selection.catalogDirectory) ids
    selection
  generalize Catalog.Standard.catalog.putAll _ = catalog at hload checked hurgent
  have hplans := Project.map_wiring_planOrFailure catalog ids (fun k => ids' (k + 1))
    selection.boardId selection.peripheralIds
  cases hplan : Project.planOrFailure catalog ids selection.boardId selection.peripheralIds with
  | error failure =>
      rw [hplan] at hplans
      have hother := Outcome.map_eq_error_iff.mp hplans.symm
      rw [run_runPlan_of_plan_error hload format hplan,
        run_runGenerate_of_plan_error hload format' hother]
      exact .failed format format' failure (hurgent ids) (hurgent fun k => ids' (k + 1))
  | ok project =>
      rw [hplan] at hplans
      obtain ⟨other, hother, hwiring⟩ := Outcome.map_eq_ok_iff.mp hplans.symm
      -- what was attached from a checked catalog can be rendered
      obtain ⟨_, hreached⟩ := Project.Reached.exists_of_planOrFailure hother
      obtain ⟨sketch, hsketch⟩ := hreached.generates checked (settings.network (ids' 0))
        settings.identity.token?
      have hsave : (saveTo Disk.access sketch settings.output).run disk = (.ok none, disk) := by
        rw [houtput]
        rfl
      obtain ⟨output, hplanned, hjson⟩ := exists_run_runPlan_of_plan hload format hplan
      obtain ⟨output', hgenerated, hjson'⟩ :=
        exists_run_runGenerate_of_save hload hother hsketch format' hsave
      rw [hplanned, hgenerated]
      refine ⟨rfl, ?_, nofun, nofun, fun _ hformat hformat' => ?_⟩
      · rw [Outcome.messages, Outcome.messages, Outcome.done, Outcome.done, List.filterMap_append,
          filterMap_message?_sketchNotices, filterMap_message?_planNotices]
        exact List.append_nil _
      · obtain ⟨hboard, hentries⟩ := Report.map_content_ofProject catalog hwiring.symm
        obtain ⟨plan, document, hsame, hplanJson, hsketchJson⟩ :=
          Output.exists_showSameWiring hboard hentries sketch
        subst hformat'
        exact ⟨plan, document, hsame, (hjson hformat).trans hplanJson, hjson'.trans hsketchJson⟩

end CommandLine

end SensorNode
