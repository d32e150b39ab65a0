import SensorNode.Proofs.CommandLine.Stages
import SensorNode.Proofs.Files.Writing
import SensorNode.Proofs.Project.Reached

/-!
# What a command leaves behind

A command reports what it warns of, then either its result or one error, and an error is all that is
left of a run that fails. The only thing that is ever written is a sketch, at the very end of a run
that succeeds, and it is one file: the one the user named, or one in the directory the user named,
under a name that keeps it there whatever the device is called.

## Implementation notes

The files are those of a disk, but any look at them and any write may be refused. What the log shows
and how it reads is left open: the statements are about every log.
-/

namespace SensorNode

namespace Sketch

theorem fileStem_ne_empty (deviceId : String) : fileStem deviceId ≠ "" := by
  simp only [fileStem]
  split
  · decide
  · next hstem =>
    intro hempty
    rw [← String.toList_inj, String.toList_ofList] at hempty
    exact hstem (by simp [hempty])

theorem isNameChar_of_mem_fileStem {deviceId : String} {c : Char}
    (h : c ∈ (fileStem deviceId).toList) : isNameChar c := by
  simp only [fileStem] at h
  split at h
  · have hall : "firmware".toList.all isNameChar := by decide +kernel
    exact List.all_eq_true.mp hall c h
  · rw [String.toList_ofList] at h
    obtain ⟨d, -, rfl⟩ := List.mem_map.mp h
    split
    · assumption
    · decide

/-- The name of a sketch file has no separator. -/
theorem slash_notMem_deviceFileName (deviceId : String) :
    '/' ∉ (deviceFileName deviceId).toList := by
  rw [deviceFileName, String.toList_append, List.mem_append, not_or]
  refine ⟨fun h => ?_, by decide +kernel⟩
  exact absurd (isNameChar_of_mem_fileStem h) (by decide)

end Sketch

namespace CommandLine

namespace Command

/-- The directory with peripherals of the user. -/
def directory? : Command → Option String
  | .plan selection .. => selection.catalogDirectory
  | .generate selection .. => selection.catalogDirectory
  | _ => none

/-- Where a sketch goes. -/
def output? : Command → Option String
  | .generate _ settings .. => settings.output
  | _ => none

/-- The command that shows the sketch, for one that writes it. -/
def shown : Command → Command
  | .generate selection settings _ verbose =>
    .generate selection { settings with output := none } .human verbose
  | command => command

/-- The warnings of the log about a board that is not there. -/
def boardWarnings : Command → List Log.Record
  | .plan selection .. => Catalog.Standard.catalog.boardRecords selection.boardId
  | .generate selection .. => Catalog.Standard.catalog.boardRecords selection.boardId
  | _ => []

/-- The warnings of the log after the catalog is loaded: about a board that is not there, then about
a token that cannot be had. -/
def laterWarnings : Command → List Log.Record
  | .generate selection settings .. =>
    Catalog.Standard.catalog.boardRecords selection.boardId ++ settings.identity.records
  | command => command.boardWarnings

end Command

/-- What stands on the error channel: the warnings about a directory and then the closing messages,
which share it with the records that the log shows. -/
structure Tells (view : FileView) (directory : Option String) (later : List Log.Record)
    (closing : List String) (outcome : Outcome) : Prop where
  messages : outcome.messages = warnings view directory ++ closing
  /-- The whole text where the log shows nothing. -/
  silent : ∀ log verbose, Log.IsSilent log verbose →
    outcome.errorText log verbose = Text.ended (warnings view directory ++ closing)
  /-- Where the log is left as it is, it warns of the same files before, and may warn later. -/
  usual : ∀ log : Log, log.filter = none →
    outcome.shown log false = alerts view directory later ++ closing.map .message
  /-- Whatever the log shows, nothing comes behind the closing messages. -/
  last : ∀ log verbose, ∃ text, outcome.errorText log verbose = text ++ Text.ended closing

theorem Tells.of_urgent {view : FileView} {directory : Option String} {later : List Log.Record}
    {closing : List String} {notices : List Notice} {outcome : Outcome}
    (hnotices : outcome.notices = notices ++ closing.map .message)
    (hurgent : notices.filter Notice.isUrgent = alerts view directory later) :
    Tells view directory later closing outcome := by
  have htold : outcome.urgent = alerts view directory later ++ closing.map .message :=
    urgent_eq_of_notices_eq hnotices hurgent
  have hmessages : outcome.messages = warnings view directory ++ closing := by
    rw [← outcome.filterMap_message?_urgent, htold, List.filterMap_append,
      filterMap_message?_alerts, Notice.filterMap_message?_map_message]
  exact {
    messages := hmessages
    silent := fun log verbose hsilent => by
      rw [outcome.errorText_of_silent hsilent, Outcome.errors, hmessages]
    usual := fun log hlog => (outcome.shown_eq_urgent hlog).trans htold
    last := Outcome.exists_errorText_eq_append hnotices }

/-- A sketch was written to `output`: to this path if it is no directory, else to a file in it that
is named after the device. -/
def Saved (disk : Disk) (output source : String) (after : Disk) : Prop :=
  ∃ place, disk.Wrote place source after ∧
    if disk.isDirectory output then
      ∃ directory stem, disk.place? output = .ok directory ∧
        place = directory ++ [stem ++ ".ino"] ∧ stem ≠ "" ∧
        ∀ c ∈ stem.toList, c.isAlphanum ∨ c = '_'
    else after.place? output = .ok place

/-- What holds of the outcome of a command on a disk, and of the disk after it. -/
structure Confined (files : FileAccess (StateM Disk)) (ids : Nat → AttachmentId)
    (command : Command) (disk : Disk) (outcome : Outcome) (after : Disk) : Prop where
  exitCode : outcome.exitCode = 0 ∨ outcome.exitCode = 1
  failed : outcome.exitCode = 1 → outcome.output = "" ∧ after = disk ∧
    ∃ (failure : Failure) (later : List Log.Record),
      -- a run that cannot plan does not get as far as the token
      (later = command.boardWarnings ∨ later = command.laterWarnings) ∧
      Tells (files.view disk) command.directory? later ["Error: " ++ failure.message] outcome
  done : outcome.exitCode = 0 →
    Tells (files.view disk) command.directory? command.laterWarnings [] outcome
  unwritten : command.output? = none → after = disk
  /-- What is written is what the command would have shown. -/
  written : ∀ output, command.output? = some output → outcome.exitCode = 0 →
    ∃ source notices, Saved disk output source after ∧
      (runCommand files ids command.shown).run disk = (.done source notices, disk)

namespace Confined

variable {files : FileAccess (StateM Disk)} {ids : Nat → AttachmentId} {command : Command}
  {disk after : Disk} {notices : List Notice} {later : List Log.Record}

theorem of_failed (failure : Failure)
    (hlater : later = command.boardWarnings ∨ later = command.laterWarnings)
    (hurgent : notices.filter Notice.isUrgent =
      alerts (files.view disk) command.directory? later) :
    Confined files ids command disk (.failed failure notices) disk where
  exitCode := .inr rfl
  failed _ := ⟨rfl, rfl, failure, later, hlater, .of_urgent rfl hurgent⟩
  done := nofun
  unwritten _ := rfl
  written _ _ := nofun

theorem of_done (hcommand : command.output? = none)
    (hurgent : notices.filter Notice.isUrgent =
      alerts (files.view disk) command.directory? command.laterWarnings) (output : String) :
    Confined files ids command disk (.done output notices) disk where
  exitCode := .inl rfl
  failed := nofun
  done _ := .of_urgent (List.append_nil notices).symm hurgent
  unwritten _ := rfl
  written path hpath := by rw [hcommand] at hpath; exact nomatch hpath

theorem of_saved {path source : String} {notices' : List Notice}
    (hcommand : command.output? = some path) (hsaved : Saved disk path source after)
    (hshown : (runCommand files ids command.shown).run disk = (.done source notices', disk))
    (hurgent : notices.filter Notice.isUrgent =
      alerts (files.view disk) command.directory? command.laterWarnings) (output : String) :
    Confined files ids command disk (.done output notices) after where
  exitCode := .inl rfl
  failed := nofun
  done _ := .of_urgent (List.append_nil notices).symm hurgent
  unwritten hnone := by rw [hcommand] at hnone; exact nomatch hnone
  written path' hpath' _ := by
    obtain rfl := Option.some.inj (hcommand.symm.trans hpath')
    exact ⟨source, notices', hsaved, hshown⟩

end Confined

section

variable {files : FileAccess (StateM Disk)} (hfiles : Disk.Serves files)

include hfiles

/-- A sketch is saved under the path that was named or in the directory, or nothing happens. -/
theorem run_saveTo (sketch : Sketch) {deviceId : String}
    (hname : sketch.fileName = Sketch.deviceFileName deviceId) (disk : Disk) (output : String) :
    (∃ failure, (saveTo files sketch (some output)).run disk = (.error failure, disk)) ∨
      ∃ path after, (saveTo files sketch (some output)).run disk = (.ok (some path), after) ∧
        Saved disk output sketch.source after := by
  have hpath : (sketch.filePath files output).run disk =
      (if disk.isDirectory output then joinPath output sketch.fileName else output, disk) := by
    rw [Sketch.filePath, run_bind_of_unchanged (hfiles.isDirectory disk output)]
    cases disk.isDirectory output <;> rfl
  generalize hchosen : (if disk.isDirectory output then joinPath output sketch.fileName
    else output) = path at hpath
  have hsave : (sketch.save files output).run disk =
      (((files.write path sketch.source).run disk).1.map fun _ => path,
        ((files.write path sketch.source).run disk).2) := by
    rw [Sketch.save, run_bind_of_unchanged hpath]
    rfl
  have hsaveTo : (saveTo files sketch (some output)).run disk =
      ((((sketch.save files output).run disk).1.map some).mapError .file,
        ((sketch.save files output).run disk).2) := rfl
  rw [hsaveTo, hsave]
  rcases hfiles.write disk path sketch.source with ⟨error, hwrite⟩ | ⟨after, hafter, hwrite⟩
  · exact .inl ⟨.file error, by rw [hwrite]; rfl⟩
  · refine .inr ⟨path, after, by rw [hwrite]; rfl, ?_⟩
    obtain ⟨place, htarget, hwrote, hplace⟩ := Disk.wrote_of_write hafter
    refine ⟨place, hwrote, ?_⟩
    split
    · next hdirectory =>
      obtain rfl : joinPath output sketch.fileName = path := by simpa [hdirectory] using hchosen
      rw [hname] at htarget
      obtain ⟨directory, houtput, rfl⟩ := Disk.target_joinPath hdirectory
        (Sketch.slash_notMem_deviceFileName deviceId) htarget
      refine ⟨directory, Sketch.fileStem deviceId, houtput, rfl, Sketch.fileStem_ne_empty deviceId,
        fun c hc => ?_⟩
      simpa [Sketch.isNameChar] using Sketch.isNameChar_of_mem_fileStem hc
    · next hdirectory =>
      obtain rfl : output = path := by simpa [hdirectory] using hchosen
      exact hplace

omit hfiles in
/-- A command that only shows something of the standard catalog. -/
theorem confined_withStandard {command : Command} (houtput : command.output? = none)
    (hdirectory : command.directory? = none) (hlater : command.laterWarnings = [])
    (ids : Nat → AttachmentId) (action : Catalog → String) (disk : Disk) :
    Confined files ids command disk (withStandard action) disk := by
  obtain ⟨output, notices, hshown, hurgent⟩ := exists_withStandard action
  rw [hshown]
  refine .of_done houtput ?_ output
  rw [hdirectory, hlater, hurgent]
  rfl

theorem confined_runPlan (ids : Nat → AttachmentId) (selection : Selection) (format : Format)
    (verbose : Bool) (disk : Disk) :
    Confined files ids (.plan selection format verbose) disk
      ((runPlan files ids selection format).run disk).1
      ((runPlan files ids selection format).run disk).2 := by
  obtain ⟨loading, hload, hloading⟩ :=
    exists_run_loadCatalog Catalog.standard_eq (hfiles.atRest disk) selection.catalogDirectory
  have hurgent := filter_isUrgent_planNotices hloading Catalog.Standard.catalog
    (added (files.view disk) selection.catalogDirectory) ids selection
  generalize Catalog.Standard.catalog.putAll _ = catalog at hload hurgent
  cases hplan : Project.planOrFailure catalog ids selection.boardId selection.peripheralIds with
  | error failure =>
      rw [run_runPlan_of_plan_error hload format hplan]
      exact .of_failed failure (.inr rfl) hurgent
  | ok project =>
      obtain ⟨output, hrun, -⟩ := exists_run_runPlan_of_plan hload format hplan
      rw [hrun]
      exact .of_done rfl hurgent output

theorem confined_runGenerate (ids : Nat → AttachmentId) (selection : Selection)
    (settings : Settings) (format : Format) (verbose : Bool) (disk : Disk) :
    Confined files ids (.generate selection settings format verbose) disk
      ((runGenerate files ids selection settings format).run disk).1
      ((runGenerate files ids selection settings format).run disk).2 := by
  obtain ⟨loading, hload, hloading⟩ :=
    exists_run_loadCatalog Catalog.standard_eq (hfiles.atRest disk) selection.catalogDirectory
  have hplanned := filter_isUrgent_planNotices hloading Catalog.Standard.catalog
    (added (files.view disk) selection.catalogDirectory) (fun k => ids (k + 1)) selection
  have hurgent (project : Project) := filter_isUrgent_sketchNotices hloading
    Catalog.Standard.catalog (added (files.view disk) selection.catalogDirectory) ids selection
    settings project
  generalize Catalog.Standard.catalog.putAll _ = catalog at hload hplanned hurgent
  cases hplan : Project.planOrFailure catalog (fun k => ids (k + 1)) selection.boardId
    selection.peripheralIds with
  | error failure =>
      rw [run_runGenerate_of_plan_error hload format hplan]
      exact .of_failed failure (.inl rfl) hplanned
  | ok project =>
      obtain ⟨_, hreached⟩ := Project.Reached.exists_of_planOrFailure hplan
      replace hurgent := hurgent project hreached.isSome_peripheral?
      cases hsketch : Sketch.generate catalog project.board project.attachments
        (settings.network (ids 0)) settings.identity.token? with
      | error error =>
          rw [run_runGenerate_of_render_error hload hplan format hsketch]
          exact .of_failed (.render error) (.inr rfl) hurgent
      | ok sketch =>
          have htold := (Notice.filter_isUrgent_concat_record (generatedRecord project sketch)
            rfl _).trans hurgent
          cases houtput : settings.output with
          | none =>
              have hsave : (saveTo files sketch settings.output).run disk = (.ok none, disk) := by
                rw [houtput]
                rfl
              obtain ⟨text, hrun, -⟩ :=
                exists_run_runGenerate_of_save hload hplan hsketch format hsave
              have hnone : (Command.generate selection settings format verbose).output? = none :=
                houtput
              rw [hrun]
              exact .of_done hnone htold text
          | some output =>
              have hname : sketch.fileName =
                  Sketch.deviceFileName (settings.network (ids 0)).deviceId := by
                obtain ⟨source, -, rfl⟩ := Outcome.map_eq_ok_iff.mp hsketch
                rfl
              rcases run_saveTo hfiles sketch hname disk output with
                ⟨failure, hsave⟩ | ⟨path, after, hsave, hsaved⟩
              · rw [← houtput] at hsave
                rw [run_runGenerate_of_save_error hload hplan hsketch format hsave]
                exact .of_failed failure (.inr rfl) hurgent
              · rw [← houtput] at hsave
                obtain ⟨text, hrun, -⟩ :=
                  exists_run_runGenerate_of_save hload hplan hsketch format hsave
                -- shown and not written, the sketch is the same
                let shown : Settings := { settings with output := none }
                have hsame : Sketch.generate catalog project.board project.attachments
                    (shown.network (ids 0)) shown.identity.token? = .ok sketch := hsketch
                have hunsaved : (saveTo files sketch shown.output).run disk = (.ok none, disk) :=
                  rfl
                obtain ⟨_, hshown, rfl⟩ :=
                  exists_run_runGenerate_of_save hload hplan hsame .human hunsaved
                have hsome : (Command.generate selection settings format verbose).output? =
                    some output := houtput
                rw [hrun]
                exact .of_saved hsome hsaved hshown htold text

end

end CommandLine

end SensorNode
