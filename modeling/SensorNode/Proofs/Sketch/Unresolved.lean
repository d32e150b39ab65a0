import SensorNode.Proofs.Catalog.Checked
import SensorNode.Proofs.Sketch.Filled
import SensorNode.Proofs.Template.Replacing

/-!
# Errors of a sketch

Whether a sketch can be generated depends on the catalog and the attachments alone, and so does the
error if it cannot. The error is about the first attachment that emits a fragment with a name that
has no value, about its first such fragment, and lists those names. Here that is said without
looking at how a sketch is put together: by the source texts that a peripheral emits, by the names
that have a value, and by what comes first.

The attachments and their recorded pins are arbitrary ones, not only those that were wired.
-/

namespace SensorNode.Sketch

open Template (placeholders slotText)

/-- The source text of the default command. -/
def switchSource : String :=
  "if (msg == \"ON\") digitalWrite(" ++ slotText "PIN_0" ++ ", " ++ slotText "ON" ++ ");\n" ++
    "if (msg == \"OFF\") digitalWrite(" ++ slotText "PIN_0" ++ ", " ++ slotText "OFF" ++ ");"

theorem parse_switchSource : Template.parse switchSource = Frame.switchCommand := by
  decide +kernel

/-- Setup code counts when it is not blank. -/
def setupSources (peripheral : Peripheral) : List (Fragment × String) :=
  if Text.isBlank peripheral.setup then [] else [(.setup, peripheral.setup)]

/-- Telemetry needs a field and a way to read it. -/
def telemetrySources (peripheral : Peripheral) : List (Fragment × String) :=
  match peripheral.topic, peripheral.telemetryField, peripheral.telemetryRead with
  | .telemetry, some _, some source => [(.telemetryRead, source)]
  | _, _, _ => []

/-- A command runs the code of the peripheral, or else the default. -/
def commandSources (peripheral : Peripheral) : List (Fragment × String) :=
  match peripheral.topic, peripheral.command with
  | .command, some source => [(.command, source)]
  | .command, none => [(.command, switchSource)]
  | _, _ => []

/-- The source texts that every attachment of a peripheral emits, in the order in which they are
filled. -/
def emittedSources (peripheral : Peripheral) : List (Fragment × String) :=
  (.constructor, peripheral.constructor) :: setupSources peripheral ++
    (peripheral.loop.toList.map fun source => (.loop, source)) ++
    telemetrySources peripheral ++ commandSources peripheral

/-- Whether a name has a value in a fragment of an attachment. Only the default command knows the
levels. -/
def HasValue (attachment : Attachment) (peripheral : Peripheral) (fragment : Fragment)
    (name : String) : Prop :=
  name = "ID" ∨ name = "FIELD" ∧ peripheral.telemetryField.isSome ∨
    name ∈ attachment.pins.keys ∨
    (name = "ON" ∨ name = "OFF") ∧ fragment = .command ∧ peripheral.command = none

instance (attachment : Attachment) (peripheral : Peripheral) (fragment : Fragment)
    (name : String) : Decidable (HasValue attachment peripheral fragment name) :=
  inferInstanceAs (Decidable (_ ∨ _))

/-- The names in a source without a value, each where it first appears. -/
def lacking (attachment : Attachment) (peripheral : Peripheral) (entry : Fragment × String) :
    List String :=
  (placeholders entry.2).filter fun name => ¬ HasValue attachment peripheral entry.1 name

/-- The first of some sources that has names without a value, and those names. -/
inductive FirstLacking (attachment : Attachment) (peripheral : Peripheral) :
    List (Fragment × String) → Fragment → List String → Prop
  | here {entry : Fragment × String} {others : List (Fragment × String)}
      (lacks : lacking attachment peripheral entry ≠ []) :
      FirstLacking attachment peripheral (entry :: others) entry.1
        (lacking attachment peripheral entry)
  | later {entry : Fragment × String} {others : List (Fragment × String)} {fragment : Fragment}
      {names : List String} (complete : lacking attachment peripheral entry = [])
      (first : FirstLacking attachment peripheral others fragment names) :
      FirstLacking attachment peripheral (entry :: others) fragment names

/-- A known attachment emits a source with a name that has no value. -/
def Lacks (catalog : Catalog) (attachment : Attachment) : Prop :=
  ∃ peripheral, catalog.peripheral? attachment.peripheralId = some peripheral ∧
    ∃ entry ∈ emittedSources peripheral, ∃ name ∈ placeholders entry.2,
      ¬ HasValue attachment peripheral entry.1 name

/-- The error about the first attachment that lacks a value. -/
inductive FirstUnresolved (catalog : Catalog) : List Attachment → RenderError → Prop
  | here {attachment : Attachment} {others : List Attachment} {peripheral : Peripheral}
      {fragment : Fragment} {names : List String}
      (known : catalog.peripheral? attachment.peripheralId = some peripheral)
      (first : FirstLacking attachment peripheral (emittedSources peripheral) fragment names) :
      FirstUnresolved catalog (attachment :: others)
        (.unresolved peripheral.id attachment.shortId fragment names)
  | later {attachment : Attachment} {others : List Attachment} {error : RenderError}
      (complete : ¬ Lacks catalog attachment) (first : FirstUnresolved catalog others error) :
      FirstUnresolved catalog (attachment :: others) error

variable {attachment : Attachment} {peripheral : Peripheral}

theorem setupSources_eq :
    setupSources peripheral = (setupSource? peripheral).toList.map fun source =>
      (.setup, source) := by
  unfold setupSources setupSource?
  split <;> rfl

theorem telemetrySources_eq :
    telemetrySources peripheral = (telemetrySource? peripheral).toList.map fun source =>
      (.telemetryRead, source) := by
  unfold telemetrySources telemetrySource? Peripheral.isTelemetry
  cases peripheral.topic <;> cases peripheral.telemetryField <;>
    cases peripheral.telemetryRead <;> rfl

/-- The source of the command of a peripheral: its own, or else the default. -/
def commandSource? (peripheral : Peripheral) : Option String :=
  if peripheral.isCommand then some (peripheral.command.getD switchSource) else none

theorem commandSources_eq :
    commandSources peripheral = (commandSource? peripheral).toList.map fun source =>
      (.command, source) := by
  unfold commandSources commandSource? Peripheral.isCommand
  cases peripheral.topic <;> cases peripheral.command <;> rfl

/-- The values that a fragment of an attachment is filled with. -/
def fragmentValues (attachment : Attachment) (peripheral : Peripheral) (fragment : Fragment) :
    Substitutions :=
  if fragment = .command ∧ peripheral.command = none then switchValues attachment peripheral
  else slotValues attachment peripheral

theorem isSome_fragmentValues {fragment : Fragment} {name : String} :
    ((fragmentValues attachment peripheral fragment).get? name).isSome ↔
      HasValue attachment peripheral fragment name := by
  have hslot : ((slotValues attachment peripheral).get? name).isSome ↔ _ := isSome_slotValues
  unfold fragmentValues HasValue
  split
  · next hdefault =>
    rw [switchValues, Substitutions.get?_set, Substitutions.get?_set]
    by_cases hoff : name = "OFF"
    · simp [hoff, hdefault]
    · by_cases hon : name = "ON"
      · simp [hon, hdefault]
      · simpa [hoff, hon] using hslot
  · next hown =>
    rw [hslot]
    simp only [hown, and_false, or_false]

/-- Only a command can be filled with more than the attachment records. -/
theorem fragmentValues_of_ne_command {fragment : Fragment} (h : fragment ≠ .command) :
    fragmentValues attachment peripheral fragment = slotValues attachment peripheral :=
  if_neg fun hdefault => h hdefault.1

/-- A source with what an attachment fills it with. -/
def withValues (attachment : Attachment) (peripheral : Peripheral) (entry : Fragment × String) :
    Fragment × Template × Substitutions :=
  (entry.1, .parse entry.2, fragmentValues attachment peripheral entry.1)

theorem withValues_of_ne_command {fragment : Fragment} {source : String}
    (h : fragment ≠ .command) :
    withValues attachment peripheral (fragment, source) =
      (fragment, .parse source, slotValues attachment peripheral) := by
  rw [withValues, fragmentValues_of_ne_command h]

theorem map_setupSources :
    (setupSources peripheral).map (withValues attachment peripheral) =
      (setupSource? peripheral).toList.map fun source =>
        (.setup, .parse source, slotValues attachment peripheral) := by
  rw [setupSources_eq, List.map_map]
  exact List.map_congr_left fun _ _ => withValues_of_ne_command nofun

theorem map_telemetrySources :
    (telemetrySources peripheral).map (withValues attachment peripheral) =
      (telemetrySource? peripheral).toList.map fun source =>
        (.telemetryRead, .parse source, slotValues attachment peripheral) := by
  rw [telemetrySources_eq, List.map_map]
  exact List.map_congr_left fun _ _ => withValues_of_ne_command nofun

/-- The body of a command is what its source is read as. -/
theorem map_commandSource? :
    ((commandSource? peripheral).map fun source =>
        (Template.parse source, fragmentValues attachment peripheral .command)) =
      commandBody? peripheral (slotValues attachment peripheral) := by
  unfold commandSource? commandBody?
  split
  · cases hbody : peripheral.command with
    | some source => simp [fragmentValues, hbody]
    | none => simp [fragmentValues, hbody, parse_switchSource, switchValues]
  · rfl

theorem map_commandSources :
    (commandSources peripheral).map (withValues attachment peripheral) =
      (commandBody? peripheral (slotValues attachment peripheral)).toList.map fun body =>
        (.command, body.1, body.2) := by
  rw [commandSources_eq, List.map_map, ← map_commandSource?, Option.toList_map, List.map_map]
  rfl

/-- What an attachment emits are the sources of its peripheral. -/
theorem map_emittedSources :
    (emittedSources peripheral).map (withValues attachment peripheral) =
      Contribution.emitted attachment peripheral := by
  have hne : Fragment.constructor ≠ .command := nofun
  have hloop : peripheral.loop.toList.map (withValues attachment peripheral ∘ (.loop, ·)) =
      peripheral.loop.toList.map fun source =>
        (.loop, .parse source, slotValues attachment peripheral) :=
    List.map_congr_left fun _ _ => withValues_of_ne_command nofun
  rw [emittedSources, List.map_append, List.map_append, List.map_append, List.map_cons,
    List.map_map, map_setupSources, map_telemetrySources, map_commandSources,
    withValues_of_ne_command hne, hloop]
  rfl

/-- Fill a source, with the error that an attachment gives. -/
def fillSource (attachment : Attachment) (peripheral : Peripheral) (entry : Fragment × String) :
    Except RenderError String :=
  (Template.render entry.2 (fragmentValues attachment peripheral entry.1)).mapError
    (RenderError.unresolved peripheral.id attachment.shortId entry.1)

/-- An attachment fails as its sources do, filled one after the other. -/
theorem ofAttachment_eq_error_iff {error : RenderError} :
    Contribution.ofAttachment attachment peripheral = .error error ↔
      (emittedSources peripheral).mapM (fillSource attachment peripheral) = .error error := by
  let fill (entry : Fragment × Template × Substitutions) : Except RenderError String :=
    (entry.2.1.fill entry.2.2).mapError
      (RenderError.unresolved peripheral.id attachment.shortId entry.1)
  have hsources : (emittedSources peripheral).mapM (fillSource attachment peripheral) =
      (Contribution.emitted attachment peripheral).mapM fill := by
    rw [← map_emittedSources, List.mapM_map]
    rfl
  have hreturn (contribution : Contribution) :
      (pure contribution : Except RenderError Contribution) ≠ .error error := nofun
  rw [hsources]
  simp only [Contribution.emitted, List.cons_append, List.append_assoc,
    Outcome.mapM_cons_eq_error_iff, Outcome.mapM_append_eq_error_iff, List.forall_mem_map,
    List.mapM_map, Contribution.ofAttachment, Outcome.bind_eq_error_iff, hreturn, and_false,
    exists_false, or_false, exists_and_right, Outcome.mapM_option_eq_error_iff,
    Outcome.exists_mapM_option_eq_ok_iff, Function.comp_def, fill]

theorem lacking_eq_missing {entry : Fragment × String} :
    lacking attachment peripheral entry =
      Template.missing (fragmentValues attachment peripheral entry.1) (.parse entry.2) := by
  refine List.filter_congr fun name _ => ?_
  rw [Bool.eq_iff_iff, decide_eq_true_iff, ← isSome_fragmentValues, ← Option.not_isSome,
    Bool.not_eq_true', Bool.not_eq_true]

theorem exists_fillSource_iff {entry : Fragment × String} :
    (∃ text, fillSource attachment peripheral entry = .ok text) ↔
      lacking attachment peripheral entry = [] := by
  simp only [fillSource, Outcome.mapError_eq_ok_iff, Template.render, Template.exists_fill_iff,
    lacking_eq_missing, Template.missing_eq_nil_iff]

theorem fillSource_eq_error_iff {entry : Fragment × String} {error : RenderError} :
    fillSource attachment peripheral entry = .error error ↔
      lacking attachment peripheral entry ≠ [] ∧
        error = .unresolved peripheral.id attachment.shortId entry.1
          (lacking attachment peripheral entry) := by
  rw [fillSource, Outcome.mapError_eq_error_iff, lacking_eq_missing, Template.render]
  simp only [Template.fill_eq_error_iff]
  constructor
  · rintro ⟨names, ⟨hne, rfl⟩, rfl⟩
    exact ⟨hne, rfl⟩
  · rintro ⟨hne, rfl⟩
    exact ⟨_, ⟨hne, rfl⟩, rfl⟩

/-- Sources that are filled one after the other fail with the first that lacks a value. -/
theorem mapM_fillSource_eq_error_iff {sources : List (Fragment × String)} {error : RenderError} :
    sources.mapM (fillSource attachment peripheral) = .error error ↔
      ∃ fragment names, FirstLacking attachment peripheral sources fragment names ∧
        error = .unresolved peripheral.id attachment.shortId fragment names := by
  induction sources with
  | nil =>
      constructor
      · exact nofun
      · rintro ⟨_, _, hfirst, -⟩
        exact nomatch hfirst
  | cons entry sources ih =>
      rw [Outcome.mapM_cons_eq_error_iff, fillSource_eq_error_iff, exists_fillSource_iff, ih]
      constructor
      · rintro (⟨hlacks, rfl⟩ | ⟨hcomplete, fragment, names, hfirst, rfl⟩)
        · exact ⟨_, _, .here hlacks, rfl⟩
        · exact ⟨fragment, names, .later hcomplete hfirst, rfl⟩
      · rintro ⟨fragment, names, hfirst, rfl⟩
        cases hfirst with
        | here hlacks => exact .inl ⟨hlacks, rfl⟩
        | later hcomplete hfirst => exact .inr ⟨hcomplete, fragment, names, hfirst, rfl⟩

variable {catalog : Catalog}

/-- A known attachment contributes exactly when it lacks nothing. -/
theorem exists_ofAttachment_iff_not_lacks
    (known : catalog.peripheral? attachment.peripheralId = some peripheral) :
    (∃ contribution, Contribution.ofAttachment attachment peripheral = .ok contribution) ↔
      ¬ Lacks catalog attachment := by
  rw [Contribution.exists_ofAttachment_iff, ← map_emittedSources, List.forall_mem_map]
  simp only [withValues, isSome_fragmentValues, ← Template.mem_names]
  constructor
  · rintro hvalues ⟨_, hfound, entry, hentry, name, hname, hlacks⟩
    obtain rfl := Option.some.inj (known.symm.trans hfound)
    exact hlacks (hvalues entry hentry name hname)
  · intro hcomplete entry hentry name hname
    by_contra hlacks
    exact hcomplete ⟨peripheral, known, entry, hentry, name, hname, hlacks⟩

/-- Attachments that contribute one after the other fail with the first that lacks a value. -/
theorem mapM_known_eq_error_iff {attachments : List Attachment} {error : RenderError} :
    ((catalog.known attachments).mapM fun attached =>
        Contribution.ofAttachment attached.1 attached.2) = .error error ↔
      FirstUnresolved catalog attachments error := by
  induction attachments with
  | nil => exact iff_of_false nofun nofun
  | cons attachment others ih =>
      cases hfound : catalog.peripheral? attachment.peripheralId with
      | none =>
          have hcomplete : ¬ Lacks catalog attachment := by
            rintro ⟨_, hsome, -⟩
            cases hfound.symm.trans hsome
          rw [Catalog.known_cons_of_none hfound, ih]
          constructor
          · exact .later hcomplete
          · intro hfirst
            cases hfirst with
            | here hsome => cases hfound.symm.trans hsome
            | later _ hfirst => exact hfirst
      | some peripheral =>
          rw [Catalog.known_cons_of_some hfound, Outcome.mapM_cons_eq_error_iff, ih,
            exists_ofAttachment_iff_not_lacks hfound, ofAttachment_eq_error_iff,
            mapM_fillSource_eq_error_iff]
          constructor
          · rintro (⟨fragment, names, hfirst, rfl⟩ | ⟨hcomplete, hfirst⟩)
            · exact .here hfound hfirst
            · exact .later hcomplete hfirst
          · intro hfirst
            cases hfirst with
            | here hsome hfirst =>
                obtain rfl := Option.some.inj (hfound.symm.trans hsome)
                exact .inl ⟨_, _, hfirst, rfl⟩
            | later hcomplete hfirst => exact .inr ⟨hcomplete, hfirst⟩

variable {board : Board} {attachments : List Attachment} {network : Network}
  {identity : Option String}

/-- A sketch fails as its attachments do, because the frame never fails. -/
theorem generate_eq_error_iff {error : RenderError} :
    generate catalog board attachments network identity = .error error ↔
      FirstUnresolved catalog attachments error := by
  have hframe (contributions : List Contribution) :
      (Sections.collect board.mcu network identity contributions).source board.id network ≠
        .error error := by
    obtain ⟨text, htext⟩ := Sections.exists_source board.id network
      (Sections.collect board.mcu network identity contributions)
    rw [htext]
    exact nofun
  rw [generate, Outcome.map_eq_error_iff, render, assemble, Outcome.bind_eq_error_iff,
    ← mapM_known_eq_error_iff]
  simp only [hframe, and_false, exists_false, or_false]

theorem exists_generate_eq_error_iff :
    (∃ error, generate catalog board attachments network identity = .error error) ↔
      ∃ attachment ∈ attachments, Lacks catalog attachment := by
  rw [Outcome.exists_eq_error_iff, generate, Outcome.exists_map_eq_ok_iff, render, assemble,
    Outcome.exists_bind_eq_ok_iff]
  simp only [Sections.exists_source, and_true, Outcome.exists_mapM_eq_ok_iff, not_forall,
    exists_prop]
  constructor
  · rintro ⟨⟨attachment, peripheral⟩, hmem, hfails⟩
    obtain ⟨hattachment, hfound⟩ := Catalog.mem_known_iff.mp hmem
    rw [exists_ofAttachment_iff_not_lacks hfound, not_not] at hfails
    exact ⟨attachment, hattachment, hfails⟩
  · rintro ⟨attachment, hattachment, hlacks⟩
    obtain ⟨peripheral, hfound, hentry⟩ := hlacks
    refine ⟨(attachment, peripheral), Catalog.mem_known_iff.mpr ⟨hattachment, hfound⟩, ?_⟩
    rw [exists_ofAttachment_iff_not_lacks hfound, not_not]
    exact ⟨peripheral, hfound, hentry⟩

theorem generate_filter_known :
    generate catalog board
        (attachments.filter fun attachment => (catalog.peripheral? attachment.peripheralId).isSome)
        network identity =
      generate catalog board attachments network identity := by
  have hknown := catalog.known_filter attachments
  rw [generate, generate, render, render, hknown]
  simp only [neededLibraries, neededLibraryIds, hknown]

theorem FirstUnresolved.ne_frame {error : RenderError}
    (h : FirstUnresolved catalog attachments error) (part : String) (slots : List String) :
    error ≠ .frame part slots := by
  induction h with
  | here => exact nofun
  | later _ _ ih => exact ih

/-- When generating a sketch fails, and with what error. -/
structure FailsExactly (catalog : Catalog) (board : Board) (attachments : List Attachment)
    (network : Network) (identity : Option String) : Prop where
  /-- It fails exactly when a known attachment emits a source with a name that has no value. -/
  exists_error_iff :
    (∃ error, generate catalog board attachments network identity = .error error) ↔
      ∃ attachment ∈ attachments, ∃ peripheral,
        catalog.peripheral? attachment.peripheralId = some peripheral ∧
        ∃ entry ∈ emittedSources peripheral, ∃ name ∈ placeholders entry.2,
          ¬ HasValue attachment peripheral entry.1 name
  /-- The error is about the first such attachment and its first such source. -/
  eq_error_iff : ∀ error, generate catalog board attachments network identity = .error error ↔
    FirstUnresolved catalog attachments error
  /-- Unknown attachments neither fail nor change anything else. -/
  known : generate catalog board
      (attachments.filter fun attachment => (catalog.peripheral? attachment.peripheralId).isSome)
      network identity =
    generate catalog board attachments network identity
  /-- No error is about the frame. -/
  ne_frame : ∀ part slots,
    generate catalog board attachments network identity ≠ .error (.frame part slots)

/-- Whatever attachments there are and whatever pins they record, the first value that is missing
decides. -/
theorem failsExactly (catalog : Catalog) (board : Board) (attachments : List Attachment)
    (network : Network) (identity : Option String) :
    FailsExactly catalog board attachments network identity where
  exists_error_iff := exists_generate_eq_error_iff
  eq_error_iff _ := generate_eq_error_iff
  known := generate_filter_known
  ne_frame part slots h := (generate_eq_error_iff.mp h).ne_frame part slots rfl

/-- A peripheral that is not in the catalog does not keep a lamp without a pin from failing. -/
example : generate Catalog.small Catalog.Small.twoPins
    [⟨⟨1⟩, "fan", .ofPins []⟩, ⟨⟨2⟩, "lamp", .ofPins []⟩] { deviceId := "node" } none =
      .error (.unresolved "lamp" (AttachmentId.shortId ⟨2⟩) .command ["PIN_0"]) := by
  decide +kernel

end SensorNode.Sketch
