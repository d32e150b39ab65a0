import Mathlib.Data.List.TakeWhile
import SensorNode.Proofs.Sketch.OnePass

/-!
# How sections compose

The sections of a sketch, told from the attachments that are known: which headers, globals and
blocks there are and in which order. Each attachment has its own entries in every section, and a
section lists the entries of one attachment after those of another. Only headers and globals leave
out what was there before.

So the sections of more attachments start with those of the ones that came first.
-/

namespace SensorNode

theorem Text.trimChars_eq_nil_iff {cs : List Char} :
    trimChars cs = [] ↔ ∀ c ∈ cs, isSpace c = true := by
  rw [trimChars, List.reverse_eq_nil_iff, List.dropWhile_eq_nil_iff]
  constructor
  · intro h c hc
    rw [← List.takeWhile_append_dropWhile (p := isSpace) (l := cs)] at hc
    rcases List.mem_append.mp hc with hc | hc
    · exact List.mem_takeWhile_imp hc
    · exact h c (List.mem_reverse.mpr hc)
  · intro h c hc
    exact h c ((List.dropWhile_sublist _).subset (List.mem_reverse.mp hc))

theorem Text.isEmpty_trim (s : String) : (trim s).isEmpty = isBlank s := by
  rw [Bool.eq_iff_iff, String.isEmpty_iff, isBlank, List.all_eq_true, ← trimChars_eq_nil_iff,
    ← toList_trim, String.toList_eq_nil_iff]

namespace Sketch

/-- The text that a source is filled to, for sources in which every name has a value. -/
def filled (attachment : Attachment) (peripheral : Peripheral) (entry : Fragment × String) :
    String :=
  match Template.render entry.2 (fragmentValues attachment peripheral entry.1) with
  | .ok text => text
  | .error _ => ""

/-- The header lines of a peripheral: those that are not blank, trimmed. -/
def headerEntries (peripheral : Peripheral) : List String :=
  (peripheral.includes.filter fun line => !Text.isBlank line).map Text.trim

def globalEntry (attachment : Attachment) (peripheral : Peripheral) : String :=
  filled attachment peripheral (.constructor, peripheral.constructor)

def setupEntries (attachment : Attachment) (peripheral : Peripheral) : List String :=
  (setupSources peripheral).map fun entry =>
    setupBlock peripheral (filled attachment peripheral entry)

/-- What runs on every turn of the loop, then what measures. -/
def loopEntries (attachment : Attachment) (peripheral : Peripheral) : List String :=
  (peripheral.loop.toList.map fun source =>
      loopBlock peripheral (filled attachment peripheral (.loop, source))) ++
    (telemetrySources peripheral).map fun entry =>
      telemetryBlock peripheral attachment.shortId (filled attachment peripheral entry)

def commandEntries (attachment : Attachment) (peripheral : Peripheral) : List String :=
  (commandSources peripheral).map fun entry =>
    commandBlock peripheral (filled attachment peripheral entry)

/-- The sections with the entries of some attachments. -/
def Sections.ofEntries (mcu : Mcu) (network : Network) (identity : Option String)
    (attached : List (Attachment × Peripheral)) : Sections where
  includes := (fixedIncludes mcu ++ attached.flatMap fun (_, peripheral) =>
    headerEntries peripheral).eraseDups
  globals := (fixedGlobals network identity ++ attached.map fun (attachment, peripheral) =>
    globalEntry attachment peripheral).eraseDups
  setups := attached.flatMap fun (attachment, peripheral) => setupEntries attachment peripheral
  loops := attached.flatMap fun (attachment, peripheral) => loopEntries attachment peripheral
  discovery := attached.map fun (_, peripheral) => peripheral.id
  commands := attached.flatMap fun (attachment, peripheral) => commandEntries attachment peripheral

variable {attachment : Attachment} {peripheral : Peripheral}

theorem filled_of_fillSource {entry : Fragment × String} {text : String}
    (h : fillSource attachment peripheral entry = .ok text) :
    filled attachment peripheral entry = text := by
  rw [filled, Outcome.mapError_eq_ok_iff.mp h]

theorem headerLines_eq_headerEntries :
    Contribution.headerLines peripheral = headerEntries peripheral := by
  rw [Contribution.headerLines, headerEntries, List.filter_map]
  simp only [Function.comp_def, Text.isEmpty_trim]

namespace Sections

theorem eq_map_of_fillBlock {fragment : Fragment} {around : String → String}
    {source? : Option String} {blocks : List String}
    (h : fillBlock (fun source => fillSource attachment peripheral (fragment, source)) around
      source? = .ok blocks) :
    blocks = source?.toList.map fun source =>
      around (filled attachment peripheral (fragment, source)) := by
  cases source? with
  | none => exact (Except.ok.inj h).symm
  | some source =>
      obtain ⟨code, hcode, rfl⟩ := Outcome.map_eq_ok_iff.mp h
      rw [← filled_of_fillSource hcode]
      rfl

/-- What becomes of the sections when an attachment is added. -/
theorem eq_of_add {sections next : Sections} (h : sections.add attachment peripheral = .ok next) :
    next =
      { includes := (headerEntries peripheral).foldl insertNew sections.includes
        globals := insertNew sections.globals (globalEntry attachment peripheral)
        setups := sections.setups ++ setupEntries attachment peripheral
        loops := sections.loops ++ loopEntries attachment peripheral
        discovery := sections.discovery ++ [peripheral.id]
        commands := sections.commands ++ commandEntries attachment peripheral } := by
  simp only [add, Outcome.bind_eq_ok_iff] at h
  obtain ⟨constructor, hconstructor, setups, hsetups, loops, hloops, measured, hmeasured, commands,
    hcommands, h⟩ := h
  obtain rfl := Except.ok.inj h
  have hsetupEntries : setups = setupEntries attachment peripheral := by
    rw [eq_map_of_fillBlock hsetups, setupEntries, setupSources_eq, List.map_map]
    rfl
  have hloopEntries : loops ++ measured = loopEntries attachment peripheral := by
    rw [eq_map_of_fillBlock hloops, eq_map_of_fillBlock hmeasured, loopEntries,
      telemetrySources_eq, List.map_map]
    rfl
  have hcommandEntries : commands = commandEntries attachment peripheral := by
    rw [eq_map_of_fillBlock hcommands, commandEntries, commandSources_eq, List.map_map]
    rfl
  rw [foldl_addHeader, ← headerLines_eq_headerEntries, ← hsetupEntries, ← hloopEntries,
    ← hcommandEntries, globalEntry, filled_of_fillSource hconstructor]
  simp [addGlobal, addSetups, addLoops, addCommands, Contribution.headerLines]

variable {catalog : Catalog} {board : Board} {network : Network} {identity : Option String}

theorem gather_append (xs ys : List Attachment) :
    gather catalog board (xs ++ ys) network identity =
      gather catalog board xs network identity >>= fun sections => sections.addAll catalog ys :=
  List.foldlM_append

theorem addAll_singleton (sections : Sections) (attachment : Attachment) :
    sections.addAll catalog [attachment] =
      match catalog.peripheral? attachment.peripheralId with
      | some peripheral => sections.add attachment peripheral
      | none => .ok sections := by
  rw [addAll, List.foldlM_cons]
  exact bind_pure _

theorem ofEntries_concat (mcu : Mcu) (attached : List (Attachment × Peripheral)) :
    ofEntries mcu network identity (attached ++ [(attachment, peripheral)]) =
      let sections := ofEntries mcu network identity attached
      { includes := (headerEntries peripheral).foldl insertNew sections.includes
        globals := insertNew sections.globals (globalEntry attachment peripheral)
        setups := sections.setups ++ setupEntries attachment peripheral
        loops := sections.loops ++ loopEntries attachment peripheral
        discovery := sections.discovery ++ [peripheral.id]
        commands := sections.commands ++ commandEntries attachment peripheral } := by
  simp [ofEntries, ← distinct_eq_eraseDups, ← List.append_assoc, distinct_append]

/-- The loop gives the sections with the entries of the known attachments. -/
theorem eq_ofEntries_of_gather {attachments : List Attachment} {sections : Sections}
    (h : gather catalog board attachments network identity = .ok sections) :
    sections = ofEntries board.mcu network identity (catalog.known attachments) := by
  induction attachments using List.reverseRecOn generalizing sections with
  | nil =>
      obtain rfl : start board.mcu network identity = sections := Except.ok.inj h
      simp [start, ofEntries, ← distinct_eq_eraseDups, distinct]
  | append_singleton attachments attachment ih =>
      rw [gather_append, Outcome.bind_eq_ok_iff] at h
      obtain ⟨before, hbefore, hlast⟩ := h
      rw [addAll_singleton] at hlast
      rw [Catalog.known_append]
      cases hfound : catalog.peripheral? attachment.peripheralId with
      | none =>
          rw [hfound] at hlast
          obtain rfl := Except.ok.inj hlast
          rw [Catalog.known_cons_of_none hfound, Catalog.known_nil, List.append_nil]
          exact ih hbefore
      | some peripheral =>
          rw [hfound] at hlast
          rw [Catalog.known_cons_of_some hfound, Catalog.known_nil, ofEntries_concat, ← ih hbefore]
          exact eq_of_add hlast

/-- Each section begins with the one of the same kind. -/
structure IsPrefix (sections later : Sections) : Prop where
  includes : sections.includes <+: later.includes
  globals : sections.globals <+: later.globals
  setups : sections.setups <+: later.setups
  loops : sections.loops <+: later.loops
  discovery : sections.discovery <+: later.discovery
  commands : sections.commands <+: later.commands

theorem isPrefix_ofEntries (mcu : Mcu) (network : Network) (identity : Option String)
    (xs ys : List (Attachment × Peripheral)) :
    (ofEntries mcu network identity xs).IsPrefix (ofEntries mcu network identity (xs ++ ys)) := by
  constructor <;>
    simp only [ofEntries, ← distinct_eq_eraseDups, List.flatMap_append, List.map_append,
      ← List.append_assoc]
  case includes => exact distinct_prefix _ _
  case globals => exact distinct_prefix _ _
  all_goals exact List.prefix_append _ _

end Sections

/-- How the sketch for some attachments comes out of their entries. -/
structure Composes (catalog : Catalog) (board : Board) (network : Network)
    (identity : Option String) : Prop where
  /-- It is rendered from the sections that one loop over the attachments gives. -/
  render_eq : ∀ attachments, render catalog board attachments network identity =
    Sections.gather catalog board attachments network identity >>= fun sections =>
      sections.source board.id network
  /-- If it is rendered, these hold the entries of the known attachments in order. -/
  gather_eq : ∀ attachments source,
    render catalog board attachments network identity = .ok source →
      Sections.gather catalog board attachments network identity =
        .ok (.ofEntries board.mcu network identity (catalog.known attachments))
  /-- Each text among them is what its source is filled to. -/
  filled_eq : ∀ attachments source,
    render catalog board attachments network identity = .ok source →
      ∀ attached ∈ catalog.known attachments, ∀ entry ∈ emittedSources attached.2,
        fillSource attached.1 attached.2 entry = .ok (filled attached.1 attached.2 entry)
  known : ∀ attachments,
    generate catalog board attachments network identity =
      generate catalog board
        (attachments.filter fun attachment => (catalog.peripheral? attachment.peripheralId).isSome)
        network identity
  /-- With more attachments each section goes on where it ended before. -/
  isPrefix : ∀ attachments more,
    (∃ sketch, generate catalog board (attachments ++ more) network identity = .ok sketch) →
      (∃ sketch, generate catalog board attachments network identity = .ok sketch) ∧
      ∃ sections later,
        Sections.gather catalog board attachments network identity = .ok sections ∧
        Sections.gather catalog board (attachments ++ more) network identity = .ok later ∧
        sections.IsPrefix later

variable {catalog : Catalog} {board : Board} {network : Network} {identity : Option String}

theorem exists_render_iff {attachments : List Attachment} :
    (∃ source, render catalog board attachments network identity = .ok source) ↔
      ∃ sections, Sections.gather catalog board attachments network identity = .ok sections := by
  rw [render_eq_gather, Outcome.exists_bind_eq_ok_iff]
  simp only [Sections.exists_source, and_true]

/-- An attachment that contributes fills each of its sources. -/
theorem fillSource_eq_of_ofAttachment {contribution : Contribution}
    (h : Contribution.ofAttachment attachment peripheral = .ok contribution)
    {entry : Fragment × String} (hentry : entry ∈ emittedSources peripheral) :
    fillSource attachment peripheral entry = .ok (filled attachment peripheral entry) := by
  have hall : ∃ texts,
      (emittedSources peripheral).mapM (fillSource attachment peripheral) = .ok texts := by
    by_contra hnone
    obtain ⟨error, herror⟩ := Outcome.exists_eq_error_iff.mpr hnone
    exact nomatch h.symm.trans (ofAttachment_eq_error_iff.mpr herror)
  obtain ⟨text, htext⟩ := Outcome.exists_mapM_eq_ok_iff.mp hall entry hentry
  rw [filled_of_fillSource htext, htext]

/-- Whatever the attachments are, the sections of their sketch are put together from theirs. -/
theorem composes (catalog : Catalog) (board : Board) (network : Network)
    (identity : Option String) : Composes catalog board network identity where
  render_eq attachments := render_eq_gather catalog board attachments network identity
  gather_eq attachments source h := by
    obtain ⟨sections, hsections⟩ := exists_render_iff.mp ⟨source, h⟩
    rw [hsections, Sections.eq_ofEntries_of_gather hsections]
  filled_eq attachments source h attached hattached entry hentry := by
    rw [render, assemble, Outcome.bind_eq_ok_iff] at h
    obtain ⟨contributions, hcontributions, -⟩ := h
    obtain ⟨contribution, hcontribution⟩ :=
      Outcome.exists_mapM_eq_ok_iff.mp ⟨contributions, hcontributions⟩ attached hattached
    exact fillSource_eq_of_ofAttachment hcontribution hentry
  known _ := generate_filter_known.symm
  isPrefix attachments more h := by
    have hgather : ∃ later,
        Sections.gather catalog board (attachments ++ more) network identity = .ok later := by
      rw [generate, Outcome.exists_map_eq_ok_iff] at h
      exact exists_render_iff.mp h
    obtain ⟨later, hlater⟩ := hgather
    obtain ⟨sections, hsections, -⟩ :=
      Outcome.bind_eq_ok_iff.mp ((Sections.gather_append attachments more).symm.trans hlater)
    refine ⟨?_, sections, later, hsections, hlater, ?_⟩
    · rw [generate, Outcome.exists_map_eq_ok_iff]
      exact exists_render_iff.mpr ⟨sections, hsections⟩
    · rw [Sections.eq_ofEntries_of_gather hsections, Sections.eq_ofEntries_of_gather hlater,
        Catalog.known_append]
      exact Sections.isPrefix_ofEntries board.mcu network identity _ _

/-- Two lamps announce themselves twice, and a peripheral that is not in the catalog does not. -/
example : (Sections.gather Catalog.small Catalog.Small.twoPins
    [⟨⟨1⟩, "lamp", .ofPins [4]⟩, ⟨⟨2⟩, "fan", .ofPins []⟩, ⟨⟨3⟩, "lamp", .ofPins [5]⟩]
    { deviceId := "node" } none).map Sections.discovery = .ok ["lamp", "lamp"] := by
  decide +kernel

end Sketch

end SensorNode
