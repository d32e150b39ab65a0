import SensorNode.Proofs.Distinct
import SensorNode.Proofs.Sketch.Unresolved

/-!
# Sections in one pass

The sections of a sketch can be had from one loop over the attachments. It starts from the headers
and globals of every sketch, passes over unknown attachments, and adds for each known one to the six
lists as soon as a fragment is filled. The first fragment that cannot be filled ends the loop, and
what was added until then is lost.

A sketch is rendered from contributions that are there as a whole before any of them is used. Both
come to the same, because adding what an attachment contributes never fails.
-/

namespace SensorNode.Sketch

namespace Sections

/-- The headers and globals of every sketch. -/
def start (mcu : Mcu) (network : Network) (identity : Option String) : Sections where
  includes := (fixedIncludes mcu).foldl insertNew []
  globals := (fixedGlobals network identity).foldl insertNew []
  setups := []
  loops := []
  discovery := []
  commands := []

/-- Add a header line, unless it is blank or there already. -/
def addHeader (sections : Sections) (line : String) : Sections :=
  let header := Text.trim line
  if header.isEmpty then sections
  else { sections with includes := insertNew sections.includes header }

def addGlobal (sections : Sections) (code : String) : Sections :=
  { sections with globals := insertNew sections.globals code }

def addSetups (sections : Sections) (blocks : List String) : Sections :=
  { sections with setups := sections.setups ++ blocks }

def addLoops (sections : Sections) (blocks : List String) : Sections :=
  { sections with loops := sections.loops ++ blocks }

def addCommands (sections : Sections) (blocks : List String) : Sections :=
  { sections with commands := sections.commands ++ blocks }

/-- The block around a source, if there is a source, once it is filled. -/
def fillBlock (fill : String → Except RenderError String) (around : String → String)
    (source? : Option String) : Except RenderError (List String) :=
  match source? with
  | none => .ok []
  | some source => (fill source).map fun code => [around code]

/-- Add an attachment of a peripheral, fragment by fragment. -/
def add (sections : Sections) (attachment : Attachment) (peripheral : Peripheral) :
    Except RenderError Sections := do
  let fill (fragment : Fragment) (source : String) :=
    fillSource attachment peripheral (fragment, source)
  let sections := { sections with discovery := sections.discovery ++ [peripheral.id] }
  let sections := peripheral.includes.foldl addHeader sections
  let sections := sections.addGlobal (← fill .constructor peripheral.constructor)
  let sections := sections.addSetups
    (← fillBlock (fill .setup) (setupBlock peripheral) (setupSource? peripheral))
  let sections := sections.addLoops
    (← fillBlock (fill .loop) (loopBlock peripheral) peripheral.loop)
  let sections := sections.addLoops
    (← fillBlock (fill .telemetryRead) (telemetryBlock peripheral attachment.shortId)
      (telemetrySource? peripheral))
  return sections.addCommands
    (← fillBlock (fill .command) (commandBlock peripheral) (commandSource? peripheral))

/-- Add the known ones of some attachments. -/
def addAll (catalog : Catalog) (sections : Sections) (attachments : List Attachment) :
    Except RenderError Sections :=
  attachments.foldlM (fun current attachment =>
    match catalog.peripheral? attachment.peripheralId with
    | some peripheral => current.add attachment peripheral
    | none => .ok current) sections

/-- The sections of a sketch for a wired board. -/
def gather (catalog : Catalog) (board : Board) (attachments : List Attachment) (network : Network)
    (identity : Option String) : Except RenderError Sections :=
  (start board.mcu network identity).addAll catalog attachments

/-- Add all that an attachment contributes. -/
def extend (sections : Sections) (contribution : Contribution) : Sections where
  includes := contribution.includes.foldl insertNew sections.includes
  globals := insertNew sections.globals contribution.constructor
  setups := sections.setups ++ contribution.setup.toList
  loops := sections.loops ++ contribution.loop.toList ++ contribution.telemetry.toList
  discovery := sections.discovery ++ [contribution.peripheralId]
  commands := sections.commands ++ contribution.command.toList

variable {attachment : Attachment} {peripheral : Peripheral}

theorem foldl_addHeader (sections : Sections) (lines : List String) :
    lines.foldl addHeader sections =
      { sections with
        includes := (((lines.map Text.trim).filter fun line => !line.isEmpty).foldl insertNew
          sections.includes) } := by
  induction lines generalizing sections with
  | nil => rfl
  | cons line lines ih =>
      rw [List.foldl_cons, ih, addHeader, List.map_cons, List.filter_cons]
      cases (Text.trim line).isEmpty <;> rfl

theorem fillBlock_eq (fill : String → Except RenderError String) (around : String → String)
    (source? : Option String) :
    fillBlock fill around source? =
      (source?.mapM fill).map fun code? => (code?.map around).toList := by
  cases source? with
  | none => rfl
  | some source =>
      rw [fillBlock, Option.mapM_some]
      cases fill source <;> rfl

/-- The command is filled as its source is. -/
theorem mapM_commandSource? :
    (commandSource? peripheral).mapM (fun source =>
        fillSource attachment peripheral (.command, source)) =
      (commandBody? peripheral (slotValues attachment peripheral)).mapM fun body =>
        (body.1.fill body.2).mapError
          (RenderError.unresolved peripheral.id attachment.shortId .command) := by
  rw [← map_commandSource?]
  cases commandSource? peripheral <;> rfl

theorem fillSource_of_ne_command {fragment : Fragment} {source : String}
    (h : fragment ≠ .command) :
    fillSource attachment peripheral (fragment, source) =
      ((Template.parse source).fill (slotValues attachment peripheral)).mapError
        (RenderError.unresolved peripheral.id attachment.shortId fragment) := by
  rw [fillSource, fragmentValues_of_ne_command h]
  rfl

/-- An attachment is added as what it contributes is. -/
theorem add_eq (sections : Sections) (attachment : Attachment) (peripheral : Peripheral) :
    sections.add attachment peripheral =
      (Contribution.ofAttachment attachment peripheral).map sections.extend := by
  have hconstructor : Fragment.constructor ≠ .command := nofun
  have hsetup : Fragment.setup ≠ .command := nofun
  have hloop : Fragment.loop ≠ .command := nofun
  have htelemetry : Fragment.telemetryRead ≠ .command := nofun
  simp only [add, Contribution.ofAttachment, foldl_addHeader, fillBlock_eq, mapM_commandSource?,
    fillSource_of_ne_command hconstructor, fillSource_of_ne_command hsetup,
    fillSource_of_ne_command hloop, fillSource_of_ne_command htelemetry, Outcome.bind_map,
    Outcome.map_bind]
  rfl

variable {catalog : Catalog}

/-- The attachments that are added are the known ones. -/
theorem addAll_eq (sections : Sections) (attachments : List Attachment) :
    sections.addAll catalog attachments =
      ((catalog.known attachments).mapM fun attached =>
        Contribution.ofAttachment attached.1 attached.2).map (List.foldl extend sections) := by
  induction attachments generalizing sections with
  | nil => rfl
  | cons attachment attachments ih =>
      have hstep : sections.addAll catalog (attachment :: attachments) =
          (match catalog.peripheral? attachment.peripheralId with
            | some peripheral => sections.add attachment peripheral
            | none => .ok sections) >>= fun next => next.addAll catalog attachments := rfl
      rw [hstep]
      cases hfound : catalog.peripheral? attachment.peripheralId with
      | none =>
          rw [Catalog.known_cons_of_none hfound]
          exact ih sections
      | some peripheral =>
          rw [Catalog.known_cons_of_some hfound, List.mapM_cons, Outcome.map_bind]
          simp only [add_eq, Outcome.bind_map, ih, Outcome.map_bind]
          apply congrArg (Contribution.ofAttachment attachment peripheral >>= ·)
          funext _
          cases (catalog.known attachments).mapM fun attached =>
            Contribution.ofAttachment attached.1 attached.2 <;> rfl

/-- What is added one after the other is what is collected. -/
theorem foldl_extend_start (mcu : Mcu) (network : Network) (identity : Option String)
    (contributions : List Contribution) :
    contributions.foldl extend (start mcu network identity) =
      collect mcu network identity contributions := by
  induction contributions using List.reverseRecOn with
  | nil => simp [start, collect, distinct]
  | append_singleton contributions contribution ih =>
      have hconcat (part : Contribution → Option String) :
          (contributions ++ [contribution]).filterMap part =
            contributions.filterMap part ++ (part contribution).toList := by
        rw [List.filterMap_append]
        cases hpart : part contribution <;> simp [hpart]
      rw [List.foldl_append, ih]
      simp [extend, collect, hconcat, ← List.append_assoc, distinct_append]

/-- The loop gives what is collected from the contributions, or the first error of these. -/
theorem gather_eq (catalog : Catalog) (board : Board) (attachments : List Attachment)
    (network : Network) (identity : Option String) :
    gather catalog board attachments network identity =
      ((catalog.known attachments).mapM fun attached =>
        Contribution.ofAttachment attached.1 attached.2).map
          (collect board.mcu network identity) := by
  rw [gather, addAll_eq]
  exact congrArg (Except.map · _) (funext (foldl_extend_start board.mcu network identity))

end Sections

/-- A sketch is rendered from the sections that the loop gives. -/
theorem render_eq_gather (catalog : Catalog) (board : Board) (attachments : List Attachment)
    (network : Network) (identity : Option String) :
    render catalog board attachments network identity =
      Sections.gather catalog board attachments network identity >>= fun sections =>
        sections.source board.id network := by
  rw [Sections.gather_eq, Outcome.bind_map]
  rfl

end SensorNode.Sketch
