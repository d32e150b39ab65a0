import SensorNode.Proofs.Attachment.Ids
import SensorNode.Proofs.Project.Reached
import SensorNode.Proofs.Sketch.Rendered

/-!
# Symbols of attachments

Short ids keep the symbols of attachments apart: two attachments with different short ids declare
different variables, and what a fragment names after the id of one it does not name after that of
the other. For the short id has eight digits always, so texts that differ in it alone cannot meet.

Whether the short ids differ is another matter. A project takes any id for a new attachment, and of
the 32 digits of an id the short one has the first eight. So a history of edits keeps the symbols
apart just as long as each attachment that it makes has a short id that no other one has.
-/

namespace SensorNode

theorem pinName_ne {i : Nat} {name : String} (h : name.toList.head? ≠ some 'P') :
    pinName i ≠ name := by
  rintro rfl
  exact h (by simp [pinName])

namespace Sketch

open Template (slot fillChars)

/-- The variable that holds the time of the last measurement. -/
def timeVariable (attachment : Attachment) : String := "last_" ++ attachment.shortId

/-- The line that declares a variable of a time. -/
def timeDeclaration (name : String) : String := "  static unsigned long " ++ name ++ " = 0;"

/-- The second line of a telemetry block declares the variable. -/
theorem telemetryBlock_eq_join (attachment : Attachment) (peripheral : Peripheral)
    (code : String) : ∃ rest, telemetryBlock peripheral attachment.shortId code =
      Text.join "\n" (("  // Telemetry " ++ peripheral.name) ::
        timeDeclaration (timeVariable attachment) :: rest) :=
  ⟨_, rfl⟩

/-- A symbol is built with the id if on one side of the id there is, besides text, nothing but the
telemetry field. -/
def BuiltWithId (symbol : Template) : Prop :=
  ∃ before after, symbol = before ++ slot "ID" ++ after ∧
    ((∀ name ∈ before.slots, name = "FIELD") ∨ ∀ name ∈ after.slots, name = "FIELD")

/-- The values of an attachment that was wired, besides its pins. -/
theorem get?_slotValues {board : Board} {attachment : Attachment} {peripheral : Peripheral}
    {picked : List Gpio} (wired : Wired board attachment peripheral picked) :
    (slotValues attachment peripheral).get? "ID" = some attachment.shortId ∧
      (slotValues attachment peripheral).get? "FIELD" = peripheral.telemetryField := by
  have hpin {name : String} (h : name.toList.head? ≠ some 'P') :
      name ∉ (attachment.pins.entries.map fun entry => (entry.1, toString entry.2.toNat)).map
        Prod.fst := by
    intro hname
    have hkey : name ∈ attachment.pins.keys := by simpa [SortedMap.keys] using hname
    obtain ⟨i, -, rfl⟩ := wired.mem_keys_iff.mp hkey
    exact pinName_ne h rfl
  rw [slotValues, Substitutions.get?_setAll_of_notMem (hpin (by decide)),
    Substitutions.get?_setAll_of_notMem (hpin (by decide))]
  cases peripheral.telemetryField <;> simp

/-- Equal symbols of attachments to one peripheral tell that their short ids are equal. -/
theorem shortId_eq_of_fill_eq {board : Board} {a b : Attachment} {peripheral : Peripheral}
    {picked picked' : List Gpio} (ha : Wired board a peripheral picked)
    (hb : Wired board b peripheral picked') {symbol : Template} (hsymbol : BuiltWithId symbol)
    {text : String} (hatext : symbol.fill (slotValues a peripheral) = .ok text)
    (hbtext : symbol.fill (slotValues b peripheral) = .ok text) : a.shortId = b.shortId := by
  obtain ⟨before, after, rfl, hsides⟩ := hsymbol
  obtain ⟨haid, hafield⟩ := get?_slotValues ha
  obtain ⟨hbid, hbfield⟩ := get?_slotValues hb
  have halike {side : Template} (h : ∀ name ∈ side.slots, name = "FIELD") :
      fillChars (slotValues a peripheral) side = fillChars (slotValues b peripheral) side := by
    apply Template.fillChars_congr
    intro name hname
    rw [h name hname, hafield, hbfield]
  have hlength : a.shortId.toList.length = b.shortId.toList.length := by
    rw [Attachment.shortId, Attachment.shortId, a.id.length_shortId, b.id.length_shortId]
  rw [Template.fill_eq_ok_iff] at hatext hbtext
  simp only [Template.fillChars_append_eq_ok_iff, Template.fillChars_slot_eq_ok_iff, haid,
    hbid] at hatext hbtext
  obtain ⟨_, y, ⟨x, _, hx, ⟨_, hid, rfl⟩, rfl⟩, hy, htext⟩ := hatext
  obtain ⟨_, y', ⟨x', _, hx', ⟨_, hid', rfl⟩, rfl⟩, hy', htext'⟩ := hbtext
  obtain rfl := Option.some.inj hid
  obtain rfl := Option.some.inj hid'
  have heq : x ++ a.shortId.toList ++ y = x' ++ b.shortId.toList ++ y' := htext.symm.trans htext'
  apply String.toList_inj.mp
  rcases hsides with hside | hside
  · rw [halike hside] at hx
    obtain rfl : x = x' := Except.ok.inj (hx.symm.trans hx')
    rw [List.append_assoc, List.append_assoc] at heq
    exact (List.append_inj (List.append_cancel_left heq) hlength).1
  · rw [halike hside] at hy
    obtain rfl : y = y' := Except.ok.inj (hy.symm.trans hy')
    exact (List.append_inj' (List.append_cancel_right heq) hlength).2

/-- What a sketch declares for one attachment, and names after its id, it does not for another. -/
structure SymbolsApart (catalog : Catalog) (attachments : List Attachment) : Prop where
  shortIds : (attachments.map Attachment.shortId).Nodup
  timeVariables : ((catalog.known attachments).map fun attached => timeVariable attached.1).Nodup
  /-- These are the variables that telemetry declares. -/
  declared : ∀ attached ∈ catalog.known attachments, ∀ contribution,
    Contribution.ofAttachment attached.1 attached.2 = .ok contribution →
      ∀ block ∈ contribution.telemetry, ∃ rest, block = Text.join "\n"
        (("  // Telemetry " ++ attached.2.name) ::
          timeDeclaration (timeVariable attached.1) :: rest)
  symbols : (catalog.known attachments).Pairwise fun a b => a.2 = b.2 →
    ∀ symbol, BuiltWithId symbol → ∀ name name',
      symbol.fill (slotValues a.1 a.2) = .ok name →
        symbol.fill (slotValues b.1 b.2) = .ok name' → name ≠ name'

theorem timeVariable_inj {a b : Attachment} :
    timeVariable a = timeVariable b ↔ a.shortId = b.shortId := by
  simp [timeVariable, ← String.toList_inj]

theorem Contribution.exists_timeDeclaration {attachment : Attachment} {peripheral : Peripheral}
    {contribution : Contribution} (h : ofAttachment attachment peripheral = .ok contribution)
    {block : String} (hblock : block ∈ contribution.telemetry) :
    ∃ rest, block = Text.join "\n" (("  // Telemetry " ++ peripheral.name) ::
      timeDeclaration (timeVariable attachment) :: rest) := by
  obtain ⟨code, -, rfl⟩ := (rendered_of_ofAttachment h).telemetry block hblock
  exact telemetryBlock_eq_join attachment peripheral code

end Sketch

namespace Project

variable {catalog : Catalog} {project : Project}

def shortIds (project : Project) : List String := project.attachments.map Attachment.shortId

/-- Attachments with different short ids have their symbols apart. -/
theorem Reached.symbolsApart {first : Board} {wired : List (Attachment × Peripheral)}
    (h : Reached (· = catalog) first project wired) (hnodup : project.shortIds.Nodup) :
    Sketch.SymbolsApart catalog project.attachments := by
  have hknown : catalog.known project.attachments = wired := h.known_attachments
  have hpairs : wired.Pairwise fun a b => a.1.shortId ≠ b.1.shortId := by
    rw [shortIds, ← h.map_fst, List.map_map] at hnodup
    exact List.pairwise_map.mp hnodup
  refine ⟨hnodup, ?_, ?_, ?_⟩
  · rw [hknown]
    exact List.pairwise_map.mpr (hpairs.imp fun hne heq => hne (Sketch.timeVariable_inj.mp heq))
  · intro attached _ contribution hcontribution block hblock
    exact Sketch.Contribution.exists_timeDeclaration hcontribution hblock
  · rw [hknown]
    refine hpairs.imp_of_mem ?_
    rintro ⟨a, peripheral⟩ ⟨b, _⟩ ha hb hne rfl symbol hsymbol name _ haname hbname rfl
    obtain ⟨_, hawired⟩ := h.exists_wired _ ha
    obtain ⟨_, hbwired⟩ := h.exists_wired _ hb
    exact hne (Sketch.shortId_eq_of_fill_eq hawired hbwired hsymbol haname hbname)

/-- An edit makes no attachment whose short id is taken. -/
def KeepsShortIds (catalog : Catalog) (project : Project) : Edit → Prop
  | .attach id peripheralId => ∀ attached, project.attach catalog id peripheralId = .ok attached →
      id.shortId ∉ project.shortIds
  | .detach _ => True
  | .switchBoard _ => True

/-- No edit of a history makes an attachment whose short id is taken at that time. -/
def FreshShortIds (catalog : Catalog) : Project → List Edit → Prop
  | _, [] => True
  | project, edit :: rest =>
    KeepsShortIds catalog project edit ∧ FreshShortIds catalog (project.apply catalog edit) rest

theorem nodup_shortIds_apply_iff (hnodup : project.shortIds.Nodup) (edit : Edit) :
    (project.apply catalog edit).shortIds.Nodup ↔ KeepsShortIds catalog project edit := by
  cases edit with
  | attach id peripheralId =>
      rw [apply, KeepsShortIds]
      cases hattach : project.attach catalog id peripheralId with
      | error error => simpa using hnodup
      | ok attached =>
          obtain ⟨_, -, hplan, hnext⟩ := attach_eq_ok_iff.mp hattach
          have hids : attached.2.shortIds = project.shortIds ++ [id.shortId] := by
            simp [hnext, shortIds, Attachment.shortId, id_of_planAttachment hplan]
          have hlast : (project.shortIds ++ [id.shortId]).Nodup ↔
              id.shortId ∉ project.shortIds := by
            rw [(List.perm_append_singleton _ _).nodup_iff, List.nodup_cons]
            exact and_iff_left hnodup
          simp [hids, hlast]
  | detach id =>
      have hkept : (project.detach id).shortIds.Sublist project.shortIds :=
        List.filter_sublist.map Attachment.shortId
      exact iff_true_intro (hnodup.sublist hkept)
  | switchBoard boardId => exact iff_true_intro List.nodup_nil

/-- The short ids differ at every point of a history just if the history is fresh. -/
theorem nodup_shortIds_run_iff (hnodup : project.shortIds.Nodup) (edits : List Edit) :
    (∀ before, before <+: edits → (project.run catalog before).shortIds.Nodup) ↔
      FreshShortIds catalog project edits := by
  induction edits generalizing project with
  | nil => simpa [FreshShortIds, run] using hnodup
  | cons edit rest ih =>
      rw [FreshShortIds, ← nodup_shortIds_apply_iff hnodup]
      constructor
      · intro h
        have hedit : (project.apply catalog edit).shortIds.Nodup := h [edit] ⟨rest, rfl⟩
        refine ⟨hedit, (ih hedit).mp fun before hbefore => ?_⟩
        exact h (edit :: before) (List.cons_prefix_cons.mpr ⟨rfl, hbefore⟩)
      · rintro ⟨hedit, hrest⟩ before hbefore
        rcases List.prefix_cons_iff.mp hbefore with rfl | ⟨later, rfl, hlater⟩
        · exact hnodup
        · exact (ih hedit).mpr hrest later hlater

/-- A history of edits keeps the symbols apart at every point just if each attachment that it makes
has a short id that no other one has at that time. -/
theorem symbolsApart_iff_freshShortIds (catalog : Catalog) (board : Board) (seed : AttachmentId)
    (edits : List Edit) :
    (∀ before, before <+: edits →
      Sketch.SymbolsApart catalog ((start board seed).run catalog before).attachments) ↔
        FreshShortIds catalog (start board seed) edits := by
  have hstart : (start board seed).shortIds.Nodup := List.nodup_nil
  rw [← nodup_shortIds_run_iff hstart]
  refine forall₂_congr fun before _ => ⟨fun h => h.shortIds, fun hnodup => ?_⟩
  have hfresh : Reached (· = catalog) board (start board seed) [] := .start seed
  obtain ⟨_, hreached⟩ := hfresh.run rfl before
  exact hreached.symbolsApart hnodup

/-- Measures at intervals. -/
def thermometer : Peripheral where
  id := "thermometer"
  name := "Thermometer"
  category := .environmental
  requires := [.digitalOut]
  constructor :=
    "Probe probe_" ++ Template.slotText "ID" ++ "(" ++ Template.slotText "PIN_0" ++ ");"
  topic := .telemetry
  telemetryField := some "temperature"
  telemetryRead := some <| "    sendTelemetry(\"" ++ Template.slotText "FIELD" ++ "\", probe_" ++
    Template.slotText "ID" ++ ".read());"

def withThermometer : Catalog := ⟨[Catalog.Small.twoPins], [thermometer], [], List.cons_ne_nil _ _⟩

/-- Different ids with one short id. -/
def twoThermometers : Project :=
  (start Catalog.Small.twoPins ⟨0⟩).run withThermometer
    [.attach ⟨1⟩ "thermometer", .attach ⟨2⟩ "thermometer"]

/-- Their sketch is generated, and declares one variable twice. -/
theorem not_symbolsApart_twoThermometers :
    withThermometer.Reachable ∧ twoThermometers.attachments.map Attachment.id = [⟨1⟩, ⟨2⟩] ∧
      twoThermometers.shortIds = ["00000000", "00000000"] ∧
      (withThermometer.known twoThermometers.attachments).map
        (fun attached => Sketch.timeVariable attached.1) = ["last_00000000", "last_00000000"] ∧
      (∃ sketch, Sketch.generate withThermometer twoThermometers.board
        twoThermometers.attachments twoThermometers.network none = .ok sketch) ∧
      ¬ Sketch.SymbolsApart withThermometer twoThermometers.attachments := by
  have hshort : twoThermometers.shortIds = ["00000000", "00000000"] := by decide +kernel
  refine ⟨.build (Catalog.build_eq_ok_iff.mpr ⟨by decide +kernel, rfl, rfl, rfl⟩),
    by decide +kernel, hshort, by decide +kernel, ?_, ?_⟩
  · exact Sketch.exists_generate_iff.mpr (by decide +kernel)
  · intro hapart
    have hnodup : twoThermometers.shortIds.Nodup := hapart.shortIds
    rw [hshort] at hnodup
    exact absurd hnodup (by decide)

end Project

end SensorNode
