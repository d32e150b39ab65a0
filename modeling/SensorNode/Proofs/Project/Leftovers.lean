import SensorNode.Proofs.Project.Reached
import SensorNode.Proofs.Sketch.Contributed

/-!
# Slots that are left in the sketch of a project

With settings that hold no braces, the sketch of a reached project holds a slot just if one of its
attachments leaves one. That every peripheral passes its check does not rule this out, since the
check reads neither the name of a peripheral nor what its fragments come out as. It is ruled out for
all projects over a catalog if for each peripheral the attachment with zeros leaves no slots, which
can be found out when the peripheral is put into the catalog.
-/

namespace SensorNode

open Template (SlotFree placeholders_eq_nil_iff)

/-- A generated sketch holds a slot just if a setting does or an attachment leaves one. -/
theorem Sketch.slotFree_generate_iff {catalog : Catalog} {board : Board}
    {attachments : List Attachment} {network : Network} {identity : Option String}
    {sketch : Sketch} (checked : ∀ attached ∈ catalog.known attachments, attached.2.check = .ok ())
    (h : generate catalog board attachments network identity = .ok sketch) :
    SlotFree sketch.source.toList ↔
      (∀ setting ∈ quotedSettings board.id network identity, SlotFree setting.toList) ∧
        ∀ attached ∈ catalog.known attachments, LeavesNoSlots attached.1 attached.2 := by
  obtain ⟨source, hsource, rfl⟩ := Outcome.map_eq_ok_iff.mp h
  obtain ⟨contributions, hcontributions, hsource⟩ := Outcome.bind_eq_ok_iff.mp hsource
  rw [Sections.slotFree_source_iff hsource, Outcome.forall_mem_iff_of_mapM hcontributions]
  refine and_congr_right fun _ => forall₂_congr fun attached hattached => ?_
  obtain ⟨contribution, hcontribution⟩ :=
    Outcome.exists_mapM_eq_ok_iff.mp ⟨contributions, hcontributions⟩ attached hattached
  rw [← Contribution.slotFree_texts_iff (checked attached hattached) hcontribution]
  constructor
  · rintro ⟨_, hsame, htexts⟩
    obtain rfl := Except.ok.inj (hcontribution.symm.trans hsame)
    exact htexts
  · exact fun htexts => ⟨contribution, hcontribution, htexts⟩

namespace Project

/-- So it is with settings without braces. -/
theorem Reached.slotFree_generate_iff {catalog : Catalog} {first : Board} {project : Project}
    {wired : List (Attachment × Peripheral)} (h : Reached (· = catalog) first project wired)
    (checked : ∀ peripheral ∈ catalog.peripherals, peripheral.check = .ok ()) {network : Network}
    {identity : Option String} {sketch : Sketch}
    (hsettings : ∀ setting ∈ Sketch.quotedSettings project.board.id network identity,
      '\x7b' ∉ setting.toList)
    (hsketch : Sketch.generate catalog project.board project.attachments network identity =
      .ok sketch) :
    SlotFree sketch.source.toList ↔
      ∀ attached ∈ wired, Sketch.LeavesNoSlots attached.1 attached.2 := by
  have hknown : catalog.known project.attachments = wired := h.known_attachments
  have hchecked : ∀ attached ∈ catalog.known project.attachments,
      attached.2.check = .ok () := by
    rw [hknown]
    intro attached hattached
    obtain ⟨_, rfl, hfound⟩ := h.exists_peripheral? attached hattached
    exact checked _ (Catalog.mem_of_peripheral? hfound).1
  rw [Sketch.slotFree_generate_iff hchecked hsketch, hknown]
  exact and_iff_right fun setting hsetting =>
    Template.slotFree_of_notMem (hsettings setting hsetting)

/-- A sketch with settings without braces holds a slot just if an attachment leaves one, and it
holds none if for no peripheral of the catalog the attachment with zeros does. -/
theorem placeholders_source_eq_nil_iff {catalog : Catalog}
    (checked : ∀ peripheral ∈ catalog.peripherals, peripheral.check = .ok ()) (board : Board)
    (seed : AttachmentId) (edits : List Edit) (network : Network) (identity : Option String)
    {sketch : Sketch} :
    let project := (start board seed).run catalog edits
    (∀ setting ∈ Sketch.quotedSettings project.board.id network identity,
      '\x7b' ∉ setting.toList) →
    Sketch.generate catalog project.board project.attachments network identity = .ok sketch →
      (Template.placeholders sketch.source = [] ↔
        ∀ attached ∈ catalog.known project.attachments,
          Sketch.LeavesNoSlots attached.1 attached.2) ∧
      ((∀ peripheral ∈ catalog.peripherals,
        Sketch.LeavesNoSlots (Sketch.zeroed peripheral) peripheral) →
          Template.placeholders sketch.source = []) := by
  intro project hsettings hsketch
  have hstart : Reached (· = catalog) board (start board seed) [] := .start seed
  obtain ⟨wired, hreached⟩ := hstart.run rfl edits
  have hslotFree := hreached.slotFree_generate_iff checked hsettings hsketch
  rw [placeholders_eq_nil_iff, hslotFree, hreached.known_attachments]
  refine ⟨.rfl, fun hzeroed attached hattached => ?_⟩
  obtain ⟨picked, hwired⟩ := hreached.exists_wired attached hattached
  obtain ⟨_, rfl, hfound⟩ := hreached.exists_peripheral? attached hattached
  exact .of_zeroed hwired (hzeroed _ (Catalog.mem_of_peripheral? hfound).1)

/-- A lamp beside a clock leaves no slots, on a network with the default settings. -/
theorem placeholders_lamp_clock :
    let project := (start Catalog.Small.twoPins ⟨0⟩).run Catalog.small
      [.attach ⟨1⟩ "lamp", .attach ⟨2⟩ "clock"]
    project.attachments.length = 2 ∧
      ∃ sketch, Sketch.generate Catalog.small project.board project.attachments project.network
        none = .ok sketch ∧ Template.placeholders sketch.source = [] := by
  intro project
  refine ⟨by decide +kernel, ?_⟩
  obtain ⟨sketch, hsketch⟩ : ∃ sketch,
      Sketch.generate Catalog.small project.board project.attachments project.network none =
        .ok sketch :=
    Sketch.exists_generate_iff.mpr (by decide +kernel)
  have hplaceholders := placeholders_source_eq_nil_iff Catalog.Reachable.small.checked.peripheral
    Catalog.Small.twoPins ⟨0⟩ [.attach ⟨1⟩ "lamp", .attach ⟨2⟩ "clock"] project.network none
    (by decide +kernel) hsketch
  exact ⟨sketch, hsketch, hplaceholders.2 (by decide +kernel)⟩

/-- Its name stands in a comment above its setup code. -/
def namedLamp : Peripheral where
  id := "lamp"
  name := "Lamp " ++ Template.slotText "ID"
  category := .actuator
  requires := [.digitalOut]
  constructor := "int lamp_" ++ Template.slotText "ID" ++ ";"
  setup := "pinMode(" ++ Template.slotText "PIN_0" ++ ", OUTPUT);"

/-- It takes the place of the other lamp. -/
def withNamedLamp : Catalog := Catalog.small.put namedLamp

/-- The lamp passes its check, and the slot is still there in the sketch. -/
theorem placeholders_namedLamp_ne_nil :
    let project := (start Catalog.Small.twoPins ⟨0⟩).run withNamedLamp [.attach ⟨1⟩ "lamp"]
    withNamedLamp.Reachable ∧ namedLamp.check = .ok () ∧
      (∀ setting ∈ Sketch.quotedSettings project.board.id project.network none,
        '\x7b' ∉ setting.toList ∧ '\x7d' ∉ setting.toList) ∧
      ∃ sketch, Sketch.generate withNamedLamp project.board project.attachments project.network
        none = .ok sketch ∧ Template.placeholders sketch.source ≠ [] := by
  intro project
  have hcheck : namedLamp.check = .ok () := firstFault_eq_ok_iff.mpr (by decide +kernel)
  have hinsert : Catalog.small.insert namedLamp = .ok withNamedLamp := by
    rw [Catalog.insert, hcheck]
    rfl
  have hreachable : withNamedLamp.Reachable := .insert .small hinsert
  have hsettings : ∀ setting ∈ Sketch.quotedSettings project.board.id project.network none,
      '\x7b' ∉ setting.toList ∧ '\x7d' ∉ setting.toList := by
    decide +kernel
  refine ⟨hreachable, hcheck, hsettings, ?_⟩
  obtain ⟨sketch, hsketch⟩ : ∃ sketch,
      Sketch.generate withNamedLamp project.board project.attachments project.network none =
        .ok sketch :=
    Sketch.exists_generate_iff.mpr (by decide +kernel)
  refine ⟨sketch, hsketch, fun hnone => ?_⟩
  have hstart : Reached (· = withNamedLamp) Catalog.Small.twoPins
      (start Catalog.Small.twoPins ⟨0⟩) [] := .start ⟨0⟩
  obtain ⟨wired, hreached⟩ := hstart.run rfl [.attach ⟨1⟩ "lamp"]
  have hleaves := (hreached.slotFree_generate_iff hreachable.checked.peripheral
    (fun setting hsetting => (hsettings setting hsetting).1) hsketch).mp
      (placeholders_eq_nil_iff.mp hnone)
  have hlamp : wired.map Prod.snd = [namedLamp] := by
    rw [← hreached.known_attachments]
    decide +kernel
  obtain ⟨attached, hattached, hperipheral⟩ : ∃ attached ∈ wired, attached.2 = namedLamp :=
    List.mem_map.mp (hlamp ▸ List.mem_cons_self)
  have hname := (hleaves attached hattached).name
  rw [hperipheral] at hname
  exact absurd (hname (by decide +kernel)) (by decide +kernel)

end Project

end SensorNode
