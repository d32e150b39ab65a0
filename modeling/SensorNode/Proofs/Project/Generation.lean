import SensorNode.Proofs.Project.Reached
import SensorNode.Proofs.Sketch.Filled

/-!
# Checked catalogs generate

Peripherals are checked long before anything is generated, against the slots they declare. What is
filled then are the slots of the fragments that an attachment emits, with the values that it
recorded. The two agree: every emitted slot of a checked peripheral is declared or a level of the
default command, and every declared slot has a value in each attachment that was wired for the
peripheral. So no project that edits over one catalog lead to ever fails to generate.
-/

namespace SensorNode

namespace Sketch

variable {attachment : Attachment} {peripheral : Peripheral}

/-- An attachment that was wired for a peripheral has a value for each slot it declares. -/
theorem isSome_slotValues_of_declared {board : Board} {picked : List Gpio}
    (wired : Wired board attachment peripheral picked) {name : String}
    (h : name ∈ peripheral.declaredSlots) :
    ((slotValues attachment peripheral).get? name).isSome := by
  rw [isSome_slotValues]
  simp only [Peripheral.declaredSlots, List.mem_append, List.mem_singleton] at h
  rcases h with (hid | hfield) | hpin
  · exact .inl hid
  · split at hfield
    · next hsome => exact .inr (.inl ⟨List.mem_singleton.mp hfield, hsome⟩)
    · simp at hfield
  · obtain ⟨i, hi, rfl⟩ := List.mem_map.mp hpin
    exact .inr (.inr (wired.mem_keys_iff.mpr ⟨i, List.mem_range.mp hi, rfl⟩))

/-- What an attachment emits is a fragment of its peripheral or the default command. -/
theorem of_mem_emitted {entry : Fragment × Template × Substitutions}
    (h : entry ∈ Contribution.emitted attachment peripheral) :
    (∃ fragment source, (fragment, source) ∈ peripheral.fragments ∧
        entry = (fragment, .parse source, slotValues attachment peripheral)) ∨
      peripheral.isCommand ∧ peripheral.command = none ∧
        entry = (.command, Frame.switchCommand, switchValues attachment peripheral) := by
  simp only [Contribution.emitted, List.cons_append, List.mem_cons, List.mem_append,
    List.mem_map, Option.mem_toList, or_assoc] at h
  rcases h with rfl | ⟨source, hsetup, rfl⟩ | ⟨source, hloop, rfl⟩ | ⟨source, hread, rfl⟩ |
    ⟨body, hbody, rfl⟩
  · exact .inl ⟨.constructor, _, by simp [Peripheral.fragments], rfl⟩
  · obtain ⟨-, rfl⟩ : Text.isBlank peripheral.setup = false ∧ peripheral.setup = source := by
      simpa [setupSource?] using hsetup
    exact .inl ⟨.setup, _, by simp [Peripheral.fragments], rfl⟩
  · exact .inl ⟨.loop, source, by simp [Peripheral.fragments, hloop], rfl⟩
  · obtain ⟨-, hread⟩ : peripheral.isTelemetry ∧ peripheral.telemetryRead = some source := by
      simpa [telemetrySource?] using hread
    exact .inl ⟨.telemetryRead, source, by simp [Peripheral.fragments, hread], rfl⟩
  · unfold commandBody? at hbody
    split at hbody
    · next hcommand =>
      split at hbody
      · next source hsource =>
        obtain rfl := Option.some.inj hbody
        exact .inl ⟨.command, source, by simp [Peripheral.fragments, hsource], rfl⟩
      · next hnone =>
        obtain rfl := Option.some.inj hbody
        exact .inr ⟨hcommand, hnone, rfl⟩
    · simp at hbody

/-- What a checked peripheral emits has a value for each slot in every attachment that was wired
for it. -/
theorem isSome_of_mem_emitted {board : Board} {picked : List Gpio}
    (wired : Wired board attachment peripheral picked) (checked : peripheral.check = .ok ())
    {entry : Fragment × Template × Substitutions}
    (hentry : entry ∈ Contribution.emitted attachment peripheral) {name : String}
    (hname : name ∈ entry.2.1.slots) : (entry.2.2.get? name).isSome := by
  obtain ⟨-, hfragments, hswitch, -⟩ := Peripheral.check_eq_ok_iff.mp checked
  rcases of_mem_emitted hentry with ⟨fragment, source, hmem, rfl⟩ | ⟨hcommand, hnone, rfl⟩
  · exact isSome_slotValues_of_declared wired (hfragments _ hmem name hname)
  · have hpin := isSome_slotValues_of_declared wired (hswitch hcommand hnone)
    have hpin0 : pinName 0 = "PIN_0" := by decide +kernel
    rw [hpin0] at hpin
    simp only [Frame.slots_switchCommand, List.mem_cons, List.not_mem_nil, or_false] at hname
    rcases hname with rfl | rfl | rfl | rfl <;> simp [switchValues, hpin]

end Sketch

namespace Project

/-- A project that was reached over one checked catalog can be generated. -/
theorem Reached.generates {catalog : Catalog} {first : Board} {project : Project}
    {wired : List (Attachment × Peripheral)} (h : Reached (· = catalog) first project wired)
    (checked : catalog.Checked) (network : Network) (identity : Option String) :
    ∃ sketch, Sketch.generate catalog project.board project.attachments network identity =
      .ok sketch := by
  rw [Sketch.exists_generate_iff, h.known_attachments]
  intro attached hattached entry hentry name hname
  obtain ⟨picked, hwired⟩ := h.exists_wired attached hattached
  obtain ⟨_, rfl, hfound⟩ := h.exists_peripheral? attached hattached
  have hchecked := checked.peripheral _ (Catalog.mem_of_peripheral? hfound).1
  exact Sketch.isSome_of_mem_emitted hwired hchecked hentry hname

/-- Every project that edits over one checked catalog lead to can be generated, whatever the
settings of its network and its token are. -/
theorem exists_generate {catalog : Catalog} (hcatalog : catalog.Reachable) (board : Board)
    (seed : AttachmentId) (edits : List Edit) (network : Network) (identity : Option String) :
    let project := (start board seed).run catalog edits
    ∃ sketch, Sketch.generate catalog project.board project.attachments network identity =
      .ok sketch := by
  intro project
  have hstart : Reached (· = catalog) board (start board seed) [] := .start seed
  -- with one catalog for all edits, each attachment still finds the peripheral it was made for
  obtain ⟨wired, hreached⟩ := hstart.run rfl edits
  have hfound : ∀ entry ∈ wired,
      catalog.peripheral? entry.1.peripheralId = some entry.2 := by
    intro entry hentry
    obtain ⟨_, rfl, hfound⟩ := hreached.exists_peripheral? entry hentry
    exact hfound
  rw [Sketch.exists_generate_iff, ← hreached.map_fst, Catalog.known_map_fst hfound]
  intro entry hentry emitted hemitted name hname
  obtain ⟨picked, hwired⟩ := hreached.exists_wired entry hentry
  have hmem : entry.2 ∈ catalog.peripherals := (Catalog.mem_of_peripheral? (hfound entry hentry)).1
  exact Sketch.isSome_of_mem_emitted hwired (hcatalog.checked.peripheral _ hmem) hemitted hname

/-- A lamp with the default command beside a clock, on a network with a slot for a name. -/
theorem exists_generate_lamp_clock :
    let project := (start Catalog.Small.twoPins ⟨0⟩).run Catalog.small
      [.attach ⟨1⟩ "lamp", .attach ⟨2⟩ "clock", .attach ⟨3⟩ "fan"]
    project.attachments.length = 2 ∧
      ∃ sketch, Sketch.generate Catalog.small project.board project.attachments
        { ssid := Template.slotText "PIN_0", deviceId := Template.slotText "ID" } none =
          .ok sketch :=
  ⟨by decide +kernel, exists_generate .small Catalog.Small.twoPins ⟨0⟩ _ _ none⟩

end Project

end SensorNode
