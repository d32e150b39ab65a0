import SensorNode.Proofs.Attachment.Ids
import SensorNode.Proofs.Catalog.Checked
import SensorNode.Proofs.PinTable.Wired
import SensorNode.Proofs.Sketch.Leftovers
import SensorNode.Proofs.Template.Digitized

/-!
# Slots in what attachments contribute

A peripheral that passes its check can still leave slots in a sketch: by its id, by its name or the
name of its command, and by a fragment that comes out with one. Only the last depends on the
attachment. An attachment that has zeros for its id and its pins is the worst one, so to know that
no attachment of a peripheral leaves a slot it is enough to look at that one.
-/

namespace SensorNode.Sketch

open Template (SlotFree placeholders_eq_nil_iff)

/-- No text that an attachment puts into a sketch holds a slot. -/
structure LeavesNoSlots (attachment : Attachment) (peripheral : Peripheral) : Prop where
  id : Template.placeholders peripheral.id = []
  /-- The name stands in a comment before each block. -/
  name : (setupSource? peripheral).isSome ∨ peripheral.loop.isSome ∨
    (telemetrySource? peripheral).isSome → Template.placeholders peripheral.name = []
  commandName : peripheral.isCommand → Template.placeholders (commandName peripheral) = []
  code : ∀ code, Emits attachment peripheral code → Template.placeholders code = []

variable {attachment : Attachment} {peripheral : Peripheral}

theorem forall_emits_iff_emitted {P : String → Prop} :
    (∀ code, Emits attachment peripheral code → P code) ↔
      ∀ entry ∈ Contribution.emitted attachment peripheral, ∀ code,
        entry.2.1.fill entry.2.2 = .ok code → P code :=
  ⟨fun h entry hentry code hcode => h code ⟨entry, hentry, hcode⟩,
    fun h code ⟨entry, hentry, hcode⟩ => h entry hentry code hcode⟩

theorem leavesNoSlots_iff :
    LeavesNoSlots attachment peripheral ↔
      SlotFree peripheral.id.toList ∧
      ((setupSource? peripheral).isSome ∨ peripheral.loop.isSome ∨
        (telemetrySource? peripheral).isSome → SlotFree peripheral.name.toList) ∧
      (peripheral.isCommand → SlotFree (commandName peripheral).toList) ∧
      ∀ code, Emits attachment peripheral code → SlotFree code.toList := by
  simp only [← placeholders_eq_nil_iff]
  exact ⟨fun ⟨hid, hname, hcommand, hcode⟩ => ⟨hid, hname, hcommand, hcode⟩,
    fun ⟨hid, hname, hcommand, hcode⟩ => ⟨hid, hname, hcommand, hcode⟩⟩

instance : Decidable (LeavesNoSlots attachment peripheral) :=
  decidable_of_iff _ (leavesNoSlots_iff.trans
    (and_congr_right' (and_congr_right' (and_congr_right' forall_emits_iff_emitted)))).symm

/-- A checked peripheral has no slots in its header lines. -/
theorem slotFree_of_mem_headerLines (checked : peripheral.check = .ok ()) {line : String}
    (h : line ∈ Contribution.headerLines peripheral) : SlotFree line.toList := by
  obtain ⟨-, -, -, hincludes⟩ := Peripheral.check_eq_ok_iff.mp checked
  obtain ⟨source, hmem, rfl⟩ := List.mem_map.mp (List.mem_of_mem_filter h)
  have hslots : Template.placeholders source = [] :=
    Template.names_eq_nil_iff.mpr (hincludes source hmem)
  exact (placeholders_eq_nil_iff.mp hslots).trim

/-- The blocks around the fragments of one kind. -/
theorem forall_blocks_slotFree_iff {σ : Type} {sources : Option σ} {codes : Option String}
    {fill : σ → Except (List String) String} {error : List String → RenderError}
    (around : String → String) {named : Prop}
    (haround : ∀ code, SlotFree (around code).toList ↔ named ∧ SlotFree code.toList)
    (h : sources.mapM (fun source => (fill source).mapError error) = .ok codes) :
    (∀ block ∈ (codes.map around).toList, SlotFree block.toList) ↔
      (sources.isSome → named) ∧
        ∀ source ∈ sources.toList, ∀ code, fill source = .ok code → SlotFree code.toList := by
  cases sources with
  | none =>
      obtain rfl : none = codes := Except.ok.inj h
      simp
  | some source =>
      obtain ⟨code, hcode, rfl⟩ := Outcome.map_eq_ok_iff.mp h
      rw [Outcome.mapError_eq_ok_iff] at hcode
      simp [haround, hcode]

/-- What is emitted, told fragment by fragment. -/
theorem forall_emits_iff {P : String → Prop} :
    (∀ code, Emits attachment peripheral code → P code) ↔
      (∀ code, (Template.parse peripheral.constructor).fill (slotValues attachment peripheral) =
        .ok code → P code) ∧
      (∀ source ∈ (setupSource? peripheral).toList, ∀ code,
        (Template.parse source).fill (slotValues attachment peripheral) = .ok code → P code) ∧
      (∀ source ∈ peripheral.loop.toList, ∀ code,
        (Template.parse source).fill (slotValues attachment peripheral) = .ok code → P code) ∧
      (∀ source ∈ (telemetrySource? peripheral).toList, ∀ code,
        (Template.parse source).fill (slotValues attachment peripheral) = .ok code → P code) ∧
      ∀ body ∈ (commandBody? peripheral (slotValues attachment peripheral)).toList, ∀ code,
        body.1.fill body.2 = .ok code → P code := by
  simp only [forall_emits_iff_emitted, Contribution.emitted, List.cons_append, List.forall_mem_cons,
    List.forall_mem_append, List.forall_mem_map, and_assoc]

theorem isSome_commandBody?_iff {values : Substitutions} :
    (commandBody? peripheral values).isSome ↔ peripheral.isCommand := by
  unfold commandBody?
  split
  · next hcommand => split <;> simp [hcommand]
  · next hnot => simp [hnot]

theorem Contribution.slotFree_texts_iff {contribution : Contribution}
    (checked : peripheral.check = .ok ())
    (h : ofAttachment attachment peripheral = .ok contribution) :
    (∀ part ∈ contribution.texts, SlotFree part.toList) ↔ LeavesNoSlots attachment peripheral := by
  have hid : '\x7b' ∉ attachment.shortId.toList := by
    intro hbrace
    obtain ⟨d, hd, heq⟩ := AttachmentId.exists_digit_of_mem_shortId hbrace
    have hdigits : ∀ d < 16, '\x7b' ≠ Nat.digitChar d := by decide
    exact hdigits d hd heq
  have hincludes : ∀ line ∈ headerLines peripheral, SlotFree line.toList :=
    fun _ => slotFree_of_mem_headerLines checked
  simp only [ofAttachment, Outcome.bind_eq_ok_iff] at h
  obtain ⟨constructor, hconstructor, setup, hsetup, loop, hloop, telemetry, htelemetry, command,
    hcommand, h⟩ := h
  obtain rfl := Except.ok.inj h
  rw [Outcome.mapError_eq_ok_iff] at hconstructor
  simp only [texts, List.cons_append, List.forall_mem_cons, List.forall_mem_append]
  rw [forall_blocks_slotFree_iff (setupBlock peripheral) (fun _ => slotFree_setupBlock_iff) hsetup,
    forall_blocks_slotFree_iff (loopBlock peripheral) (fun _ => slotFree_loopBlock_iff) hloop,
    forall_blocks_slotFree_iff (telemetryBlock peripheral attachment.shortId)
      (fun _ => slotFree_telemetryBlock_iff hid) htelemetry,
    forall_blocks_slotFree_iff (commandBlock peripheral) (fun _ => slotFree_commandBlock_iff)
      hcommand,
    leavesNoSlots_iff, forall_emits_iff, isSome_commandBody?_iff]
  simp only [hconstructor, Except.ok.injEq, forall_eq']
  constructor
  · rintro ⟨id, constructor, ⟨⟨⟨-, hsetup, setup⟩, hloop, loop⟩, htelemetry, telemetry⟩, hcommand,
      command⟩
    exact ⟨id, fun h => h.elim hsetup (Or.elim · hloop htelemetry),
      fun hcommanded => (hcommand hcommanded).2, constructor, setup, loop, telemetry, command⟩
  · rintro ⟨id, hname, hcommand, constructor, setup, loop, telemetry, command⟩
    exact ⟨id, constructor, ⟨⟨⟨hincludes, fun h => hname (.inl h), setup⟩,
      fun h => hname (.inr (.inl h)), loop⟩, fun h => hname (.inr (.inr h)), telemetry⟩,
      fun hcommanded => ⟨id, hcommand hcommanded⟩, command⟩

/-- An attachment with zeros for its id and its pins. -/
def zeroed (peripheral : Peripheral) : Attachment :=
  ⟨⟨0⟩, peripheral.id, .ofPins (List.replicate peripheral.arity 0)⟩

/-- Digits for a short id. -/
theorem digitized_shortId (id : AttachmentId) :
    Template.Digitized id.shortId.toList (AttachmentId.shortId ⟨0⟩).toList := by
  have hdigits : ∀ d < 16, Template.Inert (Nat.digitChar d) := by decide
  apply Template.Digitized.of_forall
  · intro c hc
    obtain ⟨d, hd, rfl⟩ := AttachmentId.exists_digit_of_mem_shortId hc
    exact hdigits d hd
  · intro d hd
    rw [AttachmentId.toList_shortId_zero] at hd
    rw [List.eq_of_mem_replicate hd]
    rfl
  · rw [AttachmentId.length_shortId, AttachmentId.length_shortId]

/-- One digit for a number. -/
theorem digitized_toString (n : Nat) :
    Template.Digitized (toString n).toList (toString 0).toList := by
  have hlength : 0 < (toString n).toList.length := by
    rw [Nat.toString_eq_repr, Nat.repr, String.toList_ofList]
    exact Nat.length_toDigits_pos
  exact .of_forall (fun _ hc => Template.inert_of_isDigit (Text.isDigit_of_mem_toString hc))
    (fun _ => Text.isDigit_of_mem_toString) hlength

/-- The values of a wired attachment have digits among those of the zeroed one. -/
theorem digitized_slotValues {board : Board} {picked : List Gpio}
    (wired : Wired board attachment peripheral picked) :
    (slotValues attachment peripheral).Digitized (slotValues (zeroed peripheral) peripheral) := by
  have hid := Substitutions.Digitized.empty.set "ID" (digitized_shortId attachment.id)
  have hnames (name : String) :
      name ∈ attachment.pins.keys ↔ name ∈ (zeroed peripheral).pins.keys := by
    rw [wired.mem_keys_iff, zeroed, PinMap.mem_keys_ofPins_iff, List.length_replicate]
  have hkeys (pins : PinMap) :
      (pins.entries.map fun entry => (entry.1, toString entry.2.toNat)).map Prod.fst =
        pins.keys := by
    simp [SortedMap.keys]
  have hpins : ∀ entry ∈ attachment.pins.entries.map fun pin => (pin.1, toString pin.2.toNat),
      ∀ digit ∈ (zeroed peripheral).pins.entries.map fun pin => (pin.1, toString pin.2.toNat),
        Template.Digitized entry.2.toList digit.2.toList := by
    intro entry hentry digit hdigit
    obtain ⟨pin, -, rfl⟩ := List.mem_map.mp hentry
    obtain ⟨zero, hzero, rfl⟩ := List.mem_map.mp hdigit
    have hgpio : zero.2 ∈ (zeroed peripheral).gpios := List.mem_map_of_mem hzero
    rw [zeroed, Attachment.mem_gpios_ofPins] at hgpio
    rw [List.eq_of_mem_replicate hgpio]
    exact digitized_toString pin.2.toNat
  unfold slotValues
  cases peripheral.telemetryField with
  | none => exact hid.setAll (by simpa only [hkeys] using hnames) hpins
  | some field =>
      exact (hid.set "FIELD" (.refl field.toList)).setAll (by simpa only [hkeys] using hnames) hpins

theorem exists_commandBody?_of_digitized {values digits : Substitutions}
    (h : values.Digitized digits) {body : Template × Substitutions}
    (hbody : commandBody? peripheral values = some body) :
    ∃ digitized, commandBody? peripheral digits = some (body.1, digitized) ∧
      body.2.Digitized digitized := by
  unfold commandBody? at hbody ⊢
  split at hbody
  · next hcommand =>
    rw [if_pos hcommand]
    split at hbody
    · obtain rfl := Option.some.inj hbody
      exact ⟨digits, rfl, h⟩
    · obtain rfl := Option.some.inj hbody
      exact ⟨_, rfl, (h.set "ON" (.refl _)).set "OFF" (.refl _)⟩
  · simp at hbody

/-- If the zeroed attachment leaves no slots, no other one that was wired does. -/
theorem LeavesNoSlots.of_zeroed {board : Board} {picked : List Gpio}
    (wired : Wired board attachment peripheral picked)
    (h : LeavesNoSlots (zeroed peripheral) peripheral) : LeavesNoSlots attachment peripheral := by
  have hvalues := digitized_slotValues wired
  rw [leavesNoSlots_iff] at h ⊢
  obtain ⟨hid, hname, hcommandName, hcode⟩ := h
  obtain ⟨hconstructor, hsetup, hloop, htelemetry, hcommand⟩ := forall_emits_iff.mp hcode
  refine ⟨hid, hname, hcommandName, forall_emits_iff.mpr ⟨?_, ?_, ?_, ?_, ?_⟩⟩
  · exact fun _ => Template.slotFree_fill hvalues hconstructor
  · exact fun source hsource _ => Template.slotFree_fill hvalues (hsetup source hsource)
  · exact fun source hsource _ => Template.slotFree_fill hvalues (hloop source hsource)
  · exact fun source hsource _ => Template.slotFree_fill hvalues (htelemetry source hsource)
  · intro body hbody _
    obtain ⟨digits, hdigits, hbodyValues⟩ :=
      exists_commandBody?_of_digitized hvalues (Option.mem_toList.mp hbody)
    exact Template.slotFree_fill hbodyValues (hcommand _ (Option.mem_toList.mpr hdigits))

end SensorNode.Sketch
