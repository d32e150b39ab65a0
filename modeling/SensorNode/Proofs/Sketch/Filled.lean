import SensorNode.Proofs.Template.Filling
import SensorNode.Sketch.Basic

/-!
# When sketches can be rendered

The frame of a sketch always has a value for each of its slots. So a sketch can be rendered exactly
when each fragment that an attachment emits can be filled.
-/

namespace SensorNode.Sketch

/-- The value of a slot is the short id, the telemetry field or a recorded pin. -/
theorem isSome_slotValues {attachment : Attachment} {peripheral : Peripheral} {name : String} :
    ((slotValues attachment peripheral).get? name).isSome ↔
      name = "ID" ∨ name = "FIELD" ∧ peripheral.telemetryField.isSome ∨
        name ∈ attachment.pins.keys := by
  have hkeys : (attachment.pins.entries.map fun entry => (entry.1, toString entry.2.toNat)).map
      Prod.fst = attachment.pins.keys := by
    simp [SortedMap.keys]
  simp only [slotValues, Substitutions.isSome_get?_setAll, hkeys, ← or_assoc]
  refine or_congr_left ?_
  cases peripheral.telemetryField with
  | none => simp
  | some field => by_cases h : name = "FIELD" <;> simp [h]

/-- The values for the default command: those of the attachment and the levels. -/
def switchValues (attachment : Attachment) (peripheral : Peripheral) : Substitutions :=
  ((slotValues attachment peripheral).set "ON" peripheral.levels.1).set "OFF" peripheral.levels.2

namespace Contribution

/-- The fragments that an attachment emits, each with the values it is filled with, in the order in
which they are filled. -/
def emitted (attachment : Attachment) (peripheral : Peripheral) :
    List (Fragment × Template × Substitutions) :=
  let values := slotValues attachment peripheral
  (.constructor, .parse peripheral.constructor, values) ::
    ((setupSource? peripheral).toList.map fun source => (.setup, .parse source, values)) ++
    (peripheral.loop.toList.map fun source => (.loop, .parse source, values)) ++
    ((telemetrySource? peripheral).toList.map fun source =>
      (.telemetryRead, .parse source, values)) ++
    ((commandBody? peripheral values).toList.map fun body => (.command, body.1, body.2))

/-- An attachment contributes exactly when every slot that it emits has a value. -/
theorem exists_ofAttachment_iff {attachment : Attachment} {peripheral : Peripheral} :
    (∃ contribution, ofAttachment attachment peripheral = .ok contribution) ↔
      ∀ entry ∈ emitted attachment peripheral, ∀ name ∈ entry.2.1.slots,
        (entry.2.2.get? name).isSome := by
  have hreturn (contribution : Contribution) :
      (∃ result, (pure contribution : Except RenderError Contribution) = .ok result) ↔ True :=
    iff_true_intro ⟨contribution, rfl⟩
  simp only [← Template.exists_fill_iff, emitted, List.cons_append, List.forall_mem_cons,
    List.forall_mem_append, List.forall_mem_map, and_assoc]
  simp only [ofAttachment, Outcome.exists_bind_eq_ok_iff, hreturn, and_true, exists_and_right,
    Outcome.exists_mapM_option_eq_ok_iff, Outcome.mapError_eq_ok_iff]

end Contribution

/-- A part of the frame is filled when each of its slots is among the names with a value. -/
theorem Sections.exists_fillPart {part : String} {template : Template}
    {values : List (String × String)} (h : ∀ name ∈ template.slots, name ∈ values.map Prod.fst) :
    ∃ text, fillPart part template values = .ok text := by
  obtain ⟨text, htext⟩ := Template.exists_fill_iff.mpr fun name hname =>
    Substitutions.isSome_get?_ofList.mpr (h name hname)
  exact ⟨text, Outcome.mapError_eq_ok_iff.mpr htext⟩

/-- The frame itself never fails. -/
theorem Sections.exists_source (boardId : String) (network : Network) (sections : Sections) :
    ∃ text, sections.source boardId network = .ok text := by
  obtain ⟨helpers, hhelpers⟩ : ∃ text, sections.helpers boardId = .ok text :=
    exists_fillPart (by simp)
  obtain ⟨setup, hsetup⟩ : ∃ text, sections.setup = .ok text := exists_fillPart (by simp)
  obtain ⟨loop, hloop⟩ : ∃ text, sections.loop = .ok text := exists_fillPart (by simp)
  rw [source, hhelpers, hsetup, hloop]
  exact ⟨_, rfl⟩

/-- A sketch can be generated exactly when every slot that a known attachment emits has a value. -/
theorem exists_generate_iff {catalog : Catalog} {board : Board} {attachments : List Attachment}
    {network : Network} {identity : Option String} :
    (∃ sketch, generate catalog board attachments network identity = .ok sketch) ↔
      ∀ attached ∈ catalog.known attachments,
        ∀ entry ∈ Contribution.emitted attached.1 attached.2, ∀ name ∈ entry.2.1.slots,
          (entry.2.2.get? name).isSome := by
  rw [generate, Outcome.exists_map_eq_ok_iff, render, assemble, Outcome.exists_bind_eq_ok_iff]
  simp only [Sections.exists_source, and_true, Outcome.exists_mapM_eq_ok_iff,
    Contribution.exists_ofAttachment_iff]

end SensorNode.Sketch
