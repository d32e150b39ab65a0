import SensorNode.Proofs.Sketch.Filled

/-!
# What attachments contribute

The parts of a contribution, each traced to the fragment that was filled for it. What is in a sketch
besides the frame is a header line, a filled fragment or the code around one.
-/

namespace SensorNode.Sketch

/-- A text is what one of the fragments that an attachment emits is filled to. -/
def Emits (attachment : Attachment) (peripheral : Peripheral) (code : String) : Prop :=
  ∃ entry ∈ Contribution.emitted attachment peripheral, entry.2.1.fill entry.2.2 = .ok code

namespace Contribution

/-- A contribution holds the filled fragments of an attachment and the code around them. -/
structure Rendered (attachment : Attachment) (peripheral : Peripheral)
    (contribution : Contribution) : Prop where
  peripheralId_eq : contribution.peripheralId = peripheral.id
  includes_eq : contribution.includes = headerLines peripheral
  constructor : Emits attachment peripheral contribution.constructor
  setup : ∀ block ∈ contribution.setup, ∃ code, Emits attachment peripheral code ∧
    block = setupBlock peripheral code
  loop : ∀ block ∈ contribution.loop, ∃ code, Emits attachment peripheral code ∧
    block = loopBlock peripheral code
  telemetry : ∀ block ∈ contribution.telemetry, ∃ code, Emits attachment peripheral code ∧
    block = telemetryBlock peripheral attachment.shortId code
  command : ∀ block ∈ contribution.command, ∃ code, Emits attachment peripheral code ∧
    block = commandBlock peripheral code

variable {attachment : Attachment} {peripheral : Peripheral}

/-- The blocks around the fragments of one kind, if each fragment of that kind is emitted. -/
theorem emits_of_mem_map {σ : Type} {sources : Option σ} {codes : Option String}
    {fill : σ → Except RenderError String} (around : String → String)
    (h : sources.mapM fill = .ok codes)
    (hfill : ∀ source ∈ sources, ∀ code, fill source = .ok code →
      Emits attachment peripheral code) :
    ∀ block ∈ codes.map around, ∃ code, Emits attachment peripheral code ∧ block = around code := by
  intro block hblock
  obtain ⟨code, hcode, rfl⟩ := Option.map_eq_some_iff.mp hblock
  obtain ⟨source, hsource, hfilled⟩ := Outcome.exists_of_mem_mapM_option h code hcode
  exact ⟨code, hfill source hsource code hfilled, rfl⟩

theorem rendered_of_ofAttachment {contribution : Contribution}
    (h : ofAttachment attachment peripheral = .ok contribution) :
    Rendered attachment peripheral contribution := by
  simp only [ofAttachment, Outcome.bind_eq_ok_iff, Outcome.mapError_eq_ok_iff] at h
  obtain ⟨constructor, hconstructor, setup, hsetup, loop, hloop, telemetry, htelemetry, command,
    hcommand, h⟩ := h
  obtain rfl := Except.ok.inj h
  have hemits (entry : Fragment × Template × Substitutions)
      (hentry : entry ∈ emitted attachment peripheral) (error : List String → RenderError)
      (code : String) (hcode : (entry.2.1.fill entry.2.2).mapError error = .ok code) :
      Emits attachment peripheral code :=
    ⟨entry, hentry, Outcome.mapError_eq_ok_iff.mp hcode⟩
  let values := slotValues attachment peripheral
  refine ⟨rfl, rfl, ?_, emits_of_mem_map _ hsetup ?_, emits_of_mem_map _ hloop ?_,
    emits_of_mem_map _ htelemetry ?_, emits_of_mem_map _ hcommand ?_⟩
  · exact ⟨(.constructor, .parse peripheral.constructor, values), by simp [emitted, values],
      hconstructor⟩
  · intro source hsource
    exact hemits (.setup, .parse source, values)
      (by simp [emitted, values, Option.mem_def.mp hsource]) _
  · intro source hsource
    exact hemits (.loop, .parse source, values)
      (by simp [emitted, values, Option.mem_def.mp hsource]) _
  · intro source hsource
    exact hemits (.telemetryRead, .parse source, values)
      (by simp [emitted, values, Option.mem_def.mp hsource]) _
  · intro body hbody
    exact hemits (.command, body.1, body.2) (by simp [emitted, Option.mem_def.mp hbody]) _

end Contribution

end SensorNode.Sketch
