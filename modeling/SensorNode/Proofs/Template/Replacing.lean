import SensorNode.Proofs.Template.Filling
import SensorNode.Proofs.Template.Scanning

/-!
# Rendering replaces slots

A template is filled in one pass: with every slot replaced by its value, or, if some have none, not
at all, and then the names without a value are told. For a source this is a relation between texts
that speaks of slots only: where a slot stands its value is written, any other character is copied,
and a value is not looked at again. A rendering that copies the slices between the tokens of a scan
comes to the same.
-/

namespace SensorNode.Template

/-- The names in a template that have no value, each where it first appears. -/
def missing (values : Substitutions) (template : Template) : List String :=
  template.names.filter fun name => (values.get? name).isNone

/-- What is written for a piece, nothing for a slot that has no value. -/
def Piece.written (values : Substitutions) : Piece → List Char
  | .char c => [c]
  | .slot name => ((values.get? name).getD "").toList

def written (values : Substitutions) (template : Template) : List Char :=
  template.flatMap (Piece.written values)

@[simp] theorem written_cons (values : Substitutions) (piece : Piece) (template : Template) :
    written values (piece :: template) = piece.written values ++ written values template := rfl

@[simp] theorem slots_slot_cons (name : String) (template : Template) :
    slots (.slot name :: template) = name :: slots template := rfl

theorem missing_eq_nil_iff {values : Substitutions} {template : Template} :
    missing values template = [] ↔ ∀ name ∈ template.slots, (values.get? name).isSome := by
  simp only [missing, List.filter_eq_nil_iff, mem_names, ← Option.not_isSome,
    Bool.not_eq_true', Bool.not_eq_false]

theorem missing_slot_cons (values : Substitutions) (name : String) (template : Template) :
    missing values (.slot name :: template) =
      match values.get? name with
      | some _ => missing values template
      | none => name :: (missing values template).filter fun other => other ≠ name := by
  have hnames : names (.slot name :: template) =
      name :: template.names.filter fun other => other ≠ name :=
    distinct_cons name template.slots
  rw [missing, hnames, List.filter_cons, List.filter_filter, missing, List.filter_filter]
  cases hvalue : values.get? name with
  | none => simp only [Option.isNone_none, if_true, Bool.and_comm]
  | some value =>
      refine List.filter_congr fun other _ => ?_
      -- a name without a value is another one
      by_cases hname : other = name
      · simp [hname, hvalue]
      · simp [hname]

/-- Filling writes the values, or tells which are missing. -/
theorem fillChars_eq (values : Substitutions) (template : Template) :
    fillChars values template =
      if missing values template = [] then .ok (written values template)
      else .error (missing values template) := by
  induction template with
  | nil => rfl
  | cons piece template ih =>
      cases piece with
      | char c =>
          have hmissing : missing values (.char c :: template) = missing values template := rfl
          rw [fillChars, ih, hmissing]
          split <;> rfl
      | slot name =>
          rw [fillChars, ih, missing_slot_cons, written_cons, Piece.written]
          cases values.get? name with
          | some value =>
              by_cases hrest : missing values template = []
              · simp only [hrest, if_true, Option.getD_some]
              · simp only [hrest, if_false]
          | none =>
              by_cases hrest : missing values template = []
              · simp [hrest]
              · simp [hrest]

theorem fill_eq (values : Substitutions) (template : Template) :
    template.fill values =
      if missing values template = [] then .ok (String.ofList (written values template))
      else .error (missing values template) := by
  rw [fill, fillChars_eq]
  split <;> rfl

theorem fill_eq_error_iff {values : Substitutions} {template : Template} {names : List String} :
    template.fill values = .error names ↔ names ≠ [] ∧ names = missing values template := by
  rw [fill_eq]
  split
  · next hnone => simp [hnone]
  · next hsome =>
    constructor
    · intro h
      obtain rfl := Except.error.inj h
      exact ⟨hsome, rfl⟩
    · rintro ⟨-, rfl⟩
      rfl

/-- The second text is the first with its slots replaced by their values. -/
inductive Replaced (values : Substitutions) : List Char → List Char → Prop where
  | nil : Replaced values [] []
  | char {c : Char} {cs text : List Char} (h : ¬ StartsWithSlot (c :: cs))
      (rest : Replaced values cs text) : Replaced values (c :: cs) (c :: text)
  | slot {name value : String} {cs text : List Char} (h : IsSlotName name.toList)
      (hvalue : values.get? name = some value) (rest : Replaced values cs text) :
      Replaced values ((slotText name).toList ++ cs) (value.toList ++ text)

/-- A reading replaces its slots when each has a value. -/
theorem Reads.replaced {values : Substitutions} {cs : List Char} {template : Template}
    (h : Reads cs template) (hvalues : ∀ name ∈ template.slots, (values.get? name).isSome) :
    Replaced values cs (written values template) := by
  induction h with
  | nil => exact .nil
  | char hstart _ ih => exact .char hstart (ih hvalues)
  | @slot name cs template hname _ ih =>
      obtain ⟨hfirst, hrest⟩ := List.forall_mem_cons.mp hvalues
      obtain ⟨value, hvalue⟩ := Option.isSome_iff_exists.mp hfirst
      have hwritten : written values (.slot (String.ofList name) :: template) =
          value.toList ++ written values template := by
        rw [written_cons, Piece.written, hvalue, Option.getD_some]
      have htext : opening ++ (name ++ (closing ++ cs)) =
          (slotText (String.ofList name)).toList ++ cs := by
        simp
      rw [hwritten, htext]
      exact .slot (by rwa [String.toList_ofList]) hvalue (ih hrest)

/-- The text of a source with its slots replaced is what its reading writes. -/
theorem Replaced.eq_written {values : Substitutions} {cs text : List Char}
    (h : Replaced values cs text) :
    (∀ name ∈ (parseAfter 0 cs).slots, (values.get? name).isSome) ∧
      text = written values (parseAfter 0 cs) := by
  induction h with
  | nil => exact ⟨by simp [parseAfter, slots], rfl⟩
  | char hstart _ ih =>
      rw [parseAfter_char hstart]
      exact ⟨ih.1, congrArg (_ :: ·) ih.2⟩
  | @slot name value cs text hname hvalue _ ih =>
      have htext : (slotText name).toList ++ cs =
          opening ++ (name.toList ++ (closing ++ cs)) := by
        simp
      rw [htext, parseAfter_slot hname, String.ofList_toList]
      refine ⟨List.forall_mem_cons.mpr ⟨by rw [hvalue]; rfl, ih.1⟩, ?_⟩
      rw [written_cons, Piece.written, hvalue, Option.getD_some, ih.2]

theorem render_eq_ok_iff {source : String} {values : Substitutions} {text : String} :
    render source values = .ok text ↔ Replaced values source.toList text.toList := by
  constructor
  · intro h
    have hslots := exists_fill_iff.mp ⟨text, h⟩
    rw [render, fill_eq, if_pos (missing_eq_nil_iff.mpr hslots)] at h
    obtain rfl := Except.ok.inj h
    rw [String.toList_ofList]
    exact (reads_parse source).replaced hslots
  · intro h
    obtain ⟨hslots, htext⟩ := h.eq_written
    have hnone : missing values (parse source) = [] := missing_eq_nil_iff.mpr hslots
    rw [render, fill_eq, if_pos hnone, parse, ← htext, String.ofList_toList]

theorem pass_eq_some {source between : List Char} {values : Substitutions} {progress : Progress}
    {token : Token} (h : slice? progress.cursor token.start source = some between) :
    progress.pass source values token =
      some
        { text := progress.text ++ (between ++ (Piece.slot token.name).written values)
          missing := if (values.get? token.name).isNone then insertNew progress.missing token.name
            else progress.missing
          cursor := token.stop } := by
  rw [Progress.pass, h, Piece.written]
  cases values.get? token.name <;> simp

/-- Passing over the tokens of a template copies what is between them. What is written is behind
what was read by `between`, the part of the source since the token before. -/
theorem exists_foldlM_pass (values : Substitutions) (template : Template)
    {source used between : List Char} (text : List Char) (names : List String)
    (hsource : source = used ++ (between ++ template.flatMap Piece.source)) :
    ∃ progress, (tokensFrom (byteLength (used ++ between)) template).foldlM
        (Progress.pass source values) ⟨text, names, byteLength used⟩ = some progress ∧
      progress.missing =
        (template.slots.filter fun name => (values.get? name).isNone).foldl insertNew names ∧
      ∃ rest, suffix? progress.cursor source = some rest ∧
        progress.text ++ rest = text ++ (between ++ written values template) := by
  induction template generalizing used between text names with
  | nil =>
      refine ⟨_, rfl, rfl, between, ?_, by simp [written]⟩
      rw [hsource, List.flatMap_nil, List.append_nil]
      exact suffix?_append used between
  | cons piece template ih =>
      cases piece with
      | char c =>
          have hmore : source = used ++ (between ++ [c] ++ template.flatMap Piece.source) := by
            rw [hsource, List.append_assoc between]
            rfl
          have hstart : byteLength (used ++ (between ++ [c])) =
              byteLength (used ++ between) + c.utf8Size := by
            rw [← List.append_assoc, byteLength_append]
            rfl
          obtain ⟨progress, hrun, hmissing, rest, hrest, htext⟩ :=
            ih text names hmore
          refine ⟨progress, ?_, hmissing, rest, hrest, ?_⟩
          · rw [tokensFrom, ← hstart, hrun]
          · rw [htext, List.append_assoc between]
            rfl
      | slot name =>
          let passed := used ++ (between ++ (slotText name).toList)
          have hslice : slice? (byteLength used) (byteLength (used ++ between)) source =
              some between := by
            rw [hsource]
            exact slice?_append used between _
          have hmore : source = passed ++ ([] ++ template.flatMap Piece.source) := by
            rw [hsource, List.append_assoc used, List.append_assoc between]
            rfl
          have hstop : byteLength passed =
              byteLength (used ++ between) + byteLength (slotText name).toList := by
            rw [← byteLength_append, List.append_assoc]
          obtain ⟨progress, hrun, hmissing, rest, hrest, htext⟩ :=
            ih (text ++ (between ++ (Piece.slot name).written values))
              (if (values.get? name).isNone then insertNew names name else names) hmore
          refine ⟨progress, ?_, ?_, rest, hrest, ?_⟩
          · rw [tokensFrom, List.foldlM_cons, pass_eq_some hslice]
            rw [List.append_nil, hstop] at hrun
            exact hrun
          · rw [hmissing, slots_slot_cons, List.filter_cons]
            split <;> rfl
          · rw [htext]
            simp

theorem Reads.flatMap_source {cs : List Char} {template : Template} (h : Reads cs template) :
    template.flatMap Piece.source = cs := by
  induction h with
  | nil => rfl
  | char _ _ ih => exact congrArg (_ :: ·) ih
  | slot _ _ ih =>
      rw [List.flatMap_cons, ih, Piece.source, toList_slotText, String.toList_ofList]
      simp only [List.append_assoc]

/-- No slice of a rendering fails, and what it comes to is what filling comes to. -/
theorem renderScanned_eq_some (source : String) (values : Substitutions) :
    renderScanned source values = some (render source values) := by
  have hsource : source.toList = [] ++ ([] ++ (parse source).flatMap Piece.source) :=
    (reads_parse source).flatMap_source.symm
  obtain ⟨progress, hrun, hmissing, rest, hrest, htext⟩ :=
    exists_foldlM_pass values (parse source) [] [] hsource
  have hnames : progress.missing = missing values (parse source) := by
    rw [hmissing, missing, names, ← distinct_filter]
    rfl
  have hpassed : (parse source).tokens.foldlM (Progress.pass source.toList values) ⟨[], [], 0⟩ =
      some progress := hrun
  simp only [renderScanned, scan_eq_some, hpassed, hrest, hnames, htext, Option.bind_eq_bind,
    Option.bind_some, render, fill_eq, List.isEmpty_iff, List.nil_append]
  split <;> rfl

/-- What rendering a source comes to. -/
structure RendersExactly (source : String) (values : Substitutions) : Prop where
  /-- There is a result exactly when each placeholder has a value. -/
  exists_ok_iff : (∃ text, render source values = .ok text) ↔
    ∀ name ∈ placeholders source, (values.get? name).isSome
  /-- It is the source with its slots replaced, and nothing else is. -/
  eq_ok_iff : ∀ text, render source values = .ok text ↔
    Replaced values source.toList text.toList
  /-- Otherwise the placeholders without a value are told. -/
  eq_error_iff : ∀ names, render source values = .error names ↔
    names ≠ [] ∧ names = (placeholders source).filter fun name => (values.get? name).isNone
  /-- Only the values of slots in the source count. -/
  congr : ∀ others : Substitutions,
    (∀ name : String, IsSlotName name.toList → (slotText name).toList <:+: source.toList →
      others.get? name = values.get? name) →
    render source others = render source values

/-- Rendering a source replaces its slots in one pass, with or without looking at the tokens of a
scan. -/
theorem renderScanned_and_rendersExactly (source : String) (values : Substitutions) :
    renderScanned source values = some (render source values) ∧ RendersExactly source values := by
  refine ⟨renderScanned_eq_some source values, ?_, fun _ => render_eq_ok_iff, ?_, ?_⟩
  · simp only [placeholders, mem_names]
    exact exists_fill_iff
  · exact fun _ => fill_eq_error_iff
  · intro others hothers
    have hslots : ∀ name ∈ (parse source).slots, others.get? name = values.get? name := by
      intro name hname
      obtain ⟨hslot, hstands⟩ :=
        ((listsNames_placeholders source).mem_iff name).mp (mem_names.mpr hname)
      exact hothers name hslot hstands
    rw [render, fill, fillChars_congr hslots]
    rfl

/-- A value that looks like a slot is written as it is. -/
example : (render (slotText "A" ++ "\x7b" ++ slotText "B")
    (.ofList [("A", slotText "B"), ("B", "b")])).toOption =
      some (slotText "B" ++ "\x7b" ++ "b") := by
  decide +kernel

end SensorNode.Template
