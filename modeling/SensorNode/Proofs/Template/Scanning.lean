import SensorNode.Proofs.Template.Occurrences

/-!
# Scans find all slots

A scan keeps its cursor on the first byte of a character, so none of its slices fails. What it
passes over holds no slot: nothing before the first opening braces can start one, and if what
stands up to the next closing braces is no name, then no slot starts at these opening braces. So
from every cursor on a scan finds what `parse` cuts out of the rest of the source.
-/

namespace SensorNode.Template

theorem cutAt?_append (front rest : List Char) :
    cutAt? (byteLength front) (front ++ rest) = some (front, rest) := by
  induction front with
  | nil => cases rest <;> rfl
  | cons c front ih =>
      obtain ⟨byte, hbyte⟩ : ∃ byte, c.utf8Size + byteLength front = byte + 1 :=
        Nat.exists_eq_succ_of_ne_zero (by have := c.utf8Size_pos; omega)
      have hrest : byte + 1 - c.utf8Size = byteLength front := by omega
      rw [byteLength_cons, hbyte, List.cons_append, cutAt?, if_pos (by omega), hrest, ih]
      rfl

theorem suffix?_append (front rest : List Char) :
    suffix? (byteLength front) (front ++ rest) = some rest := by
  rw [suffix?, cutAt?_append]
  rfl

theorem slice?_append (front part rest : List Char) :
    slice? (byteLength front) (byteLength (front ++ part)) (front ++ (part ++ rest)) =
      some part := by
  have hcut : cutAt? (byteLength (front ++ part)) (front ++ (part ++ rest)) =
      some (front ++ part, rest) := by
    rw [← List.append_assoc]
    exact cutAt?_append (front ++ part) rest
  rw [slice?, hcut]
  exact suffix?_append front part

theorem ne_of_firstByte?_eq_none {mark cs : List Char} (hmark : mark ≠ [])
    (h : firstByte? mark cs = none) (front rest : List Char) : cs ≠ front ++ (mark ++ rest) := by
  induction cs generalizing front with
  | nil => simp [hmark]
  | cons c cs ih =>
      rw [firstByte?] at h
      split at h
      · simp at h
      · next hprefix =>
        rintro heq
        cases front with
        | nil =>
            rw [List.isPrefixOf_iff_prefix] at hprefix
            exact hprefix ⟨rest, heq.symm⟩
        | cons d front =>
            exact ih (Option.map_eq_none_iff.mp h) front (List.cons.inj heq).2

/-- The mark stands behind the first part and nowhere before. -/
def StandsFirst (mark before behind : List Char) : Prop :=
  ∀ front rest, before ++ (mark ++ behind) = front ++ (mark ++ rest) → before <+: front

/-- At the byte that is found the mark stands first. -/
theorem exists_of_firstByte? {mark cs : List Char} {byte : Nat}
    (h : firstByte? mark cs = some byte) :
    ∃ front rest, cs = front ++ (mark ++ rest) ∧ byteLength front = byte ∧
      StandsFirst mark front rest := by
  induction cs generalizing byte with
  | nil => simp [firstByte?] at h
  | cons c cs ih =>
      rw [firstByte?] at h
      split at h
      · next hprefix =>
        obtain ⟨rest, hrest⟩ := List.isPrefixOf_iff_prefix.mp hprefix
        obtain rfl := Option.some.inj h
        exact ⟨[], rest, hrest.symm, rfl, fun _ _ _ => List.nil_prefix⟩
      · next hprefix =>
        obtain ⟨later, hlater, rfl⟩ := Option.map_eq_some_iff.mp h
        obtain ⟨front, rest, rfl, rfl, hfirst⟩ := ih hlater
        refine ⟨c :: front, rest, rfl, byteLength_cons c front, ?_⟩
        intro front' rest' heq
        cases front' with
        | nil =>
            rw [List.isPrefixOf_iff_prefix] at hprefix
            exact absurd ⟨rest', heq.symm⟩ hprefix
        | cons d front' =>
            obtain ⟨rfl, htail⟩ := List.cons.inj heq
            exact List.cons_prefix_cons.mpr ⟨rfl, hfirst front' rest' htail⟩

/-- Each slot of the whole text stands behind its first part. -/
def Passable (passed later : List Char) : Prop :=
  ∀ front rest, StartsWithSlot rest → passed ++ later = front ++ rest → passed <+: front

theorem tokensFrom_of_passable {passed later : List Char} (h : Passable passed later)
    (start : Nat) :
    tokensFrom start (parseAfter 0 (passed ++ later)) =
      tokensFrom (start + byteLength passed) (parseAfter 0 later) := by
  induction passed generalizing start with
  | nil => rfl
  | cons c passed ih =>
      have hstart : ¬ StartsWithSlot (c :: (passed ++ later)) := by
        intro hslot
        have hprefix : c :: passed <+: [] := h [] _ hslot rfl
        exact absurd (List.prefix_nil.mp hprefix) (List.cons_ne_nil c passed)
      have hrest : Passable passed later := by
        intro front rest hslot hcut
        have hprefix : c :: passed <+: c :: front :=
          h (c :: front) rest hslot (congrArg (c :: ·) hcut)
        exact (List.cons_prefix_cons.mp hprefix).2
      rw [List.cons_append, parseAfter_char hstart, tokensFrom, ih hrest, byteLength_cons,
        Nat.add_assoc]

section

variable {before inside : List Char}

/-- Nothing before the first opening braces starts a slot. -/
theorem passable_of_first (hfirst : StandsFirst opening before inside) :
    Passable before (opening ++ inside) := by
  rintro front _ ⟨name, rest, -, rfl⟩ hcut
  exact hfirst front _ hcut

/-- A slot starts at the first opening braces or later, and closes behind them. -/
theorem exists_of_slot (hfirst : StandsFirst opening before inside)
    {front name rest : List Char}
    (hcut : before ++ (opening ++ inside) = front ++ (opening ++ (name ++ (closing ++ rest)))) :
    inside = name ++ (closing ++ rest) ∨
      before ++ ['\x7b'] <+: front ∧ ∃ middle, inside = middle ++ (closing ++ rest) := by
  obtain ⟨more, rfl⟩ := hfirst front _ hcut
  rw [List.append_assoc, List.append_cancel_left_eq] at hcut
  cases more with
  | nil => exact .inl (List.append_cancel_left hcut)
  | cons c more =>
      right
      obtain ⟨rfl, htail⟩ := List.cons.inj hcut
      refine ⟨⟨more, by simp⟩, ?_⟩
      cases more with
      | nil => exact ⟨'\x7b' :: name, (List.cons.inj htail).2⟩
      | cons d more =>
          refine ⟨more ++ (opening ++ name), ?_⟩
          rw [List.append_assoc, List.append_assoc]
          exact (List.cons.inj htail).2

/-- Without closing braces behind the first opening ones there is no slot at all. -/
theorem passable_of_unclosed (hfirst : StandsFirst opening before inside)
    (hunclosed : ∀ front rest, inside ≠ front ++ (closing ++ rest)) :
    Passable (before ++ (opening ++ inside)) [] := by
  rintro front _ ⟨name, rest, hname, rfl⟩ hcut
  rw [List.append_nil] at hcut
  rcases exists_of_slot hfirst hcut with hinside | ⟨-, middle, hinside⟩
  · exact absurd hinside (hunclosed name rest)
  · exact absurd hinside (hunclosed middle rest)

/-- If what stands between the first braces is no name, no slot starts at the opening ones. -/
theorem passable_of_not_isSlotName {name rest : List Char} (hname : ¬ IsSlotName name)
    (hfirst : StandsFirst opening before (name ++ (closing ++ rest)))
    (hclosed : StandsFirst closing name rest) :
    Passable (before ++ ['\x7b']) ('\x7b' :: (name ++ (closing ++ rest))) := by
  rintro front _ ⟨name', rest', hname', rfl⟩ hcut
  have hbraces : before ++ ['\x7b'] ++ '\x7b' :: (name ++ (closing ++ rest)) =
      before ++ (opening ++ (name ++ (closing ++ rest))) := by
    simp [opening]
  rw [hbraces] at hcut
  rcases exists_of_slot hfirst hcut with hinside | ⟨hbefore, -⟩
  · obtain ⟨more, rfl⟩ := hclosed name' rest' hinside
    cases more with
    | nil => exact absurd (List.append_nil name ▸ hname') hname
    | cons c more =>
        -- the name would hold the first closing brace
        rw [List.append_assoc, List.append_cancel_left_eq] at hinside
        obtain ⟨rfl, -⟩ := List.cons.inj hinside
        have hbrace := hname'.isNameChar _ (List.mem_append_right name List.mem_cons_self)
        exact absurd hbrace (by decide)
  · exact hbefore

end

/-- A step from the boundary of two parts of a source passes over what holds no slot. -/
inductive StepsTo (front rest : List Char) : Step → Prop where
  | ended (h : Passable rest []) : StepsTo front rest .ended
  | retry {passed later : List Char} (hrest : rest = passed ++ later) (hpassed : passed ≠ [])
      (h : Passable passed later) :
      StepsTo front rest (.retry (byteLength (front ++ passed)))
  | found {passed name later : List Char} (hname : IsSlotName name)
      (hrest : rest = passed ++ (opening ++ (name ++ (closing ++ later))))
      (h : Passable passed (opening ++ (name ++ (closing ++ later)))) :
      StepsTo front rest (.found
        { start := byteLength (front ++ passed)
          stop := byteLength (front ++ passed ++ (opening ++ (name ++ closing)))
          name := String.ofList name })

/-- From a boundary every slice of a step exists. -/
theorem exists_step (front rest : List Char) :
    ∃ result, step (front ++ rest) (byteLength front) = some result ∧
      StepsTo front rest result := by
  simp only [step, suffix?_append, Option.bind_eq_bind, Option.bind_some]
  cases hopen : firstByte? opening rest with
  | none =>
      refine ⟨.ended, rfl, .ended ?_⟩
      rintro before _ ⟨name, later, -, rfl⟩ hcut
      rw [List.append_nil] at hcut
      exact absurd hcut (ne_of_firstByte?_eq_none (by decide) hopen before _)
  | some offset =>
      obtain ⟨before, inside, rfl, rfl, hfirst⟩ := exists_of_firstByte? hopen
      have hinside : suffix? (byteLength front + byteLength before + byteLength opening)
          (front ++ (before ++ (opening ++ inside))) = some inside := by
        rw [← byteLength_append, ← byteLength_append, ← List.append_assoc front,
          ← List.append_assoc (front ++ before)]
        exact suffix?_append _ inside
      dsimp only
      rw [hinside, Option.bind_some]
      cases hclose : firstByte? closing inside with
      | none =>
          exact ⟨.ended, rfl,
            .ended (passable_of_unclosed hfirst (ne_of_firstByte?_eq_none (by decide) hclose))⟩
      | some length =>
          obtain ⟨name, later, rfl, rfl, hclosed⟩ := exists_of_firstByte? hclose
          have hname : slice? (byteLength front + byteLength before + byteLength opening)
              (byteLength front + byteLength before + byteLength opening + byteLength name)
              (front ++ (before ++ (opening ++ (name ++ (closing ++ later))))) = some name := by
            have hslice := slice?_append (front ++ (before ++ opening)) name (closing ++ later)
            simpa only [byteLength_append, List.append_assoc, Nat.add_assoc] using hslice
          dsimp only
          rw [hname, Option.bind_some]
          refine ⟨_, rfl, ?_⟩
          by_cases hslot : IsSlotName name
          · rw [if_pos (isName_iff.mpr hslot)]
            have hfound : StepsTo front (before ++ (opening ++ (name ++ (closing ++ later)))) _ :=
              .found hslot rfl (passable_of_first hfirst)
            simpa only [byteLength_append, Nat.add_assoc] using hfound
          · rw [if_neg (mt isName_iff.mp hslot)]
            have hretry : StepsTo front (before ++ (opening ++ (name ++ (closing ++ later))))
                (.retry (byteLength (front ++ (before ++ ['\x7b'])))) :=
              .retry (by simp [opening]) (by simp)
                (passable_of_not_isSlotName hslot hfirst hclosed)
            have hbrace : byteLength ['\x7b'] = 1 := rfl
            simpa only [byteLength_append, hbrace, Nat.add_assoc] using hretry

section

variable {source : List Char} {cursor : Nat}

theorem scanFrom_of_ended (h : step source cursor = some .ended) :
    scanFrom source cursor = some [] := by
  rw [scanFrom]
  split <;> simp_all

theorem scanFrom_of_retry {next : Nat} (h : step source cursor = some (.retry next)) :
    scanFrom source cursor = scanFrom source next := by
  rw [scanFrom]
  split <;> simp_all

theorem scanFrom_of_found {token : Token} (h : step source cursor = some (.found token)) :
    scanFrom source cursor = (scanFrom source token.stop).map (token :: ·) := by
  rw [scanFrom]
  split <;> simp_all

end

/-- From a boundary on, a scan finds the slots that the rest of the source is cut into. -/
theorem scanFrom_append (front rest : List Char) :
    scanFrom (front ++ rest) (byteLength front) =
      some (tokensFrom (byteLength front) (parseAfter 0 rest)) := by
  induction hlength : rest.length using Nat.strongRecOn generalizing front rest with
  | _ length ih =>
    obtain ⟨result, hstep, hsteps⟩ := exists_step front rest
    cases hsteps with
    | ended hpassable =>
        have htokens := tokensFrom_of_passable hpassable (byteLength front)
        rw [List.append_nil] at htokens
        rw [scanFrom_of_ended hstep, htokens]
        rfl
    | @retry passed later hrest hpassed hpassable =>
        subst hrest
        have hshorter : later.length < length := by
          rw [← hlength, List.length_append]
          exact Nat.lt_add_of_pos_left (List.length_pos_iff.mpr hpassed)
        rw [scanFrom_of_retry hstep, ← List.append_assoc, ih later.length hshorter _ later rfl,
          tokensFrom_of_passable hpassable, byteLength_append]
    | @found passed name later hname hrest hpassable =>
        subst hrest
        have hshorter : later.length < length := by
          simp only [← hlength, List.length_append, opening, List.length_cons]
          omega
        have hsource : front ++ (passed ++ (opening ++ (name ++ (closing ++ later)))) =
            front ++ passed ++ (opening ++ (name ++ closing)) ++ later := by
          simp only [List.append_assoc]
        rw [scanFrom_of_found hstep, hsource, ih later.length hshorter _ later rfl,
          tokensFrom_of_passable hpassable, parseAfter_slot hname, tokensFrom, toList_slotText,
          String.toList_ofList]
        simp only [byteLength_append, Option.map_some, Nat.add_assoc]

/-- No slice of a scan fails, and what it finds are the slots that the source is cut into. -/
theorem scan_eq_some (source : String) : scan source = some (parse source).tokens :=
  scanFrom_append [] source.toList

/-- A scan of any source ends with all its slots and nothing else, from left to right and none
overlapping another, and they are those that the source is cut into. So the placeholders of the
source are their names, each once and where it first appears. -/
theorem exists_scan_listsSlots (source : String) :
    ∃ tokens, scan source = some tokens ∧ (parse source).tokens = tokens ∧
      ListsSlots source.toList tokens ∧ ListsNames source.toList (placeholders source) :=
  ⟨_, scan_eq_some source, rfl, listsSlots_parse source, listsNames_placeholders source⟩

end SensorNode.Template
