import SensorNode.Proofs.Template.Filling
import SensorNode.Text.Blank
import SensorNode.Text.Lines

/-!
# Texts without slots

Whether a slot stands anywhere in a text can be told part by part if the parts are kept apart by
separators: characters that occur in no slot, such as white space and quotes. So a text of lines has
no slots just if none of its lines has one.
-/

namespace SensorNode

/-- The first part of a text, and what comes after the separator if there is one. -/
theorem Text.split_eq_cons {separator : Char} {cs part : List Char} {parts : List (List Char)}
    (h : split separator cs = part :: parts) :
    parts = [] ∧ cs = part ∨
      ∃ rest, cs = part ++ separator :: rest ∧ split separator rest = parts := by
  induction cs generalizing part with
  | nil =>
      obtain ⟨rfl, rfl⟩ := List.cons.inj h
      exact .inl ⟨rfl, rfl⟩
  | cons c cs ih =>
      rw [split] at h
      split at h
      · next hc =>
        obtain ⟨rfl, rfl⟩ := List.cons.inj h
        exact .inr ⟨cs, by simp [hc], rfl⟩
      · split at h
        · next hnil => exact absurd hnil (split_ne_nil separator cs)
        · next first rest hsplit =>
          obtain ⟨rfl, rfl⟩ := List.cons.inj h
          rcases ih hsplit with ⟨hparts, rfl⟩ | ⟨after, rfl, hafter⟩
          · exact .inl ⟨hparts, rfl⟩
          · exact .inr ⟨after, rfl, hafter⟩

namespace Template

/-- No slot starts anywhere in a text. -/
def SlotFree : List Char → Prop
  | [] => True
  | c :: cs => slotName? (c :: cs) = none ∧ SlotFree cs

@[simp] theorem slotFree_nil : SlotFree [] := trivial

theorem slotFree_cons {c : Char} {cs : List Char} :
    SlotFree (c :: cs) ↔ slotName? (c :: cs) = none ∧ SlotFree cs := .rfl

instance decidableSlotFree : DecidablePred SlotFree
  | [] => isTrue trivial
  | _ :: cs => @instDecidableAnd _ _ _ (decidableSlotFree cs)

-- or else checking an application unfolds the texts that a sketch is made of
attribute [irreducible] SlotFree

theorem slots_parseAfter_eq_nil_iff {cs : List Char} :
    (parseAfter 0 cs).slots = [] ↔ SlotFree cs := by
  induction cs with
  | nil => simp [parseAfter, slots]
  | cons c cs ih =>
      rw [parseAfter, slotFree_cons]
      cases hname : slotName? (c :: cs) with
      | none => simpa [slots, Piece.name?] using ih
      | some name => simp [slots, Piece.name?]

theorem placeholders_eq_nil_iff {s : String} : placeholders s = [] ↔ SlotFree s.toList := by
  rw [placeholders, names_eq_nil_iff, parse, slots_parseAfter_eq_nil_iff]

/-- The rest of a slot: what is left of its name and the closing braces. -/
def Closes (cs : List Char) : Prop :=
  ∃ rest, cs.dropWhile isNameChar = '\x7d' :: '\x7d' :: rest

theorem closes_cons_of_isNameChar {c : Char} {cs : List Char} (h : isNameChar c = true) :
    Closes (c :: cs) ↔ Closes cs := by
  rw [Closes, List.dropWhile_cons_of_pos h, Closes]

theorem closes_cons_of_not {c : Char} {cs : List Char} (h : isNameChar c = false) :
    Closes (c :: cs) ↔ ∃ rest, c :: cs = '\x7d' :: '\x7d' :: rest := by
  rw [Closes, List.dropWhile_cons_of_neg (by simp [h])]

theorem isUpper_iff {c : Char} : c.isUpper = true ↔ 65 ≤ c.toNat ∧ c.toNat ≤ 90 := by
  have hupper : c.isUpper = decide (c.val ≥ 'A'.val ∧ c.val ≤ 'Z'.val) := rfl
  rw [hupper, decide_eq_true_eq]
  simp only [ge_iff_le, UInt32.le_iff_toNat_le]
  rfl

theorem isNameChar_iff {c : Char} :
    isNameChar c = true ↔
      65 ≤ c.toNat ∧ c.toNat ≤ 90 ∨ 48 ≤ c.toNat ∧ c.toNat ≤ 57 ∨ c.toNat = 95 := by
  have hunderscore : c = '_' ↔ c.toNat = 95 := Char.toNat_inj.symm
  simp only [isNameChar, isUpper_iff, Char.isDigit, Bool.or_eq_true, Bool.and_eq_true,
    decide_eq_true_eq, hunderscore, ge_iff_le, UInt32.le_iff_toNat_le, or_assoc]
  rfl

theorem isNameChar_of_isUpper {c : Char} (h : c.isUpper = true) : isNameChar c = true := by
  simp [isNameChar, h]

/-- A slot starts with two braces and a letter. -/
theorem isSome_slotName?_iff {cs : List Char} :
    (slotName? cs).isSome ↔
      ∃ d rest, cs = '\x7b' :: '\x7b' :: d :: rest ∧ d.isUpper = true ∧ Closes rest := by
  constructor
  · intro h
    unfold slotName? at h
    split at h
    · next cs =>
      cases cs with
      | nil => simp at h
      | cons d rest =>
          dsimp only at h
          split at h
          · next after hafter =>
            by_cases hd : isNameChar d = true
            · rw [List.dropWhile_cons_of_pos hd] at hafter
              cases hupper : d.isUpper with
              | true => exact ⟨d, rest, rfl, hupper, after, hafter⟩
              | false => simp [List.takeWhile_cons_of_pos hd, isName, hupper] at h
            · rw [List.takeWhile_cons_of_neg hd] at h
              simp [isName] at h
          · simp at h
    · simp at h
  · rintro ⟨d, rest, rfl, hd, after, hafter⟩
    have hname := isNameChar_of_isUpper hd
    simp only [slotName?, List.dropWhile_cons_of_pos hname, hafter,
      List.takeWhile_cons_of_pos hname]
    have hall : (rest.takeWhile isNameChar).all isNameChar = true := List.all_takeWhile
    simp [isName, hd, hall]

theorem slotFree_cons_of_ne {c : Char} {cs : List Char} (h : c ≠ '\x7b') :
    SlotFree (c :: cs) ↔ SlotFree cs := by
  rw [slotFree_cons]
  refine and_iff_right (Option.not_isSome_iff_eq_none.mp fun hsome => ?_)
  obtain ⟨d, rest, heq, -, -⟩ := isSome_slotName?_iff.mp hsome
  exact h (List.cons.inj heq).1

/-- A text that no opening brace stands in has no part in a slot after it. -/
theorem slotFree_append_of_notMem {a b : List Char} (h : '\x7b' ∉ a) :
    SlotFree (a ++ b) ↔ SlotFree b := by
  induction a with
  | nil => rfl
  | cons c a ih =>
      obtain ⟨hc, ha⟩ := not_or.mp (mt List.mem_cons.mpr h)
      rw [List.cons_append, slotFree_cons_of_ne (Ne.symm hc), ih ha]

theorem slotFree_of_notMem {cs : List Char} (h : '\x7b' ∉ cs) : SlotFree cs := by
  have happend := (slotFree_append_of_notMem (b := []) h).mpr slotFree_nil
  rwa [List.append_nil] at happend

theorem closes_append_of_closes {a : List Char} (b : List Char) (h : Closes a) :
    Closes (a ++ b) := by
  induction a with
  | nil => obtain ⟨_, h⟩ := h; simp at h
  | cons c a ih =>
      rw [List.cons_append]
      cases hc : isNameChar c with
      | true =>
          rw [closes_cons_of_isNameChar hc] at h ⊢
          exact ih h
      | false =>
          obtain ⟨rest, heq⟩ := (closes_cons_of_not hc).mp h
          refine (closes_cons_of_not hc).mpr ⟨rest ++ b, ?_⟩
          rw [← List.cons_append, heq]
          rfl

/-- A text has no slots if a longer one has none. -/
theorem SlotFree.of_append {a b : List Char} (h : SlotFree (a ++ b)) : SlotFree a ∧ SlotFree b := by
  induction a with
  | nil => exact ⟨slotFree_nil, h⟩
  | cons c a ih =>
      obtain ⟨hnone, hrest⟩ := slotFree_cons.mp h
      obtain ⟨ha, hb⟩ := ih hrest
      refine ⟨slotFree_cons.mpr ⟨Option.not_isSome_iff_eq_none.mp fun hsome => ?_, ha⟩, hb⟩
      obtain ⟨d, rest, heq, hd, hcloses⟩ := isSome_slotName?_iff.mp hsome
      have hlonger : (slotName? (c :: (a ++ b))).isSome :=
        isSome_slotName?_iff.mpr
          ⟨d, rest ++ b, congrArg (· ++ b) heq, hd, closes_append_of_closes b hcloses⟩
      exact absurd hlonger (Option.not_isSome_iff_eq_none.mpr hnone)

/-- Neither a brace nor part of a name. -/
def isSeparator (c : Char) : Bool := !isNameChar c && c ≠ '\x7b' && c ≠ '\x7d'

theorem isSeparator_iff {c : Char} :
    isSeparator c = true ↔ isNameChar c = false ∧ c ≠ '\x7b' ∧ c ≠ '\x7d' := by
  simp [isSeparator, and_assoc]

theorem isSeparator_of_control {c : Char} (h : c.toNat < 32 ∨ c.toNat = 127) :
    isSeparator c = true := by
  rw [isSeparator_iff, ← Bool.not_eq_true, isNameChar_iff]
  refine ⟨by omega, ?_, ?_⟩
  · rintro rfl
    exact absurd h (by decide)
  · rintro rfl
    exact absurd h (by decide)

section

variable {c : Char} {a b : List Char}

theorem closes_append_separator (hc : isSeparator c = true) :
    Closes (a ++ c :: b) ↔ Closes a := by
  obtain ⟨hname, -, hclose⟩ := isSeparator_iff.mp hc
  induction a with
  | nil =>
      rw [List.nil_append, closes_cons_of_not hname]
      simp [Closes, hclose]
  | cons x a ih =>
      rw [List.cons_append]
      cases hx : isNameChar x with
      | true => rw [closes_cons_of_isNameChar hx, closes_cons_of_isNameChar hx, ih]
      | false =>
          rw [closes_cons_of_not hx, closes_cons_of_not hx]
          cases a with
          | nil => simp [hclose]
          | cons y a => simp

/-- A slot before a separator ends before it. -/
theorem isSome_slotName?_append_separator (hc : isSeparator c = true) :
    (slotName? (a ++ c :: b)).isSome ↔ (slotName? a).isSome := by
  obtain ⟨hname, hopen, -⟩ := isSeparator_iff.mp hc
  have hupper : c.isUpper = false := by
    cases h : c.isUpper with
    | true => simp [isNameChar_of_isUpper h] at hname
    | false => rfl
  simp only [isSome_slotName?_iff]
  constructor
  · rintro ⟨d, rest, heq, hd, hcloses⟩
    match a, heq with
    | [], heq => exact absurd (List.cons.inj heq).1 hopen
    | [_], heq => exact absurd (List.cons.inj (List.cons.inj heq).2).1 hopen
    | [_, _], heq =>
        obtain rfl := (List.cons.inj (List.cons.inj (List.cons.inj heq).2).2).1
        simp [hupper] at hd
    | x :: y :: z :: a, heq =>
        obtain ⟨rfl, rfl, rfl, rfl⟩ : x = '\x7b' ∧ y = '\x7b' ∧ z = d ∧ a ++ c :: b = rest := by
          simpa using heq
        exact ⟨z, a, rfl, hd, (closes_append_separator hc).mp hcloses⟩
  · rintro ⟨d, rest, rfl, hd, hcloses⟩
    exact ⟨d, rest ++ c :: b, rfl, hd, (closes_append_separator hc).mpr hcloses⟩

/-- Parts with a separator between them have a slot just if one of them has. -/
theorem slotFree_append_separator (hc : isSeparator c = true) :
    SlotFree (a ++ c :: b) ↔ SlotFree a ∧ SlotFree b := by
  induction a with
  | nil =>
      obtain ⟨-, hopen, -⟩ := isSeparator_iff.mp hc
      rw [List.nil_append, slotFree_cons_of_ne hopen]
      exact (and_iff_right slotFree_nil).symm
  | cons x a ih =>
      have hstart := not_congr (isSome_slotName?_append_separator (a := x :: a) (b := b) hc)
      rw [Option.not_isSome_iff_eq_none, Option.not_isSome_iff_eq_none] at hstart
      rw [List.cons_append, slotFree_cons, slotFree_cons, ih, and_assoc]
      exact and_congr_left' hstart

/-- So it is when the first part ends in a separator. -/
theorem slotFree_append_of_getLast (ha : ∀ c ∈ a.getLast?, isSeparator c = true) :
    SlotFree (a ++ b) ↔ SlotFree a ∧ SlotFree b := by
  cases hlast : a.getLast? with
  | none =>
      obtain rfl := List.getLast?_eq_none_iff.mp hlast
      exact (and_iff_right slotFree_nil).symm
  | some c =>
      have hc : isSeparator c = true := ha c (by rw [hlast]; exact rfl)
      obtain ⟨front, rfl⟩ := List.getLast?_eq_some_iff.mp hlast
      rw [List.append_assoc, List.singleton_append, slotFree_append_separator hc,
        slotFree_append_separator hc]
      exact and_congr_left' (and_iff_left slotFree_nil).symm

/-- So it is when the second part starts with a separator. -/
theorem slotFree_append_of_head (hb : ∀ c ∈ b.head?, isSeparator c = true) :
    SlotFree (a ++ b) ↔ SlotFree a ∧ SlotFree b := by
  cases b with
  | nil => simp
  | cons c b =>
      have hc : isSeparator c = true := hb c rfl
      rw [slotFree_append_separator hc, slotFree_cons_of_ne (isSeparator_iff.mp hc).2.1]

end

/-- The text of lines has no slots just if no line has one. -/
theorem slotFree_join_iff {parts : List String} :
    SlotFree (Text.join "\n" parts).toList ↔ ∀ part ∈ parts, SlotFree part.toList := by
  induction parts with
  | nil => simp
  | cons part rest ih =>
      cases rest with
      | nil => simp
      | cons next rest =>
          have htext : (Text.join "\n" (part :: next :: rest)).toList =
              part.toList ++ '\n' :: (Text.join "\n" (next :: rest)).toList := by
            simp [Text.join_cons_cons]
          rw [htext, slotFree_append_separator (by decide), ih, List.forall_mem_cons (a := part)]

theorem slotFree_iff_split {cs : List Char} :
    SlotFree cs ↔ ∀ part ∈ Text.split '\n' cs, SlotFree part := by
  generalize hparts : Text.split '\n' cs = parts
  induction parts generalizing cs with
  | nil => exact absurd hparts (Text.split_ne_nil _ _)
  | cons part parts ih =>
      rw [List.forall_mem_cons]
      rcases Text.split_eq_cons hparts with ⟨rfl, rfl⟩ | ⟨rest, rfl, hrest⟩
      · simp
      · rw [slotFree_append_separator (by decide), ih hrest]

theorem slotFree_dropReturn {line : List Char} :
    SlotFree (Text.dropReturn line) ↔ SlotFree line := by
  rw [Text.dropReturn]
  split
  · next hlast =>
    obtain ⟨front, rfl⟩ := List.getLast?_eq_some_iff.mp hlast
    rw [List.dropLast_concat, slotFree_append_separator (by decide)]
    exact (and_iff_left slotFree_nil).symm
  · rfl

theorem slotFree_iff_lines {cs : List Char} :
    SlotFree cs ↔ ∀ line ∈ Text.lines cs, SlotFree line := by
  obtain ⟨front, last, hparts⟩ : ∃ front last, Text.split '\n' cs = front ++ [last] :=
    ⟨_, _, (List.dropLast_concat_getLast (Text.split_ne_nil '\n' cs)).symm⟩
  have hlast : SlotFree last ↔
      ∀ line ∈ (some last).toList.filter fun last => !last.isEmpty, SlotFree line := by
    cases last <;> simp
  rw [slotFree_iff_split, Text.lines, hparts, List.dropLast_concat, List.getLast?_concat,
    List.forall_mem_append, List.forall_mem_append, List.forall_mem_singleton, hlast,
    List.forall_mem_map]
  simp only [slotFree_dropReturn]

/-- Moving lines to the right neither makes a slot nor breaks one. -/
theorem slotFree_indent_iff {width : Nat} {s : String} :
    SlotFree (Text.indent width s).toList ↔ SlotFree s.toList := by
  rw [Text.indent, slotFree_join_iff, List.forall_mem_map, slotFree_iff_lines]
  refine forall₂_congr fun line _ => ?_
  have hspaces : '\x7b' ∉ List.replicate width ' ' := by
    intro h
    exact absurd (List.eq_of_mem_replicate h) (by decide)
  split
  · next hempty => simp [List.isEmpty_iff.mp hempty]
  · rw [String.toList_ofList, slotFree_append_of_notMem hspaces]

theorem SlotFree.trim {s : String} (h : SlotFree s.toList) : SlotFree (Text.trim s).toList := by
  rw [Text.toList_trim, Text.trimChars]
  have hfront : SlotFree (s.toList.dropWhile Text.isSpace) := by
    have hs := h
    rw [← List.takeWhile_append_dropWhile (p := Text.isSpace) (l := s.toList)] at hs
    exact hs.of_append.2
  generalize s.toList.dropWhile Text.isSpace = cs at hfront
  have hcs : cs = (cs.reverse.dropWhile Text.isSpace).reverse ++
      (cs.reverse.takeWhile Text.isSpace).reverse := by
    rw [← List.reverse_append, List.takeWhile_append_dropWhile, List.reverse_reverse]
  rw [hcs] at hfront
  exact hfront.of_append.1

end Template

end SensorNode
