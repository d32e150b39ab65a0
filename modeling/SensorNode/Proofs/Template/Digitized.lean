import SensorNode.Proofs.Template.SlotFree

/-!
# Digits for values

A slot that a filled template holds may be put together from the text around a slot and its value,
so which values are filled in matters. Decimal digits are the worst that a short id or a number can
be: they may stand anywhere in a name but at its start, and any other digit or letter in lower case
only breaks one. So a template that is slot-free when it is filled with them is so with all others.
-/

namespace SensorNode.Template

/-- Neither a brace nor a letter that a name starts with. -/
def Inert (c : Char) : Prop := c ≠ '\x7b' ∧ c ≠ '\x7d' ∧ c.isUpper = false

instance : DecidablePred Inert := fun _ => inferInstanceAs (Decidable (_ ∧ _ ∧ _))

theorem inert_of_isDigit {c : Char} (h : c.isDigit = true) : Inert c := by
  refine ⟨?_, ?_, ?_⟩
  · rintro rfl
    exact absurd h (by decide)
  · rintro rfl
    exact absurd h (by decide)
  · rw [← Bool.not_eq_true, isUpper_iff]
    simp only [Char.isDigit, Bool.and_eq_true, decide_eq_true_eq, ge_iff_le,
      UInt32.le_iff_toNat_le] at h
    have hnine : c.toNat ≤ 57 := h.2
    omega

/-- An inert character closes no slot. -/
theorem Inert.closes_of_cons {c : Char} {cs : List Char} (hc : Inert c) (h : Closes (c :: cs)) :
    Closes cs := by
  cases hname : isNameChar c with
  | true => exact (closes_cons_of_isNameChar hname).mp h
  | false =>
      obtain ⟨after, heq⟩ := (closes_cons_of_not hname).mp h
      exact absurd (List.cons.inj heq).1 hc.2.1

/-- The second text is the first with decimal digits for some of its inert characters, and others
left out. -/
inductive Digitized : List Char → List Char → Prop where
  | nil : Digitized [] []
  | keep {a b : List Char} (c : Char) (rest : Digitized a b) : Digitized (c :: a) (c :: b)
  | digit {a b : List Char} {c d : Char} (hc : Inert c) (hd : d.isDigit = true)
      (rest : Digitized a b) : Digitized (c :: a) (d :: b)
  | leave {a b : List Char} {c : Char} (hc : Inert c) (rest : Digitized a b) :
      Digitized (c :: a) b

namespace Digitized

variable {a b : List Char}

theorem refl : (cs : List Char) → Digitized cs cs
  | [] => .nil
  | c :: cs => .keep c (refl cs)

theorem append {a' b' : List Char} (h : Digitized a b) (h' : Digitized a' b') :
    Digitized (a ++ a') (b ++ b') := by
  induction h with
  | nil => exact h'
  | keep c _ ih => exact .keep c ih
  | digit hc hd _ ih => exact .digit hc hd ih
  | leave hc _ ih => exact .leave hc ih

/-- Digits for a text without braces and capital letters that is at least as long. -/
theorem of_forall {value digits : List Char} (hvalue : ∀ c ∈ value, Inert c)
    (hdigits : ∀ d ∈ digits, d.isDigit = true) (hlength : digits.length ≤ value.length) :
    Digitized value digits := by
  induction value generalizing digits with
  | nil =>
      obtain rfl := List.length_eq_zero_iff.mp (Nat.le_zero.mp hlength)
      exact .nil
  | cons c value ih =>
      obtain ⟨hc, hvalue⟩ := List.forall_mem_cons.mp hvalue
      cases digits with
      | nil => exact .leave hc (ih hvalue hdigits (Nat.zero_le _))
      | cons d digits =>
          obtain ⟨hd, hdigits⟩ := List.forall_mem_cons.mp hdigits
          exact .digit hc hd (ih hvalue hdigits (Nat.le_of_succ_le_succ hlength))

/-- What is not inert is kept. -/
theorem exists_of_not_inert {c : Char} (h : Digitized (c :: a) b) (hc : ¬ Inert c) :
    ∃ rest, b = c :: rest ∧ Digitized a rest := by
  cases h with
  | keep _ rest => exact ⟨_, rfl, rest⟩
  | digit hinert => exact absurd hinert hc
  | leave hinert => exact absurd hinert hc

theorem closes (h : Digitized a b) (ha : Closes a) : Closes b := by
  induction h with
  | nil => exact ha
  | @keep a b c rest ih =>
      cases hc : isNameChar c with
      | true => exact (closes_cons_of_isNameChar hc).mpr (ih ((closes_cons_of_isNameChar hc).mp ha))
      | false =>
          obtain ⟨after, heq⟩ := (closes_cons_of_not hc).mp ha
          obtain ⟨rfl, rfl⟩ := List.cons.inj heq
          obtain ⟨later, rfl, -⟩ := rest.exists_of_not_inert (by decide)
          exact (closes_cons_of_not hc).mpr ⟨later, rfl⟩
  | @digit a b c d hc hd rest ih =>
      have hname : isNameChar d = true := by simp [isNameChar, hd]
      exact (closes_cons_of_isNameChar hname).mpr (ih (hc.closes_of_cons ha))
  | leave hc _ ih => exact ih (hc.closes_of_cons ha)

/-- Where the first text starts with a slot the second does. -/
theorem isSome_slotName? (h : Digitized a b) (ha : (slotName? a).isSome) :
    (slotName? b).isSome := by
  obtain ⟨c, after, rfl, hc, hcloses⟩ := isSome_slotName?_iff.mp ha
  obtain ⟨_, rfl, hopened⟩ := h.exists_of_not_inert (by decide)
  obtain ⟨_, rfl, hname⟩ := hopened.exists_of_not_inert (by decide)
  obtain ⟨rest, rfl, hrest⟩ := hname.exists_of_not_inert fun hinert => by simp [hinert.2.2] at hc
  exact isSome_slotName?_iff.mpr ⟨c, rest, rfl, hc, hrest.closes hcloses⟩

theorem slotFree (h : Digitized a b) (hb : SlotFree b) : SlotFree a := by
  induction h with
  | nil => exact slotFree_nil
  | @keep a b c rest ih =>
      obtain ⟨hnone, hb⟩ := slotFree_cons.mp hb
      refine slotFree_cons.mpr ⟨Option.not_isSome_iff_eq_none.mp fun hsome => ?_, ih hb⟩
      have hstart := (Digitized.keep c rest).isSome_slotName? hsome
      exact absurd hstart (Option.not_isSome_iff_eq_none.mpr hnone)
  | digit hc _ _ ih => exact (slotFree_cons_of_ne hc.1).mpr (ih (slotFree_cons.mp hb).2)
  | leave hc _ ih => exact (slotFree_cons_of_ne hc.1).mpr (ih hb)

end Digitized

end Template

namespace Substitutions

/-- Every value of the first has a counterpart with decimal digits among the second. -/
def Digitized (values digits : Substitutions) : Prop :=
  ∀ name value, values.get? name = some value →
    ∃ digitized, digits.get? name = some digitized ∧
      Template.Digitized value.toList digitized.toList

namespace Digitized

variable {values digits : Substitutions}

theorem empty : Substitutions.empty.Digitized .empty := by
  intro name value h
  simp at h

theorem set (h : values.Digitized digits) (name : String) {value digitized : String}
    (hvalue : Template.Digitized value.toList digitized.toList) :
    (values.set name value).Digitized (digits.set name digitized) := by
  intro key found hfound
  rw [get?_set] at hfound
  rw [get?_set]
  by_cases hkey : key = name
  · rw [if_pos hkey] at hfound ⊢
    obtain rfl := Option.some.inj hfound
    exact ⟨digitized, rfl, hvalue⟩
  · rw [if_neg hkey] at hfound ⊢
    exact h key found hfound

/-- The names are the same, and any digits will do for any value. -/
theorem setAll (h : values.Digitized digits) {entries digitized : List (String × String)}
    (hnames : ∀ name, name ∈ entries.map Prod.fst ↔ name ∈ digitized.map Prod.fst)
    (hvalues : ∀ entry ∈ entries, ∀ digit ∈ digitized,
      Template.Digitized entry.2.toList digit.2.toList) :
    (values.setAll entries).Digitized (digits.setAll digitized) := by
  intro name value hvalue
  by_cases hname : name ∈ entries.map Prod.fst
  · obtain ⟨entry, hentry, hset⟩ :
        ∃ entry ∈ entries, (values.setAll entries).get? name = some entry.2 :=
      exists_get?_setAll_of_mem hname
    obtain ⟨digit, hdigit, hset'⟩ :
        ∃ digit ∈ digitized, (digits.setAll digitized).get? name = some digit.2 :=
      exists_get?_setAll_of_mem ((hnames name).mp hname)
    obtain rfl := Option.some.inj (hvalue.symm.trans hset)
    exact ⟨digit.2, hset', hvalues entry hentry digit hdigit⟩
  · rw [get?_setAll_of_notMem hname] at hvalue
    rw [get?_setAll_of_notMem (mt (hnames name).mpr hname)]
    exact h name value hvalue

end Digitized

end Substitutions

namespace Template

/-- A template that is filled with values is filled with the digits for them. -/
theorem exists_digitized_of_fillChars {values digits : Substitutions}
    (hvalues : values.Digitized digits) {template : Template} {a : List Char}
    (h : fillChars values template = .ok a) :
    ∃ b, fillChars digits template = .ok b ∧ Digitized a b := by
  induction template generalizing a with
  | nil =>
      obtain rfl := Except.ok.inj h
      exact ⟨[], rfl, .nil⟩
  | cons piece rest ih =>
      cases piece with
      | char c =>
          obtain ⟨later, hlater, rfl⟩ := fillChars_char_cons_eq_ok_iff.mp h
          obtain ⟨b, hb, hdigits⟩ := ih hlater
          exact ⟨c :: b, fillChars_char_cons_eq_ok_iff.mpr ⟨b, hb, rfl⟩, .keep c hdigits⟩
      | slot name =>
          obtain ⟨value, later, hvalue, hlater, rfl⟩ := fillChars_slot_cons_eq_ok_iff.mp h
          obtain ⟨b, hb, hdigits⟩ := ih hlater
          obtain ⟨digitized, hdigitized, hstart⟩ := hvalues name value hvalue
          exact ⟨digitized.toList ++ b,
            fillChars_slot_cons_eq_ok_iff.mpr ⟨digitized, b, hdigitized, hb, rfl⟩,
            hstart.append hdigits⟩

/-- Digits for the values are the worst case. -/
theorem slotFree_fill {values digits : Substitutions} (hvalues : values.Digitized digits)
    {template : Template} (hdigits : ∀ code, template.fill digits = .ok code → SlotFree code.toList)
    {code : String} (h : template.fill values = .ok code) : SlotFree code.toList := by
  rw [fill_eq_ok_iff] at h
  obtain ⟨b, hb, hdigitized⟩ := exists_digitized_of_fillChars hvalues h
  have hfree := hdigits (String.ofList b) (by rw [fill_eq_ok_iff, String.toList_ofList, hb])
  rw [String.toList_ofList] at hfree
  exact hdigitized.slotFree hfree

/-- A slot that is put together from the text around another slot. -/
example : (render ("\x7b\x7bA" ++ slotText "ID" ++ "\x7d\x7d") (.ofList [("ID", "0")])).toOption =
    some (slotText "A0") := by decide +kernel

end Template

end SensorNode
