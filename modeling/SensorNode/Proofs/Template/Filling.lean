import SensorNode.Proofs.Outcome
import SensorNode.Template

/-!
# When templates can be filled

A template can be filled exactly when each of its slots has a value; what the values are does not
matter, since they are not searched for slots.
-/

namespace SensorNode

namespace Substitutions

/-- A name has a value when it had one before or is among the entries that are set. -/
theorem isSome_get?_setAll {values : Substitutions} {entries : List (String × String)}
    {name : String} :
    ((values.setAll entries).get? name).isSome ↔
      (values.get? name).isSome ∨ name ∈ entries.map Prod.fst := by
  induction entries generalizing values with
  | nil => simp [setAll]
  | cons entry rest ih =>
      have hstep : values.setAll (entry :: rest) =
          (values.set entry.1 entry.2).setAll rest := rfl
      rw [hstep, ih, get?_set]
      by_cases h : name = entry.1 <;> simp [h]

/-- Setting other names does not change the value of a name. -/
theorem get?_setAll_of_notMem {values : Substitutions} {entries : List (String × String)}
    {name : String} (h : name ∉ entries.map Prod.fst) :
    (values.setAll entries).get? name = values.get? name := by
  induction entries generalizing values with
  | nil => rfl
  | cons entry rest ih =>
      obtain ⟨hne, hrest⟩ := not_or.mp (mt List.mem_cons.mpr h)
      have hstep : values.setAll (entry :: rest) =
          (values.set entry.1 entry.2).setAll rest := rfl
      rw [hstep, ih hrest, get?_set, if_neg hne]

/-- A name that is set has the value of one of its entries. -/
theorem exists_get?_setAll_of_mem {values : Substitutions} {entries : List (String × String)}
    {name : String} (h : name ∈ entries.map Prod.fst) :
    ∃ entry ∈ entries, (values.setAll entries).get? name = some entry.2 := by
  induction entries generalizing values with
  | nil => simp at h
  | cons entry rest ih =>
      have hstep : values.setAll (entry :: rest) =
          (values.set entry.1 entry.2).setAll rest := rfl
      rw [hstep]
      by_cases hrest : name ∈ rest.map Prod.fst
      · obtain ⟨later, hlater, hvalue⟩ := ih hrest
        exact ⟨later, List.mem_cons_of_mem _ hlater, hvalue⟩
      · have hname : name = entry.1 := (List.mem_cons.mp h).resolve_right hrest
        exact ⟨entry, List.mem_cons_self, by rw [get?_setAll_of_notMem hrest]; simp [hname]⟩

theorem isSome_get?_ofList {entries : List (String × String)} {name : String} :
    ((ofList entries).get? name).isSome ↔ name ∈ entries.map Prod.fst := by
  simp [ofList, isSome_get?_setAll]

end Substitutions

namespace Template

theorem mem_names {template : Template} {name : String} :
    name ∈ template.names ↔ name ∈ template.slots := mem_distinct

theorem names_eq_nil_iff {template : Template} : template.names = [] ↔ template.slots = [] := by
  simp only [List.eq_nil_iff_forall_not_mem, mem_names]

theorem exists_fillChars_iff {values : Substitutions} {template : Template} :
    (∃ text, fillChars values template = .ok text) ↔
      ∀ name ∈ template.slots, (values.get? name).isSome := by
  induction template with
  | nil => simp [fillChars, slots]
  | cons piece rest ih =>
      cases piece with
      | char c =>
          have hslots : slots (.char c :: rest) = slots rest := rfl
          rw [hslots, ← ih, fillChars, Outcome.exists_map_eq_ok_iff]
      | slot name =>
          have hslots : slots (.slot name :: rest) = name :: slots rest := rfl
          rw [hslots, List.forall_mem_cons, ← ih, fillChars]
          cases hvalue : values.get? name <;> cases hrest : fillChars values rest <;> simp

theorem fill_eq_ok_iff {values : Substitutions} {template : Template} {text : String} :
    template.fill values = .ok text ↔ fillChars values template = .ok text.toList := by
  rw [fill, Outcome.map_eq_ok_iff]
  constructor
  · rintro ⟨cs, h, rfl⟩
    simpa using h
  · exact fun h => ⟨_, h, String.ofList_toList⟩

/-- A template can be filled exactly when every slot has a value. -/
theorem exists_fill_iff {values : Substitutions} {template : Template} :
    (∃ text, template.fill values = .ok text) ↔
      ∀ name ∈ template.slots, (values.get? name).isSome := by
  rw [fill, Outcome.exists_map_eq_ok_iff, exists_fillChars_iff]

theorem fillChars_char_cons_eq_ok_iff {values : Substitutions} {c : Char} {rest : Template}
    {text : List Char} :
    fillChars values (.char c :: rest) = .ok text ↔
      ∃ later, fillChars values rest = .ok later ∧ text = c :: later := by
  simp only [fillChars, Outcome.map_eq_ok_iff, @eq_comm _ text]

theorem fillChars_slot_cons_eq_ok_iff {values : Substitutions} {name : String} {rest : Template}
    {text : List Char} :
    fillChars values (.slot name :: rest) = .ok text ↔
      ∃ value later, values.get? name = some value ∧ fillChars values rest = .ok later ∧
        text = value.toList ++ later := by
  rw [fillChars]
  cases values.get? name <;> cases fillChars values rest <;> simp [@eq_comm _ text]

/-- Templates next to each other are filled one after the other. -/
theorem fillChars_append_eq_ok_iff {values : Substitutions} {a b : Template} {text : List Char} :
    fillChars values (a ++ b) = .ok text ↔
      ∃ x y, fillChars values a = .ok x ∧ fillChars values b = .ok y ∧ text = x ++ y := by
  induction a generalizing text with
  | nil => simp [fillChars]
  | cons piece rest ih =>
      rw [List.cons_append]
      cases piece with
      | char c =>
          simp only [fillChars_char_cons_eq_ok_iff, ih]
          constructor
          · rintro ⟨_, ⟨x, y, hx, hy, rfl⟩, rfl⟩
            exact ⟨c :: x, y, ⟨x, hx, rfl⟩, hy, rfl⟩
          · rintro ⟨_, y, ⟨x, hx, rfl⟩, hy, rfl⟩
            exact ⟨x ++ y, ⟨x, y, hx, hy, rfl⟩, rfl⟩
      | slot name =>
          simp only [fillChars_slot_cons_eq_ok_iff, ih]
          constructor
          · rintro ⟨value, _, hvalue, ⟨x, y, hx, hy, rfl⟩, rfl⟩
            exact ⟨value.toList ++ x, y, ⟨value, x, hvalue, hx, rfl⟩, hy, by simp⟩
          · rintro ⟨_, y, ⟨value, x, hvalue, hx, rfl⟩, hy, rfl⟩
            exact ⟨value, x ++ y, hvalue, ⟨x, y, hx, hy, rfl⟩, by simp⟩

theorem fillChars_slot_eq_ok_iff {values : Substitutions} {name : String} {text : List Char} :
    fillChars values (slot name) = .ok text ↔
      ∃ value, values.get? name = some value ∧ text = value.toList := by
  rw [slot, fillChars_slot_cons_eq_ok_iff]
  simp [fillChars]

/-- A template is filled alike by values that agree on its slots. -/
theorem fillChars_congr {values others : Substitutions} {template : Template}
    (h : ∀ name ∈ template.slots, values.get? name = others.get? name) :
    fillChars values template = fillChars others template := by
  induction template with
  | nil => rfl
  | cons piece rest ih =>
      cases piece with
      | char c => rw [fillChars, fillChars, ih h]
      | slot name =>
          obtain ⟨hname, hrest⟩ := List.forall_mem_cons.mp h
          rw [fillChars, fillChars, ih hrest, hname]

end Template

end SensorNode
