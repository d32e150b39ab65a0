import Mathlib.Data.List.Nodup
import Mathlib.Data.Option.Basic
import SensorNode.Json.Sorted

/-!
# Members of objects

Looking up the members of an object. Sorting the members of an object whose names are distinct moves
them but loses none: each is found as before, itself sorted.
-/

namespace SensorNode.Json

/-- The value under a name; the first one counts. -/
def find? (name : Option String) (members : List (Option String × Json)) : Option Json :=
  (members.find? fun member => member.1 = name).map Prod.snd

theorem find?_cons (name : Option String) (member : Option String × Json)
    (members : List (Option String × Json)) :
    find? name (member :: members) =
      if member.1 = name then some member.2 else find? name members := by
  by_cases h : member.1 = name <;> simp [find?, h]

/-- The value of a member of an object. -/
def member? (name : String) : Json → Option Json
  | object members => find? (some name) members
  | _ => none

/-- But for the members with some names, `sorted` holds what `json` does, with members in order. -/
def SortedBut (names : List String) (json sorted : Json) : Prop :=
  ∀ name, name ∉ names → sorted.member? name = (json.member? name).map Json.sorted

theorem member?_record_cons (name : String) (member : String × Json)
    (members : List (String × Json)) :
    (record (member :: members)).member? name =
      if member.1 = name then some member.2 else (record members).member? name := by
  simp [record, member?, find?_cons]

@[simp] theorem member?_record_nil (name : String) : (record []).member? name = none := rfl

variable {member : Option String × Json} {members : List (Option String × Json)}

theorem insertMember_perm (member : Option String × Json)
    (members : List (Option String × Json)) :
    (insertMember member members).Perm (member :: members) := by
  induction members with
  | nil => exact .refl _
  | cons first rest ih =>
      rw [insertMember]
      split
      · exact .refl _
      · exact (ih.cons first).trans (.swap member first rest)

theorem map_fst_sortedMembers_perm (members : List (Option String × Json)) :
    ((sortedMembers members).map Prod.fst).Perm (members.map Prod.fst) := by
  induction members with
  | nil => exact .refl _
  | cons member rest ih =>
      rw [sortedMembers]
      exact ((insertMember_perm _ _).map Prod.fst).trans (ih.cons member.1)

theorem find?_insertMember (h : member.1 ∉ members.map Prod.fst) (name : Option String) :
    find? name (insertMember member members) = find? name (member :: members) := by
  induction members with
  | nil => rfl
  | cons first rest ih =>
      obtain ⟨hfirst, hrest⟩ := not_or.mp (mt List.mem_cons.mpr h)
      rw [insertMember]
      split
      · rfl
      · -- the member passes one with another name, so it does not matter which comes first
        simp only [find?_cons, ih hrest]
        by_cases hname : first.1 = name
        · rw [if_pos hname, if_neg fun heq => hfirst (heq.trans hname.symm), if_pos hname]
        · rw [if_neg hname, if_neg hname]

theorem find?_sortedMembers (h : (members.map Prod.fst).Nodup) (name : Option String) :
    find? name (sortedMembers members) = (find? name members).map sorted := by
  induction members with
  | nil => rfl
  | cons member rest ih =>
      obtain ⟨hmember, hrest⟩ := List.nodup_cons.mp h
      have hsorted : (member.1, sorted member.2).1 ∉ (sortedMembers rest).map Prod.fst :=
        fun hmem => hmember ((map_fst_sortedMembers_perm rest).mem_iff.mp hmem)
      rw [sortedMembers, find?_insertMember hsorted, find?_cons, find?_cons, ih hrest]
      by_cases hname : member.1 = name <;> simp [hname]

/-- Each member of a sorted record is the one of the record, sorted. -/
theorem member?_sorted_record {members : List (String × Json)}
    (h : (members.map Prod.fst).Nodup) (name : String) :
    (record members).sorted.member? name = ((record members).member? name).map sorted := by
  apply find?_sortedMembers
  have hsome := h.map (Option.some_injective String)
  simpa [Function.comp_def] using hsome

theorem sortedItems_eq_map (items : List Json) : sortedItems items = items.map sorted := by
  induction items with
  | nil => rfl
  | cons item rest ih => rw [sortedItems, ih, List.map_cons]

theorem sorted_list {α : Type} (write : α → Json) (items : List α) :
    (list write items).sorted = list (fun item => (write item).sorted) items := by
  rw [list, sorted, sortedItems_eq_map, List.map_map]
  rfl

end SensorNode.Json
