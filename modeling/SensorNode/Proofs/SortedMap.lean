import Mathlib.Data.List.Induction
import SensorNode.SortedMap

/-!
# Entries and look-ups of sorted maps

The entries of a sorted map are exactly its successful look-ups, since a key stands there once, and
they make the map. So a map is told by its look-ups.
-/

namespace SensorNode.SortedMap

section

variable {κ α : Type} [LE κ] [LT κ] [DecidableEq κ] [Std.LawfulOrderLT κ]

theorem mem_entries_iff {m : SortedMap κ α} {key : κ} {value : α} :
    (key, value) ∈ m.entries ↔ m.get? key = some value := by
  obtain ⟨entries, sorted⟩ := m
  simp only [get?]
  induction entries with
  | nil => simp
  | cons first rest ih =>
      obtain ⟨hfirst, hrest⟩ := List.pairwise_cons.mp sorted
      rw [List.mem_cons, lookup_cons_eq_ite, ih hrest]
      by_cases h : key = first.1
      · have hnone : rest.lookup key ≠ some value := by
          rw [ne_eq, ← ih hrest]
          exact fun hmem => Std.lt_irrefl (h ▸ hfirst _ hmem)
        simp only [h, ↓reduceIte, Prod.ext_iff, true_and] at hnone ⊢
        simp [hnone, eq_comm]
      · simp [h, Prod.ext_iff]

theorem mem_keys_iff {m : SortedMap κ α} {key : κ} :
    key ∈ m.keys ↔ ∃ value, m.get? key = some value := by
  simp only [keys, List.mem_map, Prod.exists, mem_entries_iff, exists_and_right, exists_eq_right]

theorem mem_values_iff {m : SortedMap κ α} {value : α} :
    value ∈ m.entries.map Prod.snd ↔ ∃ key, m.get? key = some value := by
  simp only [List.mem_map, Prod.exists, mem_entries_iff, exists_eq_right]

/-- Maps with the same look-ups are the same. -/
theorem ext_get? {m n : SortedMap κ α} (h : ∀ key, m.get? key = n.get? key) : m = n := by
  have hnodup (m : SortedMap κ α) : m.entries.Nodup := by
    refine m.sorted.imp ?_
    rintro a _ hlt rfl
    exact Std.lt_irrefl hlt
  have hperm : m.entries.Perm n.entries := by
    apply (List.perm_ext_iff_of_nodup (hnodup m) (hnodup n)).mpr
    rintro ⟨key, value⟩
    rw [mem_entries_iff, mem_entries_iff, h]
  apply ext
  refine hperm.eq_of_pairwise ?_ m.sorted n.sorted
  intro a b _ _ hab hba
  exact absurd hba (Std.not_gt_of_lt hab)

end

section

variable {κ α : Type} [LE κ] [LT κ] [DecidableLT κ] [DecidableEq κ] [Std.IsLinearOrder κ]
  [Std.LawfulOrderLT κ]

/-- A key above all others goes to the end. -/
theorem insertEntry_of_forall_lt {key : κ} {entries : List (κ × α)}
    (h : ∀ entry ∈ entries, entry.1 < key) (value : α) :
    insertEntry key value entries = entries ++ [(key, value)] := by
  induction entries with
  | nil => rfl
  | cons entry entries ih =>
      obtain ⟨hfirst, hrest⟩ := List.forall_mem_cons.mp h
      have hnot : ¬key < entry.1 := fun hlt => Std.lt_irrefl (Std.lt_trans hlt hfirst)
      have hne : key ≠ entry.1 := fun heq => Std.lt_irrefl (heq ▸ hfirst)
      rw [insertEntry, if_neg hnot, if_neg hne, ih hrest, List.cons_append]

theorem entries_ofList {entries : List (κ × α)} (h : entries.Pairwise fun a b => a.1 < b.1) :
    (ofList entries).entries = entries := by
  induction entries using List.reverseRecOn with
  | nil => rfl
  | append_singleton entries entry ih =>
      obtain ⟨hentries, -, hlast⟩ := List.pairwise_append.mp h
      have hlt : ∀ e ∈ (ofList entries).entries, e.1 < entry.1 := by
        rw [ih hentries]
        exact fun e he => hlast e he entry List.mem_cons_self
      have hstep : (ofList (entries ++ [entry])).entries =
          insertEntry entry.1 entry.2 (ofList entries).entries := by
        rw [ofList, List.foldl_append]
        rfl
      rw [hstep, insertEntry_of_forall_lt hlt, ih hentries]

/-- A key that was not there comes in addition. -/
theorem size_insert {m : SortedMap κ α} {key : κ} (h : m.get? key = none) (value : α) :
    (m.insert key value).size = m.size + 1 := by
  obtain ⟨entries, sorted⟩ := m
  simp only [get?] at h
  simp only [size, insert]
  clear sorted
  induction entries with
  | nil => rfl
  | cons first rest ih =>
      rw [lookup_cons_eq_ite] at h
      split at h
      · exact nomatch h
      · next hne =>
        rw [insertEntry, if_neg hne]
        split
        · rfl
        · rw [List.length_cons, ih h, List.length_cons]

/-- A map is made of its own entries. -/
theorem ofList_entries (m : SortedMap κ α) : ofList m.entries = m :=
  ext (entries_ofList m.sorted)

end

end SensorNode.SortedMap
