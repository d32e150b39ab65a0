/-!
# Sorted maps

Finite maps as lists of entries in strictly ascending order of their keys. The order is part of the
type, so a map has one representation: maps with equal look-ups are equal.
-/

namespace SensorNode

variable {κ α : Type}

/-- Replace the entry of a key, or put it at its place in the order. -/
def insertEntry [LT κ] [DecidableLT κ] [DecidableEq κ] (key : κ) (value : α) :
    List (κ × α) → List (κ × α)
  | [] => [(key, value)]
  | entry :: entries =>
    if key < entry.1 then (key, value) :: entry :: entries
    else if key = entry.1 then (key, value) :: entries
    else entry :: insertEntry key value entries

theorem mem_of_mem_insertEntry [LT κ] [DecidableLT κ] [DecidableEq κ] {key : κ} {value : α}
    {entries : List (κ × α)} {entry : κ × α} (h : entry ∈ insertEntry key value entries) :
    entry = (key, value) ∨ entry ∈ entries := by
  induction entries with
  | nil => simpa [insertEntry] using h
  | cons first rest ih =>
    simp only [insertEntry] at h
    split at h
    · simpa using h
    · split at h
      · rcases List.mem_cons.mp h with h | h
        · exact .inl h
        · exact .inr (List.mem_cons_of_mem _ h)
      · rcases List.mem_cons.mp h with h | h
        · exact .inr (h ▸ List.mem_cons_self)
        · exact (ih h).imp id (List.mem_cons_of_mem _)

theorem lookup_cons_eq_ite [DecidableEq κ] (k : κ) (entry : κ × α) (entries : List (κ × α)) :
    (entry :: entries).lookup k = if k = entry.1 then some entry.2 else entries.lookup k := by
  obtain ⟨key, value⟩ := entry
  by_cases h : k = key
  · simp [h]
  · simp [List.lookup_cons, h, beq_eq_false_iff_ne.mpr h]

theorem lookup_insertEntry [LT κ] [DecidableLT κ] [DecidableEq κ] (key : κ) (value : α)
    (entries : List (κ × α)) (k : κ) :
    (insertEntry key value entries).lookup k =
      if k = key then some value else entries.lookup k := by
  induction entries with
  | nil => simp [insertEntry, lookup_cons_eq_ite]
  | cons first rest ih =>
    simp only [insertEntry]
    split
    · simp [lookup_cons_eq_ite]
    · split
      · next heq =>
        by_cases h : k = key
        · simp [lookup_cons_eq_ite, h]
        · simp [lookup_cons_eq_ite, h, ← heq]
      · next hne =>
        rw [lookup_cons_eq_ite, ih, lookup_cons_eq_ite]
        by_cases h : k = key
        · simp [h, hne]
        · simp [h]

section

variable [LE κ] [LT κ] [DecidableLT κ] [DecidableEq κ] [Std.IsLinearOrder κ] [Std.LawfulOrderLT κ]

theorem insertEntry_sorted (key : κ) (value : α) {entries : List (κ × α)}
    (h : entries.Pairwise fun a b => a.1 < b.1) :
    (insertEntry key value entries).Pairwise fun a b => a.1 < b.1 := by
  induction entries with
  | nil => simp [insertEntry]
  | cons first rest ih =>
    obtain ⟨hfirst, hrest⟩ := List.pairwise_cons.mp h
    simp only [insertEntry]
    split
    · next hlt =>
      refine h.cons fun entry hentry => ?_
      rcases List.mem_cons.mp hentry with rfl | hentry
      · exact hlt
      · exact Std.lt_trans hlt (hfirst entry hentry)
    · next hnot =>
      split
      · next heq => exact hrest.cons fun entry hentry => heq ▸ hfirst entry hentry
      · next hne =>
        refine (ih hrest).cons fun entry hentry => ?_
        rcases mem_of_mem_insertEntry hentry with rfl | hentry
        · exact Std.lt_of_le_of_ne (Std.not_lt.mp hnot) (Ne.symm hne)
        · exact hfirst entry hentry

end

structure SortedMap (κ α : Type) [LT κ] where
  entries : List (κ × α)
  sorted : entries.Pairwise fun a b => a.1 < b.1

namespace SortedMap

section

variable [LT κ]

def empty : SortedMap κ α := ⟨[], .nil⟩

instance : Inhabited (SortedMap κ α) := ⟨empty⟩

theorem ext {m n : SortedMap κ α} (h : m.entries = n.entries) : m = n := by
  cases m; cases n; cases h; rfl

instance [DecidableEq κ] [DecidableEq α] : DecidableEq (SortedMap κ α) := fun m n =>
  decidable_of_iff (m.entries = n.entries) ⟨ext, fun h => h ▸ rfl⟩

def size (m : SortedMap κ α) : Nat := m.entries.length

def keys (m : SortedMap κ α) : List κ := m.entries.map Prod.fst

def get? [DecidableEq κ] (m : SortedMap κ α) (key : κ) : Option α := m.entries.lookup key

@[simp] theorem get?_empty [DecidableEq κ] (key : κ) :
    (empty : SortedMap κ α).get? key = none := rfl

end

variable [LE κ] [LT κ] [DecidableLT κ] [DecidableEq κ] [Std.IsLinearOrder κ] [Std.LawfulOrderLT κ]

def insert (m : SortedMap κ α) (key : κ) (value : α) : SortedMap κ α :=
  ⟨insertEntry key value m.entries, insertEntry_sorted key value m.sorted⟩

@[simp] theorem get?_insert (m : SortedMap κ α) (key : κ) (value : α) (k : κ) :
    (m.insert key value).get? k = if k = key then some value else m.get? k :=
  lookup_insertEntry key value m.entries k

/-- The map of a list of entries; the last entry of a key counts. -/
def ofList (entries : List (κ × α)) : SortedMap κ α :=
  entries.foldl (fun m entry => m.insert entry.1 entry.2) empty

end SortedMap

end SensorNode
