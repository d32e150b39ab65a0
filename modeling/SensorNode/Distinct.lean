/-!
# First occurrences

A list without repetition that keeps the order in which its entries were first seen.
-/

namespace SensorNode

variable {α : Type} [DecidableEq α]

/-- Add an entry at the end, unless it is there already. -/
def insertNew (xs : List α) (x : α) : List α :=
  if x ∈ xs then xs else xs ++ [x]

@[simp] theorem mem_insertNew {xs : List α} {x y : α} : y ∈ insertNew xs x ↔ y ∈ xs ∨ y = x := by
  unfold insertNew
  split <;> simp_all

/-- The entries, each where it stands first. -/
def distinct (xs : List α) : List α := xs.foldl insertNew []

theorem distinct_append (xs ys : List α) :
    distinct (xs ++ ys) = ys.foldl insertNew (distinct xs) := by
  simp [distinct, List.foldl_append]

theorem mem_foldl_insertNew {xs ys : List α} {y : α} :
    y ∈ xs.foldl insertNew ys ↔ y ∈ ys ∨ y ∈ xs := by
  induction xs generalizing ys with
  | nil => simp
  | cons x xs ih => simp [ih, or_assoc]

@[simp] theorem mem_distinct {xs : List α} {y : α} : y ∈ distinct xs ↔ y ∈ xs := by
  simp [distinct, mem_foldl_insertNew]

theorem nodup_insertNew {xs : List α} {x : α} (h : xs.Nodup) : (insertNew xs x).Nodup := by
  unfold insertNew
  split
  · exact h
  · next hx =>
    refine List.nodup_append.mpr ⟨h, by simp, fun a ha b hb => ?_⟩
    rw [List.mem_singleton.mp hb]
    exact fun heq => hx (heq ▸ ha)

theorem nodup_distinct (xs : List α) : (distinct xs).Nodup := by
  suffices ∀ ys : List α, ys.Nodup → (xs.foldl insertNew ys).Nodup from this [] .nil
  induction xs with
  | nil => exact fun ys hys => hys
  | cons x xs ih => exact fun ys hys => ih _ (nodup_insertNew hys)

end SensorNode
