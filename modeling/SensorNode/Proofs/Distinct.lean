import Mathlib.Data.List.Induction
import SensorNode.Distinct

/-!
# First occurrences after a list without repetition

What a list without repetition begins with stays where it is, and of what comes after only the
entries that it does not hold are added. So the entries stand in the order in which they were first
seen, and leaving entries out beforehand or afterwards is the same.
-/

namespace SensorNode

variable {α : Type} [DecidableEq α]

theorem distinct_concat (xs : List α) (x : α) : distinct (xs ++ [x]) = insertNew (distinct xs) x :=
  distinct_append xs [x]

/-- Entries are added behind those that are there already. -/
theorem foldl_insertNew (xs ys : List α) :
    xs.foldl insertNew ys = ys ++ (distinct xs).filter fun x => x ∉ ys := by
  induction xs using List.reverseRecOn with
  | nil => simp [distinct]
  | append_singleton xs x ih =>
      rw [List.foldl_append, List.foldl_cons, List.foldl_nil, ih, distinct_concat]
      by_cases hys : x ∈ ys
      · by_cases hxs : x ∈ xs <;> simp [insertNew, hys, hxs]
      · by_cases hxs : x ∈ xs <;> simp [insertNew, hys, hxs]

theorem distinct_eq_self {xs : List α} (h : xs.Nodup) : distinct xs = xs := by
  induction xs using List.reverseRecOn with
  | nil => rfl
  | append_singleton xs x ih =>
      obtain ⟨hxs, -, hne⟩ := List.nodup_append.mp h
      have hx : x ∉ xs := fun hmem => hne x hmem x (List.mem_singleton_self x) rfl
      rw [distinct_concat, ih hxs, insertNew, if_neg hx]

theorem distinct_append_of_nodup {xs : List α} (h : xs.Nodup) (ys : List α) :
    distinct (xs ++ ys) = xs ++ (distinct ys).filter fun y => y ∉ xs := by
  rw [distinct_append, distinct_eq_self h, foldl_insertNew]

theorem distinct_cons (x : α) (xs : List α) :
    distinct (x :: xs) = x :: (distinct xs).filter fun y => y ≠ x := by
  have hstep : distinct (x :: xs) = xs.foldl insertNew [x] := rfl
  rw [hstep, foldl_insertNew]
  simp

theorem distinct_filter (p : α → Bool) (xs : List α) :
    distinct (xs.filter p) = (distinct xs).filter p := by
  induction xs with
  | nil => rfl
  | cons x xs ih =>
      rw [distinct_cons, List.filter_cons, List.filter_cons, List.filter_filter]
      cases hx : p x with
      | true =>
          rw [if_pos rfl, if_pos rfl, distinct_cons, ih, List.filter_filter]
          simp only [Bool.and_comm]
      | false =>
          rw [if_neg Bool.false_ne_true, if_neg Bool.false_ne_true, ih]
          -- `x` itself does not pass, so the ones that pass differ from it anyway
          refine List.filter_congr fun y _ => ?_
          cases hy : p y with
          | false => rfl
          | true =>
              have hne : y ≠ x := by
                rintro rfl
                exact absurd (hy.symm.trans hx) (by decide)
              simp [hne]

/-- First occurrences are what is left when later duplicates are erased. -/
theorem distinct_eq_eraseDups (xs : List α) : distinct xs = xs.eraseDups := by
  induction hlength : xs.length using Nat.strongRecOn generalizing xs with
  | _ length ih =>
    cases xs with
    | nil => rfl
    | cons x xs =>
        have hkeep : (xs.filter fun y => !y == x) = xs.filter fun y => y ≠ x :=
          List.filter_congr fun y _ => Bool.eq_iff_iff.mpr (by simp)
        have hlt : (xs.filter fun y => y ≠ x).length < length :=
          hlength ▸ Nat.lt_succ_of_le (List.length_filter_le _ _)
        rw [distinct_cons, List.eraseDups_cons, hkeep, ← ih _ hlt _ rfl, distinct_filter]

/-- More entries come behind those that are there. -/
theorem distinct_prefix (xs ys : List α) : distinct xs <+: distinct (xs ++ ys) := by
  rw [distinct_append, foldl_insertNew]
  exact List.prefix_append _ _

/-- Entries that were there already are not added. -/
theorem distinct_append_of_subset {xs ys : List α} (h : ys ⊆ xs) :
    distinct (xs ++ ys) = distinct xs := by
  have hnone : (distinct ys).filter (fun y => y ∉ distinct xs) = [] := by
    apply List.filter_eq_nil_iff.mpr
    intro y hy
    simpa using h (mem_distinct.mp hy)
  rw [distinct_append, foldl_insertNew, hnone, List.append_nil]

/-- Wherever an entry stands, the ones that come before it were seen already. -/
theorem pairwise_mem_distinct (xs : List α) :
    (distinct xs).Pairwise fun a b => ∀ front rest, xs = front ++ b :: rest → a ∈ front := by
  induction xs with
  | nil => exact .nil
  | cons x xs ih =>
      rw [distinct_cons]
      have hcut (b : α) (hb : b ≠ x) (front rest : List α) (h : x :: xs = front ++ b :: rest) :
          ∃ later, front = x :: later ∧ xs = later ++ b :: rest := by
        cases front with
        | nil => exact absurd (List.cons.inj h).1.symm hb
        | cons y later =>
            obtain ⟨rfl, hxs⟩ := List.cons.inj h
            exact ⟨later, rfl, hxs⟩
      constructor
      · intro b hb front rest h
        obtain ⟨later, rfl, -⟩ := hcut b (by simpa using (List.mem_filter.mp hb).2) front rest h
        exact List.mem_cons_self
      · apply (ih.filter _).imp_of_mem
        intro a b _ hb hseen front rest h
        obtain ⟨later, rfl, hxs⟩ := hcut b (by simpa using (List.mem_filter.mp hb).2) front rest h
        exact List.mem_cons_of_mem x (hseen later rest hxs)

/-- Entries stand in the order in which they first occur. -/
theorem pairwise_idxOf_distinct (xs : List α) :
    (distinct xs).Pairwise fun a b => xs.idxOf a < xs.idxOf b := by
  apply (pairwise_mem_distinct xs).imp_of_mem
  intro a b _ hb hseen
  obtain ⟨front, rest, hsplit, hb'⟩ := List.eq_append_cons_of_mem (mem_distinct.mp hb)
  have ha' : a ∈ front := hseen front rest hsplit
  calc
    xs.idxOf a = front.idxOf a := by rw [hsplit, List.idxOf_append, if_pos ha']
    _ < front.length := List.idxOf_lt_length_of_mem ha'
    _ = xs.idxOf b := by simp [hsplit, List.idxOf_append, hb']

end SensorNode
