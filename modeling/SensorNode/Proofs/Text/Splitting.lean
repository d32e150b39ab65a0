import SensorNode.Text.Lines

/-!
# Joined parts

Parts without the separator come back when a joined text is split, and a text comes back when its
parts are joined. Even if only the first parts are known to be without the separator, they can be
told from equal joined texts, one after the other.
-/

namespace SensorNode.Text

variable {separator : Char}

theorem split_append (separator : Char) (cs rest : List Char) :
    split separator (cs ++ separator :: rest) = split separator cs ++ split separator rest := by
  induction cs with
  | nil => simp [split]
  | cons c cs ih =>
      by_cases hc : c = separator
      · simp [split, hc, ih]
      · obtain ⟨part, parts, hparts⟩ := List.exists_cons_of_ne_nil (split_ne_nil separator cs)
        simp [split, hc, ih, hparts]

theorem split_of_notMem {part : List Char} (h : separator ∉ part) :
    split separator part = [part] := by
  induction part with
  | nil => rfl
  | cons c part ih =>
      obtain ⟨hc, hpart⟩ := not_or.mp (mt List.mem_cons.mpr h)
      simp [split, Ne.symm hc, ih hpart]

theorem split_append_separator {part rest : List Char} (h : separator ∉ part) :
    split separator (part ++ separator :: rest) = part :: split separator rest := by
  rw [split_append, split_of_notMem h, List.singleton_append]

/-- A change of characters that leaves the separator alone can be made in the parts. -/
theorem split_map {f : Char → Char} (h : ∀ c, f c = separator ↔ c = separator) (cs : List Char) :
    split separator (cs.map f) = (split separator cs).map (List.map f) := by
  induction cs with
  | nil => rfl
  | cons c cs ih =>
      by_cases hc : c = separator
      · simp [split, hc, (h separator).mpr rfl, ih]
      · obtain ⟨part, parts, hparts⟩ := List.exists_cons_of_ne_nil (split_ne_nil separator cs)
        simp [split, hc, mt (h c).mp hc, ih, hparts]

theorem toList_join_cons {sep part : String} {parts : List String} (hparts : parts ≠ []) :
    (join sep (part :: parts)).toList = part.toList ++ (sep.toList ++ (join sep parts).toList) := by
  obtain ⟨next, parts, rfl⟩ := List.exists_cons_of_ne_nil hparts
  simp [join_cons_cons]

theorem toList_join_cons_eq_flatMap (sep part : String) (parts : List String) :
    (join sep (part :: parts)).toList =
      part.toList ++ parts.flatMap fun next => sep.toList ++ next.toList := by
  induction parts generalizing part with
  | nil => simp
  | cons next parts ih =>
      rw [toList_join_cons (List.cons_ne_nil next parts), ih, List.flatMap_cons, List.append_assoc]

/-- What stands before and behind a part of a joined text is made of the other parts. -/
theorem toList_join_append_cons (sep part : String) (earlier later : List String) :
    (join sep (earlier ++ part :: later)).toList =
      earlier.flatMap (fun previous => previous.toList ++ sep.toList) ++ part.toList ++
        later.flatMap fun next => sep.toList ++ next.toList := by
  induction earlier with
  | nil =>
      rw [List.nil_append, List.flatMap_nil, List.nil_append, toList_join_cons_eq_flatMap]
  | cons first earlier ih =>
      rw [List.cons_append, toList_join_cons (by simp), ih, List.flatMap_cons]
      simp only [List.append_assoc]

theorem join_append {sep : String} {xs ys : List String} (hxs : xs ≠ []) (hys : ys ≠ []) :
    join sep (xs ++ ys) = join sep xs ++ sep ++ join sep ys := by
  induction xs with
  | nil => exact absurd rfl hxs
  | cons x xs ih =>
      apply String.toList_inj.mp
      rw [List.cons_append, toList_join_cons (by simp [hys])]
      by_cases hrest : xs = []
      · simp [hrest]
      · simp [ih hrest, toList_join_cons hrest]

section

variable {sep : String} (hsep : sep.toList = [separator])

include hsep

/-- Parts without the separator come back. -/
theorem split_join {parts : List String} (hparts : parts ≠ [])
    (h : ∀ part ∈ parts, separator ∉ part.toList) :
    split separator (join sep parts).toList = parts.map String.toList := by
  induction parts with
  | nil => exact absurd rfl hparts
  | cons part parts ih =>
      obtain ⟨hpart, hrest⟩ := List.forall_mem_cons.mp h
      by_cases hnil : parts = []
      · simp [hnil, split_of_notMem hpart]
      · rw [toList_join_cons hnil, hsep, List.singleton_append, split_append_separator hpart,
          ih hnil hrest, List.map_cons]

/-- A text is its parts with the separator between them. -/
theorem join_splitText (s : String) : join sep (splitText separator s) = s := by
  have hchars (cs : List Char) :
      (join sep ((split separator cs).map String.ofList)).toList = cs := by
    induction cs with
    | nil => simp [split]
    | cons c cs ih =>
        obtain ⟨part, parts, hparts⟩ := List.exists_cons_of_ne_nil (split_ne_nil separator cs)
        rw [hparts, List.map_cons] at ih
        by_cases hc : c = separator
        · rw [split, if_pos hc, hparts, List.map_cons, List.map_cons,
            toList_join_cons (List.cons_ne_nil _ _), ih, hsep, hc]
          rfl
        · simp only [split, hc, ↓reduceIte, hparts, List.map_cons]
          cases parts with
          | nil => simpa using ih
          | cons next parts =>
              rw [List.map_cons, toList_join_cons (List.cons_ne_nil _ _)] at ih ⊢
              simpa using ih
  exact String.toList_inj.mp (hchars s.toList)

theorem join_cons_inj {x y : String} {xs ys : List String} (hx : separator ∉ x.toList)
    (hy : separator ∉ y.toList) (hxs : xs ≠ []) (hys : ys ≠ [])
    (h : join sep (x :: xs) = join sep (y :: ys)) : x = y ∧ join sep xs = join sep ys := by
  have hlists := congrArg String.toList h
  rw [toList_join_cons hxs, toList_join_cons hys, hsep] at hlists
  have hsplit := congrArg (split separator) hlists
  rw [List.singleton_append, List.singleton_append, split_append_separator hx,
    split_append_separator hy] at hsplit
  obtain rfl : x = y := String.toList_inj.mp (List.cons.inj hsplit).1
  exact ⟨rfl, String.toList_inj.mp (by simpa using hlists)⟩

/-- As many first parts without the separator, and what is joined after them, are told from the
joined text. -/
theorem join_append_inj {xs ys zs ws : List String} (hlength : xs.length = ys.length)
    (hxs : ∀ x ∈ xs, separator ∉ x.toList) (hys : ∀ y ∈ ys, separator ∉ y.toList)
    (hzs : zs ≠ []) (hws : ws ≠ []) (h : join sep (xs ++ zs) = join sep (ys ++ ws)) :
    xs = ys ∧ join sep zs = join sep ws := by
  induction xs generalizing ys with
  | nil =>
      obtain rfl : ys = [] := List.length_eq_zero_iff.mp hlength.symm
      exact ⟨rfl, h⟩
  | cons x xs ih =>
      cases ys with
      | nil => simp at hlength
      | cons y ys =>
          obtain ⟨hx, hxrest⟩ := List.forall_mem_cons.mp hxs
          obtain ⟨hy, hyrest⟩ := List.forall_mem_cons.mp hys
          obtain ⟨rfl, hrest⟩ := join_cons_inj hsep hx hy (by simp [hzs]) (by simp [hws]) h
          obtain ⟨rfl, hjoin⟩ := ih (Nat.succ.inj hlength) hxrest hyrest hrest
          exact ⟨rfl, hjoin⟩

end

end SensorNode.Text
