/-!
# Outcomes

How an outcome that was built from others splits into theirs: a mapped or chained one succeeds or
fails as its parts do.
-/

namespace SensorNode.Outcome

variable {ε ε' α β : Type}

theorem map_eq_ok_iff {x : Except ε α} {f : α → β} {b : β} :
    x.map f = .ok b ↔ ∃ a, x = .ok a ∧ f a = b := by
  cases x <;> simp [Except.map]

theorem map_eq_error_iff {x : Except ε α} {f : α → β} {e : ε} :
    x.map f = .error e ↔ x = .error e := by
  cases x <;> simp [Except.map]

instance decidableForallOk {P : α → Prop} [DecidablePred P] :
    (x : Except ε α) → Decidable (∀ a, x = .ok a → P a)
  | .ok a => decidable_of_iff (P a) ⟨fun h _ heq => Except.ok.inj heq ▸ h, fun h => h a rfl⟩
  | .error _ => isTrue nofun

@[simp] theorem mapError_ok {f : ε → ε'} {a : α} : (Except.ok a).mapError f = .ok a := rfl

@[simp] theorem mapError_error {f : ε → ε'} {e : ε} :
    (Except.error e : Except ε α).mapError f = .error (f e) := rfl

theorem mapError_eq_ok_iff {x : Except ε α} {f : ε → ε'} {a : α} :
    x.mapError f = .ok a ↔ x = .ok a := by
  cases x <;> simp

theorem mapError_eq_error_iff {x : Except ε α} {f : ε → ε'} {e' : ε'} :
    x.mapError f = .error e' ↔ ∃ e, x = .error e ∧ f e = e' := by
  cases x <;> simp

theorem exists_map_eq_ok_iff {x : Except ε α} {f : α → β} :
    (∃ b, x.map f = .ok b) ↔ ∃ a, x = .ok a := by
  cases x <;> simp [Except.map]

theorem bind_eq_ok_iff {x : Except ε α} {f : α → Except ε β} {b : β} :
    x >>= f = .ok b ↔ ∃ a, x = .ok a ∧ f a = .ok b := by
  cases x <;> simp [bind, Except.bind]

theorem exists_bind_eq_ok_iff {x : Except ε α} {f : α → Except ε β} :
    (∃ b, x >>= f = .ok b) ↔ ∃ a, x = .ok a ∧ ∃ b, f a = .ok b := by
  cases x with
  | error e =>
      constructor
      · rintro ⟨b, h⟩
        exact nomatch h
      · rintro ⟨a, h, -⟩
        exact nomatch h
  | ok a =>
      constructor
      · exact fun h => ⟨a, rfl, h⟩
      · rintro ⟨a', h, hb⟩
        obtain rfl := Except.ok.inj h
        exact hb

theorem bind_eq_error_iff {x : Except ε α} {f : α → Except ε β} {e : ε} :
    x >>= f = .error e ↔ x = .error e ∨ ∃ a, x = .ok a ∧ f a = .error e := by
  cases x <;> simp [bind, Except.bind]

theorem exists_eq_error_iff {x : Except ε α} : (∃ e, x = .error e) ↔ ¬ ∃ a, x = .ok a := by
  cases x <;> simp

theorem exists_mapM_eq_ok_iff {f : α → Except ε β} {xs : List α} :
    (∃ ys, xs.mapM f = .ok ys) ↔ ∀ x ∈ xs, ∃ y, f x = .ok y := by
  induction xs with
  | nil => simp [pure, Except.pure]
  | cons x xs ih =>
      rw [List.mapM_cons, exists_bind_eq_ok_iff, List.forall_mem_cons, ← ih]
      constructor
      · rintro ⟨y, hy, hys⟩
        obtain ⟨ys, hys, -⟩ := exists_bind_eq_ok_iff.mp hys
        exact ⟨⟨y, hy⟩, ys, hys⟩
      · rintro ⟨⟨y, hy⟩, ys, hys⟩
        exact ⟨y, hy, exists_bind_eq_ok_iff.mpr ⟨ys, hys, _, rfl⟩⟩

theorem exists_mapM_option_eq_ok_iff {f : α → Except ε β} {x? : Option α} :
    (∃ y?, x?.mapM f = .ok y?) ↔ ∀ x ∈ x?.toList, ∃ y, f x = .ok y := by
  cases x? with
  | none => simp [pure, Except.pure]
  | some x =>
      rw [Option.toList_some, List.forall_mem_singleton]
      exact exists_map_eq_ok_iff

/-- A list fails as its first member does, or else as the others do. -/
theorem mapM_cons_eq_error_iff {f : α → Except ε β} {x : α} {xs : List α} {e : ε} :
    (x :: xs).mapM f = .error e ↔ f x = .error e ∨ (∃ y, f x = .ok y) ∧ xs.mapM f = .error e := by
  rw [List.mapM_cons, bind_eq_error_iff]
  refine or_congr_right ?_
  constructor
  · rintro ⟨y, hy, h⟩
    refine ⟨⟨y, hy⟩, ?_⟩
    rcases bind_eq_error_iff.mp h with hxs | ⟨ys, -, hreturn⟩
    · exact hxs
    · exact nomatch hreturn
  · rintro ⟨⟨y, hy⟩, hxs⟩
    exact ⟨y, hy, bind_eq_error_iff.mpr (.inl hxs)⟩

theorem mapM_append_eq_error_iff {f : α → Except ε β} {xs ys : List α} {e : ε} :
    (xs ++ ys).mapM f = .error e ↔
      xs.mapM f = .error e ∨ (∀ x ∈ xs, ∃ y, f x = .ok y) ∧ ys.mapM f = .error e := by
  induction xs with
  | nil => simp [pure, Except.pure]
  | cons x xs ih =>
      rw [List.cons_append, mapM_cons_eq_error_iff, ih, mapM_cons_eq_error_iff,
        List.forall_mem_cons, and_or_left, or_assoc, and_assoc]

theorem mapM_option_eq_error_iff {f : α → Except ε β} {x? : Option α} {e : ε} :
    x?.mapM f = .error e ↔ x?.toList.mapM f = .error e := by
  cases x? with
  | none => exact iff_of_false nofun nofun
  | some x =>
      rw [Option.toList_some, mapM_cons_eq_error_iff]
      exact map_eq_error_iff.trans (or_iff_left fun ⟨_, h⟩ => nomatch h).symm

/-- A list whose members succeed gives what they give. -/
theorem mapM_eq_ok {f : α → Except ε β} {g : α → β} {xs : List α}
    (h : ∀ x ∈ xs, f x = .ok (g x)) : xs.mapM f = .ok (xs.map g) := by
  induction xs with
  | nil => rfl
  | cons x xs ih =>
      obtain ⟨hx, hxs⟩ := List.forall_mem_cons.mp h
      rw [List.mapM_cons, hx, ih hxs]
      rfl

/-- A list fails as the first of its members that fails. -/
theorem mapM_append_cons_eq_error {f : α → Except ε β} {g : α → β} {xs ys : List α} {x : α} {e : ε}
    (hxs : ∀ x ∈ xs, f x = .ok (g x)) (hx : f x = .error e) :
    (xs ++ x :: ys).mapM f = .error e := by
  rw [List.mapM_append, mapM_eq_ok hxs, List.mapM_cons, hx]
  rfl

/-- A list whose members are each taken back is taken back. -/
theorem mapM_map_eq_ok {f : β → Except ε α} {g : α → β} {xs : List α}
    (h : ∀ x ∈ xs, f (g x) = .ok x) : (xs.map g).mapM f = .ok xs := by
  rw [List.mapM_map]
  exact (mapM_eq_ok (g := id) h).trans (congrArg Except.ok (List.map_id xs))

/-- What a list of outcomes gives comes from its members. -/
theorem exists_of_mem_mapM {f : α → Except ε β} {xs : List α} {ys : List β}
    (h : xs.mapM f = .ok ys) : ∀ y ∈ ys, ∃ x ∈ xs, f x = .ok y := by
  induction xs generalizing ys with
  | nil =>
      obtain rfl : [] = ys := by simpa [pure, Except.pure] using h
      simp
  | cons x xs ih =>
      rw [List.mapM_cons, bind_eq_ok_iff] at h
      obtain ⟨y, hy, h⟩ := h
      obtain ⟨later, hlater, h⟩ := bind_eq_ok_iff.mp h
      obtain rfl : y :: later = ys := Except.ok.inj h
      intro z hz
      rcases List.mem_cons.mp hz with rfl | hz
      · exact ⟨x, List.mem_cons_self, hy⟩
      · obtain ⟨x', hx', hfx'⟩ := ih hlater z hz
        exact ⟨x', List.mem_cons_of_mem _ hx', hfx'⟩

/-- What is read off the results can be read off the members already. -/
theorem map_eq_map_of_mapM {γ : Type} {f : α → Except ε β} {p : β → γ} {q : α → γ} {xs : List α}
    {ys : List β} (h : xs.mapM f = .ok ys) (hpq : ∀ x ∈ xs, ∀ y, f x = .ok y → p y = q x) :
    ys.map p = xs.map q := by
  induction xs generalizing ys with
  | nil =>
      obtain rfl : [] = ys := Except.ok.inj h
      rfl
  | cons x xs ih =>
      rw [List.mapM_cons, bind_eq_ok_iff] at h
      obtain ⟨y, hy, h⟩ := h
      obtain ⟨later, hlater, h⟩ := bind_eq_ok_iff.mp h
      obtain rfl : y :: later = ys := Except.ok.inj h
      obtain ⟨hx, hxs⟩ := List.forall_mem_cons.mp hpq
      rw [List.map_cons, List.map_cons, hx y hy, ih hlater hxs]

/-- Every member of a list of outcomes that succeeds gives one of what the list gives. -/
theorem mem_of_mapM {f : α → Except ε β} {xs : List α} {ys : List β} (h : xs.mapM f = .ok ys)
    {x : α} (hx : x ∈ xs) {y : β} (hy : f x = .ok y) : y ∈ ys := by
  induction xs generalizing ys with
  | nil => simp at hx
  | cons first xs ih =>
      rw [List.mapM_cons, bind_eq_ok_iff] at h
      obtain ⟨z, hz, h⟩ := h
      obtain ⟨later, hlater, h⟩ := bind_eq_ok_iff.mp h
      obtain rfl : z :: later = ys := Except.ok.inj h
      rcases List.mem_cons.mp hx with rfl | hx
      · obtain rfl : z = y := Except.ok.inj (hz.symm.trans hy)
        exact List.mem_cons_self
      · exact List.mem_cons_of_mem _ (ih hlater hx)

/-- What holds of all that a list of outcomes gives holds of what each member gives. -/
theorem forall_mem_iff_of_mapM {f : α → Except ε β} {xs : List α} {ys : List β}
    (h : xs.mapM f = .ok ys) {P : β → Prop} :
    (∀ y ∈ ys, P y) ↔ ∀ x ∈ xs, ∃ y, f x = .ok y ∧ P y := by
  constructor
  · intro hall x hx
    obtain ⟨y, hy⟩ := exists_mapM_eq_ok_iff.mp ⟨ys, h⟩ x hx
    exact ⟨y, hy, hall y (mem_of_mapM h hx hy)⟩
  · intro hall y hy
    obtain ⟨x, hx, hfx⟩ := exists_of_mem_mapM h y hy
    obtain ⟨z, hz, hP⟩ := hall x hx
    obtain rfl : z = y := Except.ok.inj (hz.symm.trans hfx)
    exact hP

theorem exists_of_mem_mapM_option {f : α → Except ε β} {x? : Option α} {y? : Option β}
    (h : x?.mapM f = .ok y?) : ∀ y ∈ y?, ∃ x ∈ x?, f x = .ok y := by
  cases x? with
  | none =>
      obtain rfl : none = y? := Except.ok.inj h
      simp
  | some x =>
      obtain ⟨y, hy, rfl⟩ := map_eq_ok_iff.mp h
      simpa using hy

theorem map_map {γ : Type} (x : Except ε α) (f : α → β) (g : β → γ) :
    (x.map f).map g = x.map (g ∘ f) := by
  cases x <;> rfl

theorem bind_map {γ : Type} (x : Except ε α) (f : α → β) (g : β → Except ε γ) :
    (x.map f >>= g) = x >>= fun a => g (f a) := by
  cases x <;> rfl

theorem map_bind {γ : Type} (x : Except ε α) (f : α → Except ε β) (g : β → γ) :
    (x >>= f).map g = x >>= fun a => (f a).map g := by
  cases x <;> rfl

end SensorNode.Outcome
