import Mathlib.Data.List.Forall2
import SensorNode.Json.Decode
import SensorNode.Json.Single
import SensorNode.Proofs.Json.ReadBack

/-!
# What is written for values

Whatever value is written, its document is legible and is decoded to the value. A single precision
number is written legibly, if it is finite or not; what it is decoded to is not told here.
-/

namespace SensorNode

namespace Number

theorem Interval.contains_of_nearest? {i : Interval} {n : Nat} (h : i.nearest? = some n) :
    i.contains n := by
  simp only [nearest?] at h
  split at h
  · next hbelow habove =>
    split at h <;> cases h
    · exact hbelow
    · exact habove
  · next hbelow _ =>
    cases h
    exact hbelow
  · next _ habove =>
    cases h
    exact habove
  · cases h

theorem Interval.pos_of_contains {i : Interval} (hlow : 0 < i.low) (hhigh : 0 < i.high) {n : Nat}
    (h : i.contains n) : 0 < n := by
  refine Nat.pos_of_ne_zero ?_
  rintro rfl
  simp only [contains, Nat.zero_mul, Bool.or_eq_true, Bool.and_eq_true, decide_eq_true_eq] at h
  omega

/-- No digits are lost: the shortest decimal of a number is not zero. -/
theorem Magnitude.shortest?_pos {x : Magnitude} {decimal : Decimal}
    (h : x.shortest? = some decimal) : 0 < decimal.digits := by
  rw [shortest?] at h
  split at h
  · cases h
  · next hsignificand =>
    obtain ⟨exponent, -, hgrid⟩ := List.exists_of_findSome?_eq_some h
    obtain ⟨digits, hnearest, rfl⟩ := Option.map_eq_some_iff.mp hgrid
    have hdown : 0 < Nat.pow 10 (-exponent).toNat := Nat.pow_pos (by decide)
    have hunit : 0 < Nat.pow 2 (x.exponent - 2).toNat := Nat.pow_pos (by decide)
    have hlow : 0 < 4 * x.significand - if x.edge then 1 else 2 := by
      split <;> omega
    have hhigh : 0 < 4 * x.significand + 2 := by omega
    exact Interval.pos_of_contains (Nat.mul_pos (Nat.mul_pos hlow hunit) hdown)
      (Nat.mul_pos (Nat.mul_pos hhigh hunit) hdown) (Interval.contains_of_nearest? hnearest)

end Number

namespace Json

theorem isDigits_toString (n : Nat) : IsDigits (toString n).toList := by
  refine ⟨?_, fun _ => Text.isDigit_of_mem_toString⟩
  simp [Nat.toString_eq_repr]

theorem IsDigits.append {xs ys : List Char} (hxs : IsDigits xs) (hys : ∀ c ∈ ys, c.isDigit) :
    IsDigits (xs ++ ys) :=
  ⟨List.append_ne_nil_of_left_ne_nil hxs.1 ys, List.forall_mem_append.mpr ⟨hxs.2, hys⟩⟩

theorem isDigit_of_mem_zeros {n : Nat} {c : Char} (h : c ∈ List.replicate n '0') :
    c.isDigit = true := by
  rw [List.eq_of_mem_replicate h]
  rfl

theorem IsDigits.take {ds : List Char} (h : IsDigits ds) {n : Nat} (hn : 0 < n) :
    IsDigits (ds.take n) := by
  refine ⟨fun hnil => ?_, fun c hc => h.2 c (List.mem_of_mem_take hc)⟩
  exact (List.take_eq_nil_iff.mp hnil).elim (Nat.ne_of_gt hn) h.1

theorem IsDigits.drop {ds : List Char} (h : IsDigits ds) {n : Nat} (hn : n < ds.length) :
    IsDigits (ds.drop n) :=
  ⟨List.ne_nil_of_length_pos (by rw [List.length_drop]; omega),
    fun c hc => h.2 c (List.mem_of_mem_drop hc)⟩

/-- A number whose whole part does not start with a zero, or is one. -/
theorem Number.isLiteral {n : Number} (hwhole : IsDigits n.whole)
    (hleading : n.whole = ['0'] ∨ n.whole.head? ≠ some '0')
    (hfraction : ∀ digits ∈ n.fraction, IsDigits digits)
    (hexponent : ∀ e ∈ n.exponent, IsDigits e.digits) : n.IsLiteral where
  whole := hwhole
  leading cs hcs := by
    rcases hleading with hzero | hhead
    · exact (List.cons.inj (hcs.symm.trans hzero)).2
    · exact absurd (congrArg List.head? hcs) hhead
  fraction := hfraction
  exponent := hexponent

theorem isLiteral_ofMagnitude (negative : Bool) (x : SensorNode.Number.Magnitude) :
    (Number.ofMagnitude negative x).IsLiteral := by
  have hzero : IsDigits ['0'] := ⟨List.cons_ne_nil _ _, List.forall_mem_singleton.mpr rfl⟩
  rw [Number.ofMagnitude]
  split
  · exact Number.isLiteral hzero (.inl rfl) (by simpa using hzero) (by simp)
  · next decimal hdecimal =>
    have hdigits := isDigits_toString decimal.digits
    have hhead := Text.head?_toString (SensorNode.Number.Magnitude.shortest?_pos hdecimal)
    generalize (toString decimal.digits).toList = ds at hdigits hhead
    have hheadTake {n : Nat} (hn : 0 < n) : (ds.take n).head? ≠ some '0' := by
      rwa [List.head?_take, if_neg (Nat.ne_of_gt hn)]
    dsimp only
    split
    · obtain ⟨c, cs, rfl⟩ := List.exists_cons_of_ne_nil hdigits.1
      exact Number.isLiteral (hdigits.append fun _ => isDigit_of_mem_zeros) (.inr hhead)
        (by simpa using hzero) (by simp)
    split
    · next hwhole hpoint =>
      have htake : 0 < (ds.length + decimal.exponent).toNat := by omega
      have hdrop : (ds.length + decimal.exponent).toNat < ds.length := by omega
      exact Number.isLiteral (hdigits.take htake) (.inr (hheadTake htake))
        (by simpa using hdigits.drop hdrop) (by simp)
    split
    · have hfraction :
          IsDigits (List.replicate (-(ds.length + decimal.exponent)).toNat '0' ++ ds) :=
        ⟨List.append_ne_nil_of_right_ne_nil _ hdigits.1,
          List.forall_mem_append.mpr ⟨fun _ => isDigit_of_mem_zeros, hdigits.2⟩⟩
      exact Number.isLiteral hzero (.inl rfl) (by simpa using hfraction) (by simp)
    · refine Number.isLiteral (hdigits.take (by decide)) (.inr (hheadTake (by decide))) ?_ ?_
      · have hpos := List.length_pos_iff.mpr hdigits.1
        intro digits hfraction
        split at hfraction
        · cases hfraction
        · next hlength =>
          cases hfraction
          exact hdigits.drop (by omega)
      · simpa using isDigits_toString _

@[simp] theorem legible_nat (n : Nat) : (nat n).Legible := by
  refine .number (Number.isLiteral (isDigits_toString n) ?_ (by simp) (by simp))
  rcases Nat.eq_zero_or_pos n with rfl | h
  · exact .inl rfl
  · exact .inr (Text.head?_toString h)

@[simp] theorem legible_single (x : Float32) : (single x).Legible := by
  rw [single]
  split
  · exact .number (isLiteral_ofMagnitude _ _)
  · exact .null

section

variable {α : Type} {write : α → Json}

attribute [simp] Legible.null Legible.bool Legible.text

@[simp] theorem legible_list_iff {xs : List α} :
    (list write xs).Legible ↔ ∀ x ∈ xs, (write x).Legible := by
  refine ⟨fun h x hx => ?_, fun h => .array fun item hitem => ?_⟩
  · rw [list] at h
    cases h with
    | array hitems => exact hitems _ (List.mem_map_of_mem hx)
  · obtain ⟨x, hx, rfl⟩ := List.mem_map.mp hitem
    exact h x hx

@[simp] theorem legible_optional_iff {x : Option α} :
    (optional write x).Legible ↔ ∀ a ∈ x, (write a).Legible := by
  cases x <;> simp [optional]

@[simp] theorem legible_record_iff {members : List (String × Json)} :
    (record members).Legible ↔ ∀ member ∈ members, member.2.Legible := by
  refine ⟨fun h member hmember => ?_, fun h => .object ?_ ?_⟩
  · rw [record] at h
    cases h with
    | object _ hvalues => exact hvalues _ (List.mem_map_of_mem hmember)
  · exact List.forall_mem_map.mpr fun member _ => ⟨member.1, rfl⟩
  · exact List.forall_mem_map.mpr h

end

/-- A decoder goes on with what its first step gives. -/
theorem bind_of_eq_some {α β : Type} {x : Option α} {a : α} {f : α → Option β} (h : x = some a) :
    (x >>= f) = f a := by
  rw [h]
  rfl

theorem natBelow?_nat {bound n : Nat} (h : n < bound) : natBelow? bound (nat n) = some n := by
  simp [nat, natBelow?, h]

theorem bool?_bool (value : Bool) : bool? (bool value) = some value := rfl

theorem text?_text (s : String) : text? (text s) = some s := rfl

theorem choice?_text {α : Type} {ofTag? : String → Option α} {tag : α → String}
    (h : ∀ a, ofTag? (tag a) = some a) (a : α) : choice? ofTag? (text (tag a)) = some a :=
  h a

theorem uint8?_nat (n : UInt8) : uint8? (nat n.toNat) = some n := by
  simp [uint8?, natBelow?_nat n.toNat_lt]

theorem uint16?_nat (n : UInt16) : uint16? (nat n.toNat) = some n := by
  simp [uint16?, natBelow?_nat n.toNat_lt]

theorem uint32?_nat (n : UInt32) : uint32? (nat n.toNat) = some n := by
  simp [uint32?, natBelow?_nat n.toNat_lt]

section

variable {α : Type} {read? : Json → Option α} {write : α → Json}

/-- Items are decoded one by one. -/
theorem list?_of_forall₂ {xs : List α} {items : List Json}
    (h : List.Forall₂ (fun x item => read? item = some x) xs items) :
    list? read? (array items) = some xs := by
  rw [list?]
  induction h with
  | nil => rfl
  | cons hitem h ih => rw [List.mapM_cons, hitem, ih]; rfl

theorem list?_list (h : ∀ x, read? (write x) = some x) (xs : List α) :
    list? read? (list write xs) = some xs :=
  list?_of_forall₂ (List.forall₂_map_right_iff.mpr (List.forall₂_same.mpr fun x _ => h x))

theorem optional?_optional (h : ∀ x, read? (write x) = some x) (hnull : ∀ x, write x ≠ null)
    (x : Option α) : optional? read? (optional write x) = some x := by
  cases x with
  | none => rfl
  | some a =>
      rw [optional, optional?, h]
      · rfl
      · exact hnull a

end

end Json

end SensorNode
