import Mathlib.Data.Int.ModEq
import Mathlib.Data.Nat.Digits.Lemmas
import Mathlib.Tactic.IntervalCases
import SensorNode.Identity.Token
import SensorNode.Proofs.Text.Digits

/-!
# Hashes as numbers

The rolling hash of a text is a number cut to 32 bits, the one whose digits in base 31 are the
UTF-16 units of the text. So what follows a part of the text only multiplies its value by a power of
31, which is odd, and adds something; and a decimal number in the text counts with its digits read
in base 31 instead of ten.

Modulo 2048 such readings can agree for different numbers below 2048, but not for close ones.
-/

namespace SensorNode.Identity

def units (cs : List Char) : List Nat := cs.flatMap utf16Units

/-- The number whose digits in base 31 are the UTF-16 units of a text, the first one highest. -/
def textValue (cs : List Char) : Nat := Nat.ofDigits 31 (units cs).reverse

theorem rollingHash_eq (cs : List Char) : rollingHash cs = UInt32.ofNat (textValue cs) := by
  change (units cs).foldl (fun hash unit => hash * 31 + UInt32.ofNat unit) 0 =
    UInt32.ofNat (Nat.ofDigits 31 (units cs).reverse)
  induction units cs using List.reverseRecOn with
  | nil => rfl
  | append_singleton earlier unit ih =>
      rw [List.foldl_append, ih, List.reverse_append, List.reverse_singleton,
        List.singleton_append, Nat.ofDigits_cons, UInt32.ofNat_add, UInt32.ofNat_mul,
        UInt32.add_comm, UInt32.mul_comm]
      rfl

theorem textValue_append (xs ys : List Char) :
    textValue (xs ++ ys) = textValue xs * 31 ^ (units ys).length + textValue ys := by
  rw [textValue, units, List.flatMap_append, List.reverse_append, Nat.ofDigits_append,
    List.length_reverse, Nat.add_comm, Nat.mul_comm]
  rfl

theorem coprime_pow (n : Nat) : Nat.gcd 2048 (31 ^ n) = 1 :=
  Nat.Coprime.pow_right n (by decide)

/-- What comes after does not change whether values agree. -/
theorem textValue_append_modEq_iff (xs ys back : List Char) :
    textValue (xs ++ back) ≡ textValue (ys ++ back) [MOD 2048] ↔
      textValue xs ≡ textValue ys [MOD 2048] := by
  rw [textValue_append, textValue_append]
  constructor
  · intro h
    exact (Nat.ModEq.add_right_cancel' _ h).cancel_right_of_coprime (coprime_pow _)
  · intro h
    exact (h.mul_right _).add_right _

/-- Neither does what comes before, if there are as many units in both. -/
theorem append_textValue_modEq_iff (front : List Char) {xs ys : List Char}
    (hlength : (units xs).length = (units ys).length) :
    textValue (front ++ xs) ≡ textValue (front ++ ys) [MOD 2048] ↔
      textValue xs ≡ textValue ys [MOD 2048] := by
  rw [textValue_append, textValue_append, hlength]
  exact ⟨Nat.ModEq.add_left_cancel' _, Nat.ModEq.add_left _⟩

/-- A text is even or odd as its parts are together. -/
theorem textValue_append_mod_two (xs ys : List Char) :
    textValue (xs ++ ys) % 2 = (textValue xs + textValue ys) % 2 := by
  have hodd : 31 ^ (units ys).length ≡ 1 ^ (units ys).length [MOD 2] := Nat.ModEq.pow _ (by decide)
  rw [one_pow] at hodd
  rw [textValue_append]
  have hmul := (hodd.mul_left (textValue xs)).add_right (textValue ys)
  rwa [Nat.mul_one] at hmul

/-- The decimal digits of a number, read in base 31. -/
def inBase31 (n : Nat) : Nat := Nat.ofDigits 31 (Nat.digits 10 n)

@[simp] theorem inBase31_zero : inBase31 0 = 0 := rfl

theorem inBase31_eq (n : Nat) : inBase31 n = n % 10 + 31 * inBase31 (n / 10) := by
  cases n with
  | zero => simp
  | succ n => rw [inBase31, Nat.digits_def' (by decide) n.succ_pos, Nat.ofDigits_cons, inBase31]

theorem units_digitChar : ∀ d < 10, units [Nat.digitChar d] = [48 + d] := by
  decide

/-- A digit is one unit. -/
theorem length_units_of_isDigit {cs : List Char} (h : ∀ c ∈ cs, c.isDigit) :
    (units cs).length = cs.length := by
  induction cs with
  | nil => rfl
  | cons c cs ih =>
      obtain ⟨hc, hcs⟩ := List.forall_mem_cons.mp h
      have hsmall : c.toNat < 0x10000 := by
        simp only [Char.isDigit, Bool.and_eq_true, decide_eq_true_eq] at hc
        exact Nat.lt_of_le_of_lt (UInt32.le_iff_toNat_le.mp hc.2) (by decide)
      rw [units, List.flatMap_cons, List.length_append, ← units, ih hcs, utf16Units,
        if_pos hsmall, List.length_singleton, List.length_cons, Nat.add_comm]

theorem length_units_toString (n : Nat) :
    (units (toString n).toList).length = (toString n).length := by
  rw [length_units_of_isDigit fun c hc => Text.isDigit_of_mem_toString hc, String.length_toList]

/-- The text of a number has its digits, each raised by the code of zero. -/
theorem textValue_toString (n : Nat) :
    textValue (toString n).toList =
      48 * Nat.ofDigits 31 (List.replicate (toString n).length 1) + inBase31 n := by
  rw [Nat.toString_eq_repr, Nat.repr_eq_ofList_toDigits, String.toList_ofList,
    String.length_ofList]
  induction n using Nat.strongRecOn with
  | ind n ih =>
    have hunits := units_digitChar (n % 10) (Nat.mod_lt n (by decide))
    have hlast : textValue [Nat.digitChar (n % 10)] = 48 + n % 10 := by
      rw [textValue, hunits]
      exact Nat.ofDigits_singleton
    by_cases hn : n < 10
    · have hsmall : n % 10 = n := Nat.mod_eq_of_lt hn
      have hzero : n / 10 = 0 := by omega
      rw [hsmall] at hlast
      rw [Nat.toDigits_of_lt_base hn, hlast, inBase31_eq, hzero, inBase31_zero, hsmall]
      rfl
    · rw [Nat.toDigits_of_base_le (by decide) (by omega)]
      calc
        _ = textValue (Nat.toDigits 10 (n / 10)) * 31 + (48 + n % 10) := by
          rw [textValue_append, hlast, hunits]
          rfl
        _ = 48 * (1 + 31 * Nat.ofDigits 31
              (List.replicate (Nat.toDigits 10 (n / 10)).length 1)) +
            (n % 10 + 31 * inBase31 (n / 10)) := by
          rw [ih (n / 10) (by omega)]
          ring
        _ = _ := by
          rw [← inBase31_eq, List.length_append, List.length_singleton, List.replicate_succ,
            Nat.ofDigits_cons]

/-- Numbers with as many digits agree as their digits read in base 31 do. -/
theorem textValue_toString_modEq_iff {m n : Nat}
    (hlength : (toString m).length = (toString n).length) :
    textValue (toString m).toList ≡ textValue (toString n).toList [MOD 2048] ↔
      inBase31 m ≡ inBase31 n [MOD 2048] := by
  rw [textValue_toString, textValue_toString, hlength]
  exact ⟨Nat.ModEq.add_left_cancel' _, Nat.ModEq.add_left _⟩

/-- The text of a number is even or odd as the sum of its digits is. -/
theorem textValue_toString_mod_two (n : Nat) :
    textValue (toString n).toList % 2 = (Nat.digits 10 n).sum % 2 := by
  have hsum : inBase31 n % 2 = (Nat.digits 10 n).sum % 2 := by
    rw [← Nat.ofDigits_one]
    exact Nat.ofDigits_modEq' 31 1 2 (by decide) (Nat.digits 10 n)
  rw [textValue_toString, ← hsum]
  omega

/-- Digits by which two close numbers differ do not make up a multiple of 2048 in base 31. -/
theorem false_of_close {x y z w k : Int} (hy : -9 ≤ y ∧ y ≤ 9) (hz : -9 ≤ z ∧ z ≤ 9)
    (hw : -9 ≤ w ∧ w ≤ 9) (hpos : 0 < 1000 * x + 100 * y + 10 * z + w)
    (hclose : 1000 * x + 100 * y + 10 * z + w < 242)
    (h : 29791 * x + 961 * y + 31 * z + w = 2048 * k) : False := by
  have hx : x = 0 ∨ x = 1 := by omega
  -- 31 is -1 modulo 32, and the alternating sum of such digits is less than 32
  have hw' : w = z - y + x := by omega
  have hz' : z = 64 * k - 931 * x - 30 * y := by omega
  subst hw' hz'
  rcases hx with rfl | rfl
  · obtain ⟨hlow, hhigh⟩ : 0 ≤ y ∧ y ≤ 3 := by omega
    interval_cases y <;> omega
  · obtain ⟨hlow, hhigh⟩ : -9 ≤ y ∧ y ≤ -7 := by omega
    interval_cases y <;> omega

/-- Different numbers whose digits agree in base 31 are at least 242 apart. -/
theorem add_le_of_inBase31_modEq {m n : Nat} (hlt : m < n) (hn : n < 2048)
    (h : inBase31 m ≡ inBase31 n [MOD 2048]) : m + 242 ≤ n := by
  have hdigits {i : Nat} (hi : i < 2048) : inBase31 i =
      i % 10 + 31 * (i / 10 % 10 + 31 * (i / 10 / 10 % 10 + 31 * (i / 10 / 10 / 10))) := by
    have hlast : inBase31 (i / 10 / 10 / 10) = i / 10 / 10 / 10 := by
      have hsmall : i / 10 / 10 / 10 / 10 = 0 := by omega
      rw [inBase31_eq, hsmall, inBase31_zero, Nat.mul_zero, Nat.add_zero]
      exact Nat.mod_eq_of_lt (by omega)
    rw [inBase31_eq, inBase31_eq (i / 10), inBase31_eq (i / 10 / 10), hlast]
  rw [hdigits (hlt.trans hn), hdigits hn, Nat.modEq_iff_dvd] at h
  obtain ⟨k, hk⟩ := h
  push_cast at hk
  by_contra hfar
  apply false_of_close (x := n / 10 / 10 / 10 - m / 10 / 10 / 10)
    (y := n / 10 / 10 % 10 - m / 10 / 10 % 10) (z := n / 10 % 10 - m / 10 % 10)
    (w := n % 10 - m % 10) (k := k) <;> omega

/-- Taken as a signed word, a hash is still the value of the text modulo 2048. -/
theorem toInt_rollingHash_modEq (cs : List Char) :
    (rollingHash cs).toInt32.toInt ≡ textValue cs [ZMOD 2048] := by
  have hsigned : (rollingHash cs).toInt32.toInt = (textValue cs : Int).bmod (2 ^ 32) := by
    rw [rollingHash_eq]
    exact BitVec.toInt_ofNat' (textValue cs)
  have hword : (rollingHash cs).toInt32.toInt ≡ textValue cs [ZMOD (2 ^ 32 : Nat)] := by
    rw [hsigned]
    exact Int.bmod_emod
  exact hword.of_dvd (by decide)

/-- Absolute values agree when the numbers do up to their signs. -/
theorem natAbs_mod_eq_iff (a b : Int) :
    a.natAbs % 2048 = b.natAbs % 2048 ↔
      ((a < 0 ↔ b < 0) ∧ a ≡ b [ZMOD 2048]) ∨ (¬(a < 0 ↔ b < 0) ∧ a ≡ -b [ZMOD 2048]) := by
  unfold Int.ModEq
  omega

end SensorNode.Identity
