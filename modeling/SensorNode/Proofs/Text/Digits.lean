import SensorNode.Text.Digits
import Mathlib.Algebra.Group.Nat.Defs
import Mathlib.Data.List.Induction

/-!
# Reading back digits

A number has one text of decimal digits with its value and without a zero in front that could be
left out, the one that it is written with.

Hexadecimal digits of a fixed width read back as the number they were written for, cut to what the
width holds. Any text of hexadecimal digits has a value, and writing that value gives the text back
in lower case.
-/

namespace SensorNode.Text

theorem hexDigit?_digitChar : ∀ d, d < 16 → hexDigit? (Nat.digitChar d) = some d := by
  decide

/-- Each digit is less than the base. -/
theorem mem_fixedDigits {base width n : Nat} {c : Char} (hbase : 0 < base)
    (h : c ∈ fixedDigits base width n) : ∃ d < base, c = Nat.digitChar d := by
  induction width generalizing n with
  | zero => simp [fixedDigits] at h
  | succ width ih =>
    rw [fixedDigits, List.mem_append, List.mem_singleton] at h
    rcases h with h | rfl
    · exact ih h
    · exact ⟨n % base, Nat.mod_lt n hbase, rfl⟩

theorem fixedDigits_zero (base width : Nat) :
    fixedDigits base width 0 = List.replicate width '0' := by
  induction width with
  | zero => rfl
  | succ width ih =>
    rw [fixedDigits, Nat.zero_div, Nat.zero_mod, ih, List.replicate_succ']
    rfl

theorem isDigit_of_mem_toString {n : Nat} {c : Char} (h : c ∈ (toString n).toList) :
    c.isDigit = true := by
  rw [Nat.toString_eq_repr, Nat.repr, String.toList_ofList] at h
  exact Nat.isDigit_of_mem_toDigits (by decide) (by decide) h

/-- Different numbers are written differently. -/
theorem eq_of_toString_eq {m n : Nat} (h : toString m = toString n) : m = n := by
  have hdigits : Nat.toDigits 10 m = Nat.toDigits 10 n := by
    simpa only [Nat.toString_eq_repr, Nat.repr, String.toList_ofList] using
      congrArg String.toList h
  rw [← Nat.ofDigitChars_toDigits (b := 10) (n := m) (by decide) (by decide), hdigits,
    Nat.ofDigitChars_toDigits (by decide) (by decide)]

/-- Only zero starts with the digit zero. -/
theorem head?_toString {n : Nat} (h : 0 < n) : (toString n).toList.head? ≠ some '0' := by
  rw [Nat.toString_eq_repr, Nat.repr_eq_ofList_toDigits, String.toList_ofList]
  induction n using Nat.strongRecOn with
  | ind n ih =>
    by_cases hn : n < 10
    · have hdigit : ∀ d < 10, 0 < d → Nat.digitChar d ≠ '0' := by decide
      rw [Nat.toDigits_of_lt_base hn, List.head?_cons]
      exact fun heq => hdigit n hn h (Option.some.inj heq)
    · have hhead := ih (n / 10) (Nat.div_lt_self h (by decide)) (by omega)
      obtain ⟨c, cs, hdigits⟩ := List.exists_cons_of_ne_nil (@Nat.toDigits_ne_nil (n / 10) 10)
      rw [hdigits] at hhead
      rw [Nat.toDigits_of_base_le (by decide) (by omega), hdigits]
      exact hhead

/-- The digits of a number, with a zero in front only if it is the whole of them. -/
structure IsDecimal (digits : List Char) (n : Nat) : Prop where
  ne_nil : digits ≠ []
  digit : ∀ c ∈ digits, '0' ≤ c ∧ c ≤ '9'
  leading : digits.head? = some '0' → digits = ['0']
  value : Nat.ofDigitChars 10 digits 0 = n

theorem exists_digitChar {c : Char} (h : '0' ≤ c ∧ c ≤ '9') : ∃ d < 10, c = Nat.digitChar d := by
  have hdigits : ∀ d < 10, Char.ofNat (48 + d) = Nat.digitChar d := by decide
  have hlow : 48 ≤ c.toNat := UInt32.le_iff_toNat_le.mp h.1
  have hhigh : c.toNat ≤ 57 := UInt32.le_iff_toNat_le.mp h.2
  refine ⟨c.toNat - 48, by omega, ?_⟩
  rw [← hdigits _ (by omega), Nat.add_sub_cancel' hlow, Char.ofNat_toNat]

theorem IsDecimal.eq_toDigits {digits : List Char} {n : Nat} (h : IsDecimal digits n) :
    digits = Nat.toDigits 10 n := by
  induction digits using List.reverseRecOn generalizing n with
  | nil => exact absurd rfl h.ne_nil
  | append_singleton cs c ih =>
      obtain ⟨hcs, hc⟩ := List.forall_mem_append.mp h.digit
      obtain ⟨d, hd, rfl⟩ := exists_digitChar (hc c List.mem_cons_self)
      have hvalue : 10 * Nat.ofDigitChars 10 cs 0 + d = n := by
        rw [← h.value, Nat.ofDigitChars_append, Nat.ofDigitChars_cons_digitChar_of_lt_ten hd,
          Nat.ofDigitChars_nil]
      cases cs with
      | nil =>
          obtain rfl : d = n := by simpa using hvalue
          exact (Nat.toDigits_of_lt_base hd).symm
      | cons first rest =>
          have hfirst : first ≠ '0' := by
            rintro rfl
            simpa using h.leading rfl
          have hrest : first :: rest = Nat.toDigits 10 (Nat.ofDigitChars 10 (first :: rest) 0) :=
            ih ⟨List.cons_ne_nil _ _, hcs, fun hzero => absurd (Option.some.inj hzero) hfirst, rfl⟩
          have hpos : 0 < Nat.ofDigitChars 10 (first :: rest) 0 := by
            apply Nat.pos_of_ne_zero
            intro hzero
            rw [hzero, Nat.toDigits_zero] at hrest
            exact hfirst (List.cons.inj hrest).1
          rw [← hvalue, ← Nat.toDigits_append_toDigits (by decide) hpos hd, ← hrest,
            Nat.toDigits_of_lt_base hd]

/-- The digits of a number are those that it is written with. -/
theorem isDecimal_iff {digits : List Char} {n : Nat} :
    IsDecimal digits n ↔ digits = (toString n).toList := by
  have htoString : (toString n).toList = Nat.toDigits 10 n := Nat.toList_repr
  constructor
  · intro h
    rw [htoString, h.eq_toDigits]
  · rintro rfl
    constructor
    case ne_nil =>
      rw [htoString]
      exact Nat.toDigits_ne_nil
    case digit =>
      intro c hc
      have hdigit := isDigit_of_mem_toString hc
      simp only [Char.isDigit, Bool.and_eq_true, decide_eq_true_eq] at hdigit
      exact hdigit
    case leading =>
      intro hzero
      cases n with
      | zero => rfl
      | succ n => exact absurd hzero (head?_toString n.succ_pos)
    case value => rw [htoString, Nat.ofDigitChars_ten_toDigits]

theorem hexValue?_concat (cs : List Char) (c : Char) :
    hexValue? (cs ++ [c]) = do return 16 * (← hexValue? cs) + (← hexDigit? c) := by
  simp [hexValue?, List.foldl_append]

/-- Reading the digits of a number gives back what the width holds of it. -/
theorem hexValue?_fixedDigits (width n : Nat) :
    hexValue? (fixedDigits 16 width n) = some (n % 16 ^ width) := by
  induction width generalizing n with
  | zero => simp [fixedDigits, hexValue?, Nat.mod_one]
  | succ width ih =>
    have hdigit := hexDigit?_digitChar (n % 16) (Nat.mod_lt _ (by decide))
    have hpow : 16 ^ (width + 1) = 16 * 16 ^ width := by rw [Nat.pow_succ, Nat.mul_comm]
    rw [fixedDigits, hexValue?_concat, ih, hdigit, hpow, Nat.mod_mul]
    simp [Nat.add_comm]

theorem toList_toLower (s : String) : s.toLower.toList = s.toList.map Char.toLower :=
  String.toList_map

/-- The hexadecimal digits of either case. -/
def hexDigits : List Char := "0123456789abcdefABCDEF".toList

/-- The value of a hexadecimal digit, its place among those of lower case. -/
def digitValue (c : Char) : Nat := "0123456789abcdef".toList.idxOf c.toLower

/-- The value of a text of hexadecimal digits. -/
def hexValue (cs : List Char) : Nat := cs.foldl (fun value c => 16 * value + digitValue c) 0

theorem hexDigit?_of_mem : ∀ c ∈ hexDigits, hexDigit? c = some (digitValue c) := by
  have hall : hexDigits.all fun c => hexDigit? c = some (digitValue c) := by decide
  exact fun c hc => of_decide_eq_true (List.all_eq_true.mp hall c hc)

theorem hexDigit?_of_notMem {c : Char} (h : c ∉ hexDigits) : hexDigit? c = none := by
  have hascii : ∀ n < 128, Char.ofNat n ∉ hexDigits → hexDigit? (Char.ofNat n) = none := by
    decide +kernel
  by_cases hlt : c.toNat < 128
  · rw [← Char.ofNat_toNat c] at h ⊢
    exact hascii c.toNat hlt h
  · have hle {d : Char} (hd : d.toNat < 128) : ¬c ≤ d := fun hle => hlt (Nat.lt_of_le_of_lt hle hd)
    simp [hexDigit?, hle (d := '9') (by decide), hle (d := 'f') (by decide),
      hle (d := 'F') (by decide)]

theorem hexValue_concat (cs : List Char) (c : Char) :
    hexValue (cs ++ [c]) = 16 * hexValue cs + digitValue c := by
  simp [hexValue]

/-- A text of digits has a value. -/
theorem hexValue?_of_hexDigits {cs : List Char} (h : ∀ c ∈ cs, c ∈ hexDigits) :
    hexValue? cs = some (hexValue cs) := by
  induction cs using List.reverseRecOn with
  | nil => rfl
  | append_singleton cs c ih =>
      obtain ⟨hcs, hc⟩ := List.forall_mem_append.mp h
      rw [hexValue?_concat, ih hcs, hexDigit?_of_mem c (hc c List.mem_cons_self), hexValue_concat]
      rfl

/-- No other text has a value. -/
theorem hexValue?_eq_none {cs : List Char} (h : ¬∀ c ∈ cs, c ∈ hexDigits) :
    hexValue? cs = none := by
  induction cs using List.reverseRecOn with
  | nil => exact absurd nofun h
  | append_singleton cs c ih =>
      rw [hexValue?_concat]
      by_cases hcs : ∀ c ∈ cs, c ∈ hexDigits
      · have hc : c ∉ hexDigits := fun hc =>
          h (List.forall_mem_append.mpr ⟨hcs, (List.forall_mem_singleton).mpr hc⟩)
        rw [hexDigit?_of_notMem hc, hexValue?_of_hexDigits hcs]
        rfl
      · rw [ih hcs]
        rfl

theorem digitChar_digitValue : ∀ c ∈ hexDigits,
    digitValue c < 16 ∧ Nat.digitChar (digitValue c) = c.toLower := by
  have hall : hexDigits.all fun c =>
      digitValue c < 16 ∧ Nat.digitChar (digitValue c) = c.toLower := by decide
  exact fun c hc => of_decide_eq_true (List.all_eq_true.mp hall c hc)

/-- Writing the value of digits gives them back in lower case. -/
theorem fixedDigits_hexValue {cs : List Char} (h : ∀ c ∈ cs, c ∈ hexDigits) :
    fixedDigits 16 cs.length (hexValue cs) = cs.map Char.toLower := by
  induction cs using List.reverseRecOn with
  | nil => rfl
  | append_singleton cs c ih =>
      obtain ⟨hcs, hc⟩ := List.forall_mem_append.mp h
      obtain ⟨hlt, hchar⟩ := digitChar_digitValue c (hc c List.mem_cons_self)
      have hdiv : (16 * hexValue cs + digitValue c) / 16 = hexValue cs := by omega
      have hmod : (16 * hexValue cs + digitValue c) % 16 = digitValue c := by omega
      rw [List.length_append, List.length_singleton, hexValue_concat, fixedDigits, hdiv, hmod,
        ih hcs, hchar, List.map_append, List.map_singleton]

end SensorNode.Text
