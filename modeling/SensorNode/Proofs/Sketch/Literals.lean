import Mathlib.Tactic.SplitIfs
import SensorNode.Proofs.Text.Digits
import SensorNode.Sketch.Literal

/-!
# Literals read back

A quoted text, read by the rules of C, gives back the text and whatever follows the literal. Each
character is written so that nothing after it is drawn in, and none is a control character, so a
literal stands on one line. No quote inside it can be taken for its end.
-/

namespace SensorNode.Sketch.Literal

/-- A character that a literal cannot hold as it is. -/
def IsControl (c : Char) : Prop := c.toNat < 32 ∨ c.toNat = 127

instance : DecidablePred IsControl := fun _ => inferInstanceAs (Decidable (_ ∨ _))

/-- Characters of which none is a control character. -/
def Plain (cs : List Char) : Prop := ∀ c ∈ cs, ¬ IsControl c

instance : DecidablePred Plain := fun cs => List.decidableBAll (fun c => ¬ IsControl c) cs

theorem octalDigit?_digitChar : ∀ d < 8, octalDigit? (Nat.digitChar d) = some d := by
  decide

/-- Three octal digits are read as one character, whatever follows. -/
theorem readBody?_octal {c : Char} (h : c.toNat < 512) (rest : List Char) :
    readBody? ('\\' :: (Text.fixedDigits 8 3 c.toNat ++ rest)) = before c (readBody? rest) := by
  have hdigit (n : Nat) : octalDigit? (Nat.digitChar (n % 8)) = some (n % 8) :=
    octalDigit?_digitChar _ (Nat.mod_lt _ (by decide))
  have hvalue : 64 * (c.toNat / 8 / 8 % 8) + 8 * (c.toNat / 8 % 8) + c.toNat % 8 = c.toNat := by
    omega
  simp [Text.fixedDigits, readBody?, hdigit, hvalue, Char.ofNat_toNat]

theorem readBody?_escapeChar (c : Char) (rest : List Char) :
    readBody? (escapeChar c ++ rest) = before c (readBody? rest) := by
  unfold escapeChar
  split_ifs with hbackslash hquote hline hreturn htab hcontrol
  · simp [readBody?, octalDigit?, simpleEscape?, hbackslash]
  · simp [readBody?, octalDigit?, simpleEscape?, hquote]
  · simp [readBody?, octalDigit?, simpleEscape?, hline]
  · simp [readBody?, octalDigit?, simpleEscape?, hreturn]
  · simp [readBody?, octalDigit?, simpleEscape?, htab]
  · exact readBody?_octal (by omega) rest
  · simp [readBody?]

theorem readBody?_escapeChars (cs rest : List Char) :
    readBody? (escapeChars cs ++ '"' :: rest) = some (cs, rest) := by
  induction cs with
  | nil => rfl
  | cons c cs ih =>
      have hcons : escapeChars (c :: cs) = escapeChar c ++ escapeChars cs := rfl
      rw [hcons, List.append_assoc, readBody?_escapeChar, ih]
      rfl

/-- A literal ends at its own closing quote and gives back its text. -/
theorem read?_quote_append (s : String) (rest : List Char) :
    read? ((quote s).toList ++ rest) = some (s.toList, rest) := by
  rw [toList_quote, List.cons_append, List.append_assoc]
  exact readBody?_escapeChars s.toList rest

theorem plain_escapeChar (c : Char) : Plain (escapeChar c) := by
  have hdigits : ∀ d < 8, ¬ IsControl (Nat.digitChar d) := by decide
  unfold escapeChar
  split_ifs with hbackslash hquote hline hreturn htab hcontrol
  iterate 5 decide
  · intro d h
    rcases List.mem_cons.mp h with rfl | h
    · decide
    · obtain ⟨digit, hdigit, rfl⟩ := Text.mem_fixedDigits (by decide) h
      exact hdigits digit hdigit
  · intro d h
    exact List.mem_singleton.mp h ▸ hcontrol

theorem plain_quote (s : String) : Plain (quote s).toList := by
  intro d h
  rw [toList_quote, List.mem_cons, List.mem_append, List.mem_singleton] at h
  rcases h with rfl | h | rfl
  · decide
  · obtain ⟨c, -, hd⟩ := List.mem_flatMap.mp h
    exact plain_escapeChar c d hd
  · decide

/-- Whether a character is escaped, from whether the one before it is: an unescaped backslash
escapes what comes after it. -/
def escapes (escaped : Bool) (c : Char) : Bool := !escaped && c = '\\'

/-- Whether what comes after a text is escaped. -/
def escapesNext (front : List Char) : Bool := front.foldl escapes false

theorem escapes_of_ne {c : Char} (h : c ≠ '\\') (escaped : Bool) : escapes escaped c = false := by
  simp [escapes, h]

/-- Nothing is escaped after an octal escape. -/
theorem foldl_escapes_octal (c : Char) :
    ('\\' :: Text.fixedDigits 8 3 c.toNat).foldl escapes false = false := by
  have hdigit (n : Nat) (escaped : Bool) : escapes escaped (Nat.digitChar (n % 8)) = false := by
    have hne : ∀ d < 8, Nat.digitChar d ≠ '\\' := by decide
    exact escapes_of_ne (hne _ (Nat.mod_lt n (by decide))) escaped
  simp [Text.fixedDigits, hdigit]

/-- What a character is written as escapes nothing after it. -/
theorem foldl_escapes_escapeChar (c : Char) : (escapeChar c).foldl escapes false = false := by
  unfold escapeChar
  split_ifs with hbackslash hquote hline hreturn htab hcontrol
  iterate 5 decide
  · exact foldl_escapes_octal c
  · exact escapes_of_ne hbackslash false

/-- Only a quote is written with a quote, and that one is escaped. -/
theorem eq_of_escapeChar_eq {c : Char} {front back : List Char}
    (h : escapeChar c = front ++ '"' :: back) : front = ['\\'] := by
  have hmem : '"' ∈ escapeChar c := by
    rw [h]
    exact List.mem_append_right front List.mem_cons_self
  unfold escapeChar at h hmem
  split_ifs at h hmem with hbackslash hquote hline hreturn htab hcontrol
  · exact absurd hmem (by decide)
  · cases front with
    | nil => exact absurd (List.cons.inj h).1 (by decide)
    | cons a front =>
        obtain ⟨rfl, htail⟩ := List.cons.inj h
        cases front with
        | nil => rfl
        | cons b front => simp at htail
  iterate 3 exact absurd hmem (by decide)
  · rcases List.mem_cons.mp hmem with heq | hdigits
    · exact absurd heq (by decide)
    · obtain ⟨digit, hdigit, heq⟩ := Text.mem_fixedDigits (by decide) hdigits
      have hne : ∀ d < 8, Nat.digitChar d ≠ '"' := by decide
      exact absurd heq.symm (hne digit hdigit)
  · exact absurd (List.mem_singleton.mp hmem).symm hquote

/-- Each quote in an escaped text is escaped. -/
theorem escapesNext_of_escapeChars {cs front back : List Char}
    (h : escapeChars cs = front ++ '"' :: back) : escapesNext front = true := by
  induction cs generalizing front with
  | nil => simp [escapeChars] at h
  | cons c cs ih =>
      have hcons : escapeChars (c :: cs) = escapeChar c ++ escapeChars cs := rfl
      rw [hcons] at h
      rcases List.append_eq_append_iff.mp h with ⟨later, rfl, hlater⟩ | ⟨inside, hinside, hback⟩
      · rw [escapesNext, List.foldl_append, foldl_escapes_escapeChar]
        exact ih hlater
      · cases inside with
        | nil =>
            have hquoted : escapesNext [] = true := ih hback.symm
            exact absurd hquoted (by decide)
        | cons d inside =>
            obtain ⟨rfl, -⟩ := List.cons.inj hback
            rw [eq_of_escapeChar_eq hinside]
            rfl

theorem escapeChars_injective : Function.Injective escapeChars := by
  intro a b h
  have hread := readBody?_escapeChars a []
  rw [h, readBody?_escapeChars] at hread
  exact (Prod.mk.inj (Option.some.inj hread)).1.symm

theorem escapeChar_of_isDigit {digit : Char} (h : digit.isDigit = true) :
    escapeChar digit = [digit] := by
  simp only [Char.isDigit, Bool.and_eq_true, decide_eq_true_eq, ge_iff_le,
    UInt32.le_iff_toNat_le] at h
  have hdigit : 48 ≤ digit.toNat ∧ digit.toNat ≤ 57 := h
  have hne (c : Char) (hc : c.toNat < 48 ∨ 57 < c.toNat) : digit ≠ c := by
    rintro rfl
    omega
  unfold escapeChar
  rw [if_neg (hne _ (by decide)), if_neg (hne _ (by decide)), if_neg (hne _ (by decide)),
    if_neg (hne _ (by decide)), if_neg (hne _ (by decide)), if_neg (by omega)]

/-- A text in a literal can be read back and nothing else, and keeps to itself. -/
structure Lossless (s : String) : Prop where
  /-- The literal ends at its own closing quote, whatever comes after it, and holds the text. -/
  read?_eq : ∀ rest, read? ((quote s).toList ++ rest) = some (s.toList, rest)
  plain : Plain (escape s).toList
  escaped : ∀ front back, (escape s).toList = front ++ '"' :: back → escapesNext front = true
  /-- A digit behind a control character is written as it is and not read as part of the escape. -/
  digit_apart : ∀ front c digit back, s.toList = front ++ c :: digit :: back → IsControl c →
    digit.isDigit = true →
      (escape s).toList = escapeChars front ++ (escapeChar c ++ digit :: escapeChars back) ∧
      ∀ rest, readBody? (escapeChar c ++ digit :: rest) = before c (before digit (readBody? rest))
  injective : ∀ other, escape other = escape s → other = s
  append : ∀ other, escape (s ++ other) = escape s ++ escape other

theorem lossless (s : String) : Lossless s where
  read?_eq := read?_quote_append s
  plain := by
    intro d hd
    apply plain_quote s
    rw [toList_quote, List.mem_cons, List.mem_append]
    rw [escape, String.toList_ofList] at hd
    exact .inr (.inl hd)
  escaped front back h := by
    rw [escape, String.toList_ofList] at h
    exact escapesNext_of_escapeChars h
  digit_apart front c digit back hs _ hdigit := by
    constructor
    · rw [escape, String.toList_ofList, hs, escapeChars_append]
      have hcons : escapeChars (c :: digit :: back) =
          escapeChar c ++ (escapeChar digit ++ escapeChars back) := rfl
      rw [hcons, escapeChar_of_isDigit hdigit]
      rfl
    · intro rest
      have hread := readBody?_escapeChar digit rest
      rw [escapeChar_of_isDigit hdigit] at hread
      rw [readBody?_escapeChar, ← hread]
      rfl
  injective other h := by
    have hchars := congrArg String.toList h
    rw [escape, escape, String.toList_ofList, String.toList_ofList] at hchars
    exact String.toList_inj.mp (escapeChars_injective hchars)
  append other := by
    rw [escape, String.toList_append, escapeChars_append, String.ofList_append]
    rfl

end SensorNode.Sketch.Literal
