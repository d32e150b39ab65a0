import Mathlib.Data.Option.Basic
import SensorNode.Json.Reader
import SensorNode.Json.Writer
import SensorNode.Proofs.Text.Digits

/-!
# Reading back what was written

What is written for a value, on one line or on many, is read as that value. The two forms differ in
their blanks only, so they are one form with blanks of choice, and the reader passes over blanks.
Every token but a number tells by itself where it ends; a number ends where neither a digit nor a
point nor the mark of an exponent follows.
-/

namespace SensorNode.Json

namespace Reader

theorem hexValue?_code {n : Nat} (h : n < 32) :
    Text.hexValue? (Text.fixedDigits 16 4 n) = some n := by
  rw [Text.hexValue?_fixedDigits, Nat.mod_eq_of_lt (by omega)]

/-- A code that is no surrogate stands for itself, whatever follows. -/
theorem decodeUnits_code {code : Nat} (h : code < 0xD800) (units : List Unit) :
    decodeUnits (.code code :: units) = (decodeUnits units).map (Char.ofNat code :: ·) := by
  have hlow : ¬(0xD800 ≤ code ∧ code < 0xDC00) := by omega
  have hhigh : ¬(0xDC00 ≤ code ∧ code < 0xE000) := by omega
  have hboth : ¬(0xD800 ≤ code ∧ code < 0xE000) := by omega
  cases units with
  | nil => simp [decodeUnits, hboth]
  | cons unit units =>
      cases unit with
      | char c => simp [decodeUnits, hboth]
      | code low => simp [decodeUnits, hlow, hhigh]

/-- A written character is read as one unit, and the unit stands for the character. -/
theorem exists_unit_escapeChar (c : Char) :
    ∃ unit, (∀ cs, units? (escapeChar c ++ cs) =
        (units? cs).map fun read => (unit :: read.1, read.2)) ∧
      ∀ units, decodeUnits (unit :: units) = (decodeUnits units).map (c :: ·) := by
  have hplain (mark d : Char) (hmark : simpleEscape? mark = some d) (hu : mark ≠ 'u')
      (cs : List Char) : units? ('\\' :: mark :: cs) =
        (units? cs).map fun read => (.char d :: read.1, read.2) := by
    rw [units?]
    · rw [hmark]
      cases units? cs <;> rfl
    · rintro _ _ _ _ _ h -
      exact hu h
  unfold escapeChar
  iterate 7
    split
    · next hc =>
      subst hc
      exact ⟨.char _, hplain _ _ rfl (by decide), fun _ => rfl⟩
  split
  · next hcontrol =>
    have hvalue := hexValue?_code hcontrol
    obtain ⟨a, b, d, e, hdigits⟩ : ∃ a b d e, Text.fixedDigits 16 4 c.toNat = [a, b, d, e] := by
      exact ⟨_, _, _, _, rfl⟩
    rw [hdigits] at hvalue ⊢
    refine ⟨.code c.toNat, fun cs => ?_, fun units => ?_⟩
    · rw [List.cons_append, List.cons_append, List.cons_append, List.cons_append, List.cons_append,
        List.cons_append, List.nil_append, units?, hvalue]
      cases units? cs <;> rfl
    · rw [decodeUnits_code (by omega), Char.ofNat_toNat]
  · next hquote hslash _ _ _ _ _ hcontrol =>
    refine ⟨.char c, fun cs => ?_, fun _ => rfl⟩
    rw [List.singleton_append, units?]
    · have hguard : guard (32 ≤ c.toNat) = some () := if_pos (by omega)
      rw [hguard]
      cases units? cs <;> rfl
    · exact hquote
    · rintro _ _ _ _ _ rfl -
      exact hslash rfl
    · rintro _ _ rfl -
      exact hslash rfl

theorem string?_escaped (s : String) (rest : List Char) :
    string? (s.toList.flatMap escapeChar ++ '"' :: rest) = some (some s, rest) := by
  have hchars (cs : List Char) : ∃ units,
      units? (cs.flatMap escapeChar ++ '"' :: rest) = some (units, rest) ∧
        decodeUnits units = some cs := by
    induction cs with
    | nil => exact ⟨[], rfl, rfl⟩
    | cons c cs ih =>
        obtain ⟨units, hunits, hdecode⟩ := ih
        obtain ⟨unit, hunit, hchar⟩ := exists_unit_escapeChar c
        refine ⟨unit :: units, ?_, ?_⟩
        · rw [List.flatMap_cons, List.append_assoc, hunit, hunits, Option.map_some]
        · rw [hchar, hdecode, Option.map_some]
  obtain ⟨units, hunits, hdecode⟩ := hchars s.toList
  simp [string?, hunits, hdecode]

end Reader

/-- One or more digits. -/
def IsDigits (cs : List Char) : Prop := cs ≠ [] ∧ ∀ c ∈ cs, c.isDigit

/-- A number has the form of a JSON number. -/
structure Number.IsLiteral (n : Number) : Prop where
  whole : IsDigits n.whole
  leading : ∀ cs, n.whole = '0' :: cs → cs = []
  fraction : ∀ digits ∈ n.fraction, IsDigits digits
  exponent : ∀ e ∈ n.exponent, IsDigits e.digits

namespace Reader

/-- A number that stands before the text ends there. -/
def EndsNumber (rest : List Char) : Prop :=
  ∀ c ∈ rest.head?, c.isDigit = false ∧ c ≠ '.' ∧ c ≠ 'e' ∧ c ≠ 'E'

theorem digits_append {ds rest : List Char} (hds : ∀ c ∈ ds, c.isDigit)
    (hrest : ∀ c ∈ rest.head?, c.isDigit = false) : digits (ds ++ rest) = (ds, rest) := by
  have hstop : rest.takeWhile Char.isDigit = [] ∧ rest.dropWhile Char.isDigit = rest := by
    cases rest with
    | nil => exact ⟨rfl, rfl⟩
    | cons c cs => simp [hrest c rfl]
  rw [digits, List.takeWhile_append_of_pos hds, List.dropWhile_append_of_pos hds, hstop.1, hstop.2,
    List.append_nil]

theorem digits?_append {ds rest : List Char} (hds : IsDigits ds)
    (hrest : ∀ c ∈ rest.head?, c.isDigit = false) : digits? (ds ++ rest) = some (ds, rest) := by
  simp [digits?, digits_append hds.2 hrest, hds.1]

theorem whole?_append {ds rest : List Char} (hds : IsDigits ds)
    (hleading : ∀ cs, ds = '0' :: cs → cs = [])
    (hrest : ∀ c ∈ rest.head?, c.isDigit = false) : whole? (ds ++ rest) = some (ds, rest) := by
  obtain ⟨c, cs, rfl⟩ := List.exists_cons_of_ne_nil hds.1
  by_cases hc : c = '0'
  · subst hc
    obtain rfl := hleading cs rfl
    rfl
  · rw [whole?, digits?_append hds hrest]
    rintro _ h
    exact hc (List.cons.inj h).1

/-- What is written of a number behind its whole part. -/
def fractionLiteral : Option (List Char) → List Char
  | none => []
  | some digits => '.' :: digits

def exponentLiteral : Option Exponent → List Char
  | none => []
  | some e => 'e' :: (if e.negative then ['-'] else ['+']) ++ e.digits

theorem literal_eq (n : Number) : n.literal =
    (if n.negative then ['-'] else []) ++
      (n.whole ++ (fractionLiteral n.fraction ++ exponentLiteral n.exponent)) := by
  rw [Number.literal, List.append_assoc, List.append_assoc]
  cases n.fraction <;> cases n.exponent <;> rfl

theorem exponent?_append {rest : List Char} {exponent : Option Exponent}
    (h : ∀ e ∈ exponent, IsDigits e.digits) (hrest : EndsNumber rest) :
    exponent? (exponentLiteral exponent ++ rest) = some (exponent, rest) := by
  cases exponent with
  | none =>
      cases rest with
      | nil => rfl
      | cons c cs =>
          obtain ⟨-, -, he, hE⟩ := hrest c rfl
          simp [exponentLiteral, exponent?, he, hE]
  | some e =>
      obtain ⟨negative, ds⟩ := e
      have hds : digits? (ds ++ rest) = some (ds, rest) :=
        digits?_append (h _ rfl) fun c hc => (hrest c hc).1
      cases negative <;> simp [exponentLiteral, exponent?, exponentDigits?, hds]

/-- What follows the fraction starts with no digit and no point. -/
theorem head?_exponentLiteral_append {rest : List Char} (exponent : Option Exponent)
    (hrest : EndsNumber rest) :
    ∀ c ∈ (exponentLiteral exponent ++ rest).head?, c.isDigit = false ∧ c ≠ '.' := by
  cases exponent with
  | none => exact fun c hc => ⟨(hrest c hc).1, (hrest c hc).2.1⟩
  | some e =>
      intro c hc
      obtain rfl : 'e' = c := by simpa [exponentLiteral] using hc
      decide

theorem fraction?_append {rest : List Char} {fraction : Option (List Char)}
    (h : ∀ digits ∈ fraction, IsDigits digits)
    (hrest : ∀ c ∈ rest.head?, c.isDigit = false ∧ c ≠ '.') :
    fraction? (fractionLiteral fraction ++ rest) = some (fraction, rest) := by
  cases fraction with
  | none =>
      cases rest with
      | nil => rfl
      | cons c cs =>
          have hc := (hrest c rfl).2
          simp [fractionLiteral, fraction?, hc]
  | some ds =>
      have hds : digits? (ds ++ rest) = some (ds, rest) :=
        digits?_append (h ds rfl) fun c hc => (hrest c hc).1
      simp [fractionLiteral, fraction?, hds]

/-- A number is read up to where it ends. -/
theorem number?_literal {n : Number} (h : n.IsLiteral) {rest : List Char}
    (hrest : EndsNumber rest) : number? (n.literal ++ rest) = some (n, rest) := by
  obtain ⟨negative, whole, fraction, exponent⟩ := n
  have hexponent := head?_exponentLiteral_append exponent hrest
  have hfraction : ∀ c ∈ (fractionLiteral fraction ++ (exponentLiteral exponent ++ rest)).head?,
      c.isDigit = false := by
    cases fraction with
    | none => exact fun c hc => (hexponent c hc).1
    | some ds =>
        intro c hc
        obtain rfl : '.' = c := by simpa [fractionLiteral] using hc
        decide
  have hunsigned (negative : Bool) : unsigned? negative
      (whole ++ (fractionLiteral fraction ++ (exponentLiteral exponent ++ rest))) =
        some (⟨negative, whole, fraction, exponent⟩, rest) := by
    simp [unsigned?, whole?_append h.whole h.leading hfraction,
      fraction?_append h.fraction hexponent, exponent?_append h.exponent hrest]
  rw [literal_eq, List.append_assoc, List.append_assoc, List.append_assoc]
  cases negative with
  | true => exact hunsigned true
  | false =>
      obtain ⟨c, cs, hwhole⟩ := List.exists_cons_of_ne_nil h.whole.1
      obtain rfl : whole = c :: cs := hwhole
      have hc : c ≠ '-' := by
        rintro rfl
        exact absurd (h.whole.2 '-' List.mem_cons_self) (by decide)
      simp only [Bool.false_eq_true, if_false, List.nil_append, List.cons_append]
      rw [number?]
      · exact hunsigned false
      · rintro _ h
        exact hc (List.cons.inj h).1

theorem skipBlanks_append {blanks : List Char} (h : ∀ c ∈ blanks, isBlank c) (cs : List Char) :
    skipBlanks (blanks ++ cs) = skipBlanks cs :=
  List.dropWhile_append_of_pos h

theorem skipBlanks_cons {c : Char} (h : isBlank c = false) (cs : List Char) :
    skipBlanks (c :: cs) = c :: cs := by
  simp [skipBlanks, h]

theorem value?_blanks {blanks : List Char} (h : ∀ c ∈ blanks, isBlank c) (fuel : Nat)
    (cs : List Char) : value? fuel (blanks ++ cs) = value? fuel cs := by
  cases fuel with
  | zero => rw [value?, value?]
  | succ fuel => rw [value?, value?, skipBlanks_append h]

theorem members?_blanks {blanks : List Char} (h : ∀ c ∈ blanks, isBlank c) (fuel : Nat)
    (cs : List Char) : members? fuel (blanks ++ cs) = members? fuel cs := by
  cases fuel with
  | zero => rw [members?, members?]
  | succ fuel => rw [members?, members?, skipBlanks_append h]

/-- A number starts with a minus or a digit. -/
theorem exists_cons_literal {n : Number} (h : n.IsLiteral) :
    ∃ c cs, n.literal = c :: cs ∧ (c = '-' ∨ c.isDigit) := by
  obtain ⟨c, cs, hwhole⟩ := List.exists_cons_of_ne_nil h.whole.1
  rw [literal_eq, hwhole]
  cases n.negative with
  | true => exact ⟨'-', _, rfl, .inl rfl⟩
  | false => exact ⟨c, _, rfl, .inr (h.whole.2 c (hwhole ▸ List.mem_cons_self))⟩

theorem isBlank_eq_false_of_numeral {c : Char} (h : c = '-' ∨ c.isDigit) : isBlank c = false := by
  rw [Bool.eq_false_iff]
  intro hblank
  simp only [isBlank, Bool.or_eq_true, decide_eq_true_eq] at hblank
  rcases hblank with ((rfl | rfl) | rfl) | rfl <;> exact absurd h (by decide)

theorem value?_number {n : Number} (h : n.IsLiteral) {rest : List Char} (hrest : EndsNumber rest)
    (fuel : Nat) : value? (fuel + 1) (n.literal ++ rest) = some (.number n, rest) := by
  obtain ⟨c, cs, hliteral, hc⟩ := exists_cons_literal h
  have hnot {d : Char} (hd : d ≠ '-' ∧ d.isDigit = false) : c ≠ d := by
    rintro rfl
    exact hc.elim hd.1 (by simp [hd.2])
  have hnumber := number?_literal h hrest
  rw [hliteral, List.cons_append] at hnumber ⊢
  rw [value?, skipBlanks_cons (isBlank_eq_false_of_numeral hc)]
  -- no token but a number starts so
  split
  iterate 6
    · next heq => exact absurd (List.cons.inj heq).1 (hnot (by decide))
  · rw [hnumber]
    rfl

end Reader

/-- A value whose strings are text and whose numbers have the form of JSON numbers. -/
inductive Legible : Json → Prop
  | null : Legible .null
  | bool (value : Bool) : Legible (.bool value)
  | number {n : Number} (h : n.IsLiteral) : Legible (.number n)
  | text (s : String) : Legible (.text s)
  | array {items : List Json} (h : ∀ item ∈ items, Legible item) : Legible (.array items)
  | object {members : List (Option String × Json)}
      (hnames : ∀ member ∈ members, ∃ name, member.1 = some name)
      (hvalues : ∀ member ∈ members, Legible member.2) : Legible (.object members)

/-- The blanks that a form puts before an item of a level and after a colon. -/
structure Layout where
  line : (level : Nat) → List Char
  gap : List Char
  line_blank : ∀ level, ∀ c ∈ line level, Reader.isBlank c
  gap_blank : ∀ c ∈ gap, Reader.isBlank c

mutual

def spell (layout : Layout) (level : Nat) : Json → List Char
  | null => ['n', 'u', 'l', 'l']
  | bool true => ['t', 'r', 'u', 'e']
  | bool false => ['f', 'a', 'l', 's', 'e']
  | number n => n.literal
  | string s => quoted? s
  | array [] => ['[', ']']
  | array (item :: items) =>
    '[' :: layout.line (level + 1) ++ spell layout (level + 1) item ++
      spellItems layout (level + 1) items ++ layout.line level ++ [']']
  | object [] => ['\x7b', '\x7d']
  | object ((name, value) :: members) =>
    '\x7b' :: layout.line (level + 1) ++ quoted? name ++ ':' :: layout.gap ++
      spell layout (level + 1) value ++ spellMembers layout (level + 1) members ++
        layout.line level ++ ['\x7d']

/-- Items after the first, each with the comma before it. -/
def spellItems (layout : Layout) (level : Nat) : List Json → List Char
  | [] => []
  | item :: items =>
    ',' :: layout.line level ++ spell layout level item ++ spellItems layout level items

def spellMembers (layout : Layout) (level : Nat) : List (Option String × Json) → List Char
  | [] => []
  | (name, value) :: members =>
    ',' :: layout.line level ++ quoted? name ++ ':' :: layout.gap ++ spell layout level value ++
      spellMembers layout level members

end

namespace Layout

/-- All on one line without blanks. -/
def onOneLine : Layout where
  line _ := []
  gap := []
  line_blank := by simp
  gap_blank := by simp

/-- Every item and member on a line of its own. -/
def onLines : Layout where
  line := newLine
  gap := [' ']
  line_blank level c hc := by
    rcases List.mem_cons.mp hc with rfl | hc
    · rfl
    · rw [List.eq_of_mem_replicate hc]
      rfl
  gap_blank := by simp [Reader.isBlank]

end Layout

mutual

theorem prettyChars_eq_spell (level : Nat) : (json : Json) →
    prettyChars level json = spell .onLines level json
  | null => by rw [prettyChars, spell]
  | bool true => by rw [prettyChars, spell]
  | bool false => by rw [prettyChars, spell]
  | number n => by rw [prettyChars, spell]
  | string s => by rw [prettyChars, spell]
  | array [] => by rw [prettyChars, spell]
  | array (item :: items) => by
      rw [prettyChars, spell, prettyChars_eq_spell (level + 1) item,
        prettyItems_eq_spellItems (level + 1) items]
      rfl
  | object [] => by rw [prettyChars, spell]
  | object ((name, value) :: members) => by
      rw [prettyChars, spell, prettyChars_eq_spell (level + 1) value,
        prettyMembers_eq_spellMembers (level + 1) members]
      simp [Layout.onLines]

theorem prettyItems_eq_spellItems (level : Nat) : (items : List Json) →
    prettyItems level items = spellItems .onLines level items
  | [] => by rw [prettyItems, spellItems]
  | item :: items => by
      rw [prettyItems, spellItems, prettyChars_eq_spell level item,
        prettyItems_eq_spellItems level items]
      rfl

theorem prettyMembers_eq_spellMembers (level : Nat) : (members : List (Option String × Json)) →
    prettyMembers level members = spellMembers .onLines level members
  | [] => by rw [prettyMembers, spellMembers]
  | (name, value) :: members => by
      rw [prettyMembers, spellMembers, prettyChars_eq_spell level value,
        prettyMembers_eq_spellMembers level members]
      simp [Layout.onLines]

end

mutual

theorem compactChars_eq_spell (level : Nat) : (json : Json) →
    compactChars json = spell .onOneLine level json
  | null => by rw [compactChars, spell]
  | bool true => by rw [compactChars, spell]
  | bool false => by rw [compactChars, spell]
  | number n => by rw [compactChars, spell]
  | string s => by rw [compactChars, spell]
  | array [] => by rw [compactChars, spell, compactItems]; rfl
  | array (item :: items) => by
      have hitems := spellItems_eq_compactItems (level + 1) (item :: items) (List.cons_ne_nil _ _)
      rw [spellItems] at hitems
      rw [compactChars, spell, ← (List.cons.inj hitems).2]
      simp [Layout.onOneLine]
  | object [] => by rw [compactChars, spell, compactMembers]; rfl
  | object ((name, value) :: members) => by
      have hmembers :=
        spellMembers_eq_compactMembers (level + 1) ((name, value) :: members) (List.cons_ne_nil _ _)
      rw [spellMembers] at hmembers
      rw [compactChars, spell, ← (List.cons.inj hmembers).2]
      simp [Layout.onOneLine]

theorem spellItems_eq_compactItems (level : Nat) : (items : List Json) → items ≠ [] →
    spellItems .onOneLine level items = ',' :: compactItems items
  | [], h => absurd rfl h
  | [item], _ => by
      rw [compactItems, spellItems, spellItems, compactChars_eq_spell level item]
      simp [Layout.onOneLine]
  | item :: next :: items, _ => by
      rw [compactItems, spellItems, compactChars_eq_spell level item,
        spellItems_eq_compactItems level (next :: items) (List.cons_ne_nil _ _)]
      simp [Layout.onOneLine]

theorem spellMembers_eq_compactMembers (level : Nat) : (members : List (Option String × Json)) →
    members ≠ [] → spellMembers .onOneLine level members = ',' :: compactMembers members
  | [], h => absurd rfl h
  | [(name, value)], _ => by
      rw [compactMembers, spellMembers, spellMembers, compactChars_eq_spell level value]
      simp [Layout.onOneLine]
  | (name, value) :: next :: members, _ => by
      rw [compactMembers, spellMembers, compactChars_eq_spell level value,
        spellMembers_eq_compactMembers level (next :: members) (List.cons_ne_nil _ _)]
      simp [Layout.onOneLine]

end

namespace Reader

/-- A value is read up to its end, in any layout and with fuel for its length. -/
def IsReadBack (layout : Layout) (json : Json) : Prop :=
  ∀ level fuel rest, 2 * (spell layout level json).length ≤ fuel → EndsNumber rest →
    value? fuel (spell layout level json ++ rest) = some (json, rest)

theorem endsNumber_cons {c : Char} (h : c.isDigit = false ∧ c ≠ '.' ∧ c ≠ 'e' ∧ c ≠ 'E')
    (rest : List Char) : EndsNumber (c :: rest) := by
  rintro d hd
  obtain rfl : c = d := by simpa using hd
  exact h

/-- A number ends before blanks. -/
theorem endsNumber_blanks {blanks rest : List Char} (h : ∀ c ∈ blanks, isBlank c)
    (hrest : EndsNumber rest) : EndsNumber (blanks ++ rest) := by
  cases blanks with
  | nil => exact hrest
  | cons c blanks =>
      have hc : isBlank c := h c List.mem_cons_self
      simp only [isBlank, Bool.or_eq_true, decide_eq_true_eq] at hc
      refine endsNumber_cons ?_ _
      rcases hc with ((rfl | rfl) | rfl) | rfl <;> decide

theorem items?_spell {layout : Layout} {item : Json} {items : List Json}
    (h : ∀ i ∈ item :: items, IsReadBack layout i) (level fuel : Nat)
    {before after : List Char} (hbefore : ∀ c ∈ before, isBlank c)
    (hafter : ∀ c ∈ after, isBlank c) (rest : List Char)
    (hfuel : 2 * (spell layout level item ++ spellItems layout level items).length + 2 < fuel) :
    items? fuel (before ++ (spell layout level item ++ (spellItems layout level items ++
      (after ++ ']' :: rest)))) = some (item :: items, rest) := by
  induction items generalizing item fuel before with
  | nil =>
      obtain ⟨fuel, rfl⟩ : ∃ n, fuel = n + 1 := ⟨fuel - 1, by omega⟩
      have hends : EndsNumber (after ++ ']' :: rest) :=
        endsNumber_blanks hafter (endsNumber_cons (by decide) rest)
      simp only [spellItems, List.append_nil, List.nil_append] at hfuel ⊢
      rw [items?, value?_blanks hbefore, h item List.mem_cons_self level fuel _ (by omega) hends]
      simp [skipBlanks_append hafter, skipBlanks_cons (c := ']') rfl]
  | cons next items ih =>
      obtain ⟨fuel, rfl⟩ : ∃ n, fuel = n + 1 := ⟨fuel - 1, by omega⟩
      simp only [spellItems, List.cons_append, List.append_assoc, List.length_append,
        List.length_cons] at hfuel ⊢
      have hends : EndsNumber (',' :: (layout.line level ++ (spell layout level next ++
          (spellItems layout level items ++ (after ++ ']' :: rest))))) :=
        endsNumber_cons (by decide) _
      have hrest := ih (fun i hi => h i (List.mem_cons_of_mem item hi)) fuel
        (layout.line_blank level) (by rw [List.length_append]; omega)
      rw [items?, value?_blanks hbefore, h item List.mem_cons_self level fuel _ (by omega) hends]
      simp [skipBlanks_cons (c := ',') rfl, hrest]

/-- A member starts with its name. -/
theorem members?_quoted (name : String) (fuel : Nat) (cs : List Char) :
    members? (fuel + 1) (quoted? (some name) ++ ':' :: cs) = (do
      let (value, rest) ← value? fuel cs
      match skipBlanks rest with
      | ',' :: rest =>
        let (members, rest) ← members? fuel rest
        return ((some name, value) :: members, rest)
      | '\x7d' :: rest => return ([(some name, value)], rest)
      | _ => none) := by
  have hquoted : quoted? (some name) ++ ':' :: cs =
      '"' :: (name.toList.flatMap escapeChar ++ '"' :: ':' :: cs) := by
    simp [quoted?, quoted]
  rw [hquoted, members?, skipBlanks_cons (c := '"') rfl]
  exact congrArg (Option.bind · _) (string?_escaped name (':' :: cs))

theorem members?_spell {layout : Layout} {name : String} {value : Json}
    {members : List (Option String × Json)} (hnames : ∀ m ∈ members, ∃ name, m.1 = some name)
    (h : ∀ m ∈ (some name, value) :: members, IsReadBack layout m.2) (level fuel : Nat)
    {before after : List Char} (hbefore : ∀ c ∈ before, isBlank c)
    (hafter : ∀ c ∈ after, isBlank c) (rest : List Char)
    (hfuel :
      2 * (spell layout level value ++ spellMembers layout level members).length + 2 < fuel) :
    members? fuel (before ++ (quoted? (some name) ++ ':' :: (layout.gap ++
      (spell layout level value ++ (spellMembers layout level members ++
        (after ++ '\x7d' :: rest)))))) = some ((some name, value) :: members, rest) := by
  have hvalue : IsReadBack layout value := h (some name, value) List.mem_cons_self
  induction members generalizing name value fuel before with
  | nil =>
      obtain ⟨fuel, rfl⟩ : ∃ n, fuel = n + 1 := ⟨fuel - 1, by omega⟩
      have hends : EndsNumber (after ++ '\x7d' :: rest) :=
        endsNumber_blanks hafter (endsNumber_cons (by decide) rest)
      simp only [spellMembers, List.append_nil, List.nil_append] at hfuel ⊢
      rw [members?_blanks hbefore, members?_quoted, value?_blanks layout.gap_blank,
        hvalue level fuel _ (by omega) hends]
      simp [skipBlanks_append hafter, skipBlanks_cons (c := '\x7d') rfl]
  | cons next members ih =>
      obtain ⟨fuel, rfl⟩ : ∃ n, fuel = n + 1 := ⟨fuel - 1, by omega⟩
      obtain ⟨nextName, nextValue⟩ := next
      obtain ⟨⟨nextName, rfl⟩, hnamesLater⟩ := List.forall_mem_cons.mp hnames
      simp only [spellMembers, List.cons_append, List.append_assoc, List.length_append,
        List.length_cons] at hfuel ⊢
      have hends := endsNumber_cons (c := ',') (by decide)
      have hlater : ∀ m ∈ (some nextName, nextValue) :: members, IsReadBack layout m.2 :=
        fun m hm => h m (List.mem_cons_of_mem _ hm)
      have hrest := ih hnamesLater hlater fuel (layout.line_blank level)
        (by rw [List.length_append]; omega) (hlater _ List.mem_cons_self)
      rw [members?_blanks hbefore, members?_quoted, value?_blanks layout.gap_blank,
        hvalue level fuel _ (by omega) (hends _)]
      simp [skipBlanks_cons (c := ',') rfl, hrest]

/-- A value starts with a character that neither is blank nor closes an array. -/
theorem exists_cons_spell {json : Json} (h : json.Legible) (layout : Layout) (level : Nat) :
    ∃ c cs, spell layout level json = c :: cs ∧ isBlank c = false ∧ c ≠ ']' := by
  cases h with
  | null => exact ⟨_, _, by rw [spell], by decide⟩
  | bool value => cases value <;> exact ⟨_, _, by rw [spell], by decide⟩
  | number h =>
      obtain ⟨c, cs, hliteral, hc⟩ := exists_cons_literal h
      exact ⟨c, cs, by rw [spell, hliteral], isBlank_eq_false_of_numeral hc, by
        rintro rfl
        exact absurd hc (by decide)⟩
  | text s => exact ⟨_, _, by rw [Json.text, spell]; rfl, by decide⟩
  | @array items h =>
      cases items with
      | nil => exact ⟨_, _, by rw [spell], by decide⟩
      | cons item items => exact ⟨_, _, by rw [spell]; rfl, by decide⟩
  | @object members hnames h =>
      cases members with
      | nil => exact ⟨_, _, by rw [spell], by decide⟩
      | cons member members => exact ⟨_, _, by rw [spell]; rfl, by decide⟩

theorem isReadBack_of_succ {layout : Layout} {json : Json} (h : json.Legible)
    (hvalue : ∀ level fuel rest, 2 * (spell layout level json).length ≤ fuel + 1 →
      EndsNumber rest → value? (fuel + 1) (spell layout level json ++ rest) = some (json, rest)) :
    IsReadBack layout json := by
  intro level fuel rest hfuel hrest
  obtain ⟨c, cs, hspell, -, -⟩ := exists_cons_spell h layout level
  obtain ⟨fuel, rfl⟩ : ∃ n, fuel = n + 1 := by
    rw [hspell, List.length_cons] at hfuel
    exact ⟨fuel - 1, by omega⟩
  exact hvalue level fuel rest hfuel hrest

theorem value?_spell (layout : Layout) {json : Json} (h : json.Legible) (level fuel : Nat)
    (rest : List Char) (hfuel : 2 * (spell layout level json).length ≤ fuel + 1)
    (hrest : EndsNumber rest) :
    value? (fuel + 1) (spell layout level json ++ rest) = some (json, rest) := by
  induction h generalizing level fuel rest with
  | null => simp [spell, value?, skipBlanks_cons (c := 'n') rfl, word?]
  | bool value =>
      cases value <;>
        simp [spell, value?, skipBlanks_cons (c := 't') rfl, skipBlanks_cons (c := 'f') rfl, word?]
  | number h =>
      rw [spell]
      exact value?_number h hrest fuel
  | text s =>
      have hstring := string?_escaped s rest
      simp [Json.text, spell, quoted?, quoted, value?, skipBlanks_cons (c := '"') rfl, hstring]
  | @array items h ih =>
      cases items with
      | nil => simp [spell, value?, skipBlanks_cons (c := '[') rfl, skipBlanks_cons (c := ']') rfl]
      | cons item items =>
          have hitems : ∀ i ∈ item :: items, IsReadBack layout i :=
            fun i hi => isReadBack_of_succ (h i hi) (ih i hi)
          obtain ⟨c, cs, hspell, hc, hclose⟩ :=
            exists_cons_spell (h item List.mem_cons_self) layout (level + 1)
          simp only [spell, List.cons_append, List.append_assoc, List.length_cons,
            List.length_append, List.nil_append] at hfuel ⊢
          have hread := items?_spell hitems (level + 1) fuel
            (List.forall_mem_nil (isBlank · = true)) (layout.line_blank level) rest
            (by rw [List.length_append]; omega)
          rw [value?, skipBlanks_cons (c := '[') rfl]
          simp only [skipBlanks_append (layout.line_blank (level + 1))]
          rw [hspell, List.nil_append, List.cons_append] at hread
          rw [hspell, List.cons_append, skipBlanks_cons hc]
          split
          · next heq => exact absurd (List.cons.inj heq).1 hclose
          · rw [hread]
            rfl
  | @object members hnames h ih =>
      cases members with
      | nil =>
          simp [spell, value?, skipBlanks_cons (c := '\x7b') rfl,
            skipBlanks_cons (c := '\x7d') rfl]
      | cons member members =>
          obtain ⟨name, value⟩ := member
          obtain ⟨⟨name, rfl⟩, hnamesLater⟩ := List.forall_mem_cons.mp hnames
          have hmembers : ∀ m ∈ (some name, value) :: members, IsReadBack layout m.2 :=
            fun m hm => isReadBack_of_succ (h m hm) (ih m hm)
          simp only [spell, List.cons_append, List.append_assoc, List.length_cons,
            List.length_append, List.nil_append] at hfuel ⊢
          have hread := members?_spell hnamesLater hmembers (level + 1) fuel
            (List.forall_mem_nil (isBlank · = true)) (layout.line_blank level) rest
            (by rw [List.length_append]; omega)
          rw [value?, skipBlanks_cons (c := '\x7b') rfl]
          simp only [skipBlanks_append (layout.line_blank (level + 1))]
          simp only [quoted?, quoted, Option.getD_some, List.nil_append, List.cons_append,
            List.append_assoc] at hread ⊢
          rw [skipBlanks_cons (c := '"') rfl]
          simp [hread]

end Reader

/-- A legible value comes back from any layout of it. -/
theorem read?_spell (layout : Layout) {json : Json} (h : json.Legible) :
    read? (String.ofList (spell layout 0 json)) = some json := by
  have hvalue := Reader.value?_spell layout h 0 (2 * (spell layout 0 json).length) []
    (by omega) nofun
  rw [List.append_nil] at hvalue
  rw [read?, String.toList_ofList]
  exact congrArg (Option.bind · _) hvalue

theorem read?_compact {json : Json} (h : json.Legible) : read? json.compact = some json := by
  rw [compact, compactChars_eq_spell 0, read?_spell .onOneLine h]

theorem read?_pretty {json : Json} (h : json.Legible) : read? json.pretty = some json := by
  rw [pretty, prettyChars_eq_spell, read?_spell .onLines h]

end SensorNode.Json
