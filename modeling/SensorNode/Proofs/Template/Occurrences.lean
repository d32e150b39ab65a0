import SensorNode.Proofs.Distinct
import SensorNode.Proofs.Template.SlotFree
import SensorNode.Template.Scan

/-!
# Where slots stand

A slot is a stretch of a text: two opening braces, a name, two closing braces. Reading a text from
left to right takes each slot as one piece and every other character as a piece of its own. No slot
is missed that way, because slots never overlap: inside a slot no two opening braces follow each
other.

`parse` reads a text that way. So its slots, with the bytes that they take, are all the slots of the
text, and `placeholders` lists their names in the order in which they first appear.
-/

namespace SensorNode.Template

/-- An upper-case ASCII letter followed by upper-case letters, digits and underscores. -/
def IsSlotName (name : List Char) : Prop :=
  ∃ first rest, name = first :: rest ∧ ('A' ≤ first ∧ first ≤ 'Z') ∧
    ∀ c ∈ rest, ('A' ≤ c ∧ c ≤ 'Z') ∨ ('0' ≤ c ∧ c ≤ '9') ∨ c = '_'

theorem isNameChar_iff_range {c : Char} :
    isNameChar c = true ↔ ('A' ≤ c ∧ c ≤ 'Z') ∨ ('0' ≤ c ∧ c ≤ '9') ∨ c = '_' := by
  rw [isNameChar_iff, ← Char.toNat_inj]
  simp only [Char.le_def, UInt32.le_iff_toNat_le]
  rfl

theorem isName_iff {name : List Char} : isName name = true ↔ IsSlotName name := by
  cases name with
  | nil => simp [isName, IsSlotName]
  | cons first rest =>
      have hfirst : first.isUpper = true ↔ 'A' ≤ first ∧ first ≤ 'Z' := by
        rw [isUpper_iff]
        simp only [Char.le_def, UInt32.le_iff_toNat_le]
        rfl
      simp only [isName, Bool.and_eq_true, List.all_eq_true, hfirst, isNameChar_iff_range]
      constructor
      · rintro ⟨hupper, hrest⟩
        exact ⟨first, rest, rfl, hupper, hrest⟩
      · rintro ⟨_, _, heq, hupper, hrest⟩
        obtain ⟨rfl, rfl⟩ := List.cons.inj heq
        exact ⟨hupper, hrest⟩

theorem IsSlotName.isNameChar {name : List Char} (h : IsSlotName name) :
    ∀ c ∈ name, isNameChar c = true := by
  obtain ⟨first, rest, rfl, hfirst, hrest⟩ := h
  intro c hc
  apply isNameChar_iff_range.mpr
  rcases List.mem_cons.mp hc with rfl | hc
  · exact .inl hfirst
  · exact hrest c hc

theorem IsSlotName.brace_notMem {name : List Char} (h : IsSlotName name) : '\x7b' ∉ name := by
  intro hbrace
  exact absurd (h.isNameChar _ hbrace) (by decide)

@[simp] theorem toList_slotText (name : String) :
    (slotText name).toList = opening ++ (name.toList ++ closing) := by
  simp [slotText, opening, closing]

/-- A slot stands at the front of a text. -/
def StartsWithSlot (cs : List Char) : Prop :=
  ∃ name rest, IsSlotName name ∧ cs = opening ++ (name ++ (closing ++ rest))

theorem slotName?_eq_some_iff {cs name : List Char} :
    slotName? cs = some name ↔
      IsSlotName name ∧ ∃ rest, cs = opening ++ (name ++ (closing ++ rest)) := by
  constructor
  · intro h
    unfold slotName? at h
    split at h
    · next cs =>
      dsimp only at h
      split at h
      · next rest hrest =>
        split at h
        · next hname =>
          obtain rfl := Option.some.inj h
          refine ⟨isName_iff.mp hname, rest, ?_⟩
          have hcut : cs = cs.takeWhile isNameChar ++ '\x7d' :: '\x7d' :: rest := by
            rw [← hrest, List.takeWhile_append_dropWhile]
          exact congrArg (opening ++ ·) hcut
        · simp at h
      · simp at h
    · simp at h
  · rintro ⟨hname, rest, rfl⟩
    have htake : (name ++ '\x7d' :: '\x7d' :: rest).takeWhile isNameChar = name := by
      rw [List.takeWhile_append_of_pos hname.isNameChar,
        List.takeWhile_cons_of_neg (by decide), List.append_nil]
    have hdrop : (name ++ '\x7d' :: '\x7d' :: rest).dropWhile isNameChar =
        '\x7d' :: '\x7d' :: rest := by
      rw [List.dropWhile_append_of_pos hname.isNameChar, List.dropWhile_cons_of_neg (by decide)]
    simp only [opening, closing, List.cons_append, List.nil_append, slotName?, hdrop, htake,
      isName_iff.mpr hname, if_true]

theorem slotName?_eq_none_iff {cs : List Char} : slotName? cs = none ↔ ¬ StartsWithSlot cs := by
  rw [← not_iff_not, not_not, ← ne_eq, Option.ne_none_iff_exists']
  simp only [slotName?_eq_some_iff, StartsWithSlot, exists_and_left]

/-- Slots do not overlap: one that starts in a text with a slot at the front is that slot or starts
behind it. -/
theorem front_of_slot {name name' rest front rest' : List Char} (hname : IsSlotName name)
    (hname' : IsSlotName name')
    (h : opening ++ (name ++ (closing ++ rest)) =
      front ++ (opening ++ (name' ++ (closing ++ rest')))) :
    (front = [] ∧ name' = name) ∨
      ∃ later, front = opening ++ (name ++ (closing ++ later)) ∧
        rest = later ++ (opening ++ (name' ++ (closing ++ rest'))) := by
  match front, h with
  | [], h =>
      have hstart : slotName? (opening ++ (name ++ (closing ++ rest))) = some name :=
        slotName?_eq_some_iff.mpr ⟨hname, rest, rfl⟩
      have hstart' : slotName? (opening ++ (name ++ (closing ++ rest))) = some name' :=
        slotName?_eq_some_iff.mpr ⟨hname', rest', h⟩
      exact .inl ⟨rfl, Option.some.inj (hstart'.symm.trans hstart)⟩
  | [_], h =>
      -- the second of its braces would be the first letter of the name
      obtain ⟨first, others, rfl, -, -⟩ := id hname
      have hbrace : first = '\x7b' := (List.cons.inj (List.cons.inj (List.cons.inj h).2).2).1
      exact absurd (hbrace ▸ List.mem_cons_self) hname.brace_notMem
  | a :: b :: front, h =>
      obtain ⟨rfl, hsecond⟩ := List.cons.inj h
      obtain ⟨rfl, hbehind⟩ := List.cons.inj hsecond
      have hinside : '\x7b' ∉ name ++ closing := by
        rw [List.mem_append, not_or]
        exact ⟨hname.brace_notMem, by decide⟩
      have hparts : (name ++ closing) ++ rest =
          front ++ (opening ++ (name' ++ (closing ++ rest'))) := by
        rw [List.append_assoc]
        exact hbehind
      rcases List.append_eq_append_iff.mp hparts with
        ⟨later, hfront, hrest⟩ | ⟨inside, heq, hopen⟩
      · refine .inr ⟨later, ?_, hrest⟩
        rw [hfront, List.append_assoc]
        rfl
      · cases inside with
        | nil =>
            refine .inr ⟨[], ?_, hopen.symm⟩
            rw [List.append_nil] at heq
            rw [← heq, List.append_nil]
            rfl
        | cons c inside =>
            obtain ⟨rfl, -⟩ := List.cons.inj hopen
            exact absurd (heq ▸ List.mem_append_right front List.mem_cons_self) hinside

/-- Cut a text from left to right: a slot where one stands, and else a single character. -/
inductive Reads : List Char → Template → Prop where
  | nil : Reads [] []
  | char {c : Char} {cs : List Char} {template : Template} (h : ¬ StartsWithSlot (c :: cs))
      (rest : Reads cs template) : Reads (c :: cs) (.char c :: template)
  | slot {name cs : List Char} {template : Template} (h : IsSlotName name)
      (rest : Reads cs template) :
      Reads (opening ++ (name ++ (closing ++ cs))) (.slot (String.ofList name) :: template)

theorem parseAfter_eq_drop (passed : Nat) (cs : List Char) :
    parseAfter passed cs = parseAfter 0 (cs.drop passed) := by
  induction passed generalizing cs with
  | zero => rfl
  | succ passed ih =>
      cases cs with
      | nil => rfl
      | cons c cs => exact ih cs

theorem parseAfter_slot {name : List Char} (hname : IsSlotName name) (cs : List Char) :
    parseAfter 0 (opening ++ (name ++ (closing ++ cs))) =
      .slot (String.ofList name) :: parseAfter 0 cs := by
  have hstart : slotName? (opening ++ (name ++ (closing ++ cs))) = some name :=
    slotName?_eq_some_iff.mpr ⟨hname, cs, rfl⟩
  -- the first brace is the character that is looked at, so the rest of the slot is passed over
  have hrest : ('\x7b' :: (name ++ (closing ++ cs))).drop (name.length + 3) = cs := by
    have hlength : ('\x7b' :: (name ++ closing)).length = name.length + 3 := by simp [closing]
    rw [← List.append_assoc, ← List.cons_append, ← hlength, List.drop_left]
  have hcons : opening ++ (name ++ (closing ++ cs)) =
      '\x7b' :: '\x7b' :: (name ++ (closing ++ cs)) := rfl
  rw [hcons] at hstart ⊢
  rw [parseAfter, hstart]
  dsimp only
  rw [parseAfter_eq_drop, hrest]

theorem parseAfter_char {c : Char} {cs : List Char} (h : ¬ StartsWithSlot (c :: cs)) :
    parseAfter 0 (c :: cs) = .char c :: parseAfter 0 cs := by
  rw [parseAfter, slotName?_eq_none_iff.mpr h]

theorem reads_parseAfter (cs : List Char) : Reads cs (parseAfter 0 cs) := by
  induction hlength : cs.length using Nat.strongRecOn generalizing cs with
  | _ length ih =>
    by_cases hstart : StartsWithSlot cs
    · obtain ⟨name, rest, hname, rfl⟩ := hstart
      rw [parseAfter_slot hname]
      refine .slot hname (ih rest.length ?_ rest rfl)
      simp only [← hlength, List.length_append, opening, List.length_cons]
      omega
    · cases cs with
      | nil => exact .nil
      | cons c cs =>
          rw [parseAfter_char hstart]
          refine .char hstart (ih cs.length ?_ cs rfl)
          rw [← hlength]
          exact Nat.lt_succ_self cs.length

theorem reads_parse (source : String) : Reads source.toList (parse source) :=
  reads_parseAfter source.toList

/-- The slots of a template with the bytes that they take, from a byte on. -/
def tokensFrom : (start : Nat) → Template → List Token
  | _, [] => []
  | start, .char c :: template => tokensFrom (start + c.utf8Size) template
  | start, .slot name :: template =>
    let stop := start + byteLength (slotText name).toList
    ⟨start, stop, name⟩ :: tokensFrom stop template

/-- The slots of a template with the bytes that they take. -/
def tokens (template : Template) : List Token := tokensFrom 0 template

/-- From its start to its stop a slot with the name of the token stands in the text. -/
def Token.StandsIn (token : Token) (cs : List Char) : Prop :=
  ∃ front rest, cs = front ++ ((slotText token.name).toList ++ rest) ∧
    IsSlotName token.name.toList ∧ token.start = byteLength front ∧
    token.stop = byteLength (front ++ (slotText token.name).toList)

/-- The tokens are the slots of the text, from left to right and each behind the one before. -/
structure ListsSlots (cs : List Char) (tokens : List Token) : Prop where
  mem_iff : ∀ token, token ∈ tokens ↔ token.StandsIn cs
  apart : tokens.Pairwise fun a b => a.start < b.start ∧ a.stop ≤ b.start

theorem map_name_tokensFrom (start : Nat) (template : Template) :
    (tokensFrom start template).map Token.name = template.slots := by
  induction template generalizing start with
  | nil => rfl
  | cons piece template ih =>
      cases piece with
      | char c => exact ih _
      | slot name => exact congrArg (name :: ·) (ih _)

theorem le_of_mem_tokensFrom {start : Nat} {template : Template} {token : Token}
    (h : token ∈ tokensFrom start template) : start ≤ token.start := by
  induction template generalizing start with
  | nil => simp [tokensFrom] at h
  | cons piece template ih =>
      cases piece with
      | char c => exact Nat.le_trans (Nat.le_add_right _ _) (ih h)
      | slot name =>
          rcases List.mem_cons.mp h with rfl | h
          · exact Nat.le_refl start
          · exact Nat.le_trans (Nat.le_add_right _ _) (ih h)

theorem pairwise_tokensFrom (start : Nat) (template : Template) :
    (tokensFrom start template).Pairwise fun a b => a.start < b.start ∧ a.stop ≤ b.start := by
  induction template generalizing start with
  | nil => exact .nil
  | cons piece template ih =>
      cases piece with
      | char c => exact ih _
      | slot name =>
          refine (ih _).cons fun token htoken => ?_
          have hstop := le_of_mem_tokensFrom htoken
          have hpos : 0 < byteLength (slotText name).toList := by
            rw [toList_slotText, byteLength_append, byteLength_opening]
            omega
          exact ⟨by dsimp only; omega, hstop⟩

/-- The tokens of a reading are the slots of the text that it reads. -/
theorem Reads.mem_tokensFrom_iff {cs : List Char} {template : Template} (h : Reads cs template)
    (start : Nat) {token : Token} :
    token ∈ tokensFrom start template ↔
      ∃ front rest, cs = front ++ ((slotText token.name).toList ++ rest) ∧
        IsSlotName token.name.toList ∧ token.start = start + byteLength front ∧
        token.stop = start + byteLength (front ++ (slotText token.name).toList) := by
  induction h generalizing start with
  | nil => simp [tokensFrom, opening]
  | @char c cs template hstart _ ih =>
      rw [tokensFrom, ih]
      constructor
      · rintro ⟨front, rest, rfl, hname, hbyte, hstop⟩
        refine ⟨c :: front, rest, rfl, hname, ?_, ?_⟩
        · rw [hbyte, byteLength_cons, Nat.add_assoc]
        · rw [hstop, List.cons_append, byteLength_cons, Nat.add_assoc]
      · rintro ⟨front, rest, heq, hname, hbyte, hstop⟩
        cases front with
        | nil =>
            refine absurd ⟨token.name.toList, rest, hname, ?_⟩ hstart
            rw [heq]
            simp
        | cons d front =>
            obtain ⟨rfl, hcs⟩ := List.cons.inj heq
            refine ⟨front, rest, hcs, hname, ?_, ?_⟩
            · rw [hbyte, byteLength_cons, Nat.add_assoc]
            · rw [hstop, List.cons_append, byteLength_cons, Nat.add_assoc]
  | @slot name cs template hname _ ih =>
      rw [tokensFrom, List.mem_cons, ih]
      constructor
      · rintro (rfl | ⟨front, rest, rfl, hlater, hbyte, hstop⟩)
        · exact ⟨[], cs, by simp, by simpa using hname, rfl, rfl⟩
        · refine ⟨(slotText (String.ofList name)).toList ++ front, rest, by simp, hlater, ?_, ?_⟩
          · rw [hbyte, byteLength_append, Nat.add_assoc]
          · rw [hstop, List.append_assoc, byteLength_append (slotText _).toList, Nat.add_assoc]
      · rintro ⟨front, rest, heq, hlater, hbyte, hstop⟩
        have hslots : opening ++ (name ++ (closing ++ cs)) =
            front ++ (opening ++ (token.name.toList ++ (closing ++ rest))) := by
          rw [heq]
          simp
        rcases front_of_slot hname hlater hslots with ⟨rfl, hsame⟩ | ⟨later, rfl, hcs⟩
        · left
          obtain ⟨first, last, tokenName⟩ := token
          obtain rfl : tokenName = String.ofList name := by
            rw [← hsame, String.ofList_toList]
          obtain rfl : first = start := hbyte
          obtain rfl : last = first + byteLength (slotText (String.ofList name)).toList := hstop
          rfl
        · right
          have hfront : opening ++ (name ++ (closing ++ later)) =
              (slotText (String.ofList name)).toList ++ later := by
            simp
          refine ⟨later, rest, by rw [hcs]; simp, hlater, ?_, ?_⟩
          · rw [hbyte, hfront, byteLength_append, Nat.add_assoc]
          · rw [hstop, hfront, List.append_assoc, byteLength_append (slotText _).toList,
              Nat.add_assoc]

/-- The slots that a source is cut into are its slots. -/
theorem listsSlots_parse (source : String) :
    ListsSlots source.toList (parse source).tokens where
  mem_iff token := by
    rw [tokens, (reads_parse source).mem_tokensFrom_iff]
    simp only [Token.StandsIn, Nat.zero_add]
  apart := pairwise_tokensFrom 0 (parse source)

/-- The names are those of the slots in the text, each once and where it first appears. -/
structure ListsNames (cs : List Char) (names : List String) : Prop where
  nodup : names.Nodup
  mem_iff : ∀ name, name ∈ names ↔ IsSlotName name.toList ∧ (slotText name).toList <:+: cs
  /-- Wherever a slot with a later name stands, one with the earlier name stands before it. -/
  firstSeen : names.Pairwise fun a b => ∀ token : Token, token.StandsIn cs → token.name = b →
    ∃ first : Token, first.StandsIn cs ∧ first.name = a ∧ first.start < token.start

theorem exists_standsIn_iff {cs : List Char} {name : String} :
    (∃ token : Token, token.StandsIn cs ∧ token.name = name) ↔
      IsSlotName name.toList ∧ (slotText name).toList <:+: cs := by
  constructor
  · rintro ⟨token, ⟨front, rest, rfl, hname, -, -⟩, rfl⟩
    exact ⟨hname, front, rest, List.append_assoc _ _ _⟩
  · rintro ⟨hname, front, rest, rfl⟩
    exact ⟨⟨byteLength front, byteLength (front ++ (slotText name).toList), name⟩,
      ⟨front, rest, List.append_assoc _ _ _, hname, rfl, rfl⟩, rfl⟩

theorem ListsSlots.listsNames {cs : List Char} {tokens : List Token} (h : ListsSlots cs tokens) :
    ListsNames cs (distinct (tokens.map Token.name)) where
  nodup := nodup_distinct _
  mem_iff name := by
    rw [mem_distinct, List.mem_map, ← exists_standsIn_iff]
    simp only [h.mem_iff]
  firstSeen := by
    refine (pairwise_mem_distinct _).imp ?_
    intro a b hseen token htoken hb
    obtain ⟨before, after, hcut⟩ := List.append_of_mem ((h.mem_iff token).mpr htoken)
    have hmem : a ∈ before.map Token.name := by
      refine hseen (before.map Token.name) (after.map Token.name) ?_
      rw [hcut, List.map_append, List.map_cons, hb]
    obtain ⟨first, hfirst, ha⟩ := List.mem_map.mp hmem
    have hmemTokens : first ∈ tokens := hcut ▸ List.mem_append_left _ hfirst
    have happart := h.apart
    rw [hcut] at happart
    have hlt := (List.pairwise_append.mp happart).2.2 first hfirst token List.mem_cons_self
    exact ⟨first, (h.mem_iff first).mp hmemTokens, ha, hlt.1⟩

theorem listsNames_placeholders (source : String) :
    ListsNames source.toList (placeholders source) := by
  have hnames : placeholders source = distinct ((parse source).tokens.map Token.name) := by
    rw [tokens, map_name_tokensFrom]
    rfl
  rw [hnames]
  exact (listsSlots_parse source).listsNames

end SensorNode.Template
