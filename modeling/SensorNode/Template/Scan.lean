import SensorNode.Template

/-!
# Scanning for braces

`Template.parse` looks at every character of a source. A scan jumps from brace to brace instead: it
looks for the next two that open, then for the first two that close after them. If a slot name
stands between, the scan has found a token and goes on behind it; if not, it goes on one byte after
the first opening brace. Without closing braces it ends.

Positions are bytes of the source in UTF-8. A slice exists only where characters start and end, so
a scan, and a rendering that puts values between the slices, has no result as soon as one position
lies inside a character or behind the end.
-/

namespace SensorNode.Template

/-- The bytes that characters take in UTF-8. -/
def byteLength : List Char → Nat
  | [] => 0
  | c :: cs => c.utf8Size + byteLength cs

@[simp] theorem byteLength_nil : byteLength [] = 0 := rfl

@[simp] theorem byteLength_cons (c : Char) (cs : List Char) :
    byteLength (c :: cs) = c.utf8Size + byteLength cs := rfl

@[simp] theorem byteLength_append (a b : List Char) :
    byteLength (a ++ b) = byteLength a + byteLength b := by
  induction a with
  | nil => rw [List.nil_append, byteLength_nil, Nat.zero_add]
  | cons c cs ih => rw [List.cons_append, byteLength_cons, byteLength_cons, ih, Nat.add_assoc]

/-- The text before a byte and the text from it on. -/
def cutAt? : (byte : Nat) → List Char → Option (List Char × List Char)
  | 0, cs => some ([], cs)
  | _ + 1, [] => none
  | byte + 1, c :: cs =>
    if c.utf8Size ≤ byte + 1 then
      (cutAt? (byte + 1 - c.utf8Size) cs).map fun parts => (c :: parts.1, parts.2)
    else none

def suffix? (start : Nat) (cs : List Char) : Option (List Char) := (cutAt? start cs).map Prod.snd

def slice? (start stop : Nat) (cs : List Char) : Option (List Char) := do
  let (front, _) ← cutAt? stop cs
  suffix? start front

/-- A cut loses nothing and is made at its byte. -/
theorem eq_of_cutAt? {byte : Nat} {cs : List Char} {parts : List Char × List Char}
    (h : cutAt? byte cs = some parts) : cs = parts.1 ++ parts.2 ∧ byteLength parts.1 = byte := by
  induction cs generalizing byte parts with
  | nil =>
      cases byte with
      | zero =>
          obtain rfl := Option.some.inj h
          exact ⟨rfl, rfl⟩
      | succ byte => simp [cutAt?] at h
  | cons c cs ih =>
      cases byte with
      | zero =>
          obtain rfl := Option.some.inj h
          exact ⟨rfl, rfl⟩
      | succ byte =>
          rw [cutAt?] at h
          split at h
          · obtain ⟨later, hlater, rfl⟩ := Option.map_eq_some_iff.mp h
            obtain ⟨heq, hbyte⟩ := ih hlater
            refine ⟨congrArg (c :: ·) heq, ?_⟩
            rw [byteLength_cons, hbyte]
            omega
          · simp at h

theorem byteLength_of_suffix? {start : Nat} {cs rest : List Char}
    (h : suffix? start cs = some rest) :
    byteLength cs = start + byteLength rest := by
  obtain ⟨parts, hcut, rfl⟩ := Option.map_eq_some_iff.mp h
  obtain ⟨heq, hstart⟩ := eq_of_cutAt? hcut
  rw [heq, byteLength_append, hstart]

/-- The first byte at which a mark stands. -/
def firstByte? (mark : List Char) : List Char → Option Nat
  | [] => none
  | c :: cs =>
    if mark.isPrefixOf (c :: cs) then some 0 else (firstByte? mark cs).map (c.utf8Size + ·)

theorem firstByte?_lt {mark cs : List Char} {byte : Nat} (h : firstByte? mark cs = some byte) :
    byte < byteLength cs := by
  induction cs generalizing byte with
  | nil => simp [firstByte?] at h
  | cons c cs ih =>
      have hpos := c.utf8Size_pos
      rw [firstByte?] at h
      rw [byteLength_cons]
      split at h
      · obtain rfl := Option.some.inj h
        omega
      · obtain ⟨later, hlater, rfl⟩ := Option.map_eq_some_iff.mp h
        have hlt := ih hlater
        omega

/-- A slot with the bytes from which and up to which it stands. -/
structure Token where
  start : Nat
  stop : Nat
  name : String
deriving DecidableEq, Repr

def opening : List Char := ['\x7b', '\x7b']

def closing : List Char := ['\x7d', '\x7d']

@[simp] theorem byteLength_opening : byteLength opening = 2 := rfl

@[simp] theorem byteLength_closing : byteLength closing = 2 := rfl

/-- What the search from a cursor comes to. -/
inductive Step where
  | ended
  | retry (cursor : Nat)
  | found (token : Token)
deriving DecidableEq, Repr

/-- Where the search goes on. -/
def Step.cursor? : Step → Option Nat
  | ended => none
  | retry cursor => some cursor
  | found token => some token.stop

def step (source : List Char) (cursor : Nat) : Option Step := do
  let rest ← suffix? cursor source
  match firstByte? opening rest with
  | none => return .ended
  | some offset =>
    let start := cursor + offset
    let nameStart := start + byteLength opening
    let inside ← suffix? nameStart source
    match firstByte? closing inside with
    | none => return .ended
    | some length =>
      let nameStop := nameStart + length
      let name ← slice? nameStart nameStop source
      return if isName name then
        .found ⟨start, nameStop + byteLength closing, String.ofList name⟩
      else .retry (start + 1)

/-- A step stays in the source and moves on. -/
theorem cursor_lt_of_step {source : List Char} {cursor next : Nat} {result : Step}
    (h : step source cursor = some result) (hnext : result.cursor? = some next) :
    cursor < byteLength source ∧ cursor < next := by
  simp only [step, Option.bind_eq_bind, Option.bind_eq_some_iff] at h
  obtain ⟨rest, hrest, h⟩ := h
  have hlength := byteLength_of_suffix? hrest
  split at h
  · obtain rfl := Option.some.inj h
    simp [Step.cursor?] at hnext
  · next offset hoffset =>
    have hlt := firstByte?_lt hoffset
    obtain ⟨inside, -, h⟩ := Option.bind_eq_some_iff.mp h
    split at h
    · obtain rfl := Option.some.inj h
      simp [Step.cursor?] at hnext
    · obtain ⟨name, -, h⟩ := Option.bind_eq_some_iff.mp h
      obtain rfl := Option.some.inj h
      refine ⟨by omega, ?_⟩
      split at hnext
      · obtain rfl := Option.some.inj hnext
        dsimp only
        rw [byteLength_opening]
        omega
      · obtain rfl := Option.some.inj hnext
        omega

/-- The tokens from a cursor on. -/
def scanFrom (source : List Char) (cursor : Nat) : Option (List Token) :=
  match _ : step source cursor with
  | none => none
  | some .ended => some []
  | some (.retry next) => scanFrom source next
  | some (.found token) => (scanFrom source token.stop).map (token :: ·)
termination_by byteLength source - cursor
decreasing_by
  all_goals
    have hlt := cursor_lt_of_step ‹_› rfl
    omega

/-- The tokens of a source. -/
def scan (source : String) : Option (List Token) := scanFrom source.toList 0

/-- The text that is written so far, the names without a value, each where it first appeared, and
the byte up to which the source is used. -/
structure Progress where
  text : List Char
  missing : List String
  cursor : Nat
deriving DecidableEq, Repr

/-- Copy the source up to a token, and write its value if it has one. -/
def Progress.pass (source : List Char) (values : Substitutions) (progress : Progress)
    (token : Token) : Option Progress := do
  let between ← slice? progress.cursor token.start source
  return match values.get? token.name with
    | some value => ⟨progress.text ++ between ++ value.toList, progress.missing, token.stop⟩
    | none => ⟨progress.text ++ between, insertNew progress.missing token.name, token.stop⟩

/-- Copy the source with the values for the tokens that a scan finds. -/
def renderScanned (source : String) (values : Substitutions) :
    Option (Except (List String) String) := do
  let tokens ← scan source
  let progress ← tokens.foldlM (Progress.pass source.toList values) ⟨[], [], 0⟩
  let rest ← suffix? progress.cursor source.toList
  return if progress.missing.isEmpty then .ok (String.ofList (progress.text ++ rest))
    else .error progress.missing

example : scan ("\x7b" ++ slotText "A" ++ slotText "0" ++ "é" ++ slotText "B") =
    some [⟨1, 6, "A"⟩, ⟨13, 18, "B"⟩] := by decide +kernel

end SensorNode.Template
