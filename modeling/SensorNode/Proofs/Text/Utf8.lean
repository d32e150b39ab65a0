/-!
# UTF-8

Texts are ordered by their characters, files and their names by bytes. UTF-8 was made so that the
two orders agree: a smaller character is encoded by smaller bytes, whatever follows.
-/

namespace SensorNode.Text

theorem fromUTF8?_eq_some_iff {content : ByteArray} {text : String} :
    String.fromUTF8? content = some text ↔ text.toUTF8 = content := by
  unfold String.fromUTF8?
  constructor
  · intro h
    split at h
    · obtain rfl := Option.some.inj h
      rfl
    · simp at h
  · rintro rfl
    rw [String.toUTF8_eq_toByteArray, dif_pos text.isValidUTF8]
    rfl

theorem fromUTF8?_eq_none_iff {content : ByteArray} :
    String.fromUTF8? content = none ↔ ∀ text : String, text.toUTF8 ≠ content := by
  rw [Option.eq_none_iff_forall_ne_some]
  exact forall_congr' fun _ => not_congr fromUTF8?_eq_some_iff

/-- The bytes of a text. -/
def bytes (s : String) : List UInt8 := s.toUTF8.data.toList

theorem bytes_eq_flatMap (s : String) : bytes s = s.toList.flatMap String.utf8EncodeChar := by
  rw [bytes, String.toUTF8_eq_toByteArray, ← String.utf8Encode_toList, List.utf8Encode,
    List.data_toByteArray]

/-- A character has one to four bytes. They are the digits of its number in base 64, the first of
them raised so as to tell how many there are. -/
theorem utf8EncodeChar_cases (c : Char) :
    (c.toNat ≤ 127 ∧ String.utf8EncodeChar c = [.ofNat c.toNat]) ∨
    (∃ x y, c.toNat = 64 * x + y ∧ 2 ≤ x ∧ x < 32 ∧ y < 64 ∧
      String.utf8EncodeChar c = [.ofNat (x + 192), .ofNat (y + 128)]) ∨
    (∃ x y z, c.toNat = 4096 * x + 64 * y + z ∧ 2048 ≤ c.toNat ∧ x < 16 ∧ y < 64 ∧ z < 64 ∧
      String.utf8EncodeChar c = [.ofNat (x + 224), .ofNat (y + 128), .ofNat (z + 128)]) ∨
    ∃ w x y z, c.toNat = 262144 * w + 4096 * x + 64 * y + z ∧ 65536 ≤ c.toNat ∧
      w < 8 ∧ x < 64 ∧ y < 64 ∧ z < 64 ∧
      String.utf8EncodeChar c =
        [.ofNat (w + 240), .ofNat (x + 128), .ofNat (y + 128), .ofNat (z + 128)] := by
  have hvalid : c.toNat < 1114112 := by
    rcases c.valid with h | h
    · exact Nat.lt_trans h (by decide)
    · exact h.2
  by_cases h1 : c.toNat ≤ 127
  · exact .inl ⟨h1, if_pos h1⟩
  refine .inr ?_
  by_cases h2 : c.toNat ≤ 2047
  · refine .inl ⟨c.toNat / 64 % 32, c.toNat % 64, by omega, by omega, by omega, by omega, ?_⟩
    exact (if_neg h1).trans (if_pos h2)
  refine .inr ?_
  by_cases h3 : c.toNat ≤ 65535
  · refine .inl ⟨c.toNat / 4096 % 16, c.toNat / 64 % 64, c.toNat % 64, by omega, by omega,
      by omega, by omega, by omega, ?_⟩
    exact (if_neg h1).trans ((if_neg h2).trans (if_pos h3))
  · refine .inr ⟨c.toNat / 262144 % 8, c.toNat / 4096 % 64, c.toNat / 64 % 64, c.toNat % 64,
      by omega, by omega, by omega, by omega, by omega, by omega, ?_⟩
    exact (if_neg h1).trans ((if_neg h2).trans (if_neg h3))

theorem utf8EncodeChar_append_lt {c d : Char} (h : c < d) (xs ys : List UInt8) :
    String.utf8EncodeChar c ++ xs < String.utf8EncodeChar d ++ ys := by
  have hlt : c.toNat < d.toNat := UInt32.lt_iff_toNat_lt.mp (Char.lt_def.mp h)
  -- with as many bytes their digits decide, with more of them the first byte does
  rcases utf8EncodeChar_cases c with ⟨_, ec⟩ | ⟨_, _, _, _, _, _, ec⟩ |
      ⟨_, _, _, _, _, _, _, _, ec⟩ | ⟨_, _, _, _, _, _, _, _, _, _, ec⟩ <;>
    rcases utf8EncodeChar_cases d with ⟨_, ed⟩ | ⟨_, _, _, _, _, _, ed⟩ |
      ⟨_, _, _, _, _, _, _, _, ed⟩ | ⟨_, _, _, _, _, _, _, _, _, _, ed⟩ <;>
    simp only [ec, ed, List.cons_append, List.nil_append, List.cons_lt_cons_iff,
      UInt8.lt_iff_toNat_lt, ← UInt8.toNat_inj, UInt8.toNat_ofNat'] <;>
    omega

theorem flatMap_utf8EncodeChar_lt {cs ds : List Char} (h : cs < ds) :
    cs.flatMap String.utf8EncodeChar < ds.flatMap String.utf8EncodeChar := by
  induction cs generalizing ds with
  | nil =>
      cases ds with
      | nil => exact absurd h (List.lt_irrefl [])
      | cons d ds =>
          obtain ⟨b, bs, hd⟩ := List.exists_cons_of_ne_nil (String.utf8EncodeChar_ne_nil (c := d))
          rw [List.flatMap_nil, List.flatMap_cons, hd]
          exact List.nil_lt_cons _ _
  | cons c cs ih =>
      cases ds with
      | nil => exact absurd h (List.not_lt_nil _)
      | cons d ds =>
          rw [List.flatMap_cons, List.flatMap_cons]
          rcases List.cons_lt_cons_iff.mp h with hcd | ⟨rfl, hlt⟩
          · exact utf8EncodeChar_append_lt hcd _ _
          · exact List.append_left_lt (ih hlt)

theorem bytes_lt {s t : String} (h : s < t) : bytes s < bytes t := by
  rw [bytes_eq_flatMap, bytes_eq_flatMap]
  exact flatMap_utf8EncodeChar_lt (String.lt_iff.mp h)

/-- The bytes are ordered as the texts are. -/
theorem bytes_le_iff {s t : String} : bytes s ≤ bytes t ↔ s ≤ t := by
  rw [← Std.not_lt, ← Std.not_lt]
  refine not_congr ⟨fun h => ?_, bytes_lt⟩
  rcases Std.lt_trichotomy t s with hts | rfl | hst
  · exact hts
  · exact absurd h (List.lt_irrefl _)
  · exact absurd h (List.lt_asymm (bytes_lt hst))

/-- Texts can be ordered by their bytes in one way only. -/
theorem eq_of_perm_of_sorted {ss ts : List String} (h : ss.Perm ts)
    (hss : ss.Pairwise fun s t => bytes s ≤ bytes t)
    (hts : ts.Pairwise fun s t => bytes s ≤ bytes t) : ss = ts := by
  refine List.Perm.eq_of_pairwise (fun s t _ _ hst hts => ?_) hss hts h
  exact String.le_antisymm (bytes_le_iff.mp hst) (bytes_le_iff.mp hts)

/-- Every byte of a text is a character. -/
def isAscii (s : String) : Bool := (bytes s).all (· < 128)

/-- The characters of a text of which every byte is one. -/
def asciiChars (s : String) : List Char := (bytes s).map fun b => Char.ofNat b.toNat

/-- Bytes below 128 are characters by themselves. -/
theorem map_flatMap_utf8EncodeChar {cs : List Char}
    (h : ∀ b ∈ cs.flatMap String.utf8EncodeChar, b < 128) :
    (cs.flatMap String.utf8EncodeChar).map (fun b => Char.ofNat b.toNat) = cs := by
  induction cs with
  | nil => rfl
  | cons c cs ih =>
      rw [List.flatMap_cons, List.forall_mem_append] at h
      obtain ⟨hfirst, hrest⟩ := h
      rw [List.flatMap_cons, List.map_append, ih hrest]
      -- the first byte of several is not below 128
      rcases utf8EncodeChar_cases c with ⟨hc, ec⟩ | ⟨x, y, -, -, hx, -, ec⟩ |
          ⟨x, y, z, -, -, hx, -, -, ec⟩ | ⟨w, x, y, z, -, -, hw, -, -, -, ec⟩
      · have hbyte : (UInt8.ofNat c.toNat).toNat = c.toNat := by
          rw [UInt8.toNat_ofNat']
          omega
        rw [ec, List.map_singleton, hbyte, Char.ofNat_toNat, List.singleton_append]
      all_goals
        rw [ec] at hfirst
        have hlt := UInt8.lt_iff_toNat_lt.mp (hfirst _ List.mem_cons_self)
        rw [UInt8.toNat_ofNat'] at hlt
        change _ < 128 at hlt
        omega

theorem toList_eq_asciiChars {s : String} (h : isAscii s) : s.toList = asciiChars s := by
  rw [isAscii, bytes_eq_flatMap, List.all_eq_true] at h
  have hbytes : ∀ b ∈ s.toList.flatMap String.utf8EncodeChar, b < 128 := by simpa using h
  rw [asciiChars, bytes_eq_flatMap, map_flatMap_utf8EncodeChar hbytes]

end SensorNode.Text
