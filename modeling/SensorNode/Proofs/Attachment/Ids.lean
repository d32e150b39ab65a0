import SensorNode.Attachment.Id
import SensorNode.Proofs.Text.Digits

/-!
# Texts of ids

A short id has eight hexadecimal digits, whatever the id is, and the whole text of an id is read as
the id.
-/

namespace SensorNode.AttachmentId

theorem length_shortId (id : AttachmentId) : id.shortId.toList.length = 8 := by
  simp [shortId, digits]

theorem toList_shortId_zero : (shortId ⟨0⟩).toList = List.replicate 8 '0' := by
  have hbits : (0 : BitVec 128).toNat = 0 := rfl
  rw [shortId, String.toList_ofList, digits, hbits, Text.fixedDigits_zero, List.take_replicate]
  rfl

theorem exists_digit_of_mem_shortId {id : AttachmentId} {c : Char} (h : c ∈ id.shortId.toList) :
    ∃ d < 16, c = Nat.digitChar d := by
  rw [shortId, String.toList_ofList, digits] at h
  exact Text.mem_fixedDigits (by decide) (List.mem_of_mem_take h)

/-- Hyphens are put between the digits only, so taking them out gives the digits back. -/
theorem filter_hyphenate {digits : List Char} (h : '-' ∉ digits) :
    (hyphenate digits).filter (· ≠ '-') = digits := by
  have hkeep {cs : List Char} (hcs : cs.Sublist digits) : cs.filter (· ≠ '-') = cs :=
    List.filter_eq_self.mpr fun c hc => decide_eq_true fun heq => h (heq ▸ hcs.subset hc)
  have hgroup (i n : Nat) : ((digits.drop i).take n).Sublist digits :=
    (List.take_sublist _ _).trans (List.drop_sublist _ _)
  have hjoin (i n : Nat) : (digits.drop i).take n ++ digits.drop (i + n) = digits.drop i := by
    rw [← List.drop_drop, List.take_append_drop]
  have hskip (cs : List Char) : ('-' :: cs).filter (· ≠ '-') = cs.filter (· ≠ '-') := rfl
  rw [hyphenate]
  simp only [List.filter_append, List.cons_append, List.append_assoc, hskip, hkeep (hgroup _ _),
    hkeep (List.take_sublist _ _), hkeep (List.drop_sublist _ _)]
  rw [hjoin 16 4, hjoin 12 4, hjoin 8 4, List.take_append_drop]

/-- An id is read from its text. -/
theorem ofText?_text (id : AttachmentId) : ofText? id.text = some id := by
  have hhyphen : '-' ∉ id.digits := by
    intro hmem
    obtain ⟨d, hd, heq⟩ := Text.mem_fixedDigits (by decide) hmem
    have hnone : ∀ d < 16, '-' ≠ Nat.digitChar d := by decide
    exact hnone d hd heq
  have hlength : id.digits.length = 32 := Text.length_fixedDigits ..
  have hhyphenated : (hyphenate id.digits).length = 36 := by
    simp [hyphenate, hlength]
  have hdigits : givenDigits? (hyphenate id.digits) = some id.digits := by
    rw [givenDigits?, if_neg (by omega), if_pos hhyphenated, dehyphenate?,
      filter_hyphenate hhyphen, if_pos ⟨hlength, rfl⟩]
  have hvalue : Text.hexValue? id.digits = some id.bits.toNat := by
    rw [digits, Text.hexValue?_fixedDigits,
      Nat.mod_eq_of_lt (show id.bits.toNat < 16 ^ 32 from id.bits.isLt)]
  rw [ofText?, text, String.toList_ofList, hdigits, Option.bind_eq_bind, Option.bind_some, hvalue,
    Option.bind_eq_bind, Option.bind_some, BitVec.ofNat_toNat, BitVec.setWidth_eq]
  rfl

end SensorNode.AttachmentId
