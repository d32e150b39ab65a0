import SensorNode.Proofs.Identity.Acceptance
import SensorNode.Proofs.Identity.HashValue

/-!
# Replaced groups

What a signer says of its own token after one group was replaced by another one. A replaced checksum
is always noticed. A replaced index is noticed unless the hash takes the old and the new index for
the same; then the token passes, with the record of the changed indices.

The hash is signed, and its sign is dropped. While the sign stays, whether two indices are taken for
the same depends on nothing that comes after them, and with as many decimal digits on them alone:
they have to be 242 or more apart. When the sign changes, close ones can be taken for the same too.
In either case their digit sums are both even or both odd.
-/

namespace SensorNode.Identity

/-- A token with the group at a place replaced. -/
def replaceGroup (token : String) (place : Nat) (group : String) : String :=
  Text.join "-" ((Text.splitText '-' token).set place group)

theorem isIndexGroup_of_isGroup {group : String} (h : IsGroup group)
    (hlt : groupIndex group < 2048) : IsIndexGroup group := by
  have hdigits : "0123456789abcdef".toList.all fun c => c ∈ Text.hexDigits := by decide
  exact ⟨h.1, fun c hc => of_decide_eq_true (List.all_eq_true.mp hdigits c (h.2 c hc)), hlt⟩

/-- A group in lower case is the one that is written for its index. -/
theorem groupText_groupIndex_of_isGroup {group : String} (h : IsGroup group)
    (hlt : groupIndex group < 2048) : groupText (groupIndex group) = group := by
  have hall : "0123456789abcdef".toList.all fun c => c.toLower = c := by decide
  have hlower : ∀ c ∈ group.toList, c.toLower = c := fun c hc =>
    of_decide_eq_true (List.all_eq_true.mp hall c (h.2 c hc))
  rw [groupText_groupIndex (isIndexGroup_of_isGroup h hlt)]
  apply String.toList_inj.mp
  rw [Text.toList_toLower]
  exact (List.map_congr_left hlower).trans (List.map_id group.toList)

/-- Replacing a group replaces the index. -/
theorem replaceGroup_writeGroups {indices : List Nat} (h : indices ≠ []) {group : String}
    (hgroup : IsGroup group) (hlt : groupIndex group < 2048) (place : Nat) :
    replaceGroup (writeGroups indices) place group =
      writeGroups (indices.set place (groupIndex group)) := by
  rw [replaceGroup, splitText_writeGroups h, writeGroups, List.map_set,
    groupText_groupIndex_of_isGroup hgroup hlt]

namespace Signer

variable {signer : Signer} {indices xs ys : List Nat} {place index last : Nat}

/-- What a signer hashes. -/
def hashedText (signer : Signer) (indices : List Nat) : List Char :=
  (Text.join "-" (indices.map toString) ++ signer.secret).toList

/-- The beginning of it up to the end of one index. -/
def hashedUpTo (indices : List Nat) (place : Nat) : List Char :=
  (Text.join "-" ((indices.take (place + 1)).map toString)).toList

def signedHash (signer : Signer) (indices : List Nat) : Int :=
  (rollingHash (signer.hashedText indices)).toInt32.toInt

def SameSign (signer : Signer) (xs ys : List Nat) : Prop :=
  signer.signedHash xs < 0 ↔ signer.signedHash ys < 0

/-- Their hashes agree modulo 2048 up to their signs. -/
def Confuses (signer : Signer) (xs ys : List Nat) : Prop :=
  (signer.SameSign xs ys ∧ signer.signedHash xs ≡ signer.signedHash ys [ZMOD 2048]) ∨
    (¬signer.SameSign xs ys ∧ signer.signedHash xs ≡ -signer.signedHash ys [ZMOD 2048])

instance (signer : Signer) (xs ys : List Nat) : Decidable (signer.SameSign xs ys) :=
  inferInstanceAs (Decidable (_ ↔ _))

instance (signer : Signer) (xs ys : List Nat) : Decidable (signer.Confuses xs ys) :=
  inferInstanceAs (Decidable (_ ∨ _))

theorem checksum_eq_iff_confuses :
    signer.checksum xs = signer.checksum ys ↔ signer.Confuses xs ys :=
  natAbs_mod_eq_iff (signer.signedHash xs) (signer.signedHash ys)

/-- Of what is hashed, only one stretch of digits depends on the index at a place. -/
theorem exists_hashedText_set (signer : Signer) (hplace : place < indices.length) :
    ∃ front back, ∀ index,
      hashedUpTo (indices.set place index) place = front ++ (toString index).toList ∧
        signer.hashedText (indices.set place index) =
          hashedUpTo (indices.set place index) place ++ back := by
  let before := (indices.take place).map toString
  let after := (indices.drop (place + 1)).map toString
  refine ⟨before.flatMap fun x => x.toList ++ "-".toList,
    (after.flatMap fun y => "-".toList ++ y.toList) ++ signer.secret.toList, fun index => ?_⟩
  have hset : indices.set place index =
      indices.take place ++ index :: indices.drop (place + 1) := by
    rw [List.set_eq_take_append_cons_drop, if_pos hplace]
  have hlength : (indices.take place).length = place :=
    List.length_take_of_le (Nat.le_of_lt hplace)
  have htake : (indices.set place index).take (place + 1) = indices.take place ++ [index] := by
    rw [hset, List.take_append, hlength, List.take_of_length_le (by omega)]
    simp
  have hupTo : hashedUpTo (indices.set place index) place =
      (before.flatMap fun x => x.toList ++ "-".toList) ++ (toString index).toList := by
    rw [hashedUpTo, htake, List.map_append, List.map_singleton, Text.toList_join_append_cons]
    simp [before]
  refine ⟨hupTo, ?_⟩
  rw [hupTo, hashedText, hset, List.map_append, List.map_cons, String.toList_append,
    Text.toList_join_append_cons]
  simp only [before, after, List.append_assoc]

theorem signedHash_modEq (signer : Signer) (indices : List Nat) :
    signer.signedHash indices ≡ textValue (signer.hashedText indices) [ZMOD 2048] :=
  toInt_rollingHash_modEq (signer.hashedText indices)

/-- With one sign, nothing after the index matters, and neither does the secret. -/
theorem confuses_set_iff (hplace : place < indices.length)
    (hsign : signer.SameSign indices (indices.set place index)) :
    signer.Confuses indices (indices.set place index) ↔
      textValue (hashedUpTo indices place) ≡
        textValue (hashedUpTo (indices.set place index) place) [MOD 2048] := by
  obtain ⟨front, back, htext⟩ := signer.exists_hashedText_set hplace
  have hold := (htext indices[place]).2
  rw [List.set_getElem_self] at hold
  have hvalues : signer.Confuses indices (indices.set place index) ↔
      textValue (signer.hashedText indices) ≡
        textValue (signer.hashedText (indices.set place index)) [MOD 2048] := by
    rw [Confuses, and_iff_right hsign, or_iff_left (fun h => h.1 hsign), ← Int.natCast_modEq_iff]
    constructor
    · intro h
      exact (signedHash_modEq signer _).symm.trans (h.trans (signedHash_modEq signer _))
    · intro h
      exact (signedHash_modEq signer _).trans (h.trans (signedHash_modEq signer _).symm)
  rw [hvalues, hold, (htext index).2, textValue_append_modEq_iff]

/-- With as many digits too, nothing before the index matters either. -/
theorem confuses_set_iff_of_length {old : Nat} (hold : indices[place]? = some old)
    (hsign : signer.SameSign indices (indices.set place index))
    (hlength : (toString old).length = (toString index).length) :
    signer.Confuses indices (indices.set place index) ↔
      inBase31 old ≡ inBase31 index [MOD 2048] := by
  obtain ⟨hplace, rfl⟩ := List.getElem?_eq_some_iff.mp hold
  obtain ⟨front, back, htext⟩ := signer.exists_hashedText_set hplace
  have hbefore := (htext indices[place]).1
  rw [List.set_getElem_self] at hbefore
  have hunits : (units (toString indices[place]).toList).length =
      (units (toString index).toList).length := by
    rw [length_units_toString, length_units_toString, hlength]
  rw [confuses_set_iff hplace hsign, hbefore, (htext index).1,
    append_textValue_modEq_iff front hunits, textValue_toString_modEq_iff hlength]

/-- A hash is even or odd as the value of its text is, whatever its sign. -/
theorem checksum_mod_two (signer : Signer) (indices : List Nat) :
    signer.checksum indices % 2 = textValue (signer.hashedText indices) % 2 := by
  have hhash := signedHash_modEq signer indices
  have hchecksum : signer.checksum indices = (signer.signedHash indices).natAbs % 2048 := rfl
  unfold Int.ModEq at hhash
  omega

/-- Indices are taken for the same only if their digit sums are both even or both odd. -/
theorem digitSum_mod_two_of_confuses {old : Nat} (hold : indices[place]? = some old)
    (h : signer.Confuses indices (indices.set place index)) :
    (Nat.digits 10 old).sum % 2 = (Nat.digits 10 index).sum % 2 := by
  obtain ⟨hplace, rfl⟩ := List.getElem?_eq_some_iff.mp hold
  obtain ⟨front, back, htext⟩ := signer.exists_hashedText_set hplace
  have hvalue (i : Nat) : textValue (signer.hashedText (indices.set place i)) % 2 =
      (textValue front + (Nat.digits 10 i).sum + textValue back) % 2 := by
    have hdigits := textValue_toString_mod_two i
    have hfront := textValue_append_mod_two front (toString i).toList
    have hback := textValue_append_mod_two (front ++ (toString i).toList) back
    rw [(htext i).2, (htext i).1]
    omega
  have hold' := hvalue indices[place]
  have hnew := hvalue index
  have hchecksum := congrArg (· % 2) (checksum_eq_iff_confuses.mpr h)
  simp only [checksum_mod_two] at hchecksum
  rw [List.set_getElem_self] at hold'
  omega

/-- What a signer says of the token of some indices after the group at a place was replaced. -/
structure JudgesReplaced (signer : Signer) (indices : List Nat) (place index : Nat)
    (tampered : String) : Prop where
  checksum : place = 11 → signer.verify tampered = .error .checksumMismatch
  /-- A replaced index is noticed unless it is taken for the old one. -/
  verdict : place < 11 → signer.verify tampered =
    if signer.Confuses indices (indices.set place index)
    then .ok (.ofIndices fun i => (indices.set place index).getD i 0)
    else .error .checksumMismatch
  /-- While the sign of the hash stays, what is hashed up to the index decides. -/
  sameSign_iff : place < 11 → signer.SameSign indices (indices.set place index) →
    (signer.Confuses indices (indices.set place index) ↔
      textValue (hashedUpTo indices place) ≡
        textValue (hashedUpTo (indices.set place index) place) [MOD 2048])
  sameLength_iff : ∀ old, indices[place]? = some old →
    signer.SameSign indices (indices.set place index) →
      (toString old).length = (toString index).length →
        (signer.Confuses indices (indices.set place index) ↔
          inBase31 old ≡ inBase31 index [MOD 2048])
  /-- Then close ones are noticed. -/
  close : ∀ old, indices[place]? = some old →
    signer.SameSign indices (indices.set place index) →
      (toString old).length = (toString index).length →
        old < index + 242 → index < old + 242 →
          signer.verify tampered = .error .checksumMismatch
  /-- An odd change of the digit sum is always noticed. -/
  parity : ∀ old, indices[place]? = some old →
    (Nat.digits 10 old).sum % 2 ≠ (Nat.digits 10 index).sum % 2 →
      signer.verify tampered = .error .checksumMismatch

/-- Another checksum does not fit. -/
theorem verify_replaced_checksum (hlength : indices.length = 11)
    (hlt : ∀ index ∈ indices ++ [last], index < indexSpace)
    (hne : signer.checksum indices ≠ last) :
    signer.verify (writeGroups (indices ++ [last])) = .error .checksumMismatch := by
  rw [verify_writeGroups_append hlength hlt, if_neg hne]

theorem verify_replaced_index (signer : Signer) (place : Nat) (hlength : indices.length = 11)
    (hlt : ∀ index ∈ indices, index < indexSpace) (hindex : index < indexSpace) :
    signer.verify (writeGroups (indices.set place index ++ [signer.checksum indices])) =
      if signer.Confuses indices (indices.set place index)
      then .ok (.ofIndices fun i => (indices.set place index).getD i 0)
      else .error .checksumMismatch := by
  have hlength' : (indices.set place index).length = 11 := by rw [List.length_set, hlength]
  have hlt' : ∀ i ∈ indices.set place index ++ [signer.checksum indices], i < indexSpace := by
    rw [List.forall_mem_append, List.forall_mem_singleton]
    refine ⟨fun i hi => ?_, checksum_lt indices⟩
    rcases List.mem_or_eq_of_mem_set hi with hi | rfl
    · exact hlt i hi
    · exact hindex
  rw [verify_writeGroups_append hlength' hlt']
  by_cases hconfuses : signer.Confuses indices (indices.set place index)
  · rw [if_pos hconfuses, if_pos (checksum_eq_iff_confuses.mpr hconfuses).symm]
  · rw [if_neg hconfuses, if_neg fun heq => hconfuses (checksum_eq_iff_confuses.mp heq.symm)]

theorem judgesReplaced (hlength : indices.length = 11)
    (hlt : ∀ index ∈ indices, index < indexSpace) (hindex : index < indexSpace)
    (hne : (indices ++ [signer.checksum indices])[place]? ≠ some index) :
    signer.JudgesReplaced indices place index
      (writeGroups ((indices ++ [signer.checksum indices]).set place index)) := by
  have hset (h : place < 11) : (indices ++ [signer.checksum indices]).set place index =
      indices.set place index ++ [signer.checksum indices] :=
    List.set_append_left place index (hlength ▸ h)
  have hverdict := verify_replaced_index signer place hlength hlt hindex
  have hbefore {old : Nat} (hold : indices[place]? = some old) : place < 11 :=
    hlength ▸ (List.getElem?_eq_some_iff.mp hold).1
  constructor
  case checksum =>
    rintro rfl
    have hlast : (indices ++ [signer.checksum indices]).set 11 index = indices ++ [index] := by
      rw [List.set_append_right 11 index (Nat.le_of_eq hlength), hlength]
      rfl
    rw [List.getElem?_append_right (Nat.le_of_eq hlength), hlength] at hne
    rw [hlast]
    apply verify_replaced_checksum hlength
    · rw [List.forall_mem_append, List.forall_mem_singleton]
      exact ⟨hlt, hindex⟩
    · exact fun heq => hne (congrArg some heq)
  case verdict =>
    intro hplace
    rw [hset hplace, hverdict]
  case sameSign_iff => exact fun hplace => confuses_set_iff (hlength ▸ hplace)
  case sameLength_iff => exact fun old => confuses_set_iff_of_length
  case close =>
    intro old hold hsign hdigits hnear hnear'
    have hplace := hbefore hold
    have hold' : old ≠ index := by
      rw [List.getElem?_append_left (hlength ▸ hplace), hold] at hne
      exact fun heq => hne (congrArg some heq)
    have holdlt : old < 2048 := hlt old (List.mem_of_getElem? hold)
    rw [hset hplace, hverdict, if_neg]
    intro hconfuses
    have hmod := (confuses_set_iff_of_length hold hsign hdigits).mp hconfuses
    rcases Nat.lt_or_gt_of_ne hold' with hlow | hhigh
    · exact absurd (add_le_of_inBase31_modEq hlow hindex hmod) (Nat.not_le.mpr hnear')
    · exact absurd (add_le_of_inBase31_modEq hhigh holdlt hmod.symm) (Nat.not_le.mpr hnear)
  case parity =>
    intro old hold hparity
    rw [hset (hbefore hold), hverdict, if_neg]
    exact fun h => hparity (digitSum_mod_two_of_confuses hold h)

/-- Of a token that it issued, a signer with a secret notices every replaced checksum, and every
replaced index that it does not take for the old one. -/
theorem exists_issue_judgesReplaced (signer : Signer) (record : Record)
    (hsecret : signer.secret ≠ "") :
    ∃ token, signer.issue record = .ok token ∧
      ∀ place group, place < 12 → IsGroup group → groupIndex group < 2048 →
        (Text.splitText '-' token)[place]? ≠ some group →
          signer.JudgesReplaced record.indices place (groupIndex group)
            (replaceGroup token place group) := by
  refine ⟨_, issue_eq_ok hsecret, fun place group _ hgroup hlt hne => ?_⟩
  rw [replaceGroup_writeGroups (by simp) hgroup hlt]
  apply judgesReplaced record.length_indices (fun _ => Record.lt_of_mem_indices) hlt
  intro hsame
  apply hne
  rw [splitText_writeGroups (by simp), List.getElem?_map, hsame, Option.map_some,
    groupText_groupIndex_of_isGroup hgroup hlt]

/-- The kind of the usual record is replaced by the next one, which changes the digit sum by one. -/
theorem exists_issue_judgesReplaced_kind :
    let signer : Signer := ⟨"lab-secret"⟩
    let token := "000-001-001-000-001-001-001-001-001-001-000-33a"
    signer.secret ≠ "" ∧ signer.issue {} = .ok token ∧ IsGroup "002" ∧ groupIndex "002" < 2048 ∧
      (Text.splitText '-' token)[1]? ≠ some "002" ∧
      signer.verify (replaceGroup token 1 "002") = .error .checksumMismatch := by
  intro signer token
  have hsecret : signer.secret ≠ "" := by decide
  have hissue : signer.issue {} = .ok token := by decide +kernel
  have hgroup : IsGroup "002" := isGroup_groupText 2
  have hlt : groupIndex "002" < 2048 := by decide +kernel
  have hne : (Text.splitText '-' token)[1]? ≠ some "002" := by decide +kernel
  obtain ⟨issued, hissued, hjudges⟩ := exists_issue_judgesReplaced signer {} hsecret
  obtain rfl : token = issued := Except.ok.inj (hissue.symm.trans hissued)
  have hparity := (hjudges 1 "002" (by decide) hgroup hlt hne).parity 1 rfl
  exact ⟨hsecret, hissue, hgroup, hlt, hne, hparity (by decide +kernel)⟩

/-- The kinds 1 and 90 are taken for the same, so a replaced kind is not always noticed. -/
theorem not_noticed_kind :
    let signer : Signer := ⟨"lab-secret"⟩
    let token := "000-001-001-000-001-001-001-001-001-001-000-33a"
    let tampered := "000-05a-001-000-001-001-001-001-001-001-000-33a"
    signer.secret ≠ "" ∧ signer.issue {} = .ok token ∧ IsGroup "05a" ∧ groupIndex "05a" < 2048 ∧
      (Text.splitText '-' token)[1]? ≠ some "05a" ∧ replaceGroup token 1 "05a" = tampered ∧
      signer.verify tampered ≠ .error .checksumMismatch ∧
      signer.verify tampered = .ok { kind := 90 } := by
  intro signer token tampered
  have hgroup : IsGroup "05a" := isGroup_groupText 90
  have hverify : signer.verify tampered = .ok { kind := 90 } := by decide +kernel
  refine ⟨by decide, by decide +kernel, hgroup, by decide +kernel, by decide +kernel,
    by decide +kernel, ?_, hverify⟩
  rw [hverify]
  exact nofun

end Signer

end SensorNode.Identity
