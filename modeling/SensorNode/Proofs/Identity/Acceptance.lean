import SensorNode.Proofs.Identity.RoundTrip

/-!
# Tokens accepted

What a signer says of any text at all. It looks at the groups first and names the first one that is
no index, then at their number, then at the checksum; a token that passes holds a record.

The case of digits and the two reserved groups are not looked at. So a token that is accepted need
not be the one that is issued for its record: it is, but for case, just when both reserved groups
are zero.
-/

namespace SensorNode.Identity

/-- The index that a group of hexadecimal digits stands for. -/
def groupIndex (group : String) : Nat := Text.hexValue group.toList

/-- A text of three hexadecimal digits, of either case, that stand for an index. -/
def IsIndexGroup (group : String) : Prop :=
  group.length = 3 ∧ (∀ c ∈ group.toList, c ∈ Text.hexDigits) ∧ groupIndex group < 2048

instance : DecidablePred IsIndexGroup := fun group =>
  decidable_of_iff
    (group.length = 3 ∧ group.toList.all (· ∈ Text.hexDigits) ∧ groupIndex group < 2048)
    (by rw [IsIndexGroup, List.all_eq_true]; simp only [decide_eq_true_eq])

theorem readGroup_of_isIndexGroup {group : String} (h : IsIndexGroup group) :
    readGroup group.toList = .ok (groupIndex group) := by
  obtain ⟨hlength, hdigits, hlt⟩ := h
  have hvalue : Text.hexValue? group.toList = some (groupIndex group) :=
    Text.hexValue?_of_hexDigits hdigits
  rw [readGroup, String.length_toList, if_pos hlength, hvalue]
  simp [Option.filter, indexSpace, hlt]

theorem readGroup_of_not_isIndexGroup {group : String} (h : ¬IsIndexGroup group) :
    readGroup group.toList = .error (.malformed (.badGroup group)) := by
  rw [readGroup, String.length_toList, String.ofList_toList]
  by_cases hlength : group.length = 3
  · by_cases hdigits : ∀ c ∈ group.toList, c ∈ Text.hexDigits
    · have hge : ¬Text.hexValue group.toList < indexSpace := fun hlt => h ⟨hlength, hdigits, hlt⟩
      rw [if_pos hlength, Text.hexValue?_of_hexDigits hdigits]
      simp [Option.filter, hge]
    · rw [if_pos hlength, Text.hexValue?_eq_none hdigits]
      rfl
  · rw [if_neg hlength]
    rfl

/-- Writing the index of a group gives the group back in lower case. -/
theorem groupText_groupIndex {group : String} (h : IsIndexGroup group) :
    groupText (groupIndex group) = group.toLower := by
  apply String.toList_inj.mp
  rw [groupText, groupIndex, String.toList_ofList, Text.toList_toLower,
    ← Text.fixedDigits_hexValue h.2.1, String.length_toList, h.1]

/-- A group stands for zero just when it is written so. -/
theorem groupIndex_eq_zero_iff {group : String} (h : IsIndexGroup group) :
    groupIndex group = 0 ↔ group = "000" := by
  constructor
  · intro hzero
    have hlower : group.toList.map Char.toLower = ['0', '0', '0'] := by
      rw [← Text.fixedDigits_hexValue h.2.1, String.length_toList, h.1]
      exact congrArg (Text.fixedDigits 16 3) hzero
    have hdigit : ∀ c ∈ Text.hexDigits, c.toLower = '0' → c = '0' := by
      have hall : Text.hexDigits.all fun c => c.toLower = '0' → c = '0' := by decide
      exact fun c hc => of_decide_eq_true (List.all_eq_true.mp hall c hc)
    have hall : ∀ c ∈ group.toList, c = '0' := by
      intro c hc
      have hmem : c.toLower ∈ ['0', '0', '0'] := hlower ▸ List.mem_map_of_mem hc
      exact hdigit c (h.2.1 c hc) (by simpa using hmem)
    apply String.toList_inj.mp
    rw [List.eq_replicate_of_mem hall, String.length_toList, h.1]
    rfl
  · rintro rfl
    decide

/-- All groups of a text are indices, and these are their values. -/
structure HoldsIndices (token : String) (indices : List Nat) : Prop where
  valid : ∀ group ∈ Text.splitText '-' token, IsIndexGroup group
  indices_eq : (Text.splitText '-' token).map groupIndex = indices

theorem toLower_eq_hyphen_iff (c : Char) : c.toLower = '-' ↔ c = '-' := by
  have hascii : ∀ n < 128, ((Char.ofNat n).toLower = '-' ↔ Char.ofNat n = '-') := by
    decide +kernel
  by_cases hlt : c.toNat < 128
  · rw [← Char.ofNat_toNat c]
    exact hascii c.toNat hlt
  · have hlower : c.toLower = c := dif_neg fun h => hlt (Nat.lt_of_le_of_lt h.2 (by decide))
    rw [hlower]

theorem splitText_toLower (token : String) :
    Text.splitText '-' token.toLower = (Text.splitText '-' token).map String.toLower := by
  rw [Text.splitText, Text.toList_toLower, Text.split_map toLower_eq_hyphen_iff,
    Text.splitText, List.map_map, List.map_map]
  exact List.map_congr_left fun part _ => String.toList_inj.mp (by simp [Text.toList_toLower])

/-- The text that indices were read from is, in lower case, the one that is written for them. -/
theorem HoldsIndices.writeGroups_eq {token : String} {indices : List Nat}
    (h : HoldsIndices token indices) : writeGroups indices = token.toLower := by
  have hgroups : (Text.splitText '-' token).map (fun group => groupText (groupIndex group)) =
      (Text.splitText '-' token).map String.toLower :=
    List.map_congr_left fun group hgroup => groupText_groupIndex (h.valid group hgroup)
  calc
    writeGroups indices =
        Text.join "-"
          ((Text.splitText '-' token).map fun group => groupText (groupIndex group)) := by
      rw [writeGroups, ← h.indices_eq, List.map_map]
      rfl
    _ = Text.join "-" (Text.splitText '-' token.toLower) := by rw [hgroups, splitText_toLower]
    _ = token.toLower := Text.join_splitText (by rfl) token.toLower

namespace HoldsIndices

variable {token : String} {indices : List Nat}

theorem lt_of_mem (h : HoldsIndices token indices) {index : Nat} (hindex : index ∈ indices) :
    index < indexSpace := by
  rw [← h.indices_eq] at hindex
  obtain ⟨group, hgroup, rfl⟩ := List.mem_map.mp hindex
  exact (h.valid group hgroup).2.2

/-- The index at a place is zero just when the group is written so. -/
theorem getElem?_eq_zeros_iff (h : HoldsIndices token indices) {i index : Nat}
    (hindex : indices[i]? = some index) :
    (Text.splitText '-' token)[i]? = some "000" ↔ index = 0 := by
  rw [← h.indices_eq, List.getElem?_map] at hindex
  obtain ⟨group, hgroup, rfl⟩ := Option.map_eq_some_iff.mp hindex
  rw [hgroup, Option.some_inj, groupIndex_eq_zero_iff (h.valid group (List.mem_of_getElem? hgroup))]

end HoldsIndices

theorem mapM_readGroup {token : String} :
    (Text.split '-' token.toList).mapM readGroup =
      (Text.splitText '-' token).mapM fun group => readGroup group.toList := by
  rw [Text.splitText, List.mapM_map]
  congr
  funext group
  simp

theorem mapM_readGroup_of_holdsIndices {token : String} {indices : List Nat}
    (h : HoldsIndices token indices) :
    (Text.split '-' token.toList).mapM readGroup = .ok indices := by
  rw [mapM_readGroup, ← h.indices_eq]
  exact Outcome.mapM_eq_ok fun group hgroup => readGroup_of_isIndexGroup (h.valid group hgroup)

namespace Signer

/-- The verdicts of a signer on texts, in the order in which they are looked for: a group that is no
index, the first one; a wrong number of groups; a checksum that is not the one of the indices before
it; the record that these hold. -/
inductive Judges (signer : Signer) (token : String) : Except IdentityError Record → Prop
  | badGroup {earlier later : List String} {group : String}
      (groups : Text.splitText '-' token = earlier ++ group :: later)
      (valid : ∀ g ∈ earlier, IsIndexGroup g) (bad : ¬IsIndexGroup group) :
      Judges signer token (.error (.malformed (.badGroup group)))
  | groupCount {indices : List Nat} (holds : HoldsIndices token indices)
      (count : indices.length ≠ 12) :
      Judges signer token (.error (.malformed (.groupCount indices.length)))
  | mismatch {indices : List Nat} {last : Nat} (holds : HoldsIndices token (indices ++ [last]))
      (count : indices.length = 11) (differs : signer.checksum indices ≠ last) :
      Judges signer token (.error .checksumMismatch)
  | record
      {role kind name reserved version model prodDate actDate expiryDate sku reserved' last : Nat}
      (holds : HoldsIndices token [role, kind, name, reserved, version, model, prodDate, actDate,
        expiryDate, sku, reserved', last])
      (signed : signer.checksum [role, kind, name, reserved, version, model, prodDate, actDate,
        expiryDate, sku, reserved'] = last) :
      Judges signer token (.ok
        { role := .ofNat role, kind := .ofNat kind, name := .ofNat name, version := .ofNat version,
          model := .ofNat model, prodDate := .ofNat prodDate, actDate := .ofNat actDate,
          expiryDate := .ofNat expiryDate, sku := .ofNat sku })

variable {signer : Signer} {token : String} {outcome : Except IdentityError Record}

theorem verify_of_judges (h : signer.Judges token outcome) : signer.verify token = outcome := by
  cases h with
  | @badGroup earlier later group groups valid bad =>
      have hread : (Text.split '-' token.toList).mapM readGroup =
          .error (.malformed (.badGroup group)) := by
        rw [mapM_readGroup, groups]
        exact Outcome.mapM_append_cons_eq_error
          (fun g hg => readGroup_of_isIndexGroup (valid g hg)) (readGroup_of_not_isIndexGroup bad)
      rw [verify, hread]
      rfl
  | groupCount holds count =>
      rw [verify, mapM_readGroup_of_holdsIndices holds]
      exact if_pos count
  | @mismatch indices last holds count differs =>
      have hlength : ¬(indices ++ [last]).length ≠ 12 := by simp [count]
      have hlast : (indices ++ [last]).getD 11 0 = last := by simp [← count]
      rw [verify, mapM_readGroup_of_holdsIndices holds]
      refine (if_neg hlength).trans (if_pos ?_)
      rwa [List.take_left' count, hlast]
  | record holds signed =>
      exact verify_eq_ok_iff.mpr ⟨_, mapM_readGroup_of_holdsIndices holds, rfl, signed, rfl⟩

/-- Every text gets a verdict. -/
theorem exists_judges (signer : Signer) (token : String) :
    ∃ outcome, signer.Judges token outcome := by
  by_cases hvalid : ∀ group ∈ Text.splitText '-' token, IsIndexGroup group
  · have holds : HoldsIndices token ((Text.splitText '-' token).map groupIndex) := ⟨hvalid, rfl⟩
    generalize (Text.splitText '-' token).map groupIndex = indices at holds
    by_cases hcount : indices.length = 12
    · match indices, hcount with
      | [role, kind, name, reserved, version, model, prodDate, actDate, expiryDate, sku, reserved',
          last], _ =>
        by_cases hsigned : signer.checksum [role, kind, name, reserved, version, model, prodDate,
            actDate, expiryDate, sku, reserved'] = last
        · exact ⟨_, .record holds hsigned⟩
        · exact ⟨_, .mismatch (by exact holds) rfl hsigned⟩
    · exact ⟨_, .groupCount holds hcount⟩
  · obtain ⟨group, hgroup⟩ : ∃ group, (Text.splitText '-' token).find?
        (fun group => decide (¬IsIndexGroup group)) = some group := by
      rw [← Option.isSome_iff_exists, List.find?_isSome]
      simpa using hvalid
    obtain ⟨hbad, earlier, later, hgroups, hearlier⟩ := List.find?_eq_some_iff_append.mp hgroup
    exact ⟨_, .badGroup hgroups (by simpa using hearlier) (by simpa using hbad)⟩

/-- A signer says of a text what its groups call for, and nothing else. -/
theorem verify_eq_iff_judges : signer.verify token = outcome ↔ signer.Judges token outcome := by
  refine ⟨?_, verify_of_judges⟩
  rintro rfl
  obtain ⟨verdict, hverdict⟩ := signer.exists_judges token
  rwa [verify_of_judges hverdict]

theorem writeGroups_inj {xs ys : List Nat} (hxs : ∀ index ∈ xs, index < indexSpace)
    (hys : ∀ index ∈ ys, index < indexSpace) (hx : xs ≠ []) (hy : ys ≠ []) :
    writeGroups xs = writeGroups ys ↔ xs = ys := by
  constructor
  · intro h
    have hback := mapM_readGroup_writeGroups hxs hx
    rw [h, mapM_readGroup_writeGroups hys hy] at hback
    exact (Except.ok.inj hback).symm
  · exact congrArg writeGroups

/-- A record that was read from indices has these, but for the reserved ones. -/
theorem indices_ofIndices (index : Nat → Nat) (h : ∀ i, index i < indexSpace) :
    (Record.ofIndices index).indices =
      [index 0, index 1, index 2, 0, index 4, index 5, index 6, index 7, index 8, index 9, 0] := by
  have hwrap (i : Nat) : (UInt16.ofNat (index i)).toNat % indexSpace = index i := by
    have hlt := h i
    rw [indexSpace] at hlt ⊢
    rw [UInt16.toNat_ofNat_of_lt' (Nat.lt_trans hlt (by decide)), Nat.mod_eq_of_lt hlt]
  simp only [Record.indices, Record.ofIndices, List.map_cons, List.map_nil, hwrap]
  rfl

/-- A record is issued as the token of some indices and their checksum just when it has these. -/
theorem issue_eq_writeGroups_iff {record : Record} {indices : List Nat}
    (hsecret : signer.secret ≠ "")
    (hlt : ∀ index ∈ indices ++ [signer.checksum indices], index < indexSpace) :
    signer.issue record = .ok (writeGroups (indices ++ [signer.checksum indices])) ↔
      record.indices = indices := by
  have hltRecord := signer.lt_of_mem_signed record
  rw [issue_eq_ok hsecret, Except.ok.injEq, writeGroups_inj hltRecord hlt (by simp) (by simp)]
  constructor
  · exact fun h => List.append_inj_left' h (by simp)
  · exact fun h => h ▸ rfl

/-- A signer with a secret issues an accepted token again, in lower case, just when both of its
reserved groups are zero. -/
theorem issue_eq_toLower_iff {record : Record} (hsecret : signer.secret ≠ "")
    (h : signer.verify token = .ok record) :
    signer.issue record = .ok token.toLower ↔
      (Text.splitText '-' token)[3]? = some "000" ∧
        (Text.splitText '-' token)[10]? = some "000" := by
  cases verify_eq_iff_judges.mp h with
  | @record role kind name reserved version model prodDate actDate expiryDate sku reserved' last
      holds signed =>
      let indices := [role, kind, name, reserved, version, model, prodDate, actDate, expiryDate,
        sku, reserved']
      subst signed
      have hlt : ∀ index ∈ indices ++ [signer.checksum indices], index < indexSpace :=
        fun index => holds.lt_of_mem
      have hget : ∀ i, indices.getD i 0 < indexSpace := by
        intro i
        rw [List.getD_eq_getElem?_getD]
        cases hi : indices[i]? with
        | none => decide
        | some index => exact hlt index (List.mem_append_left _ (List.mem_of_getElem? hi))
      have hrecord := indices_ofIndices (fun i => indices.getD i 0) hget
      rw [← holds.writeGroups_eq, holds.getElem?_eq_zeros_iff (i := 3) rfl,
        holds.getElem?_eq_zeros_iff (i := 10) rfl]
      refine (issue_eq_writeGroups_iff hsecret hlt).trans ((Eq.congr hrecord rfl).trans ?_)
      simp only [indices, List.getD_cons_zero, List.getD_cons_succ, List.cons.injEq, and_true,
        true_and]
      exact and_congr eq_comm eq_comm

/-- A signer gives each text the verdict that its groups call for. With a secret, it issues a text
that it accepts again, in lower case, just when both reserved groups are zero. -/
theorem judges_and_reissues (signer : Signer) (token : String) :
    (∀ outcome, signer.verify token = outcome ↔ signer.Judges token outcome) ∧
      ∀ record, signer.secret ≠ "" → signer.verify token = .ok record →
        (signer.issue record = .ok token.toLower ↔
          (Text.splitText '-' token)[3]? = some "000" ∧
            (Text.splitText '-' token)[10]? = some "000") :=
  ⟨fun _ => verify_eq_iff_judges, fun _ => issue_eq_toLower_iff⟩

/-- Of two tokens for one record, one in upper case and one that uses a reserved group, only the
first is issued again. -/
theorem reissues_upperCase_only :
    let signer : Signer := ⟨"lab-secret"⟩
    let upper := "000-001-001-000-001-7AB-001-001-001-001-000-32A"
    let reserved := "000-001-001-000-001-7AB-001-001-001-001-00A-0A7"
    signer.secret ≠ "" ∧ signer.verify upper = .ok { model := 0x7AB } ∧
      signer.verify reserved = .ok { model := 0x7AB } ∧
      signer.issue { model := 0x7AB } = .ok upper.toLower ∧
      signer.issue { model := 0x7AB } ≠ .ok reserved.toLower := by
  intro signer upper reserved
  have hsecret : signer.secret ≠ "" := by decide
  have hupper : signer.verify upper = .ok { model := 0x7AB } := by decide +kernel
  have hreserved : signer.verify reserved = .ok { model := 0x7AB } := by decide +kernel
  refine ⟨hsecret, hupper, hreserved, ?_, ?_⟩
  · exact ((judges_and_reissues signer upper).2 _ hsecret hupper).mpr (by decide +kernel)
  · exact mt ((judges_and_reissues signer reserved).2 _ hsecret hreserved).mp (by decide +kernel)

end Signer

end SensorNode.Identity
