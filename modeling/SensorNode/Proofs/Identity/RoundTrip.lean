import SensorNode.Identity.Token
import SensorNode.Proofs.Outcome
import SensorNode.Proofs.Text.Digits
import SensorNode.Proofs.Text.Splitting

/-!
# Tokens read back

A signer verifies what it issues. The token carries every field of the record modulo the index
space, so records with larger numbers come back wrapped; a checksum lies in the index space whatever
the hash was, so it always fits its group.
-/

namespace SensorNode.Identity

/-- A text of three lower-case hexadecimal digits. -/
def IsGroup (group : String) : Prop :=
  group.length = 3 ∧ ∀ c ∈ group.toList, c ∈ "0123456789abcdef".toList

instance : DecidablePred IsGroup := fun _ => inferInstanceAs (Decidable (_ ∧ _))

/-- A text of twelve groups with hyphens between them. -/
def IsToken (token : String) : Prop :=
  (Text.splitText '-' token).length = 12 ∧ ∀ group ∈ Text.splitText '-' token, IsGroup group

instance : DecidablePred IsToken := fun _ => inferInstanceAs (Decidable (_ ∧ _))

theorem isGroup_groupText (index : Nat) : IsGroup (groupText index) := by
  have hdigits : ∀ d < 16, Nat.digitChar d ∈ "0123456789abcdef".toList := by decide
  refine ⟨?_, fun c hc => ?_⟩
  · rw [groupText, String.length_ofList, Text.length_fixedDigits]
  · rw [groupText, String.toList_ofList] at hc
    obtain ⟨d, hd, rfl⟩ := Text.mem_fixedDigits (by decide) hc
    exact hdigits d hd

theorem hyphen_notMem_of_isGroup {group : String} (h : IsGroup group) : '-' ∉ group.toList :=
  fun hmem => absurd (h.2 _ hmem) (by decide)

/-- An index that is written as a group is read back. -/
theorem readGroup_groupText {index : Nat} (h : index < indexSpace) :
    readGroup (groupText index).toList = .ok index := by
  have hwidth : index < 16 ^ 3 := Nat.lt_trans h (by decide)
  have hvalue : Text.hexValue? (Text.fixedDigits 16 3 index) = some index := by
    rw [Text.hexValue?_fixedDigits, Nat.mod_eq_of_lt hwidth]
  simp [readGroup, groupText, hvalue, Option.filter_some, h]

theorem split_writeGroups {indices : List Nat} (h : indices ≠ []) :
    Text.split '-' (writeGroups indices).toList =
      indices.map fun index => (groupText index).toList := by
  have hgroups : ∀ group ∈ indices.map groupText, '-' ∉ group.toList := by
    intro group hgroup
    obtain ⟨index, -, rfl⟩ := List.mem_map.mp hgroup
    exact hyphen_notMem_of_isGroup (isGroup_groupText index)
  rw [writeGroups, Text.split_join rfl (by simpa using h) hgroups, List.map_map]
  rfl

theorem splitText_writeGroups {indices : List Nat} (h : indices ≠ []) :
    Text.splitText '-' (writeGroups indices) = indices.map groupText := by
  rw [Text.splitText, split_writeGroups h, List.map_map]
  exact List.map_congr_left fun index _ => String.ofList_toList

/-- All groups of a token are read back. -/
theorem mapM_readGroup_writeGroups {indices : List Nat}
    (hlt : ∀ index ∈ indices, index < indexSpace) (hne : indices ≠ []) :
    (Text.split '-' (writeGroups indices).toList).mapM readGroup = .ok indices := by
  rw [split_writeGroups hne]
  exact Outcome.mapM_map_eq_ok fun index hindex => readGroup_groupText (hlt index hindex)

theorem isToken_writeGroups {indices : List Nat} (h : indices.length = 12) :
    IsToken (writeGroups indices) := by
  have hne : indices ≠ [] := by
    rintro rfl
    simp at h
  rw [IsToken, splitText_writeGroups hne, List.length_map]
  refine ⟨h, fun group hgroup => ?_⟩
  obtain ⟨index, -, rfl⟩ := List.mem_map.mp hgroup
  exact isGroup_groupText index

namespace Record

/-- The fields, each cut to an index. -/
def wrapped (record : Record) : Record where
  role := record.role % 2048
  kind := record.kind % 2048
  name := record.name % 2048
  version := record.version % 2048
  model := record.model % 2048
  prodDate := record.prodDate % 2048
  actDate := record.actDate % 2048
  expiryDate := record.expiryDate % 2048
  sku := record.sku % 2048

def fields (record : Record) : List UInt16 :=
  [record.role, record.kind, record.name, record.version, record.model, record.prodDate,
    record.actDate, record.expiryDate, record.sku]

theorem wrapped_eq_self {record : Record} (h : ∀ field ∈ record.fields, field < 2048) :
    record.wrapped = record := by
  have hmod {field : UInt16} (hlt : field < 2048) : field % 2048 = field :=
    UInt16.toNat_inj.mp (Nat.mod_eq_of_lt hlt)
  simp only [fields, List.forall_mem_cons] at h
  obtain ⟨hrole, hkind, hname, hversion, hmodel, hprod, hact, hexpiry, hsku, -⟩ := h
  simp only [wrapped, hmod hrole, hmod hkind, hmod hname, hmod hversion, hmod hmodel, hmod hprod,
    hmod hact, hmod hexpiry, hmod hsku]

theorem length_indices (record : Record) : record.indices.length = 11 := rfl

theorem lt_of_mem_indices {record : Record} {index : Nat} (h : index ∈ record.indices) :
    index < indexSpace := by
  obtain ⟨field, -, rfl⟩ := List.mem_map.mp h
  exact Nat.mod_lt _ (by decide)

/-- The tables that place the fields among the indices and take them back agree. -/
theorem ofIndices_indices (record : Record) (later : List Nat) :
    ofIndices (fun i => (record.indices ++ later).getD i 0) = record.wrapped := by
  have hfield (field : UInt16) : UInt16.ofNat (field.toNat % indexSpace) = field % 2048 := by
    apply UInt16.toNat_inj.mp
    rw [UInt16.toNat_ofNat', UInt16.toNat_mod, indexSpace]
    exact Nat.mod_eq_of_lt (Nat.lt_of_le_of_lt (Nat.mod_le _ _) field.toNat_lt)
  simp [ofIndices, indices, wrapped, hfield]

/-- Nothing after the first eleven indices is looked at. -/
theorem ofIndices_append {indices : List Nat} (h : indices.length = 11) (later : List Nat) :
    ofIndices (fun i => (indices ++ later).getD i 0) = ofIndices fun i => indices.getD i 0 := by
  have hget {i : Nat} (hi : i < 11) : (indices ++ later).getD i 0 = indices.getD i 0 := by
    rw [List.getD_eq_getElem?_getD, List.getD_eq_getElem?_getD,
      List.getElem?_append_left (h ▸ hi)]
  simp only [ofIndices, hget (by decide : 0 < 11), hget (by decide : 1 < 11),
    hget (by decide : 2 < 11), hget (by decide : 4 < 11), hget (by decide : 5 < 11),
    hget (by decide : 6 < 11), hget (by decide : 7 < 11), hget (by decide : 8 < 11),
    hget (by decide : 9 < 11)]

end Record

namespace Signer

variable {signer : Signer} {record : Record}

theorem checksum_lt (indices : List Nat) : signer.checksum indices < indexSpace :=
  Nat.mod_lt _ (by decide)

/-- All twelve indices that a record is signed with fit their groups. -/
theorem lt_of_mem_signed (signer : Signer) (record : Record) :
    ∀ index ∈ record.indices ++ [signer.checksum record.indices], index < indexSpace := by
  rw [List.forall_mem_append, List.forall_mem_singleton]
  exact ⟨fun _ => Record.lt_of_mem_indices, checksum_lt record.indices⟩

/-- A token is taken when its groups are twelve indices of which the last is the checksum. -/
theorem verify_eq_ok_iff {token : String} :
    signer.verify token = .ok record ↔
      ∃ indices, (Text.split '-' token.toList).mapM readGroup = .ok indices ∧
        indices.length = 12 ∧ signer.checksum (indices.take 11) = indices.getD 11 0 ∧
        Record.ofIndices (fun i => indices.getD i 0) = record := by
  rw [verify, Outcome.bind_eq_ok_iff]
  refine exists_congr fun indices => and_congr_right fun _ => ?_
  by_cases hlength : indices.length = 12
  · by_cases hchecksum : signer.checksum (indices.take 11) = indices.getD 11 0
    · simp only [hlength, hchecksum, ne_eq, not_true_eq_false, ↓reduceIte, true_and]
      exact ⟨Except.ok.inj, congrArg Except.ok⟩
    · simp only [hlength, hchecksum, ne_eq, not_true_eq_false, not_false_eq_true, ↓reduceIte,
        false_and, and_false, iff_false]
      exact nofun
  · simp only [hlength, ne_eq, not_false_eq_true, ↓reduceIte, false_and, iff_false]
    exact nofun

/-- A token of twelve indices is judged by the last of them. -/
theorem verify_writeGroups_append {indices : List Nat} {last : Nat} (hlength : indices.length = 11)
    (hlt : ∀ index ∈ indices ++ [last], index < indexSpace) :
    signer.verify (writeGroups (indices ++ [last])) =
      if signer.checksum indices = last then .ok (.ofIndices fun i => indices.getD i 0)
      else .error .checksumMismatch := by
  have hcount : ¬(indices ++ [last]).length ≠ 12 := by simp [hlength]
  have hlast : (indices ++ [last]).getD 11 0 = last := by simp [← hlength]
  rw [verify, mapM_readGroup_writeGroups hlt (by simp), ← Record.ofIndices_append hlength [last]]
  refine (if_neg hcount).trans ?_
  rw [List.take_left' hlength, hlast]
  by_cases hsigned : signer.checksum indices = last
  · rw [if_pos hsigned]
    exact if_neg (not_not_intro hsigned)
  · rw [if_neg hsigned]
    exact if_pos hsigned

/-- What a token that is signed over a record reads back as. -/
theorem verify_writeGroups :
    signer.verify (writeGroups (record.indices ++ [signer.checksum record.indices])) =
      .ok record.wrapped := by
  rw [verify_writeGroups_append record.length_indices (signer.lt_of_mem_signed record), if_pos rfl,
    ← record.ofIndices_indices [], List.append_nil]

/-- A token is issued unless the secret is empty. -/
theorem issue_eq_ok (h : signer.secret ≠ "") :
    signer.issue record =
      .ok (writeGroups (record.indices ++ [signer.checksum record.indices])) := by
  simp [issue, h]

/-- A signer issued a token for a record, and takes it back. -/
structure Signs (signer : Signer) (record : Record) (token : String) : Prop where
  issued : signer.issue record = .ok token
  form : IsToken token
  wrapped : signer.verify token = .ok record.wrapped
  self : (∀ field ∈ record.fields, field < 2048) → signer.verify token = .ok record
  resolved : resolve signer.issue record = token

theorem isToken_ne_unregistered {token : String} (h : IsToken token) : token ≠ unregistered := by
  rintro rfl
  exact absurd h (by decide +kernel)

/-- A signer with a secret takes back what it issues, with every field wrapped into the index
space; without a secret it leaves a device unregistered. -/
theorem signs_and_resolve_eq_unregistered_iff (signer : Signer) (record : Record) :
    (signer.secret ≠ "" → ∃ token, Signs signer record token) ∧
      (resolve signer.issue record = "UNREGISTERED-DEV-KEY" ↔ signer.secret = "") := by
  have hsigns (hsecret : signer.secret ≠ "") : ∃ token, Signs signer record token :=
    ⟨_, { issued := issue_eq_ok hsecret
          form := isToken_writeGroups (by simp [Record.length_indices])
          wrapped := verify_writeGroups
          self := fun hfields =>
            verify_writeGroups.trans (congrArg Except.ok (Record.wrapped_eq_self hfields))
          resolved := by rw [resolve, issue_eq_ok hsecret] }⟩
  refine ⟨hsigns, ?_⟩
  constructor
  · intro hresolved
    refine Decidable.byContradiction fun hsecret => ?_
    obtain ⟨token, hsigned⟩ := hsigns hsecret
    exact isToken_ne_unregistered hsigned.form (hsigned.resolved.symm.trans hresolved)
  · intro hsecret
    simp [resolve, issue, hsecret, unregistered]

/-- A model number beyond the index space comes back wrapped, the usual record as it is. -/
theorem signs_wrapped_model :
    (⟨"lab-secret"⟩ : Signer).secret ≠ "" ∧
      (∃ token, Signs ⟨"lab-secret"⟩ { model := 2053, sku := 65535 } token ∧
        (⟨"lab-secret"⟩ : Signer).verify token = .ok { model := 5, sku := 2047 }) ∧
      (∀ field ∈ ({} : Record).fields, field < 2048) ∧
      ∃ token, Signs ⟨"lab-secret"⟩ {} token ∧
        (⟨"lab-secret"⟩ : Signer).verify token = .ok {} := by
  have hsecret : (⟨"lab-secret"⟩ : Signer).secret ≠ "" := by decide
  have hfields : ∀ field ∈ ({} : Record).fields, field < 2048 := by simp [Record.fields]
  obtain ⟨token, hlarge⟩ := (signs_and_resolve_eq_unregistered_iff
    ⟨"lab-secret"⟩ { model := 2053, sku := 65535 }).1 hsecret
  obtain ⟨usual, husual⟩ := (signs_and_resolve_eq_unregistered_iff ⟨"lab-secret"⟩ {}).1 hsecret
  exact ⟨hsecret, ⟨token, hlarge, hlarge.wrapped⟩, hfields, usual, husual, husual.self hfields⟩

end Signer

end SensorNode.Identity
