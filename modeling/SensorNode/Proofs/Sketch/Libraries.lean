import Mathlib.Data.List.Nodup
import SensorNode.Proofs.Distinct
import SensorNode.Sketch.Libraries

/-!
# The libraries that a sketch needs

The libraries of a sketch are those that its ids stand for in the catalog, each once and in the
order in which its id first occurs. Which ones they are depends on the peripherals that are
attached, not on how often or in which order; what is attached later can only add to the end.
-/

namespace SensorNode

namespace Catalog

variable {catalog : Catalog}

theorem id_of_library? {id : String} {library : Library}
    (h : catalog.library? id = some library) : library.id = id := by
  simpa using List.find?_some h

end Catalog

namespace Sketch

/-- The library ids of an attachment, none if its peripheral is not known. -/
def requestedBy (catalog : Catalog) (attachment : Attachment) : List String :=
  match catalog.peripheral? attachment.peripheralId with
  | some peripheral => peripheral.libraries
  | none => []

/-- The library ids that a sketch asks for, with repetitions: two for itself, then those of the
attachments. -/
def requestedIds (catalog : Catalog) (attachments : List Attachment) : List String :=
  ["pubsubclient", "arduinojson"] ++ attachments.flatMap (requestedBy catalog)

/-- The libraries that ids stand for in a catalog, each once and where its id first occurs. -/
structure ListsLibraries (catalog : Catalog) (ids : List String) (libraries : List Library) :
    Prop where
  nodup : (libraries.map Library.id).Nodup
  mem_iff : ∀ library, library ∈ libraries ↔
    library.id ∈ ids ∧ catalog.library? library.id = some library
  firstSeen : libraries.Pairwise fun a b => ids.idxOf a.id < ids.idxOf b.id

variable {catalog : Catalog} {ids ids' : List String} {libraries : List Library}

theorem listsLibraries_distinct (catalog : Catalog) (ids : List String) :
    ListsLibraries catalog ids ((distinct ids).filterMap catalog.library?) := by
  have hfirstSeen : ((distinct ids).filterMap catalog.library?).Pairwise fun a b =>
      ids.idxOf a.id < ids.idxOf b.id := by
    apply (pairwise_idxOf_distinct ids).filterMap
    intro id id' hlt a ha b hb
    rwa [Catalog.id_of_library? ha, Catalog.id_of_library? hb]
  constructor
  case nodup =>
    rw [List.Nodup, List.pairwise_map]
    apply hfirstSeen.imp
    intro a b hlt heq
    exact Nat.ne_of_lt hlt (congrArg ids.idxOf heq)
  case mem_iff =>
    intro library
    rw [List.mem_filterMap]
    constructor
    · rintro ⟨id, hid, hfound⟩
      obtain rfl := Catalog.id_of_library? hfound
      exact ⟨mem_distinct.mp hid, hfound⟩
    · rintro ⟨hid, hfound⟩
      exact ⟨library.id, mem_distinct.mpr hid, hfound⟩
  case firstSeen => exact hfirstSeen

/-- Lists for ids with the same members hold the same libraries. -/
theorem ListsLibraries.perm {others : List Library} (h : ListsLibraries catalog ids libraries)
    (h' : ListsLibraries catalog ids' others) (hids : ∀ id, id ∈ ids ↔ id ∈ ids') :
    libraries.Perm others := by
  apply (List.perm_ext_iff_of_nodup h.nodup.of_map h'.nodup.of_map).mpr
  intro library
  rw [h.mem_iff, h'.mem_iff, hids]

/-- There is one such list. -/
theorem ListsLibraries.unique {others : List Library} (h : ListsLibraries catalog ids libraries)
    (h' : ListsLibraries catalog ids others) : libraries = others := by
  have hperm : libraries.Perm others := h.perm h' fun _ => Iff.rfl
  apply hperm.eq_of_pairwise _ h.firstSeen h'.firstSeen
  intro a b _ _ hab hba
  exact absurd hba (Nat.lt_asymm hab)

theorem flatMap_known (catalog : Catalog) (attachments : List Attachment) :
    ((catalog.known attachments).flatMap fun attached => attached.2.libraries) =
      attachments.flatMap (requestedBy catalog) := by
  induction attachments with
  | nil => rfl
  | cons attachment attachments ih =>
      rw [List.flatMap_cons, ← ih, requestedBy]
      cases hfound : catalog.peripheral? attachment.peripheralId with
      | none =>
          rw [Catalog.known_cons_of_none hfound]
          rfl
      | some peripheral => rw [Catalog.known_cons_of_some hfound, List.flatMap_cons]

theorem neededLibraries_eq (catalog : Catalog) (attachments : List Attachment) :
    neededLibraries catalog attachments =
      (distinct (requestedIds catalog attachments)).filterMap catalog.library? := by
  rw [neededLibraries, neededLibraryIds, flatMap_known]
  rfl

theorem requestedIds_append (catalog : Catalog) (xs ys : List Attachment) :
    requestedIds catalog (xs ++ ys) =
      requestedIds catalog xs ++ ys.flatMap (requestedBy catalog) := by
  rw [requestedIds, List.flatMap_append, ← List.append_assoc]
  rfl

/-- Attachments of the same peripherals ask for the same ids. -/
theorem flatMap_requestedBy_subset {xs ys : List Attachment}
    (h : ∀ x ∈ xs, ∃ y ∈ ys, y.peripheralId = x.peripheralId) :
    xs.flatMap (requestedBy catalog) ⊆ ys.flatMap (requestedBy catalog) := by
  intro id hid
  obtain ⟨x, hx, hidx⟩ := List.mem_flatMap.mp hid
  obtain ⟨y, hy, hxy⟩ := h x hx
  have hsame : requestedBy catalog y = requestedBy catalog x := by
    rw [requestedBy, requestedBy, hxy]
  exact List.mem_flatMap.mpr ⟨y, hy, hsame ▸ hidx⟩

/-- How the libraries of a sketch follow from its attachments. -/
structure CollectsLibraries (catalog : Catalog) : Prop where
  /-- They are the one list of what the requested ids stand for. -/
  eq_iff : ∀ attachments libraries, neededLibraries catalog attachments = libraries ↔
    ListsLibraries catalog (requestedIds catalog attachments) libraries
  /-- The same peripherals, in any order and as often as one likes, need the same libraries. -/
  perm : ∀ xs ys : List Attachment,
    (∀ id, id ∈ xs.map Attachment.peripheralId ↔ id ∈ ys.map Attachment.peripheralId) →
      (neededLibraries catalog xs).Perm (neededLibraries catalog ys)
  /-- Peripherals that are attached again change nothing. -/
  repeated : ∀ xs ys : List Attachment, (∀ y ∈ ys, ∃ x ∈ xs, x.peripheralId = y.peripheralId) →
    neededLibraries catalog (xs ++ ys) = neededLibraries catalog xs
  isPrefix : ∀ xs ys, neededLibraries catalog xs <+: neededLibraries catalog (xs ++ ys)

theorem listsLibraries_neededLibraries (catalog : Catalog) (attachments : List Attachment) :
    ListsLibraries catalog (requestedIds catalog attachments)
      (neededLibraries catalog attachments) := by
  rw [neededLibraries_eq]
  exact listsLibraries_distinct catalog _

/-- In every catalog, also one that lacks libraries, a sketch gets those that its ids stand for. -/
theorem collectsLibraries (catalog : Catalog) : CollectsLibraries catalog where
  eq_iff attachments libraries := by
    have hlists := listsLibraries_neededLibraries catalog attachments
    constructor
    · rintro rfl
      exact hlists
    · exact hlists.unique
  perm xs ys h := by
    have hcovered {us vs : List Attachment}
        (h : ∀ id ∈ us.map Attachment.peripheralId, id ∈ vs.map Attachment.peripheralId) :
        ∀ u ∈ us, ∃ v ∈ vs, v.peripheralId = u.peripheralId :=
      fun u hu => List.mem_map.mp (h u.peripheralId (List.mem_map_of_mem hu))
    have hlists := listsLibraries_neededLibraries catalog
    apply (hlists xs).perm (hlists ys)
    intro id
    rw [requestedIds, requestedIds, List.mem_append, List.mem_append]
    apply or_congr_right
    constructor
    · apply flatMap_requestedBy_subset (hcovered fun id => (h id).mp)
    · apply flatMap_requestedBy_subset (hcovered fun id => (h id).mpr)
  repeated xs ys h := by
    have hsubset : ys.flatMap (requestedBy catalog) ⊆ requestedIds catalog xs := by
      intro id hid
      exact List.mem_append_right _ (flatMap_requestedBy_subset h hid)
    rw [neededLibraries_eq, neededLibraries_eq, requestedIds_append,
      distinct_append_of_subset hsubset]
  isPrefix xs ys := by
    rw [neededLibraries_eq, neededLibraries_eq, requestedIds_append]
    have hids := distinct_prefix (requestedIds catalog xs) (ys.flatMap (requestedBy catalog))
    exact hids.filterMap catalog.library?

end Sketch

end SensorNode
