import SensorNode.Catalog.Check
import SensorNode.Distinct
import SensorNode.Proofs.Outcome

/-!
# Insertion of peripherals

A peripheral that is put in takes the place of the entry with its id, or comes after all others if
there is none. So the ids are those of the entries before, with a new one added at the end, and no
other entry is found elsewhere.
-/

namespace SensorNode.Catalog

variable {peripheral : Peripheral} {entries : List Peripheral}

theorem mem_of_mem_putEntry {other : Peripheral} (h : other ∈ putEntry peripheral entries) :
    other = peripheral ∨ other ∈ entries := by
  induction entries with
  | nil => simpa [putEntry] using h
  | cons entry entries ih =>
      rw [putEntry] at h
      split at h
      · rcases List.mem_cons.mp h with h | h
        · exact .inl h
        · exact .inr (List.mem_cons_of_mem _ h)
      · rcases List.mem_cons.mp h with rfl | h
        · exact .inr List.mem_cons_self
        · exact (ih h).imp_right (List.mem_cons_of_mem _)

theorem map_id_putEntry (peripheral : Peripheral) (entries : List Peripheral) :
    (putEntry peripheral entries).map Peripheral.id =
      insertNew (entries.map Peripheral.id) peripheral.id := by
  induction entries with
  | nil => rfl
  | cons entry entries ih =>
      rw [putEntry, List.map_cons]
      by_cases h : entry.id = peripheral.id
      · simp [h, insertNew]
      · rw [if_neg h, List.map_cons, ih]
        by_cases hmem : peripheral.id ∈ entries.map Peripheral.id
        · simp only [insertNew, hmem, List.mem_cons, or_true, ↓reduceIte]
        · simp only [insertNew, hmem, Ne.symm h, List.mem_cons, or_self, ↓reduceIte,
            List.cons_append]

theorem putEntry_eq_append (h : ∀ entry ∈ entries, entry.id ≠ peripheral.id) :
    putEntry peripheral entries = entries ++ [peripheral] := by
  induction entries with
  | nil => rfl
  | cons entry entries ih =>
      obtain ⟨hentry, hentries⟩ := List.forall_mem_cons.mp h
      rw [putEntry, if_neg hentry, ih hentries, List.cons_append]

/-- Where ids are distinct, the entry with the id of the peripheral can be named by its place. -/
theorem putEntry_eq_set (hdistinct : (entries.map Peripheral.id).Nodup) {i : Nat}
    {old : Peripheral} (hold : entries[i]? = some old) (hid : old.id = peripheral.id) :
    putEntry peripheral entries = entries.set i peripheral := by
  induction entries generalizing i with
  | nil => simp at hold
  | cons entry entries ih =>
      obtain ⟨hentry, hentries⟩ := List.nodup_cons.mp hdistinct
      cases i with
      | zero =>
          obtain rfl : entry = old := by simpa using hold
          rw [putEntry, if_pos hid, List.set_cons_zero]
      | succ i =>
          have hmem : old ∈ entries := List.mem_of_getElem? hold
          have hne : entry.id ≠ peripheral.id := fun h =>
            hentry (List.mem_map.mpr ⟨old, hmem, hid.trans h.symm⟩)
          rw [putEntry, if_neg hne, ih hentries hold, List.set_cons_succ]

/-- What an insertion makes of a catalog. An entry is replaced where it stands; the list grows, at
its end, only when no entry had the id. -/
structure Inserted (peripheral : Peripheral) (catalog next : Catalog) : Prop where
  boards : next.boards = catalog.boards
  libraries : next.libraries = catalog.libraries
  own : next.peripheral? peripheral.id = some peripheral
  others : ∀ id, id ≠ peripheral.id → next.peripheral? id = catalog.peripheral? id
  replaced : ∀ i old, catalog.peripherals[i]? = some old → old.id = peripheral.id →
    next.peripherals = catalog.peripherals.set i peripheral
  added : (∀ old ∈ catalog.peripherals, old.id ≠ peripheral.id) →
    next.peripherals = catalog.peripherals ++ [peripheral]

variable {catalog next : Catalog}

theorem inserted_put (hdistinct : (catalog.peripherals.map Peripheral.id).Nodup) :
    Inserted peripheral catalog (catalog.put peripheral) where
  boards := rfl
  libraries := rfl
  own := by simp
  others id hid := by simp [hid]
  replaced _ _ hold hid := putEntry_eq_set hdistinct hold hid
  added := putEntry_eq_append

theorem insert_eq_ok_iff :
    catalog.insert peripheral = .ok next ↔
      peripheral.check = .ok () ∧ next = catalog.put peripheral := by
  rw [insert, Outcome.map_eq_ok_iff]
  constructor
  · rintro ⟨_, hcheck, rfl⟩
    exact ⟨hcheck, rfl⟩
  · rintro ⟨hcheck, rfl⟩
    exact ⟨(), hcheck, rfl⟩

/-- What putting in one peripheral keeps is kept when several are put in. -/
theorem putAll_induction {P : Catalog → Prop} {peripherals : List Peripheral} (h : P catalog)
    (hput : ∀ peripheral ∈ peripherals, ∀ catalog, P catalog → P (catalog.put peripheral)) :
    P (catalog.putAll peripherals) := by
  induction peripherals generalizing catalog with
  | nil => exact h
  | cons first rest ih =>
      obtain ⟨hfirst, hrest⟩ := List.forall_mem_cons.mp hput
      exact ih (hfirst catalog h) hrest

@[simp] theorem boards_putAll (catalog : Catalog) (peripherals : List Peripheral) :
    (catalog.putAll peripherals).boards = catalog.boards :=
  putAll_induction (P := fun later => later.boards = catalog.boards) rfl fun _ _ _ h => h

@[simp] theorem libraries_putAll (catalog : Catalog) (peripherals : List Peripheral) :
    (catalog.putAll peripherals).libraries = catalog.libraries :=
  putAll_induction (P := fun later => later.libraries = catalog.libraries) rfl fun _ _ _ h => h

theorem map_id_putAll (catalog : Catalog) (peripherals : List Peripheral) :
    (catalog.putAll peripherals).peripherals.map Peripheral.id =
      (peripherals.map Peripheral.id).foldl insertNew (catalog.peripherals.map Peripheral.id) := by
  induction peripherals generalizing catalog with
  | nil => rfl
  | cons first rest ih =>
      have hfirst : (catalog.put first).peripherals.map Peripheral.id =
          insertNew (catalog.peripherals.map Peripheral.id) first.id :=
        map_id_putEntry first catalog.peripherals
      rw [List.map_cons, List.foldl_cons, ← hfirst]
      exact ih (catalog.put first)

/-- Of peripherals with one id that were put in the last is found. -/
theorem peripheral?_putAll (catalog : Catalog) (peripherals : List Peripheral) (id : String) :
    (catalog.putAll peripherals).peripheral? id =
      (peripherals.reverse.find? fun peripheral => peripheral.id = id).or
        (catalog.peripheral? id) := by
  induction peripherals generalizing catalog with
  | nil => rfl
  | cons first rest ih =>
      have hrest : (catalog.putAll (first :: rest)).peripheral? id =
          (rest.reverse.find? fun peripheral => peripheral.id = id).or
            ((catalog.put first).peripheral? id) := ih (catalog.put first)
      rw [hrest, List.reverse_cons, List.find?_append, Option.or_assoc, peripheral?_put,
        List.find?_singleton]
      by_cases h : id = first.id
      · simp [h]
      · simp [h, Ne.symm h]

end SensorNode.Catalog
