import SensorNode.Proofs.Catalog.Checked
import SensorNode.Proofs.Distinct
import SensorNode.Proofs.Text.Utf8

/-!
# Directories of users

To load a directory is to go through its catalog files in the order of the bytes of their names. A
file that holds a peripheral makes an insertion of it, any other one makes a failure, and nothing
else happens. The program reads all files before it puts anything in, so the insertions one by one
are found by induction on the files.
-/

namespace SensorNode

/-- A catalog file has a name before its extension. -/
theorem isJsonName_iff {name : String} :
    isJsonName name ↔ ∃ stem, stem ≠ "" ∧ name = stem ++ ".json" := by
  simp only [isJsonName, Bool.and_eq_true, List.isSuffixOf_iff_suffix, decide_eq_true_eq,
    ← String.length_toList]
  constructor
  · rintro ⟨⟨stem, hstem⟩, hlength⟩
    refine ⟨String.ofList stem, ?_, ?_⟩
    · intro hempty
      obtain rfl : stem = [] := by simpa using congrArg String.toList hempty
      rw [← hstem, List.nil_append] at hlength
      exact Nat.lt_irrefl _ hlength
    · rw [← String.toList_inj, ← hstem]
      simp
  · rintro ⟨stem, hstem, rfl⟩
    refine ⟨⟨stem.toList, by simp⟩, ?_⟩
    have hne : stem.toList ≠ [] := fun h => hstem (String.toList_inj.mp (by simpa using h))
    have hpos : 0 < stem.toList.length := List.length_pos_iff.mpr hne
    rw [String.toList_append, List.length_append]
    omega

namespace FileView

/-- The file is a document of a peripheral that passes its check. -/
structure Holds (view : FileView) (path : String) (peripheral : Peripheral) : Prop where
  document : ∃ text : String, view.read path = .ok text.toUTF8 ∧
    (Json.read? text).bind Peripheral.ofJson? = some peripheral
  checked : peripheral.check = .ok ()

/-- What is wrong with a path that holds no peripheral. -/
inductive Faulty (view : FileView) (path : String) : CatalogError → Prop where
  | unreadable {error : FileError} (h : view.read path = .error error) :
      Faulty view path (.file error)
  | encoding {content : ByteArray} (h : view.read path = .ok content)
      (hcontent : ∀ text : String, text.toUTF8 ≠ content) : Faulty view path (.file .notUtf8)
  | document {text : String} (h : view.read path = .ok text.toUTF8)
      (hdocument : (Json.read? text).bind Peripheral.ofJson? = none) :
      Faulty view path (.unreadable path)
  | check {text : String} {peripheral : Peripheral} {error : CatalogError}
      (h : view.read path = .ok text.toUTF8)
      (hdocument : (Json.read? text).bind Peripheral.ofJson? = some peripheral)
      (hcheck : peripheral.check = .error error) : Faulty view path error

end FileView

namespace Peripheral

theorem ofFile_toUTF8 (path text : String) :
    ofFile path text.toUTF8 =
      match (Json.read? text).bind ofJson? with
      | none => .error (.unreadable path)
      | some peripheral => peripheral.check.map fun _ => peripheral := by
  have htext : String.fromUTF8? text.toUTF8 = some text := Text.fromUTF8?_eq_some_iff.mpr rfl
  cases hdocument : (Json.read? text).bind ofJson? with
  | none => simp only [ofFile, htext, hdocument]
  | some peripheral => simp only [ofFile, htext, hdocument]

variable {view : FileView} {path : String}

/-- A path is shown for what it is. -/
theorem holds_or_faulty (view : FileView) (path : String) :
    (∃ peripheral, shown view path = .ok peripheral ∧ view.Holds path peripheral) ∨
      ∃ error, shown view path = .error error ∧ view.Faulty path error := by
  cases hread : view.read path with
  | error error => exact .inr ⟨.file error, by simp only [shown, hread], .unreadable hread⟩
  | ok content =>
      cases htext : String.fromUTF8? content with
      | none =>
          refine .inr ⟨.file .notUtf8, by simp only [shown, hread, ofFile, htext], ?_⟩
          exact .encoding hread (Text.fromUTF8?_eq_none_iff.mp htext)
      | some text =>
          obtain rfl := Text.fromUTF8?_eq_some_iff.mp htext
          cases hdocument : (Json.read? text).bind ofJson? with
          | none =>
              refine .inr ⟨.unreadable path, ?_, .document hread hdocument⟩
              simp only [shown, hread, ofFile_toUTF8, hdocument]
          | some peripheral =>
              have hshown : shown view path = peripheral.check.map fun _ => peripheral := by
                simp only [shown, hread, ofFile_toUTF8, hdocument]
              rw [hshown]
              cases hcheck : peripheral.check with
              | error error => exact .inr ⟨error, rfl, .check hread hdocument hcheck⟩
              | ok => exact .inl ⟨peripheral, rfl, ⟨text, hread, hdocument⟩, hcheck⟩

theorem shown_eq_ok_iff {peripheral : Peripheral} :
    shown view path = .ok peripheral ↔ view.Holds path peripheral := by
  constructor
  · intro h
    obtain ⟨found, hshown, hfound⟩ | ⟨error, hshown, -⟩ := holds_or_faulty view path
    · obtain rfl := Except.ok.inj (h.symm.trans hshown)
      exact hfound
    · exact nomatch h.symm.trans hshown
  · rintro ⟨⟨text, hread, hdocument⟩, hcheck⟩
    simp only [shown, hread, ofFile_toUTF8, hdocument, hcheck]
    rfl

theorem shown_eq_error_iff {error : CatalogError} :
    shown view path = .error error ↔ view.Faulty path error := by
  constructor
  · intro h
    obtain ⟨found, hshown, -⟩ | ⟨cause, hshown, hcause⟩ := holds_or_faulty view path
    · exact nomatch h.symm.trans hshown
    · obtain rfl := Except.error.inj (h.symm.trans hshown)
      exact hcause
  · intro h
    cases h with
    | unreadable hread => simp only [shown, hread]
    | encoding hread hcontent =>
        simp only [shown, hread, ofFile, Text.fromUTF8?_eq_none_iff.mpr hcontent]
    | document hread hdocument => simp only [shown, hread, ofFile_toUTF8, hdocument]
    | check hread hdocument hcheck =>
        simp only [shown, hread, ofFile_toUTF8, hdocument, hcheck]
        rfl

end Peripheral

namespace Catalog

namespace UserFiles

variable {view : FileView} {directory name : String}

theorem ofNames_cons_of_holds {peripheral : Peripheral}
    (h : view.Holds (joinPath directory name) peripheral) (names : List String) :
    ofNames view directory (name :: names) =
      ⟨peripheral :: (ofNames view directory names).peripherals,
        (ofNames view directory names).failures,
        record name (.ok peripheral) :: (ofNames view directory names).records⟩ := by
  rw [ofNames, List.map_cons, Peripheral.shown_eq_ok_iff.mpr h]
  rfl

theorem ofNames_cons_of_faulty {error : CatalogError}
    (h : view.Faulty (joinPath directory name) error) (names : List String) :
    ofNames view directory (name :: names) =
      ⟨(ofNames view directory names).peripherals,
        .entry name error :: (ofNames view directory names).failures,
        record name (.error error) :: (ofNames view directory names).records⟩ := by
  rw [ofNames, List.map_cons, Peripheral.shown_eq_error_iff.mpr h]
  rfl

end UserFiles

/-- The files of a directory are gone through in turn: the peripheral of each that holds one is
inserted, each other one is reported. -/
inductive InTurn (view : FileView) (directory : String) :
    Catalog → List String → List Peripheral → Catalog → List LoadFailure → Prop where
  | done {catalog : Catalog} : InTurn view directory catalog [] [] catalog []
  | inserted {catalog next final : Catalog} {name : String} {names : List String}
      {peripheral : Peripheral} {found : List Peripheral} {failures : List LoadFailure}
      (hfile : view.Holds (joinPath directory name) peripheral)
      (hinsert : catalog.insert peripheral = .ok next)
      (rest : InTurn view directory next names found final failures) :
      InTurn view directory catalog (name :: names) (peripheral :: found) final failures
  | reported {catalog final : Catalog} {name : String} {names : List String} {error : CatalogError}
      {found : List Peripheral} {failures : List LoadFailure}
      (hfile : view.Faulty (joinPath directory name) error)
      (rest : InTurn view directory catalog names found final failures) :
      InTurn view directory catalog (name :: names) found final (.entry name error :: failures)

namespace InTurn

variable {view : FileView} {directory : String} {catalog final : Catalog} {names : List String}
  {found : List Peripheral} {failures : List LoadFailure}

/-- The program reads all files before it puts anything in, which comes to the same. -/
theorem of_names (view : FileView) (directory : String) (catalog : Catalog)
    (names : List String) :
    let loaded := UserFiles.ofNames view directory names
    InTurn view directory catalog names loaded.peripherals (catalog.putAll loaded.peripherals)
      loaded.failures := by
  induction names generalizing catalog with
  | nil => exact .done
  | cons name names ih =>
      obtain ⟨peripheral, -, hfile⟩ | ⟨error, -, hfile⟩ :=
        Peripheral.holds_or_faulty view (joinPath directory name)
      · rw [UserFiles.ofNames_cons_of_holds hfile]
        exact .inserted hfile (insert_eq_ok_iff.mpr ⟨hfile.checked, rfl⟩)
          (ih (catalog.put peripheral))
      · rw [UserFiles.ofNames_cons_of_faulty hfile]
        exact .reported hfile (ih catalog)

/-- To go through files in turn leaves no choice. -/
theorem iff_ofNames :
    InTurn view directory catalog names found final failures ↔
      found = (UserFiles.ofNames view directory names).peripherals ∧
        failures = (UserFiles.ofNames view directory names).failures ∧
        final = catalog.putAll found := by
  constructor
  · intro h
    induction h with
    | done => exact ⟨rfl, rfl, rfl⟩
    | inserted hfile hinsert _ ih =>
        obtain ⟨-, rfl⟩ := insert_eq_ok_iff.mp hinsert
        obtain ⟨rfl, rfl, rfl⟩ := ih
        rw [UserFiles.ofNames_cons_of_holds hfile]
        exact ⟨rfl, rfl, rfl⟩
    | reported hfile _ ih =>
        obtain ⟨rfl, rfl, rfl⟩ := ih
        rw [UserFiles.ofNames_cons_of_faulty hfile]
        exact ⟨rfl, rfl, rfl⟩
  · rintro ⟨rfl, rfl, rfl⟩
    exact of_names view directory catalog names

theorem length_add_length (h : InTurn view directory catalog names found final failures) :
    found.length + failures.length = names.length := by
  induction h with
  | done => rfl
  | inserted _ _ _ ih => rw [List.length_cons, List.length_cons, ← ih]; omega
  | reported _ _ ih => rw [List.length_cons, List.length_cons, ← ih]; omega

end InTurn

/-- What a directory with these names does to a catalog, where the catalog files are taken in an
order and hold the peripherals found. -/
structure Loaded (view : FileView) (directory : String) (catalog final : Catalog)
    (failures : List LoadFailure) (names ordered : List String) (found : List Peripheral) :
    Prop where
  entries : ordered.Perm (names.filter isJsonName)
  extension : ∀ name, name ∈ ordered ↔ name ∈ names ∧ ∃ stem, stem ≠ "" ∧ name = stem ++ ".json"
  sorted : ordered.Pairwise fun a b => Text.bytes a ≤ Text.bytes b
  inTurn : InTurn view directory catalog ordered found final failures
  count : found.length + failures.length = (names.filter isJsonName).length
  /-- Of several peripherals with one id the last one counts. -/
  last : ∀ id, final.peripheral? id =
    (found.reverse.find? fun peripheral => peripheral.id = id).or (catalog.peripheral? id)
  /-- A peripheral that overrides one keeps its place. -/
  places : final.peripherals.map Peripheral.id =
    catalog.peripherals.map Peripheral.id ++
      (distinct (found.map Peripheral.id)).filter
        fun id => id ∉ catalog.peripherals.map Peripheral.id
  boards : final.boards = catalog.boards
  libraries : final.libraries = catalog.libraries

/-- What loading a directory comes to. -/
structure Loads (view : FileView) (directory : String) (catalog final : Catalog)
    (failures : List LoadFailure) : Prop where
  notADirectory : view.isDirectory directory = false →
    final = catalog ∧ failures = [.notADirectory directory]
  unreadable : ∀ error, view.isDirectory directory = true → view.names directory = .error error →
    final = catalog ∧ failures = [.unreadableDirectory directory error]
  loaded : ∀ names, view.isDirectory directory = true → view.names directory = .ok names →
    ∃ ordered found, Loaded view directory catalog final failures names ordered found

theorem UserFiles.fileNames_perm (names : List String) :
    (fileNames names).Perm (names.filter isJsonName) :=
  List.mergeSort_perm _ _

theorem UserFiles.pairwise_fileNames (names : List String) :
    (fileNames names).Pairwise fun a b => Text.bytes a ≤ Text.bytes b := by
  refine (List.pairwise_mergeSort ?_ ?_ _).imp fun h => Text.bytes_le_iff.mpr (of_decide_eq_true h)
  · intro a b c hab hbc
    exact decide_eq_true (String.le_trans (of_decide_eq_true hab) (of_decide_eq_true hbc))
  · intro a b
    simpa using String.le_total a b

theorem loaded_ofNames (view : FileView) (directory : String) (catalog : Catalog)
    (names : List String) :
    let loaded := UserFiles.ofNames view directory (UserFiles.fileNames names)
    Loaded view directory catalog (catalog.putAll loaded.peripherals) loaded.failures names
      (UserFiles.fileNames names) loaded.peripherals := by
  intro loaded
  have hperm := UserFiles.fileNames_perm names
  have hturn := InTurn.of_names view directory catalog (UserFiles.fileNames names)
  exact {
    entries := hperm
    extension := fun name => by rw [hperm.mem_iff, List.mem_filter, isJsonName_iff]
    sorted := UserFiles.pairwise_fileNames names
    inTurn := hturn
    count := hturn.length_add_length.trans hperm.length_eq
    last := peripheral?_putAll catalog loaded.peripherals
    places := by rw [map_id_putAll, foldl_insertNew]
    boards := boards_putAll catalog loaded.peripherals
    libraries := libraries_putAll catalog loaded.peripherals }

/-- A directory whose files are at rest is loaded into a catalog file by file. -/
theorem loads_of_atRest {σ : Type} {files : FileAccess (StateM σ)} {state : σ}
    (h : files.AtRest state) (catalog : Catalog) (directory : String) :
    Loads (files.view state) directory catalog
      ((catalog.loadDirectory files directory).run state).1.1
      ((catalog.loadDirectory files directory).run state).1.2 := by
  rw [run_loadDirectory h]
  refine ⟨?_, ?_, ?_⟩
  · intro hdirectory
    simp only [UserFiles.shown, hdirectory]
    exact ⟨rfl, rfl⟩
  · intro error hdirectory hnames
    simp only [UserFiles.shown, hdirectory, hnames]
    exact ⟨rfl, rfl⟩
  · intro names hdirectory hnames
    simp only [UserFiles.shown, hdirectory, hnames]
    exact ⟨_, _, loaded_ofNames (files.view state) directory catalog names⟩

/-- Two files hold a lamp, and the later one overrides the earlier in the place of the lamp that was
there. A broken document, a directory and bytes that are no text are reported, names without the
extension are passed over. -/
theorem loads_lamps :
    let lamp (name : String) : FileTree := .file
      ("\x7b\"id\": \"lamp\", \"name\": \"" ++ name ++ "\", \"category\": \"actuator\", " ++
        "\"requires\": [], \"constructor\": \"\"\x7d").toUTF8
    let disk : Disk := ⟨.directory [("user", .directory
      [("d.json", lamp "Last Lamp"), ("b.json", lamp "New Lamp"), ("notes.txt", .file "".toUTF8),
        ("a.json", .file "[".toUTF8), ("c.json", .directory []), (".json", lamp "No Lamp"),
        ("e.json", .file ⟨#[255]⟩)])], []⟩
    let result := ((small.loadDirectory Disk.access "user").run disk).1
    Loads disk.view "user" small result.1 result.2 ∧
      result.1.peripherals.map Peripheral.name = ["Last Lamp", "Clock"] ∧
      result.2 = [.entry "a.json" (.unreadable "user/a.json"),
        .entry "c.json" (.file .isADirectory), .entry "e.json" (.file .notUtf8)] := by
  intro lamp disk result
  have hloads : Loads disk.view "user" small result.1 result.2 :=
    loads_of_atRest disk.atRest small "user"
  obtain ⟨ordered, found, loaded⟩ := hloads.loaded
    ["d.json", "b.json", "notes.txt", "a.json", "c.json", ".json", "e.json"] rfl rfl
  obtain rfl : ordered = ["a.json", "b.json", "c.json", "d.json", "e.json"] :=
    Text.eq_of_perm_of_sorted (loaded.entries.trans (by decide +kernel)) loaded.sorted
      (by decide +kernel)
  obtain ⟨hfound, hfailures, hresult⟩ := InTurn.iff_ofNames.mp loaded.inTurn
  refine ⟨hloads, ?_⟩
  rw [hresult, hfailures, hfound]
  decide +kernel

end Catalog

end SensorNode
