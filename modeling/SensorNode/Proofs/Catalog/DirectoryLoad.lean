import SensorNode.Catalog.UserFiles
import SensorNode.Proofs.Files.AtRest
import SensorNode.Proofs.Outcome

/-!
# Loading a directory

Whatever files do meanwhile, only peripherals that pass their check are loaded from them. If the
files are at rest, what a directory adds to a catalog is a function of what they answer.
-/

namespace SensorNode

variable {σ : Type} {files : FileAccess (StateM σ)} {state : σ}

namespace Peripheral

theorem check_of_ofFile {path : String} {content : ByteArray} {peripheral : Peripheral}
    (h : ofFile path content = .ok peripheral) : peripheral.check = .ok () := by
  unfold ofFile at h
  split at h
  · simp at h
  · split at h
    · simp at h
    · obtain ⟨_, hcheck, rfl⟩ := Outcome.map_eq_ok_iff.mp h
      exact hcheck

/-- What is loaded from a file passes its check. -/
theorem always_load (files : FileAccess (StateM σ)) (path : String) :
    Always (load files path) fun outcome =>
      ∀ peripheral, outcome = .ok peripheral → peripheral.check = .ok () := by
  rw [load]
  refine (Always.trivial (files.read path)).bind fun answer _ => ?_
  cases answer with
  | error error =>
      apply Always.pure
      intro peripheral h
      cases h
  | ok content =>
      apply Always.pure
      intro peripheral h
      exact check_of_ofFile h

/-- The peripheral of a file, checked. -/
def shown (view : FileView) (path : String) : Except CatalogError Peripheral :=
  match view.read path with
  | .error error => .error (.file error)
  | .ok content => ofFile path content

theorem run_load (h : files.AtRest state) (path : String) :
    (load files path).run state = (shown (files.view state) path, state) := by
  rw [load, run_bind_of_unchanged (h.run_read path), shown]
  cases (files.view state).read path <;> rfl

end Peripheral

namespace Catalog

namespace UserFiles

/-- Peripherals of files that were taken one by one pass their check if each outcome does. -/
theorem forall_mem_ofOutcomes {P : Peripheral → Prop}
    {outcomes : List (String × Except CatalogError Peripheral)}
    (h : ∀ outcome ∈ outcomes, ∀ peripheral, outcome.2 = .ok peripheral → P peripheral) :
    ∀ peripheral ∈ (ofOutcomes outcomes).peripherals, P peripheral := by
  intro peripheral hperipheral
  obtain ⟨outcome, houtcome, hok⟩ := List.mem_filterMap.mp hperipheral
  cases hresult : outcome.2 with
  | error error => simp [hresult, Except.toOption] at hok
  | ok found =>
      obtain rfl : found = peripheral := by simpa [hresult, Except.toOption] using hok
      exact h outcome houtcome found hresult

/-- What is loaded from a directory passes its check. -/
theorem always_load (files : FileAccess (StateM σ)) (directory : String) :
    Always (load files directory) fun loaded =>
      ∀ peripheral ∈ loaded.peripherals, peripheral.check = .ok () := by
  rw [load]
  refine (Always.trivial (files.isDirectory directory)).bind fun isDirectory _ => ?_
  cases isDirectory with
  | false => exact .pure (List.forall_mem_nil _)
  | true =>
      refine (Always.trivial (files.names directory)).bind fun names _ => ?_
      cases names with
      | error error => exact .pure (List.forall_mem_nil _)
      | ok names =>
          refine (Always.mapM (fun name => ?_) (fileNames names)).bind fun _ houtcomes =>
            .pure (forall_mem_ofOutcomes houtcomes)
          exact (Peripheral.always_load files _).bind fun _ houtcome => .pure houtcome

/-- What the files with these names hold. -/
def ofNames (view : FileView) (directory : String) (names : List String) : UserFiles :=
  ofOutcomes <| names.map fun name => (name, Peripheral.shown view (joinPath directory name))

/-- What a directory holds for a catalog. -/
def shown (view : FileView) (directory : String) : UserFiles :=
  if view.isDirectory directory then
    match view.names directory with
    | .error error => failed (.unreadableDirectory directory error)
    | .ok names => ofNames view directory (fileNames names)
  else failed (.notADirectory directory)

theorem run_load (h : files.AtRest state) (directory : String) :
    (load files directory).run state = (shown (files.view state) directory, state) := by
  rw [load, run_bind_of_unchanged (h.run_isDirectory directory), shown]
  cases (files.view state).isDirectory directory with
  | false => rfl
  | true =>
      -- the branch is taken, but the bind below it is hidden behind the `if` of the program
      change ((files.names directory >>= _ : StateM σ UserFiles).run state) = _
      rw [run_bind_of_unchanged (h.run_names directory)]
      cases (files.view state).names directory with
      | error error => rfl
      | ok names =>
          have hload (name : String) :
              (do return (name, ← Peripheral.load files (joinPath directory name)) :
                StateM σ _).run state =
                ((name, Peripheral.shown (files.view state) (joinPath directory name)), state) := by
            rw [run_bind_of_unchanged (Peripheral.run_load h _)]
            rfl
          exact run_bind_of_unchanged (run_mapM_of_unchanged hload (fileNames names))

end UserFiles

theorem run_loadDirectory (h : files.AtRest state) (catalog : Catalog) (directory : String) :
    (catalog.loadDirectory files directory).run state =
      ((catalog.putAll (UserFiles.shown (files.view state) directory).peripherals,
        (UserFiles.shown (files.view state) directory).failures), state) := by
  rw [loadDirectory, run_bind_of_unchanged (UserFiles.run_load h directory)]
  rfl

/-- A directory adds peripherals that pass their check. -/
theorem exists_putAll_of_run_loadDirectory (files : FileAccess (StateM σ)) (catalog : Catalog)
    (directory : String) (state : σ) :
    ∃ peripherals, (∀ peripheral ∈ peripherals, peripheral.check = .ok ()) ∧
      ((catalog.loadDirectory files directory).run state).1.1 = catalog.putAll peripherals :=
  ⟨_, UserFiles.always_load files directory state, rfl⟩

end Catalog

end SensorNode
