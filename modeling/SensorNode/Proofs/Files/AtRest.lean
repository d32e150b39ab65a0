import SensorNode.Files.Tree

/-!
# Files at rest

Looking at files that nothing writes to gives answers and changes nothing. What a program finds out
about them is then a function of the answers.
-/

namespace SensorNode

section

variable {σ α β : Type} {state next : σ}

/-- After a step a run goes on with what the step gave. -/
theorem run_bind_of_run {x : StateM σ α} {f : α → StateM σ β} {a : α}
    (h : x.run state = (a, next)) : (x >>= f).run state = (f a).run next := by
  rw [StateT.run_bind, h]
  rfl

theorem run_bind_of_unchanged {x : StateM σ α} {f : α → StateM σ β} {a : α}
    (h : x.run state = (a, state)) : (x >>= f).run state = (f a).run state :=
  run_bind_of_run h

/-- Steps that leave a state as it is leave it so in turn. -/
theorem run_mapM_of_unchanged {f : α → StateM σ β} {g : α → β}
    (h : ∀ x, (f x).run state = (g x, state)) (xs : List α) :
    (xs.mapM f).run state = (xs.map g, state) := by
  induction xs with
  | nil => rfl
  | cons x xs ih =>
      rw [List.mapM_cons, run_bind_of_unchanged (h x), run_bind_of_unchanged ih]
      rfl

/-- Whatever state a run starts in, what it gives has a property. -/
def Always (x : StateM σ α) (P : α → Prop) : Prop := ∀ state, P (x.run state).1

namespace Always

theorem trivial (x : StateM σ α) : Always x fun _ => True := fun _ => True.intro

theorem pure {P : α → Prop} {a : α} (h : P a) : Always (pure a : StateM σ α) P := fun _ => h

theorem bind {x : StateM σ α} {f : α → StateM σ β} {P : α → Prop} {Q : β → Prop}
    (hx : Always x P) (hf : ∀ a, P a → Always (f a) Q) : Always (x >>= f) Q :=
  fun state => hf _ (hx state) (x.run state).2

theorem mapM {f : α → StateM σ β} {P : β → Prop} (h : ∀ x, Always (f x) P) (xs : List α) :
    Always (xs.mapM f) fun ys => ∀ y ∈ ys, P y := by
  induction xs with
  | nil => exact .pure (List.forall_mem_nil P)
  | cons x xs ih =>
      rw [List.mapM_cons]
      exact (h x).bind fun _ hy => ih.bind fun _ hys => .pure (List.forall_mem_cons.mpr ⟨hy, hys⟩)

end Always

end

/-- What files answer while they do not change. -/
structure FileView where
  isDirectory : (path : String) → Bool
  names : (directory : String) → Except FileError (List String)
  read : (path : String) → Except FileError ByteArray

namespace FileAccess

variable {σ : Type} {files : FileAccess (StateM σ)} {state : σ}

/-- What files answer in a state. -/
def view (files : FileAccess (StateM σ)) (state : σ) : FileView where
  isDirectory path := ((files.isDirectory path).run state).1
  names directory := ((files.names directory).run state).1
  read path := ((files.read path).run state).1

/-- To look at the files does not change the state. -/
structure AtRest (files : FileAccess (StateM σ)) (state : σ) : Prop where
  isDirectory (path : String) : ((files.isDirectory path).run state).2 = state
  names (directory : String) : ((files.names directory).run state).2 = state
  read (path : String) : ((files.read path).run state).2 = state

namespace AtRest

theorem run_isDirectory (h : AtRest files state) (path : String) :
    (files.isDirectory path).run state = ((files.view state).isDirectory path, state) :=
  Prod.ext rfl (h.isDirectory path)

theorem run_names (h : AtRest files state) (directory : String) :
    (files.names directory).run state = ((files.view state).names directory, state) :=
  Prod.ext rfl (h.names directory)

theorem run_read (h : AtRest files state) (path : String) :
    (files.read path).run state = ((files.view state).read path, state) :=
  Prod.ext rfl (h.read path)

end AtRest

end FileAccess

namespace Disk

/-- What a disk answers. -/
def view (disk : Disk) : FileView := access.view disk

theorem atRest (disk : Disk) : access.AtRest disk := ⟨fun _ => rfl, fun _ => rfl, fun _ => rfl⟩

end Disk

end SensorNode
