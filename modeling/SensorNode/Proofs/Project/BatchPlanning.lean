import SensorNode.Project.Plan
import SensorNode.Proofs.Project.Edits

/-!
# One by one or in one pass

Attaching peripherals one by one rebuilds the pin table before each of them, wiring them in one pass
keeps one table. Both hand out the same pins, because at every point the rebuilt table and the kept
one have the same free pins, though not the same holders.

`attachAll` stops at the first failure, `run` goes on after one. The main statement compares both,
and the plans that the program makes, with a single pass.
-/

namespace SensorNode

/-- Requests with the peripherals they ask for, if the catalog has all of them. -/
def Catalog.requested? (catalog : Catalog) :
    List (AttachmentId × String) → Option (List (AttachmentId × Peripheral))
  | [] => some []
  | (id, peripheralId) :: rest =>
    match catalog.peripheral? peripheralId, catalog.requested? rest with
    | some peripheral, some batch => some ((id, peripheral) :: batch)
    | _, _ => none

theorem Catalog.requested?_eq_some {catalog : Catalog} {requests : List (AttachmentId × String)}
    (known : ∀ request ∈ requests, (catalog.peripheral? request.2).isSome) :
    ∃ batch, catalog.requested? requests = some batch := by
  induction requests with
  | nil => exact ⟨[], rfl⟩
  | cons request rest ih =>
      obtain ⟨peripheral, hperipheral⟩ := Option.isSome_iff_exists.mp (known request (by simp))
      obtain ⟨batch, hbatch⟩ := ih fun other h => known other (List.mem_cons_of_mem _ h)
      exact ⟨(request.1, peripheral) :: batch, by simp [requested?, hperipheral, hbatch]⟩

namespace PinTable.SameFree

/-- A table that stays in step with a list of attachments stays so when one is added to both. -/
theorem replay_concat {board : Board} {attachments : List Attachment} {table next : PinTable}
    {id : AttachmentId} {peripheral : Peripheral} {attachment : Attachment}
    (same : SameFree (replay board attachments) table)
    (h : table.assign id peripheral = .ok (attachment, next)) :
    SameFree (replay board (attachments ++ [attachment])) next := by
  obtain ⟨hboard, hfree⟩ := isFree_of_assign h
  have htable : table.board = board := by simpa using same.board_eq.symm
  refine ⟨by simp [hboard, htable], fun g => Bool.eq_iff_iff.mpr ?_⟩
  rw [hfree, ← same.isFree_eq, isFree_replay_iff, isFree_replay_iff, htable]
  simp only [recorded_append, recorded_singleton, List.mem_append]
  tauto

end PinTable.SameFree

namespace Project

open PinTable (SameFree)

variable {catalog : Catalog}

/-- Attaching all is wiring all in a table that has the same free pins as the project. -/
theorem map_attachments_attachAll {project : Project} {table : PinTable}
    {requests : List (AttachmentId × String)} {batch : List (AttachmentId × Peripheral)}
    (same : SameFree project.pinTable table) (h : catalog.requested? requests = some batch) :
    (project.attachAll catalog requests).map Project.attachments =
      (table.assignAll batch).map (project.attachments ++ ·) := by
  induction requests generalizing project table batch with
  | nil =>
      obtain rfl : [] = batch := by simpa [Catalog.requested?] using h
      simp [attachAll, PinTable.assignAll, Except.map]
  | cons request rest ih =>
      obtain ⟨id, peripheralId⟩ := request
      simp only [Catalog.requested?] at h
      split at h
      · next peripheral later hperipheral hlater =>
        obtain rfl := Option.some.inj h
        -- the two tables answer alike, so both ways stop here or both go on in step
        have hassign := same.assign_eq id peripheral
        rw [attachAll, PinTable.assignAll]
        cases htable : table.assign id peripheral with
        | error error =>
            have hplan : planAttachment project.board project.attachments id peripheral =
                .error error := by
              simpa [planAttachment, htable, Except.map, pinTable] using hassign
            rw [attach_eq_error_iff.mpr (.inr ⟨peripheral, hperipheral, hplan⟩)]
            rfl
        | ok assigned =>
            obtain ⟨attachment, next⟩ := assigned
            have hplan : planAttachment project.board project.attachments id peripheral =
                .ok attachment := by
              simpa [planAttachment, htable, Except.map, pinTable] using hassign
            rw [attach_eq_ok_iff.mpr ⟨peripheral, hperipheral, hplan, rfl⟩]
            let attached := { project with attachments := project.attachments ++ [attachment] }
            have hattached : SameFree attached.pinTable next := same.replay_concat htable
            refine (ih hattached hlater).trans ?_
            simp [attached, Outcome.map_map, Function.comp_def]
      · simp at h

/-- On a fresh project attaching all is wiring all in one pass. -/
theorem map_attachments_attachAll_start (board : Board) (seed : AttachmentId)
    {requests : List (AttachmentId × String)} {batch : List (AttachmentId × Peripheral)}
    (h : catalog.requested? requests = some batch) :
    ((start board seed).attachAll catalog requests).map Project.attachments =
      planBatch board batch := by
  have same : SameFree (start board seed).pinTable (.start board) := ⟨rfl, fun _ => rfl⟩
  rw [map_attachments_attachAll same h]
  cases hbatch : (PinTable.start board).assignAll batch <;>
    simp [planBatch, hbatch, start, Except.map]

/-- The requests that succeed when each failure is passed over. -/
def accepted (catalog : Catalog) :
    Project → List (AttachmentId × String) → List (AttachmentId × String)
  | _, [] => []
  | project, request :: rest =>
    match project.attach catalog request.1 request.2 with
    | .ok attached => request :: accepted catalog attached.2 rest
    | .error _ => accepted catalog project rest

/-- The attempts to serve requests. -/
def attempts (requests : List (AttachmentId × String)) : List Edit :=
  requests.map fun request => .attach request.1 request.2

theorem attachAll_accepted (catalog : Catalog) (project : Project)
    (requests : List (AttachmentId × String)) :
    project.attachAll catalog (project.accepted catalog requests) =
      .ok (project.run catalog (attempts requests)) := by
  induction requests generalizing project with
  | nil => rfl
  | cons request rest ih =>
      rw [accepted, attempts, List.map_cons, run, List.foldl_cons, apply]
      cases hattach : project.attach catalog request.1 request.2 with
      | error error => exact ih project
      | ok attached =>
          simp only [attachAll, hattach]
          exact ih attached.2

theorem known_of_attachAll {project final : Project} {requests : List (AttachmentId × String)}
    (h : project.attachAll catalog requests = .ok final) :
    ∀ request ∈ requests, (catalog.peripheral? request.2).isSome := by
  induction requests generalizing project with
  | nil => simp
  | cons request rest ih =>
      rw [attachAll] at h
      cases hattach : project.attach catalog request.1 request.2 with
      | error error => simp [hattach] at h
      | ok attached =>
          obtain ⟨peripheral, hperipheral, -⟩ := attach_eq_ok_iff.mp hattach
          have hrest := ih (by simpa [hattach] using h)
          exact List.forall_mem_cons.mpr ⟨by simp [hperipheral], hrest⟩

/-- A request is the first one that fails, with an error, when requests are served in turn. -/
def FirstFailure (catalog : Catalog) (project : Project) (requests : List (AttachmentId × String))
    (request : AttachmentId × String) (error : AllocationError) : Prop :=
  ∃ before after reached, requests = before ++ request :: after ∧
    project.attachAll catalog before = .ok reached ∧
    reached.attach catalog request.1 request.2 = .error error

theorem attachAll_eq_error_iff {project : Project} {requests : List (AttachmentId × String)}
    {error : AllocationError} :
    project.attachAll catalog requests = .error error ↔
      ∃ request, FirstFailure catalog project requests request error := by
  induction requests generalizing project with
  | nil => simp [attachAll, FirstFailure]
  | cons first rest ih =>
      rw [attachAll]
      cases hattach : project.attach catalog first.1 first.2 with
      | error failed =>
          simp only [Except.error.injEq]
          constructor
          · rintro rfl
            exact ⟨first, [], rest, project, rfl, rfl, hattach⟩
          · rintro ⟨request, before, after, reached, hsplit, hbefore, hfail⟩
            -- nothing is served before a request that fails at once
            cases before with
            | nil =>
                obtain ⟨rfl, rfl⟩ := List.cons.inj hsplit
                obtain rfl : project = reached := by simpa [attachAll] using hbefore
                simpa [hattach] using hfail
            | cons other before =>
                obtain ⟨rfl, -⟩ := List.cons.inj hsplit
                simp [attachAll, hattach] at hbefore
      | ok attached =>
          simp only [ih]
          constructor
          · rintro ⟨request, before, after, reached, hsplit, hbefore, hfail⟩
            exact ⟨request, first :: before, after, reached, by simp [hsplit],
              by simpa [attachAll, hattach] using hbefore, hfail⟩
          · rintro ⟨request, before, after, reached, hsplit, hbefore, hfail⟩
            cases before with
            | nil =>
                obtain ⟨rfl, rfl⟩ := List.cons.inj hsplit
                obtain rfl : project = reached := by simpa [attachAll] using hbefore
                simp [hattach] at hfail
            | cons other before =>
                obtain ⟨rfl, hrest⟩ := List.cons.inj hsplit
                exact ⟨request, before, after, reached, hrest,
                  by simpa [attachAll, hattach] using hbefore, hfail⟩

theorem FirstFailure.unknown {project : Project} {requests : List (AttachmentId × String)}
    {request : AttachmentId × String} {error : AllocationError}
    (h : FirstFailure catalog project requests request error)
    (hunknown : catalog.peripheral? request.2 = none) :
    error = .unknownPeripheral request.2 := by
  obtain ⟨_, _, _, -, -, hfail⟩ := h
  rcases attach_eq_error_iff.mp hfail with ⟨-, herror⟩ | ⟨peripheral, hperipheral, -⟩
  · exact herror
  · simp [hunknown] at hperipheral

/-- One pass over the requests that succeed one by one gives the same attachments. One pass over
known requests succeeds as attaching all does, and else ends with the first failure of it. A plan
has the attachments of such a pass, or reports the first failure. -/
theorem planBatch_agrees_with_attempts (catalog : Catalog) (board : Board) (seed : AttachmentId)
    (requests : List (AttachmentId × String)) :
    (∃ batch, catalog.requested? ((start board seed).accepted catalog requests) = some batch ∧
      planBatch board batch =
        .ok ((start board seed).run catalog (attempts requests)).attachments) ∧
    ((∀ request ∈ requests, (catalog.peripheral? request.2).isSome) →
      ∃ batch, catalog.requested? requests = some batch ∧
        (∀ attachments, planBatch board batch = .ok attachments ↔
          ∃ project, (start board seed).attachAll catalog requests = .ok project ∧
            project.attachments = attachments) ∧
        ∀ error, planBatch board batch = .error error ↔
          ∃ request, FirstFailure catalog (start board seed) requests request error) ∧
    ∀ (ids : Nat → AttachmentId) (boardId : String) (peripheralIds : List String),
      let chosen := catalog.boardOrDefault boardId
      let drawn := Project.requests ids peripheralIds
      (∀ project, planOrFailure catalog ids boardId peripheralIds = .ok project →
        ∃ batch, catalog.requested? drawn = some batch ∧
          planBatch chosen batch = .ok project.attachments) ∧
      (∀ failure, planOrFailure catalog ids boardId peripheralIds = .error failure ↔
        ∃ request error, failure = .allocation error ∧
          FirstFailure catalog (start chosen (ids 0)) drawn request error) ∧
      ∀ request error, FirstFailure catalog (start chosen (ids 0)) drawn request error →
        catalog.peripheral? request.2 = none → error = .unknownPeripheral request.2 := by
  refine ⟨?_, ?_, ?_⟩
  · have hall := attachAll_accepted catalog (start board seed) requests
    obtain ⟨batch, hbatch⟩ := Catalog.requested?_eq_some (known_of_attachAll hall)
    refine ⟨batch, hbatch, ?_⟩
    rw [← map_attachments_attachAll_start board seed hbatch, hall]
    rfl
  · intro known
    obtain ⟨batch, hbatch⟩ := Catalog.requested?_eq_some known
    have hpass := map_attachments_attachAll_start board seed hbatch
    refine ⟨batch, hbatch, ?_, ?_⟩
    · intro attachments
      rw [← hpass, Outcome.map_eq_ok_iff]
    · intro error
      rw [← hpass, Outcome.map_eq_error_iff, attachAll_eq_error_iff]
  · intro ids boardId peripheralIds chosen drawn
    refine ⟨?_, ?_, fun request error h => h.unknown⟩
    · intro project h
      have hall := Outcome.mapError_eq_ok_iff.mp h
      obtain ⟨batch, hbatch⟩ := Catalog.requested?_eq_some (known_of_attachAll hall)
      refine ⟨batch, hbatch, ?_⟩
      rw [← map_attachments_attachAll_start _ (ids 0) hbatch]
      exact Outcome.map_eq_ok_iff.mpr ⟨project, hall, rfl⟩
    · intro failure
      rw [planOrFailure, Outcome.mapError_eq_error_iff]
      constructor
      · rintro ⟨error, herror, rfl⟩
        obtain ⟨request, hfirst⟩ := attachAll_eq_error_iff.mp herror
        exact ⟨request, error, rfl, hfirst⟩
      · rintro ⟨request, error, rfl, hfirst⟩
        exact ⟨error, attachAll_eq_error_iff.mpr ⟨request, hfirst⟩, rfl⟩

end Project

end SensorNode
