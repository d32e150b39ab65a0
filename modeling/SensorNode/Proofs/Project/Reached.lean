import SensorNode.Project.Plan
import SensorNode.Proofs.Catalog.Checked
import SensorNode.Proofs.PinTable.Wired
import SensorNode.Proofs.Project.Edits

/-!
# Reached projects

A project is reached from a fresh one by attaching, detaching and switching boards. Beside its
attachments we keep the peripherals they were made for, as they stood in the catalog at that time.

Two facts hold of every reached project. Each attachment is wired as its peripheral asks for, and a
pin of an earlier attachment is recorded by a later one only if the later one sits on the shared
bus. The second holds because the table that is rebuilt before each attachment covers every
recorded pin of the board, and because detaching keeps the order.
-/

namespace SensorNode

/-- Of the pins of an earlier attachment a later one has at most the bus pins, and those only if it
sits on the bus. -/
def SharesOnlyBus (board : Board) (earlier later : Attachment × Peripheral) : Prop :=
  ∀ gpio ∈ earlier.1.gpios, gpio ∈ later.1.gpios →
    board.OnBus gpio ∧ later.2.bus = some .i2c

/-- A planned attachment shares no pin with those that are there, but for the bus. -/
theorem sharesOnlyBus_of_assign {board : Board} {attachments : List Attachment}
    {next : PinTable} {id : AttachmentId} {peripheral : Peripheral} {attachment : Attachment}
    (h : (PinTable.replay board attachments).assign id peripheral = .ok (attachment, next))
    {earlier : Attachment × Peripheral} (hearlier : earlier.1 ∈ attachments) :
    SharesOnlyBus board earlier (attachment, peripheral) := by
  obtain ⟨picked, wired, hfree⟩ := PinTable.wired_of_assign h
  rw [PinTable.board_replay] at wired hfree
  intro gpio hrecorded hgpio
  have hmem : gpio ∈ picked := wired.mem_gpios_iff.mp hgpio
  by_cases hbus : peripheral.bus = some .i2c
  · rw [wired.bus_eq hbus] at hmem
    exact ⟨List.mem_pair.mp hmem, hbus⟩
  · obtain ⟨hboard, htaken⟩ := hfree hbus gpio hmem
    have hall : gpio ∈ recorded attachments := mem_recorded_iff.mpr ⟨_, hearlier, hrecorded⟩
    exact absurd ⟨hboard, hall⟩ (PinTable.isFree_replay_iff.mp htaken)

/-- Attachments that find their peripherals are all known. -/
theorem Catalog.known_map_fst {catalog : Catalog} {wired : List (Attachment × Peripheral)}
    (h : ∀ entry ∈ wired, catalog.peripheral? entry.1.peripheralId = some entry.2) :
    catalog.known (wired.map Prod.fst) = wired := by
  induction wired with
  | nil => rfl
  | cons entry rest ih =>
      obtain ⟨hentry, hrest⟩ := List.forall_mem_cons.mp h
      rw [List.map_cons, known_cons_of_some hentry, ih hrest]

namespace Project

/-- The projects that edits lead to from a fresh one, each with the pairs of an attachment and the
peripheral that it was made for. An attachment that fails leads nowhere new. -/
inductive Reached (catalogs : Catalog → Prop) (first : Board) :
    Project → List (Attachment × Peripheral) → Prop where
  | start (seed : AttachmentId) : Reached catalogs first (.start first seed) []
  | attach {project next : Project} {wired : List (Attachment × Peripheral)} {catalog : Catalog}
      {id : AttachmentId} {peripheralId : String} {peripheral : Peripheral}
      {attachment : Attachment} (before : Reached catalogs first project wired)
      (hcatalog : catalogs catalog)
      (hperipheral : catalog.peripheral? peripheralId = some peripheral)
      (h : project.attach catalog id peripheralId = .ok (attachment, next)) :
      Reached catalogs first next (wired ++ [(attachment, peripheral)])
  | detach {project : Project} {wired : List (Attachment × Peripheral)}
      (before : Reached catalogs first project wired) (id : AttachmentId) :
      Reached catalogs first (project.detach id) (wired.filter fun entry => entry.1.id ≠ id)
  | switchBoard {project : Project} {wired : List (Attachment × Peripheral)} {catalog : Catalog}
      (before : Reached catalogs first project wired) (hcatalog : catalogs catalog)
      (boardId : String) : Reached catalogs first (project.switchBoard catalog boardId) []

namespace Reached

variable {catalogs : Catalog → Prop} {first : Board} {project : Project}
  {wired : List (Attachment × Peripheral)}

theorem map_fst (h : Reached catalogs first project wired) :
    wired.map Prod.fst = project.attachments := by
  induction h with
  | start seed => rfl
  | attach _ _ _ h ih =>
      obtain ⟨_, -, -, rfl⟩ := attach_eq_ok_iff.mp h
      simp [ih]
  | detach _ id ih => simp [Project.detach, ← ih, List.filter_map, Function.comp_def]
  | switchBoard => rfl

/-- What holds of the first board and of those in the catalogs holds of the present one. -/
theorem board {P : Board → Prop} (h : Reached catalogs first project wired) (hfirst : P first)
    (hboards : ∀ catalog, catalogs catalog → ∀ board ∈ catalog.boards, P board) :
    P project.board := by
  induction h with
  | start seed => exact hfirst
  | attach _ _ _ h ih =>
      obtain ⟨_, -, -, rfl⟩ := attach_eq_ok_iff.mp h
      exact ih
  | detach _ id ih => exact ih
  | @switchBoard _ _ catalog _ hcatalog boardId =>
      exact hboards catalog hcatalog _ (catalog.boardOrDefault_mem boardId)

/-- One more edit leads to a reached project. -/
theorem apply {catalog : Catalog} (h : Reached catalogs first project wired)
    (hcatalog : catalogs catalog) (edit : Edit) :
    ∃ rewired, Reached catalogs first (project.apply catalog edit) rewired := by
  cases edit with
  | attach id peripheralId =>
      rw [Project.apply]
      cases hattach : project.attach catalog id peripheralId with
      | error error => exact ⟨wired, h⟩
      | ok attached =>
          obtain ⟨peripheral, hperipheral, -, -⟩ := attach_eq_ok_iff.mp hattach
          exact ⟨_, h.attach hcatalog hperipheral hattach⟩
  | detach id => exact ⟨_, h.detach id⟩
  | switchBoard boardId => exact ⟨_, h.switchBoard hcatalog boardId⟩

/-- Edits over one catalog lead to reached projects. -/
theorem run {catalog : Catalog} (h : Reached catalogs first project wired)
    (hcatalog : catalogs catalog) (edits : List Edit) :
    ∃ rewired, Reached catalogs first (project.run catalog edits) rewired := by
  induction edits generalizing project wired with
  | nil => exact ⟨wired, h⟩
  | cons edit rest ih =>
      obtain ⟨rewired, hedit⟩ := h.apply hcatalog edit
      exact ih hedit

/-- Attaching all leads to a reached project. -/
theorem attachAll (h : Reached catalogs first project wired) (hcatalog : catalogs catalog)
    {requests : List (AttachmentId × String)} {final : Project}
    (hall : project.attachAll catalog requests = .ok final) :
    ∃ rewired, Reached catalogs first final rewired := by
  induction requests generalizing project wired with
  | nil =>
      obtain rfl : project = final := by simpa [Project.attachAll] using hall
      exact ⟨wired, h⟩
  | cons request rest ih =>
      rw [Project.attachAll] at hall
      cases hattach : project.attach catalog request.1 request.2 with
      | error error => simp [hattach] at hall
      | ok attached =>
          obtain ⟨peripheral, hperipheral, -⟩ := attach_eq_ok_iff.mp hattach
          exact ih (h.attach hcatalog hperipheral hattach) (by simpa [hattach] using hall)

/-- The catalog from which an attachment was made still finds its peripheral. -/
theorem exists_peripheral? (h : Reached catalogs first project wired) :
    ∀ entry ∈ wired, ∃ catalog, catalogs catalog ∧
      catalog.peripheral? entry.1.peripheralId = some entry.2 := by
  induction h with
  | start seed => simp
  | @attach _ _ _ catalog _ _ peripheral attachment _ hcatalog hperipheral h ih =>
      obtain ⟨⟨_, hassign⟩, rfl⟩ := assign_of_attach hperipheral h
      obtain ⟨_, hwired, -⟩ := PinTable.wired_of_assign hassign
      have hid : attachment.peripheralId = _ :=
        hwired.peripheralId_eq.trans (Catalog.mem_of_peripheral? hperipheral).2
      intro entry hentry
      rcases List.mem_append.mp hentry with hentry | hentry
      · exact ih entry hentry
      · obtain rfl := List.mem_singleton.mp hentry
        exact ⟨catalog, hcatalog, hid ▸ hperipheral⟩
  | detach _ id ih => exact fun entry hentry => ih entry (List.mem_of_mem_filter hentry)
  | switchBoard => simp

/-- Over one catalog all attachments are known. -/
theorem known_attachments {catalog : Catalog} (h : Reached (· = catalog) first project wired) :
    catalog.known project.attachments = wired := by
  rw [← h.map_fst]
  apply Catalog.known_map_fst
  intro entry hentry
  obtain ⟨_, rfl, hfound⟩ := h.exists_peripheral? entry hentry
  exact hfound

theorem isSome_peripheral? {catalog : Catalog} (h : Reached (· = catalog) first project wired) :
    ∀ attachment ∈ project.attachments,
      (catalog.peripheral? attachment.peripheralId).isSome := by
  intro attachment hattachment
  rw [← h.map_fst] at hattachment
  obtain ⟨entry, hentry, rfl⟩ := List.mem_map.mp hattachment
  obtain ⟨_, rfl, hfound⟩ := h.exists_peripheral? entry hentry
  exact Option.isSome_of_eq_some hfound

/-- A plan is a reached project. -/
theorem exists_of_planOrFailure {catalog : Catalog} {ids : Nat → AttachmentId} {boardId : String}
    {peripheralIds : List String}
    (h : planOrFailure catalog ids boardId peripheralIds = .ok project) :
    ∃ wired, Reached (· = catalog) (catalog.boardOrDefault boardId) project wired := by
  have hstart : Reached (· = catalog) (catalog.boardOrDefault boardId)
      (.start (catalog.boardOrDefault boardId) (ids 0)) [] := .start _
  exact hstart.attachAll rfl (Outcome.mapError_eq_ok_iff.mp h)

theorem exists_wired (h : Reached catalogs first project wired) :
    ∀ entry ∈ wired, ∃ picked, Wired project.board entry.1 entry.2 picked := by
  induction h with
  | start seed => simp
  | attach _ _ hperipheral h ih =>
      obtain ⟨⟨_, hassign⟩, rfl⟩ := assign_of_attach hperipheral h
      obtain ⟨picked, hwired, -⟩ := PinTable.wired_of_assign hassign
      intro entry hentry
      rcases List.mem_append.mp hentry with hentry | hentry
      · exact ih entry hentry
      · obtain rfl := List.mem_singleton.mp hentry
        exact ⟨picked, by simpa using hwired⟩
  | detach _ id ih => exact fun entry hentry => ih entry (List.mem_of_mem_filter hentry)
  | switchBoard => simp

theorem pairwise_sharesOnlyBus (h : Reached catalogs first project wired) :
    wired.Pairwise (SharesOnlyBus project.board) := by
  induction h with
  | start seed => exact .nil
  | attach before _ hperipheral h ih =>
      obtain ⟨⟨_, hassign⟩, rfl⟩ := assign_of_attach hperipheral h
      -- the new attachment comes last, so it is the later one of each new pair
      refine List.pairwise_append.mpr ⟨ih, List.pairwise_singleton _ _, ?_⟩
      intro earlier hearlier later hlater
      obtain rfl := List.mem_singleton.mp hlater
      exact sharesOnlyBus_of_assign hassign (before.map_fst ▸ List.mem_map_of_mem hearlier)
  | detach _ id ih => exact ih.filter _
  | switchBoard => exact .nil

end Reached

end Project

end SensorNode
