import SensorNode.Proofs.PinTable.Settled
import SensorNode.Proofs.Project.Monotonicity
import SensorNode.Proofs.Project.Reached

/-!
# Attaching again

An attachment that is detached can be attached again, provided that nobody else holds its pins.
Since it was made any others may have come and gone, so the pins that are free now are neither more
nor fewer than at that time. But its pins are settled, which is a fact about them and the board
alone, and so it stays true as long as the attachment does.
-/

namespace SensorNode.Project

/-- Away from the bus the pins of an attachment are settled from when it is made. -/
theorem Reached.exists_settled {catalogs : Catalog → Prop} {first : Board} {project : Project}
    {wired : List (Attachment × Peripheral)} (h : Reached catalogs first project wired)
    (hfirst : (first.pins.map Pin.gpio).Nodup)
    (hboards : ∀ catalog, catalogs catalog → ∀ board ∈ catalog.boards,
      (board.pins.map Pin.gpio).Nodup) :
    ∀ entry ∈ wired, ∃ picked, Wired project.board entry.1 entry.2 picked ∧
      (entry.2.bus ≠ some .i2c → Settled project.board entry.2.requires picked) := by
  induction h with
  | start seed => simp
  | attach before _ hperipheral h ih =>
      have hdistinct := before.board hfirst hboards
      obtain ⟨⟨_, hassign⟩, rfl⟩ := assign_of_attach hperipheral h
      obtain ⟨picked, hwired, -⟩ := PinTable.wired_of_assign hassign
      have hsettled := PinTable.settled_of_assign (by simpa using hdistinct) hassign hwired
      rw [PinTable.board_replay] at hwired hsettled
      intro entry hentry
      rcases List.mem_append.mp hentry with hentry | hentry
      · exact ih entry hentry
      · obtain rfl := List.mem_singleton.mp hentry
        exact ⟨picked, hwired, hsettled⟩
  | detach _ id ih => exact fun entry hentry => ih entry (List.mem_of_mem_filter hentry)
  | switchBoard => simp

variable {catalog : Catalog} {project : Project} {x : Attachment} {before after : List Attachment}

/-- Detaching takes out the only attachment with an id. -/
theorem attachments_detach (hsplit : project.attachments = before ++ x :: after)
    (hunique : ∀ y ∈ before ++ after, y.id ≠ x.id) :
    (project.detach x.id).attachments = before ++ after := by
  have hkept (ys : List Attachment) (h : ∀ y ∈ ys, y.id ≠ x.id) :
      ys.filter (fun y => y.id ≠ x.id) = ys :=
    List.filter_eq_self.mpr fun y hy => decide_eq_true (h y hy)
  obtain ⟨hbefore, hafter⟩ := List.forall_mem_append.mp hunique
  rw [detach, hsplit, List.filter_append, List.filter_cons_of_neg (by simp), hkept _ hbefore,
    hkept _ hafter]

/-- What is detached at once might as well not have been attached. -/
theorem detach_of_attach {previous : Project} {peripheralId : String}
    (hsplit : project.attachments = before ++ x :: after)
    (hunique : ∀ y ∈ before ++ after, y.id ≠ x.id)
    (h : previous.attach catalog x.id peripheralId = .ok (x, project)) :
    project.detach x.id = previous := by
  obtain ⟨_, -, -, rfl⟩ := attach_eq_ok_iff.mp h
  have hlast : previous.attachments ++ [x] = before ++ x :: after := hsplit
  -- `x` stands in one place only, and that place is the end of the list
  have hafter : after = [] := by
    by_contra hne
    have hend : (x :: after).getLast? = some x := by
      rw [← List.getLast?_append_of_ne_nil before (by simp), ← hlast, List.getLast?_concat]
    rw [List.getLast?_cons_of_ne_nil hne] at hend
    exact hunique x (List.mem_append_right _ (List.mem_of_getLast? hend)) rfl
  subst hafter
  obtain rfl : previous.attachments = before := (List.append_inj' hlast rfl).1
  have hback := attachments_detach hsplit hunique
  rw [List.append_nil] at hback
  simp only [detach] at hback ⊢
  rw [hback]

/-- Under another id the same pins are planned. -/
theorem exists_planAttachment_of_eq {board : Board} {attachments : List Attachment}
    {peripheral : Peripheral} {id : AttachmentId}
    (h : planAttachment board attachments id peripheral = .ok x) (id' : AttachmentId) :
    ∃ again, planAttachment board attachments id' peripheral = .ok again ∧
      again.pins = x.pins := by
  have hsame : RecordedWithin board attachments attachments := fun _ _ hrecorded => hrecorded
  have hpins : (planAttachment board attachments id' peripheral).map Attachment.pins =
      (planAttachment board attachments id peripheral).map Attachment.pins :=
    map_pins_planAttachment hsame hsame id' id
  rw [h] at hpins
  exact Outcome.map_eq_ok_iff.mp hpins

/-- An attachment that was wired and whose pins nobody else holds can be attached beside the
others. -/
theorem exists_attach_of_wired (project : Project) {peripheral : Peripheral} {picked : List Gpio}
    (hperipheral : catalog.peripheral? x.peripheralId = some peripheral)
    (distinct : (project.board.pins.map Pin.gpio).Nodup)
    (wired : Wired project.board x peripheral picked)
    (settled : peripheral.bus ≠ some .i2c → Settled project.board peripheral.requires picked)
    (free : peripheral.bus ≠ some .i2c → ∀ gpio ∈ x.gpios, gpio ∉ recorded project.attachments)
    (id : AttachmentId) :
    ∃ again, project.attach catalog id x.peripheralId =
        .ok (again, { project with attachments := project.attachments ++ [again] }) ∧
      PinsNoLater project.board again x := by
  let table := PinTable.replay project.board project.attachments
  have hboard : table.board = project.board := PinTable.board_replay _ _
  have hfree : peripheral.bus ≠ some .i2c → ∀ gpio ∈ picked, table.isFree gpio := by
    intro hbus gpio hgpio
    rw [PinTable.isFree_replay_iff]
    exact fun hheld => free hbus gpio (wired.mem_gpios_iff.mpr hgpio) hheld.2
  rw [← hboard] at distinct wired settled
  obtain ⟨pins, next, hpins, hranks⟩ := wired.exists_assignPins distinct settled hfree id
  have hassign := PinTable.assign_eq_ok_iff.mpr ⟨pins, hpins, rfl⟩
  refine ⟨_, attach_eq_ok_iff.mpr ⟨peripheral, hperipheral,
    planAttachment_eq_ok_iff.mpr ⟨next, hassign⟩, rfl⟩, ?_⟩
  intro i
  rw [hboard] at hranks
  rw [wired.pin?_eq]
  simpa [Attachment.pin?] using rel_getElem? hranks i

/-- In every project that edits lead to from a checked board, an attachment with an id of its own,
whose pins no other one holds or which sits on the bus, can be detached and attached again under any
id, with pins of no later rank. Right after it was attached, detaching undoes that and attaching
again gives it the same pins. -/
theorem exists_attach_detach {catalog : Catalog} (hcatalog : catalog.Reachable) {board : Board}
    (hboard : board.check = .ok ()) (seed : AttachmentId) (edits : List Edit)
    {before after : List Attachment} {x : Attachment}
    (hsplit : ((start board seed).run catalog edits).attachments = before ++ x :: after)
    (hunique : ∀ y ∈ before ++ after, y.id ≠ x.id)
    (hfree : ∀ peripheral, catalog.peripheral? x.peripheralId = some peripheral →
      peripheral.bus ≠ some .i2c → ∀ y ∈ before ++ after, ∀ gpio ∈ x.gpios, gpio ∉ y.gpios) :
    let project := (start board seed).run catalog edits
    (∀ id, ∃ again next,
      (project.detach x.id).attach catalog id x.peripheralId = .ok (again, next) ∧
        next = { project with attachments := before ++ after ++ [again] } ∧
        PinsNoLater project.board again x) ∧
      ∀ previous, previous.attach catalog x.id x.peripheralId = .ok (x, project) →
        project.detach x.id = previous ∧ ∀ id, ∃ again next,
          (project.detach x.id).attach catalog id x.peripheralId = .ok (again, next) ∧
            again.pins = x.pins := by
  intro project
  have hdistinct {b : Board} (h : b.check = .ok ()) : (b.pins.map Pin.gpio).Nodup :=
    (Board.check_eq_ok_iff.mp h).2.1
  have hboards : ∀ other, other = catalog → ∀ b ∈ other.boards, (b.pins.map Pin.gpio).Nodup := by
    rintro _ rfl b hb
    exact hdistinct (hcatalog.checked.board b hb)
  have hstart : Reached (· = catalog) board (start board seed) [] := .start seed
  obtain ⟨wired, hreached⟩ := hstart.run rfl edits
  have hmem : x ∈ wired.map Prod.fst := by
    rw [hreached.map_fst, hsplit]
    simp
  obtain ⟨⟨y, peripheral⟩, hentry, hy⟩ := List.mem_map.mp hmem
  obtain rfl : y = x := hy
  obtain ⟨_, rfl, hperipheral⟩ := hreached.exists_peripheral? _ hentry
  obtain ⟨picked, hwired, hsettled⟩ :=
    hreached.exists_settled (hdistinct hboard) hboards _ hentry
  have hdetached := attachments_detach hsplit hunique
  refine ⟨?_, ?_⟩
  · intro id
    have hothers : peripheral.bus ≠ some .i2c →
        ∀ gpio ∈ y.gpios, gpio ∉ recorded (project.detach y.id).attachments := by
      intro hbus gpio hgpio hheld
      rw [hdetached] at hheld
      obtain ⟨other, hother, hholds⟩ := mem_recorded_iff.mp hheld
      exact hfree peripheral hperipheral hbus other hother gpio hgpio hholds
    have hnow : (project.board.pins.map Pin.gpio).Nodup :=
      hreached.board (hdistinct hboard) hboards
    obtain ⟨again, hattach, hranks⟩ :=
      (project.detach y.id).exists_attach_of_wired hperipheral hnow hwired hsettled hothers id
    refine ⟨again, _, hattach, ?_, hranks⟩
    rw [hdetached]
    rfl
  · intro previous hprevious
    have hback : project.detach y.id = previous := detach_of_attach hsplit hunique hprevious
    refine ⟨hback, fun id => ?_⟩
    rw [hback]
    obtain ⟨_, hfound, hplan, -⟩ := attach_eq_ok_iff.mp hprevious
    obtain ⟨again, hagain, hpins⟩ := exists_planAttachment_of_eq hplan id
    exact ⟨again, _, attach_eq_ok_iff.mpr ⟨_, hfound, hagain, rfl⟩, hpins⟩

/-- A lamp took the pin of one that was detached, beside a lamp on the other pin. Either of the two
can go and come back while the other one stays; the one that was attached last gets its pin
again. -/
theorem exists_attach_detach_lamp :
    let project := (start Catalog.Small.twoPins ⟨0⟩).run Catalog.small
      [.attach ⟨1⟩ "lamp", .attach ⟨2⟩ "lamp", .detach ⟨1⟩, .attach ⟨3⟩ "lamp"]
    let older : Attachment := ⟨⟨2⟩, "lamp", .ofPins [5]⟩
    let newer : Attachment := ⟨⟨3⟩, "lamp", .ofPins [4]⟩
    project.attachments = [older, newer] ∧
      (∃ again next, (project.detach ⟨2⟩).attach Catalog.small ⟨4⟩ "lamp" = .ok (again, next) ∧
        next.attachments = [newer, again] ∧ PinsNoLater project.board again older) ∧
      ∃ again next, (project.detach ⟨3⟩).attach Catalog.small ⟨4⟩ "lamp" = .ok (again, next) ∧
        again.pins = newer.pins := by
  intro project older newer
  have hboard : Catalog.Small.twoPins.check = .ok () := by decide +kernel
  have holder : project.attachments = [] ++ older :: [newer] := by decide +kernel
  have hnewer : project.attachments = [older] ++ newer :: [] := by decide +kernel
  have hprevious : ((start Catalog.Small.twoPins ⟨0⟩).run Catalog.small
      [.attach ⟨1⟩ "lamp", .attach ⟨2⟩ "lamp", .detach ⟨1⟩]).attach Catalog.small ⟨3⟩ "lamp" =
        .ok (newer, project) := rfl
  obtain ⟨hagain, -⟩ := exists_attach_detach .small hboard ⟨0⟩ _ holder (by decide +kernel)
    (fun _ _ _ => by decide +kernel)
  obtain ⟨-, hundone⟩ := exists_attach_detach .small hboard ⟨0⟩ _ hnewer (by decide +kernel)
    (fun _ _ _ => by decide +kernel)
  obtain ⟨again, next, hattach, rfl, hranks⟩ := hagain ⟨4⟩
  exact ⟨holder, ⟨again, _, hattach, rfl, hranks⟩, (hundone _ hprevious).2 ⟨4⟩⟩

end SensorNode.Project
