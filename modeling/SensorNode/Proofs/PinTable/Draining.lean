import SensorNode.Proofs.PinTable.Greedy
import SensorNode.Proofs.Project.Edits

/-!
# Draining a table

One pin after the other is picked for the same capability, by whatever owners. A pick removes its
pin from the candidates and keeps the order of the others, for on a board with distinct pins no
other candidate goes by the same number. So all the picks together go through the candidates of the
table at the start, and each pick after the last candidate finds nothing and changes nothing.

A peripheral that needs the same capability several times drains its table as far as that.
-/

namespace SensorNode.PinTable

variable {table : PinTable} {capability : Capability} {preferSafe : Bool}

/-- A list in which no pin without restriction follows a restricted one. -/
theorem eq_safeFirst_of_pairwise {pins : List Pin}
    (h : pins.Pairwise fun a b => !a.restricted || b.restricted) : pins = safeFirst pins := by
  induction pins with
  | nil => rfl
  | cons pin rest ih =>
      obtain ⟨hpin, hrest⟩ := List.pairwise_cons.mp h
      cases hrestricted : pin.restricted with
      | false => simpa [safeFirst, hrestricted] using ih hrest
      | true =>
          have hall : ∀ other ∈ rest, other.restricted := by simpa [hrestricted] using hpin
          have hnone : rest.filter (!·.restricted) = [] := by
            simpa [List.filter_eq_nil_iff] using hall
          simp [safeFirst, hrestricted, hnone, List.filter_eq_self.mpr hall]

/-- Precedence is the stable sort by whether a pin is restricted. -/
theorem safeFirst_eq_mergeSort (pins : List Pin) :
    safeFirst pins = pins.mergeSort fun a b => !a.restricted || b.restricted := by
  have htrans (a b c : Pin) : (!a.restricted || b.restricted) → (!b.restricted || c.restricted) →
      (!a.restricted || c.restricted) := by
    cases a.restricted <;> cases b.restricted <;> simp
  have htotal (a b : Pin) :
      ((!a.restricted || b.restricted) || (!b.restricted || a.restricted)) = true := by
    cases a.restricted <;> simp
  -- the pins of a kind are in order as they stand, so sorting keeps them as they stand
  have hkind (keep : Pin → Bool)
      (hsame : ∀ a b, keep a → keep b → (!a.restricted || b.restricted) = true) :
      pins.filter keep =
        (pins.mergeSort fun a b => !a.restricted || b.restricted).filter keep := by
    have hpairs : (pins.filter keep).Pairwise fun a b => !a.restricted || b.restricted := by
      apply List.pairwise_of_forall_mem_list
      intro a ha b hb
      exact hsame a b (List.mem_filter.mp ha).2 (List.mem_filter.mp hb).2
    have hsublist := List.sublist_mergeSort htrans htotal hpairs List.filter_sublist
    have hperm := (List.mergeSort_perm pins fun a b => !a.restricted || b.restricted).filter keep
    apply List.Sublist.eq_of_length _ hperm.length_eq.symm
    simpa [List.filter_filter] using hsublist.filter keep
  have hsorted := List.pairwise_mergeSort htrans htotal pins
  calc
    safeFirst pins = safeFirst (pins.mergeSort fun a b => !a.restricted || b.restricted) := by
      rw [safeFirst, safeFirst, hkind (!·.restricted) (by simp +contextual),
        hkind (·.restricted) (by simp +contextual)]
    _ = pins.mergeSort fun a b => !a.restricted || b.restricted :=
      (eq_safeFirst_of_pairwise hsorted).symm

theorem candidates_hold (table : PinTable) (gpio : Gpio) (holder : Holder)
    (capability : Capability) (preferSafe : Bool) :
    (table.hold gpio holder).candidates capability preferSafe =
      (table.candidates capability preferSafe).filter fun pin => pin.gpio ≠ gpio := by
  have havailable : (table.hold gpio holder).available capability =
      (table.available capability).filter fun pin => pin.gpio ≠ gpio := by
    rw [available, available, List.filter_filter, board_hold]
    apply List.filter_congr
    intro pin _
    rw [Bool.eq_iff_iff, Bool.and_eq_true, isFree_hold_iff]
    simp only [Bool.and_eq_true, decide_eq_true_eq]
    tauto
  cases preferSafe with
  | false => simpa [candidates] using havailable
  | true =>
      simp only [candidates, ↓reduceIte, safeFirst, havailable, List.filter_append,
        List.filter_filter, Bool.and_comm]

theorem perm_candidates (table : PinTable) (capability : Capability) (preferSafe : Bool) :
    (table.candidates capability preferSafe).Perm (table.available capability) := by
  cases preferSafe with
  | false => exact .refl _
  | true =>
      rw [candidates, if_pos rfl, safeFirst_eq_mergeSort]
      exact List.mergeSort_perm _ _

theorem nodup_candidates (distinct : (table.board.pins.map Pin.gpio).Nodup) :
    ((table.candidates capability preferSafe).map Pin.gpio).Nodup := by
  rw [((table.perm_candidates capability preferSafe).map Pin.gpio).nodup_iff]
  exact distinct.sublist (List.filter_sublist.map Pin.gpio)

/-- A pick without candidates. -/
theorem serve_allocate_of_nil (h : table.candidates capability preferSafe = [])
    (owner : AttachmentId) :
    table.serve (.allocate owner capability preferSafe) = (.picked none, table) := by
  simp [serve, allocate?, h]

/-- A pick takes the first candidate and leaves the others as they are. -/
theorem serve_allocate_of_cons (distinct : (table.board.pins.map Pin.gpio).Nodup) {pin : Pin}
    {rest : List Pin} (h : table.candidates capability preferSafe = pin :: rest)
    (owner : AttachmentId) :
    table.serve (.allocate owner capability preferSafe) =
        (.picked (some pin.gpio), table.hold pin.gpio ⟨owner, capability.tag⟩) ∧
      (table.hold pin.gpio ⟨owner, capability.tag⟩).candidates capability preferSafe = rest := by
  refine ⟨by simp [serve, allocate?, h], ?_⟩
  have hnodup : ((table.candidates capability preferSafe).map Pin.gpio).Nodup :=
    nodup_candidates distinct
  rw [h, List.map_cons, List.nodup_cons] at hnodup
  rw [candidates_hold, h, List.filter_cons_of_neg (by simp), List.filter_eq_self]
  intro other hother
  have hne : other.gpio ≠ pin.gpio := fun heq => hnodup.1 (heq ▸ List.mem_map_of_mem hother)
  simpa using hne

/-- The answers to a history of requests. -/
def answers (table : PinTable) : List Request → List Answer
  | [] => []
  | request :: rest => (table.serve request).1 :: (table.serve request).2.answers rest

/-- A pick for the same capability by each of the owners. -/
def drain (capability : Capability) (preferSafe : Bool) (owners : List AttachmentId) :
    List Request :=
  owners.map fun owner => .allocate owner capability preferSafe

theorem drain_cons (owner : AttachmentId) (rest : List AttachmentId) :
    drain capability preferSafe (owner :: rest) =
      .allocate owner capability preferSafe :: drain capability preferSafe rest := rfl

theorem run_drain_of_nil (h : table.candidates capability preferSafe = [])
    (owners : List AttachmentId) : table.run (drain capability preferSafe owners) = table := by
  induction owners with
  | nil => rfl
  | cons owner rest ih =>
      rw [drain_cons, run_cons, serve_allocate_of_nil h]
      exact ih

/-- Picks in a row go through the candidates and then find nothing. -/
theorem answers_drain (distinct : (table.board.pins.map Pin.gpio).Nodup)
    (owners : List AttachmentId) :
    table.answers (drain capability preferSafe owners) =
      ((table.candidates capability preferSafe).take owners.length).map
          (fun pin => .picked (some pin.gpio)) ++
        List.replicate (owners.length - (table.candidates capability preferSafe).length)
          (.picked none) := by
  induction owners generalizing table with
  | nil => simp [drain, answers]
  | cons owner rest ih =>
      rw [drain_cons, answers]
      cases hcandidates : table.candidates capability preferSafe with
      | nil =>
          rw [serve_allocate_of_nil hcandidates]
          have hrest := ih distinct
          rw [hcandidates] at hrest
          simpa [List.replicate_succ] using hrest
      | cons pin later =>
          obtain ⟨hserve, hlater⟩ := serve_allocate_of_cons distinct hcandidates owner
          have hrest := @ih (table.hold pin.gpio ⟨owner, capability.tag⟩) distinct
          rw [hlater] at hrest
          rw [hserve]
          simpa using hrest

theorem candidates_run_drain (distinct : (table.board.pins.map Pin.gpio).Nodup)
    (owners : List AttachmentId) :
    (table.run (drain capability preferSafe owners)).candidates capability preferSafe =
      (table.candidates capability preferSafe).drop owners.length := by
  induction owners generalizing table with
  | nil => rfl
  | cons owner rest ih =>
      rw [drain_cons, run_cons]
      cases hcandidates : table.candidates capability preferSafe with
      | nil =>
          rw [serve_allocate_of_nil hcandidates]
          simpa [hcandidates] using ih distinct
      | cons pin later =>
          obtain ⟨hserve, hlater⟩ := serve_allocate_of_cons distinct hcandidates owner
          have hrest := @ih (table.hold pin.gpio ⟨owner, capability.tag⟩) distinct
          rw [hlater] at hrest
          rw [hserve]
          exact hrest

/-- Nothing changes once the candidates are used up. -/
theorem run_drain_append (distinct : (table.board.pins.map Pin.gpio).Nodup)
    {owners : List AttachmentId} (h : (table.available capability).length ≤ owners.length)
    (more : List AttachmentId) :
    table.run (drain capability preferSafe (owners ++ more)) =
      table.run (drain capability preferSafe owners) := by
  have hused :
      (table.run (drain capability preferSafe owners)).candidates capability preferSafe = [] := by
    rw [candidates_run_drain distinct, List.drop_eq_nil_iff, (table.perm_candidates _ _).length_eq]
    exact h
  calc
    table.run (drain capability preferSafe (owners ++ more))
        = (table.run (drain capability preferSafe owners)).run
            (drain capability preferSafe more) := by
          simp [run, drain, List.foldl_append]
    _ = table.run (drain capability preferSafe owners) := run_drain_of_nil hused more

variable {owner : AttachmentId} {peripheral : Peripheral}

theorem exists_pick_replicate_iff (distinct : (table.board.pins.map Pin.gpio).Nodup) (n : Nat) :
    (∃ served, pick owner (List.replicate n capability) table = .ok served) ↔
      n ≤ (table.candidates capability true).length := by
  induction n generalizing table with
  | zero => simp [pick]
  | succ n ih =>
      rw [List.replicate_succ]
      cases hcandidates : table.candidates capability true with
      | nil => simp [pick, allocate?, hcandidates]
      | cons pin later =>
          have hlater := (serve_allocate_of_cons distinct hcandidates owner).2
          have hrest := @ih (table.hold pin.gpio ⟨owner, capability.tag⟩) distinct
          rw [hlater] at hrest
          rw [List.length_cons, Nat.succ_le_succ_iff, ← hrest]
          simp only [pick, allocate?, hcandidates, List.head?_cons, Option.map_some,
            Outcome.map_eq_ok_iff]
          constructor
          · rintro ⟨_, served, hserved, -⟩
            exact ⟨served, hserved⟩
          · rintro ⟨served, hserved⟩
            exact ⟨_, served, hserved, rfl⟩

/-- As many pins are needed as there are capabilities. -/
theorem exists_assign_replicate_iff (distinct : (table.board.pins.map Pin.gpio).Nodup)
    (id : AttachmentId) {n : Nat} (hbus : peripheral.bus ≠ some .i2c)
    (hrequires : peripheral.requires = List.replicate n capability) :
    (∃ assigned, table.assign id peripheral = .ok assigned) ↔
      n ≤ (table.available capability).length := by
  calc
    (∃ assigned, table.assign id peripheral = .ok assigned) ↔
        ∃ served, pick id peripheral.requires table = .ok served := by
      simp only [Prod.exists, assign_eq_ok_iff, assignPins_eq_ok_iff, hbus, false_and, false_or,
        ne_eq, not_false_eq_true, true_and]
      constructor
      · rintro ⟨_, next, picked, hpick, -⟩
        exact ⟨picked, next, hpick⟩
      · rintro ⟨picked, next, hpick⟩
        exact ⟨_, next, picked, hpick, rfl⟩
    _ ↔ n ≤ (table.candidates capability true).length := by
      rw [hrequires]
      exact exists_pick_replicate_iff distinct n
    _ ↔ n ≤ (table.available capability).length := by
      rw [(table.perm_candidates capability true).length_eq]

/-- The free pins with a capability that are restricted, or those that are not, in board order. -/
def waiting (table : PinTable) (capability : Capability) (restricted : Bool) : List Gpio :=
  ((table.available capability).filter fun pin => pin.restricted = restricted).map Pin.gpio

/-- What comes of picking for the same capability again and again. -/
structure Drains (table : PinTable) (capability : Capability) : Prop where
  /-- First every pin without restriction, then every restricted one, then nothing for ever. -/
  safe : ∀ owners : List AttachmentId, table.answers (drain capability true owners) =
    ((table.waiting capability false ++ table.waiting capability true).take owners.length).map
        (fun gpio => .picked (some gpio)) ++
      List.replicate (owners.length - (table.available capability).length) (.picked none)
  /-- This is the order of a stable sort. -/
  sorted : table.waiting capability false ++ table.waiting capability true =
    ((table.available capability).mergeSort fun a b => a.restricted ≤ b.restricted).map Pin.gpio
  plain : ∀ owners : List AttachmentId, table.answers (drain capability false owners) =
    (((table.available capability).map Pin.gpio).take owners.length).map
        (fun gpio => .picked (some gpio)) ++
      List.replicate (owners.length - (table.available capability).length) (.picked none)
  nodup : ((table.available capability).map Pin.gpio).Nodup
  unchanged : ∀ (preferSafe : Bool) (owners more : List AttachmentId),
    (table.available capability).length ≤ owners.length →
      table.run (drain capability preferSafe (owners ++ more)) =
        table.run (drain capability preferSafe owners)
  assigned_iff : ∀ (id : AttachmentId) (peripheral : Peripheral) (n : Nat),
    peripheral.bus ≠ some .i2c → peripheral.requires = List.replicate n capability →
      ((∃ assigned, table.assign id peripheral = .ok assigned) ↔
        n ≤ (table.available capability).length)

theorem map_candidates_eq_waiting (table : PinTable) (capability : Capability) :
    (table.candidates capability true).map Pin.gpio =
      table.waiting capability false ++ table.waiting capability true := by
  simp [candidates, safeFirst, waiting]

theorem drains (distinct : (table.board.pins.map Pin.gpio).Nodup) (capability : Capability) :
    Drains table capability where
  safe owners := by
    rw [answers_drain distinct, ← map_candidates_eq_waiting, ← List.map_take, List.map_map,
      (table.perm_candidates capability true).length_eq]
    rfl
  sorted := by
    rw [← map_candidates_eq_waiting, candidates, if_pos rfl, safeFirst_eq_mergeSort]
    congr 2
    funext a b
    cases a.restricted <;> cases b.restricted <;> rfl
  plain owners := by
    rw [answers_drain distinct, ← List.map_take, List.map_map]
    rfl
  nodup := @nodup_candidates table capability false distinct
  unchanged _ _ more h := run_drain_append distinct h more
  assigned_iff id _ _ := exists_assign_replicate_iff distinct id

/-- On a board with distinct pins every table is drained in order, whatever it holds, and a project
takes one more attachment that needs a capability several times if as many pins are left. -/
theorem drains_of_nodup {board : Board} (distinct : (board.pins.map Pin.gpio).Nodup)
    (capability : Capability) :
    (∀ table : PinTable, table.board = board → Drains table capability) ∧
      ∀ (catalog : Catalog) (project : Project) (id : AttachmentId) (peripheralId : String)
        (peripheral : Peripheral) (n : Nat), project.board = board →
        catalog.peripheral? peripheralId = some peripheral → peripheral.bus ≠ some .i2c →
        peripheral.requires = List.replicate n capability →
          ((∃ attached, project.attach catalog id peripheralId = .ok attached) ↔
            n ≤ (project.pinTable.available capability).length) := by
  constructor
  · rintro table rfl
    exact drains distinct capability
  · rintro catalog project id peripheralId peripheral n rfl hperipheral hbus hrequires
    have hboard : project.pinTable.board = project.board := board_replay _ _
    rw [← hboard] at distinct
    rw [← exists_assign_replicate_iff distinct id hbus hrequires]
    simp only [Prod.exists, Project.attach_eq_ok_iff, planAttachment_eq_ok_iff, hperipheral]
    constructor
    · rintro ⟨attachment, _, _, ⟨⟩, hassign, -⟩
      exact ⟨attachment, hassign⟩
    · rintro ⟨attachment, hassign⟩
      exact ⟨attachment, _, peripheral, rfl, hassign, rfl⟩

namespace Small

def relays : Peripheral where
  id := "relays"
  name := "Two Relays"
  category := .actuator
  requires := [.digitalOut, .digitalOut]
  constructor := "Relays relays;"

def withRelays : Catalog := ⟨[threePins], [relays], [], List.cons_ne_nil _ _⟩

/-- One of the three pins is taken. -/
def lampAttached : Project :=
  ⟨threePins, [⟨⟨1⟩, "lamp", .ofPins [1]⟩], .default ⟨0⟩, none⟩

end Small

/-- The restricted pin is declared first and picked last, and two pins do for two relays. -/
theorem drains_threePins :
    (Small.threePins.pins.map Pin.gpio).Nodup ∧
      (start Small.threePins).answers (drain .digitalOut true [⟨1⟩, ⟨2⟩, ⟨1⟩, ⟨3⟩]) =
        [.picked (some 1), .picked (some 2), .picked (some 0), .picked none] ∧
      (start Small.threePins).answers (drain .digitalOut false [⟨1⟩, ⟨2⟩, ⟨1⟩, ⟨3⟩]) =
        [.picked (some 0), .picked (some 1), .picked (some 2), .picked none] ∧
      ∃ attached, Small.lampAttached.attach Small.withRelays ⟨2⟩ "relays" = .ok attached := by
  have distinct : (Small.threePins.pins.map Pin.gpio).Nodup := by decide
  obtain ⟨hdrains, hattached⟩ := drains_of_nodup distinct .digitalOut
  have drains : Drains (start Small.threePins) .digitalOut := hdrains _ rfl
  refine ⟨distinct, ?_, ?_, ?_⟩
  · exact drains.safe _
  · exact drains.plain _
  · have hperipheral : Small.withRelays.peripheral? "relays" = some Small.relays := by decide
    exact (hattached _ Small.lampAttached ⟨2⟩ _ _ 2 rfl hperipheral (by decide) rfl).mpr
      (by decide +kernel)

end SensorNode.PinTable
