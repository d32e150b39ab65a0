import SensorNode.Proofs.Outcome
import SensorNode.Proofs.PinTable.Reservations
import Mathlib.Data.List.Forall2

/-!
# Assigning pins

What a new attachment gets from a pin table. A pick for a series of capabilities hands out free pins
of the board, each once and each with the capability it was picked for; a shared bus hands out its
pins whatever the table holds. Either way the pins that are handed out are the only ones that become
taken.

The pins that are handed out, and the capability for which none is left, depend on which pins are
free and on nothing else: neither on who holds the others nor on the id of the attachment.
-/

namespace SensorNode

namespace Board

variable {board : Board}

/-- A pin is on the board and has a capability. -/
def Provides (board : Board) (capability : Capability) (gpio : Gpio) : Prop :=
  ∃ pin ∈ board.pins, pin.gpio = gpio ∧ pin.can capability

theorem has_of_provides {capabilities : List Capability} {picked : List Gpio}
    (h : List.Forall₂ board.Provides capabilities picked) {gpio : Gpio} (hgpio : gpio ∈ picked) :
    board.has gpio := by
  obtain ⟨i, hi, rfl⟩ := List.mem_iff_getElem.mp hgpio
  obtain ⟨pin, hpin, hgpio, -⟩ := h.get (h.length_eq ▸ hi) hi
  exact has_iff.mpr ⟨pin, hpin, hgpio⟩

end Board

namespace PinTable

variable {table next : PinTable} {owner : AttachmentId} {capability : Capability}
  {preferSafe : Bool}

theorem mem_safeFirst_iff {pins : List Pin} {pin : Pin} : pin ∈ safeFirst pins ↔ pin ∈ pins := by
  simp only [safeFirst, List.mem_append, List.mem_filter]
  cases pin.restricted <;> simp

theorem mem_available_iff {pin : Pin} :
    pin ∈ table.available capability ↔
      pin ∈ table.board.pins ∧ table.isFree pin.gpio ∧ pin.can capability := by
  simp [available]

theorem mem_candidates_iff {pin : Pin} :
    pin ∈ table.candidates capability preferSafe ↔
      pin ∈ table.board.pins ∧ table.isFree pin.gpio ∧ pin.can capability := by
  cases preferSafe <;> simp [candidates, mem_safeFirst_iff, mem_available_iff]

theorem allocate?_eq_some_iff {gpio : Gpio} :
    table.allocate? owner capability preferSafe = some (gpio, next) ↔
      ∃ pin, (table.candidates capability preferSafe).head? = some pin ∧ pin.gpio = gpio ∧
        table.hold pin.gpio ⟨owner, capability.tag⟩ = next := by
  simp [allocate?]

/-- A pin that is picked is a free one of the board with the capability, and only it is taken. -/
theorem of_allocate? {gpio : Gpio}
    (h : table.allocate? owner capability preferSafe = some (gpio, next)) :
    table.isFree gpio ∧ table.board.Provides capability gpio ∧ next.board = table.board ∧
      ∀ g, next.isFree g ↔ table.isFree g ∧ g ≠ gpio := by
  obtain ⟨pin, hhead, rfl, rfl⟩ := allocate?_eq_some_iff.mp h
  obtain ⟨hpin, hfree, hcan⟩ := mem_candidates_iff.mp (List.mem_of_head? hhead)
  exact ⟨hfree, ⟨pin, hpin, rfl, hcan⟩, rfl, fun g => isFree_hold_iff⟩

theorem pick_cons_eq_ok_iff {rest : List Capability} {picked : List Gpio} :
    pick owner (capability :: rest) table = .ok (picked, next) ↔
      ∃ gpio middle later, table.allocate? owner capability true = some (gpio, middle) ∧
        pick owner rest middle = .ok (later, next) ∧ picked = gpio :: later := by
  rw [pick]
  cases table.allocate? owner capability true with
  | none => simp
  | some allocated =>
      simp only [Outcome.map_eq_ok_iff, Prod.exists, Prod.mk.injEq, Option.some.injEq]
      constructor
      · rintro ⟨later, last, hlater, rfl, rfl⟩
        exact ⟨allocated.1, allocated.2, later, rfl, hlater, rfl⟩
      · rintro ⟨gpio, middle, later, rfl, hlater, rfl⟩
        exact ⟨later, next, hlater, rfl, rfl⟩

theorem pick_cons_eq_error_iff {rest : List Capability} {missing : Capability} :
    pick owner (capability :: rest) table = .error missing ↔
      (table.allocate? owner capability true = none ∧ missing = capability) ∨
        ∃ gpio middle, table.allocate? owner capability true = some (gpio, middle) ∧
          pick owner rest middle = .error missing := by
  rw [pick]
  cases table.allocate? owner capability true with
  | none => simp [eq_comm]
  | some allocated => simp [Outcome.map_eq_error_iff, Prod.ext_iff]

/-- What a table hands out for a series of capabilities. -/
structure Served (table : PinTable) (capabilities : List Capability) (picked : List Gpio)
    (next : PinTable) : Prop where
  board_eq : next.board = table.board
  nodup : picked.Nodup
  isFree : ∀ gpio ∈ picked, table.isFree gpio
  provided : List.Forall₂ table.board.Provides capabilities picked
  isFree_next_iff : ∀ gpio, next.isFree gpio ↔ table.isFree gpio ∧ gpio ∉ picked

theorem served_of_pick {capabilities : List Capability} {picked : List Gpio}
    (h : pick owner capabilities table = .ok (picked, next)) :
    Served table capabilities picked next := by
  induction capabilities generalizing table picked with
  | nil =>
      obtain ⟨rfl, rfl⟩ : [] = picked ∧ table = next := by simpa [pick] using h
      exact ⟨rfl, .nil, by simp, .nil, by simp⟩
  | cons capability rest ih =>
      obtain ⟨gpio, middle, later, hgpio, hlater, rfl⟩ := pick_cons_eq_ok_iff.mp h
      obtain ⟨hfree, hcan, hboard, hmiddle⟩ := of_allocate? hgpio
      have served := ih hlater
      refine ⟨served.board_eq.trans hboard, ?_, ?_, ?_, ?_⟩
      · apply List.nodup_cons.mpr
        refine ⟨?_, served.nodup⟩
        intro hmem
        exact ((hmiddle gpio).mp (served.isFree gpio hmem)).2 rfl
      · intro g hg
        rcases List.mem_cons.mp hg with rfl | hg
        · exact hfree
        · exact ((hmiddle g).mp (served.isFree g hg)).1
      · exact .cons hcan (hboard ▸ served.provided)
      · intro g
        rw [served.isFree_next_iff, hmiddle, List.mem_cons, not_or, and_assoc]

variable {id : AttachmentId} {peripheral : Peripheral}

/-- A peripheral on the shared bus gets the bus pins, any other one a pin per capability. -/
theorem assignPins_eq_ok_iff {picked : List Gpio} :
    table.assignPins id peripheral = .ok (picked, next) ↔
      (peripheral.bus = some .i2c ∧ picked = [table.board.i2c.sda, table.board.i2c.scl] ∧
        next = table.share id .i2c picked) ∨
      (peripheral.bus ≠ some .i2c ∧ pick id peripheral.requires table = .ok (picked, next)) := by
  unfold assignPins
  by_cases hbus : peripheral.bus = some .i2c
  · simp only [hbus, ↓reduceIte, Board.sharedBus?, Except.ok.injEq, Prod.mk.injEq, true_and,
      not_true, false_and, or_false, ne_eq]
    constructor
    · rintro ⟨rfl, rfl⟩
      exact ⟨rfl, rfl⟩
    · rintro ⟨rfl, rfl⟩
      exact ⟨rfl, rfl⟩
  · simp [hbus, Outcome.mapError_eq_ok_iff]

theorem assignPins_eq_error_iff {error : AllocationError} :
    table.assignPins id peripheral = .error error ↔
      peripheral.bus ≠ some .i2c ∧ ∃ capability,
        pick id peripheral.requires table = .error capability ∧
          error = .exhausted peripheral.id capability := by
  unfold assignPins
  by_cases hbus : peripheral.bus = some .i2c
  · simp [hbus, Board.sharedBus?]
  · simp only [hbus, ↓reduceIte, Outcome.mapError_eq_error_iff, ne_eq, not_false_eq_true, true_and]
    exact exists_congr fun _ => and_congr_right fun _ => eq_comm

/-- The pins of a new attachment that are on the board become taken, and no others. -/
theorem isFree_of_assignPins {picked : List Gpio}
    (h : table.assignPins id peripheral = .ok (picked, next)) :
    next.board = table.board ∧
      ∀ g, next.isFree g ↔ table.isFree g ∧ ¬(table.board.has g ∧ g ∈ picked) := by
  rcases assignPins_eq_ok_iff.mp h with ⟨-, hpicked, rfl⟩ | ⟨-, hpick⟩
  · rw [share_eq_reserveAll]
    refine ⟨board_reserveAll _ _, ?_⟩
    intro g
    rw [isFree_reserveAll_iff, List.map_map]
    simp [Function.comp_def]
  · have served := served_of_pick hpick
    have hboard {g : Gpio} : g ∈ picked ↔ table.board.has g ∧ g ∈ picked :=
      ⟨fun hg => ⟨Board.has_of_provides served.provided hg, hg⟩, And.right⟩
    refine ⟨served.board_eq, ?_⟩
    intro g
    rw [served.isFree_next_iff, ← hboard]

theorem assign_eq_ok_iff {attachment : Attachment} :
    table.assign id peripheral = .ok (attachment, next) ↔
      ∃ picked, table.assignPins id peripheral = .ok (picked, next) ∧
        attachment = ⟨id, peripheral.id, .ofPins picked⟩ := by
  simp only [assign, Outcome.map_eq_ok_iff, Prod.exists, Prod.mk.injEq]
  constructor
  · rintro ⟨picked, last, h, rfl, rfl⟩
    exact ⟨picked, h, rfl⟩
  · rintro ⟨picked, h, rfl⟩
    exact ⟨picked, next, h, rfl, rfl⟩

theorem isFree_of_assign {attachment : Attachment}
    (h : table.assign id peripheral = .ok (attachment, next)) :
    next.board = table.board ∧
      ∀ g, next.isFree g ↔ table.isFree g ∧ ¬(table.board.has g ∧ g ∈ attachment.gpios) := by
  obtain ⟨picked, hpicked, rfl⟩ := assign_eq_ok_iff.mp h
  obtain ⟨hboard, hfree⟩ := isFree_of_assignPins hpicked
  refine ⟨hboard, ?_⟩
  intro g
  rw [hfree, Attachment.mem_gpios_ofPins]

/-- Tables of one board on which the same pins are free, whoever holds the others. -/
structure SameFree (t u : PinTable) : Prop where
  board_eq : t.board = u.board
  isFree_eq : ∀ gpio, t.isFree gpio = u.isFree gpio

namespace SameFree

variable {t u : PinTable}

theorem candidates_eq (h : SameFree t u) (capability : Capability) (preferSafe : Bool) :
    t.candidates capability preferSafe = u.candidates capability preferSafe := by
  have havailable : t.available capability = u.available capability := by
    simp [available, h.board_eq, h.isFree_eq]
  simp [candidates, havailable]

theorem hold (h : SameFree t u) (gpio : Gpio) (a b : Holder) :
    SameFree (t.hold gpio a) (u.hold gpio b) := by
  refine ⟨h.board_eq, fun g => Bool.eq_iff_iff.mpr ?_⟩
  rw [isFree_hold_iff, isFree_hold_iff, h.isFree_eq]

theorem pick_eq (h : SameFree t u) (a b : AttachmentId) (capabilities : List Capability) :
    (pick a capabilities t).map Prod.fst = (pick b capabilities u).map Prod.fst := by
  induction capabilities generalizing t u with
  | nil => rfl
  | cons capability rest ih =>
      simp only [pick, allocate?, h.candidates_eq capability true]
      cases (u.candidates capability true).head? with
      | none => rfl
      | some pin =>
          have hrest := ih (h.hold pin.gpio ⟨a, capability.tag⟩ ⟨b, capability.tag⟩)
          simpa [Outcome.map_map, Function.comp_def] using
            congrArg (Except.map (pin.gpio :: ·)) hrest

/-- The same pins are handed out, or the same capability is missing. -/
theorem assignPins_eq (h : SameFree t u) (a b : AttachmentId) (peripheral : Peripheral) :
    (t.assignPins a peripheral).map Prod.fst = (u.assignPins b peripheral).map Prod.fst := by
  unfold assignPins
  by_cases hbus : peripheral.bus = some .i2c
  · simp [hbus, h.board_eq, Board.sharedBus?, Except.map]
  · have hpick := h.pick_eq a b peripheral.requires
    revert hpick
    cases pick a peripheral.requires t <;> cases pick b peripheral.requires u <;>
      simp [hbus, Except.map]

theorem assign_eq (h : SameFree t u) (id : AttachmentId) (peripheral : Peripheral) :
    (t.assign id peripheral).map Prod.fst = (u.assign id peripheral).map Prod.fst := by
  simpa [assign, Outcome.map_map, Function.comp_def] using
    congrArg (Except.map fun pins => Attachment.mk id peripheral.id (.ofPins pins))
      (h.assignPins_eq id id peripheral)

end SameFree

end PinTable

end SensorNode
