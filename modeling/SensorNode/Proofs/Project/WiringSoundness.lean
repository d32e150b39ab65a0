import SensorNode.Proofs.Project.Reached

/-!
# Soundness of the wiring

On a checked board every reached project is wired as its peripherals ask for: each attachment
records exactly the names it needs, every recorded pin is on the board and carries the capability it
was picked for, and only the pins of the shared bus are recorded twice.

A bus peripheral takes the bus pins without asking whether they are free, so they may belong to an
attachment before it. Nothing that comes later can take them from it but another bus peripheral.
-/

namespace SensorNode

/-- The wiring of attachments, each given with the peripheral it was made for, in their order. -/
structure WiringSound (board : Board) (wired : List (Attachment × Peripheral)) : Prop where
  names : ∀ entry ∈ wired, ∀ name,
    name ∈ entry.1.pins.keys ↔ ∃ i < entry.2.arity, name = pinName i
  onBoard : ∀ entry ∈ wired, ∀ gpio ∈ entry.1.gpios, board.has gpio
  capable : ∀ entry ∈ wired, entry.2.bus ≠ some .i2c →
    ∀ i capability, entry.2.requires[i]? = some capability →
      ∃ gpio pin, entry.1.pin? i = some gpio ∧ board.pin? gpio = some pin ∧ pin.can capability
  busPins : ∀ entry ∈ wired, entry.2.bus = some .i2c →
    entry.1.pin? 0 = some board.i2c.sda ∧ entry.1.pin? 1 = some board.i2c.scl
  /-- A slot is a position in the list with a name; the later of two that record one pin sits on
  the bus. -/
  shared : ∀ (i j : Nat) (a b : Attachment × Peripheral) (name name' : String) (gpio : Gpio),
    wired[i]? = some a → wired[j]? = some b →
    a.1.pins.get? name = some gpio → b.1.pins.get? name' = some gpio →
    i ≤ j → (i, name) ≠ (j, name') → board.OnBus gpio ∧ b.2.bus = some .i2c
  apart : ∀ (i j : Nat) (a b : Attachment × Peripheral), i ≠ j →
    wired[i]? = some a → wired[j]? = some b → a.2.bus ≠ some .i2c → b.2.bus ≠ some .i2c →
    ∀ gpio ∈ a.1.gpios, gpio ∉ b.1.gpios

/-- Sharing only the bus, said of slots. -/
theorem onBus_of_shared {board : Board} {wired : List (Attachment × Peripheral)}
    (heach : ∀ entry ∈ wired, ∃ picked, Wired board entry.1 entry.2 picked)
    (hpairs : wired.Pairwise (SharesOnlyBus board)) {i j : Nat} {a b : Attachment × Peripheral}
    {name name' : String} {gpio : Gpio} (ha : wired[i]? = some a) (hb : wired[j]? = some b)
    (hname : a.1.pins.get? name = some gpio) (hname' : b.1.pins.get? name' = some gpio)
    (hij : i ≤ j) (hne : (i, name) ≠ (j, name')) : board.OnBus gpio ∧ b.2.bus = some .i2c := by
  obtain ⟨hi, rfl⟩ := List.getElem?_eq_some_iff.mp ha
  obtain ⟨hj, rfl⟩ := List.getElem?_eq_some_iff.mp hb
  rcases Nat.lt_or_eq_of_le hij with hlt | rfl
  · exact List.pairwise_iff_getElem.mp hpairs i j hi hj hlt gpio
      (Attachment.mem_gpios_iff.mpr ⟨name, hname⟩) (Attachment.mem_gpios_iff.mpr ⟨name', hname'⟩)
  · obtain ⟨picked, hwired⟩ := heach _ (List.getElem_mem hi)
    exact hwired.bus_of_repeated hname hname' fun h => hne (by rw [h])

namespace Project

/-- Every project that edits lead to from a checked board is soundly wired. -/
theorem wiringSound_of_reached {board : Board} {project : Project}
    {wired : List (Attachment × Peripheral)} (hboard : board.check = .ok ())
    (h : Reached Catalog.Reachable board project wired) :
    wired.map Prod.fst = project.attachments ∧ WiringSound project.board wired := by
  have hchecked : project.board.check = .ok () :=
    h.board hboard fun _ hcatalog => hcatalog.checked.board
  obtain ⟨-, hdistinct, hsda, hscl⟩ := Board.check_eq_ok_iff.mp hchecked
  have heach := h.exists_wired
  have hpairs := h.pairwise_sharesOnlyBus
  refine ⟨h.map_fst, ?_, ?_, ?_, ?_, ?_, ?_⟩
  · intro entry hentry name
    obtain ⟨picked, hwired⟩ := heach entry hentry
    exact hwired.mem_keys_iff
  · intro entry hentry gpio hgpio
    obtain ⟨picked, hwired⟩ := heach entry hentry
    exact hwired.has_of_mem hsda hscl (hwired.mem_gpios_iff.mp hgpio)
  · intro entry hentry hbus i capability hcapability
    obtain ⟨picked, hwired⟩ := heach entry hentry
    exact hwired.exists_pin hdistinct hbus hcapability
  · intro entry hentry hbus
    obtain ⟨picked, hwired⟩ := heach entry hentry
    simp [hwired.pin?_eq, hwired.bus_eq hbus]
  · intro i j a b name name' gpio ha hb hname hname' hij hne
    exact onBus_of_shared heach hpairs ha hb hname hname' hij hne
  · intro i j a b hij ha hb habus hbbus gpio hagpio hbgpio
    obtain ⟨name, hname⟩ := Attachment.mem_gpios_iff.mp hagpio
    obtain ⟨name', hname'⟩ := Attachment.mem_gpios_iff.mp hbgpio
    rcases Nat.lt_or_gt_of_ne hij with hlt | hlt
    · have hne : (i, name) ≠ (j, name') := fun heq => hij (congrArg Prod.fst heq)
      exact hbbus (onBus_of_shared heach hpairs ha hb hname hname' (Nat.le_of_lt hlt) hne).2
    · have hne : (j, name') ≠ (i, name) := fun heq => hij (congrArg Prod.fst heq).symm
      exact habus (onBus_of_shared heach hpairs hb ha hname' hname (Nat.le_of_lt hlt) hne).2

/-- The lamp takes the first pin of the bus, and the clock then shares it. -/
theorem wiringSound_lamp_clock :
    WiringSound Catalog.Small.twoPins
      [(⟨⟨1⟩, "lamp", .ofPins [4]⟩, Catalog.Small.lamp),
        (⟨⟨2⟩, "clock", .ofPins [4, 5]⟩, Catalog.Small.clock)] := by
  let fresh : Project := start Catalog.Small.twoPins ⟨0⟩
  let first : Attachment := ⟨⟨1⟩, "lamp", .ofPins [4]⟩
  let second : Attachment := ⟨⟨2⟩, "clock", .ofPins [4, 5]⟩
  let lit : Project := { fresh with attachments := [first] }
  have hlamp : fresh.attach Catalog.small ⟨1⟩ "lamp" = .ok (first, lit) := by decide +kernel
  have hclock : lit.attach Catalog.small ⟨2⟩ "clock" =
      .ok (second, { fresh with attachments := [first, second] }) := by
    decide +kernel
  have hreached : Reached Catalog.Reachable Catalog.Small.twoPins lit
      [(first, Catalog.Small.lamp)] :=
    .attach (.start ⟨0⟩) .small (by decide +kernel) hlamp
  exact (wiringSound_of_reached (by decide +kernel)
    (.attach hreached .small (by decide +kernel) hclock)).2

end Project

end SensorNode
