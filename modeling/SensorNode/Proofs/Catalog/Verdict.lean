import SensorNode.Proofs.Sketch.Unresolved
import SensorNode.Proofs.Text.Digits

/-!
# The verdict on a peripheral

A peripheral passes its check when its id shows and every slot that can come up in a sketch has a
declared name. What can come up are its own templates, the default command if it is left to that,
and its header lines, which may hold no slot at all.

A check that fails reports the first text with a name that it may not use, and all such names of
that text.
-/

namespace SensorNode

theorem firstFault_eq_error_iff {faults : List CatalogError} {error : CatalogError} :
    firstFault faults = .error error ↔ faults.head? = some error := by
  cases faults <;> simp [firstFault]

namespace Template

/-- A slot with the name is a stretch of the text. -/
def Uses (source name : String) : Prop :=
  IsSlotName name.toList ∧ (slotText name).toList <:+: source.toList

theorem mem_placeholders_iff {source name : String} :
    name ∈ placeholders source ↔ Uses source name :=
  (listsNames_placeholders source).mem_iff name

/-- The slots of a text with names of some kind, each name once and where it first appears. -/
structure ListsNamesThat (kind : String → Prop) (source : String) (names : List String) : Prop where
  nodup : names.Nodup
  mem_iff : ∀ name, name ∈ names ↔ Uses source name ∧ kind name
  /-- Wherever a slot with a later name stands, one with the earlier name stands before it. -/
  firstSeen : names.Pairwise fun a b => ∀ token : Token, token.StandsIn source.toList →
    token.name = b →
      ∃ first : Token, first.StandsIn source.toList ∧ first.name = a ∧ first.start < token.start

variable {kind : String → Prop} {source : String} {names : List String}

theorem listsNamesThat_filter [DecidablePred kind] (source : String) :
    ListsNamesThat kind source ((placeholders source).filter kind) where
  nodup := (listsNames_placeholders source).nodup.filter _
  mem_iff name := by simp [mem_placeholders_iff]
  firstSeen := (listsNames_placeholders source).firstSeen.filter _

/-- There is one such list. -/
theorem ListsNamesThat.unique {other : List String} (h : ListsNamesThat kind source names)
    (h' : ListsNamesThat kind source other) : names = other := by
  have hperm : names.Perm other := by
    apply (List.perm_ext_iff_of_nodup h.nodup h'.nodup).mpr
    intro name
    rw [h.mem_iff, h'.mem_iff]
  apply hperm.eq_of_pairwise _ h.firstSeen h'.firstSeen
  intro a b ha _ hab hba
  -- neither of two names stands before the other everywhere
  have hnone (start : Nat) (token : Token) (htoken : token.StandsIn source.toList)
      (hname : token.name = a) (hstart : token.start = start) : False := by
    induction start using Nat.strongRecOn generalizing token with
    | ind start ih =>
      obtain ⟨first, hfirst, hfirstName, hlt⟩ := hba token htoken hname
      obtain ⟨second, hsecond, hsecondName, hlt'⟩ := hab first hfirst hfirstName
      exact ih second.start (by omega) second hsecond hsecondName rfl
  obtain ⟨token, htoken, hname⟩ := exists_standsIn_iff.mpr ((h.mem_iff a).mp ha).1
  exact (hnone token.start token htoken hname rfl).elim

end Template

namespace Peripheral

open Template (Uses ListsNamesThat)

variable {peripheral : Peripheral}

/-- A name that every attachment of the peripheral has a value for. -/
def Declares (peripheral : Peripheral) (name : String) : Prop :=
  name = "ID" ∨ name = "FIELD" ∧ peripheral.telemetryField.isSome ∨
    ∃ i < peripheral.arity, ∃ digits, Text.IsDecimal digits i ∧
      name = "PIN_" ++ String.ofList digits

theorem mem_declaredSlots_iff {name : String} :
    name ∈ peripheral.declaredSlots ↔ peripheral.Declares name := by
  have hfield : name ∈ (if peripheral.telemetryField.isSome then ["FIELD"] else []) ↔
      name = "FIELD" ∧ peripheral.telemetryField.isSome := by
    split <;> simp [*]
  have hpin : name ∈ (List.range peripheral.arity).map pinName ↔
      ∃ i < peripheral.arity, ∃ digits, Text.IsDecimal digits i ∧
        name = "PIN_" ++ String.ofList digits := by
    simp only [List.mem_map, List.mem_range, Text.isDecimal_iff, exists_eq_left,
      String.ofList_toList, pinName, eq_comm]
  rw [declaredSlots, List.mem_append, List.mem_append, List.mem_singleton, hfield, hpin, or_assoc,
    Declares]

instance (peripheral : Peripheral) : DecidablePred peripheral.Declares :=
  fun _ => decidable_of_iff _ mem_declaredSlots_iff

/-- A lamp has one pin, and its number is written in one way. -/
example : Catalog.Small.lamp.Declares "PIN_0" ∧ ¬Catalog.Small.lamp.Declares "PIN_00" ∧
    ¬Catalog.Small.lamp.Declares "PIN_1" := by
  decide +kernel

/-- A text that is looked at, and the names that it may use. -/
structure Examined where
  fragment : Fragment
  source : String
  Allows : String → Prop
  [decidable : DecidablePred Allows]

attribute [instance] Examined.decidable

/-- The texts that are looked at, in their order. The default command may use the levels, and a
header line no name at all. -/
def examined (peripheral : Peripheral) : List Examined :=
  [⟨.constructor, peripheral.constructor, peripheral.Declares⟩,
      ⟨.setup, peripheral.setup, peripheral.Declares⟩] ++
    peripheral.loop.toList.map (⟨.loop, ·, peripheral.Declares⟩) ++
    peripheral.telemetryRead.toList.map (⟨.telemetryRead, ·, peripheral.Declares⟩) ++
    peripheral.command.toList.map (⟨.command, ·, peripheral.Declares⟩) ++
    (if peripheral.topic = .command ∧ peripheral.command = none then
      [⟨.command, Sketch.switchSource,
        fun name => name = "ON" ∨ name = "OFF" ∨ peripheral.Declares name⟩]
    else []) ++
    peripheral.includes.map (⟨.includes, ·, fun _ => False⟩)

namespace Examined

/-- The names are those that the text uses and may not use. -/
def Offends (text : Examined) (names : List String) : Prop :=
  ListsNamesThat (fun name => ¬text.Allows name) text.source names

def offending (text : Examined) : List String :=
  (Template.placeholders text.source).filter fun name => ¬text.Allows name

theorem offends_iff {text : Examined} {names : List String} :
    text.Offends names ↔ names = text.offending := by
  have hoffending : text.Offends text.offending := Template.listsNamesThat_filter text.source
  constructor
  · exact fun h => h.unique hoffending
  · rintro rfl
    exact hoffending

theorem offending_eq_nil_iff {text : Examined} :
    text.offending = [] ↔ ∀ name, Uses text.source name → text.Allows name := by
  simp [offending, Template.mem_placeholders_iff]

end Examined

/-- The first of some texts that uses names that it may not use, and those names. -/
inductive FirstOffending : List Examined → Fragment → List String → Prop
  | here {text : Examined} {others : List Examined} {names : List String}
      (offends : text.Offends names) (ne_nil : names ≠ []) :
      FirstOffending (text :: others) text.fragment names
  | later {text : Examined} {others : List Examined} {fragment : Fragment} {names : List String}
      (clean : ∀ name, Uses text.source name → text.Allows name)
      (first : FirstOffending others fragment names) :
      FirstOffending (text :: others) fragment names

/-- The fault of a text, if it has one. -/
def textFaults (peripheral : Peripheral) (text : Examined) : List CatalogError :=
  peripheral.slotFaults text.fragment text.offending

theorem fragmentFaults_eq :
    peripheral.fragmentFaults =
      (peripheral.fragments.map fun entry =>
        (⟨entry.1, entry.2, peripheral.Declares⟩ : Examined)).flatMap peripheral.textFaults := by
  rw [fragmentFaults, List.flatMap_map]
  apply congrArg (List.flatMap · peripheral.fragments)
  funext entry
  apply congrArg (peripheral.slotFaults entry.1)
  apply List.filter_congr
  intro name _
  simp [mem_declaredSlots_iff]

theorem switchFaults_eq :
    peripheral.switchFaults =
      (if peripheral.topic = .command ∧ peripheral.command = none then
        [(⟨.command, Sketch.switchSource,
          fun name => name = "ON" ∨ name = "OFF" ∨ peripheral.Declares name⟩ : Examined)]
      else []).flatMap peripheral.textFaults := by
  have hcommand : (peripheral.isCommand && peripheral.command.isNone) = true ↔
      peripheral.topic = .command ∧ peripheral.command = none := by
    simp [isCommand]
  rw [switchFaults]
  by_cases h : peripheral.topic = .command ∧ peripheral.command = none
  · rw [if_pos (hcommand.mpr h), if_pos h, List.flatMap_singleton]
    apply congrArg (peripheral.slotFaults .command)
    rw [undeclared, Examined.offending, Template.placeholders, Sketch.parse_switchSource,
      List.filter_filter]
    apply List.filter_congr
    intro name _
    rw [Bool.eq_iff_iff]
    simp only [mem_declaredSlots_iff, List.mem_cons, List.not_mem_nil, or_false, not_or,
      Bool.and_eq_true, decide_eq_true_eq]
    tauto
  · rw [if_neg (mt hcommand.mp h), if_neg h, List.flatMap_nil]

theorem includeFaults_eq :
    peripheral.includeFaults =
      (peripheral.includes.map fun line =>
        (⟨.includes, line, fun _ => False⟩ : Examined)).flatMap peripheral.textFaults := by
  rw [includeFaults, List.flatMap_map]
  apply congrArg (List.flatMap · peripheral.includes)
  funext line
  have hall : (⟨.includes, line, fun _ => False⟩ : Examined).offending =
      Template.placeholders line :=
    List.filter_eq_self.mpr (by simp)
  rw [textFaults, hall]

/-- The faults are that of the id and those of the texts, in the order of the texts. -/
theorem faults_eq :
    peripheral.faults =
      idFaults .peripheral peripheral.id ++
        peripheral.examined.flatMap peripheral.textFaults := by
  rw [faults, fragmentFaults_eq, switchFaults_eq, includeFaults_eq, List.append_assoc,
    List.append_assoc, ← List.flatMap_append, ← List.flatMap_append]
  simp [examined, fragments, Function.comp_def]

/-- The first fault of some texts is that of the first text that offends. -/
theorem head?_textFaults_iff {texts : List Examined} {error : CatalogError} :
    (texts.flatMap peripheral.textFaults).head? = some error ↔
      ∃ fragment names, FirstOffending texts fragment names ∧
        error = .undeclaredSlots peripheral.id fragment names := by
  induction texts with
  | nil =>
      constructor
      · exact nofun
      · rintro ⟨_, _, hfirst, -⟩
        exact nomatch hfirst
  | cons text others ih =>
      rw [List.flatMap_cons]
      by_cases hclean : text.offending = []
      · have hfaults : peripheral.textFaults text = [] := by simp [textFaults, slotFaults, hclean]
        rw [hfaults, List.nil_append, ih]
        constructor
        · rintro ⟨fragment, names, hfirst, rfl⟩
          exact ⟨fragment, names, .later (Examined.offending_eq_nil_iff.mp hclean) hfirst, rfl⟩
        · rintro ⟨fragment, names, hfirst, rfl⟩
          cases hfirst with
          | here hoffends hne => exact absurd (Examined.offends_iff.mp hoffends ▸ hclean) hne
          | later _ hfirst => exact ⟨fragment, names, hfirst, rfl⟩
      · have hfaults : peripheral.textFaults text =
            [.undeclaredSlots peripheral.id text.fragment text.offending] := by
          simp [textFaults, slotFaults, hclean]
        rw [hfaults, List.cons_append, List.head?_cons, Option.some.injEq]
        constructor
        · rintro rfl
          exact ⟨_, _, .here (Examined.offends_iff.mpr rfl) hclean, rfl⟩
        · rintro ⟨fragment, names, hfirst, rfl⟩
          cases hfirst with
          | here hoffends _ => rw [Examined.offends_iff.mp hoffends]
          | later hnone _ => exact absurd (Examined.offending_eq_nil_iff.mpr hnone) hclean

/-- The id shows, and every slot that can come up has a declared name. -/
structure Resolvable (peripheral : Peripheral) : Prop where
  id_shows : ∃ c ∈ peripheral.id.toList, Text.isSpace c = false
  declares : ∀ source ∈ [peripheral.constructor, peripheral.setup] ++ peripheral.loop.toList ++
    peripheral.telemetryRead.toList ++ peripheral.command.toList,
    ∀ name, Uses source name → peripheral.Declares name
  /-- The default command switches the first pin. -/
  switchable : peripheral.topic = .command → peripheral.command = none → 1 ≤ peripheral.arity
  includes : ∀ line ∈ peripheral.includes, ∀ name, ¬Uses line name

/-- What is wrong with a peripheral: its id, or else the first text that offends. -/
inductive Rejected (peripheral : Peripheral) : CatalogError → Prop
  | emptyId (blank : ∀ c ∈ peripheral.id.toList, Text.isSpace c = true) :
      Rejected peripheral (.emptyId .peripheral)
  | undeclared (shows : ∃ c ∈ peripheral.id.toList, Text.isSpace c = false)
      {fragment : Fragment} {names : List String}
      (first : FirstOffending peripheral.examined fragment names) :
      Rejected peripheral (.undeclaredSlots peripheral.id fragment names)

theorem declares_pinName_zero_iff : peripheral.Declares (pinName 0) ↔ 1 ≤ peripheral.arity := by
  have hid : pinName 0 ≠ "ID" := by decide +kernel
  have hfield : pinName 0 ≠ "FIELD" := by decide +kernel
  have hpin : pinName 0 ∈ (List.range peripheral.arity).map pinName ↔ 1 ≤ peripheral.arity := by
    rw [List.mem_map]
    constructor
    · rintro ⟨i, hi, -⟩
      exact Nat.zero_lt_of_lt (List.mem_range.mp hi)
    · exact fun h => ⟨0, List.mem_range.mpr h, rfl⟩
  rw [← mem_declaredSlots_iff, declaredSlots, List.mem_append, List.mem_append, hpin]
  split <;> simp [hid, hfield]

theorem check_eq_ok_iff_resolvable : peripheral.check = .ok () ↔ peripheral.Resolvable := by
  have hslots {source name : String} :
      name ∈ (Template.parse source).slots ↔ Uses source name := by
    rw [← Template.mem_names]
    exact Template.mem_placeholders_iff
  have hnone {source : String} :
      (Template.parse source).slots = [] ↔ ∀ name, ¬Uses source name := by
    simp only [List.eq_nil_iff_forall_not_mem, hslots]
  have hsources : peripheral.fragments.map Prod.snd =
      [peripheral.constructor, peripheral.setup] ++ peripheral.loop.toList ++
        peripheral.telemetryRead.toList ++ peripheral.command.toList := by
    simp [fragments, Function.comp_def]
  rw [check_eq_ok_iff, Text.isBlank_eq_false_iff]
  simp only [hslots, hnone, mem_declaredSlots_iff, declares_pinName_zero_iff]
  constructor
  · rintro ⟨hid, hfragments, hswitch, hincludes⟩
    refine ⟨hid, ?_, fun htopic => hswitch (decide_eq_true htopic), hincludes⟩
    rw [← hsources]
    exact List.forall_mem_map.mpr hfragments
  · rintro ⟨hid, hdeclares, hswitch, hincludes⟩
    rw [← hsources] at hdeclares
    exact ⟨hid, List.forall_mem_map.mp hdeclares, fun h => hswitch (of_decide_eq_true h), hincludes⟩

theorem check_eq_error_iff_rejected {error : CatalogError} :
    peripheral.check = .error error ↔ peripheral.Rejected error := by
  have hnot (hspaces : ∀ c ∈ peripheral.id.toList, Text.isSpace c = true)
      (hshows : ∃ c ∈ peripheral.id.toList, Text.isSpace c = false) : False := by
    obtain ⟨c, hc, hshows⟩ := hshows
    exact Bool.false_ne_true (hshows.symm.trans (hspaces c hc))
  rw [check, firstFault_eq_error_iff, faults_eq]
  cases hblank : Text.isBlank peripheral.id with
  | true =>
      have hspaces : ∀ c ∈ peripheral.id.toList, Text.isSpace c = true := List.all_eq_true.mp hblank
      rw [idFaults, if_pos hblank, List.cons_append, List.head?_cons, Option.some.injEq]
      constructor
      · rintro rfl
        exact .emptyId hspaces
      · intro hrejected
        cases hrejected with
        | emptyId => rfl
        | undeclared hshows _ => exact (hnot hspaces hshows).elim
  | false =>
      have hshows := Text.isBlank_eq_false_iff.mp hblank
      rw [idFaults, hblank, if_neg Bool.false_ne_true, List.nil_append, head?_textFaults_iff]
      constructor
      · rintro ⟨fragment, names, hfirst, rfl⟩
        exact .undeclared hshows hfirst
      · intro hrejected
        cases hrejected with
        | emptyId hspaces => exact (hnot hspaces hshows).elim
        | undeclared _ hfirst => exact ⟨_, _, hfirst, rfl⟩

/-- What a check of a peripheral comes to. -/
structure ChecksExactly (peripheral : Peripheral) : Prop where
  ok_iff : peripheral.check = .ok () ↔ peripheral.Resolvable
  error_iff : ∀ error, peripheral.check = .error error ↔ peripheral.Rejected error

/-- The peripherals that pass are the resolvable ones, and any other one gets the first fault. -/
theorem checksExactly (peripheral : Peripheral) : ChecksExactly peripheral where
  ok_iff := check_eq_ok_iff_resolvable
  error_iff _ := check_eq_error_iff_rejected

end Peripheral

end SensorNode
