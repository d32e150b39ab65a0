import SensorNode.Proofs.Template.SlotFree
import SensorNode.Sketch.Frame

/-!
# The text of the frame

The frame has no slot that is not filled, and what fills one stands by itself: a quote, a blank or a
line end is on both sides of it. So a filled part of the frame has slots just if what it is filled
with has some.
-/

namespace SensorNode.Sketch.Frame

open Template (SlotFree fillChars literal slot isSeparator)

variable {values : Substitutions} {rest : Template} {text : List Char}

theorem fillChars_literal_append_eq_ok_iff {s : String} :
    fillChars values (literal s ++ rest) = .ok text ↔
      ∃ later, fillChars values rest = .ok later ∧ text = s.toList ++ later := by
  have hliteral : fillChars values (literal s) = .ok s.toList := by
    rw [literal]
    induction s.toList with
    | nil => rfl
    | cons c cs ih =>
        rw [List.map_cons, Template.fillChars_char_cons_eq_ok_iff]
        exact ⟨cs, ih, rfl⟩
  rw [Template.fillChars_append_eq_ok_iff, hliteral]
  constructor
  · rintro ⟨_, later, hfirst, hlater, rfl⟩
    exact ⟨later, hlater, by rw [Except.ok.inj hfirst]⟩
  · rintro ⟨later, hlater, rfl⟩
    exact ⟨_, later, rfl, hlater, rfl⟩

/-- The characters of a line tell whether it has slots. -/
theorem slotFree_line_cons {line : List Char} {lines : List String} (hline : SlotFree line)
    (hlines : ∀ line ∈ lines, SlotFree line.toList) :
    ∀ other ∈ String.ofList line :: lines, SlotFree other.toList := by
  rw [List.forall_mem_cons, String.toList_ofList]
  exact ⟨hline, hlines⟩

/-- Lines of the frame do not add a slot. -/
theorem slotFree_block_append {lines : List String} (hlines : ∀ line ∈ lines, SlotFree line.toList)
    (h : fillChars values (block lines ++ rest) = .ok text) :
    ∃ later, fillChars values rest = .ok later ∧ (SlotFree text ↔ SlotFree later) := by
  induction lines generalizing text with
  | nil => exact ⟨text, h, .rfl⟩
  | cons line lines ih =>
      obtain ⟨hline, hrest⟩ := List.forall_mem_cons.mp hlines
      have hblock : block (line :: lines) ++ rest =
          literal (line ++ "\n") ++ (block lines ++ rest) := by
        simp [block]
      obtain ⟨middle, hmiddle, rfl⟩ := fillChars_literal_append_eq_ok_iff.mp (hblock ▸ h)
      obtain ⟨later, hlater, hiff⟩ := ih hrest hmiddle
      refine ⟨later, hlater, ?_⟩
      have htext : (line ++ "\n").toList ++ middle = line.toList ++ '\n' :: middle := by simp
      rw [htext, Template.slotFree_append_separator (by decide), ← hiff, and_iff_right hline]

/-- Nor does text without braces. -/
theorem slotFree_literal_append {cs : List Char} (hcs : '\x7b' ∉ cs)
    (h : fillChars values (literal (String.ofList cs) ++ rest) = .ok text) :
    ∃ later, fillChars values rest = .ok later ∧ (SlotFree text ↔ SlotFree later) := by
  obtain ⟨later, hlater, rfl⟩ := fillChars_literal_append_eq_ok_iff.mp h
  rw [String.toList_ofList]
  exact ⟨later, hlater, Template.slotFree_append_of_notMem hcs⟩

/-- A text without slots that has separators at both ends. -/
def keepsApart (cs : List Char) : Bool :=
  SlotFree cs && cs.head?.any isSeparator && cs.getLast?.all isSeparator

/-- What fills a slot up to a text that keeps it apart from what follows. -/
theorem slotFree_slot_append {name value : String} {cs : List Char}
    (hvalue : values.get? name = some value) (hcs : keepsApart cs = true)
    (h : fillChars values (slot name ++ (literal (String.ofList cs) ++ rest)) = .ok text) :
    ∃ later, fillChars values rest = .ok later ∧
      (SlotFree text ↔ SlotFree value.toList ∧ SlotFree later) := by
  simp only [keepsApart, Bool.and_eq_true, decide_eq_true_eq] at hcs
  obtain ⟨⟨hfree, hfirst⟩, hlast⟩ := hcs
  rw [slot, List.singleton_append, Template.fillChars_slot_cons_eq_ok_iff] at h
  obtain ⟨_, middle, hsome, hmiddle, rfl⟩ := h
  obtain rfl := Option.some.inj (hvalue.symm.trans hsome)
  obtain ⟨later, hlater, rfl⟩ := fillChars_literal_append_eq_ok_iff.mp hmiddle
  rw [String.toList_ofList]
  refine ⟨later, hlater, ?_⟩
  have hhead : ∀ c ∈ (cs ++ later).head?, isSeparator c = true := by
    cases cs with
    | nil => simp at hfirst
    | cons c cs => simpa using hfirst
  have hend : ∀ c ∈ cs.getLast?, isSeparator c = true := by
    intro c hc
    simpa [Option.mem_def.mp hc] using hlast
  rw [Template.slotFree_append_of_head hhead, Template.slotFree_append_of_getLast hend,
    and_iff_right hfree]

theorem slotFree_setup {code : String} (hcode : values.get? "MODULE_SETUP" = some code)
    (h : fillChars values setup = .ok text) : SlotFree text ↔ SlotFree code.toList := by
  rw [← List.append_nil setup] at h
  simp only [setup, List.append_assoc, String.reduceAppend] at h
  obtain ⟨_, h, hbefore⟩ := slotFree_block_append (by
    repeat refine slotFree_line_cons (by decide) ?_
    exact List.forall_mem_nil _) h
  obtain ⟨_, h, hslot⟩ := slotFree_slot_append hcode (by decide) h
  obtain ⟨_, h, hafter⟩ := slotFree_block_append (by
    repeat refine slotFree_line_cons (by decide) ?_
    exact List.forall_mem_nil _) h
  obtain rfl := Except.ok.inj h
  rw [hbefore, hslot, hafter]
  exact and_iff_left Template.slotFree_nil

theorem slotFree_loop {interval code : String}
    (hinterval : values.get? "RECONNECT_INTERVAL" = some interval)
    (hcode : values.get? "MODULE_LOOP" = some code) (h : fillChars values loop = .ok text) :
    SlotFree text ↔ SlotFree interval.toList ∧ SlotFree code.toList := by
  rw [← List.append_nil loop] at h
  simp only [loop, List.append_assoc] at h
  obtain ⟨_, h, hbefore⟩ := slotFree_block_append (by
    repeat refine slotFree_line_cons (by decide) ?_
    exact List.forall_mem_nil _) h
  obtain ⟨_, h, hcondition⟩ := slotFree_literal_append (by decide) h
  obtain ⟨_, h, hfirst⟩ := slotFree_slot_append hinterval (by decide) h
  obtain ⟨_, h, hbetween⟩ := slotFree_block_append (by
    repeat refine slotFree_line_cons (by decide) ?_
    exact List.forall_mem_nil _) h
  obtain ⟨_, h, hsecond⟩ := slotFree_slot_append hcode (by decide) h
  obtain ⟨_, h, hafter⟩ := slotFree_block_append (by
    repeat refine slotFree_line_cons (by decide) ?_
    exact List.forall_mem_nil _) h
  obtain rfl := Except.ok.inj h
  rw [hbefore, hcondition, hfirst, hbetween, hsecond, hafter]
  exact and_congr_right' (and_iff_left Template.slotFree_nil)

theorem slotFree_helpers {signature board version discovery commands : String}
    (hsignature : values.get? "SIGNATURE" = some signature)
    (hboard : values.get? "BOARD" = some board) (hversion : values.get? "VERSION" = some version)
    (hdiscovery : values.get? "DISCOVERY_MODULES" = some discovery)
    (hcommands : values.get? "COMMAND_BRANCHES" = some commands)
    (h : fillChars values helpers = .ok text) :
    SlotFree text ↔ SlotFree signature.toList ∧ SlotFree board.toList ∧ SlotFree version.toList ∧
      SlotFree discovery.toList ∧ SlotFree commands.toList := by
  rw [← List.append_nil helpers] at h
  simp only [helpers, List.append_assoc, String.reduceAppend] at h
  obtain ⟨_, h, hsend⟩ := slotFree_block_append (by
    repeat refine slotFree_line_cons (by decide) ?_
    exact List.forall_mem_nil _) h
  obtain ⟨_, h, hquote⟩ := slotFree_literal_append (by decide) h
  obtain ⟨_, h, hfirst⟩ := slotFree_slot_append hsignature (by decide) h
  obtain ⟨_, h, hdevice⟩ := slotFree_block_append (by
    repeat refine slotFree_line_cons (by decide) ?_
    exact List.forall_mem_nil _) h
  obtain ⟨_, h, hquote'⟩ := slotFree_literal_append (by decide) h
  obtain ⟨_, h, hsecond⟩ := slotFree_slot_append hboard (by decide) h
  obtain ⟨_, h, hquote''⟩ := slotFree_literal_append (by decide) h
  obtain ⟨_, h, hthird⟩ := slotFree_slot_append hversion (by decide) h
  obtain ⟨_, h, hmods⟩ := slotFree_block_append (by
    repeat refine slotFree_line_cons (by decide) ?_
    exact List.forall_mem_nil _) h
  obtain ⟨_, h, hfourth⟩ := slotFree_slot_append hdiscovery (by decide) h
  obtain ⟨_, h, hcallback⟩ := slotFree_block_append (by
    repeat refine slotFree_line_cons (by decide) ?_
    exact List.forall_mem_nil _) h
  obtain ⟨_, h, hfifth⟩ := slotFree_slot_append hcommands (by decide) h
  obtain ⟨_, h, hafter⟩ := slotFree_block_append (by
    repeat refine slotFree_line_cons (by decide) ?_
    exact List.forall_mem_nil _) h
  obtain rfl := Except.ok.inj h
  rw [hsend, hquote, hfirst, hdevice, hquote', hsecond, hquote'', hthird, hmods, hfourth,
    hcallback, hfifth, hafter]
  simp only [Template.slotFree_nil, and_true]

end SensorNode.Sketch.Frame
