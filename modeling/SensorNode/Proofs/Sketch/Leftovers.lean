import Mathlib.Tactic.SplitIfs
import SensorNode.Proofs.Sketch.FrameText
import SensorNode.Proofs.Sketch.Rendered
import SensorNode.Proofs.Text.Digits

/-!
# Slots that are left in a sketch

A filled fragment is not searched again, and what is not a fragment is copied as it stands. So a
sketch can hold slots that nothing will ever fill: in the settings, in the names and ids of
peripherals, and in fragments that come out with one, since a slot can be put together from the text
around another slot and its value. There is no other way: the code around these texts keeps them
apart and has no slots of its own.
-/

namespace SensorNode.Sketch

open Template (SlotFree)

/-- A character is kept or, if it is a separator, gives way to a backslash and text without
braces. -/
theorem Literal.escapeChar_cases (c : Char) :
    Literal.escapeChar c = [c] ∨ Template.isSeparator c = true ∧
      ∃ cs, Literal.escapeChar c = '\\' :: cs ∧ '\x7b' ∉ cs := by
  unfold escapeChar
  split_ifs with h h h h h h
  · subst h; exact .inr ⟨by decide, _, rfl, by decide⟩
  · subst h; exact .inr ⟨by decide, _, rfl, by decide⟩
  · subst h; exact .inr ⟨by decide, _, rfl, by decide⟩
  · subst h; exact .inr ⟨by decide, _, rfl, by decide⟩
  · subst h; exact .inr ⟨by decide, _, rfl, by decide⟩
  · refine .inr ⟨Template.isSeparator_of_control h, _, rfl, fun hbrace => ?_⟩
    obtain ⟨d, hd, heq⟩ := Text.mem_fixedDigits (by decide) hbrace
    have hdigits : ∀ d < 8, '\x7b' ≠ Nat.digitChar d := by decide
    exact hdigits d hd heq
  · exact .inl rfl

theorem slotFree_append_escapeChars_iff {a cs : List Char} :
    SlotFree (a ++ Literal.escapeChars cs) ↔ SlotFree (a ++ cs) := by
  induction cs generalizing a with
  | nil => rfl
  | cons c cs ih =>
      have hcons : Literal.escapeChars (c :: cs) =
          Literal.escapeChar c ++ Literal.escapeChars cs := rfl
      rw [hcons]
      rcases Literal.escapeChar_cases c with hkept | ⟨hc, escape, hescape, hbrace⟩
      · have hnext := ih (a := a ++ [c])
        rw [List.append_assoc, List.append_assoc] at hnext
        rwa [hkept]
      · have hrest : SlotFree (escape ++ Literal.escapeChars cs) ↔ SlotFree cs :=
          (Template.slotFree_append_of_notMem hbrace).trans (ih (a := []))
        rw [hescape, List.cons_append, Template.slotFree_append_separator (by decide), hrest,
          Template.slotFree_append_separator hc]

/-- Quoting a text neither makes a slot nor breaks one. -/
theorem slotFree_escape_iff {s : String} :
    SlotFree (Literal.escape s).toList ↔ SlotFree s.toList := by
  rw [Literal.escape, String.toList_ofList]
  exact slotFree_append_escapeChars_iff (a := [])

/-- A quoted text is kept apart from what follows by its closing quote. -/
theorem slotFree_quote_append_iff {s : String} {cs : List Char} :
    SlotFree ((Literal.quote s).toList ++ cs) ↔ SlotFree s.toList ∧ SlotFree cs := by
  have hquote : (Literal.quote s).toList ++ cs =
      ['"'] ++ ((Literal.escape s).toList ++ '"' :: cs) := by
    simp [Literal.escape]
  rw [hquote, Template.slotFree_append_of_notMem (by decide),
    Template.slotFree_append_separator (by decide), slotFree_escape_iff]

theorem slotFree_textConstant_iff {name value : String} (hname : '\x7b' ∉ name.toList) :
    SlotFree (textConstant name value).toList ↔ SlotFree value.toList := by
  have hstart : '\x7b' ∉ ("const char* " ++ name ++ " = ").toList := by simp [hname]
  have htext : textConstant name value =
      "const char* " ++ name ++ " = " ++ Literal.quote value ++ ";" := rfl
  rw [htext, String.append_assoc, String.toList_append,
    Template.slotFree_append_of_notMem hstart, String.toList_append, slotFree_quote_append_iff]
  exact and_iff_left (by rw [String.toList_ofList]; decide)

theorem brace_notMem_toString (n : Nat) : '\x7b' ∉ (toString n).toList := by
  intro h
  exact absurd (Text.isDigit_of_mem_toString h) (by decide)

section

variable {peripheral : Peripheral} {code : String}

/-- Code below a comment with the name of a peripheral. -/
theorem slotFree_commented_iff {label : String} (hlabel : '\x7b' ∉ label.toList) :
    SlotFree (label ++ peripheral.name ++ "\n" ++ Text.indent 2 code).toList ↔
      SlotFree peripheral.name.toList ∧ SlotFree code.toList := by
  have hblock : (label ++ peripheral.name ++ "\n" ++ Text.indent 2 code).toList =
      label.toList ++ (peripheral.name.toList ++ '\n' :: (Text.indent 2 code).toList) := by
    simp
  rw [hblock, Template.slotFree_append_of_notMem hlabel,
    Template.slotFree_append_separator (by decide), Template.slotFree_indent_iff]

theorem slotFree_setupBlock_iff :
    SlotFree (setupBlock peripheral code).toList ↔
      SlotFree peripheral.name.toList ∧ SlotFree code.toList :=
  slotFree_commented_iff (by simp)

theorem slotFree_loopBlock_iff :
    SlotFree (loopBlock peripheral code).toList ↔
      SlotFree peripheral.name.toList ∧ SlotFree code.toList :=
  slotFree_commented_iff (by simp)

theorem slotFree_telemetryBlock_iff {shortId : String} (hid : '\x7b' ∉ shortId.toList) :
    SlotFree (telemetryBlock peripheral shortId code).toList ↔
      SlotFree peripheral.name.toList ∧ SlotFree code.toList := by
  have hname : SlotFree ("  // Telemetry " ++ peripheral.name).toList ↔
      SlotFree peripheral.name.toList := by
    rw [String.toList_append, Template.slotFree_append_of_notMem (by simp)]
  have hdeclaration : SlotFree ("  static unsigned long " ++ ("last_" ++ shortId) ++
      " = 0;").toList :=
    Template.slotFree_of_notMem (by simp [hid])
  have hcondition : SlotFree ("  if (millis() - " ++ ("last_" ++ shortId) ++ " > " ++
      toString Frame.telemetryInterval ++ ") \x7b").toList := by
    have hinterval := brace_notMem_toString Frame.telemetryInterval
    have hbefore : '\x7b' ∉ ("  if (millis() - " ++ ("last_" ++ shortId) ++ " > " ++
        toString Frame.telemetryInterval).toList := by
      simp only [String.toList_append, List.mem_append, hid, hinterval, or_false]
      simp
    rw [String.toList_append, Template.slotFree_append_of_notMem hbefore, String.toList_ofList]
    decide
  have hlast : SlotFree ("    " ++ ("last_" ++ shortId) ++ " = millis();").toList :=
    Template.slotFree_of_notMem (by simp [hid])
  have hend : SlotFree "  \x7d".toList := by
    rw [String.toList_ofList]; decide
  simp only [telemetryBlock, Template.slotFree_join_iff, List.forall_mem_cons, hname,
    hdeclaration, hcondition, hlast, hend, List.not_mem_nil, false_implies, implies_true,
    true_and, and_true]

theorem slotFree_commandBlock_iff :
    SlotFree (commandBlock peripheral code).toList ↔
      (SlotFree peripheral.id.toList ∧ SlotFree (commandName peripheral).toList) ∧
        SlotFree code.toList := by
  have hcondition : SlotFree ("    if (mod == " ++ Literal.quote peripheral.id ++ " || mod == " ++
      Literal.quote (commandName peripheral) ++ ") \x7b").toList ↔
        SlotFree peripheral.id.toList ∧ SlotFree (commandName peripheral).toList := by
    have hline : ("    if (mod == " ++ Literal.quote peripheral.id ++ " || mod == " ++
        Literal.quote (commandName peripheral) ++ ") \x7b").toList =
          "    if (mod == ".toList ++ ((Literal.quote peripheral.id).toList ++
            (" || mod == ".toList ++ ((Literal.quote (commandName peripheral)).toList ++
              ") \x7b".toList))) := by
      simp
    rw [hline, Template.slotFree_append_of_notMem (by simp), slotFree_quote_append_iff,
      Template.slotFree_append_of_notMem (by simp), slotFree_quote_append_iff]
    exact and_congr_right' (and_iff_left (by rw [String.toList_ofList]; decide))
  have hacknowledgement : SlotFree Frame.acknowledgement.toList := by
    rw [Frame.acknowledgement, String.toList_ofList]; decide
  have hend : SlotFree "    \x7d".toList := by
    rw [String.toList_ofList]; decide
  simp only [commandBlock, Template.slotFree_join_iff, List.forall_mem_cons, hcondition,
    Template.slotFree_indent_iff, hacknowledgement, hend, List.not_mem_nil, false_implies,
    implies_true, and_true]

end

/-- The texts that a contribution puts into a sketch. -/
def Contribution.texts (contribution : Contribution) : List String :=
  contribution.peripheralId :: contribution.constructor :: contribution.includes ++
    contribution.setup.toList ++ contribution.loop.toList ++ contribution.telemetry.toList ++
    contribution.command.toList

/-- The texts of the settings that a sketch quotes. -/
def quotedSettings (boardId : String) (network : Network) (identity : Option String) :
    List String :=
  [boardId, network.ssid, network.password, network.broker, network.deviceId] ++ identity.toList

namespace Sections

section

variable {mcu : Mcu} {network : Network} {identity : Option String}
  {contributions : List Contribution}

theorem slotFree_discoveryLines_iff {sections : Sections} :
    SlotFree sections.discoveryLines.toList ↔ ∀ id ∈ sections.discovery, SlotFree id.toList := by
  have hline (id : String) : SlotFree ("  mods.add(" ++ Literal.quote id ++ ");").toList ↔
      SlotFree id.toList := by
    rw [String.append_assoc, String.toList_append,
      Template.slotFree_append_of_notMem (by simp), String.toList_append,
      slotFree_quote_append_iff]
    exact and_iff_left (by rw [String.toList_ofList]; decide)
  rw [discoveryLines]
  split
  · next hempty =>
    have hnone : SlotFree "  // no modules".toList := by
      rw [String.toList_ofList]; decide
    rw [List.isEmpty_iff.mp hempty]
    exact iff_of_true hnone (List.forall_mem_nil _)
  · simp only [Template.slotFree_join_iff, List.forall_mem_map, hline]

theorem slotFree_commandBranches_iff {sections : Sections} :
    SlotFree sections.commandBranches.toList ↔
      ∀ block ∈ sections.commands, SlotFree block.toList := by
  rw [commandBranches]
  split
  · next hempty =>
    have hnone : SlotFree "    // no command modules".toList := by
      rw [String.toList_ofList]; decide
    rw [List.isEmpty_iff.mp hempty]
    exact iff_of_true hnone (List.forall_mem_nil _)
  · exact Template.slotFree_join_iff

theorem slotFree_helpers_iff {boardId text : String} {sections : Sections}
    (h : sections.helpers boardId = .ok text) :
    SlotFree text.toList ↔ SlotFree boardId.toList ∧
      (∀ id ∈ sections.discovery, SlotFree id.toList) ∧
      ∀ block ∈ sections.commands, SlotFree block.toList := by
  rw [helpers, fillPart, Outcome.mapError_eq_ok_iff, Template.fill_eq_ok_iff] at h
  have hsignature : SlotFree Frame.signature.toList := by
    rw [Frame.signature, String.toList_ofList]; decide
  have hversion : SlotFree Frame.firmwareVersion.toList := by
    rw [Frame.firmwareVersion, String.toList_ofList]; decide
  rw [Frame.slotFree_helpers (by rfl) (by rfl) (by rfl) (by rfl) (by rfl) h, slotFree_escape_iff,
    slotFree_discoveryLines_iff, slotFree_commandBranches_iff, and_iff_right hsignature,
    and_iff_right hversion]

theorem slotFree_setup_iff {text : String} {sections : Sections} (h : sections.setup = .ok text) :
    SlotFree text.toList ↔ ∀ block ∈ sections.setups, SlotFree block.toList := by
  rw [setup, fillPart, Outcome.mapError_eq_ok_iff, Template.fill_eq_ok_iff] at h
  rw [Frame.slotFree_setup (by rfl) h, Template.slotFree_join_iff]

theorem slotFree_loop_iff {text : String} {sections : Sections} (h : sections.loop = .ok text) :
    SlotFree text.toList ↔ ∀ block ∈ sections.loops, SlotFree block.toList := by
  rw [loop, fillPart, Outcome.mapError_eq_ok_iff, Template.fill_eq_ok_iff] at h
  have hinterval : SlotFree (toString Frame.reconnectInterval).toList :=
    Template.slotFree_of_notMem (brace_notMem_toString _)
  rw [Frame.slotFree_loop (by rfl) (by rfl) h, Template.slotFree_join_iff,
    and_iff_right hinterval]

theorem slotFree_announcedIdentity_iff :
    SlotFree (announcedIdentity identity).toList ↔ ∀ token ∈ identity, SlotFree token.toList := by
  have hunregistered : SlotFree Identity.unregistered.toList := by
    rw [Identity.unregistered, String.toList_ofList]; decide
  cases identity with
  | none => exact iff_of_true hunregistered (by simp)
  | some token =>
      cases hempty : token.isEmpty with
      | true =>
          have htoken : token = "" := String.isEmpty_iff.mp hempty
          have hannounced : announcedIdentity (some token) = Identity.unregistered := by
            simp [announcedIdentity, Option.filter_some, hempty]
          rw [hannounced]
          exact iff_of_true hunregistered (by simp [htoken])
      | false => simp [announcedIdentity, Option.filter_some, hempty]

/-- The constants of the settings. -/
theorem slotFree_settings_iff :
    (∀ line ∈ credentials network ++ fixedGlobals network identity, SlotFree line.toList) ↔
      SlotFree network.ssid.toList ∧ SlotFree network.password.toList ∧
        SlotFree network.broker.toList ∧ SlotFree network.deviceId.toList ∧
        ∀ token ∈ identity, SlotFree token.toList := by
  have hwifi : SlotFree "WiFiClient espClient;".toList := by
    rw [String.toList_ofList]; decide
  have hclient : SlotFree "PubSubClient client(espClient);".toList := by
    rw [String.toList_ofList]; decide
  have hport :
      SlotFree ("const int mqtt_port = " ++ toString network.port.toNat ++ ";").toList := by
    apply Template.slotFree_of_notMem
    simp only [String.toList_append, List.mem_append, brace_notMem_toString, or_false]
    simp
  have hidentity : SlotFree (textConstant "ghost_identity" (announcedIdentity identity) ++
      " // Signed Identity").toList ↔ ∀ token ∈ identity, SlotFree token.toList := by
    have hhead : ∀ c ∈ " // Signed Identity".toList.head?, Template.isSeparator c = true := by
      intro c hc
      obtain rfl : ' ' = c := by simpa using hc
      decide
    rw [String.toList_append, Template.slotFree_append_of_head hhead,
      slotFree_textConstant_iff (by simp), slotFree_announcedIdentity_iff]
    exact and_iff_left (by rw [String.toList_ofList]; decide)
  have hconstant (name : String) (hname : '\x7b' ∉ name.toList) (value : String) :
      SlotFree (textConstant name value).toList ↔ SlotFree value.toList :=
    slotFree_textConstant_iff hname
  simp only [credentials, fixedGlobals, List.cons_append, List.nil_append, List.forall_mem_cons,
    hwifi, hclient, hport, hidentity, true_and, List.not_mem_nil, false_implies, implies_true,
    and_true, hconstant "ssid" (by simp), hconstant "password" (by simp),
    hconstant "mqtt_server" (by simp), hconstant "device_id" (by simp)]

/-- A sketch holds a slot just if a quoted setting or a text of a contribution does. -/
theorem slotFree_source_iff {boardId text : String}
    (h : (collect mcu network identity contributions).source boardId network = .ok text) :
    SlotFree text.toList ↔
      (∀ setting ∈ quotedSettings boardId network identity, SlotFree setting.toList) ∧
        ∀ contribution ∈ contributions, ∀ part ∈ contribution.texts, SlotFree part.toList := by
  simp only [source, Outcome.bind_eq_ok_iff] at h
  obtain ⟨helpers, hhelpers, setup, hsetup, loop, hloop, h⟩ := h
  obtain rfl := Except.ok.inj h
  have hbanner : SlotFree Frame.banner.toList := by
    rw [Frame.banner, String.toList_ofList]; decide
  have harduino : SlotFree "#include <Arduino.h>".toList := by
    rw [String.toList_ofList]; decide
  have hempty : SlotFree "".toList := by decide
  have hincludes : ∀ line ∈ fixedIncludes mcu, SlotFree line.toList := by
    cases mcu <;> simp only [fixedIncludes, Frame.coreIncludes, Frame.esp32Includes,
      Frame.esp8266Includes, List.cons_append, List.nil_append]
    all_goals
      repeat refine Frame.slotFree_line_cons (by decide) ?_
      exact List.forall_mem_nil _
  have hnil : ∀ line ∈ ([] : List String), SlotFree line.toList := List.forall_mem_nil _
  have hsettings := @slotFree_settings_iff network identity
  rw [List.forall_mem_append] at hsettings
  have hquoted : (∀ setting ∈ quotedSettings boardId network identity, SlotFree setting.toList) ↔
      SlotFree boardId.toList ∧ (∀ line ∈ credentials network, SlotFree line.toList) ∧
        ∀ line ∈ fixedGlobals network identity, SlotFree line.toList := by
    simp only [quotedSettings, List.cons_append, List.nil_append, List.forall_mem_cons,
      Option.mem_toList, hsettings, Option.mem_def]
  have hdistinct (lines : List String) : (∀ line ∈ distinct lines, SlotFree line.toList) ↔
      ∀ line ∈ lines, SlotFree line.toList := by
    simp only [mem_distinct]
  have htexts (contribution : Contribution) :
      (∀ part ∈ contribution.texts, SlotFree part.toList) ↔
        SlotFree contribution.peripheralId.toList ∧ SlotFree contribution.constructor.toList ∧
        (∀ line ∈ contribution.includes, SlotFree line.toList) ∧
        (∀ block ∈ contribution.setup, SlotFree block.toList) ∧
        (∀ block ∈ contribution.loop, SlotFree block.toList) ∧
        (∀ block ∈ contribution.telemetry, SlotFree block.toList) ∧
        ∀ block ∈ contribution.command, SlotFree block.toList := by
    simp only [Contribution.texts, List.cons_append, List.forall_mem_cons, List.forall_mem_append,
      Option.mem_toList, Option.mem_def, and_assoc]
  rw [Template.slotFree_join_iff]
  simp only [List.forall_mem_append, List.forall_mem_cons, slotFree_helpers_iff hhelpers,
    slotFree_setup_iff hsetup, slotFree_loop_iff hloop, hbanner, harduino, hempty]
  simp only [collect, hdistinct, List.forall_mem_append, List.forall_mem_map,
    List.forall_mem_flatMap, List.forall_mem_filterMap, Option.mem_toList, Option.mem_def, htexts,
    forall_and, hquoted, eq_true hincludes, eq_true hnil, true_and, and_true]
  constructor
  · rintro ⟨⟨⟨lines, constants⟩, globals, constructors⟩, ⟨board, ids, commands⟩, setups, loops,
      measurements⟩
    exact ⟨⟨board, constants, globals⟩, ids, constructors, lines, setups, loops, measurements,
      commands⟩
  · rintro ⟨⟨board, constants, globals⟩, ids, constructors, lines, setups, loops, measurements,
      commands⟩
    exact ⟨⟨⟨lines, constants⟩, globals, constructors⟩, ⟨board, ids, commands⟩, setups, loops,
      measurements⟩

end

end Sections

end SensorNode.Sketch
