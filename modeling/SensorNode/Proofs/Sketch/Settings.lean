import SensorNode.Proofs.Catalog.Checked
import SensorNode.Proofs.Distinct
import SensorNode.Proofs.Sketch.Literals
import SensorNode.Proofs.Sketch.Rendered
import SensorNode.Proofs.Text.Splitting

/-!
# Settings in a sketch

The settings of the network and the token stand in ten lines between the headers and the globals of
the attachments. Each text stands there as one literal that C reads as the text itself, so whatever
the settings hold, a sketch of the same attachments tells them apart.
-/

namespace SensorNode.Sketch

/-- A line declares a text constant: it holds no control character, and C reads the literal in it
as the value and goes on behind the closing quote, whatever stands there. -/
def DeclaresText (name value ending line : String) : Prop :=
  ∃ literal, line = "const char* " ++ name ++ " = " ++ literal ++ ending ∧
    Literal.Plain line.toList ∧
    ∀ rest, Literal.read? (literal.toList ++ rest) = some (value.toList, rest)

/-- The ten lines of the settings. -/
def HoldSettings (network : Network) (announced : String) (lines : List String) : Prop :=
  ∃ ssid password broker device identity,
    DeclaresText "ssid" network.ssid ";" ssid ∧
    DeclaresText "password" network.password ";" password ∧
    DeclaresText "mqtt_server" network.broker ";" broker ∧
    DeclaresText "device_id" network.deviceId ";" device ∧
    DeclaresText "ghost_identity" announced "; // Signed Identity" identity ∧
    lines =
      ["", ssid, password, "", "WiFiClient espClient;", "PubSubClient client(espClient);", broker,
        "const int mqtt_port = " ++ toString network.port.toNat ++ ";", device, identity]

theorem DeclaresText.of_quote {name ending : String}
    (hname : Literal.Plain name.toList) (hending : Literal.Plain ending.toList) (value : String) :
    DeclaresText name value ending
      ("const char* " ++ name ++ " = " ++ Literal.quote value ++ ending) := by
  refine ⟨Literal.quote value, rfl, ?_, Literal.read?_quote_append value⟩
  have hstart : Literal.Plain "const char* ".toList := by decide
  have hequals : Literal.Plain " = ".toList := by decide
  have hquote : Literal.Plain (Literal.quote value).toList := Literal.plain_quote value
  simp only [String.toList_append, Literal.Plain, List.forall_mem_append]
  exact ⟨⟨⟨⟨hstart, hname⟩, hequals⟩, hquote⟩, hending⟩

theorem DeclaresText.newline_notMem {name value ending line : String}
    (h : DeclaresText name value ending line) : '\n' ∉ line.toList := by
  obtain ⟨-, -, hcontrol, -⟩ := h
  exact fun hmem => hcontrol _ hmem (by decide)

/-- A line declares one text. -/
theorem DeclaresText.value_eq {name value other ending line : String}
    (h : DeclaresText name value ending line) (h' : DeclaresText name other ending line) :
    value = other := by
  obtain ⟨literal, rfl, -, hread⟩ := h
  obtain ⟨literal', heq, -, hread'⟩ := h'
  have hliteral : literal.toList = literal'.toList := by
    simpa [String.toList_append] using congrArg String.toList heq
  have hsome := (hread []).symm.trans (hliteral ▸ hread' [])
  exact String.toList_inj.mp (congrArg Prod.fst (Option.some.inj hsome))

section

variable {network other : Network} {announced announced' : String} {lines : List String}

theorem HoldSettings.length_eq (h : HoldSettings network announced lines) : lines.length = 10 := by
  obtain ⟨_, _, _, _, _, -, -, -, -, -, rfl⟩ := h
  rfl

theorem HoldSettings.newline_notMem (h : HoldSettings network announced lines) :
    ∀ line ∈ lines, '\n' ∉ line.toList := by
  obtain ⟨ssid, password, broker, device, identity, hssid, hpassword, hbroker, hdevice, hidentity,
    rfl⟩ := h
  have hdigits : '\n' ∉ (toString network.port.toNat).toList :=
    fun h => absurd (Text.isDigit_of_mem_toString h) (by decide)
  have hport : '\n' ∉
      ("const int mqtt_port = " ++ toString network.port.toNat ++ ";").toList := by
    simp only [String.toList_append, List.mem_append, hdigits, or_false]
    decide
  simp only [List.forall_mem_cons, hssid.newline_notMem, hpassword.newline_notMem,
    hbroker.newline_notMem, hdevice.newline_notMem, hidentity.newline_notMem, hport]
  decide

/-- The lines tell all settings. -/
theorem HoldSettings.eq (h : HoldSettings network announced lines)
    (h' : HoldSettings other announced' lines) : network = other ∧ announced = announced' := by
  obtain ⟨ssid, password, broker, device, identity, hssid, hpassword, hbroker, hdevice, hidentity,
    rfl⟩ := h
  obtain ⟨_, _, _, _, _, hssid', hpassword', hbroker', hdevice', hidentity', heq⟩ := h'
  simp only [List.cons.injEq, and_true, true_and] at heq
  obtain ⟨rfl, rfl, rfl, hport, rfl, rfl⟩ := heq
  have hport : network.port = other.port := by
    apply UInt16.toNat_inj.mp
    apply Text.eq_of_toString_eq
    simpa [← String.toList_inj, String.toList_append] using hport
  refine ⟨?_, hidentity.value_eq hidentity'⟩
  cases network
  cases other
  simp only [Network.mk.injEq]
  exact ⟨hssid.value_eq hssid', hpassword.value_eq hpassword', hbroker.value_eq hbroker', hport,
    hdevice.value_eq hdevice'⟩

end

/-- The lines before the settings. -/
def includeBlock (catalog : Catalog) (board : Board) (attachments : List Attachment) :
    List String :=
  [Frame.banner, "#include <Arduino.h>"] ++
    distinct (fixedIncludes board.mcu ++
      (catalog.known attachments).flatMap fun attached => Contribution.headerLines attached.2)

def settings (network : Network) (identity : Option String) : List String :=
  [""] ++ credentials network ++ [""] ++ fixedGlobals network identity

/-- A global that an attachment supplies. -/
def Supplies (attachment : Attachment) (peripheral : Peripheral) (global : String) : Prop :=
  (Template.parse peripheral.constructor).fill (slotValues attachment peripheral) = .ok global

section

variable {catalog : Catalog} {board : Board} {attachments : List Attachment} {network : Network}
  {identity : Option String} {source : String}

theorem holdSettings_settings :
    HoldSettings network (announcedIdentity identity) (settings network identity) :=
  ⟨_, _, _, _, _, .of_quote (by decide) (by decide) _, .of_quote (by decide) (by decide) _,
    .of_quote (by decide) (by decide) _, .of_quote (by decide) (by decide) _,
    .of_quote (by decide) (by decide) _, by
      simp [settings, credentials, fixedGlobals, textConstant, String.append_assoc]⟩

/-- No fixed global is lost as a repetition of another. -/
theorem nodup_fixedGlobals : (fixedGlobals network identity).Nodup := by
  simp [fixedGlobals, textConstant, ← String.toList_inj, String.toList_append]

theorem Contribution.constructor_of_ofAttachment {attachment : Attachment}
    {peripheral : Peripheral} {contribution : Contribution}
    (h : ofAttachment attachment peripheral = .ok contribution) :
    Supplies attachment peripheral contribution.constructor := by
  simp only [ofAttachment, Outcome.bind_eq_ok_iff, Outcome.mapError_eq_ok_iff] at h
  obtain ⟨constructor, hconstructor, _, _, _, _, _, _, _, _, h⟩ := h
  obtain rfl := Except.ok.inj h
  exact hconstructor

/-- The settings stand behind the headers, the globals of the attachments behind the settings. -/
theorem exists_lines_of_render
    (h : render catalog board attachments network identity = .ok source) :
    ∃ globals frame,
      source = Text.join "\n" (includeBlock catalog board attachments ++
        settings network identity ++ globals ++ "" :: frame) ∧
      ∀ global, global ∈ globals ↔ global ∉ fixedGlobals network identity ∧
        ∃ attached ∈ catalog.known attachments, Supplies attached.1 attached.2 global := by
  obtain ⟨contributions, hcontributions, h⟩ := Outcome.bind_eq_ok_iff.mp h
  simp only [Sections.source, Outcome.bind_eq_ok_iff] at h
  obtain ⟨helpers, -, setup, -, loop, -, h⟩ := h
  obtain rfl := Except.ok.inj h
  have hincludes : contributions.flatMap Contribution.includes =
      (catalog.known attachments).flatMap fun attached =>
        Contribution.headerLines attached.2 := by
    simp only [List.flatMap_def]
    rw [Outcome.map_eq_map_of_mapM hcontributions fun attached _ contribution hcontribution =>
      (Contribution.rendered_of_ofAttachment hcontribution).includes_eq]
  let constructors := distinct (contributions.map Contribution.constructor)
  refine ⟨constructors.filter fun global => global ∉ fixedGlobals network identity,
    [helpers, setup, loop], ?_, fun global => ?_⟩
  · simp only [Sections.collect, distinct_append_of_nodup nodup_fixedGlobals, hincludes,
      includeBlock, settings, constructors]
    simp
  · have hsupplied : global ∈ contributions.map Contribution.constructor ↔
        ∃ attached ∈ catalog.known attachments, Supplies attached.1 attached.2 global := by
      constructor
      · intro hglobal
        obtain ⟨contribution, hcontribution, rfl⟩ := List.mem_map.mp hglobal
        obtain ⟨attached, hattached, hof⟩ :=
          Outcome.exists_of_mem_mapM hcontributions contribution hcontribution
        exact ⟨attached, hattached, Contribution.constructor_of_ofAttachment hof⟩
      · rintro ⟨attached, hattached, hglobal⟩
        obtain ⟨contribution, hcontribution⟩ :=
          Outcome.exists_mapM_eq_ok_iff.mp ⟨contributions, hcontributions⟩ attached hattached
        have hsame := Contribution.constructor_of_ofAttachment hcontribution
        obtain rfl := Except.ok.inj (hsame.symm.trans hglobal)
        exact List.mem_map_of_mem (Outcome.mem_of_mapM hcontributions hattached hcontribution)
    rw [List.mem_filter, mem_distinct, hsupplied, decide_eq_true_eq, and_comm]

theorem announcedIdentity_some {token : String} (h : token ≠ "") :
    announcedIdentity (some token) = token := by
  simp [announcedIdentity, Option.filter_some, h]

theorem announcedIdentity_of_empty (h : identity = none ∨ identity = some "") :
    announcedIdentity identity = Identity.unregistered := by
  rcases h with rfl | rfl <;> rfl

/-- Other settings do not keep a sketch from being rendered. -/
theorem exists_render_of_render
    (h : render catalog board attachments network identity = .ok source) (other : Network)
    (token : Option String) : ∃ text, render catalog board attachments other token = .ok text := by
  obtain ⟨contributions, hcontributions, -⟩ := Outcome.bind_eq_ok_iff.mp h
  exact Outcome.exists_bind_eq_ok_iff.mpr
    ⟨contributions, hcontributions, Sections.exists_source board.id other _⟩

/-- A token counts by what is announced. -/
theorem render_eq_of_announcedIdentity_eq {token : Option String}
    (h : announcedIdentity token = announcedIdentity identity) :
    render catalog board attachments network token =
      render catalog board attachments network identity := by
  have hglobals : fixedGlobals network token = fixedGlobals network identity := by
    rw [fixedGlobals, h, fixedGlobals]
  simp only [render, assemble, Sections.collect, hglobals]

/-- Sketches of the same attachments are equal only if the settings are. -/
theorem settings_eq_of_render_eq {other : Network} {token : Option String}
    (h : render catalog board attachments network identity = .ok source)
    (h' : render catalog board attachments other token = .ok source) :
    other = network ∧ announcedIdentity token = announcedIdentity identity := by
  obtain ⟨globals, frame, hsource, -⟩ := exists_lines_of_render h
  obtain ⟨globals', frame', hsource', -⟩ := exists_lines_of_render h'
  have hblock : includeBlock catalog board attachments ≠ [] := by simp [includeBlock]
  have hsplit (lines globals frame : List String) :
      Text.join "\n" (includeBlock catalog board attachments ++ lines ++ globals ++ "" :: frame) =
        Text.join "\n" (includeBlock catalog board attachments) ++ "\n" ++
          Text.join "\n" (lines ++ (globals ++ "" :: frame)) := by
    rw [List.append_assoc, List.append_assoc, Text.join_append hblock (by simp)]
  have hlines : Text.join "\n" (settings other token ++ (globals' ++ "" :: frame')) =
      Text.join "\n" (settings network identity ++ (globals ++ "" :: frame)) := by
    rw [hsource, hsplit, hsplit] at hsource'
    apply String.toList_inj.mp
    simpa only [String.toList_append, List.append_cancel_left_eq] using
      congrArg String.toList hsource'.symm
  have hnewline : "\n".toList = ['\n'] := rfl
  have held : HoldSettings network _ (settings network identity) := holdSettings_settings
  have held' : HoldSettings other _ (settings other token) := holdSettings_settings
  obtain ⟨heq, -⟩ := Text.join_append_inj hnewline (held'.length_eq.trans held.length_eq.symm)
    held'.newline_notMem held.newline_notMem (by simp) (by simp) hlines
  exact (heq ▸ held').eq held

/-- The settings stand in lines of their own before the globals of the attachments, each text in a
literal that is read as the text itself; with other settings, and only then, the sketch is another
one. -/
theorem settings_of_render (h : render catalog board attachments network identity = .ok source) :
    (∃ lines globals frame,
      source = Text.join "\n" (includeBlock catalog board attachments ++ lines ++ globals ++
        "" :: frame) ∧
      HoldSettings network (announcedIdentity identity) lines ∧
      ∀ global, global ∈ globals ↔ global ∉ fixedGlobals network identity ∧
        ∃ attached ∈ catalog.known attachments, Supplies attached.1 attached.2 global) ∧
    (identity = none ∨ identity = some "" →
      announcedIdentity identity = "UNREGISTERED-DEV-KEY") ∧
    (∀ token, identity = some token → token ≠ "" → announcedIdentity identity = token) ∧
    ∀ (other : Network) (token : Option String), ∃ text,
      render catalog board attachments other token = .ok text ∧
      (text = source ↔ other.ssid = network.ssid ∧ other.password = network.password ∧
        other.broker = network.broker ∧ other.port = network.port ∧
        other.deviceId = network.deviceId ∧
        announcedIdentity token = announcedIdentity identity) := by
  obtain ⟨globals, frame, hsource, hglobals⟩ := exists_lines_of_render h
  refine ⟨⟨_, globals, frame, hsource, holdSettings_settings, hglobals⟩,
    announcedIdentity_of_empty, ?_, ?_⟩
  · rintro token rfl htoken
    exact announcedIdentity_some htoken
  intro other token
  obtain ⟨text, htext⟩ := exists_render_of_render h other token
  refine ⟨text, htext, ?_⟩
  constructor
  · rintro rfl
    obtain ⟨rfl, hannounced⟩ := settings_eq_of_render_eq h htext
    exact ⟨rfl, rfl, rfl, rfl, rfl, hannounced⟩
  · rintro ⟨hssid, hpassword, hbroker, hport, hdevice, hannounced⟩
    obtain rfl : other = network := by
      cases other
      cases network
      exact Network.mk.injEq .. ▸ ⟨hssid, hpassword, hbroker, hport, hdevice⟩
    rw [render_eq_of_announcedIdentity_eq hannounced, h] at htext
    exact (Except.ok.inj htext).symm

end

/-- A network whose name has a quote, a backslash, a line end and a control character before a
digit. -/
def oddNetwork : Network := { ssid := "caf\u00e9 \"\\\n\x017", deviceId := "\x7b\x7bID\x7d\x7d" }

def oneLamp : List Attachment := [⟨⟨1⟩, "lamp", .ofPins [4]⟩]

/-- The sketch of a lamp keeps the odd name; another name gives another sketch, a token that is
announced anyway gives the same one. -/
theorem settings_of_render_lamp :
    ∃ source, render Catalog.small Catalog.Small.twoPins oneLamp oddNetwork none = .ok source ∧
      (∃ lines globals frame,
        source = Text.join "\n" (includeBlock Catalog.small Catalog.Small.twoPins oneLamp ++
          lines ++ globals ++ "" :: frame) ∧
        HoldSettings oddNetwork "UNREGISTERED-DEV-KEY" lines) ∧
      (∃ text, render Catalog.small Catalog.Small.twoPins oneLamp
        { oddNetwork with ssid := "cafe" } none = .ok text ∧ text ≠ source) ∧
      render Catalog.small Catalog.Small.twoPins oneLamp oddNetwork
        (some "UNREGISTERED-DEV-KEY") = .ok source := by
  obtain ⟨sketch, hsketch⟩ : ∃ sketch,
      generate Catalog.small Catalog.Small.twoPins oneLamp oddNetwork none = .ok sketch :=
    exists_generate_iff.mpr (by decide +kernel)
  obtain ⟨source, hsource, -⟩ := Outcome.map_eq_ok_iff.mp hsketch
  obtain ⟨⟨lines, globals, frame, hlines, hsettings, -⟩, -, -, hruns⟩ :=
    settings_of_render hsource
  obtain ⟨other, hother, hiff⟩ := hruns { oddNetwork with ssid := "cafe" } none
  obtain ⟨same, hsame, hiff'⟩ := hruns oddNetwork (some "UNREGISTERED-DEV-KEY")
  refine ⟨source, hsource, ⟨lines, globals, frame, hlines, hsettings⟩, ⟨other, hother, ?_⟩, ?_⟩
  · exact fun heq => absurd (hiff.mp heq).1 (by decide)
  · rw [hsame, hiff'.mpr ⟨rfl, rfl, rfl, rfl, rfl, by decide⟩]

end SensorNode.Sketch
