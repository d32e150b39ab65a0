import SensorNode.Attachment.Document
import SensorNode.Board.Document
import SensorNode.Identity.Document
import SensorNode.Library
import SensorNode.Network
import SensorNode.Peripheral.Document
import SensorNode.Proofs.Attachment.Ids
import SensorNode.Proofs.Json.Loosened
import SensorNode.Proofs.SortedMap

/-!
# Documents hold what was written in them

Boards, libraries, attachments, network settings, identity records and peripherals are read from
their documents as they were written, also when members are left out that hold what their fields
have anyway and when members are added that are no fields. The schema of a kind of record lists its
fields with what they may be given by. It agrees with both the writer and the reader, since a
written record is one of those it admits and each of those is read as the value.
-/

namespace SensorNode

open Json

theorem Capability.ofJson?_toJson (capability : Capability) :
    ofJson? capability.toJson = some capability :=
  ofTag?_tag capability

namespace Pin

def schema : Json.Schema where
  fields :=
    [.required "gpio", .required "label", .required "capabilities", .optional "adc_channel",
      .withDefault "restricted" (.bool false), .optional "restriction_reason",
      .optional "boot_state"]

theorem legible_toJson (pin : Pin) : pin.toJson.Legible := by
  simp [toJson, Capability.toJson]

theorem loosened_self (pin : Pin) : RecordLoosened schema pin.toJson pin.toJson :=
  recordLoosened_self (by simp [schema])

theorem ofJson?_of_loosened {pin : Pin} {given : Json}
    (h : RecordLoosened schema pin.toJson given) : ofJson? given = some pin := by
  obtain ⟨known, hknown, hgiven⟩ := h.exists_known
  simp only [schema, List.forall₂_cons] at hgiven
  obtain ⟨hgpio, hlabel, hcapabilities, hchannel, hrestricted, hreason, hstate, -⟩ := hgiven
  have hnames : given.fields? fieldNames = some known := hknown
  have hcapabilities := hcapabilities.required (list?_list Capability.ofJson?_toJson _)
  have hstate := hstate.optional (choice?_text BootState.ofTag?_tag) nofun
  rw [ofJson?, bind_of_eq_some hnames, bind_of_eq_some (hgpio.required (uint8?_nat _)),
    bind_of_eq_some (hlabel.required (text?_text _)), bind_of_eq_some hcapabilities,
    bind_of_eq_some (hchannel.optional uint8?_nat nofun),
    bind_of_eq_some (hrestricted.withDefault (bool?_bool _) (bool?_bool _)),
    bind_of_eq_some (hreason.optional text?_text nofun), bind_of_eq_some hstate]
  rfl

end Pin

namespace I2cPins

def schema : Json.Schema where
  fields := [.required "sda", .required "scl"]

theorem legible_toJson (pins : I2cPins) : pins.toJson.Legible := by
  simp [toJson]

theorem loosened_self (pins : I2cPins) : RecordLoosened schema pins.toJson pins.toJson :=
  recordLoosened_self (by simp [schema])

theorem ofJson?_of_loosened {pins : I2cPins} {given : Json}
    (h : RecordLoosened schema pins.toJson given) : ofJson? given = some pins := by
  obtain ⟨known, hknown, hgiven⟩ := h.exists_known
  simp only [schema, List.forall₂_cons] at hgiven
  obtain ⟨hsda, hscl, -⟩ := hgiven
  have hnames : given.fields? fieldNames = some known := hknown
  rw [ofJson?, bind_of_eq_some hnames, bind_of_eq_some (hsda.required (uint8?_nat _)),
    bind_of_eq_some (hscl.required (uint8?_nat _))]
  rfl

end I2cPins

namespace SpiPins

def schema : Json.Schema where
  fields := [.required "mosi", .required "miso", .required "clk", .required "cs"]

theorem legible_toJson (pins : SpiPins) : pins.toJson.Legible := by
  simp [toJson]

theorem loosened_self (pins : SpiPins) : RecordLoosened schema pins.toJson pins.toJson :=
  recordLoosened_self (by simp [schema])

theorem ofJson?_of_loosened {pins : SpiPins} {given : Json}
    (h : RecordLoosened schema pins.toJson given) : ofJson? given = some pins := by
  obtain ⟨known, hknown, hgiven⟩ := h.exists_known
  simp only [schema, List.forall₂_cons] at hgiven
  obtain ⟨hmosi, hmiso, hclk, hcs, -⟩ := hgiven
  have hnames : given.fields? fieldNames = some known := hknown
  rw [ofJson?, bind_of_eq_some hnames, bind_of_eq_some (hmosi.required (uint8?_nat _)),
    bind_of_eq_some (hmiso.required (uint8?_nat _)), bind_of_eq_some (hclk.required (uint8?_nat _)),
    bind_of_eq_some (hcs.required (uint8?_nat _))]
  rfl

end SpiPins

namespace Board

/-- The pins of a board and of its buses are records themselves. -/
def schema : Json.Schema where
  fields :=
    [.required "id", .required "name", .required "mcu",
      .nested "pins" (ItemsLoosened (RecordLoosened Pin.schema)),
      .nested "default_i2c" (RecordLoosened I2cPins.schema),
      .nested "default_spi" (RecordLoosened SpiPins.schema), .optional "max_current_total_ma"]

theorem legible_toJson (board : Board) : board.toJson.Legible := by
  simp [toJson, Pin.legible_toJson, I2cPins.legible_toJson, SpiPins.legible_toJson]

theorem loosened_self (board : Board) : RecordLoosened schema board.toJson board.toJson :=
  recordLoosened_self (by
    simp [schema, itemsLoosened_self Pin.loosened_self, I2cPins.loosened_self,
      SpiPins.loosened_self])

theorem ofJson?_of_loosened {board : Board} {given : Json}
    (h : RecordLoosened schema board.toJson given) : ofJson? given = some board := by
  obtain ⟨known, hknown, hgiven⟩ := h.exists_known
  simp only [schema, List.forall₂_cons] at hgiven
  obtain ⟨hid, hname, hmcu, hpins, hi2c, hspi, hcurrent, -⟩ := hgiven
  have hnames : given.fields? fieldNames = some known := hknown
  have hpins := hpins.nested fun _ hitems =>
    list?_of_itemsLoosened hitems fun _ _ => Pin.ofJson?_of_loosened
  rw [ofJson?, bind_of_eq_some hnames, bind_of_eq_some (hid.required (text?_text _)),
    bind_of_eq_some (hname.required (text?_text _)),
    bind_of_eq_some (hmcu.required (choice?_text Mcu.ofTag?_tag _)), bind_of_eq_some hpins,
    bind_of_eq_some (hi2c.nested fun _ => I2cPins.ofJson?_of_loosened),
    bind_of_eq_some (hspi.nested fun _ => SpiPins.ofJson?_of_loosened),
    bind_of_eq_some (hcurrent.optional uint32?_nat nofun)]
  rfl

end Board

namespace Library

def schema : Json.Schema where
  fields :=
    [.required "id", .required "name", .required "description", .required "author",
      .required "manager_name", .optional "url"]

theorem legible_toJson (library : Library) : library.toJson.Legible := by
  simp [toJson]

theorem loosened_self (library : Library) :
    RecordLoosened schema library.toJson library.toJson :=
  recordLoosened_self (by simp [schema])

theorem ofJson?_of_loosened {library : Library} {given : Json}
    (h : RecordLoosened schema library.toJson given) : ofJson? given = some library := by
  obtain ⟨known, hknown, hgiven⟩ := h.exists_known
  simp only [schema, List.forall₂_cons] at hgiven
  obtain ⟨hid, hname, hdescription, hauthor, hmanager, hurl, -⟩ := hgiven
  have hnames : given.fields? fieldNames = some known := hknown
  rw [ofJson?, bind_of_eq_some hnames, bind_of_eq_some (hid.required (text?_text _)),
    bind_of_eq_some (hname.required (text?_text _)),
    bind_of_eq_some (hdescription.required (text?_text _)),
    bind_of_eq_some (hauthor.required (text?_text _)),
    bind_of_eq_some (hmanager.required (text?_text _)),
    bind_of_eq_some (hurl.optional text?_text nofun)]
  rfl

end Library

theorem AttachmentId.ofJson?_toJson (id : AttachmentId) : ofJson? id.toJson = some id := by
  rw [ofJson?, toJson, text?_text, Option.bind_some, ofText?_text]

namespace PinMap

theorem legible_toJson (pins : PinMap) : pins.toJson.Legible := by
  rw [toJson, legible_record_iff]
  exact List.forall_mem_map.mpr fun entry _ => legible_nat _

theorem ofJson?_toJson (pins : PinMap) : ofJson? pins.toJson = some pins := by
  have hgpios (entries : List (String × Gpio)) :
      (entries.map fun entry => (entry.1, Json.nat entry.2.toNat)).mapM
        (fun member => (uint8? member.2).map fun gpio => (member.1, gpio)) = some entries := by
    induction entries with
    | nil => rfl
    | cons entry entries ih =>
        rw [List.map_cons, List.mapM_cons, uint8?_nat, ih]
        rfl
  rw [toJson, record, ofJson?, bind_of_eq_some (namedMembers?_record _),
    bind_of_eq_some (hgpios _), SortedMap.ofList_entries]
  rfl

end PinMap

namespace Attachment

def schema : Json.Schema where
  fields := [.required "instance_id", .required "definition_id", .required "allocated_pins"]

theorem legible_toJson (attachment : Attachment) : attachment.toJson.Legible := by
  simp [toJson, AttachmentId.toJson, PinMap.legible_toJson]

theorem loosened_self (attachment : Attachment) :
    RecordLoosened schema attachment.toJson attachment.toJson :=
  recordLoosened_self (by simp [schema])

theorem ofJson?_of_loosened {attachment : Attachment} {given : Json}
    (h : RecordLoosened schema attachment.toJson given) : ofJson? given = some attachment := by
  obtain ⟨known, hknown, hgiven⟩ := h.exists_known
  simp only [schema, List.forall₂_cons] at hgiven
  obtain ⟨hid, hperipheral, hpins, -⟩ := hgiven
  have hnames : given.fields? fieldNames = some known := hknown
  rw [ofJson?, bind_of_eq_some hnames,
    bind_of_eq_some (hid.required (AttachmentId.ofJson?_toJson _)),
    bind_of_eq_some (hperipheral.required (text?_text _)),
    bind_of_eq_some (hpins.required (PinMap.ofJson?_toJson _))]
  rfl

end Attachment

namespace Network

/-- The device id may be left out whatever it is; it is drawn anew then. -/
def schema : Json.Schema where
  fields :=
    [.withDefault "ssid" (.text ""), .withDefault "password" (.text ""),
      .withDefault "broker" (.text defaultBroker), .withDefault "port" (.nat defaultPort.toNat),
      { name := "device_id", spares := fun _ => True }]

/-- Settings as a document of them is read: a device is named after a random id if the document
leaves its id out. -/
def completed (network : Network) (drawn : AttachmentId) (given : Json) : Network :=
  if (given.member? "device_id").isSome then network
  else { network with deviceId := defaultDeviceId drawn }

theorem legible_toJson (network : Network) : network.toJson.Legible := by
  simp [toJson]

theorem loosened_self (network : Network) :
    RecordLoosened schema network.toJson network.toJson :=
  recordLoosened_self (by simp [schema])

theorem completed_toJson (network : Network) (drawn : AttachmentId) :
    network.completed drawn network.toJson = network := by
  simp [completed, toJson, member?_record_cons]

theorem ofJson?_of_loosened {network : Network} {given : Json}
    (h : RecordLoosened schema network.toJson given) (drawn : AttachmentId) :
    ofJson? (.default drawn) given = some (network.completed drawn given) := by
  obtain ⟨known, hknown, hgiven⟩ := h.exists_known
  simp only [schema, List.forall₂_cons] at hgiven
  obtain ⟨hssid, hpassword, hbroker, hport, hdevice, -⟩ := hgiven
  have hnames : given.fields? fieldNames = some known := hknown
  have hssid : known.withDefault "ssid" text? (default drawn).ssid = some network.ssid :=
    hssid.withDefault (text?_text _) (text?_text _)
  have hpassword : known.withDefault "password" text? (default drawn).password =
      some network.password :=
    hpassword.withDefault (text?_text _) (text?_text _)
  have hbroker : known.withDefault "broker" text? (default drawn).broker = some network.broker :=
    hbroker.withDefault (text?_text _) (text?_text _)
  have hport : known.withDefault "port" uint16? (default drawn).port = some network.port :=
    hport.withDefault (uint16?_nat _) (uint16?_nat _)
  have hlisted : "device_id" ∈ fieldNames := by decide
  have hlookup := h.lookup_eq hnames hlisted
  rw [ofJson?, bind_of_eq_some hnames, bind_of_eq_some hssid, bind_of_eq_some hpassword,
    bind_of_eq_some hbroker, bind_of_eq_some hport, Fields.withDefault, completed, ← hlookup]
  rw [Given] at hdevice
  cases hdrawn : known.lookup "device_id" with
  | none => rfl
  | some value =>
      rw [hdrawn] at hdevice
      obtain rfl : Json.text network.deviceId = value := hdevice
      rfl

end Network

namespace Identity.Record

def schema : Json.Schema where
  fields :=
    [.withDefault "role" (.nat 0), .withDefault "type" (.nat 1), .withDefault "name" (.nat 1),
      .withDefault "version" (.nat 1), .withDefault "model" (.nat 1),
      .withDefault "prod_date" (.nat 1), .withDefault "act_date" (.nat 1),
      .withDefault "expiry_date" (.nat 1), .withDefault "sku" (.nat 1)]

theorem legible_toJson (record : Record) : record.toJson.Legible := by
  simp [toJson]

theorem loosened_self (record : Record) : RecordLoosened schema record.toJson record.toJson :=
  recordLoosened_self (by simp [schema])

theorem ofJson?_of_loosened {record : Record} {given : Json}
    (h : RecordLoosened schema record.toJson given) : ofJson? given = some record := by
  obtain ⟨known, hknown, hgiven⟩ := h.exists_known
  simp only [schema, List.forall₂_cons] at hgiven
  obtain ⟨hrole, hkind, hname, hversion, hmodel, hprod, hact, hexpiry, hsku, -⟩ := hgiven
  have hnames : given.fields? fieldNames = some known := hknown
  have hzero : uint16? (.nat 0) = some 0 := uint16?_nat 0
  have hone : uint16? (.nat 1) = some 1 := uint16?_nat 1
  rw [ofJson?, bind_of_eq_some hnames,
    bind_of_eq_some (hrole.withDefault (uint16?_nat _) hzero),
    bind_of_eq_some (hkind.withDefault (uint16?_nat _) hone),
    bind_of_eq_some (hname.withDefault (uint16?_nat _) hone),
    bind_of_eq_some (hversion.withDefault (uint16?_nat _) hone),
    bind_of_eq_some (hmodel.withDefault (uint16?_nat _) hone),
    bind_of_eq_some (hprod.withDefault (uint16?_nat _) hone),
    bind_of_eq_some (hact.withDefault (uint16?_nat _) hone),
    bind_of_eq_some (hexpiry.withDefault (uint16?_nat _) hone),
    bind_of_eq_some (hsku.withDefault (uint16?_nat _) hone)]
  rfl

end Identity.Record

namespace Peripheral

def schema : Json.Schema where
  fields :=
    [.required "id", .required "name", .withDefault "description" (.text ""), .required "category",
      .required "requires", .optional "bus", .withDefault "power_consumption_ma" (.single 0),
      .withDefault "includes" (.array []), .required "constructor", .withDefault "setup" (.text ""),
      .optional "loop", .withDefault "topic_type" (.text Topic.none.tag),
      .optional "telemetry_field", .optional "telemetry_read", .optional "command",
      .optional "command_on", .optional "command_off", .withDefault "libraries" (.array [])]

theorem legible_toJson (peripheral : Peripheral) : peripheral.toJson.Legible := by
  simp [toJson, toJsonWith, Capability.toJson]

theorem loosened_self (peripheral : Peripheral) :
    RecordLoosened schema peripheral.toJson peripheral.toJson :=
  recordLoosened_self (by simp [schema])

/-- The current must be one that is read as it is written. -/
theorem ofJson?_of_loosened {peripheral : Peripheral} {given : Json}
    (hcurrent : float32? (.single peripheral.current) = some peripheral.current)
    (h : RecordLoosened schema peripheral.toJson given) : ofJson? given = some peripheral := by
  obtain ⟨known, hknown, hgiven⟩ := h.exists_known
  simp only [schema, List.forall₂_cons] at hgiven
  obtain ⟨hid, hname, hdescription, hcategory, hrequires, hbus, hpower, hincludes, hconstructor,
    hsetup, hloop, htopic, hfield, hread, hcommand, hon, hoff, hlibraries, -⟩ := hgiven
  have hnames : given.fields? fieldNames = some known := hknown
  have hzero : float32? (.single 0) = some 0 := by decide +kernel
  have htexts := list?_list text?_text
  have hcategory := hcategory.required (choice?_text Category.ofTag?_tag _)
  have hrequires := hrequires.required (list?_list Capability.ofJson?_toJson _)
  have hbus := hbus.optional (choice?_text Bus.ofTag?_tag) nofun
  have htopic := htopic.withDefault (choice?_text Topic.ofTag?_tag _)
    (choice?_text Topic.ofTag?_tag _)
  rw [ofJson?, bind_of_eq_some hnames, bind_of_eq_some (hid.required (text?_text _)),
    bind_of_eq_some (hname.required (text?_text _)),
    bind_of_eq_some (hdescription.withDefault (text?_text _) (text?_text _)),
    bind_of_eq_some hcategory, bind_of_eq_some hrequires, bind_of_eq_some hbus,
    bind_of_eq_some (hpower.withDefault hcurrent hzero),
    bind_of_eq_some (hincludes.withDefault (htexts _) (htexts [])),
    bind_of_eq_some (hconstructor.required (text?_text _)),
    bind_of_eq_some (hsetup.withDefault (text?_text _) (text?_text _)),
    bind_of_eq_some (hloop.optional text?_text nofun), bind_of_eq_some htopic,
    bind_of_eq_some (hfield.optional text?_text nofun),
    bind_of_eq_some (hread.optional text?_text nofun),
    bind_of_eq_some (hcommand.optional text?_text nofun),
    bind_of_eq_some (hon.optional text?_text nofun),
    bind_of_eq_some (hoff.optional text?_text nofun),
    bind_of_eq_some (hlibraries.withDefault (htexts _) (htexts []))]
  rfl

end Peripheral

/-- The documents of every kind hold what was written in them. -/
structure FaithfulDocuments : Prop where
  boards (board : Board) :
    Faithful Board.toJson Board.ofJson? Board.schema board fun _ => board
  libraries (library : Library) :
    Faithful Library.toJson Library.ofJson? Library.schema library fun _ => library
  attachments (attachment : Attachment) :
    Faithful Attachment.toJson Attachment.ofJson? Attachment.schema attachment fun _ => attachment
  networks (network : Network) (drawn : AttachmentId) :
    Faithful Network.toJson (Network.ofJson? (.default drawn)) Network.schema network
      (network.completed drawn)
  records (record : Identity.Record) :
    Faithful Identity.Record.toJson Identity.Record.ofJson? Identity.Record.schema record
      fun _ => record
  /-- The current must be a number that is read as it is written. -/
  peripherals (peripheral : Peripheral)
    (hcurrent : Json.float32? (.single peripheral.current) = some peripheral.current) :
    Faithful Peripheral.toJson Peripheral.ofJson? Peripheral.schema peripheral fun _ => peripheral

theorem faithfulDocuments : FaithfulDocuments where
  boards board :=
    .of_loosened board.legible_toJson board.loosened_self rfl fun _ => Board.ofJson?_of_loosened
  libraries library :=
    .of_loosened library.legible_toJson library.loosened_self rfl
      fun _ => Library.ofJson?_of_loosened
  attachments attachment :=
    .of_loosened attachment.legible_toJson attachment.loosened_self rfl
      fun _ => Attachment.ofJson?_of_loosened
  networks network drawn :=
    .of_loosened network.legible_toJson network.loosened_self (network.completed_toJson drawn)
      fun _ h => Network.ofJson?_of_loosened h drawn
  records record :=
    .of_loosened record.legible_toJson record.loosened_self rfl
      fun _ => Identity.Record.ofJson?_of_loosened
  peripherals peripheral hcurrent :=
    .of_loosened peripheral.legible_toJson peripheral.loosened_self rfl
      fun _ => Peripheral.ofJson?_of_loosened hcurrent

/-- A relay of which the document gives a colour but no field that has a value anyway. -/
theorem faithfulDocuments_relay :
    Peripheral.ofJson? (.object [(some "id", .text "relay"), (some "colour", .text "red"),
        (some "name", .text "Relay"), (some "category", .text "actuator"),
        (some "requires", .array [.text "digital-out"]),
        (some "power_consumption_ma", .single 72.5), (some "constructor", .text "")]) =
      some { id := "relay", name := "Relay", category := .actuator, requires := [.digitalOut],
             current := 72.5, constructor := "" } :=
  (faithfulDocuments.peripherals _ (by decide +kernel)).loosened _
    (.intro (.keep rfl (.add (by decide +kernel) (.keep rfl (.drop rfl (.keep rfl (.keep rfl
      (.drop rfl (.keep rfl (.drop rfl (.keep rfl (.drop rfl (.drop rfl (.drop rfl (.drop rfl
        (.drop rfl (.drop rfl (.drop rfl (.drop rfl (.drop rfl .nil))))))))))))))))))))

end SensorNode
