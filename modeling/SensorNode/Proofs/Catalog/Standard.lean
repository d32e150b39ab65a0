import SensorNode.Catalog.Standard
import SensorNode.Proofs.Catalog.Checked
import SensorNode.Proofs.Text.Utf8

/-!
# The standard catalog

The catalog that comes with the program can be built, since its entries pass their checks. All its
fragments are ASCII, so their slots can be looked for byte by byte.
-/

namespace SensorNode.Catalog

/-- The slots of an ASCII source. -/
theorem slots_parse_of_ascii {source : String} (h : Text.isAscii source) :
    (Template.parse source).slots = (Template.parseAfter 0 (Text.asciiChars source)).slots := by
  rw [Template.parse, Text.toList_eq_asciiChars h]

namespace Standard

theorem check_board : ∀ board ∈ boards, board.check = .ok () := by
  simp only [Board.check_eq_ok_iff]
  decide +kernel

/-- The sources of the standard peripherals are ASCII. -/
theorem ascii_peripheral : ∀ peripheral ∈ peripherals,
    (∀ entry ∈ peripheral.fragments, Text.isAscii entry.2) ∧
      ∀ line ∈ peripheral.includes, Text.isAscii line := by
  decide +kernel

theorem check_peripheral : ∀ peripheral ∈ peripherals, peripheral.check = .ok () := by
  intro peripheral hperipheral
  obtain ⟨hfragments, hincludes⟩ := ascii_peripheral peripheral hperipheral
  have hdeclared : ∀ peripheral ∈ peripherals, Text.isBlank peripheral.id = false ∧
      (∀ entry ∈ peripheral.fragments,
        ∀ name ∈ (Template.parseAfter 0 (Text.asciiChars entry.2)).slots,
          name ∈ peripheral.declaredSlots) ∧
      (peripheral.isCommand → peripheral.command = none →
        pinName 0 ∈ peripheral.declaredSlots) ∧
      ∀ line ∈ peripheral.includes,
        (Template.parseAfter 0 (Text.asciiChars line)).slots = [] := by
    decide +kernel
  obtain ⟨hid, hslots, hswitch, hlines⟩ := hdeclared peripheral hperipheral
  refine Peripheral.check_eq_ok_iff.mpr ⟨hid, fun entry hentry => ?_, hswitch, fun line hline => ?_⟩
  · rw [slots_parse_of_ascii (hfragments entry hentry)]
    exact hslots entry hentry
  · rw [slots_parse_of_ascii (hincludes line hline)]
    exact hlines line hline

/-- The entries that come with the program. -/
def catalog : Catalog where
  boards := boards
  peripherals := peripherals
  libraries := libraries
  boards_ne_nil := by simp [boards]

end Standard

/-- The program starts from the entries that come with it. -/
theorem standard_eq : standard = .ok Standard.catalog := by
  refine build_eq_ok_iff.mpr ⟨?_, rfl, rfl, rfl⟩
  have hboards : (Standard.boards.map Board.id).Nodup := by decide +kernel
  have hperipherals : (Standard.peripherals.map Peripheral.id).Nodup := by decide +kernel
  have hlibraries : (Standard.libraries.map Library.id).Nodup := by decide +kernel
  simp only [faults, List.append_eq_nil_iff, entryFaults_eq_nil_iff]
  exact ⟨⟨⟨fun board h => firstFault_eq_ok_iff.mp (Standard.check_board board h), hboards, by simp⟩,
    fun peripheral h => firstFault_eq_ok_iff.mp (Standard.check_peripheral peripheral h),
    hperipherals, by simp⟩, by simp, hlibraries, by simp⟩

theorem exists_standard : ∃ catalog, standard = .ok catalog := ⟨_, standard_eq⟩

end SensorNode.Catalog
