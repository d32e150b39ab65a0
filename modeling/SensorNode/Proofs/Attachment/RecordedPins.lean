import SensorNode.Attachment.Basic
import SensorNode.Proofs.SortedMap
import Mathlib.Data.List.Induction

/-!
# Recorded pins

The pins of a list are recorded under the names of their positions, and nothing else is recorded.
Names of different positions differ, so no pin displaces another one.
-/

namespace SensorNode

theorem pinName_injective {i j : Nat} (h : pinName i = pinName j) : i = j := by
  have hdigits : Nat.toDigits 10 i = Nat.toDigits 10 j := by
    simpa [pinName, ← String.toList_inj] using h
  rw [← Nat.ofDigitChars_ten_toDigits (n := i), hdigits, Nat.ofDigitChars_ten_toDigits]

namespace PinMap

theorem ofPins_concat (pins : List Gpio) (gpio : Gpio) :
    ofPins (pins ++ [gpio]) = (ofPins pins).insert (pinName pins.length) gpio := by
  simp [ofPins, SortedMap.ofList, List.zipIdx_append, List.foldl_append]

/-- A look-up succeeds at the names of positions and gives the pin that stands there. -/
theorem get?_ofPins_eq_some_iff {pins : List Gpio} {name : String} {gpio : Gpio} :
    (ofPins pins).get? name = some gpio ↔ ∃ i, pins[i]? = some gpio ∧ name = pinName i := by
  induction pins using List.reverseRecOn with
  | nil => simp [ofPins, SortedMap.ofList]
  | append_singleton pins last ih =>
      rw [ofPins_concat, SortedMap.get?_insert]
      by_cases hname : name = pinName pins.length
      · rw [if_pos hname]
        constructor
        · intro h
          exact ⟨pins.length, by simpa using h, hname⟩
        · rintro ⟨i, hi, hi'⟩
          have hlength : i = pins.length := pinName_injective (hi'.symm.trans hname)
          simpa [hlength] using hi
      · rw [if_neg hname, ih]
        refine exists_congr fun i => and_congr_left fun hi => ?_
        have hne : i ≠ pins.length := fun h => hname (h ▸ hi)
        by_cases hlt : i < pins.length
        · rw [List.getElem?_append_left hlt]
        · rw [List.getElem?_eq_none (by omega), List.getElem?_eq_none (by simp; omega)]

@[simp] theorem get?_ofPins_pinName (pins : List Gpio) (i : Nat) :
    (ofPins pins).get? (pinName i) = pins[i]? := by
  ext gpio
  rw [get?_ofPins_eq_some_iff]
  constructor
  · rintro ⟨j, hj, hname⟩
    exact pinName_injective hname ▸ hj
  · intro h
    exact ⟨i, h, rfl⟩

/-- The names of the positions are recorded. -/
theorem mem_keys_ofPins_iff {pins : List Gpio} {name : String} :
    name ∈ (ofPins pins).keys ↔ ∃ i < pins.length, name = pinName i := by
  simp only [SortedMap.mem_keys_iff, get?_ofPins_eq_some_iff]
  constructor
  · rintro ⟨gpio, i, hi, hname⟩
    exact ⟨i, (List.getElem?_eq_some_iff.mp hi).1, hname⟩
  · rintro ⟨i, hi, hname⟩
    exact ⟨pins[i], i, List.getElem?_eq_getElem hi, hname⟩

/-- What is recorded tells the list it came from. -/
theorem ofPins_injective {pins pins' : List Gpio} (h : ofPins pins = ofPins pins') :
    pins = pins' := by
  apply List.ext_getElem?
  intro i
  rw [← get?_ofPins_pinName, h, get?_ofPins_pinName]

end PinMap

namespace Attachment

/-- The pins that an attachment records. -/
def gpios (attachment : Attachment) : List Gpio := attachment.pins.entries.map Prod.snd

theorem mem_gpios_iff {attachment : Attachment} {gpio : Gpio} :
    gpio ∈ attachment.gpios ↔ ∃ name, attachment.pins.get? name = some gpio :=
  SortedMap.mem_values_iff

theorem mem_gpios_ofPins {id : AttachmentId} {peripheralId : String} {pins : List Gpio}
    {gpio : Gpio} : gpio ∈ (Attachment.mk id peripheralId (.ofPins pins)).gpios ↔ gpio ∈ pins := by
  rw [mem_gpios_iff, List.mem_iff_getElem?]
  constructor
  · rintro ⟨name, h⟩
    obtain ⟨i, hi, -⟩ := PinMap.get?_ofPins_eq_some_iff.mp h
    exact ⟨i, hi⟩
  · rintro ⟨i, hi⟩
    exact ⟨pinName i, by simpa using hi⟩

end Attachment

end SensorNode
