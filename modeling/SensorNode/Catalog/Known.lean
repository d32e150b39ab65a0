import SensorNode.Attachment.Basic
import SensorNode.Catalog.Basic

/-!
# Known attachments

An attachment is known when the peripheral it was made for is still in the catalog. Unknown ones
keep their pins but add nothing else.
-/

namespace SensorNode.Catalog

/-- The known attachments in their order, each with its peripheral. -/
def known (catalog : Catalog) (attachments : List Attachment) : List (Attachment × Peripheral) :=
  attachments.filterMap fun attachment =>
    (catalog.peripheral? attachment.peripheralId).map fun peripheral => (attachment, peripheral)

@[simp] theorem known_nil (catalog : Catalog) : catalog.known [] = [] := rfl

theorem known_cons_of_none {catalog : Catalog} {attachment : Attachment}
    (h : catalog.peripheral? attachment.peripheralId = none) (attachments : List Attachment) :
    catalog.known (attachment :: attachments) = catalog.known attachments := by
  simp [known, h]

theorem known_cons_of_some {catalog : Catalog} {attachment : Attachment} {peripheral : Peripheral}
    (h : catalog.peripheral? attachment.peripheralId = some peripheral)
    (attachments : List Attachment) :
    catalog.known (attachment :: attachments) =
      (attachment, peripheral) :: catalog.known attachments := by
  simp [known, h]

@[simp] theorem known_append (catalog : Catalog) (xs ys : List Attachment) :
    catalog.known (xs ++ ys) = catalog.known xs ++ catalog.known ys :=
  List.filterMap_append

theorem mem_known_iff {catalog : Catalog} {attachments : List Attachment}
    {attached : Attachment × Peripheral} :
    attached ∈ catalog.known attachments ↔ attached.1 ∈ attachments ∧
      catalog.peripheral? attached.1.peripheralId = some attached.2 := by
  simp only [known, List.mem_filterMap, Option.map_eq_some_iff]
  constructor
  · rintro ⟨attachment, hmem, peripheral, hfound, rfl⟩
    exact ⟨hmem, hfound⟩
  · rintro ⟨hmem, hfound⟩
    exact ⟨attached.1, hmem, attached.2, hfound, rfl⟩

/-- Unknown attachments can be left out before. -/
theorem known_filter (catalog : Catalog) (attachments : List Attachment) :
    catalog.known (attachments.filter fun attachment =>
      (catalog.peripheral? attachment.peripheralId).isSome) = catalog.known attachments := by
  rw [known, List.filterMap_filter, known]
  congr 1
  funext attachment
  cases catalog.peripheral? attachment.peripheralId <;> rfl

end SensorNode.Catalog
