import Mathlib.Data.List.Forall2
import Mathlib.Data.List.Nodup
import SensorNode.Proofs.Json.Members
import SensorNode.Proofs.Json.Written
import SensorNode.SortedMap

/-!
# Records given loosely

A record need not be given as it is written. A member that holds what its field has without it may
be left out, members that are no field may stand anywhere, and the records inside may be given
loosely too. The fields of a record that is given so hold what was written.
-/

namespace SensorNode.Json

/-- A field of a record: the written values that may be left out, as the field has them anyway, and
the values that may be given in place of a written one. -/
structure Field where
  name : String
  spares : (written : Json) → Prop := fun _ => False
  takes : (written given : Json) → Prop := Eq

namespace Field

abbrev required (name : String) : Field := { name }

/-- A field that has a value when it is not given; `default` is how that value is written. -/
abbrev withDefault (name : String) (default : Json) : Field :=
  { name, spares := fun written => written = default }

abbrev optional (name : String) : Field := withDefault name null

/-- A required field whose value may itself be given loosely. -/
abbrev nested (name : String) (takes : Json → Json → Prop) : Field := { name, takes }

end Field

/-- The fields of a record, by different names. -/
structure Schema where
  fields : List Field
  distinct : (fields.map Field.name).Nodup := by decide +kernel

/-- The names of the fields in their declared order. -/
def Schema.names (schema : Schema) : List String := schema.fields.map Field.name

/-- The members of a record as they are written, one for each field, and as they may be given.
`names` are the names of all fields of the record. -/
inductive MembersLoosened (names : List String) :
    List Field → (written given : List (Option String × Json)) → Prop
  | nil : MembersLoosened names [] [] []
  /-- A member is given. -/
  | keep {field : Field} {fields : List Field} {value value' : Json}
      {written given : List (Option String × Json)} (hvalue : field.takes value value')
      (h : MembersLoosened names fields written given) :
      MembersLoosened names (field :: fields) ((some field.name, value) :: written)
        ((some field.name, value') :: given)
  /-- A member is left out. -/
  | drop {field : Field} {fields : List Field} {value : Json}
      {written given : List (Option String × Json)} (hvalue : field.spares value)
      (h : MembersLoosened names fields written given) :
      MembersLoosened names (field :: fields) ((some field.name, value) :: written) given
  /-- A member that is no field stands here, whatever it holds. -/
  | add {name : String} {value : Json} {fields : List Field}
      {written given : List (Option String × Json)} (hname : name ∉ names)
      (h : MembersLoosened names fields written given) :
      MembersLoosened names fields written ((some name, value) :: given)

/-- A record as it is written and as it may be given. -/
inductive RecordLoosened (schema : Schema) : (written given : Json) → Prop
  | intro {written given : List (Option String × Json)}
      (h : MembersLoosened schema.names schema.fields written given) :
      RecordLoosened schema (object written) (object given)

/-- Each item of a list may be given loosely, but none may be left out. -/
inductive ItemsLoosened (takes : Json → Json → Prop) : (written given : Json) → Prop
  | intro {written given : List Json} (h : List.Forall₂ takes written given) :
      ItemsLoosened takes (array written) (array given)

theorem MembersLoosened.self {fields : List Field} {members : List (Option String × Json)}
    (h : List.Forall₂ (fun field member =>
      member.1 = some field.name ∧ field.takes member.2 member.2) fields members)
    (names : List String) : MembersLoosened names fields members members := by
  induction h with
  | nil => exact .nil
  | @cons field member fields members hmember h ih =>
      obtain ⟨name, value⟩ := member
      obtain ⟨rfl, hvalue⟩ := hmember
      exact .keep hvalue ih

theorem recordLoosened_self {schema : Schema} {members : List (String × Json)}
    (h : List.Forall₂ (fun field member =>
      member.1 = field.name ∧ field.takes member.2 member.2) schema.fields members) :
    RecordLoosened schema (record members) (record members) := by
  have hmembers := h.imp fun _ _ => And.imp_left (congrArg some)
  exact .intro (.self (List.forall₂_map_right_iff.mpr hmembers) _)

theorem itemsLoosened_self {α : Type} {takes : Json → Json → Prop} {write : α → Json}
    (h : ∀ x, takes (write x) (write x)) (xs : List α) :
    ItemsLoosened takes (list write xs) (list write xs) :=
  .intro (List.forall₂_same.mpr (List.forall_mem_map.mpr fun x _ => h x))

/-- A field is given by a value for what was written, or left out where it may be. -/
def Given (known : Fields) (field : Field) (written : Json) : Prop :=
  match known.lookup field.name with
  | some given => field.takes written given
  | none => field.spares written

theorem namedMembers?_cons (name : String) (value : Json) (members : List (Option String × Json)) :
    namedMembers? ((some name, value) :: members) =
      (namedMembers? members).map ((name, value) :: ·) := by
  cases h : namedMembers? members <;> simp_all [namedMembers?]

/-- A member more changes nothing for the fields with other names. -/
theorem forall₂_given_cons {known : Fields} {fields : List Field}
    {written : List (Option String × Json)} {name : String}
    (h : List.Forall₂ (fun field member => Given known field member.2) fields written)
    (hname : name ∉ fields.map Field.name) (value : Json) :
    List.Forall₂ (fun field member => Given ((name, value) :: known) field member.2)
      fields written := by
  induction h with
  | nil => exact .nil
  | @cons field member fields written hgiven h ih =>
      rw [List.map_cons, List.mem_cons, not_or] at hname
      refine .cons ?_ (ih hname.2)
      rwa [Given, lookup_cons_eq_ite, if_neg (Ne.symm hname.1)]

theorem namedMembers?_record (members : Fields) :
    namedMembers? (members.map fun member => (some member.1, member.2)) = some members := by
  induction members with
  | nil => rfl
  | cons member members ih => rw [List.map_cons, namedMembers?_cons, ih]; rfl

/-- The names of the fields that are given stand in their order, so none of them is given twice. -/
theorem MembersLoosened.exists_named {names : List String} {fields : List Field}
    {written given : List (Option String × Json)} (h : MembersLoosened names fields written given)
    (hnames : ∀ field ∈ fields, field.name ∈ names) (hnodup : (fields.map Field.name).Nodup) :
    ∃ named, namedMembers? given = some named ∧
      ((named.filter (·.1 ∈ names)).map Prod.fst).Sublist (fields.map Field.name) ∧
      List.Forall₂ (fun field member => Given (named.filter (·.1 ∈ names)) field member.2)
        fields written := by
  induction h with
  | nil => exact ⟨[], rfl, .slnil, .nil⟩
  | @keep field fields value value' written given hvalue h ih =>
      obtain ⟨hname, hrest⟩ := List.forall_mem_cons.mp hnames
      obtain ⟨hnew, hnodup⟩ := List.nodup_cons.mp hnodup
      obtain ⟨named, hnamed, hsub, hgiven⟩ := ih hrest hnodup
      have hfilter : ((field.name, value') :: named).filter (·.1 ∈ names) =
          (field.name, value') :: named.filter (·.1 ∈ names) := by
        simp [hname]
      refine ⟨(field.name, value') :: named, by rw [namedMembers?_cons, hnamed]; rfl, ?_⟩
      rw [hfilter]
      have hhead : Given ((field.name, value') :: named.filter (·.1 ∈ names)) field value := by
        rwa [Given, lookup_cons_eq_ite, if_pos rfl]
      exact ⟨hsub.cons_cons _, .cons hhead (forall₂_given_cons hgiven hnew value')⟩
  | @drop field fields value written given hvalue h ih =>
      obtain ⟨-, hrest⟩ := List.forall_mem_cons.mp hnames
      obtain ⟨hnew, hnodup⟩ := List.nodup_cons.mp hnodup
      obtain ⟨named, hnamed, hsub, hgiven⟩ := ih hrest hnodup
      have habsent : (named.filter (·.1 ∈ names)).lookup field.name = none := by
        refine List.lookup_eq_none_iff.mpr fun member hmember => ?_
        have hmem := hsub.subset (List.mem_map_of_mem (f := Prod.fst) hmember)
        exact bne_iff_ne.mpr fun heq => hnew (heq ▸ hmem)
      have hhead : Given (named.filter (·.1 ∈ names)) field value := by
        rwa [Given, habsent]
      exact ⟨named, hnamed, hsub.trans (List.sublist_cons_self _ _), .cons hhead hgiven⟩
  | @add name value fields written given hname h ih =>
      obtain ⟨named, hnamed, hsub, hgiven⟩ := ih hnames hnodup
      have hfilter : ((name, value) :: named).filter (·.1 ∈ names) =
          named.filter (·.1 ∈ names) := by
        simp [hname]
      refine ⟨(name, value) :: named, by rw [namedMembers?_cons, hnamed]; rfl, ?_⟩
      rw [hfilter]
      exact ⟨hsub, hgiven⟩

/-- A loosely given record is read, and its fields are given for what was written. -/
theorem RecordLoosened.exists_known {schema : Schema} {members : List (String × Json)}
    {given : Json} (h : RecordLoosened schema (record members) given) :
    ∃ known, given.fields? schema.names = some known ∧
      List.Forall₂ (fun field member => Given known field member.2) schema.fields members := by
  obtain @⟨_, given, h⟩ := h
  obtain ⟨named, hnamed, hsub, hgiven⟩ :=
    h.exists_named (fun _ => List.mem_map_of_mem) schema.distinct
  have hguard : guard ((named.filter (·.1 ∈ schema.names)).map Prod.fst).Nodup = some () :=
    if_pos (hsub.nodup schema.distinct)
  rw [List.forall₂_map_right_iff] at hgiven
  refine ⟨named.filter (·.1 ∈ schema.names), ?_, hgiven⟩
  rw [fields?, bind_of_eq_some hnamed, bind_of_eq_some hguard]
  rfl

theorem lookup_of_namedMembers? {members : List (Option String × Json)} {named : Fields}
    (h : namedMembers? members = some named) (name : String) :
    named.lookup name = (object members).member? name := by
  induction members generalizing named with
  | nil =>
      cases h
      rfl
  | cons member members ih =>
      obtain ⟨_ | first, value⟩ := member
      · cases h
      · rw [namedMembers?_cons] at h
        obtain ⟨named, hnamed, rfl⟩ := Option.map_eq_some_iff.mp h
        have hrest := ih hnamed
        rw [member?] at hrest ⊢
        rw [lookup_cons_eq_ite, find?_cons, hrest]
        simp only [Option.some.injEq, eq_comm]

/-- A known field has the value that stands under its name in the document. -/
theorem lookup_of_fields? {names : List String} {members : List (Option String × Json)}
    {known : Fields} (h : (object members).fields? names = some known) {name : String}
    (hname : name ∈ names) : known.lookup name = (object members).member? name := by
  have hfilter (named : Fields) :
      (named.filter (·.1 ∈ names)).lookup name = named.lookup name := by
    induction named with
    | nil => rfl
    | cons member named ih =>
        by_cases heq : name = member.1
        · have hmem : member.1 ∈ names := heq ▸ hname
          simp [hmem, lookup_cons_eq_ite, heq]
        · by_cases hmem : member.1 ∈ names <;> simp [hmem, lookup_cons_eq_ite, heq, ih]
  obtain ⟨named, hnamed, h⟩ := Option.bind_eq_some_iff.mp h
  obtain ⟨-, -, h⟩ := Option.bind_eq_some_iff.mp h
  rw [← Option.some.inj h, hfilter, lookup_of_namedMembers? hnamed]

theorem RecordLoosened.lookup_eq {schema : Schema} {written given : Json} {names : List String}
    {known : Fields} (h : RecordLoosened schema written given)
    (hknown : given.fields? names = some known) {name : String} (hname : name ∈ names) :
    known.lookup name = given.member? name := by
  obtain ⟨-⟩ := h
  exact lookup_of_fields? hknown hname

section

variable {α : Type} {known : Fields} {name : String} {written : Json} {read? : Json → Option α}
  {a : α}

theorem Given.nested {takes : Json → Json → Prop} (h : Given known (.nested name takes) written)
    (hread : ∀ given, takes written given → read? given = some a) :
    known.required name read? = some a := by
  rw [Given] at h
  split at h
  · next given hgiven =>
    rw [Fields.required, hgiven, Option.bind_some]
    exact hread given h
  · exact h.elim

theorem Given.required (h : Given known (.required name) written) (hread : read? written = some a) :
    known.required name read? = some a :=
  Given.nested h fun _ hgiven => hgiven ▸ hread

theorem Given.withDefault {default : Json} {usual : α}
    (h : Given known (.withDefault name default) written) (hread : read? written = some a)
    (hdefault : read? default = some usual) : known.withDefault name read? usual = some a := by
  rw [Given] at h
  split at h
  · next given hgiven =>
    rw [Fields.withDefault, hgiven]
    exact h ▸ hread
  · next hnone =>
    rw [Fields.withDefault, hnone]
    exact hdefault.symm.trans (h ▸ hread)

theorem Given.optional {write : α → Json} {x : Option α}
    (h : Given known (.optional name) (Json.optional write x))
    (hread : ∀ a, read? (write a) = some a) (hnull : ∀ a, write a ≠ null) :
    known.optional name read? = some x :=
  Given.withDefault h (optional?_optional hread hnull x) rfl

/-- Items that are given loosely are decoded one by one. -/
theorem list?_of_itemsLoosened {takes : Json → Json → Prop} {write : α → Json} {xs : List α}
    {given : Json} (h : ItemsLoosened takes (list write xs) given)
    (hread : ∀ x given, takes (write x) given → read? given = some x) :
    list? read? given = some xs := by
  obtain @⟨_, items, h⟩ := h
  have hitems := List.forall₂_map_left_iff.mp h
  exact list?_of_forall₂ (hitems.imp hread)

end

/-- The document of a value holds the value: it is decoded to it, also from its text on one line or
on many, and so is every looser form of the document, but for what the decoder adds to that. -/
structure Faithful {α : Type} (toJson : α → Json) (ofJson? : Json → Option α) (schema : Schema)
    (a : α) (completed : Json → α) : Prop where
  value : ofJson? (toJson a) = some a
  compact : (read? (toJson a).compact).bind ofJson? = some a
  pretty : (read? (toJson a).pretty).bind ofJson? = some a
  loosened : ∀ given, RecordLoosened schema (toJson a) given →
    ofJson? given = some (completed given)

theorem Faithful.of_loosened {α : Type} {toJson : α → Json} {ofJson? : Json → Option α}
    {schema : Schema} {a : α} {completed : Json → α} (hlegible : (toJson a).Legible)
    (hself : RecordLoosened schema (toJson a) (toJson a)) (hcompleted : completed (toJson a) = a)
    (hloosened : ∀ given, RecordLoosened schema (toJson a) given →
      ofJson? given = some (completed given)) :
    Faithful toJson ofJson? schema a completed := by
  have hvalue : ofJson? (toJson a) = some a := by
    rw [hloosened _ hself, hcompleted]
  refine ⟨hvalue, ?_, ?_, hloosened⟩
  · rw [read?_compact hlegible, Option.bind_some, hvalue]
  · rw [read?_pretty hlegible, Option.bind_some, hvalue]

end SensorNode.Json
