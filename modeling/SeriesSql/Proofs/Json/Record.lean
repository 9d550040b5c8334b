import Mathlib
import SeriesSql.Json.Record
import SeriesSql.Proofs.Json.Document
import SeriesSql.Proofs.Keyed

/-!
# Records are read from objects

An object is a record if it has no field of the record twice, whatever the order of its fields and
whatever other fields it has, and what it has for a field is what a reader of the record finds
there. While the fields of the object are read one by one, what was read for a field of the record
and what is still to come for it stay the same taken together. Fields that have nothing to hold can
be left out.
-/

namespace SeriesSql

namespace Json

def HasField (fields : List (String × Json)) (key : String) (holds : Json → Prop) : Prop :=
  ∃ json, Keyed.lookup key fields = some json ∧ holds json

/-- A field that may be left out for a default. -/
def HasDefault (fields : List (String × Json)) (key : String) (holds : Json → Prop)
    (isDefault : Prop) : Prop :=
  HasField fields key holds ∨ isDefault ∧ Keyed.lookup key fields = none

/-- A field that may be left out or null for nothing. -/
def HasOptional {α : Type} (fields : List (String × Json)) (key : String)
    (holds : α → Json → Prop) : Option α → Prop
  | none => HasDefault fields key (· = .null) True
  | some a => HasField fields key (holds a)

theorem hasDefault_of_lookup {fields : List (String × Json)} {key : String} {json : Json}
    {holds : Json → Prop} {isDefault : Prop} (hlookup : Keyed.lookup key fields = some json)
    (hholds : holds json) : HasDefault fields key holds isDefault :=
  .inl ⟨json, hlookup, hholds⟩

/-- An object without repeated names. -/
def IsRecord (holds : List (String × Json) → Prop) (json : Json) : Prop :=
  ∃ fields, json = .object fields ∧ (fields.map Prod.fst).Nodup ∧ holds fields

/-! ### Fields that may be left out -/

/-- The fields of an object, without those that have nothing to hold. -/
def presentFields (parts : List (String × Option Json)) : List (String × Json) :=
  parts.flatMap fun part => (part.2.map fun json => (part.1, json)).toList

theorem mem_presentFields {parts : List (String × Option Json)} {field : String × Json} :
    field ∈ presentFields parts ↔ (field.1, some field.2) ∈ parts := by
  rw [presentFields, List.mem_flatMap]
  constructor
  · rintro ⟨⟨name, value⟩, hpart, hfield⟩
    obtain ⟨json, rfl, rfl⟩ := Option.map_eq_some_iff.1 (Option.mem_toList.1 hfield)
    exact hpart
  · intro hpart
    exact ⟨_, hpart, by simp⟩

theorem names_presentFields_sublist (parts : List (String × Option Json)) :
    ((presentFields parts).map Prod.fst).Sublist (parts.map Prod.fst) := by
  induction parts with
  | nil => exact .refl _
  | cons part parts ih =>
    rw [presentFields, List.flatMap_cons, List.map_append, List.map_cons, ← List.singleton_append]
    refine List.Sublist.append ?_ ih
    cases part.2 with
    | none => exact List.nil_sublist _
    | some json => exact .refl _

theorem lookup_presentFields {parts : List (String × Option Json)}
    (hnodup : (parts.map Prod.fst).Nodup) (key : String) :
    Keyed.lookup key (presentFields parts) = (Keyed.lookup key parts).join := by
  induction parts with
  | nil => rfl
  | cons part parts ih =>
    obtain ⟨name, value⟩ := part
    obtain ⟨hname, hrest⟩ := List.nodup_cons.1 hnodup
    rw [Keyed.lookup]
    cases value with
    | none =>
      change Keyed.lookup key (presentFields parts) = _
      rw [ih hrest]
      split
      · rename_i hkey
        have hnone := mt (Keyed.lookup_isSome_iff name parts).1 hname
        rw [← hkey, Option.not_isSome_iff_eq_none.1 hnone]
        rfl
      · rfl
    | some json =>
      change (if name = key then some json else Keyed.lookup key (presentFields parts)) = _
      rw [ih hrest]
      split <;> rfl

end Json

namespace Document

/-! ### Values -/

/-- A natural number below the bound of its reader. -/
theorem asNatBelow?_toString {bound n : Nat} (h : n < bound) :
    asNatBelow? bound (.number (toString n)) = some n := by
  have hdigits : (toString n).toList = Nat.toDigits 10 n := String.toList_ofList
  rw [asNatBelow?, hdigits, Integer.digits?_toDigits]
  simp [h]

/-- A list of values each of which is read back. -/
theorem asList?_map {α : Type} {read? : Document → Option α} {write : α → Json} {items : List α}
    (h : ∀ item ∈ items, read? (write item).document = some item) :
    asList? read? (Json.array (items.map write)).document = some items := by
  rw [Json.document, asList?, Json.documents_eq_map]
  induction items with
  | nil => rfl
  | cons item items ih =>
    obtain ⟨hitem, hitems⟩ := List.forall_mem_cons.1 h
    rw [List.map_cons, List.map_cons, List.mapM_cons, hitem, ih hitems]
    rfl

/-! ### What an object has for a record -/

/-- The name of a record's field that a field of an object is taken for. -/
def fieldKey? (names : List (List String)) (name : Option String) : Option String := do
  let name ← name
  let group ← names.find? (·.contains name)
  group.head?

/-- What an object has for a field of a record, as often as it has it, under whichever name. -/
def held (names : List (List String)) (fields : List (Option String × Document)) (key : String) :
    List Document :=
  (fields.filter (fieldKey? names ·.1 == some key)).map Prod.snd

section Held

variable {names : List (List String)}

theorem held_cons (field : Option String × Document) (fields : List (Option String × Document))
    (key : String) :
    held names (field :: fields) key =
      (if fieldKey? names field.1 = some key then [field.2] else []) ++ held names fields key := by
  rw [held, List.filter_cons, beq_eq_decide]
  by_cases h : fieldKey? names field.1 = some key <;> simp [h, held]

theorem addField?_eq_some_iff {before after : Keyed Document} {field : Option String × Document} :
    addField? names before field = some after ↔
      field.1.isSome ∧
        ((fieldKey? names field.1 = none ∧ before = after) ∨
          ∃ key, fieldKey? names field.1 = some key ∧ before.get? key = none ∧
            before.insert key field.2 = after) := by
  obtain ⟨name, document⟩ := field
  cases name with
  | none => simp [addField?]
  | some name =>
    simp only [addField?, fieldKey?, Option.bind_eq_bind, Option.bind_some, Keyed.contains,
      Option.isSome_some, true_and]
    cases names.find? (·.contains name) with
    | none => simp
    | some group =>
      cases group with
      | nil => simp
      | cons key others => cases hget : before.get? key <;> simp [hget]

/-- What was read for a field of the record, with what is still to come for it, stays the same from
one field of the object to the next. -/
theorem append_held_of_addField? {before after : Keyed Document}
    {field : Option String × Document} (h : addField? names before field = some after)
    (fields : List (Option String × Document)) (key : String) :
    (after.get? key).toList ++ held names fields key =
      (before.get? key).toList ++ held names (field :: fields) key := by
  rw [held_cons, ← List.append_assoc]
  congr 1
  obtain ⟨-, ⟨hskipped, rfl⟩ | ⟨read, hread, hnew, rfl⟩⟩ := addField?_eq_some_iff.1 h
  · simp [hskipped]
  · rw [Keyed.get?_insert, hread]
    by_cases hkey : read = key
    · subst hkey
      simp [hnew]
    · simp [hkey]

theorem held_of_foldlM_addField? {fields : List (Option String × Document)}
    {before record : Keyed Document} (h : fields.foldlM (addField? names) before = some record) :
    (∀ field ∈ fields, field.1.isSome) ∧
      ∀ key, (record.get? key).toList = (before.get? key).toList ++ held names fields key := by
  induction fields generalizing before with
  | nil =>
    obtain rfl := Option.some.inj h
    simp [held]
  | cons field fields ih =>
    rw [List.foldlM_cons, Option.bind_eq_bind, Option.bind_eq_some_iff] at h
    obtain ⟨next, hnext, hrest⟩ := h
    obtain ⟨hnames, hheld⟩ := ih hrest
    have hname := (addField?_eq_some_iff.1 hnext).1
    refine ⟨List.forall_mem_cons.2 ⟨hname, hnames⟩, fun key => ?_⟩
    rw [hheld key, append_held_of_addField? hnext]

theorem exists_foldlM_addField?_of_held {fields : List (Option String × Document)}
    {before : Keyed Document} (hnames : ∀ field ∈ fields, field.1.isSome)
    (honce : ∀ key, ((before.get? key).toList ++ held names fields key).length ≤ 1) :
    ∃ record, fields.foldlM (addField? names) before = some record := by
  induction fields generalizing before with
  | nil => exact ⟨before, rfl⟩
  | cons field fields ih =>
    obtain ⟨hname, hrest⟩ := List.forall_mem_cons.1 hnames
    have hstep : ∃ next, addField? names before field = some next := by
      cases hkey : fieldKey? names field.1 with
      | none => exact ⟨_, addField?_eq_some_iff.2 ⟨hname, .inl ⟨hkey, rfl⟩⟩⟩
      | some key =>
        refine ⟨_, addField?_eq_some_iff.2 ⟨hname, .inr ⟨key, hkey, ?_, rfl⟩⟩⟩
        have hlength := honce key
        rw [held_cons, if_pos hkey, List.length_append, List.length_append,
          List.length_singleton] at hlength
        rw [← Option.toList_eq_nil_iff, ← List.length_eq_zero_iff]
        omega
    obtain ⟨next, hnext⟩ := hstep
    have honce' : ∀ key, ((next.get? key).toList ++ held names fields key).length ≤ 1 := by
      intro key
      rw [append_held_of_addField? hnext]
      exact honce key
    obtain ⟨record, hrecord⟩ := ih hrest honce'
    refine ⟨record, ?_⟩
    rw [List.foldlM_cons, hnext]
    exact hrecord

/-- A record has for each of its fields what the object has for it. -/
theorem toList_get?_of_asRecord? {fields : List (Option String × Document)}
    {record : Keyed Document} (h : asRecord? names (.object fields) = some record) (key : String) :
    (record.get? key).toList = held names fields key := by
  have hheld := (held_of_foldlM_addField? h).2 key
  rwa [Keyed.get?_empty, Option.toList_none, List.nil_append] at hheld

theorem get?_of_asRecord? {fields : List (Option String × Document)} {record : Keyed Document}
    (h : asRecord? names (.object fields) = some record) (key : String) :
    record.get? key = (held names fields key).head? := by
  rw [← toList_get?_of_asRecord? h, Option.head?_toList]

/-- An object is a record when all its names are texts and it has no field of the record twice. What
it has under other names does not matter. -/
theorem exists_asRecord?_object_iff {fields : List (Option String × Document)} :
    (∃ record, asRecord? names (.object fields) = some record) ↔
      (∀ field ∈ fields, field.1.isSome) ∧ ∀ key, (held names fields key).length ≤ 1 := by
  constructor
  · rintro ⟨record, hrecord⟩
    refine ⟨(held_of_foldlM_addField? hrecord).1, fun key => ?_⟩
    rw [← toList_get?_of_asRecord? hrecord]
    exact Option.length_toList_le
  · rintro ⟨hnames, honce⟩
    exact exists_foldlM_addField?_of_held hnames honce

end Held

/-! ### Records whose fields go by one name -/

/-- What an object has under a name, as often as it has the name. -/
def under (fields : List (Option String × Document)) (name : String) : List Document :=
  (fields.filter (·.1 == some name)).map Prod.snd

theorem find?_singletons (keys : List String) (name : String) :
    (keys.map fun key => [key]).find? (·.contains name) =
      if name ∈ keys then some [name] else none := by
  induction keys with
  | nil => rfl
  | cons key keys ih =>
    rw [List.map_cons, List.find?_cons, ih]
    by_cases hname : name = key
    · simp [hname]
    · simp [hname]

theorem fieldKey?_singletons (keys : List String) (name : Option String) (key : String) :
    fieldKey? (keys.map fun key => [key]) name = some key ↔ key ∈ keys ∧ name = some key := by
  cases name with
  | none => simp [fieldKey?]
  | some name =>
    simp only [fieldKey?, Option.bind_eq_bind, Option.bind_some, find?_singletons,
      Option.some.injEq]
    by_cases hname : name ∈ keys
    · rw [if_pos hname, Option.bind_some, List.head?_cons, Option.some.injEq]
      exact ⟨fun h => ⟨h ▸ hname, h⟩, And.right⟩
    · rw [if_neg hname, Option.bind_none]
      exact ⟨nofun, fun ⟨hkey, h⟩ => absurd (h ▸ hkey) hname⟩

theorem held_singletons (keys : List String) (fields : List (Option String × Document))
    (key : String) :
    held (keys.map fun key => [key]) fields key = if key ∈ keys then under fields key else [] := by
  simp only [held, under, beq_eq_decide, fieldKey?_singletons]
  by_cases hkey : key ∈ keys <;> simp [hkey]

theorem isSome_of_mem_fieldDocuments (fields : List (String × Json)) :
    ∀ field ∈ Json.fieldDocuments fields, field.1.isSome := by
  induction fields with
  | nil => simp [Json.fieldDocuments]
  | cons field fields ih => exact List.forall_mem_cons.2 ⟨rfl, ih⟩

/-- An object without repeated names has at most one value under a name. -/
theorem under_fieldDocuments {fields : List (String × Json)}
    (hnodup : (fields.map Prod.fst).Nodup) (key : String) :
    under (Json.fieldDocuments fields) key =
      ((Keyed.lookup key fields).map Json.document).toList := by
  induction fields with
  | nil => rfl
  | cons field fields ih =>
    obtain ⟨name, json⟩ := field
    obtain ⟨hname, hrest⟩ := List.nodup_cons.1 hnodup
    rw [Json.fieldDocuments, under, List.filter_cons, Keyed.lookup]
    by_cases hkey : name = key
    · subst hkey
      have hnone := mt (Keyed.lookup_isSome_iff name fields).1 hname
      rw [Option.not_isSome_iff_eq_none] at hnone
      have hunder := ih hrest
      rw [hnone, under] at hunder
      simp [hunder]
    · rw [if_neg hkey, if_neg (by simpa using hkey), ← under]
      exact ih hrest

/-- What a record holds under its names is what the object holds. -/
theorem exists_asRecord? (keys : List String) {fields : List (String × Json)}
    (hnodup : (fields.map Prod.fst).Nodup) :
    ∃ record, asRecord? (keys.map fun key => [key]) (Json.object fields).document = some record ∧
      ∀ key ∈ keys, record.get? key = (Keyed.lookup key fields).map Json.document := by
  have hheld : ∀ key, held (keys.map fun key => [key]) (Json.fieldDocuments fields) key =
      if key ∈ keys then ((Keyed.lookup key fields).map Json.document).toList else [] := by
    intro key
    rw [held_singletons, under_fieldDocuments hnodup]
  obtain ⟨record, hrecord⟩ := exists_asRecord?_object_iff.2
    ⟨isSome_of_mem_fieldDocuments fields, fun key => by
      rw [hheld]
      split
      · exact Option.length_toList_le
      · exact Nat.zero_le 1⟩
  refine ⟨record, hrecord, fun key hkey => ?_⟩
  rw [get?_of_asRecord? hrecord, hheld, if_pos hkey, Option.head?_toList]

/-! ### Fields -/

/-- A reader that takes null for no value reads any other value as it is. -/
theorem asOptional?_of_read {α : Type} {read? : Document → Option α} {document : Document} {a : α}
    (hread : read? document = some a) (hnull : read? .null = none) :
    asOptional? read? document = some (some a) := by
  rw [asOptional?.eq_def]
  split
  · rw [hnull] at hread
    cases hread
  · rw [hread, Option.map_some]

section Fields

variable {α : Type} {record : Keyed Document} {fields : List (String × Json)} {key : String}
  (read? : Document → Option α)
  (hget : record.get? key = (Keyed.lookup key fields).map Json.document)

include hget

theorem required?_of_hasField {holds : Json → Prop} {value : α}
    (hread : ∀ json, holds json → read? json.document = some value)
    (h : Json.HasField fields key holds) : required? record key read? = some value := by
  obtain ⟨json, hlookup, hholds⟩ := h
  rw [required?, hget, hlookup]
  exact hread json hholds

theorem withDefault?_of_hasDefault {holds : Json → Prop} {isDefault : Prop} {value : α}
    (default : α) (hread : ∀ json, holds json → read? json.document = some value)
    (hdefault : isDefault → default = value)
    (h : Json.HasDefault fields key holds isDefault) :
    withDefault? record key read? default = some value := by
  rcases h with ⟨json, hlookup, hholds⟩ | ⟨hisDefault, hlookup⟩
  · rw [withDefault?, hget, hlookup]
    exact hread json hholds
  · rw [withDefault?, hget, hlookup, ← hdefault hisDefault]
    rfl

/-- A reader that takes null for no value tells nothing from something. -/
theorem optional?_of_hasOptional {holds : α → Json → Prop} {value : Option α}
    (hread : ∀ a json, holds a json → read? json.document = some a) (hnull : read? .null = none)
    (h : Json.HasOptional fields key holds value) : optional? record key read? = some value := by
  cases value with
  | none =>
    apply withDefault?_of_hasDefault _ hget none _ (fun _ => rfl) h
    rintro json rfl
    rfl
  | some a =>
    have hfield : Json.HasDefault fields key (holds a) False := .inl h
    apply withDefault?_of_hasDefault _ hget none _ (fun h => h.elim) hfield
    exact fun json hholds => asOptional?_of_read (hread a json hholds) hnull

end Fields

/-- A part is read from a field that is there if the part is. -/
theorem optional?_of_get? {α : Type} {record : Keyed Document} {key : String} {value : Option α}
    {write : α → Json} {read? : Document → Option α}
    (hget : record.get? key = (value.map write).map Json.document)
    (hread : ∀ a ∈ value, read? (write a).document = some a) (hnull : read? .null = none) :
    optional? record key read? = some value := by
  rw [optional?, withDefault?, hget]
  cases value with
  | none => rfl
  | some a => exact asOptional?_of_read (hread a rfl) hnull

/-! ### What is read -/

end Document
end SeriesSql
