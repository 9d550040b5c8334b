import Mathlib
import SeriesSql.Proofs.Json.Written

/-!
# A value is read back as it is

The value of a document has the fields of each object in the order of their names, without repeats.
Written and read again it gives the same value. The one exception are objects whose first field has
the reserved name, which stand for a number.
-/

namespace SeriesSql

namespace Json

/-! ### Sorted fields -/

/-- Fields in the order of their names, without repeats. -/
def Sorted (fields : List (String × Json)) : Prop :=
  fields.Pairwise fun field other => field.1 < other.1

theorem mem_insertField {fields : List (String × Json)} {name : String} {value : Json}
    {field : String × Json} (h : field ∈ insertField fields name value) :
    field = (name, value) ∨ field ∈ fields := by
  induction fields with
  | nil => exact .inl (List.mem_singleton.1 h)
  | cons other fields ih =>
    obtain ⟨key, old⟩ := other
    rw [insertField] at h
    split at h
    · exact List.mem_cons.1 h
    · split at h
      · rename_i hkey
        rcases List.mem_cons.1 h with rfl | h
        · exact .inl (by rw [hkey])
        · exact .inr (List.mem_cons_of_mem _ h)
      · rcases List.mem_cons.1 h with rfl | h
        · exact .inr List.mem_cons_self
        · exact (ih h).imp_right (List.mem_cons_of_mem _)

theorem Sorted.insertField {fields : List (String × Json)} (h : Sorted fields) (name : String)
    (value : Json) : Sorted (insertField fields name value) := by
  induction fields with
  | nil => exact List.pairwise_singleton _ _
  | cons other fields ih =>
    obtain ⟨key, old⟩ := other
    obtain ⟨hkey, hfields⟩ := List.pairwise_cons.1 h
    rw [Json.insertField]
    split
    · rename_i hlt
      refine List.pairwise_cons.2 ⟨List.forall_mem_cons.2 ⟨hlt, ?_⟩, h⟩
      exact fun field hfield => hlt.trans (hkey field hfield)
    · rename_i hnlt
      split
      · exact List.pairwise_cons.2 ⟨hkey, hfields⟩
      · rename_i hne
        have hgt : key < name := lt_of_le_of_ne (not_lt.1 hnlt) (Ne.symm hne)
        refine List.pairwise_cons.2 ⟨fun field hfield => ?_, ih hfields⟩
        rcases mem_insertField hfield with rfl | hfield
        · exact hgt
        · exact hkey field hfield

private theorem sorted_foldl_insertField (fields : List (String × Json))
    {sorted : List (String × Json)} (hsorted : Sorted sorted) :
    Sorted (fields.foldl (fun sorted field => Json.insertField sorted field.1 field.2) sorted) := by
  induction fields generalizing sorted with
  | nil => exact hsorted
  | cons field fields ih => exact ih (hsorted.insertField _ _)

theorem sorted_sortFields (fields : List (String × Json)) : Sorted (sortFields fields) :=
  sorted_foldl_insertField fields List.Pairwise.nil

private theorem mem_foldl_insertField {fields sorted : List (String × Json)}
    {field : String × Json}
    (h : field ∈ fields.foldl (fun sorted field => insertField sorted field.1 field.2) sorted) :
    field ∈ fields ∨ field ∈ sorted := by
  induction fields generalizing sorted with
  | nil => exact .inr h
  | cons other fields ih =>
    rcases ih h with h | h
    · exact .inl (List.mem_cons_of_mem _ h)
    · rcases mem_insertField h with rfl | h
      · exact .inl List.mem_cons_self
      · exact .inr h

theorem mem_of_mem_sortFields {fields : List (String × Json)} {field : String × Json}
    (h : field ∈ sortFields fields) : field ∈ fields :=
  (mem_foldl_insertField h).resolve_right List.not_mem_nil

/-- A name above all others comes last. -/
theorem insertField_of_lt {fields : List (String × Json)} {name : String}
    (h : ∀ field ∈ fields, field.1 < name) (value : Json) :
    insertField fields name value = fields ++ [(name, value)] := by
  induction fields with
  | nil => rfl
  | cons other fields ih =>
    obtain ⟨key, old⟩ := other
    obtain ⟨hkey, hfields⟩ := List.forall_mem_cons.1 h
    rw [insertField, if_neg (not_lt_of_gt hkey), if_neg (ne_of_gt hkey), ih hfields,
      List.cons_append]

private theorem foldl_insertField_of_sorted {sorted fields : List (String × Json)}
    (h : Sorted (sorted ++ fields)) :
    fields.foldl (fun sorted field => insertField sorted field.1 field.2) sorted =
      sorted ++ fields := by
  induction fields generalizing sorted with
  | nil => exact (List.append_nil _).symm
  | cons field fields ih =>
    have hlast : ∀ other ∈ sorted, other.1 < field.1 := fun other hother =>
      (List.pairwise_append.1 h).2.2 other hother field List.mem_cons_self
    have happend : sorted ++ field :: fields = sorted ++ [(field.1, field.2)] ++ fields := by
      rw [List.append_assoc, List.singleton_append]
    rw [happend] at h ⊢
    rw [List.foldl_cons, insertField_of_lt hlast, ih h]

theorem sortFields_of_sorted {fields : List (String × Json)} (h : Sorted fields) :
    sortFields fields = fields :=
  foldl_insertField_of_sorted h

end Json

namespace Document

mutual

/-- The names in the objects of a document, as far as they have a text. -/
def names : Document → List String
  | array items => itemsNames items
  | object fields => fieldsNames fields
  | null => []
  | bool _ => []
  | number _ => []
  | string _ => []

def itemsNames : List Document → List String
  | [] => []
  | item :: rest => item.names ++ itemsNames rest

def fieldsNames : List (Option String × Document) → List String
  | [] => []
  | (name, value) :: rest => name.toList ++ value.names ++ fieldsNames rest

end

theorem mem_fieldsNames_of_wrapsNumber {fields : List (Option String × Document)}
    (h : wrapsNumber fields = true) : numberFieldName ∈ fieldsNames fields := by
  cases fields with
  | nil => cases h
  | cons field fields =>
    obtain ⟨name, value⟩ := field
    obtain rfl := eq_of_beq h
    rw [fieldsNames, List.append_assoc]
    exact List.mem_append_left _ List.mem_cons_self

/-- A value that its own document gives back, with at most `depth` arrays and objects in one
another. -/
structure Settled (depth : Nat) (json : Json) : Prop where
  exact : Exact json
  again : toJson? depth json.document = some json

theorem itemsToJson?_documents {depth : Nat} {items : List Json}
    (h : ∀ item ∈ items, Settled depth item) :
    itemsToJson? depth (Json.documents items) = some items := by
  induction items with
  | nil => rfl
  | cons item items ih =>
    obtain ⟨hitem, hitems⟩ := List.forall_mem_cons.1 h
    rw [Json.documents, itemsToJson?, hitem.again, ih hitems]
    rfl

theorem fieldsToJson?_fieldDocuments {depth : Nat} {fields : List (String × Json)}
    (h : ∀ field ∈ fields, Settled depth field.2) :
    fieldsToJson? depth (Json.fieldDocuments fields) = some fields := by
  induction fields with
  | nil => rfl
  | cons field fields ih =>
    obtain ⟨name, value⟩ := field
    obtain ⟨hvalue, hfields⟩ := List.forall_mem_cons.1 h
    rw [Json.fieldDocuments, fieldsToJson?, hvalue.again, ih hfields]
    rfl

theorem Settled.array {depth : Nat} {items : List Json} (h : ∀ item ∈ items, Settled depth item) :
    Settled (depth + 1) (.array items) where
  exact := .array fun item hitem => (h item hitem).exact
  again := by
    rw [Json.document, toJson?, if_neg (Nat.succ_ne_zero depth), Nat.add_sub_cancel,
      itemsToJson?_documents h]
    rfl

theorem Settled.object {depth : Nat} {fields : List (String × Json)} (hsorted : Json.Sorted fields)
    (hnames : numberFieldName ∉ fields.map Prod.fst) (h : ∀ field ∈ fields, Settled depth field.2) :
    Settled (depth + 1) (.object fields) where
  exact := .object fun field hfield => (h field hfield).exact
  again := by
    have hwraps : ¬ wrapsNumber (Json.fieldDocuments fields) = true := by
      cases fields with
      | nil => exact Bool.false_ne_true
      | cons field fields =>
        rw [List.map_cons, List.mem_cons, not_or] at hnames
        simpa [Json.fieldDocuments, wrapsNumber] using Ne.symm hnames.1
    rw [Json.document, toJson?, if_neg (Nat.succ_ne_zero depth), if_neg hwraps, Nat.add_sub_cancel,
      fieldsToJson?_fieldDocuments h]
    simp only [Option.map_some, Json.sortFields_of_sorted hsorted]

mutual

/-- The value of a document that was read is settled. -/
theorem Written.settled (written : Written) {depth : Nat} {json : Json}
    (hnames : numberFieldName ∉ written.document.names)
    (h : toJson? depth written.document = some json) : Settled depth json := by
  match written with
  | .null =>
    obtain rfl := Option.some.inj h
    exact ⟨.null, rfl⟩
  | .bool b =>
    obtain rfl := Option.some.inj h
    exact ⟨.bool b, rfl⟩
  | .number n =>
    obtain rfl := Option.some.inj h
    exact ⟨.number n.isNumber_text, rfl⟩
  | .string text =>
    obtain ⟨s, rfl, rfl⟩ := Option.map_eq_some_iff.1 h
    exact ⟨.string s, rfl⟩
  | .array items =>
    rw [document, toJson?] at h
    split at h
    · cases h
    · rename_i hdepth
      obtain ⟨depth, rfl⟩ := Nat.exists_eq_succ_of_ne_zero hdepth
      obtain ⟨values, hvalues, rfl⟩ := Option.map_eq_some_iff.1 h
      exact .array (Written.settled_items items hnames hvalues)
  | .object fields =>
    rw [document, toJson?] at h
    split at h
    · cases h
    · rename_i hdepth
      obtain ⟨depth, rfl⟩ := Nat.exists_eq_succ_of_ne_zero hdepth
      rw [if_neg fun hwraps => hnames (mem_fieldsNames_of_wrapsNumber hwraps)] at h
      obtain ⟨values, hvalues, rfl⟩ := Option.map_eq_some_iff.1 h
      -- Sorting drops and moves fields, but makes no new ones.
      have hfields := Written.settled_fields fields hnames hvalues
      refine .object (Json.sorted_sortFields values) ?_ fun field hfield =>
        (hfields field (Json.mem_of_mem_sortFields hfield)).2
      rw [List.mem_map]
      rintro ⟨field, hfield, hname⟩
      exact (hfields field (Json.mem_of_mem_sortFields hfield)).1 hname

theorem Written.settled_items (items : List Written) {depth : Nat} {values : List Json}
    (hnames : numberFieldName ∉ itemsNames (documents items))
    (h : itemsToJson? depth (documents items) = some values) :
    ∀ value ∈ values, Settled depth value := by
  match items with
  | [] =>
    obtain rfl := Option.some.inj h
    simp
  | item :: items =>
    rw [documents, itemsNames, List.mem_append, not_or] at hnames
    simp only [documents, itemsToJson?, Option.bind_eq_bind, Option.bind_eq_some_iff] at h
    obtain ⟨value, hvalue, values, hvalues, heq⟩ := h
    obtain rfl := Option.some.inj heq
    exact List.forall_mem_cons.2
      ⟨item.settled hnames.1 hvalue, Written.settled_items items hnames.2 hvalues⟩

theorem Written.settled_fields (fields : List (Option String × Written)) {depth : Nat}
    {values : List (String × Json)}
    (hnames : numberFieldName ∉ fieldsNames (fieldDocuments fields))
    (h : fieldsToJson? depth (fieldDocuments fields) = some values) :
    ∀ field ∈ values, field.1 ≠ numberFieldName ∧ Settled depth field.2 := by
  match fields with
  | [] =>
    obtain rfl := Option.some.inj h
    simp
  | (name, value) :: fields =>
    rw [fieldDocuments, fieldsNames, List.mem_append, List.mem_append, not_or, not_or] at hnames
    simp only [fieldDocuments, fieldsToJson?, Option.bind_eq_bind, Option.bind_eq_some_iff] at h
    obtain ⟨key, rfl, json, hjson, values, hvalues, heq⟩ := h
    obtain rfl := Option.some.inj heq
    refine List.forall_mem_cons.2
      ⟨⟨?_, value.settled hnames.1.2 hjson⟩, Written.settled_fields fields hnames.2 hvalues⟩
    rintro rfl
    exact hnames.1.1 List.mem_cons_self

end

end Document
end SeriesSql
