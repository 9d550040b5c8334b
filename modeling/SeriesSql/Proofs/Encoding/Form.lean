import Mathlib
import SeriesSql.Proofs.Encoding.Percent
import SeriesSql.Url.Basic

/-!
# Forms give their fields back

A form is read field by field: ampersands stand between the fields, the first equals sign of a field
ends its name, plus signs are spaces, and what percent signs encode are bytes of UTF-8. What is
encoded for a form has none of these signs of its own, so a field that is written is the one that is
read, whatever characters it has.
-/

namespace SeriesSql.Percent

/-! ### Reading a form -/

/-- The space that a plus sign is in a form. -/
def unplus (c : Char) : Char :=
  if c = '+' then ' ' else c

def formDecode? (cs : List Char) : Option String :=
  String.fromUTF8? (decode (utf8 (cs.map unplus))).toByteArray

/-- The name and the value of a field, which ends with its name if it has no equals sign. -/
def formField? (cs : List Char) : Option (String × String) := do
  let (name, value) := cs.span (· ≠ '=')
  return (← formDecode? name, ← formDecode? value.tail)

/-- The fields of a form. Nothing between ampersands is no field. -/
def formFields? (form : String) : Option (List (String × String)) :=
  ((form.toList.splitOn '&').filter fun field => !field.isEmpty).mapM formField?

/-! ### Encoded characters -/

/-- A character that may come of encoding for a form. -/
def InForm (c : Char) : Prop :=
  isFormChar c = true ∨ c = '+' ∨ c = '%'

instance (c : Char) : Decidable (InForm c) :=
  inferInstanceAs (Decidable (_ ∨ _ ∨ _))

theorem map_unplus_encodeChar (c : Char) : (encodeChar c).map unplus = encodeChar c := by
  refine (List.map_congr_left fun d hd => if_neg fun hplus => ?_).trans (List.map_id _)
  obtain hpercent | hform := eq_percent_or_of_mem_encodeChar hd
  · exact absurd (hplus.symm.trans hpercent) (by decide)
  · exact absurd (hplus ▸ hform) (by decide)

theorem inForm_of_mem_formEncode {cs : List Char} {c : Char} (hc : c ∈ formEncode cs) :
    InForm c := by
  obtain ⟨d, -, hc⟩ := List.mem_flatMap.1 hc
  unfold formChar at hc
  split at hc
  · exact .inr (.inl (List.mem_singleton.1 hc))
  · split at hc
    · next hd => exact .inl (List.mem_singleton.1 hc ▸ hd)
    · obtain hpercent | hform := eq_percent_or_of_mem_encodeChar hc
      · exact .inr (.inr hpercent)
      · exact .inl hform

theorem not_mem_formEncode {sign : Char} (hsign : ¬ InForm sign) (cs : List Char) :
    sign ∉ formEncode cs :=
  fun h => hsign (inForm_of_mem_formEncode h)

/-- A character that is encoded for a form is decoded in front of anything. -/
theorem decode_formChar (c : Char) (rest : List UInt8) :
    decode (utf8 ((formChar c).map unplus) ++ rest) = String.utf8EncodeChar c ++ decode rest := by
  unfold formChar
  split
  · next hspace =>
    subst hspace
    exact decode_cons_of_ne (by decide) rest
  · split
    · next hc =>
      have hplus : c ≠ '+' := fun h => absurd (h ▸ hc) (by decide)
      have hpercent : c ≠ '%' := fun h => absurd (h ▸ hc) (by decide)
      have hlt := lt_of_isFormChar hc
      have hbyte : UInt8.ofNat c.toNat ≠ 0x25 := by
        intro h
        have hcode := congrArg UInt8.toNat h
        rw [UInt8.toNat_ofNat', Nat.mod_eq_of_lt (by omega)] at hcode
        exact hpercent (Char.toNat_inj.1 hcode)
      rw [List.map_singleton, unplus, if_neg hplus, utf8, List.flatMap_singleton,
        utf8EncodeChar_of_lt hlt]
      exact decode_cons_of_ne hbyte rest
    · rw [map_unplus_encodeChar, decode_encodeChar]

theorem decode_formEncode (cs : List Char) :
    decode (utf8 ((formEncode cs).map unplus)) = utf8 cs := by
  induction cs with
  | nil => rfl
  | cons c cs ih =>
    rw [formEncode, List.flatMap_cons, List.map_append, utf8_append, decode_formChar, ← formEncode,
      ih]
    rfl

theorem formDecode?_formEncode (cs : List Char) :
    formDecode? (formEncode cs) = some (String.ofList cs) := by
  have hvalid : cs.utf8Encode.IsValidUTF8 := ⟨cs, rfl⟩
  rw [formDecode?, decode_formEncode]
  exact dif_pos hvalid

/-! ### Fields -/

/-- A field is read as the one that is written. -/
theorem formField?_encoded (name value : List Char) :
    formField? (formEncode name ++ '=' :: formEncode value) =
      some (String.ofList name, String.ofList value) := by
  have hname : ∀ c ∈ formEncode name, decide (c ≠ '=') = true := fun c hc =>
    decide_eq_true fun h => not_mem_formEncode (by decide) name (h ▸ hc)
  rw [formField?, List.span_eq_takeWhile_dropWhile, List.takeWhile_append_of_pos hname,
    List.dropWhile_append_of_pos hname]
  simp [formDecode?_formEncode]

/-- The form of one field has that field and no other. -/
theorem formFields?_field (name value : List Char) :
    formFields? (String.ofList (formEncode name ++ '=' :: formEncode value)) =
      some [(String.ofList name, String.ofList value)] := by
  have hamp : '&' ∉ formEncode name ++ '=' :: formEncode value := by
    have hpart : ∀ cs, '&' ∉ formEncode cs := not_mem_formEncode (by decide)
    simp [hpart]
  rw [formFields?, String.toList_ofList, List.splitOn_eq_singleton hamp]
  simp [formField?_encoded]

/-- A URL that gets a field has a query with that field only, which no hash sign ends. -/
theorem exists_query_withField (url : Url) (name value : String) :
    ∃ query, url.withField name value = { url with query := some query } ∧
      '#' ∉ query.toList ∧ formFields? query = some [(name, value)] := by
  refine ⟨_, rfl, ?_, ?_⟩
  · have hpart : ∀ cs, '#' ∉ formEncode cs := not_mem_formEncode (by decide)
    simp [hpart]
  · rw [formFields?_field, String.ofList_toList, String.ofList_toList]

end SeriesSql.Percent
