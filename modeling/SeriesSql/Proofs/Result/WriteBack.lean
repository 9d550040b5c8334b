import Mathlib
import SeriesSql.Proofs.Check
import SeriesSql.Proofs.Result.WideInteger

/-!
# Writing decoded cells back

A cell of a response is decoded to a value of few kinds, which its column's type tells. Most of them
have a literal in a column of the same type, so what was read can be compared with and stored again.
Cells that are passed on as JSON have none, and neither have the infinities, the negative numbers in
columns of unsigned integers, and texts where a column wants an array or a geohash.
-/

namespace SeriesSql

open ColumnType (ofWireName?)

namespace Cell

/-- The types whose cells are passed on as they are. -/
def passedOn : List ColumnType :=
  [.char, .decimal, .symbol, .varchar, .string, .uuid, .ipv4, .geohash, .array]

/-- What a cell other than null may be decoded to in a column of a type. -/
def Yields (type : ColumnType) (cell : Json) (value : Value) : Prop :=
  match type with
  | .boolean => ∃ b, value = .bool b
  | .byte | .short | .int => ∃ n, value = .int n
  | .long | .long256 => ∃ n, value = .bigInt n
  | .float | .double => ∃ x, value = .float x
  | .date | .timestamp => ∃ t, value = .timestamp t
  | .timestampNs => (∃ n, value = .bigInt n) ∨ ∃ t, value = .timestamp t
  | .binary => ∃ bytes, value = .binary bytes
  | .char | .decimal | .symbol | .varchar | .string | .uuid | .ipv4 | .geohash | .array =>
    value = passOn cell

/-! ### The values of the kinds of columns -/

theorem timestamp_yields {ticksPerSecond : Nat} {cell : Json} {value : Value}
    (h : timestamp ticksPerSecond cell = .ok value) : ∃ t, value = .timestamp t := by
  rw [timestamp.eq_def] at h
  split at h
  · split at h
    · exact ⟨_, (Except.ok.inj h).symm⟩
    · cases h
  · split at h
    · cases h
    · split at h
      · exact ⟨_, (Except.ok.inj h).symm⟩
      · cases h
  · cases h

theorem wideInteger_yields {radix : Nat} {fault : CellFault} {cs : List Char} {value : Value}
    (h : wideInteger radix fault cs = .ok value) : ∃ n, value = .bigInt n := by
  rw [wideInteger] at h
  split at h
  · exact ⟨_, (Except.ok.inj h).symm⟩
  · cases h

theorem integer_yields {cell : Json} {value : Value} (h : integer cell = .ok value) :
    ∃ n, value = .bigInt n := by
  rw [integer.eq_def] at h
  split at h
  · exact wideInteger_yields h
  · split at h <;> exact wideInteger_yields h
  · cases h

theorem nanoTimestamp_yields {cell : Json} {value : Value} (h : nanoTimestamp cell = .ok value) :
    (∃ n, value = .bigInt n) ∨ ∃ t, value = .timestamp t := by
  rw [nanoTimestamp.eq_def] at h
  split at h
  · exact .inl (wideInteger_yields h)
  · split at h
    · exact .inl (wideInteger_yields h)
    · exact .inr (timestamp_yields h)
  · exact .inr (timestamp_yields h)

theorem boundedInteger_yields {lo hi : Int} {cell : Json} {value : Value}
    (h : boundedInteger lo hi cell = .ok value) : ∃ n, value = .int n := by
  rw [boundedInteger] at h
  split at h
  · cases h
  · split at h
    · exact ⟨_, (Except.ok.inj h).symm⟩
    · cases h

theorem double_yields {cell : Json} {value : Value} (h : double cell = .ok value) :
    ∃ x, value = .float x := by
  rw [double] at h
  split at h
  · exact ⟨_, (Except.ok.inj h).symm⟩
  · cases h

theorem bytes_yields {cell : Json} {value : Value} (h : bytes cell = .ok value) :
    ∃ bytes, value = .binary bytes := by
  rw [bytes.eq_def] at h
  split at h
  · obtain ⟨decoded, -, hvalue⟩ := Check.map_eq_ok_iff.1 (Check.mapError_eq_ok_iff.1 h)
    exact ⟨decoded, hvalue.symm⟩
  · cases h

theorem ofType_yields {type : ColumnType} {cell : Json} {value : Value}
    (h : ofType type cell = .ok value) : Yields type cell value := by
  cases type with
  | boolean => exact ⟨_, (Except.ok.inj h).symm⟩
  | byte | short | int => exact boundedInteger_yields h
  | long | long256 => exact integer_yields h
  | float | double => exact double_yields h
  | date | timestamp => exact timestamp_yields h
  | timestampNs => exact nanoTimestamp_yields h
  | binary => exact bytes_yields h
  | char | decimal | symbol | varchar | string | uuid | ipv4 | geohash | array =>
    exact (Except.ok.inj h).symm

/-! ### Their literals -/

/-- The decoded values that have no literal in a column of the type that they were decoded by. -/
def Unwritable (type : ColumnType) : Value → Prop
  | .json _ => True
  | .text s => type = .array ∨ type = .geohash ∧ Literal.isGeohash s = false
  | .float (.infinite _) => True
  | .bigInt n => type = .long256 ∧ n < 0
  | _ => False

/-- The value has a literal unless it is one of these, which are refused by name. -/
def Decided (type : ColumnType) (value : Value) : Prop :=
  (¬ Unwritable type value → ∃ text, Literal.ofValue value type = .ok text) ∧
    (Unwritable type value →
      ∃ fault, Literal.ofValue value type = .error (.literal value type fault))

theorem Decided.written {type : ColumnType} {value : Value} (hwritable : ¬ Unwritable type value)
    (h : ∃ text, Literal.ofValue value type = .ok text) : Decided type value :=
  ⟨fun _ => h, fun hrefused => absurd hrefused hwritable⟩

theorem Decided.refused {type : ColumnType} {value : Value} (hrefused : Unwritable type value)
    (h : ∃ fault, Literal.ofValue value type = .error (.literal value type fault)) :
    Decided type value :=
  ⟨fun hwritable => absurd hrefused hwritable, fun _ => h⟩

theorem decided_long256 (n : ℤ) : Decided .long256 (.bigInt n) := by
  have hliteral := Literal.ofLong256_bigInt n
  split at hliteral
  · rename_i hneg
    exact .refused ⟨rfl, hneg⟩ ⟨_, hliteral⟩
  · rename_i hnonneg
    exact .written (fun h => hnonneg h.2) ⟨_, hliteral⟩

theorem decided_float {type : ColumnType} (htype : type = .float ∨ type = .double) (x : Double) :
    Decided type (.float x) := by
  rcases htype with rfl | rfl
  all_goals
    cases x with
    | infinite negative => exact .refused trivial ⟨_, rfl⟩
    | nan | finite negative rank => exact .written id ⟨_, rfl⟩

theorem decided_geohash (cell : Json) : Decided .geohash (passOn cell) := by
  cases cell with
  | string s =>
    have hliteral : Literal.ofValue (.text s) .geohash =
        Literal.blame (.text s) .geohash (Literal.ofGeohash (.text s)) := rfl
    rw [Literal.ofGeohash] at hliteral
    split at hliteral
    · rename_i hash
      exact .written (by simp [passOn, Unwritable, hash]) ⟨_, hliteral⟩
    · rename_i hash
      exact .refused (.inr ⟨rfl, Bool.eq_false_iff.2 hash⟩) ⟨_, hliteral⟩
  | _ => exact .refused trivial ⟨_, rfl⟩

theorem decided_array (cell : Json) : Decided .array (passOn cell) := by
  cases cell with
  | string s => exact .refused (.inl rfl) ⟨_, rfl⟩
  | _ => exact .refused trivial ⟨_, rfl⟩

theorem decided_of_yields {type : ColumnType} (htype : type ≠ .binary) {cell : Json} {value : Value}
    (h : Yields type cell value) : Decided type value := by
  cases type with
  | boolean | byte | short | int | date | timestamp =>
    obtain ⟨_, rfl⟩ := h
    exact .written id ⟨_, rfl⟩
  | long =>
    obtain ⟨_, rfl⟩ := h
    exact .written (fun hrefused => nomatch hrefused.1) ⟨_, rfl⟩
  | long256 =>
    obtain ⟨n, rfl⟩ := h
    exact decided_long256 n
  | float =>
    obtain ⟨x, rfl⟩ := h
    exact decided_float (.inl rfl) x
  | double =>
    obtain ⟨x, rfl⟩ := h
    exact decided_float (.inr rfl) x
  | timestampNs =>
    obtain ⟨_, rfl⟩ | ⟨_, rfl⟩ := h
    · exact .written (fun hrefused => nomatch hrefused.1) ⟨_, rfl⟩
    · exact .written id ⟨_, rfl⟩
  | binary => exact absurd rfl htype
  | geohash => exact h ▸ decided_geohash cell
  | array => exact h ▸ decided_array cell
  | char | decimal | symbol | varchar | string | uuid | ipv4 =>
    obtain rfl := h
    cases cell with
    | string s => exact .written (by simp [passOn, Unwritable]) ⟨_, rfl⟩
    | _ => exact .refused trivial ⟨_, rfl⟩

theorem json_of_yields_iff {type : ColumnType} {cell : Json} {value : Value}
    (h : Yields type cell value) :
    (∃ document, value = .json document) ↔ type ∈ passedOn ∧ ∀ s, cell ≠ .string s := by
  have hpassed : (∃ document, passOn cell = .json document) ↔ ∀ s, cell ≠ .string s := by
    cases cell with
    | string s => exact iff_of_false nofun fun hne => hne s rfl
    | _ => exact iff_of_true ⟨_, rfl⟩ nofun
  cases type with
  | char | decimal | symbol | varchar | string | uuid | ipv4 | geohash | array =>
    obtain rfl := h
    rw [hpassed, and_iff_right (by decide)]
  | timestampNs =>
    obtain ⟨_, rfl⟩ | ⟨_, rfl⟩ := h
    all_goals exact iff_of_false nofun fun hmem => absurd hmem.1 (by decide)
  | _ =>
    obtain ⟨_, rfl⟩ := h
    exact iff_of_false nofun fun hmem => absurd hmem.1 (by decide)

/-- A cell that was decoded in a column without bytes has a literal of the column's type unless it
was passed on as JSON, or is a text for an array or no geohash, an infinity, or negative in a column
of unsigned integers. Such a value is refused by name. What is passed on as JSON is everything but
null and texts in the columns whose cells are not looked at. -/
theorem decoded_has_literal_iff {cell : Json} {wire : String} {type : ColumnType} {value : Value}
    (hwire : ofWireName? wire = some type) (htype : type ≠ .binary)
    (hdecode : decode cell wire = .ok value) :
    ((∃ text, Literal.ofValue value type = .ok text) ↔ ¬ Unwritable type value) ∧
      (Unwritable type value →
        ∃ fault, Literal.ofValue value type = .error (.literal value type fault)) ∧
      ((∃ document, value = .json document) ↔
        cell ≠ .null ∧ type ∈ passedOn ∧ ∀ s, cell ≠ .string s) := by
  by_cases hcell : cell = .null
  · subst hcell
    obtain rfl := Except.ok.inj hdecode
    exact ⟨iff_of_true ⟨_, rfl⟩ id, False.elim, iff_of_false nofun fun h => h.1 rfl⟩
  · rw [decode_eq_mapError hwire hcell, Check.mapError_eq_ok_iff] at hdecode
    have hyields := ofType_yields hdecode
    obtain ⟨hwritten, hrefused⟩ := decided_of_yields htype hyields
    refine ⟨⟨?_, hwritten⟩, hrefused, ?_⟩
    · rintro ⟨text, htext⟩ hunwritable
      obtain ⟨fault, hfault⟩ := hrefused hunwritable
      rw [htext] at hfault
      cases hfault
    · rw [json_of_yields_iff hyields, and_iff_right hcell]

/-- A geohash that was read is written back. -/
theorem decoded_has_literal_iff_geohash :
    ofWireName? "GEOHASH(5c)" = some .geohash ∧
      decode (.string "u33d8") "GEOHASH(5c)" = .ok (.text "u33d8") ∧
      (∃ text, Literal.ofValue (.text "u33d8") .geohash = .ok text) ∧
      ¬ ∃ document, Value.text "u33d8" = .json document := by
  have hwire : ofWireName? "GEOHASH(5c)" = some .geohash := by decide
  have hdecode : decode (.string "u33d8") "GEOHASH(5c)" = .ok (.text "u33d8") := rfl
  have hgeohash : Literal.isGeohash "u33d8" := by decide
  obtain ⟨hliteral, -, hjson⟩ := decoded_has_literal_iff hwire nofun hdecode
  exact ⟨hwire, hdecode, hliteral.2 (by simp [Unwritable, hgeohash]),
    fun h => (hjson.1 h).2.2 "u33d8" rfl⟩

/-- A cell is decoded in a column, to a value without a literal of the column's type. -/
def ReadOnly (cell : Json) (wire : String) : Prop :=
  ∃ type value, ofWireName? wire = some type ∧ decode cell wire = .ok value ∧
    ∀ text, Literal.ofValue value type ≠ .ok text

/-- An array of numbers and a number in a column of texts, which are passed on as JSON, a text in a
column of arrays and one that is no geohash, an infinity and a negative number. -/
theorem decoded_cells_refused :
    ReadOnly (.array [.number "1.5", .number "2"]) "DOUBLE[]" ∧ ReadOnly (.number "5") "VARCHAR" ∧
      ReadOnly (.string "5") "DOUBLE[]" ∧ ReadOnly (.string "a") "GEOHASH(1c)" ∧
      ReadOnly (.string "inf") "DOUBLE" ∧ ReadOnly (.number "-1") "LONG256" := by
  refine ⟨⟨.array, _, ?_, rfl, nofun⟩, ⟨.varchar, _, ?_, rfl, nofun⟩, ⟨.array, _, ?_, rfl, nofun⟩,
    ⟨.geohash, _, ?_, rfl, nofun⟩, ⟨.double, .float (.infinite false), ?_, rfl, nofun⟩,
    ⟨.long256, .bigInt (-1), ?_, rfl, nofun⟩⟩
  all_goals decide

end Cell
end SeriesSql
