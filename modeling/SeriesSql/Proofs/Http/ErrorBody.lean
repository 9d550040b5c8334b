import Mathlib
import SeriesSql.Http.Exchange
import SeriesSql.Proofs.Json.Record
import SeriesSql.Proofs.Text.Blank

/-!
# What a body says of an error

An answer that is no success says what went wrong: in a JSON document that describes an error, in
any other text, or not at all. The description is a record of a message and of the place in the
statement, which may be left out. Where the body is no such record its text is the message, without
the white space around it, and a body of white space alone leaves only the status to tell.
-/

namespace SeriesSql

namespace Document

theorem asText?_eq_some_iff {document : Document} {text : String} :
    asText? document = some text ↔ document = .string (some text) := by
  cases document <;> simp [asText?]

theorem asNatBelow?_eq_some_iff {bound n : Nat} {document : Document} :
    asNatBelow? bound document = some n ↔
      ∃ text, document = .number text ∧ Numeral.Digits text.toList ∧
        n = Integer.ofDecimal text.toList ∧ n < bound := by
  cases document with
  | number text =>
    rw [asNatBelow?, Option.filter_eq_some_iff, Integer.digits?_eq_some_iff]
    simp [and_assoc]
  | _ => simp [asNatBelow?]

end Document

namespace Http

/-- Where in the statement an error is, by what a body has for it: nowhere if that is left out or
null, and otherwise at a number of 64 bits that is written with digits alone. -/
inductive Locates : List Document → Option Nat → Prop where
  | absent : Locates [] none
  | null : Locates [.null] none
  | number {text : String} : Numeral.Digits text.toList →
      Integer.ofDecimal text.toList < UInt64.size →
      Locates [.number text] (some (Integer.ofDecimal text.toList))

/-- The error that a document describes, in an object or in the items of an array. An object may
have other fields too, but these two at most once. -/
inductive Describes : Document → String → Option Nat → Prop where
  | object {fields : List (Option String × Document)} {message : String} {position : Option Nat} :
      (∀ field ∈ fields, field.1.isSome) →
      Document.under fields "error" = [.string (some message)] →
      Locates (Document.under fields "position") position →
      Describes (.object fields) message position
  | array {message : String} {rest : List Document} {position : Option Nat} :
      Locates rest position → Describes (.array (.string (some message) :: rest)) message position

theorem Locates.length_le {documents : List Document} {position : Option Nat}
    (h : Locates documents position) : documents.length ≤ 1 := by
  cases h <;> simp

theorem locates_singleton_iff {document : Document} {position : Option Nat} :
    Locates [document] position ↔
      Document.asOptional? (Document.asNatBelow? UInt64.size) document = some position := by
  constructor
  · rintro (_ | _ | ⟨hdigits, hlt⟩)
    · rfl
    · rw [Document.asOptional?, Option.map_eq_some_iff]
      · exact ⟨_, Document.asNatBelow?_eq_some_iff.2 ⟨_, rfl, hdigits, rfl, hlt⟩, rfl⟩
      · nofun
  · intro h
    rw [Document.asOptional?.eq_def] at h
    split at h
    · obtain rfl := Option.some.inj h
      exact .null
    · obtain ⟨n, hn, rfl⟩ := Option.map_eq_some_iff.1 h
      obtain ⟨text, rfl, hdigits, rfl, hlt⟩ := Document.asNatBelow?_eq_some_iff.1 hn
      exact .number hdigits hlt

theorem locates_iff {record : Keyed Document} {position : Option Nat} :
    Locates (record.get? "position").toList position ↔
      Document.optional? record "position" (Document.asNatBelow? UInt64.size) = some position := by
  rw [Document.optional?, Document.withDefault?.eq_def]
  cases record.get? "position" with
  | none =>
    rw [Option.toList_none]
    constructor
    · rintro ⟨⟩
      rfl
    · intro h
      obtain rfl := Option.some.inj h
      exact .absent
  | some document => exact locates_singleton_iff

/-- A record describes an error by the message and the position that it has. -/
theorem required?_error_iff {record : Keyed Document} {message : String} :
    Document.required? record "error" Document.asText? = some message ↔
      (record.get? "error").toList = [.string (some message)] := by
  rw [Document.required?, Option.bind_eq_bind, Option.bind_eq_some_iff]
  simp only [Document.asText?_eq_some_iff]
  cases record.get? "error" <;> simp

/-- What a record of an error has to have. -/
def IsErrorRecord (record : Keyed Document) (message : String) (position : Option Nat) : Prop :=
  (record.get? "error").toList = [.string (some message)] ∧
    Locates (record.get? "position").toList position

theorem describes_object_iff {fields : List (Option String × Document)} {message : String}
    {position : Option Nat} :
    Describes (.object fields) message position ↔
      ∃ record, (Document.object fields).asRecord? [["error"], ["position"]] = some record ∧
        IsErrorRecord record message position := by
  have hheld : ∀ key, Document.held [["error"], ["position"]] fields key =
      if key ∈ ["error", "position"] then Document.under fields key else [] :=
    Document.held_singletons ["error", "position"] fields
  constructor
  · rintro (⟨hnames, herror, hposition⟩ | _)
    have honce : ∀ key, (Document.held [["error"], ["position"]] fields key).length ≤ 1 := by
      intro key
      rw [hheld]
      split
      · rename_i hkey
        simp only [List.mem_cons, List.not_mem_nil, or_false] at hkey
        rcases hkey with rfl | rfl
        · rw [herror, List.length_singleton]
        · exact hposition.length_le
      · exact Nat.zero_le 1
    obtain ⟨record, hrecord⟩ := Document.exists_asRecord?_object_iff.2 ⟨hnames, honce⟩
    have hget := Document.toList_get?_of_asRecord? hrecord
    refine ⟨record, hrecord, ?_, ?_⟩
    · rw [hget, hheld, if_pos (by simp), herror]
    · rwa [hget, hheld, if_pos (by simp)]
  · rintro ⟨record, hrecord, herror, hposition⟩
    have hget := Document.toList_get?_of_asRecord? hrecord
    rw [hget, hheld, if_pos (by simp)] at herror hposition
    exact .object (Document.exists_asRecord?_object_iff.1 ⟨record, hrecord⟩).1 herror hposition

theorem describes_array_iff {items : List Document} {message : String} {position : Option Nat} :
    Describes (.array items) message position ↔
      ∃ record, (Document.array items).asRecord? [["error"], ["position"]] = some record ∧
        IsErrorRecord record message position := by
  match items with
  | [] =>
    constructor
    · nofun
    · rintro ⟨record, hrecord, herror, -⟩
      obtain rfl := Option.some.inj hrecord
      cases herror
  | [error] | [error, _] =>
    constructor
    · rintro (_ | hposition)
      exact ⟨_, rfl, rfl, hposition⟩
    · rintro ⟨record, hrecord, herror, hposition⟩
      obtain rfl := Option.some.inj hrecord
      obtain rfl : error = _ := List.singleton_inj.1 herror
      exact .array hposition
  | _ :: _ :: _ :: rest =>
    constructor
    · rintro (_ | hposition)
      simpa using hposition.length_le
    · rintro ⟨record, hrecord, -⟩
      rw [Document.asRecord?, if_pos (by simp)] at hrecord
      cases hrecord

theorem describes_iff {document : Document} {message : String} {position : Option Nat} :
    Describes document message position ↔
      ∃ record, document.asRecord? [["error"], ["position"]] = some record ∧
        IsErrorRecord record message position := by
  cases document with
  | object fields => exact describes_object_iff
  | array items => exact describes_array_iff
  | _ => exact ⟨nofun, fun ⟨_, hrecord, _⟩ => nomatch hrecord⟩

/-- The error of a body is the one that its document describes. -/
theorem errorBody?_eq_some_iff {body message : String} {position : Option Nat} :
    errorBody? body = some (message, position) ↔
      ∃ document, Document.ofText? body = some document ∧ Describes document message position := by
  simp only [describes_iff, IsErrorRecord, ← required?_error_iff, locates_iff, errorBody?,
    Option.bind_eq_bind, Option.bind_eq_some_iff, Option.pure_def, Option.some.injEq,
    Prod.mk.injEq]
  constructor
  · rintro ⟨document, hdocument, record, hrecord, _, herror, _, hposition, rfl, rfl⟩
    exact ⟨document, hdocument, record, hrecord, herror, hposition⟩
  · rintro ⟨document, hdocument, record, hrecord, herror, hposition⟩
    exact ⟨document, hdocument, record, hrecord, message, herror, position, hposition, rfl, rfl⟩

end Http
end SeriesSql
