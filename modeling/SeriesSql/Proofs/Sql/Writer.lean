import Mathlib
import SeriesSql.Sql.Render

/-!
# What writers do to a text

Every writer here does the same to any text: it appends a piece that does not depend on the text,
and either goes on or stops at an error that does not depend on it either. Such a writer is steady,
and the text of a whole statement is the piece that its writer appends to any other text.
-/

namespace SeriesSql.Writer

/-- Appends a piece to any text and goes on. -/
def Emits (w : Writer Unit) (piece : String) : Prop :=
  ∀ text, w.run.run text = (.ok (), text ++ piece)

/-- Appends a piece to any text and stops at an error. -/
def Stops (w : Writer Unit) (e : SqlError) : Prop :=
  ∃ piece, ∀ text, w.run.run text = (.error e, text ++ piece)

/-- Does the same to any text. -/
class Steady (w : Writer Unit) : Prop where
  emits_or_stops : (∃ piece, Emits w piece) ∨ ∃ e, Stops w e

def Succeeds (w : Writer Unit) : Prop :=
  ∃ piece, Emits w piece

theorem run_bind (w : Writer Unit) (next : Unit → Writer Unit) (text : String) :
    (w >>= next).run.run text =
      match w.run.run text with
      | (.ok (), text) => (next ()).run.run text
      | (.error e, text) => (.error e, text) := by
  change (ExceptT.bindCont next (w.run.run text).1) (w.run.run text).2 = _
  rcases w.run.run text with ⟨_ | _, _⟩ <;> rfl

theorem emits_emit (piece : String) : Emits (emit piece) piece :=
  fun _ => rfl

theorem emits_pure : Emits (pure ()) "" :=
  fun text => by rw [String.append_empty]; rfl

theorem stops_throw (e : SqlError) : Stops (throw e) e :=
  ⟨"", fun text => by rw [String.append_empty]; rfl⟩

theorem Emits.bind {w : Writer Unit} {next : Unit → Writer Unit} {piece piece' : String}
    (hw : Emits w piece) (hnext : Emits (next ()) piece') :
    Emits (w >>= next) (piece ++ piece') := by
  intro text
  rw [run_bind, hw text]
  simp only
  rw [hnext, String.append_assoc]

theorem Stops.bind {w : Writer Unit} {next : Unit → Writer Unit} {e : SqlError} (hw : Stops w e) :
    Stops (w >>= next) e := by
  obtain ⟨piece, hw⟩ := hw
  refine ⟨piece, fun text => ?_⟩
  rw [run_bind, hw text]

theorem Emits.bind_stops {w : Writer Unit} {next : Unit → Writer Unit} {piece : String}
    {e : SqlError} (hw : Emits w piece) (hnext : Stops (next ()) e) : Stops (w >>= next) e := by
  obtain ⟨piece', hnext⟩ := hnext
  refine ⟨piece ++ piece', fun text => ?_⟩
  rw [run_bind, hw text]
  simp only
  rw [hnext, String.append_assoc]

theorem Emits.eq_of_emits {w w' : Writer Unit} {piece : String} (h : Emits w piece)
    (h' : Emits w' piece) : w = w' :=
  ExceptT.ext (StateT.ext fun text => (h text).trans (h' text).symm)

theorem emit_append (piece piece' : String) :
    emit (piece ++ piece') = (do emit piece; emit piece') :=
  (emits_emit _).eq_of_emits ((emits_emit piece).bind (emits_emit piece'))

/-! ### Steady writers -/

theorem Emits.steady {w : Writer Unit} {piece : String} (hw : Emits w piece) : Steady w :=
  ⟨.inl ⟨piece, hw⟩⟩

theorem Stops.steady {w : Writer Unit} {e : SqlError} (hw : Stops w e) : Steady w :=
  ⟨.inr ⟨e, hw⟩⟩

theorem Emits.piece_unique {w : Writer Unit} {piece other : String} (hpiece : Emits w piece)
    (hother : Emits w other) : piece = other := by
  have heq := (hpiece "").symm.trans (hother "")
  simpa using congrArg Prod.snd heq

theorem Stops.not_emits {w : Writer Unit} {e : SqlError} {piece : String} (h : Stops w e) :
    ¬ Emits w piece := by
  intro hpiece
  obtain ⟨piece', h⟩ := h
  have heq := (h "").symm.trans (hpiece "")
  cases congrArg Prod.fst heq

instance steady_emit (piece : String) : Steady (emit piece) :=
  (emits_emit piece).steady

instance steady_pure : Steady (pure ()) :=
  emits_pure.steady

instance steady_throw (e : SqlError) : Steady (throw e) :=
  (stops_throw e).steady

instance steady_bind {w : Writer Unit} {next : Unit → Writer Unit} [hw : Steady w]
    [hnext : Steady (next ())] : Steady (w >>= next) := by
  rcases hw.emits_or_stops with ⟨piece, hw⟩ | ⟨e, hw⟩
  · rcases hnext.emits_or_stops with ⟨piece', hnext⟩ | ⟨e, hnext⟩
    · exact (hw.bind hnext).steady
    · exact (hw.bind_stops hnext).steady
  · exact hw.bind.steady

instance steady_emitResult (result : Except SqlError String) : Steady (emitResult result) := by
  cases result with
  | ok piece => exact steady_emit piece
  | error e => exact steady_throw e

instance steady_require (result : Except SqlError Unit) : Steady (require result) := by
  cases result with
  | ok _ => exact steady_pure
  | error e => exact steady_throw e

instance steady_separated {α : Type} (separator : String) {write : α → Writer Unit}
    [∀ item, Steady (write item)] (items : List α) :
    Steady (separated separator write items) := by
  induction items with
  | nil => exact steady_pure
  | cons item rest ih =>
    cases rest with
    | nil => exact inferInstanceAs (Steady (write item))
    | cons next rest =>
      change Steady (write item >>= fun _ => emit separator >>= fun _ => _)
      infer_instance

/-! ### What a sequence of steady writers appends -/

/-- Two steps append what the first appends and then what the second appends. -/
@[simp] theorem emits_bind_iff {w : Writer Unit} {next : Unit → Writer Unit} {piece : String}
    [hw : Steady w] [hnext : Steady (next ())] :
    Emits (w >>= next) piece ↔
      ∃ first second, piece = first ++ second ∧ Emits w first ∧ Emits (next ()) second := by
  constructor
  · intro h
    rcases hw.emits_or_stops with ⟨first, hw⟩ | ⟨e, hw⟩
    · rcases hnext.emits_or_stops with ⟨second, hnext⟩ | ⟨e, hnext⟩
      · exact ⟨first, second, h.piece_unique (hw.bind hnext), hw, hnext⟩
      · exact absurd h (hw.bind_stops hnext).not_emits
    · exact absurd h hw.bind.not_emits
  · rintro ⟨first, second, rfl, hw, hnext⟩
    exact hw.bind hnext

@[simp] theorem emits_emit_iff {piece text : String} : Emits (emit piece) text ↔ text = piece :=
  ⟨fun h => h.piece_unique (emits_emit piece), fun h => h ▸ emits_emit piece⟩

@[simp] theorem emits_pure_iff {text : String} : Emits (pure ()) text ↔ text = "" :=
  ⟨fun h => h.piece_unique emits_pure, fun h => h ▸ emits_pure⟩

@[simp] theorem emits_emitResult_iff {result : Except SqlError String} {text : String} :
    Emits (emitResult result) text ↔ result = .ok text := by
  cases result with
  | ok piece =>
    rw [emitResult, emits_emit_iff, Except.ok.injEq]
    exact eq_comm
  | error e => exact ⟨fun h => absurd h (stops_throw e).not_emits, nofun⟩

@[simp] theorem emits_require_iff {result : Except SqlError Unit} {text : String} :
    Emits (require result) text ↔ result = .ok () ∧ text = "" := by
  cases result with
  | ok _ =>
    rw [require, emits_pure_iff]
    exact ⟨fun h => ⟨rfl, h⟩, fun h => h.2⟩
  | error e => exact ⟨fun h => absurd h (stops_throw e).not_emits, fun h => nomatch h.1⟩

theorem emits_separated_cons_iff {α : Type} {separator : String} {write : α → Writer Unit}
    [∀ item, Steady (write item)] {item next : α} {rest : List α} {text : String} :
    Emits (separated separator write (item :: next :: rest)) text ↔
      ∃ first others, text = first ++ (separator ++ others) ∧ Emits (write item) first ∧
        Emits (separated separator write (next :: rest)) others := by
  change Emits (write item >>= fun _ => emit separator >>= fun _ =>
    separated separator write (next :: rest)) text ↔ _
  simp only [emits_bind_iff, emits_emit_iff]
  constructor
  · rintro ⟨first, _, rfl, hfirst, _, others, rfl, rfl, hothers⟩
    exact ⟨first, others, rfl, hfirst, hothers⟩
  · rintro ⟨first, others, rfl, hfirst, hothers⟩
    exact ⟨first, separator ++ others, rfl, hfirst, separator, others, rfl, rfl, hothers⟩

/-- Items that are all written are written with the separator between them. -/
theorem emits_separated_map {α β : Type} (separator : String) {write : α → Writer Unit}
    {item : β → α} {piece : β → String} {keys : List β}
    (h : ∀ key ∈ keys, Emits (write (item key)) (piece key)) :
    Emits (separated separator write (keys.map item)) (separator.intercalate (keys.map piece)) := by
  induction keys with
  | nil => exact emits_pure
  | cons key keys ih =>
    obtain ⟨hfirst, hothers⟩ := List.forall_mem_cons.1 h
    cases keys with
    | nil => simpa [separated, String.intercalate_singleton] using hfirst
    | cons next keys =>
      rw [List.map_cons, List.map_cons, List.map_cons, List.map_cons,
        String.intercalate_cons_cons, String.append_assoc]
      exact hfirst.bind ((emits_emit separator).bind (ih hothers))

theorem succeeds_emit (piece : String) : Succeeds (emit piece) :=
  ⟨piece, emits_emit piece⟩

theorem succeeds_bind_iff {w : Writer Unit} {next : Unit → Writer Unit} [Steady w]
    [Steady (next ())] : Succeeds (w >>= next) ↔ Succeeds w ∧ Succeeds (next ()) := by
  constructor
  · rintro ⟨piece, h⟩
    obtain ⟨first, second, -, hfirst, hsecond⟩ := emits_bind_iff.1 h
    exact ⟨⟨first, hfirst⟩, ⟨second, hsecond⟩⟩
  · rintro ⟨⟨first, hfirst⟩, ⟨second, hsecond⟩⟩
    exact ⟨_, hfirst.bind hsecond⟩

theorem succeeds_require_iff {result : Except SqlError Unit} :
    Succeeds (require result) ↔ result = .ok () := by
  simp only [Succeeds, emits_require_iff, exists_and_left, exists_eq, and_true]

theorem succeeds_separated_iff {α : Type} (separator : String) {write : α → Writer Unit}
    [∀ item, Steady (write item)] (items : List α) :
    Succeeds (separated separator write items) ↔ ∀ item ∈ items, Succeeds (write item) := by
  induction items with
  | nil => exact ⟨fun _ => nofun, fun _ => ⟨_, emits_pure⟩⟩
  | cons item rest ih =>
    cases rest with
    | nil => rw [separated, List.forall_mem_singleton]
    | cons next rest =>
      change Succeeds (write item >>= fun _ =>
        emit separator >>= fun _ => separated separator write (next :: rest)) ↔ _
      rw [succeeds_bind_iff, succeeds_bind_iff, ih, List.forall_mem_cons (a := item)]
      exact and_congr_right fun _ => and_iff_right (succeeds_emit separator)

/-! ### The text of a statement -/

theorem Emits.appendTo_eq {w : Writer Unit} {piece : String} (h : Emits w piece) (before : String) :
    w.appendTo before = (before ++ piece, none) := by
  rw [appendTo, h before]

theorem Stops.exists_appendTo_eq {w : Writer Unit} {e : SqlError} (h : Stops w e) :
    ∃ more, ∀ before, w.appendTo before = (before ++ more, some e) := by
  obtain ⟨more, h⟩ := h
  refine ⟨more, fun before => ?_⟩
  rw [appendTo, h before]

theorem toSql_eq_ok_iff {w : Writer Unit} [hw : Steady w] {text : String} :
    w.toSql = .ok text ↔ Emits w text := by
  rcases hw.emits_or_stops with ⟨piece, hw⟩ | ⟨e, hw⟩
  · have htext : w.toSql = .ok piece := by
      rw [toSql, hw.appendTo_eq, String.empty_append]
    rw [htext, Except.ok.injEq]
    exact ⟨fun h => h ▸ hw, fun h => hw.piece_unique h⟩
  · have hstop : ¬ Emits w text := hw.not_emits
    obtain ⟨more, hmore⟩ := hw.exists_appendTo_eq
    rw [toSql, hmore]
    exact ⟨nofun, fun h => absurd h hstop⟩

end SeriesSql.Writer
