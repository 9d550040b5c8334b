import Mathlib
import SeriesSql.Proofs.Sql.WellFormed

/-!
# Where periods of time stand in a select

A period is written without quotes, as it is given. So the text for the interval of a sampling
clause or for the tolerance of a join is checked first, and nothing but a count and a unit passes.
The digits of the count may be those of any script.
-/

namespace SeriesSql

namespace Period

/-! ### Digits -/

theorem isDigit_iff {c : Char} : c.isDigit ↔ Text.isDecimalDigit c ∧ c.toNat < 0x80 := by
  have hzeros : ∀ start ∈ Text.digitZeros, start < 0x80 → start = 0x30 := by decide
  have hrange : c.isDigit ↔ 0x30 ≤ c.toNat ∧ c.toNat < 0x30 + 10 := by
    simp [Char.isDigit, UInt32.le_iff_toNat_le, Nat.lt_succ_iff]
  simp only [hrange, Text.isDecimalDigit, List.any_eq_true, Bool.and_eq_true, decide_eq_true_eq]
  constructor
  · rintro ⟨hlow, hhigh⟩
    exact ⟨⟨0x30, List.mem_cons_self, hlow, hhigh⟩, by omega⟩
  · rintro ⟨⟨start, hmem, hlow, hhigh⟩, hascii⟩
    obtain rfl := hzeros start hmem (by omega)
    exact ⟨hlow, hhigh⟩

/-- A period has the digits from 0 to 9 if it is written in ASCII. -/
theorem spelled_isDigit_iff {cs : List Char} :
    Spelled Char.isDigit cs ↔ Spelled Text.isDecimalDigit cs ∧ ∀ c ∈ cs, c.toNat < 0x80 := by
  have hunits : units.all fun unit => unit.toNat < 0x80 := by decide
  constructor
  · rintro ⟨count, unit, hne, hcount, hunit, rfl⟩
    refine ⟨⟨count, unit, hne, fun c hc => (isDigit_iff.1 (hcount c hc)).1, hunit, rfl⟩, ?_⟩
    rw [List.forall_mem_append, List.forall_mem_singleton]
    exact ⟨fun c hc => (isDigit_iff.1 (hcount c hc)).2,
      of_decide_eq_true (List.all_eq_true.1 hunits unit hunit)⟩
  · rintro ⟨⟨count, unit, hne, hcount, hunit, rfl⟩, hascii⟩
    have hcode := (List.forall_mem_append.1 hascii).1
    exact ⟨count, unit, hne, fun c hc => isDigit_iff.2 ⟨hcount c hc, hcode c hc⟩, hunit, rfl⟩

theorem check_eq_ok_iff {role : PeriodRole} {text : String} :
    check role text = .ok () ↔ Spelled Text.isDecimalDigit text.toList := by
  rw [Check.period_eq_ok_iff, isPeriod_iff]

theorem check_eq_error {role : PeriodRole} {text : String}
    (h : ¬ Spelled Text.isDecimalDigit text.toList) :
    check role text = .error (.validation (.period role text)) := by
  rw [← isPeriod_iff, Bool.not_eq_true] at h
  rw [check, h]
  rfl

/-! ### Places for a period -/

/-- A statement with a place for a period. If everything else is in order, it takes exactly the
periods there and blames any other text, and it shows what it takes as it is. -/
structure Place (role : PeriodRole) (inOrder : Prop) (statement : String → Except SqlError String) :
    Prop where
  takes : ∀ text, (∃ sql, statement text = .ok sql) ↔
    inOrder ∧ Spelled Text.isDecimalDigit text.toList
  blames : inOrder → ∀ text, ¬ Spelled Text.isDecimalDigit text.toList →
    statement text = .error (.validation (.period role text))
  shows : ∃ before after, ∀ text sql, statement text = .ok sql → sql = before ++ text ++ after

variable {role : PeriodRole} {inOrder : Prop} {statement : String → Except SqlError String}

theorem place_of_never (hinOrder : ¬ inOrder) (h : ∀ text sql, statement text ≠ .ok sql) :
    Place role inOrder statement where
  takes text := by
    refine iff_of_false ?_ fun hall => hinOrder hall.1
    rintro ⟨sql, hok⟩
    exact h text sql hok
  blames hin := absurd hin hinOrder
  shows := ⟨"", "", fun text sql hok => absurd hok (h text sql)⟩

theorem place_of_check (hinOrder : inOrder) (before after : String)
    (h : ∀ text, statement text = (check role text >>= fun _ => .ok (before ++ text ++ after))) :
    Place role inOrder statement where
  takes text := by
    rw [and_iff_right hinOrder, ← @check_eq_ok_iff role, h]
    cases check role text with
    | ok _ => exact ⟨fun _ => rfl, fun _ => ⟨_, rfl⟩⟩
    | error e => exact ⟨nofun, nofun⟩
  blames _ text hspelled := by
    rw [h, check_eq_error hspelled]
    rfl
  shows := by
    refine ⟨before, after, fun text sql hok => ?_⟩
    rw [h, Check.bind_eq_ok_iff] at hok
    obtain ⟨_, -, hok⟩ := hok
    exact (Except.ok.inj hok).symm

end Period

namespace Writer

/-! ### Writers with a place for a text -/

/-- Appends a text somewhere, as it is, if it passes a check, or is never done because of something
else. -/
def Shows (check : String → Except SqlError Unit) (w : String → Writer Unit) : Prop :=
  (∀ text, ¬ Succeeds (w text)) ∨
    ∃ before after, ∀ text,
      (check text = .ok () → Emits (w text) (before ++ text ++ after)) ∧
        ∀ e, check text = .error e → Stops (w text) e

section Shows

variable {check : String → Except SqlError Unit} {w : String → Writer Unit}
  [hw : ∀ text, Steady (w text)] {v : Writer Unit} [hv : Steady v]

omit hw in
theorem shows_emit (before : String) : Shows (fun _ => .ok ()) fun text => emit (before ++ text) :=
  .inr ⟨before, "", fun text => ⟨fun _ => by rw [String.append_empty]; exact emits_emit _, nofun⟩⟩

theorem Shows.after (h : Shows check w) : Shows check fun text => v >>= fun _ => w text := by
  rcases h with hnever | ⟨before, after, h⟩
  · exact .inl fun text hsucceeds => hnever text (succeeds_bind_iff.1 hsucceeds).2
  · rcases hv.emits_or_stops with ⟨piece, hpiece⟩ | ⟨e, hstops⟩
    · refine .inr ⟨piece ++ before, after, fun text => ⟨fun hok => ?_, fun e herror => ?_⟩⟩
      · have hshown : Emits (v >>= fun _ => w text) (piece ++ (before ++ text ++ after)) :=
          hpiece.bind ((h text).1 hok)
        simpa only [String.append_assoc] using hshown
      · exact hpiece.bind_stops ((h text).2 e herror)
    · -- What stops in front of the place stops whatever the text is.
      exact .inl fun text => hstops.bind.not_succeeds

theorem Shows.before (h : Shows check w) : Shows check fun text => w text >>= fun _ => v := by
  rcases h with hnever | ⟨before, after, h⟩
  · exact .inl fun text hsucceeds => hnever text (succeeds_bind_iff.1 hsucceeds).1
  · rcases hv.emits_or_stops with ⟨piece, hpiece⟩ | ⟨e, hstops⟩
    · refine .inr ⟨before, after ++ piece, fun text => ⟨fun hok => ?_, fun e herror => ?_⟩⟩
      · rw [← String.append_assoc]
        exact ((h text).1 hok).bind hpiece
      · exact ((h text).2 e herror).bind
    · -- Behind the place the error may be that of the text, but it is never done.
      exact .inl fun text hsucceeds => hstops.not_succeeds (succeeds_bind_iff.1 hsucceeds).2

/-- What is shown unchecked is shown checked after the check. -/
theorem Shows.checked (h : Shows (fun _ => .ok ()) w) :
    Shows check fun text => require (check text) >>= fun _ => w text := by
  rcases h with hnever | ⟨before, after, h⟩
  · exact .inl fun text hsucceeds => hnever text (succeeds_bind_iff.1 hsucceeds).2
  · refine .inr ⟨before, after, fun text => ⟨fun hok => ?_, fun e herror => ?_⟩⟩
    · have hshown : Emits (pure () >>= fun _ => w text) ("" ++ (before ++ text ++ after)) :=
        emits_pure.bind ((h text).1 rfl)
      rw [String.empty_append] at hshown
      simpa only [hok, require] using hshown
    · simpa only [herror, require] using (stops_throw e).bind

/-- With any period for a model, the statement is in order if it is accepted with the model. -/
theorem Shows.place {role : PeriodRole} (h : Shows (Period.check role) w) {model : String}
    (hmodel : Period.Spelled Text.isDecimalDigit model.toList) :
    Period.Place role (∃ sql, (w model).toSql = .ok sql) fun text => (w text).toSql := by
  rcases h with hnever | ⟨before, after, h⟩
  · have hstops : ∀ text sql, (w text).toSql ≠ .ok sql :=
      fun text sql hok => hnever text ⟨sql, toSql_eq_ok_iff.1 hok⟩
    exact Period.place_of_never (fun hok => hok.elim (hstops model)) hstops
  · have haccepted : (w model).toSql = .ok (before ++ model ++ after) :=
      toSql_eq_ok_iff.2 ((h model).1 (Period.check_eq_ok_iff.2 hmodel))
    refine Period.place_of_check ⟨_, haccepted⟩ before after fun text => ?_
    cases hcheck : Period.check role text with
    | ok _ => exact toSql_eq_ok_iff.2 ((h text).1 hcheck)
    | error e => exact toSql_eq_error_iff.2 ((h text).2 e hcheck)

end Shows

theorem require_bind (x : Except SqlError Unit) (f : Unit → Except SqlError Unit) :
    require (x >>= f) = require x >>= fun _ => require (f ()) := by
  cases x <;> rfl

end Writer

open Writer

/-! ### Samplings and joins -/

theorem SampleBy.shows_interval (sampling : SampleBy) :
    Shows (Period.check .sampleInterval) fun text => { sampling with interval := text }.write := by
  simp only [SampleBy.write]
  exact (shows_emit "SAMPLE BY ").before.checked

theorem Join.shows_tolerance (join : Join) :
    Shows (Period.check .joinTolerance) fun text => { join with tolerance := some text }.write := by
  have hwrite : ∀ text, { join with tolerance := some text }.write =
      require (do
        refuseIf (join.predicate.isNone && join.kind.needsPredicate) (.joinNeedsPredicate join.kind)
        refuseIf (join.predicate.isSome && !join.kind.takesPredicate)
          (.joinTakesNoPredicate join.kind)
        refuseIf (!join.kind.takesTolerance) (.joinTakesNoTolerance join.kind)) >>= fun _ =>
      require (Period.check .joinTolerance text) >>= fun _ =>
      (do
        emit (join.kind.word ++ " JOIN ")
        join.source.write
        Expr.writeOptional " ON " join.predicate) >>= fun _ =>
      emit (" TOLERANCE " ++ text) := by
    intro text
    rw [Join.write, Join.check]
    simp only [require_bind, bind_assoc]
    rfl
  simp only [hwrite]
  exact (shows_emit " TOLERANCE ").after.checked.after

theorem Join.writeLines_append (first rest : List Join) :
    Join.writeLines (first ++ rest) =
      Join.writeLines first >>= fun _ => Join.writeLines rest := by
  induction first with
  | nil =>
    rw [Join.writeLines]
    rfl
  | cons join first ih =>
    rw [List.cons_append, Join.writeLines, Join.writeLines, ih]
    simp only [bind_assoc]

theorem Select.shows_interval (select : Select) (sampling : SampleBy) :
    Shows (Period.check .sampleInterval) fun text =>
      { select with sampleBy := some { sampling with interval := text } }.write := by
  -- The check of a select asks whether it samples, and not by which interval.
  have hwrite : ∀ text, { select with sampleBy := some { sampling with interval := text } }.write =
      (do
        require { select with sampleBy := some sampling }.check
        emit (if select.distinct then "SELECT DISTINCT " else "SELECT ")
        runIf select.projections.isEmpty (emit "*")
        Projection.writeList select.projections
        emit "\nFROM "
        select.source.write
        Join.writeLines select.joins
        emitClause "\n" select.latestOn LatestOn.write
        Expr.writeOptional "\nWHERE " select.condition
        emit "\n") >>= fun _ =>
      { sampling with interval := text }.write >>= fun _ =>
      (do
        runIf (!select.groupBy.isEmpty) (emit "\nGROUP BY ")
        Expr.writeList select.groupBy
        runIf (!select.orderBy.isEmpty) (emit "\nORDER BY ")
        OrderItem.writeList select.orderBy
        emitClause "\n" select.limit Limit.write) := by
    intro text
    rw [Select.write_eq]
    simp only [bind_assoc]
    rfl
  simp only [hwrite]
  exact (SampleBy.shows_interval sampling).before.after

theorem Select.shows_tolerance (select : Select) (first rest : List Join) (join : Join) :
    Shows (Period.check .joinTolerance) fun text =>
      { select with joins := first ++ { join with tolerance := some text } :: rest }.write := by
  have hwrite : ∀ text,
      { select with joins := first ++ { join with tolerance := some text } :: rest }.write =
      (do
        require select.check
        emit (if select.distinct then "SELECT DISTINCT " else "SELECT ")
        runIf select.projections.isEmpty (emit "*")
        Projection.writeList select.projections
        emit "\nFROM "
        select.source.write
        Join.writeLines first
        emit "\n") >>= fun _ =>
      { join with tolerance := some text }.write >>= fun _ =>
      (do
        Join.writeLines rest
        emitClause "\n" select.latestOn LatestOn.write
        Expr.writeOptional "\nWHERE " select.condition
        emitClause "\n" select.sampleBy SampleBy.write
        runIf (!select.groupBy.isEmpty) (emit "\nGROUP BY ")
        Expr.writeList select.groupBy
        runIf (!select.orderBy.isEmpty) (emit "\nORDER BY ")
        OrderItem.writeList select.orderBy
        emitClause "\n" select.limit Limit.write) := by
    intro text
    rw [Select.write_eq, Join.writeLines_append, Join.writeLines]
    simp only [bind_assoc]
    rfl
  simp only [hwrite]
  exact (Join.shows_tolerance join).before.after

/-! ### Selects within selects -/

namespace Node

/-- The text for a period in a node. -/
def period? : Node → Option String
  | sampleBy sampling => some sampling.interval
  | join j => j.tolerance
  | _ => none

/-- The node with another text for its period, if it has one. -/
def withPeriod (text : String) : Node → Node
  | sampleBy sampling => sampleBy { sampling with interval := text }
  | join j => join { j with tolerance := j.tolerance.map fun _ => text }
  | node => node

theorem sound_iff {model : String} (hmodel : Period.Spelled Text.isDecimalDigit model.toList)
    (node : Node) :
    node.Sound ↔ (node.withPeriod model).Sound ∧
      ∀ text ∈ node.period?, Period.Spelled Text.isDecimalDigit text.toList := by
  cases node with
  | sampleBy sampling => simp [Sound, withPeriod, period?, Period.isPeriod_iff, hmodel]
  | join j =>
    cases htolerance : j.tolerance <;>
      simp [Sound, withPeriod, period?, Period.isPeriod_iff, hmodel, htolerance, and_assoc]
  | _ => simp [withPeriod, period?]

/-- At any depth nothing but a period is accepted, and a period wherever another one is. -/
theorem succeeds_write_iff_periods {model : String}
    (hmodel : Period.Spelled Text.isDecimalDigit model.toList) (root : Node) :
    Succeeds root.write ↔
      (∀ node, root.Contains node → (node.withPeriod model).Sound) ∧
        ∀ node, root.Contains node → ∀ text ∈ node.period?,
          Period.Spelled Text.isDecimalDigit text.toList := by
  rw [succeeds_write_iff, ← forall₂_and]
  exact forall₂_congr fun node _ => node.sound_iff hmodel

end Node
end SeriesSql
