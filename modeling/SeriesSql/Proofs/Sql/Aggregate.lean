import Mathlib
import SeriesSql.Proofs.Sql.Place
import SeriesSql.Proofs.Sql.WellFormed

/-!
# Which aggregates are found

An expression with an aggregate is recognized by a walk from its top, and a sampled select is
refused unless one of its projections is recognized. The walk enters operators and calls. It does
not enter a test, that is a comparison with an interval, a list, two bounds or null, so the
aggregates below a test are the ones that it misses.
-/

namespace SeriesSql

namespace Expr

/-- Whether an expression compares with an interval, a list, two bounds or null. -/
def isTest : Expr → Bool
  | inInterval .. | inList .. | between .. | isNull .. => true
  | _ => false

/-- A part of an expression outside nested selects, reached by entering only some of the expressions
above it. -/
inductive Within (enters : Expr → Prop) (part : Expr) : Expr → Prop where
  | top : Within enters part part
  | inside {whole operand : Expr} : enters whole → operand ∈ whole.operands →
      Within enters part operand → Within enters part whole

/-- An aggregate is among the parts of an expression that are reached so. -/
def HasAggregate (enters : Expr → Prop) (whole : Expr) : Prop :=
  ∃ function args label, (call .aggregate function args label).Within enters whole

theorem HasAggregate.inside {enters : Expr → Prop} {whole operand : Expr} (hwhole : enters whole)
    (hoperand : operand ∈ whole.operands) :
    operand.HasAggregate enters → whole.HasAggregate enters :=
  fun ⟨function, args, label, h⟩ => ⟨function, args, label, .inside hwhole hoperand h⟩

/-- What a part has, the whole has. -/
theorem HasAggregate.of_within {enters : Expr → Prop} {part whole : Expr}
    (h : part.Within enters whole) : part.HasAggregate enters → whole.HasAggregate enters := by
  induction h with
  | top => exact id
  | inside hwhole hoperand _ ih => exact fun hpart => (ih hpart).inside hwhole hoperand

theorem Within.mono {enters enters' : Expr → Prop} (himp : ∀ e, enters e → enters' e)
    {part whole : Expr} (h : part.Within enters whole) : part.Within enters' whole := by
  induction h with
  | top => exact .top
  | inside hwhole hoperand _ ih => exact .inside (himp _ hwhole) hoperand ih

/-! ### One step of the walk -/

theorem anyAggregate_iff {exprs : List Expr} :
    anyAggregate exprs ↔ ∃ e ∈ exprs, e.isAggregate := by
  induction exprs with
  | nil => simp [anyAggregate]
  | cons e rest ih => simp [anyAggregate, ih]

theorem isAggregate_iff_operand (e : Expr) :
    e.isAggregate ↔ (∃ function args label, e = call .aggregate function args label) ∨
      (e.isTest = false ∧ ∃ operand ∈ e.operands, operand.isAggregate) := by
  cases e with
  | call kind function args label =>
    cases kind with
    | aggregate => simp [isAggregate]
    | scalar => simp [isAggregate, isTest, operands, anyAggregate_iff]
  | _ => simp [isAggregate, isTest, operands]

/-! ### What the walk finds -/

theorem hasAggregate_of_isAggregate (e : Expr) (h : e.isAggregate) :
    e.HasAggregate (·.isTest = false) := by
  rcases (isAggregate_iff_operand e).1 h with
    ⟨function, args, label, rfl⟩ | ⟨htest, operand, hmem, hoperand⟩
  · exact ⟨function, args, label, .top⟩
  · exact (hasAggregate_of_isAggregate operand hoperand).inside htest hmem
termination_by sizeOf e
decreasing_by exact sizeOf_operand_lt hmem

/-- The walk finds an aggregate exactly if one is reached without entering a test. -/
theorem isAggregate_iff (e : Expr) : e.isAggregate ↔ e.HasAggregate (·.isTest = false) := by
  refine ⟨hasAggregate_of_isAggregate e, ?_⟩
  rintro ⟨function, args, label, h⟩
  induction h with
  | top => exact (isAggregate_iff_operand _).2 (.inl ⟨function, args, label, rfl⟩)
  | inside htest hmem _ ih => exact (isAggregate_iff_operand _).2 (.inr ⟨htest, _, hmem, ih⟩)

/-- An aggregate anywhere is found, or it is below a test that the walk comes to. -/
theorem hasAggregate_iff (e : Expr) :
    e.HasAggregate (fun _ => True) ↔
      e.isAggregate ∨
        ∃ test : Expr, test.isTest ∧ test.Within (·.isTest = false) e ∧
          test.HasAggregate (fun _ => True) := by
  constructor
  · rintro ⟨function, args, label, h⟩
    induction h with
    | top => exact .inl ((isAggregate_iff_operand _).2 (.inl ⟨function, args, label, rfl⟩))
    | @inside whole operand hwhole hmem hpart ih =>
      cases htest : whole.isTest with
      | true =>
        exact .inr ⟨whole, htest, .top, function, args, label, .inside hwhole hmem hpart⟩
      | false =>
        rcases ih with hfound | ⟨test, hisTest, hwithin, hhas⟩
        · exact .inl ((isAggregate_iff_operand _).2 (.inr ⟨htest, operand, hmem, hfound⟩))
        · exact .inr ⟨test, hisTest, .inside htest hmem hwithin, hhas⟩
  · rintro (hfound | ⟨test, -, hwithin, hhas⟩)
    · obtain ⟨function, args, label, h⟩ := (isAggregate_iff e).1 hfound
      exact ⟨function, args, label, h.mono fun _ _ => trivial⟩
    · exact hhas.of_within (hwithin.mono fun _ _ => trivial)

end Expr

/-! ### Sampled selects -/

theorem Select.check_eq_noAggregate_iff (s : Select) :
    s.check = .error (.validation .sampleByNoAggregate) ↔
      s.sampleBy.isSome ∧ s.projections ≠ [] ∧ ∀ p ∈ s.projections, ¬ p.expr.isAggregate := by
  cases hsample : s.sampleBy with
  | none => simp [check, hsample, refuseIf, bind, Except.bind]
  | some sampleBy =>
    cases hprojections : s.projections with
    | nil => simp [check, hsample, hprojections, refuseIf, bind, Except.bind]
    | cons p rest => simp [check, hsample, hprojections, refuseIf, bind, Except.bind]

/-- A select that its own check refuses is not written. -/
theorem Select.toSql_eq_error_of_check {s : Select} {e : SqlError} (h : s.check = .error e) :
    s.write.toSql = .error e := by
  rw [Writer.toSql_eq_error_iff, Select.write_eq, h]
  exact (Writer.stops_throw e).bind

/-- An expression counts as an aggregate exactly if one is reached in it without entering a test.
That is the right answer unless all of its aggregates outside nested selects are below tests. A
sampled select is refused for the lack of an aggregate exactly if it has projections and none of
them counts as one. -/
theorem aggregates_found_iff (e : Expr) (s : Select) :
    (e.isAggregate ↔ e.HasAggregate (·.isTest = false)) ∧
      ((e.isAggregate ↔ e.HasAggregate (fun _ => True)) ↔
        e.HasAggregate (·.isTest = false) ∨
          ∀ test : Expr, test.isTest → test.Within (·.isTest = false) e →
            ¬ test.HasAggregate (fun _ => True)) ∧
      (s.check = .error (.validation .sampleByNoAggregate) ↔
        s.sampleBy.isSome ∧ s.projections ≠ [] ∧
          ∀ p ∈ s.projections, ¬ p.expr.HasAggregate (·.isTest = false)) ∧
      ∀ error, s.check = .error error → s.write.toSql = .error error := by
  refine ⟨e.isAggregate_iff, ?_, ?_, fun error h => s.toSql_eq_error_of_check h⟩
  · rw [← Expr.isAggregate_iff, Expr.hasAggregate_iff, iff_self_or]
    constructor
    · intro hbelow
      by_cases hfound : e.isAggregate
      · exact .inl hfound
      · exact .inr fun test htest hwithin hhas => hfound (hbelow ⟨test, htest, hwithin, hhas⟩)
    · rintro (hfound | hnone) ⟨test, htest, hwithin, hhas⟩
      · exact hfound
      · exact absurd hhas (hnone test htest hwithin)
  · simp only [s.check_eq_noAggregate_iff, Expr.isAggregate_iff]

/-- An average that is tested for null is an aggregate that does not count, and a select that
samples it is refused. -/
theorem aggregates_found_iff_null_test :
    let average : Expr := .call .aggregate "avg" [.column none "kwh"] none
    let test : Expr := .isNull average false
    let select : Select :=
      { Select.ofSource (.table "readings" none) with
        projections := [⟨test, none⟩], sampleBy := some ⟨"1h", [], none⟩ }
    test.HasAggregate (fun _ => True) ∧ test.isAggregate = false ∧
      select.write.toSql = .error (.validation .sampleByNoAggregate) := by
  intro average test select
  have htest : test.HasAggregate (fun _ => True) :=
    ⟨"avg", [.column none "kwh"], none, .inside trivial List.mem_cons_self .top⟩
  have hcheck : select.check = .error (.validation .sampleByNoAggregate) := by
    simp only [select, test, average]
    rfl
  exact ⟨htest, rfl, (aggregates_found_iff test select).2.2.2 _ hcheck⟩

end SeriesSql
