import Mathlib
import SeriesSql.Proofs.Check
import SeriesSql.Proofs.Sql.Rendering

/-!
# When a select can be written

A select is a tree of nodes, and each kind of node has conditions of its own: a literal must fit
its type, a join its kind, and so on. A select can be written exactly when every node in it, through
nested selects to any depth, meets the conditions of its kind. Otherwise the error is the one of
some node that does not, so an error of a part is never lost and none is added on the way up.
-/

namespace SeriesSql

open Writer

namespace Writer

/-! ### Writers made of parts -/

/-- Goes on when a condition of its own holds and each of its parts goes on, and stops with an
error of one of the parts when the condition holds. -/
structure Composed (w : Writer Unit) (own : Prop) (parts : List (Writer Unit)) : Prop where
  steady : Steady w
  succeeds_iff : Succeeds w ↔ own ∧ ∀ part ∈ parts, Succeeds part
  origin : ∀ e, Stops w e → own → ∃ part ∈ parts, Stops part e

theorem Steady.succeeds_or_stops {w : Writer Unit} (hw : Steady w) :
    Succeeds w ∨ ∃ e, Stops w e :=
  hw.emits_or_stops

theorem Stops.not_succeeds {w : Writer Unit} {e : SqlError} (h : Stops w e) : ¬ Succeeds w :=
  fun ⟨_, hpiece⟩ => h.not_emits hpiece

theorem Stops.error_unique {w : Writer Unit} {e e' : SqlError} (h : Stops w e) (h' : Stops w e') :
    e = e' := by
  obtain ⟨piece, h⟩ := h
  obtain ⟨other, hother⟩ := h'
  exact Except.error.inj (congrArg Prod.fst ((h "").symm.trans (hother "")))

theorem toSql_eq_error_iff {w : Writer Unit} [hw : Steady w] {e : SqlError} :
    w.toSql = .error e ↔ Stops w e := by
  rcases hw.emits_or_stops with ⟨piece, hpiece⟩ | ⟨e', hstops⟩
  · rw [toSql_eq_ok_iff.2 hpiece]
    exact ⟨nofun, fun h => absurd hpiece h.not_emits⟩
  · have herror : w.toSql = .error e' := by
      obtain ⟨more, hmore⟩ := hstops.exists_appendTo_eq
      rw [toSql, hmore]
    rw [herror, Except.error.injEq]
    exact ⟨fun h => h ▸ hstops, hstops.error_unique⟩

theorem composed_of_succeeds {w : Writer Unit} (h : Succeeds w) : Composed w True [] where
  steady := h.choose_spec.steady
  succeeds_iff := by simpa using h
  origin := fun _ hstops => absurd h hstops.not_succeeds

/-- A writer is its only part. -/
theorem composed_part (w : Writer Unit) [hw : Steady w] : Composed w True [w] where
  steady := hw
  succeeds_iff := by simp
  origin := fun _ hstops _ => ⟨w, List.mem_singleton_self w, hstops⟩

theorem composed_throw (e : SqlError) : Composed (throw e) False [] where
  steady := steady_throw e
  succeeds_iff := by simpa using (stops_throw e).not_succeeds
  origin := fun _ _ h => h.elim

theorem Composed.bind {w : Writer Unit} {next : Unit → Writer Unit} {own own' : Prop}
    {parts parts' : List (Writer Unit)} (hw : Composed w own parts)
    (hnext : Composed (next ()) own' parts') :
    Composed (w >>= next) (own ∧ own') (parts ++ parts') := by
  have := hw.steady
  have := hnext.steady
  refine ⟨steady_bind, ?_, fun e hstops hown => ?_⟩
  · rw [succeeds_bind_iff, hw.succeeds_iff, hnext.succeeds_iff, List.forall_mem_append]
    tauto
  · -- The error is the first step's, unless that step goes on.
    rcases hw.steady.succeeds_or_stops with ⟨piece, hfirst⟩ | ⟨e', hfirst⟩
    · rcases hnext.steady.succeeds_or_stops with hsecond | ⟨e', hsecond⟩
      · exact absurd (succeeds_bind_iff.2 ⟨⟨piece, hfirst⟩, hsecond⟩) hstops.not_succeeds
      · obtain rfl := hstops.error_unique (hfirst.bind_stops hsecond)
        obtain ⟨part, hpart, h⟩ := hnext.origin e hsecond hown.2
        exact ⟨part, List.mem_append_right _ hpart, h⟩
    · obtain rfl := hstops.error_unique hfirst.bind
      obtain ⟨part, hpart, h⟩ := hw.origin e hfirst hown.1
      exact ⟨part, List.mem_append_left _ hpart, h⟩

/-- Texts and errors of its own and given parts, one after the other. The condition is what has to
hold for no error of its own to be among them. -/
inductive MadeOf : Writer Unit → Prop → List (Writer Unit) → Prop where
  | done : MadeOf (pure ()) True []
  | text (piece : String) : MadeOf (emit piece) True []
  | error (e : SqlError) : MadeOf (throw e) False []
  | part (w : Writer Unit) [Steady w] : MadeOf w True [w]
  | bind {w : Writer Unit} {next : Unit → Writer Unit} {own own' : Prop}
      {parts parts' : List (Writer Unit)} : MadeOf w own parts → MadeOf (next ()) own' parts' →
      MadeOf (w >>= next) (own ∧ own') (parts ++ parts')

theorem MadeOf.composed {w : Writer Unit} {own : Prop} {parts : List (Writer Unit)}
    (h : MadeOf w own parts) : Composed w own parts := by
  induction h with
  | done => exact composed_of_succeeds ⟨"", emits_pure⟩
  | text piece => exact composed_of_succeeds (succeeds_emit piece)
  | error e => exact composed_throw e
  | part w => exact composed_part w
  | bind _ _ ihw ihnext => exact ihw.bind ihnext

theorem MadeOf.congr {w : Writer Unit} {own own' : Prop} {parts parts' : List (Writer Unit)}
    (hw : MadeOf w own parts) (hown : own ↔ own') (hparts : parts = parts') :
    MadeOf w own' parts' := by
  rwa [← hparts, ← propext hown]

theorem madeOf_require (result : Except SqlError Unit) :
    MadeOf (require result) (result = .ok ()) [] := by
  cases result with
  | ok _ => exact MadeOf.done.congr (by simp) rfl
  | error e => exact (MadeOf.error e).congr (by simp) rfl

theorem madeOf_emitResult (result : Except SqlError String) :
    MadeOf (emitResult result) (∃ text, result = .ok text) [] := by
  cases result with
  | ok piece => exact (MadeOf.text piece).congr (by simp) rfl
  | error e => exact (MadeOf.error e).congr (by simp) rfl

theorem MadeOf.runIf {w : Writer Unit} {own : Prop} (hw : MadeOf w own []) (c : Bool) :
    MadeOf (runIf c w) (c → own) [] := by
  cases c with
  | false => exact MadeOf.done.congr (by simp) rfl
  | true => exact hw.congr (by simp) rfl

theorem madeOf_emitOptional (before : String) (text : Option String) :
    MadeOf (emitOptional before text) True [] := by
  cases text with
  | none => exact MadeOf.done
  | some text => exact MadeOf.text _

theorem madeOf_emitClause {α : Type} (before : String) (part : Option α) (write : α → Writer Unit)
    [∀ a, Steady (write a)] :
    MadeOf (emitClause before part write) True (part.toList.map write) := by
  cases part with
  | none => exact MadeOf.done
  | some a => exact ((MadeOf.text before).bind (MadeOf.part (write a))).congr (by simp) rfl

theorem madeOf_separated {α : Type} (separator : String) (write : α → Writer Unit)
    [∀ a, Steady (write a)] (items : List α) :
    MadeOf (separated separator write items) True (items.map write) := by
  induction items with
  | nil => exact MadeOf.done
  | cons item rest ih =>
    cases rest with
    | nil => exact MadeOf.part (write item)
    | cons next rest =>
      exact ((MadeOf.part (write item)).bind ((MadeOf.text separator).bind ih)).congr
        (by simp) rfl

end Writer

/-! ### Nodes -/

/-- A part of a statement that is written on its own. -/
inductive Node where
  | expr (expr : Expr)
  | projection (projection : Projection)
  | source (source : Source)
  | join (join : Join)
  | orderItem (item : OrderItem)
  | fill (fill : Fill)
  | alignment (align : Alignment)
  | sampleBy (sampleBy : SampleBy)
  | latestOn (latestOn : LatestOn)
  | limit (limit : Limit)
  | select (select : Select)

namespace Node

def write : Node → Writer Unit
  | expr e => e.write
  | projection p => p.write
  | source s => s.write
  | join j => j.write
  | orderItem item => item.write
  | fill f => f.write
  | alignment align => align.write
  | sampleBy s => s.write
  | latestOn l => l.write
  | limit l => l.write
  | select s => s.write

/-- The nodes right below a node, in the order in which they are written. -/
def children : Node → List Node
  | expr (.column _ _) => []
  | expr (.literal _ _) => []
  | expr (.binary _ left right) => [expr left, expr right]
  | expr (.unary _ operand) => [expr operand]
  | expr (.call _ _ args _) => args.map expr
  | expr (.subquery s) => [select s]
  | expr (.inInterval subject _) => [expr subject]
  | expr (.inList subject values) => expr subject :: values.map expr
  | expr (.between subject low high) => [expr subject, expr low, expr high]
  | expr (.isNull subject _) => [expr subject]
  | expr (.raw _) => []
  | projection p => [expr p.expr]
  | source (.table _ _) => []
  | source (.select s _) => [select s]
  | join j => source j.source :: j.predicate.toList.map expr
  | orderItem item => [expr item.expr]
  | fill _ => []
  | alignment _ => []
  | sampleBy s => s.fill.map fill ++ s.align.toList.map alignment
  | latestOn _ => []
  | limit _ => []
  | select s =>
    s.projections.map projection ++ source s.source :: s.joins.map join ++
      s.latestOn.toList.map latestOn ++ s.condition.toList.map expr ++
      s.sampleBy.toList.map sampleBy ++ s.groupBy.map expr ++ s.orderBy.map orderItem ++
      s.limit.toList.map limit

/-- The conditions on a node, apart from those on the nodes below it. -/
def Sound : Node → Prop
  | expr (.literal value type) => ∃ text, Literal.ofValue value type = .ok text
  | expr (.inList _ values) => values ≠ []
  | join j =>
    (j.kind = .inner ∨ j.kind = .left → j.predicate.isSome) ∧
      (j.kind = .cross → j.predicate.isNone) ∧
      ∀ tolerance ∈ j.tolerance,
        (j.kind = .asof ∨ j.kind = .lt) ∧ Period.isPeriod tolerance.toList
  | fill (.value x) => x.isFinite
  | sampleBy s => Period.isPeriod s.interval.toList
  | latestOn l => l.keys ≠ []
  | select s =>
    s.sampleBy.isSome → s.projections ≠ [] ∧ ∃ p ∈ s.projections, p.expr.isAggregate
  | _ => True

/-- A node of the tree below a node, or the node itself. -/
inductive Contains (root : Node) : Node → Prop where
  | root : Contains root root
  | child {node child : Node} : Contains root node → child ∈ node.children → Contains root child

/-! ### What each node is made of -/

theorem madeOf_writeOptional (before : String) (e : Option Expr) :
    MadeOf (Expr.writeOptional before e) True ((e.toList.map expr).map write) := by
  cases e with
  | none =>
    rw [Expr.writeOptional]
    exact MadeOf.done
  | some e =>
    rw [Expr.writeOptional]
    exact ((MadeOf.text before).bind (MadeOf.part e.write)).congr (by simp) rfl

theorem madeOf_writeLines (joins : List Join) :
    MadeOf (Join.writeLines joins) True ((joins.map join).map write) := by
  induction joins with
  | nil =>
    rw [Join.writeLines]
    exact MadeOf.done
  | cons j rest ih =>
    rw [Join.writeLines]
    exact ((MadeOf.text "\n").bind ((MadeOf.part j.write).bind ih)).congr (by simp) rfl

theorem madeOf_writeExprs (es : List Expr) :
    MadeOf (Expr.writeList es) True ((es.map expr).map write) := by
  rw [Expr.writeList_eq, List.map_map]
  exact madeOf_separated ", " Expr.write es

theorem madeOf_expr (e : Expr) :
    MadeOf e.write (expr e).Sound ((expr e).children.map write) := by
  cases e with
  | column qualifier name =>
    rw [Expr.write]
    exact MadeOf.text _
  | literal value type =>
    rw [Expr.write]
    exact madeOf_emitResult _
  | binary op left right =>
    rw [Expr.write]
    exact ((MadeOf.text _).bind <| (MadeOf.part left.write).bind <| (MadeOf.text _).bind <|
      (MadeOf.part right.write).bind (MadeOf.text _)).congr (by simp [Sound]) rfl
  | unary op operand =>
    rw [Expr.write]
    exact ((MadeOf.text _).bind <| (MadeOf.part operand.write).bind (MadeOf.text _)).congr
      (by simp [Sound]) rfl
  | call kind function args label =>
    rw [Expr.write]
    exact ((MadeOf.text _).bind <| (madeOf_writeExprs args).bind <| (MadeOf.text _).bind
      (madeOf_emitOptional _ _)).congr (by simp [Sound]) (by simp [children])
  | subquery s =>
    rw [Expr.write]
    exact ((MadeOf.text _).bind <| (MadeOf.part s.write).bind (MadeOf.text _)).congr
      (by simp [Sound]) rfl
  | inInterval subject interval =>
    rw [Expr.write]
    exact ((MadeOf.part subject.write).bind (MadeOf.text _)).congr (by simp [Sound]) rfl
  | inList subject values =>
    rw [Expr.write_inList]
    exact (((MadeOf.error _).runIf values.isEmpty).bind <| (MadeOf.part subject.write).bind <|
      (MadeOf.text _).bind <| (madeOf_writeExprs values).bind (MadeOf.text _)).congr
      (by simp [Sound]) (by simp [children, write])
  | between subject low high =>
    rw [Expr.write]
    exact ((MadeOf.text _).bind <| (MadeOf.part subject.write).bind <| (MadeOf.text _).bind <|
      (MadeOf.part low.write).bind <| (MadeOf.text _).bind <| (MadeOf.part high.write).bind
      (MadeOf.text _)).congr (by simp [Sound]) rfl
  | isNull subject negated =>
    rw [Expr.write]
    exact ((MadeOf.part subject.write).bind (MadeOf.text _)).congr (by simp [Sound]) rfl
  | raw sql =>
    rw [Expr.write]
    exact MadeOf.text _

theorem check_join_iff (j : Join) : j.check = .ok () ↔ (join j).Sound := by
  obtain ⟨kind, source, predicate, tolerance⟩ := j
  rw [Join.check]
  simp only [Check.and_then_eq_ok_iff, Check.refuseIf_eq_ok_iff, Check.optionForM_eq_ok_iff,
    Check.period_eq_ok_iff, Sound]
  cases kind <;> cases predicate <;> cases tolerance <;>
    simp [JoinKind.needsPredicate, JoinKind.takesPredicate, JoinKind.takesTolerance]

theorem madeOf_join (j : Join) :
    MadeOf j.write (join j).Sound ((join j).children.map write) := by
  obtain ⟨kind, s, predicate, tolerance⟩ := j
  rw [Join.write]
  exact ((madeOf_require _).bind <| (MadeOf.text _).bind <| (MadeOf.part s.write).bind <|
    (madeOf_writeOptional " ON " predicate).bind (madeOf_emitOptional _ _)).congr
    (by simp [check_join_iff]) (by simp [children, write])

theorem madeOf_fill (f : Fill) : MadeOf f.write (fill f).Sound [] := by
  cases f with
  | value x =>
    rw [Fill.write]
    by_cases hx : x.isFinite
    · rw [if_pos hx]
      exact (MadeOf.text _).congr (by simp [Sound, hx]) rfl
    · rw [if_neg hx]
      exact (MadeOf.error _).congr (by simp [Sound, hx]) rfl
  | _ => exact MadeOf.text _

theorem madeOf_alignment (align : Alignment) : MadeOf align.write True [] := by
  cases align with
  | calendar timeZone offset =>
    exact ((MadeOf.text _).bind <| (madeOf_emitOptional _ _).bind
      (madeOf_emitOptional _ _)).congr (by simp) rfl
  | firstObservation => exact MadeOf.text _

theorem madeOf_writeFills (fills : List Fill) :
    MadeOf (Fill.writeList fills) True ((fills.map fill).map write) := by
  rw [Fill.writeList]
  cases fills with
  | nil => exact MadeOf.done
  | cons f rest =>
    exact ((MadeOf.text _).bind <| (madeOf_separated ", " Fill.write (f :: rest)).bind
      (MadeOf.text _)).congr (by simp) (by simp [write])

theorem madeOf_sampleBy (s : SampleBy) :
    MadeOf s.write (sampleBy s).Sound ((sampleBy s).children.map write) := by
  rw [SampleBy.write]
  exact ((madeOf_require _).bind <| (MadeOf.text _).bind <| (madeOf_writeFills s.fill).bind
    (madeOf_emitClause _ s.align Alignment.write)).congr
    (by simp [Sound, Check.period_eq_ok_iff]) (by simp [children, write])

theorem madeOf_latestOn (l : LatestOn) : MadeOf l.write (latestOn l).Sound [] := by
  rw [LatestOn.write]
  split
  · rename_i h
    exact (MadeOf.error _).congr (by simpa [Sound] using h) rfl
  · rename_i h
    exact (MadeOf.text _).congr (by simpa [Sound] using h) rfl

theorem madeOf_limit (l : Limit) : MadeOf l.write True [] := by
  rw [Limit.write]
  exact ((MadeOf.text _).bind (madeOf_emitOptional _ _)).congr (by simp) rfl

theorem check_select_iff (s : Select) : s.check = .ok () ↔ (select s).Sound := by
  rw [Select.check]
  simp only [Check.and_then_eq_ok_iff, Check.refuseIf_eq_ok_iff, Sound]
  cases s.sampleBy <;> simp

theorem madeOf_select (s : Select) :
    MadeOf s.write (select s).Sound ((select s).children.map write) := by
  rw [Select.write_eq, Projection.writeList_eq, OrderItem.writeList_eq]
  exact ((madeOf_require s.check).bind <| (MadeOf.text _).bind <|
    ((MadeOf.text "*").runIf s.projections.isEmpty).bind <|
    (madeOf_separated ", " Projection.write s.projections).bind <| (MadeOf.text _).bind <|
    (MadeOf.part s.source.write).bind <| (madeOf_writeLines s.joins).bind <|
    (madeOf_emitClause _ s.latestOn LatestOn.write).bind <|
    (madeOf_writeOptional _ s.condition).bind <|
    (madeOf_emitClause _ s.sampleBy SampleBy.write).bind <|
    ((MadeOf.text _).runIf (!s.groupBy.isEmpty)).bind <| (madeOf_writeExprs s.groupBy).bind <|
    ((MadeOf.text _).runIf (!s.orderBy.isEmpty)).bind <|
    (madeOf_separated ", " OrderItem.write s.orderBy).bind
    (madeOf_emitClause _ s.limit Limit.write)).congr
    (by simp [check_select_iff]) (by simp [children, write]; rfl)

/-- A node is made of the nodes below it. -/
theorem madeOf (node : Node) : MadeOf node.write node.Sound (node.children.map write) := by
  cases node with
  | expr e => exact madeOf_expr e
  | projection p =>
    obtain ⟨e, label⟩ := p
    rw [write, Projection.write]
    exact ((MadeOf.part e.write).bind (madeOf_emitOptional _ _)).congr (by simp [Sound]) rfl
  | source s =>
    cases s with
    | table name label =>
      rw [write, Source.write]
      exact ((MadeOf.text _).bind (madeOf_emitOptional _ _)).congr (by simp [Sound]) rfl
    | select s label =>
      rw [write, Source.write]
      exact ((MadeOf.text _).bind <| (MadeOf.part s.write).bind (MadeOf.text _)).congr
        (by simp [Sound]) rfl
  | join j => exact madeOf_join j
  | orderItem item =>
    obtain ⟨e, direction⟩ := item
    rw [write, OrderItem.write]
    exact ((MadeOf.part e.write).bind (MadeOf.text _)).congr (by simp [Sound]) rfl
  | fill f => exact madeOf_fill f
  | alignment align => exact madeOf_alignment align
  | sampleBy s => exact madeOf_sampleBy s
  | latestOn l => exact madeOf_latestOn l
  | limit l => exact madeOf_limit l
  | select s => exact madeOf_select s

theorem composed (node : Node) : Composed node.write node.Sound (node.children.map write) :=
  node.madeOf.composed

/-! ### Whole trees -/

theorem sizeOf_le_of_mem_map {α : Type} [SizeOf α] {f : α → Node} {items : List α} {child : Node}
    (hf : ∀ a, sizeOf (f a) = 1 + sizeOf a) (h : child ∈ items.map f) :
    sizeOf child ≤ sizeOf items := by
  obtain ⟨a, ha, rfl⟩ := List.mem_map.1 h
  have := List.sizeOf_lt_of_mem ha
  rw [hf]
  omega

theorem sizeOf_le_of_mem_option {α : Type} [SizeOf α] {f : α → Node} {item : Option α}
    {child : Node} (hf : ∀ a, sizeOf (f a) = 1 + sizeOf a) (h : child ∈ item.toList.map f) :
    sizeOf child ≤ sizeOf item := by
  cases item with
  | none => simp at h
  | some a =>
    obtain rfl : child = f a := by simpa using h
    simp [hf]

theorem sizeOf_lt_of_mem_children_expr {e : Expr} {child : Node} (h : child ∈ (expr e).children) :
    sizeOf child < sizeOf (expr e) := by
  cases e with
  | binary op left right =>
    simp only [children, List.mem_cons, List.not_mem_nil, or_false] at h
    rcases h with rfl | rfl <;> simp +arith
  | unary op operand =>
    obtain rfl := List.mem_singleton.1 h
    simp
  | call kind function args label =>
    have := sizeOf_le_of_mem_map (fun _ => rfl) h
    simp
    omega
  | subquery s =>
    obtain rfl := List.mem_singleton.1 h
    simp
  | inInterval subject interval =>
    obtain rfl := List.mem_singleton.1 h
    simp
    omega
  | inList subject values =>
    rcases List.mem_cons.1 h with rfl | h
    · simp
      omega
    · have := sizeOf_le_of_mem_map (fun _ => rfl) h
      simp
      omega
  | between subject low high =>
    simp only [children, List.mem_cons, List.not_mem_nil, or_false] at h
    rcases h with rfl | rfl | rfl <;> simp +arith
  | isNull subject negated =>
    obtain rfl := List.mem_singleton.1 h
    simp
  | column qualifier name => cases h
  | literal value type => cases h
  | raw sql => cases h

theorem sizeOf_lt_of_mem_children_select {s : Select} {child : Node}
    (h : child ∈ (select s).children) : sizeOf child < sizeOf (select s) := by
  obtain ⟨distinct, projections, src, joins, condition, groupBy, orderBy, lim, sample, latest⟩ := s
  simp only [children, List.mem_append, List.mem_cons] at h
  rw [select.sizeOf_spec, Select.mk.sizeOf_spec]
  rcases h with ((((((h | rfl | h) | h) | h) | h) | h) | h) | h
  · have := sizeOf_le_of_mem_map (fun _ => rfl) h
    omega
  · simp
    omega
  · have := sizeOf_le_of_mem_map (fun _ => rfl) h
    omega
  · have := sizeOf_le_of_mem_option (fun _ => rfl) h
    omega
  · have := sizeOf_le_of_mem_option (fun _ => rfl) h
    omega
  · have := sizeOf_le_of_mem_option (fun _ => rfl) h
    omega
  · have := sizeOf_le_of_mem_map (fun _ => rfl) h
    omega
  · have := sizeOf_le_of_mem_map (fun _ => rfl) h
    omega
  · have := sizeOf_le_of_mem_option (fun _ => rfl) h
    omega

theorem sizeOf_lt_of_mem_children {node child : Node} (h : child ∈ node.children) :
    sizeOf child < sizeOf node := by
  cases node with
  | expr e => exact sizeOf_lt_of_mem_children_expr h
  | projection p =>
    obtain rfl := List.mem_singleton.1 h
    obtain ⟨e, label⟩ := p
    simp
    omega
  | source s =>
    cases s with
    | table name label => cases h
    | select s label =>
      obtain rfl := List.mem_singleton.1 h
      simp
      omega
  | join j =>
    obtain ⟨kind, s, predicate, tolerance⟩ := j
    rcases List.mem_cons.1 h with rfl | h
    · simp
      omega
    · have := sizeOf_le_of_mem_option (fun _ => rfl) h
      simp at this ⊢
      omega
  | orderItem item =>
    obtain rfl := List.mem_singleton.1 h
    obtain ⟨e, direction⟩ := item
    simp
    omega
  | sampleBy s =>
    obtain ⟨interval, fills, align⟩ := s
    rcases List.mem_append.1 h with h | h
    · have : sizeOf child ≤ sizeOf fills := sizeOf_le_of_mem_map (fun _ => rfl) h
      simp
      omega
    · have : sizeOf child ≤ sizeOf align := sizeOf_le_of_mem_option (fun _ => rfl) h
      simp
      omega
  | select s => exact sizeOf_lt_of_mem_children_select h
  | fill f => cases h
  | alignment align => cases h
  | latestOn l => cases h
  | limit l => cases h

theorem Contains.of_child {root node child : Node} (hchild : child ∈ root.children)
    (h : child.Contains node) : root.Contains node := by
  induction h with
  | root => exact .child .root hchild
  | child _ hmem ih => exact .child ih hmem

theorem succeeds_of_contains {root node : Node} (hroot : Succeeds root.write)
    (h : root.Contains node) : Succeeds node.write := by
  induction h with
  | root => exact hroot
  | @child parent child _ hmem ih =>
    exact ((composed parent).succeeds_iff.1 ih).2 _ (List.mem_map_of_mem hmem)

/-- A node can be written when every node in its tree is sound. -/
theorem succeeds_write_iff (root : Node) :
    Succeeds root.write ↔ ∀ node, root.Contains node → node.Sound := by
  constructor
  · intro hroot node h
    exact ((composed node).succeeds_iff.1 (succeeds_of_contains hroot h)).1
  · intro h
    refine (composed root).succeeds_iff.2 ⟨h root .root, fun part hpart => ?_⟩
    obtain ⟨child, hchild, rfl⟩ := List.mem_map.1 hpart
    have := sizeOf_lt_of_mem_children hchild
    exact (succeeds_write_iff child).2 fun node hnode => h node (.of_child hchild hnode)
termination_by sizeOf root

/-- The error of a node is the error of a node in its tree that is not sound. -/
theorem exists_origin (root : Node) {e : SqlError} (h : Stops root.write e) :
    ∃ node, root.Contains node ∧ ¬ node.Sound ∧ Stops node.write e := by
  by_cases hsound : root.Sound
  · obtain ⟨part, hpart, hstops⟩ := (composed root).origin e h hsound
    obtain ⟨child, hchild, rfl⟩ := List.mem_map.1 hpart
    have := sizeOf_lt_of_mem_children hchild
    obtain ⟨node, hnode, hfault⟩ := exists_origin child hstops
    exact ⟨node, .of_child hchild hnode, hfault⟩
  · exact ⟨root, .root, hsound, h⟩
termination_by sizeOf root

end Node

/-- A select can be written exactly when every node in its tree is sound. Its error is then the one
of a node that is not, and no node in the tree has an error while the select has none. -/
theorem Select.toSql_succeeds_iff (s : Select) :
    ((∃ text, s.write.toSql = .ok text) ↔
        ∀ node, (Node.select s).Contains node → node.Sound) ∧
      (∀ e, s.write.toSql = .error e →
        ∃ node, (Node.select s).Contains node ∧ ¬ node.Sound ∧ node.write.toSql = .error e) ∧
      ∀ node e, (Node.select s).Contains node → node.write.toSql = .error e →
        ∃ e', s.write.toSql = .error e' := by
  have hsteady : ∀ node : Node, Steady node.write := fun node => (Node.composed node).steady
  have hsucceeds : (∃ text, s.write.toSql = .ok text) ↔ Succeeds s.write :=
    exists_congr fun text => toSql_eq_ok_iff
  refine ⟨hsucceeds.trans (Node.succeeds_write_iff (.select s)), fun e h => ?_,
    fun node e hnode h => ?_⟩
  · obtain ⟨node, hnode, hunsound, hstops⟩ :=
      Node.exists_origin (.select s) (toSql_eq_error_iff.1 h)
    exact ⟨node, hnode, hunsound, toSql_eq_error_iff.2 hstops⟩
  · rcases (hsteady (.select s)).succeeds_or_stops with hok | ⟨e', hstops⟩
    · exact absurd (Node.succeeds_of_contains hok hnode) (toSql_eq_error_iff.1 h).not_succeeds
    · exact ⟨e', toSql_eq_error_iff.2 hstops⟩

/-- A list without members in a nested select: its error is the error of the whole select. -/
theorem Select.toSql_succeeds_iff_emptyInList :
    let list := Expr.inList (.column none "a") []
    let nested := { Select.ofSource (.table "t" none) with condition := some list }
    let s := Select.ofSource (.select nested "u")
    (Node.select s).Contains (.expr list) ∧ (∃ e, s.write.toSql = .error e) ∧
      ¬ ∃ text, s.write.toSql = .ok text := by
  intro list nested s
  have hsource : (Node.select s).Contains (.source (.select nested "u")) :=
    .child .root (by simp [s, Select.ofSource, Node.children])
  have hnested : (Node.select s).Contains (.select nested) :=
    hsource.child (List.mem_singleton_self _)
  have hlist : (Node.select s).Contains (.expr list) :=
    hnested.child (by simp [nested, Node.children])
  obtain ⟨hsound, -, hkept⟩ := toSql_succeeds_iff s
  exact ⟨hlist, hkept _ _ hlist rfl, fun h => hsound.1 h _ hlist rfl⟩

end SeriesSql
