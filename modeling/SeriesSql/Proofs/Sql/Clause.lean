import Mathlib
import SeriesSql.Proofs.Check
import SeriesSql.Proofs.Sql.Pieces
import SeriesSql.Proofs.Sql.Rendering

/-!
# Reading the clauses without expressions

The operators and words that are chosen from a closed list, the labels of tables, and the clauses
for sampling, for the latest rows and for limits.
-/

namespace SeriesSql

open Writer

namespace Reader

/-! ### Lists -/

/-- A text of pieces separated by commas, each of which is read to its end before a comma, a line
break or a closing parenthesis. -/
inductive Items {α : Type} (item : Nat → Reader α) : List Char → List α → Prop
  | one {cs : List Char} {a : α}
    (h : ∀ rest, Starts [", ", "\n"] rest →
      Settles (fun fuel => item fuel (cs ++ rest)) (a, rest)) :
    Items item cs [a]
  | more {cs more : List Char} {a : α} {as : List α}
    (h : ∀ rest, Starts [", ", "\n"] rest →
      Settles (fun fuel => item fuel (cs ++ rest)) (a, rest))
    (hmore : Items item more as) : Items item (cs ++ (", ".toList ++ more)) (a :: as)

theorem Items.settles {α : Type} {item : Nat → Reader α} {cs : List Char} {as : List α}
    (h : Items item cs as) {rest : List Char} (hrest : Starts ["\n"] rest) :
    Settles (fun fuel => commaSeparated (item fuel) fuel (cs ++ rest)) (as, rest) := by
  -- The pieces and the list of them need fuel independently.
  have hboth : ∃ enough, ∀ itemFuel fuel, enough ≤ itemFuel → enough ≤ fuel →
      commaSeparated (item itemFuel) fuel (cs ++ rest) = some (as, rest) := by
    induction h with
    | one hitem =>
      have hnone : expect ", " rest = none := expect_of_starts (by decide) hrest
      obtain ⟨enough, hitem⟩ := hitem rest (hrest.mono (List.subset_cons_self _ _))
      refine ⟨enough + 1, fun itemFuel fuel hitemFuel hfuel => ?_⟩
      obtain ⟨less, rfl⟩ : ∃ less, fuel = less + 1 := ⟨fuel - 1, by omega⟩
      simp only [commaSeparated, hitem itemFuel (by omega), Option.bind_eq_bind, Option.bind_some,
        hnone]
    | @more cs others a as hitem _ ih =>
      obtain ⟨enough, ih⟩ := ih
      obtain ⟨enough', hitem⟩ := hitem (", ".toList ++ (others ++ rest))
        (.append List.mem_cons_self _)
      refine ⟨max enough enough' + 1, fun itemFuel fuel hitemFuel hfuel => ?_⟩
      obtain ⟨less, rfl⟩ : ∃ less, fuel = less + 1 := ⟨fuel - 1, by omega⟩
      simp only [List.append_assoc, commaSeparated, hitem itemFuel (by omega),
        Option.bind_eq_bind, Option.bind_some, expect_append,
        ih itemFuel less (by omega) (by omega)]
  obtain ⟨enough, hboth⟩ := hboth
  exact ⟨enough, fun fuel hfuel => hboth fuel fuel hfuel hfuel⟩

theorem items_separated {α β : Type} {write : β → Writer Unit} [∀ b, Steady (write b)]
    {item : Nat → Reader α} {shape : β → α} {bs : List β} (hne : bs ≠ [])
    (hitem : ∀ b ∈ bs, ∀ text, Emits (write b) text → ∀ rest, Starts [", ", "\n"] rest →
      Settles (fun fuel => item fuel (text.toList ++ rest)) (shape b, rest))
    {text : String} (h : Emits (separated ", " write bs) text) :
    Items item text.toList (bs.map shape) := by
  induction bs generalizing text with
  | nil => exact absurd rfl hne
  | cons b bs ih =>
    obtain ⟨hfirst, hrest⟩ := List.forall_mem_cons.1 hitem
    cases bs with
    | nil => exact .one (hfirst text h)
    | cons next bs =>
      obtain ⟨first, others, rfl, hb, hothers⟩ := emits_separated_cons_iff.1 h
      rw [String.toList_append, String.toList_append]
      exact .more (hfirst first hb) (ih (List.cons_ne_nil _ _) hrest hothers)

/-! ### Choices -/

theorem choice_eq_none {α : Type} {choices : List α} {text : α → String} {cs : List Char}
    (h : ∀ a ∈ choices, expect (text a) cs = none) : choice choices text cs = none := by
  rw [choice, List.findSome?_eq_none_iff]
  intro a ha
  rw [h a ha]
  rfl

theorem operator_append (op : BinaryOp) (rest : List Char) :
    operator ((" " ++ op.sign ++ " ").toList ++ rest) = some (op, rest) := by
  cases op <;> rfl

theorem sign_mem_closers (op : BinaryOp) : " " ++ op.sign ++ " " ∈ closers := by
  cases op <;> decide

theorem direction_append (d : Direction) (rest : List Char) :
    direction ((" " ++ d.word).toList ++ rest) = some (d, rest) := by
  cases d <;> rfl

theorem word_mem_closers (d : Direction) : " " ++ d.word ∈ closers := by
  cases d <;> decide

theorem joinKind_append (kind : JoinKind) (rest : List Char) :
    joinKind (("\n" ++ (kind.word ++ " JOIN ")).toList ++ rest) = some (kind, rest) := by
  cases kind <;> rfl

/-! ### Labels of tables -/

def sourceClosers : List String :=
  ["\n", " ON ", " TOLERANCE "]

theorem tableLabel_some {label : String} (hlabel : label ∉ bareWords) {rest : List Char}
    (hrest : NameEnds rest) :
    tableLabel ((" " ++ Token.name label).toList ++ rest) = some (some label, rest) := by
  rw [String.toList_append, List.append_assoc]
  change tableLabel (' ' :: ((Token.name label).toList ++ rest)) = _
  rw [tableLabel, name_append hlabel hrest]

theorem tableLabel_none {rest : List Char} (hrest : Starts sourceClosers rest) :
    tableLabel rest = some (none, rest) := by
  rcases hrest with rfl | ⟨text, htext, tail, rfl⟩
  · rfl
  · simp only [sourceClosers, List.mem_cons, List.not_mem_nil, or_false] at htext
    rcases htext with rfl | rfl | rfl | rfl <;> rfl

/-! ### Sampling -/

theorem isChunk_of_check {role : PeriodRole} {text : String}
    (h : Period.check role text = .ok ()) : isChunk text := by
  have hunits : Period.units.all (!isDelimiter ·) := rfl
  rw [isChunk, List.all_eq_true]
  intro c hc
  rcases Period.mem_of_isPeriod (Check.period_eq_ok_iff.1 h) hc with hdigit | hunit
  · rw [Bool.not_eq_true', ← Bool.not_eq_true, isDelimiter_iff]
    rintro (rfl | rfl | rfl | rfl) <;> exact absurd hdigit (by decide)
  · exact List.all_eq_true.1 hunits c hunit

/-- A numeral is no word of a fill. -/
theorem ofText_numeral {text : String} (h : Numeral.Signed text.toList) :
    FillShape.ofText text = .value text := by
  obtain ⟨c, tail, htext, hc⟩ := h.exists_head
  have hne : ∀ word : String, word.toList.head? ≠ some c → text ≠ word := by
    rintro word hword rfl
    rw [htext] at hword
    exact hword rfl
  have hletter : c ≠ 'N' ∧ c ≠ 'P' ∧ c ≠ 'L' := by
    refine ⟨?_, ?_, ?_⟩ <;> rintro rfl <;> revert hc <;> decide
  have hhead : ∀ {d : Char}, c ≠ d → some d ≠ some c := fun hcd heq =>
    hcd (Option.some.inj heq).symm
  rw [FillShape.ofText, if_neg (hne "NONE" (hhead hletter.1)),
    if_neg (hne "NULL" (hhead hletter.1)), if_neg (hne "PREV" (hhead hletter.2.1)),
    if_neg (hne "LINEAR" (hhead hletter.2.2))]

theorem isChunk_numeral {text : String} (h : Numeral.Signed text.toList) : isChunk text := by
  rw [isChunk_iff]
  intro c hc
  rcases h.mem hc with hdigit | rfl | rfl
  · exact isDelimiter_of_isDigit hdigit
  · rfl
  · rfl

theorem fill_append {item : Fill} {text : String} (h : Emits item.write text) {rest : List Char}
    (hrest : Delimited rest) : fill (text.toList ++ rest) = some (item.shape, rest) := by
  cases item with
  | value x =>
    cases x with
    | finite negative rank =>
      obtain rfl := emits_emit_iff.1 h
      have hnumeral := Numeral.signed_finite negative rank
      simp only [fill, chunk_append (isChunk_numeral hnumeral) hrest, Option.map_some,
        ofText_numeral hnumeral, Fill.shape]
    | nan => exact absurd h (stops_throw _).not_emits
    | infinite negative => exact absurd h (stops_throw _).not_emits
  | _ =>
    obtain rfl := emits_emit_iff.1 h
    rw [fill, chunk_append rfl hrest]
    rfl

theorem settles_fills {items : List Fill} {text : String} (h : Emits (Fill.writeList items) text)
    {rest : List Char} (hrest : Starts [" ALIGN", "\n"] rest) :
    Settles (fun fuel => fills fuel (text.toList ++ rest)) (items.map Fill.shape, rest) ∧
      Starts [" FILL(", " ALIGN", "\n"] (text.toList ++ rest) := by
  rw [Fill.writeList] at h
  split at h
  · rename_i hempty
    obtain rfl := emits_pure_iff.1 h
    obtain rfl := List.isEmpty_iff.1 hempty
    refine ⟨Settles.of_eq fun fuel => ?_, hrest.mono (List.subset_cons_self _ _)⟩
    exact optionalList_eq_nil _ (expect_of_starts (by decide) hrest)
  · rename_i hne
    simp only [emits_bind_iff, emits_emit_iff] at h
    obtain ⟨_, _, rfl, rfl, inner, _, rfl, hinner, rfl⟩ := h
    have hitems : Items (fun _ => fill) inner.toList (items.map Fill.shape) := by
      apply items_separated (fun hnil => hne (List.isEmpty_iff.2 hnil)) _ hinner
      intro item _ text hitem rest hrest
      exact .of_eq fun _ => fill_append hitem (hrest.delimited rfl)
    have hclose : expect ")" (')' :: rest) = some rest := rfl
    simp only [String.toList_append, List.append_assoc, fills, optionalList_append,
      Option.bind_eq_bind]
    refine ⟨(hitems.settles (.close rest)).bind ?_, .append List.mem_cons_self _⟩
    simp only [hclose, Option.bind_some]
    exact .of_eq fun _ => rfl

theorem starts_emitOptional {before : String} {part : Option String} {text : String}
    (h : Emits (emitOptional before part) text) {texts : List String} (hbefore : before ∈ texts)
    {rest : List Char} (hrest : Starts texts rest) : Starts texts (text.toList ++ rest) := by
  cases part with
  | none =>
    obtain rfl := emits_pure_iff.1 h
    exact hrest
  | some inner =>
    obtain rfl := emits_emit_iff.1 h
    rw [String.toList_append, List.append_assoc]
    exact .append hbefore _

theorem optional_quoted {before opening : String} (hopening : opening = before ++ "'")
    {part : Option String} {text : String}
    (h : Emits (emitOptional before (part.map Token.quoted)) text) {rest : List Char}
    (hrest : Delimited rest) (hnone : expect opening rest = none) :
    optional opening quoted (text.toList ++ rest) = some (part, rest) := by
  cases part with
  | none =>
    obtain rfl := emits_pure_iff.1 h
    exact optional_eq_none quoted hnone
  | some s =>
    obtain rfl := emits_emit_iff.1 h
    have hquote : '\'' ∉ rest.head? :=
      hrest.ne_head (by decide) (by decide) (by decide) (by decide)
    have htext : (before ++ Token.quoted s).toList ++ rest =
        opening.toList ++ (Token.doubleQuotes '\'' s.toList ++ '\'' :: rest) := by
      rw [hopening, Token.quoted, Token.enclose]
      simp
    rw [htext, optional_append, quoted_append s hquote]
    rfl

theorem alignment_some {align : Alignment} {text : String} (h : Emits align.write text)
    {rest : List Char} (hrest : Starts ["\n"] rest) :
    alignment ((" " ++ text).toList ++ rest) = some (some align, rest) := by
  cases align with
  | calendar timeZone offset =>
    simp only [Alignment.write, emits_bind_iff, emits_emit_iff] at h
    obtain ⟨_, _, rfl, rfl, zone, shift, rfl, hzone, hshift⟩ := h
    have hafter : Starts [" WITH OFFSET ", "\n"] (shift.toList ++ rest) :=
      starts_emitOptional hshift List.mem_cons_self (hrest.mono (List.subset_cons_self _ _))
    have hzoneRead : optional " TIME ZONE '" quoted (zone.toList ++ (shift.toList ++ rest)) =
        some (timeZone, shift.toList ++ rest) :=
      optional_quoted rfl hzone (hafter.delimited rfl) (expect_of_starts (by decide) hafter)
    have hshiftRead : optional " WITH OFFSET '" quoted (shift.toList ++ rest) =
        some (offset, rest) :=
      optional_quoted rfl hshift (hrest.delimited rfl) (expect_of_starts (by decide) hrest)
    have htext : (" " ++ ("ALIGN TO CALENDAR" ++ (zone ++ shift))).toList ++ rest =
        " ALIGN TO CALENDAR".toList ++ (zone.toList ++ (shift.toList ++ rest)) := by
      simp
    simp only [htext, alignment, expect_append, hzoneRead, hshiftRead, Option.bind_eq_bind,
      Option.bind_some]
  | firstObservation =>
    obtain rfl := emits_emit_iff.1 h
    rfl

theorem alignment_append {align : Option Alignment} {text : String}
    (h : Emits (emitClause " " align Alignment.write) text) {rest : List Char}
    (hrest : Starts ["\n"] rest) :
    alignment (text.toList ++ rest) = some (align, rest) ∧
      Starts [" ALIGN", "\n"] (text.toList ++ rest) := by
  cases align with
  | none =>
    obtain rfl := emits_pure_iff.1 h
    have hcalendar : expect " ALIGN TO CALENDAR" rest = none := expect_of_starts (by decide) hrest
    have hfirst : expect " ALIGN TO FIRST OBSERVATION" rest = none :=
      expect_of_starts (by decide) hrest
    refine ⟨?_, hrest.mono (List.subset_cons_self _ _)⟩
    rw [String.toList_empty, List.nil_append, alignment, hcalendar, hfirst]
  | some align =>
    simp only [emitClause, emits_bind_iff, emits_emit_iff] at h
    obtain ⟨_, inner, rfl, rfl, hinner⟩ := h
    refine ⟨alignment_some hinner hrest, ?_⟩
    cases align with
    | calendar timeZone offset =>
      simp only [Alignment.write, emits_bind_iff, emits_emit_iff] at hinner
      obtain ⟨_, after, rfl, rfl, -⟩ := hinner
      rw [String.toList_append, String.toList_append]
      exact .inr ⟨" ALIGN", by decide, " TO CALENDAR".toList ++ (after.toList ++ rest), by simp⟩
    | firstObservation =>
      obtain rfl := emits_emit_iff.1 hinner
      exact .inr ⟨" ALIGN", by decide, _, rfl⟩

theorem settles_sampleBy {sample : SampleBy} {text : String} (h : Emits sample.write text) :
    ∃ body : List Char, text.toList = "SAMPLE BY ".toList ++ body ∧
      ∀ rest, Starts ["\n"] rest →
        Settles (fun fuel => sampleBy fuel (body ++ rest)) (sample.shape, rest) := by
  simp only [SampleBy.write, emits_bind_iff, emits_require_iff, emits_emit_iff] at h
  obtain ⟨_, _, rfl, ⟨hperiod, rfl⟩, _, _, rfl, rfl, fill, align, rfl, hfill, halign⟩ := h
  refine ⟨sample.interval.toList ++ (fill.toList ++ align.toList), by simp, fun rest hrest => ?_⟩
  obtain ⟨hread, hafter⟩ := alignment_append halign hrest
  obtain ⟨hfills, hbefore⟩ := settles_fills hfill hafter
  have hinterval : chunk (sample.interval.toList ++ (fill.toList ++ (align.toList ++ rest))) =
      some (sample.interval, fill.toList ++ (align.toList ++ rest)) :=
    chunk_append (isChunk_of_check hperiod) (hbefore.delimited rfl)
  simp only [List.append_assoc, sampleBy, hinterval, Option.bind_eq_bind, Option.bind_some]
  apply hfills.bind
  simp only [hread, Option.bind_some]
  exact .of_eq fun _ => rfl

/-! ### The latest rows -/

theorem items_names {names : List String} (hne : names ≠ [])
    (hfree : ∀ n ∈ names, n ∉ bareWords) :
    Items (fun _ => name) (Token.names names).toList names := by
  induction names with
  | nil => exact absurd rfl hne
  | cons n names ih =>
    obtain ⟨hn, hnames⟩ := List.forall_mem_cons.1 hfree
    have hitem : ∀ rest, Starts [", ", "\n"] rest →
        Settles (fun _ => name ((Token.name n).toList ++ rest)) (n, rest) := fun rest hrest =>
      .of_eq fun _ => name_append hn (nameEnds_of_delimited (hrest.delimited rfl))
    cases names with
    | nil =>
      rw [Token.names, List.map_singleton, String.intercalate_singleton]
      exact .one hitem
    | cons next names =>
      have htext : (Token.names (n :: next :: names)).toList =
          (Token.name n).toList ++ (", ".toList ++ (Token.names (next :: names)).toList) := by
        simp [Token.names, String.intercalate_cons_cons]
      rw [htext]
      exact .more hitem (ih (List.cons_ne_nil _ _) hnames)

theorem settles_latestOn {latest : LatestOn} {text : String} (h : Emits latest.write text)
    (hfree : ∀ n ∈ latest.timestamp :: latest.keys, n ∉ bareWords) :
    ∃ body : List Char, text.toList = "LATEST ON ".toList ++ body ∧
      ∀ rest, Starts ["\n"] rest →
        Settles (fun fuel => latestOn fuel (body ++ rest)) (latest, rest) := by
  rw [LatestOn.write] at h
  split at h
  · exact absurd h (stops_throw _).not_emits
  · rename_i hne
    obtain rfl := emits_emit_iff.1 h
    obtain ⟨htimestamp, hkeys⟩ := List.forall_mem_cons.1 hfree
    have hnames := items_names (fun hnil => hne (List.isEmpty_iff.2 hnil)) hkeys
    refine ⟨(Token.name latest.timestamp).toList ++
      (" PARTITION BY ".toList ++ (Token.names latest.keys).toList), by simp, fun rest hrest => ?_⟩
    have hends : NameEnds (" PARTITION BY ".toList ++ ((Token.names latest.keys).toList ++ rest)) :=
      nameEnds_of_delimited (delimited_append " PARTITION BY " rfl _)
    simp only [List.append_assoc, latestOn, name_append htimestamp hends, Option.bind_eq_bind,
      Option.bind_some, expect_append]
    exact (hnames.settles hrest).bind (.of_eq fun _ => rfl)

/-! ### Limits -/

theorem limit_append {l : Limit} {text : String} (h : Emits l.write text) :
    ∃ body : List Char, text.toList = "LIMIT ".toList ++ body ∧
      ∀ rest, Starts [] rest → limit (body ++ rest) = some (l, rest) := by
  obtain ⟨count, offset⟩ := l
  simp only [Limit.write, emits_bind_iff, emits_emit_iff] at h
  obtain ⟨_, after, rfl, rfl, hafter⟩ := h
  have htext : (s!"LIMIT {count}" ++ after).toList =
      "LIMIT ".toList ++ ((toString count).toList ++ after.toList) := by
    rw [String.toList_append, String.toList_append, List.append_assoc]
    rfl
  refine ⟨_, htext, fun rest hrest => ?_⟩
  rw [List.append_assoc]
  cases offset with
  | none =>
    obtain rfl := emits_pure_iff.1 hafter
    have hnone : expect ", " rest = none := expect_of_starts (by decide) hrest
    simp only [String.toList_empty, List.nil_append, limit,
      integer_append count (hrest.delimited rfl), Option.bind_eq_bind, Option.bind_some,
      optional_eq_none integer hnone]
  | some n =>
    obtain rfl := emits_emit_iff.1 hafter
    have hcomma : Delimited (", ".toList ++ ((toString n).toList ++ rest)) :=
      delimited_append ", " rfl _
    simp only [String.toList_append, List.append_assoc, limit, integer_append count hcomma,
      Option.bind_eq_bind, Option.bind_some, optional_append,
      integer_append n (hrest.delimited rfl), Option.map_some]

end Reader
end SeriesSql
