import Mathlib
import SeriesSql.Sql.Literal

/-!
# Checks that pass

A check is a sequence of refusals. It passes when each of them passes, so what it lets through can
be read off its parts; a period passes as a count and a unit. A list whose items may fail has the
results of all of them or the error of the first that fails.
-/

namespace SeriesSql

namespace Period

/-- A count in digits and one unit. -/
def Spelled (digit : Char → Bool) (cs : List Char) : Prop :=
  ∃ count unit, count ≠ [] ∧ (∀ c ∈ count, digit c) ∧ unit ∈ units ∧ cs = count ++ [unit]

theorem isPeriod_iff {cs : List Char} : isPeriod cs ↔ Spelled Text.isDecimalDigit cs := by
  have hunits : units.all fun unit => !Text.isDecimalDigit unit := by decide
  rw [isPeriod, List.span_eq_takeWhile_dropWhile]
  constructor
  · intro h
    split at h
    · rename_i d count unit heq
      obtain ⟨hcount, hunit⟩ := Prod.mk.inj heq
      refine ⟨d :: count, unit, List.cons_ne_nil d count, fun c hc => ?_,
        List.contains_iff_mem.1 h, ?_⟩
      · exact List.mem_takeWhile_imp (hcount ▸ hc)
      · rw [← hcount, ← hunit, List.takeWhile_append_dropWhile]
    · cases h
  · rintro ⟨count, unit, hne, hcount, hunit, rfl⟩
    obtain ⟨d, count, rfl⟩ := List.exists_cons_of_ne_nil hne
    have hstop : ¬ Text.isDecimalDigit unit := by simpa using List.all_eq_true.1 hunits unit hunit
    rw [List.takeWhile_append_of_pos hcount, List.dropWhile_append_of_pos hcount,
      List.takeWhile_cons_of_neg hstop, List.dropWhile_cons_of_neg hstop, List.append_nil]
    exact List.contains_iff_mem.2 hunit

theorem mem_of_isPeriod {cs : List Char} (h : isPeriod cs) {c : Char} (hc : c ∈ cs) :
    Text.isDecimalDigit c ∨ c ∈ units := by
  obtain ⟨count, unit, -, hcount, hunit, rfl⟩ := isPeriod_iff.1 h
  rcases List.mem_append.1 hc with hc | hc
  · exact .inl (hcount c hc)
  · obtain rfl := List.mem_singleton.1 hc
    exact .inr hunit

end Period

namespace Check

theorem bind_eq_ok_iff {ε α β : Type} {x : Except ε α} {f : α → Except ε β} {b : β} :
    (x >>= f) = .ok b ↔ ∃ a, x = .ok a ∧ f a = .ok b := by
  cases x <;> simp [bind, Except.bind]

theorem map_eq_ok_iff {ε α β : Type} {x : Except ε α} {f : α → β} {b : β} :
    x.map f = .ok b ↔ ∃ a, x = .ok a ∧ f a = b := by
  cases x <;> simp [Except.map]

theorem bind_eq_error_iff {ε α β : Type} {x : Except ε α} {f : α → Except ε β} {e : ε} :
    (x >>= f) = .error e ↔ x = .error e ∨ ∃ a, x = .ok a ∧ f a = .error e := by
  cases x <;> simp [bind, Except.bind]

theorem and_then_eq_ok_iff {ε : Type} {x : Except ε Unit} {f : Unit → Except ε Unit} :
    (x >>= f) = .ok () ↔ x = .ok () ∧ f () = .ok () := by
  rw [bind_eq_ok_iff]
  exact ⟨fun ⟨(), hx, hf⟩ => ⟨hx, hf⟩, fun ⟨hx, hf⟩ => ⟨(), hx, hf⟩⟩

theorem mapError_eq_ok_iff {ε ε' α : Type} {f : ε → ε'} {x : Except ε α} {a : α} :
    x.mapError f = .ok a ↔ x = .ok a := by
  cases x <;> simp [Except.mapError]

theorem isOk_iff {ε α : Type} {x : Except ε α} : x.isOk ↔ ∃ a, x = .ok a := by
  cases x <;> simp [Except.isOk, Except.toBool]

theorem discard_eq_ok_iff {ε α : Type} {x : Except ε α} {u : Unit} :
    discard x = .ok u ↔ ∃ a, x = .ok a := by
  cases x with
  | error e => exact ⟨nofun, nofun⟩
  | ok a => exact ⟨fun _ => ⟨a, rfl⟩, fun _ => rfl⟩

theorem discard_map {ε α β : Type} (x : Except ε α) (f : α → β) :
    discard (x.map f) = discard x := by
  cases x <;> rfl

theorem exists_map_eq_ok_iff {ε α β : Type} {x : Except ε α} {f : α → β} :
    (∃ b, x.map f = .ok b) ↔ ∃ a, x = .ok a := by
  cases x <;> simp [Except.map]

theorem refuseIf_eq_ok_iff {broken : Bool} {violation : Violation} :
    refuseIf broken violation = .ok () ↔ broken = false := by
  cases broken <;> simp [refuseIf]

theorem refuseIf_eq_error_iff {broken : Bool} {violation : Violation} {e : SqlError} :
    refuseIf broken violation = .error e ↔ broken ∧ e = .validation violation := by
  cases broken <;> simp [refuseIf, eq_comm]

theorem forM_eq_ok_iff {α ε : Type} {f : α → Except ε Unit} {items : List α} :
    items.forM f = .ok () ↔ ∀ item ∈ items, f item = .ok () := by
  induction items with
  | nil => simp [pure, Except.pure]
  | cons item items ih =>
    change (f item >>= fun _ => items.forM f) = .ok () ↔ _
    rw [and_then_eq_ok_iff, ih, List.forall_mem_cons]

theorem optionForM_eq_ok_iff {α ε : Type} {f : α → Except ε Unit} {item : Option α} :
    item.forM f = .ok () ↔ ∀ a ∈ item, f a = .ok () := by
  cases item <;> simp [Option.forM, pure, Except.pure]

theorem period_eq_ok_iff {role : PeriodRole} {text : String} :
    Period.check role text = .ok () ↔ Period.isPeriod text.toList := by
  rw [Period.check, refuseIf_eq_ok_iff, Bool.not_eq_false']

/-! ### Lists -/

section MapM

variable {α β ε : Type} {f : α → Except ε β} {as : List α}

theorem mapM_eq_ok_iff {bs : List β} :
    as.mapM f = .ok bs ↔ List.Forall₂ (fun a b => f a = .ok b) as bs := by
  induction as generalizing bs with
  | nil => simp [pure, Except.pure, eq_comm]
  | cons a as ih =>
    simp only [List.mapM_cons, bind_eq_ok_iff, pure, Except.pure, Except.ok.injEq,
      List.forall₂_cons_left_iff]
    constructor
    · rintro ⟨b, hb, rest, hrest, rfl⟩
      exact ⟨b, rest, hb, ih.1 hrest, rfl⟩
    · rintro ⟨b, rest, hb, hrest, rfl⟩
      exact ⟨b, hb, rest, ih.2 hrest, rfl⟩

theorem mapM_eq_ok_iff_getElem? {bs : List β} :
    as.mapM f = .ok bs ↔
      as.length = bs.length ∧
        ∀ (i : Nat) (a : α), as[i]? = some a → ∃ b, bs[i]? = some b ∧ f a = .ok b := by
  rw [mapM_eq_ok_iff, List.forall₂_iff_get]
  refine and_congr_right fun hlength => ⟨fun h i a ha => ?_, fun h i hi hi' => ?_⟩
  · obtain ⟨hi, rfl⟩ := List.getElem?_eq_some_iff.1 ha
    exact ⟨_, List.getElem?_eq_getElem (hlength ▸ hi), h i hi (hlength ▸ hi)⟩
  · obtain ⟨b, hb, hf⟩ := h i _ (List.getElem?_eq_getElem hi)
    rw [List.getElem?_eq_getElem hi'] at hb
    obtain rfl := Option.some.inj hb
    exact hf

/-- What every result of a function has, the results of a list have. -/
theorem forall_of_mapM_eq_ok {p : β → Prop} (hf : ∀ {a b}, f a = .ok b → p b) {bs : List β}
    (h : as.mapM f = .ok bs) : ∀ b ∈ bs, p b := by
  have hitems := mapM_eq_ok_iff.1 h
  clear h
  induction hitems with
  | nil => simp
  | cons ha _ ih => exact List.forall_mem_cons.2 ⟨hf ha, ih⟩

theorem exists_mapM_eq_ok_iff :
    (∃ bs, as.mapM f = .ok bs) ↔ ∀ a ∈ as, ∃ b, f a = .ok b := by
  induction as with
  | nil => simp [pure, Except.pure]
  | cons a as ih =>
    rw [List.forall_mem_cons, ← ih]
    simp only [mapM_eq_ok_iff, List.forall₂_cons_left_iff]
    constructor
    · rintro ⟨_, b, bs, hb, hbs, rfl⟩
      exact ⟨⟨b, hb⟩, ⟨bs, hbs⟩⟩
    · rintro ⟨⟨b, hb⟩, ⟨bs, hbs⟩⟩
      exact ⟨_, b, bs, hb, hbs, rfl⟩

/-- The error of a list is the one of its first item that has one. -/
theorem mapM_eq_error_iff {e : ε} :
    as.mapM f = .error e ↔
      ∃ (i : Nat) (a : α), as[i]? = some a ∧ f a = .error e ∧
        ∀ j < i, ∀ b, as[j]? = some b → ∃ c, f b = .ok c := by
  induction as with
  | nil => simp [pure, Except.pure]
  | cons a as ih =>
    rw [List.mapM_cons, bind_eq_error_iff]
    constructor
    · rintro (ha | ⟨b, hb, hrest⟩)
      · exact ⟨0, a, rfl, ha, fun j hj => absurd hj (Nat.not_lt_zero j)⟩
      · rcases bind_eq_error_iff.1 hrest with hrest | ⟨_, -, hpure⟩
        · obtain ⟨i, c, hc, hfail, hbefore⟩ := ih.1 hrest
          refine ⟨i + 1, c, hc, hfail, fun j hj d hd => ?_⟩
          cases j with
          | zero => exact Option.some.inj hd ▸ ⟨b, hb⟩
          | succ j => exact hbefore j (Nat.lt_of_succ_lt_succ hj) d hd
        · cases hpure
    · rintro ⟨i, c, hc, hfail, hbefore⟩
      cases i with
      | zero => exact .inl (Option.some.inj hc ▸ hfail)
      | succ i =>
        obtain ⟨b, hb⟩ := hbefore 0 (Nat.succ_pos i) a rfl
        refine .inr ⟨b, hb, bind_eq_error_iff.2 (.inl (ih.2 ⟨i, c, hc, hfail, ?_⟩))⟩
        exact fun j hj d hd => hbefore (j + 1) (Nat.succ_lt_succ hj) d hd

end MapM

end Check
end SeriesSql
