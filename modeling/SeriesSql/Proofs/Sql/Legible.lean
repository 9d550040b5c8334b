import Mathlib
import SeriesSql.Proofs.Sql.Pieces

/-!
# Texts that can be told apart

What is written determines what it was written for when a text that starts with it shows that and
where it ends, as long as nothing follows but what may. It is legible when this is so in front of
certain texts. What is put together from legible parts is legible when each part is in front of
something that may follow it.
-/

namespace SeriesSql

/-- Two texts that start with what is written, each in front of what may follow, are the same only
when it was written for the same thing and the same follows. -/
def Determines {α : Type} (write : α → String) (follows : List Char → Prop) : Prop :=
  ∀ ⦃a b : α⦄ ⦃rest rest' : List Char⦄, follows rest → follows rest' →
    (write a).toList ++ rest = (write b).toList ++ rest' → a = b ∧ rest = rest'

namespace Determines

variable {α : Type} {write : α → String} {follows : List Char → Prop}

theorem of_reader (read : Reader α)
    (h : ∀ a rest, follows rest → read ((write a).toList ++ rest) = some (a, rest)) :
    Determines write follows := by
  intro a b rest rest' hrest hrest' heq
  have hread := (h a rest hrest).symm.trans ((congrArg read heq).trans (h b rest' hrest'))
  exact Prod.mk.inj (Option.some.inj hread)

theorem injective (h : Determines write follows) (hnil : follows []) :
    Function.Injective write := by
  intro a b heq
  exact (h hnil hnil (congrArg (fun text => text.toList ++ []) heq)).1

theorem mono {fewer : List Char → Prop} (h : Determines write follows)
    (hfewer : ∀ rest, fewer rest → follows rest) : Determines write fewer :=
  fun _ _ _ _ hrest hrest' heq => h (hfewer _ hrest) (hfewer _ hrest') heq

/-- Behind the first of things separated by commas stands what follows, or a comma and the rest of
them. -/
theorem exists_list_cons (write : α → String) (a : α) (as : List α) {rest : List Char}
    (hrest : follows rest) :
    ∃ more, (", ".intercalate ((a :: as).map write)).toList ++ rest = (write a).toList ++ more ∧
      (follows more ∨ ", ".toList <+: more) ∧
      (as = [] ∧ more = rest ∨
        as ≠ [] ∧ more = ", ".toList ++ ((", ".intercalate (as.map write)).toList ++ rest)) := by
  cases as with
  | nil =>
    refine ⟨rest, ?_, .inl hrest, .inl ⟨rfl, rfl⟩⟩
    rw [List.map_singleton, String.intercalate_singleton]
  | cons next as =>
    refine ⟨_, ?_, .inr (List.prefix_append _ _), .inr ⟨List.cons_ne_nil _ _, rfl⟩⟩
    simp only [List.map_cons, String.intercalate_cons_cons, String.toList_append, List.append_assoc]

/-- Things separated by commas, when nothing that may follow starts with one of them or with a
comma. -/
theorem list (h : Determines write fun rest => follows rest ∨ ", ".toList <+: rest)
    (hapart : ∀ a rest, follows rest → ¬ (write a).toList <+: rest)
    (hcomma : ∀ rest, follows rest → ¬ ", ".toList <+: rest) :
    Determines (fun as : List α => ", ".intercalate (as.map write)) follows := by
  have hempty : ∀ {b : α} {bs : List α} {rest rest' : List Char}, follows rest →
      follows rest' → rest ≠ (", ".intercalate ((b :: bs).map write)).toList ++ rest' := by
    intro b bs rest rest' hrest hrest' heq
    obtain ⟨more, hmore, -, -⟩ := exists_list_cons write b bs hrest'
    exact hapart b rest hrest ⟨more, (heq.trans hmore).symm⟩
  intro as
  induction as with
  | nil =>
    intro bs rest rest' hrest hrest' heq
    cases bs with
    | nil => exact ⟨rfl, heq⟩
    | cons b bs => exact absurd heq (hempty hrest hrest')
  | cons a as ih =>
    intro bs rest rest' hrest hrest' heq
    cases bs with
    | nil => exact absurd heq.symm (hempty hrest' hrest)
    | cons b bs =>
      obtain ⟨more, hmore, hmay, hcases⟩ := exists_list_cons write a as hrest
      obtain ⟨more', hmore', hmay', hcases'⟩ := exists_list_cons write b bs hrest'
      obtain ⟨rfl, hrests⟩ := h hmay hmay' (hmore.symm.trans (heq.trans hmore'))
      rcases hcases with ⟨rfl, rfl⟩ | ⟨-, rfl⟩ <;> rcases hcases' with ⟨rfl, rfl⟩ | ⟨-, rfl⟩
      · exact ⟨rfl, hrests⟩
      · exact absurd ⟨_, hrests.symm⟩ (hcomma _ hrest)
      · exact absurd ⟨_, hrests⟩ (hcomma _ hrest')
      · obtain ⟨rfl, hend⟩ := ih hrest hrest' (List.append_cancel_left hrests)
        exact ⟨rfl, hend⟩

end Determines

/-- Two texts that start with what is written for something, each in front of a text that may
follow, are the same only when that something and what follows are. -/
def Legible {α : Type} (write : α → String) (texts : List String) : Prop :=
  ∀ ⦃a b : α⦄ ⦃rest rest' : List Char⦄, Starts texts rest → Starts texts rest' →
    (write a).toList ++ rest = (write b).toList ++ rest' → a = b ∧ rest = rest'

/-- What is written shows where it ends whatever follows. -/
def PrefixFree {α : Type} (write : α → String) : Prop :=
  ∀ ⦃a b : α⦄ ⦃rest rest' : List Char⦄,
    (write a).toList ++ rest = (write b).toList ++ rest' → a = b ∧ rest = rest'

/-- Nothing that may follow starts with what is written. -/
def Apart {α : Type} (write : α → String) (texts : List String) : Prop :=
  ∀ ⦃a : α⦄ ⦃rest : List Char⦄, Starts texts rest → ¬ (write a).toList <+: rest

theorem prefixFree_of_choice {α : Type} {write : α → String} (choices : List α)
    (h : ∀ a rest, Reader.choice choices write ((write a).toList ++ rest) = some (a, rest)) :
    PrefixFree write := by
  intro a b rest rest' heq
  have hread := (h a rest).symm.trans ((congrArg _ heq).trans (h b rest'))
  exact Prod.mk.inj (Option.some.inj hread)

theorem Starts.ne_append {before : String} {texts : List String} {rest : List Char}
    (hrest : Starts texts rest) (hclash : (")" :: texts).all (clash before)) (more : List Char) :
    rest ≠ before.toList ++ more := by
  rintro rfl
  have hnone := Reader.expect_of_starts hclash hrest
  rw [Reader.expect_append] at hnone
  cases hnone

theorem Starts.option {α : Type} {before : String} {write : α → String}
    (hwrite : ∀ a, before.toList <+: (write a).toList) (part : Option α) {texts : List String}
    {rest : List Char} (hrest : Starts texts rest) :
    Starts (before :: texts) (((part.map write).getD "").toList ++ rest) := by
  cases part with
  | none => exact hrest.mono (List.subset_cons_self _ _)
  | some a =>
    obtain ⟨tail, htail⟩ := hwrite a
    exact .inr ⟨before, by simp, tail ++ rest, by simp [← htail]⟩

theorem apart_of_clash {α : Type} {write : α → String} {texts : List String}
    (hwrite : ∀ a, ∃ before, before.toList <+: (write a).toList ∧
      (")" :: texts).all (clash before)) : Apart write texts := by
  intro a rest hrest hprefix
  obtain ⟨before, hbefore, hclash⟩ := hwrite a
  obtain ⟨more, rfl⟩ := hbefore.trans hprefix
  exact hrest.ne_append hclash more rfl

namespace Legible

variable {α β : Type} {write : α → String} {texts : List String}

theorem of_reader (read : Reader α)
    (h : ∀ a rest, Starts texts rest → read ((write a).toList ++ rest) = some (a, rest)) :
    Legible write texts :=
  Determines.of_reader read h

theorem of_prefixFree (h : PrefixFree write) : Legible write texts :=
  fun _ _ _ _ _ _ heq => h heq

theorem injective (h : Legible write texts) : Function.Injective write :=
  Determines.injective h Starts.nil

theorem comap {f : β → α} (hf : Function.Injective f) (h : Legible write texts) :
    Legible (fun b => write (f b)) texts := by
  intro b b' rest rest' hrest hrest' heq
  obtain ⟨hfb, hrests⟩ := h hrest hrest' heq
  exact ⟨hf hfb, hrests⟩

theorem prepend (h : Legible write texts) (before : String) :
    Legible (fun a => before ++ write a) texts := by
  intro a b rest rest' hrest hrest' heq
  simp only [String.toList_append, List.append_assoc, List.append_cancel_left_eq] at heq
  exact h hrest hrest' heq

theorem append {after : String} (h : Legible write [after]) :
    Legible (fun a => write a ++ after) texts := by
  intro a b rest rest' _ _ heq
  simp only [String.toList_append, List.append_assoc] at heq
  obtain ⟨rfl, hafter⟩ := h (.append (List.mem_singleton_self _) _)
    (.append (List.mem_singleton_self _) _) heq
  exact ⟨rfl, List.append_cancel_left hafter⟩

theorem pair {between : String} {write' : β → String} (h : Legible write [between])
    (h' : Legible write' texts) :
    Legible (fun p : α × β => write p.1 ++ between ++ write' p.2) texts := by
  rintro ⟨a, b⟩ ⟨c, d⟩ rest rest' hrest hrest' heq
  simp only [String.toList_append, List.append_assoc] at heq
  obtain ⟨rfl, hbetween⟩ := h (.append (List.mem_singleton_self _) _)
    (.append (List.mem_singleton_self _) _) heq
  obtain ⟨rfl, htail⟩ := h' hrest hrest' (List.append_cancel_left hbetween)
  exact ⟨rfl, htail⟩

theorem option (h : Legible write texts) (hapart : Apart write texts) :
    Legible (fun part : Option α => (part.map write).getD "") texts := by
  intro a b rest rest' hrest hrest' heq
  match a, b with
  | none, none => exact ⟨rfl, heq⟩
  | some a, none => exact absurd ⟨rest, heq⟩ (hapart hrest')
  | none, some b => exact absurd ⟨rest', heq.symm⟩ (hapart hrest)
  | some a, some b =>
    obtain ⟨rfl, htail⟩ := h hrest hrest' heq
    exact ⟨rfl, htail⟩

/-- Things separated by commas. -/
theorem list (h : Legible write (", " :: texts)) (hapart : Apart write texts)
    (hclash : (")" :: texts).all (clash ", ")) :
    Legible (fun as : List α => ", ".intercalate (as.map write)) texts := by
  have hstarts : ∀ rest, Starts texts rest ∨ ", ".toList <+: rest → Starts (", " :: texts) rest := by
    rintro rest (hrest | hcomma)
    · exact hrest.mono (List.subset_cons_self _ _)
    · exact .inr ⟨", ", by simp, hcomma⟩
  refine (Determines.mono h hstarts).list (fun _ _ hrest => hapart hrest) ?_
  rintro rest hrest ⟨more, rfl⟩
  exact hrest.ne_append hclash more rfl

end Legible

/-! ### Names, texts and numbers -/

/-- A name shows itself and its end wherever it could not go on. -/
theorem Token.determines_name : Determines Token.name Reader.NameEnds :=
  .of_reader Reader.identifier fun s _ hrest => Reader.identifier_append s hrest

section Pieces

variable {texts : List String} (htexts : texts.all startsDelimited)
include htexts

theorem apart_of_head {α : Type} {write : α → String}
    (hwrite : ∀ a, ∃ c tail, (write a).toList = c :: tail ∧ Reader.isDelimiter c = false) :
    Apart write texts := by
  rintro a rest hrest ⟨tail, rfl⟩
  obtain ⟨c, cs, hcs, hc⟩ := hwrite a
  have hdelimited := hrest.delimited htexts
  rw [hcs, List.cons_append] at hdelimited
  rw [Reader.isDelimiter_iff.2 hdelimited] at hc
  cases hc

theorem legible_name : Legible Token.name texts :=
  Token.determines_name.mono fun _ hrest =>
    Reader.nameEnds_of_delimited (hrest.delimited htexts)

theorem apart_name : Apart Token.name texts := by
  apply apart_of_head htexts
  intro s
  obtain ⟨c, tail, hcs, hc⟩ := Reader.exists_head_name s
  refine ⟨c, tail, hcs, ?_⟩
  rw [← Bool.not_eq_true, Reader.isDelimiter_iff]
  rintro (rfl | rfl | rfl | rfl) <;> revert hc <;> decide

theorem legible_quoted : Legible Token.quoted texts := by
  apply Legible.of_reader fun cs => Reader.quoted cs.tail
  intro s rest hrest
  have hquote : '\'' ∉ rest.head? := fun h => by
    rcases (hrest.delimited htexts).head? _ h with h | h | h | h <;> revert h <;> decide
  rw [Token.quoted, String.toList_ofList, Token.enclose, List.cons_append, List.cons_append,
    List.tail_cons, List.append_assoc, List.singleton_append, Reader.quoted_append s hquote]

theorem apart_quoted : Apart Token.quoted texts := by
  apply apart_of_head htexts
  intro s
  exact ⟨'\'', Token.doubleQuotes '\'' s.toList ++ ['\''], String.toList_ofList, rfl⟩

theorem legible_nat : Legible (toString : Nat → String) texts := by
  apply Legible.of_reader fun cs => (Reader.integer cs).map (Prod.map Int.toNat id)
  intro n rest hrest
  change (Reader.integer ((toString (n : Int)).toList ++ rest)).map _ = _
  rw [Reader.integer_append n (hrest.delimited htexts)]
  rfl

end Pieces

theorem Token.name_injective : Function.Injective Token.name :=
  (legible_name List.all_nil).injective

theorem nat_injective : Function.Injective (toString : Nat → String) :=
  (legible_nat List.all_nil).injective

end SeriesSql
