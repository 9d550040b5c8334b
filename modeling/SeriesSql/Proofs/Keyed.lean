import Mathlib
import SeriesSql.Keyed

/-!
# What keyed lists hold

A keyed list built from pairs holds, under each name, the value of the last pair with that name. Its
names stand in the order in which each of them came first.
-/

namespace SeriesSql.Keyed

variable {α : Type}

def last? (name : String) (pairs : List (String × α)) : Option α :=
  (pairs.filter fun pair => pair.1 = name).getLast?.map Prod.snd

@[simp]
theorem last?_nil (name : String) : last? name ([] : List (String × α)) = none :=
  rfl

theorem last?_cons (name : String) (pair : String × α) (pairs : List (String × α)) :
    last? name (pair :: pairs) =
      (last? name pairs).or (if pair.1 = name then some pair.2 else none) := by
  by_cases h : pair.1 = name
  · rw [last?, List.filter_cons_of_pos (by simpa using h), List.getLast?_cons, if_pos h, last?]
    cases (pairs.filter fun pair => pair.1 = name).getLast? <;> rfl
  · rw [last?, List.filter_cons_of_neg (by simpa using h), if_neg h, Option.or_none, last?]

theorem last?_isSome_iff {name : String} {pairs : List (String × α)} :
    (last? name pairs).isSome ↔ name ∈ pairs.map Prod.fst := by
  induction pairs with
  | nil => simp
  | cons pair pairs ih =>
    rw [last?_cons, Option.isSome_or, Bool.or_eq_true, ih, List.map_cons, List.mem_cons]
    by_cases h : pair.1 = name
    · simp [h]
    · have hne : name ≠ pair.1 := fun e => h e.symm
      rw [if_neg h, Option.isSome_none, or_iff_left Bool.false_ne_true, or_iff_right hne]

@[simp]
theorem get?_empty (name : String) : (empty : Keyed α).get? name = none :=
  rfl

private theorem get?_foldl_insert (name : String) (pairs : List (String × α)) (keyed : Keyed α) :
    (pairs.foldl (fun keyed pair => keyed.insert pair.1 pair.2) keyed).get? name =
      (last? name pairs).or (keyed.get? name) := by
  induction pairs generalizing keyed with
  | nil => rfl
  | cons pair pairs ih =>
    rw [List.foldl_cons, ih, get?_insert, last?_cons, Option.or_assoc]
    split <;> rfl

/-- The last pair with a name counts. -/
theorem get?_ofList (name : String) (pairs : List (String × α)) :
    (ofList pairs).get? name = last? name pairs := by
  rw [ofList, get?_foldl_insert, get?_empty, Option.or_none]

theorem mem_names_ofList {name : String} {pairs : List (String × α)} :
    name ∈ (ofList pairs).names ↔ name ∈ pairs.map Prod.fst := by
  rw [← contains_iff_mem_names, contains, get?_ofList, last?_isSome_iff]

theorem last?_eq_some {name : String} {value : α} {pairs : List (String × α)} {i : Nat}
    (hi : pairs[i]? = some (name, value))
    (hlast : ∀ k, i < k → ∀ pair, pairs[k]? = some pair → pair.1 ≠ name) :
    last? name pairs = some value := by
  induction pairs generalizing i with
  | nil => simp at hi
  | cons pair pairs ih =>
    rw [last?_cons]
    cases i with
    | zero =>
      obtain rfl := Option.some.inj hi
      have hnone : last? name pairs = none := by
        rw [← Option.not_isSome_iff_eq_none, last?_isSome_iff, List.mem_map]
        rintro ⟨other, hmem, hother⟩
        obtain ⟨k, hk⟩ := List.mem_iff_getElem?.1 hmem
        exact hlast (k + 1) (Nat.succ_pos k) other hk hother
      rw [hnone, Option.none_or, if_pos rfl]
    | succ i =>
      rw [ih hi fun k hk => hlast (k + 1) (Nat.succ_lt_succ hk), Option.some_or]

private theorem names_foldl_insert (pairs : List (String × α)) (keyed : Keyed α) :
    (pairs.foldl (fun keyed pair => keyed.insert pair.1 pair.2) keyed).names =
      keyed.names ++ ((pairs.map Prod.fst).filter (· ∉ keyed.names)).eraseDups := by
  induction pairs generalizing keyed with
  | nil => simp
  | cons pair pairs ih =>
    rw [List.foldl_cons, ih, names_insert, List.map_cons]
    by_cases hmem : pair.1 ∈ keyed.names
    · rw [if_pos hmem, List.filter_cons_of_neg (by simpa using hmem)]
    · rw [if_neg hmem, List.filter_cons_of_pos (by simpa using hmem), List.eraseDups_cons,
        List.append_assoc, List.singleton_append, List.filter_filter]
      congr 3
      apply List.filter_congr
      intro name _
      rw [Bool.eq_iff_iff]
      simp [and_comm, not_or]

/-- The names stand in the order in which each of them came first. -/
theorem names_ofList (pairs : List (String × α)) :
    (ofList pairs).names = (pairs.map Prod.fst).eraseDups := by
  rw [ofList, names_foldl_insert]
  simp [names, empty]

/-! ### Distinct names -/

theorem insertEntry_of_notMem {name : String} {entries : List (String × α)}
    (hnew : name ∉ entries.map Prod.fst) (value : α) :
    insertEntry name value entries = entries ++ [(name, value)] := by
  induction entries with
  | nil => rfl
  | cons entry entries ih =>
    obtain ⟨key, old⟩ := entry
    rw [List.map_cons, List.mem_cons, not_or] at hnew
    rw [insertEntry, if_neg (Ne.symm hnew.1), ih hnew.2, List.cons_append]

theorem ext_entries {first second : Keyed α} (h : first.entries = second.entries) :
    first = second := by
  cases first
  cases second
  subst h
  rfl

theorem entries_foldl_insert {pairs : List (String × α)} {keyed : Keyed α}
    (hnew : (keyed.names ++ pairs.map Prod.fst).Nodup) :
    (pairs.foldl (fun keyed pair => keyed.insert pair.1 pair.2) keyed).entries =
      keyed.entries ++ pairs := by
  induction pairs generalizing keyed with
  | nil => simp
  | cons pair pairs ih =>
    have hfresh : pair.1 ∉ keyed.names := by
      rw [List.map_cons, List.nodup_append] at hnew
      exact fun hmem => hnew.2.2 _ hmem _ List.mem_cons_self rfl
    have hentries : (keyed.insert pair.1 pair.2).entries = keyed.entries ++ [pair] :=
      insertEntry_of_notMem hfresh pair.2
    rw [List.foldl_cons, ih, hentries, List.append_assoc, List.singleton_append]
    rwa [names_insert, if_neg hfresh, List.append_assoc, List.singleton_append]

/-- Pairs with distinct names are kept as they are. -/
theorem ofList_of_nodup {pairs : List (String × α)} (hnodup : (pairs.map Prod.fst).Nodup) :
    ofList pairs = ⟨pairs, hnodup⟩ :=
  ext_entries (entries_foldl_insert hnodup)

theorem lookup_eq_some_iff {name : String} {value : α} {entries : List (String × α)}
    (hnodup : (entries.map Prod.fst).Nodup) :
    lookup name entries = some value ↔ (name, value) ∈ entries := by
  induction entries with
  | nil => simp [lookup]
  | cons entry entries ih =>
    obtain ⟨key, old⟩ := entry
    rw [List.map_cons, List.nodup_cons] at hnodup
    by_cases h : key = name
    · subst h
      have hother : (key, value) ∉ entries := fun hmem =>
        hnodup.1 (List.mem_map.2 ⟨(key, value), hmem, rfl⟩)
      simp only [lookup, if_true, Option.some.injEq, List.mem_cons, Prod.mk.injEq, true_and,
        hother, or_false]
      exact eq_comm
    · have hne : (name, value) ≠ (key, old) := fun e => h (Prod.mk.inj e).1.symm
      rw [lookup, if_neg h, ih hnodup.2, List.mem_cons]
      exact (or_iff_right hne).symm

/-- A value stands under a name when the pair is in the list. -/
theorem get?_eq_some_iff {keyed : Keyed α} {name : String} {value : α} :
    keyed.get? name = some value ↔ (name, value) ∈ keyed.entries :=
  lookup_eq_some_iff keyed.nodup

end SeriesSql.Keyed
