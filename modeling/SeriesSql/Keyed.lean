/-!
# Keyed lists

A keyed list holds pairs with distinct keys in the order in which the keys were first inserted.
Inserting a key again replaces its value and keeps its place.
-/

namespace SeriesSql

/-- Pairs of a name and a value in order, with distinct names. -/
structure Keyed (α : Type) where
  entries : List (String × α)
  nodup : (entries.map Prod.fst).Nodup

namespace Keyed

variable {α : Type}

def lookup (name : String) : List (String × α) → Option α
  | [] => none
  | (key, value) :: rest => if key = name then some value else lookup name rest

/-- The pairs with a value inserted under a name, in the place of the old value or at the end. -/
def insertEntry (name : String) (value : α) : List (String × α) → List (String × α)
  | [] => [(name, value)]
  | (key, old) :: rest =>
    if key = name then (key, value) :: rest else (key, old) :: insertEntry name value rest

theorem names_insertEntry (name : String) (value : α) (entries : List (String × α)) :
    (insertEntry name value entries).map Prod.fst =
      if name ∈ entries.map Prod.fst then entries.map Prod.fst
      else entries.map Prod.fst ++ [name] := by
  induction entries with
  | nil => rfl
  | cons entry rest ih =>
    obtain ⟨key, old⟩ := entry
    by_cases h : key = name
    · simp [insertEntry, h]
    · have h' : name ≠ key := fun e => h e.symm
      by_cases hmem : name ∈ rest.map Prod.fst <;> simp_all [insertEntry]

theorem nodup_insertEntry (name : String) (value : α) {entries : List (String × α)}
    (hnodup : (entries.map Prod.fst).Nodup) :
    ((insertEntry name value entries).map Prod.fst).Nodup := by
  rw [names_insertEntry]
  split
  · exact hnodup
  · rename_i hmem
    rw [List.nodup_append]
    refine ⟨hnodup, by simp, ?_⟩
    intro a ha b hb
    rw [List.mem_singleton] at hb
    exact fun e => hmem (hb ▸ e ▸ ha)

theorem lookup_insertEntry (name other : String) (value : α) (entries : List (String × α)) :
    lookup other (insertEntry name value entries) =
      if name = other then some value else lookup other entries := by
  induction entries with
  | nil => rfl
  | cons entry rest ih =>
    obtain ⟨key, old⟩ := entry
    by_cases hkey : key = name
    · subst hkey
      by_cases h : key = other <;> simp [insertEntry, lookup, h]
    · by_cases h : key = other
      · subst h
        have hne : name ≠ key := fun e => hkey e.symm
        simp [insertEntry, lookup, hkey, hne]
      · simp [insertEntry, lookup, hkey, h, ih]

theorem lookup_isSome_iff (name : String) (entries : List (String × α)) :
    (lookup name entries).isSome ↔ name ∈ entries.map Prod.fst := by
  induction entries with
  | nil => simp [lookup]
  | cons entry rest ih =>
    obtain ⟨key, old⟩ := entry
    by_cases h : key = name
    · simp [lookup, h]
    · have hne : name ≠ key := fun e => h e.symm
      simp only [lookup, h, if_false, ih, List.map_cons, List.mem_cons, hne, false_or]

def empty : Keyed α :=
  ⟨[], List.nodup_nil⟩

def insert (keyed : Keyed α) (name : String) (value : α) : Keyed α :=
  ⟨insertEntry name value keyed.entries, nodup_insertEntry name value keyed.nodup⟩

/-- Inserts the values of pairs that may repeat a name, one after the other. -/
def ofList (pairs : List (String × α)) : Keyed α :=
  pairs.foldl (fun keyed pair => keyed.insert pair.1 pair.2) empty

def get? (keyed : Keyed α) (name : String) : Option α :=
  lookup name keyed.entries

def contains (keyed : Keyed α) (name : String) : Bool :=
  (keyed.get? name).isSome

def names (keyed : Keyed α) : List String :=
  keyed.entries.map Prod.fst

/-- A name that is inserted has its new value, and every other name the value it had. -/
theorem get?_insert (keyed : Keyed α) (name other : String) (value : α) :
    (keyed.insert name value).get? other = if name = other then some value else keyed.get? other :=
  lookup_insertEntry name other value keyed.entries

/-- A name that is there keeps its place, and a new one comes last. -/
theorem names_insert (keyed : Keyed α) (name : String) (value : α) :
    (keyed.insert name value).names =
      if name ∈ keyed.names then keyed.names else keyed.names ++ [name] :=
  names_insertEntry name value keyed.entries

theorem contains_iff_mem_names (keyed : Keyed α) (name : String) :
    keyed.contains name ↔ name ∈ keyed.names :=
  lookup_isSome_iff name keyed.entries

end Keyed
end SeriesSql
