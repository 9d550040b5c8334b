import Mathlib
import SeriesSql.Proofs.Number.Integer
import SeriesSql.Text.Property

/-!
# White space around a text

White space around a text matters to no reading of a number, and the texts of numbers have none.
What is left of a text without it is the only part of it that has white space on both sides and none
at its own ends.
-/

namespace SeriesSql.Text

theorem isBlank_of_digitValue? {c : Char} (hc : (Integer.digitValue? c).isSome) :
    isBlank c = false := by
  simp only [Integer.digitValue?] at hc
  simp only [isBlank, Bool.or_eq_false_iff, Bool.and_eq_false_iff, beq_eq_false_iff_ne, ne_eq,
    decide_eq_false_iff_not]
  split at hc
  · omega
  · split at hc
    · omega
    · split at hc
      · omega
      · cases hc

theorem isBlank_of_isDigit {c : Char} (hc : c.isDigit) : isBlank c = false :=
  isBlank_of_digitValue? (by simp [Integer.digitValue?, Numeral.toNat_of_isDigit hc])

theorem skipBlank_cons {c : Char} (hc : isBlank c = false) (cs : List Char) :
    skipBlank (c :: cs) = c :: cs := by
  simp [skipBlank, hc]

/-! ### What is left of a text -/

/-- A text is another one with white space put around it, and starts and ends with none. -/
structure IsTrimmed (whole inner : List Char) : Prop where
  surrounded : ∃ before after, whole = before ++ (inner ++ after) ∧
    (∀ c ∈ before, isBlank c) ∧ ∀ c ∈ after, isBlank c
  first : ∀ c ∈ inner.head?, isBlank c = false
  last : ∀ c ∈ inner.getLast?, isBlank c = false

theorem skipBlank_append {before : List Char} (hbefore : ∀ c ∈ before, isBlank c)
    (cs : List Char) : skipBlank (before ++ cs) = skipBlank cs :=
  List.dropWhile_append_of_pos hbefore

theorem skipBlank_of_head? {cs : List Char} (hcs : ∀ c ∈ cs.head?, isBlank c = false) :
    skipBlank cs = cs := by
  cases cs with
  | nil => rfl
  | cons c cs => exact skipBlank_cons (hcs c rfl) cs

theorem head?_skipBlank (cs : List Char) : ∀ c ∈ (skipBlank cs).head?, isBlank c = false := by
  intro c hc
  have hnot := List.head?_dropWhile_not isBlank cs
  rw [← skipBlank, Option.mem_def.1 hc] at hnot
  simpa using hnot

theorem exists_eq_append_skipBlank (cs : List Char) :
    ∃ before, cs = before ++ skipBlank cs ∧ ∀ c ∈ before, isBlank c :=
  ⟨cs.takeWhile isBlank, List.takeWhile_append_dropWhile.symm,
    fun _ hc => List.mem_takeWhile_imp hc⟩

theorem isTrimmed_trim (s : String) : IsTrimmed s.toList (trim s).toList := by
  obtain ⟨before, hbefore, hblank⟩ := exists_eq_append_skipBlank s.toList
  obtain ⟨after, hafter, hblank'⟩ := exists_eq_append_skipBlank (skipBlank s.toList).reverse
  have hsplit : skipBlank s.toList = (trim s).toList ++ after.reverse := by
    rw [trim, String.toList_ofList, ← List.reverse_append, ← hafter, List.reverse_reverse]
  refine ⟨⟨before, after.reverse, ?_, hblank, by simpa using hblank'⟩, fun c hc => ?_, ?_⟩
  · rw [← hsplit]
    exact hbefore
  · apply head?_skipBlank s.toList
    rw [hsplit]
    exact List.mem_head?_append_of_mem_head? hc
  · rw [trim, String.toList_ofList, List.getLast?_reverse]
    exact head?_skipBlank _

theorem IsTrimmed.skipBlank_eq {whole inner : List Char} (h : IsTrimmed whole inner) :
    (skipBlank (skipBlank whole).reverse).reverse = inner := by
  obtain ⟨⟨before, after, rfl, hbefore, hafter⟩, hfirst, hlast⟩ := h
  rw [skipBlank_append hbefore]
  cases inner with
  | nil =>
    have hnil : skipBlank after = [] := by
      rw [← List.append_nil after, skipBlank_append hafter]
      rfl
    rw [List.nil_append, hnil]
    rfl
  | cons c inner =>
    have hfront : skipBlank (c :: inner ++ after) = c :: inner ++ after :=
      skipBlank_of_head? hfirst
    rw [hfront, List.reverse_append, skipBlank_append (by simpa using hafter), skipBlank_of_head?,
      List.reverse_reverse]
    rwa [List.head?_reverse]

/-- There is only one way to leave out the white space at the ends. -/
theorem trim_eq_iff {s inner : String} : trim s = inner ↔ IsTrimmed s.toList inner.toList := by
  refine ⟨fun h => h ▸ isTrimmed_trim s, fun h => ?_⟩
  rw [trim, h.skipBlank_eq, String.ofList_toList]

theorem trim_eq_self {s : String} (hs : ∀ c ∈ s.toList, isBlank c = false) : trim s = s :=
  trim_eq_iff.2 ⟨⟨[], [], by simp, nofun, nofun⟩, fun c hc => hs c (List.mem_of_mem_head? hc),
    fun c hc => hs c (List.mem_of_getLast? hc)⟩

theorem trim_eq_empty_iff {s : String} : trim s = "" ↔ ∀ c ∈ s.toList, isBlank c := by
  rw [trim_eq_iff]
  constructor
  · rintro ⟨⟨before, after, hs, hbefore, hafter⟩, -, -⟩
    rw [hs]
    exact List.forall_mem_append.2 ⟨hbefore, List.forall_mem_append.2 ⟨nofun, hafter⟩⟩
  · intro hblank
    exact ⟨⟨s.toList, [], by simp, hblank, nofun⟩, nofun, nofun⟩

end SeriesSql.Text
