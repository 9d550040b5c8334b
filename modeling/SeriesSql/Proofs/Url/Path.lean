import Mathlib
import SeriesSql.Proofs.Encoding.Percent
import SeriesSql.Url.Basic

/-!
# Paths of the web

The path of a URL of the web is a text of segments with a slash before each. Its segments are
settled: none of them stands for another one, has a slash in it or has anything left to encode. That
is why a path made of settled segments stays as it is when it is put into a URL, though it is read
once more. The encoding makes no dot segment of another one, since what it encodes is never a dot.
-/

namespace SeriesSql.Url

/-! ### Dot segments -/

def dotSegments : List String :=
  [".", "%2e", "..", ".%2e", "%2e.", "%2e%2e"]

/-- Whether a segment stands for another one. -/
def IsDots (segment : List Char) : Prop :=
  isSingleDot segment ∨ isDoubleDot segment

instance (segment : List Char) : Decidable (IsDots segment) :=
  inferInstanceAs (Decidable (_ ∨ _))

theorem map_toLower_of_isDots {segment : List Char} (h : IsDots segment) :
    ∃ dots ∈ dotSegments, segment.map Char.toLower = dots.toList := by
  simp only [IsDots, isSingleDot, isDoubleDot, List.contains_iff_mem, List.mem_map] at h
  obtain ⟨dots, hdots, h⟩ | ⟨dots, hdots, h⟩ := h
  · exact ⟨dots, List.mem_append_left ["..", ".%2e", "%2e.", "%2e%2e"] hdots, h.symm⟩
  · exact ⟨dots, List.mem_append_right [".", "%2e"] hdots, h.symm⟩

/-- Every percent sign of a dot segment starts an encoded dot. -/
theorem getElem?_dotSegments : ∀ dots ∈ dotSegments, ∀ i < dots.toList.length,
    dots.toList[i]? = some '%' →
      dots.toList[i + 1]? = some '2' ∧ dots.toList[i + 2]? = some 'e' := by
  decide

theorem hexDigit_toLower : ∀ n < 16, ((Percent.hexDigit n).toLower = '2' → n = 2) ∧
    ((Percent.hexDigit n).toLower = 'e' → n = 14) := by
  decide

/-- A byte that is encoded in a dot segment is a dot. -/
theorem eq_dot_of_isDots {before after : List Char} {byte : UInt8}
    (h : IsDots (before ++ Percent.encodeByte byte ++ after)) : byte = UInt8.ofNat '.'.toNat := by
  obtain ⟨dots, hdots, htext⟩ := map_toLower_of_isDots h
  rw [Percent.encodeByte, List.append_assoc, List.map_append] at htext
  let high := Percent.hexDigit (byte.toNat / 16)
  let low := Percent.hexDigit (byte.toNat % 16)
  have hat : ∀ i, dots.toList[before.length + i]? =
      (List.map Char.toLower (['%', high, low] ++ after))[i]? := by
    intro i
    rw [← htext, List.getElem?_append_right (by simp)]
    simp [high, low]
  have hpercent := hat 0
  obtain ⟨hbound, -⟩ := List.getElem?_eq_some_iff.1 hpercent
  obtain ⟨hhigh, hlow⟩ := getElem?_dotSegments dots hdots _ hbound hpercent
  obtain ⟨hhighLt, hlowLt⟩ := Percent.digits_lt byte
  have htwo := (hexDigit_toLower _ hhighLt).1 (Option.some.inj ((hat 1).symm.trans hhigh))
  have hfourteen := (hexDigit_toLower _ hlowLt).2 (Option.some.inj ((hat 2).symm.trans hlow))
  apply UInt8.toNat_inj.1
  have hdot : (UInt8.ofNat '.'.toNat).toNat = 46 := rfl
  omega

/-- Encoding makes no dot segment. -/
theorem isDots_of_isDots_encode {segment : List Char}
    (h : IsDots (Percent.encode keptInPath segment)) : IsDots segment := by
  by_cases hkept : ∀ c ∈ segment, Percent.IsKept keptInPath c
  · rwa [Percent.encode_of_isKept hkept] at h
  · push Not at hkept
    obtain ⟨c, hc, hencoded⟩ := hkept
    obtain ⟨before, byte, bytes, after, hbytes, htext⟩ :=
      Percent.exists_encodeByte_of_not_kept hc hencoded
    rw [htext] at h
    obtain rfl := eq_dot_of_isDots h
    obtain rfl := Percent.eq_of_utf8EncodeChar_eq_cons (by decide) hbytes
    exact absurd (by decide) hencoded

/-! ### Settled segments -/

/-- Whether a segment is in its one form. -/
structure IsSettled (segment : List Char) : Prop where
  no_slash : '/' ∉ segment
  no_backslash : '\\' ∉ segment
  not_dots : ¬ IsDots segment
  isKept : ∀ c ∈ segment, Percent.IsKept keptInPath c

theorem keepsEncoded_path : Percent.KeepsEncoded keptInPath where
  percent := by decide
  formChar _ hc :=
    Percent.of_ascii (p := fun c => Percent.isFormChar c = true → keptInPath c = true)
      (by decide +kernel) (Percent.lt_of_isFormChar hc) hc

theorem isSettled_nil : IsSettled [] where
  no_slash := List.not_mem_nil
  no_backslash := List.not_mem_nil
  not_dots := by decide
  isKept _ hc := absurd hc List.not_mem_nil

theorem isSettled_encode {segment : List Char} (hslash : '/' ∉ segment)
    (hbackslash : '\\' ∉ segment) (hdots : ¬ IsDots segment) :
    IsSettled (Percent.encode keptInPath segment) := by
  refine ⟨fun h => ?_, fun h => ?_, mt isDots_of_isDots_encode hdots,
    fun c hc => Percent.isKept_of_mem_encode keepsEncoded_path hc⟩
  · obtain ⟨hmem, -⟩ | hpercent | hform := Percent.mem_encode h
    · exact hslash hmem
    · exact absurd hpercent (by decide)
    · exact absurd hform (by decide)
  · obtain ⟨hmem, -⟩ | hpercent | hform := Percent.mem_encode h
    · exact hbackslash hmem
    · exact absurd hpercent (by decide)
    · exact absurd hform (by decide)

/-! ### Walking along segments -/

variable {parts walked : List (List Char)}

theorem mem_of_mem_leave {segment : List Char} (h : segment ∈ leave walked) : segment ∈ walked := by
  cases walked with
  | nil => exact h
  | cons last walked =>
    rw [leave] at h
    split at h
    · exact h
    · exact List.mem_cons_of_mem _ h

theorem isSettled_walk (hwalked : ∀ segment ∈ walked, IsSettled segment)
    (hparts : ∀ part ∈ parts, '/' ∉ part ∧ '\\' ∉ part) :
    ∀ segment ∈ walk false walked parts, IsSettled segment := by
  induction parts generalizing walked with
  | nil => exact fun segment h => hwalked segment (List.mem_reverse.1 h)
  | cons part parts ih =>
    have hrest := fun other hother => hparts other (List.mem_cons_of_mem part hother)
    have hended : ∀ walked : List (List Char), (∀ segment ∈ walked, IsSettled segment) →
        ∀ segment ∈ if parts.isEmpty then [] :: walked else walked, IsSettled segment := by
      intro walked hwalked
      split
      · exact List.forall_mem_cons.2 ⟨isSettled_nil, hwalked⟩
      · exact hwalked
    rw [walk]
    split
    · exact ih (hended _ fun other hother => hwalked other (mem_of_mem_leave hother)) hrest
    · split
      · exact ih (hended _ hwalked) hrest
      · next hdouble hsingle =>
        obtain ⟨hslash, hbackslash⟩ := hparts part List.mem_cons_self
        refine ih (List.forall_mem_cons.2 ⟨?_, hwalked⟩) hrest
        exact isSettled_encode hslash hbackslash (not_or.2 ⟨hsingle, hdouble⟩)

theorem walk_of_isSettled (h : ∀ segment ∈ parts, IsSettled segment) :
    walk false walked parts = walked.reverse ++ parts := by
  induction parts generalizing walked with
  | nil => rw [walk, List.append_nil]
  | cons part parts ih =>
    obtain ⟨hpart, hparts⟩ := List.forall_mem_cons.1 h
    obtain ⟨hsingle, hdouble⟩ := not_or.1 hpart.not_dots
    have htext : segmentText false walked part = part := Percent.encode_of_isKept hpart.isKept
    rw [walk, if_neg hdouble, if_neg hsingle, htext, ih hparts, List.reverse_cons,
      List.append_assoc, List.singleton_append]

/-! ### Segments of a text -/

/-- The text of segments, with a slash before each. -/
def joined (parts : List (List Char)) : List Char :=
  parts.flatMap ('/' :: ·)

theorem joined_append (parts others : List (List Char)) :
    joined (parts ++ others) = joined parts ++ joined others :=
  List.flatMap_append

theorem splitOn_append_joined {part : List Char} (hpart : '/' ∉ part)
    (h : ∀ part ∈ parts, '/' ∉ part) : (part ++ joined parts).splitOn '/' = part :: parts := by
  induction parts generalizing part with
  | nil => rw [joined, List.flatMap_nil, List.append_nil, List.splitOn_eq_singleton hpart]
  | cons other parts ih =>
    obtain ⟨hother, hparts⟩ := List.forall_mem_cons.1 h
    rw [joined, List.flatMap_cons, ← joined, List.cons_append,
      List.splitOn_append_cons_self_of_not_mem hpart, ih hother hparts]

theorem mem_of_mem_splitOn {sign : Char} {cs part : List Char} (h : part ∈ cs.splitOn sign) :
    sign ∉ part ∧ ∀ c ∈ part, c ∈ cs := by
  induction cs generalizing part with
  | nil =>
    rw [List.splitOn_nil, List.mem_singleton] at h
    subst h
    exact ⟨List.not_mem_nil, fun c hc => hc⟩
  | cons d cs ih =>
    have hlater : part ∈ cs.splitOn sign → sign ∉ part ∧ ∀ c ∈ part, c ∈ d :: cs := fun h =>
      (ih h).imp_right fun hsub c hc => List.mem_cons_of_mem d (hsub c hc)
    rw [List.splitOn_cons_eq_if_modifyHead] at h
    split at h
    · obtain rfl | h := List.mem_cons.1 h
      · exact ⟨List.not_mem_nil, nofun⟩
      · exact hlater h
    · next hd =>
      obtain ⟨first, rest, hsplit⟩ := List.exists_cons_of_ne_nil (List.splitOn_ne_nil sign cs)
      rw [hsplit, List.modifyHead_cons] at h
      obtain rfl | h := List.mem_cons.1 h
      · obtain ⟨hsign, hsub⟩ := ih (hsplit ▸ List.mem_cons_self)
        refine ⟨?_, List.forall_mem_cons.2 ⟨List.mem_cons_self, fun c hc =>
          List.mem_cons_of_mem d (hsub c hc)⟩⟩
        exact List.not_mem_cons_of_ne_of_not_mem (fun heq => hd (beq_iff_eq.2 heq.symm)) hsign
      · exact hlater (hsplit ▸ List.mem_cons_of_mem first h)

/-! ### Paths -/

variable {scheme : String}

theorem segmentedPath_web (hweb : isWeb scheme = true) (hfile : scheme ≠ "file") (cs : List Char) :
    segmentedPath scheme cs = joined (segments scheme cs) := by
  rw [segmentedPath, hweb, beq_false_of_ne hfile, Bool.not_true, Bool.and_false]
  rfl

theorem segments_web (hweb : isWeb scheme = true) (hfile : scheme ≠ "file") {cs : List Char}
    (hbackslash : '\\' ∉ cs) :
    segments scheme ('/' :: cs) = walk false [] (cs.splitOn '/') := by
  have hmap : ('/' :: cs).map (fun c => if c = '\\' then '/' else c) = '/' :: cs := by
    refine (List.map_congr_left fun c hc => if_neg fun h => ?_).trans (List.map_id _)
    subst h
    exact absurd hc (List.not_mem_cons_of_ne_of_not_mem (by decide) hbackslash)
  rw [segments, hweb, beq_false_of_ne hfile, if_pos rfl, hmap]
  rfl

/-- The path that is read in a URL of the web has settled segments. -/
theorem isSettled_segments (hweb : isWeb scheme = true) (hfile : scheme ≠ "file") (cs : List Char) :
    ∀ segment ∈ segments scheme cs, IsSettled segment := by
  have hmap : '\\' ∉ cs.map fun c => if c = '\\' then '/' else c := by
    intro h
    obtain ⟨c, -, hc⟩ := List.mem_map.1 h
    split at hc
    · exact absurd hc (by decide)
    · next hne => exact hne hc
  rw [segments, hweb, beq_false_of_ne hfile, if_pos rfl]
  refine isSettled_walk nofun fun part hpart => ?_
  obtain ⟨hslash, hsub⟩ := mem_of_mem_splitOn hpart
  refine ⟨hslash, fun hbackslash => hmap ?_⟩
  have hmem := hsub _ hbackslash
  split at hmem
  · exact List.mem_of_mem_tail hmem
  · exact hmem

theorem not_mem_joined {sign : Char} (hsign : sign ≠ '/') (h : ∀ part ∈ parts, sign ∉ part) :
    sign ∉ joined parts := by
  intro hmem
  obtain ⟨part, hpart, hmem⟩ := List.mem_flatMap.1 hmem
  exact List.not_mem_cons_of_ne_of_not_mem hsign (h part hpart) hmem

/-- A path of settled segments is read as it is. -/
theorem segmentedPath_joined (hweb : isWeb scheme = true) (hfile : scheme ≠ "file")
    (hne : parts ≠ []) (h : ∀ segment ∈ parts, IsSettled segment) :
    segmentedPath scheme (joined parts) = joined parts := by
  obtain ⟨part, parts, rfl⟩ := List.exists_cons_of_ne_nil hne
  obtain ⟨hpart, hparts⟩ := List.forall_mem_cons.1 h
  have hbackslash : '\\' ∉ part ++ joined parts := List.not_mem_append hpart.no_backslash
    (not_mem_joined (by decide) fun other hother => (hparts other hother).no_backslash)
  have hsplit := splitOn_append_joined hpart.no_slash fun other hother =>
    (hparts other hother).no_slash
  rw [segmentedPath_web hweb hfile]
  change joined (segments scheme ('/' :: (part ++ joined parts))) = _
  rw [segments_web hweb hfile hbackslash, hsplit, walk_of_isSettled h]
  rfl

/-- Without the slashes at its end a path has the segments before the empty ones at its end. -/
theorem exists_rdropWhile_joined (h : ∀ part ∈ parts, '/' ∉ part) :
    ∃ kept, (∀ part ∈ kept, part ∈ parts) ∧
      (joined parts).rdropWhile (· == '/') = joined kept := by
  induction parts using List.reverseRecOn with
  | nil => exact ⟨[], nofun, rfl⟩
  | append_singleton parts part ih =>
    obtain rfl | ⟨init, last, rfl⟩ := List.eq_nil_or_concat part
    · obtain ⟨kept, hkept, htext⟩ := ih fun part hpart => h part (List.mem_append_left _ hpart)
      refine ⟨kept, fun part hpart => List.mem_append_left _ (hkept part hpart), ?_⟩
      rw [joined_append, ← htext]
      exact List.rdropWhile_concat_pos _ _ _ rfl
    · rw [List.concat_eq_append] at h ⊢
      refine ⟨_, fun _ => id, ?_⟩
      have hlast : last ≠ '/' := fun heq =>
        h (init ++ [last]) (by simp) (by simp [heq])
      have htext : joined (parts ++ [init ++ [last]]) = joined parts ++ '/' :: init ++ [last] := by
        simp [joined]
      rw [htext]
      exact List.rdropWhile_concat_neg _ _ _ (by simpa using hlast)

/-- A path is what is left of it without the slashes at its end, and these slashes. -/
theorem exists_path_eq_trimmedPath_append (url : Url) :
    (∃ slashes, url.path.toList = url.trimmedPath ++ List.replicate slashes '/') ∧
      url.trimmedPath.getLast? ≠ some '/' := by
  let path := url.path.toList
  have htrim : url.trimmedPath = path.rdropWhile (· == '/') := rfl
  have hslashes : path.rtakeWhile (· == '/') = List.replicate _ '/' :=
    List.eq_replicate_of_mem fun c hc =>
      beq_iff_eq.1 (List.mem_rtakeWhile_imp (p := (· == '/')) hc)
  refine ⟨⟨(path.rtakeWhile (· == '/')).length, ?_⟩, fun hlast => ?_⟩
  · rw [htrim, ← hslashes, List.rdropWhile_append_rtakeWhile]
  · rw [htrim] at hlast
    have hne : path.rdropWhile (· == '/') ≠ [] := by
      intro hnil
      rw [hnil] at hlast
      cases hlast
    rw [List.getLast?_eq_some_getLast hne] at hlast
    exact List.rdropWhile_last_not _ _ hne (beq_iff_eq.2 (Option.some.inj hlast))

/-- A path of settled segments, without the slashes at its end, and one more of them are the path
that a URL gets. -/
theorem withPath_trimmedPath {url : Url} (hweb : isWeb url.scheme = true)
    (hfile : url.scheme ≠ "file") (hflat : url.flat = false)
    (hparts : ∀ segment ∈ parts, IsSettled segment)
    (hpath : url.path = String.ofList (joined parts))
    {name : List Char} (hname : IsSettled name) :
    url.withPath (url.trimmedPath ++ '/' :: name) =
      { url with path := String.ofList (url.trimmedPath ++ '/' :: name) } := by
  obtain ⟨kept, hkept, htrimmed⟩ := exists_rdropWhile_joined fun part hpart =>
    (hparts part hpart).no_slash
  have htext : url.trimmedPath ++ '/' :: name = joined (kept ++ [name]) := by
    have htrim : url.trimmedPath = (joined parts).rdropWhile (· == '/') := by
      rw [trimmedPath, hpath, String.toList_ofList]
      rfl
    rw [htrim, htrimmed, joined_append, joined, joined, List.flatMap_singleton]
  have hsettled : ∀ segment ∈ kept ++ [name], IsSettled segment := by
    intro segment hsegment
    obtain hsegment | hsegment := List.mem_append.1 hsegment
    · exact hparts segment (hkept segment hsegment)
    · exact List.mem_singleton.1 hsegment ▸ hname
  have hread : pathText url.scheme url.flat (joined (kept ++ [name])) =
      String.ofList (joined (kept ++ [name])) := by
    rw [hflat]
    exact congrArg String.ofList (segmentedPath_joined hweb hfile (by simp) hsettled)
  have hkeep : ¬ (url.flat && (joined (kept ++ [name])).head? == some '/') = true := by
    rw [hflat]
    exact Bool.false_ne_true
  rw [withPath, htext, if_neg hkeep, hread]

end SeriesSql.Url
