import Mathlib
import SeriesSql.Proofs.Number.Integer
import SeriesSql.Proofs.Url.Path

/-!
# The query in the text of a URL

Whoever receives the text of a URL finds its query between the first question mark and the first
hash sign. In a URL of the web that was read from a text no part before the query has either of
these signs: not the name and password, whose encoding leaves none of them, not the host, which may
have none, and not the path. So the query that is found is the one that was put there, as long as it
has no hash sign of its own.
-/

namespace SeriesSql.Url

/-! ### Parts without signs -/

/-- Whether no sign of a text ends a path. -/
def IsPlain (text : String) : Prop :=
  ∀ c ∈ text.toList, endsPath c = false

theorem endsPath_iff {c : Char} : endsPath c = true ↔ c = '?' ∨ c = '#' := by
  rw [endsPath, Bool.or_eq_true, beq_iff_eq, beq_iff_eq]

theorem isPlain_ofList {cs : List Char} :
    IsPlain (String.ofList cs) ↔ ∀ c ∈ cs, endsPath c = false := by
  rw [IsPlain, String.toList_ofList]

theorem IsPlain.append {text other : String} (h : IsPlain text) (hother : IsPlain other) :
    IsPlain (text ++ other) := by
  intro c hc
  rw [String.toList_append, List.mem_append] at hc
  exact hc.elim (h c) (hother c)

theorem IsPlain.intercalate {sep : String} {texts : List String} (hsep : IsPlain sep)
    (h : ∀ text ∈ texts, IsPlain text) : IsPlain (sep.intercalate texts) := by
  induction texts with
  | nil => exact nofun
  | cons text texts ih =>
    obtain ⟨htext, htexts⟩ := List.forall_mem_cons.1 h
    cases texts with
    | nil => rwa [String.intercalate_singleton]
    | cons other texts =>
      rw [String.intercalate_cons_cons]
      exact (htext.append hsep).append (ih htexts)

theorem isPlain_toDigits {radix : Nat} (hradix : 1 < radix) (hmax : radix ≤ 16) (n : Nat) :
    IsPlain (String.ofList (Nat.toDigits radix n)) := by
  refine isPlain_ofList.2 fun c hc => Bool.eq_false_iff.2 fun hends => ?_
  have hnone : Integer.digitValue? c = none := by
    obtain rfl | rfl := endsPath_iff.1 hends <;> rfl
  exact Integer.not_mem_toDigits_of_digitValue?_eq_none hradix hmax hnone n hc

theorem isPlain_encode {keeps : Char → Bool} (hquestion : keeps '?' = false)
    (hhash : keeps '#' = false) (cs : List Char) :
    IsPlain (String.ofList (Percent.encode keeps cs)) := by
  refine isPlain_ofList.2 fun c hc => Bool.eq_false_iff.2 fun hends => ?_
  obtain ⟨-, -, hkept⟩ | hencoded := Percent.mem_encode hc
  · obtain rfl | rfl := endsPath_iff.1 hends
    · exact absurd (hquestion.symm.trans hkept) (by decide)
    · exact absurd (hhash.symm.trans hkept) (by decide)
  · obtain rfl | rfl := endsPath_iff.1 hends <;> exact absurd hencoded (by decide)

/-! ### Hosts -/

namespace Host

theorem isPlain_fourBytes {cs : List Char} {host : String} (h : fourBytes? cs = some host) :
    IsPlain host := by
  obtain ⟨numbers, -, h⟩ := Option.bind_eq_some_iff.1 h
  obtain ⟨last, -, h⟩ := Option.bind_eq_some_iff.1 h
  dsimp only at h
  split at h
  · cases h
  · obtain rfl := Option.some.inj h
    refine IsPlain.intercalate (by simp [IsPlain, endsPath]) fun text htext => ?_
    obtain ⟨n, -, rfl⟩ := List.mem_map.1 htext
    exact isPlain_toDigits (by decide) (by decide) n

theorem isPlain_groupsText (groups : List Nat) : IsPlain (groupsText groups) := by
  have htext : ∀ groups : List Nat,
      IsPlain (":".intercalate (groups.map fun group => String.ofList (Integer.hex group))) := by
    refine fun groups => IsPlain.intercalate (by simp [IsPlain, endsPath]) fun text htext => ?_
    obtain ⟨group, -, rfl⟩ := List.mem_map.1 htext
    exact isPlain_toDigits (by decide) (by decide) group
  have hopen : IsPlain "[" := by simp [IsPlain, endsPath]
  have hgap : IsPlain "::" := by simp [IsPlain, endsPath]
  have hclose : IsPlain "]" := by simp [IsPlain, endsPath]
  unfold groupsText
  dsimp only
  split
  · exact (hopen.append (htext _)).append hclose
  · exact (((hopen.append (htext _)).append hgap).append (htext _)).append hclose

theorem isPlain_web {cs : List Char} {host : String} (h : web? cs = some host) : IsPlain host := by
  obtain ⟨decoded, -, h⟩ := Option.bind_eq_some_iff.1 h
  obtain ⟨name, -, h⟩ := Option.bind_eq_some_iff.1 h
  dsimp only at h
  split at h
  · cases h
  · next hallowed =>
    split at h
    · exact isPlain_fourBytes h
    · obtain rfl := Option.some.inj h
      refine isPlain_ofList.2 fun c hc => Bool.eq_false_iff.2 fun hends => hallowed ?_
      have hforbidden : isForbidden c = true := by
        obtain rfl | rfl := endsPath_iff.1 hends <;> decide
      rw [Bool.or_eq_true, List.any_eq_true]
      exact .inr ⟨c, hc, by rw [hforbidden]; rfl⟩

theorem isPlain_ofText {cs : List Char} {host : String} (h : ofText? true cs = some host) :
    IsPlain host := by
  unfold ofText? at h
  split at h
  · unfold bracketed? at h
    split at h
    · obtain ⟨groups, -, rfl⟩ := Option.map_eq_some_iff.1 h
      exact isPlain_groupsText groups
    · cases h
  · exact isPlain_web h

end Host

/-! ### Authorities -/

theorem isPlain_credentialTexts (cs : List Char) :
    IsPlain (credentialTexts cs).1 ∧ IsPlain (credentialTexts cs).2 := by
  have hencoded : ∀ cs, IsPlain (String.ofList (Percent.encode keptInUser cs)) :=
    isPlain_encode (by decide) (by decide)
  unfold credentialTexts
  split
  · exact ⟨hencoded _, hencoded _⟩
  · exact ⟨hencoded _, nofun⟩

theorem isPlain_toText {authority : Authority} (huser : IsPlain authority.user)
    (hpassword : IsPlain authority.password) (hhost : IsPlain authority.host) :
    IsPlain authority.toText := by
  have hempty : IsPlain "" := nofun
  have hat : IsPlain "@" := by simp [IsPlain, endsPath]
  have hcolon : IsPlain ":" := by simp [IsPlain, endsPath]
  have hcredentials : IsPlain authority.credentials := by
    unfold Authority.credentials
    dsimp only
    split
    · exact hempty
    · split
      · exact (huser.append hempty).append hat
      · exact (huser.append (hcolon.append hpassword)).append hat
  have hport : IsPlain ((authority.port.map fun port => s!":{port}").getD "") := by
    cases authority.port with
    | none => exact hempty
    | some port => exact hcolon.append (isPlain_toDigits (by decide) (by decide) port)
  exact (hcredentials.append hhost).append hport

variable {scheme : String} {cs rest : List Char} {authority : Authority} {url : Url}

/-- No sign of an authority of the web ends a path. -/
theorem isPlain_authority (hweb : isWeb scheme = true)
    (h : authority? scheme cs = some (authority, rest)) : IsPlain authority.toText := by
  unfold authority? at h
  dsimp only at h
  split at h
  · cases h
  · obtain ⟨host, hhost, h⟩ := Option.bind_eq_some_iff.1 h
    obtain ⟨port, -, h⟩ := Option.bind_eq_some_iff.1 h
    obtain ⟨huser, hpassword⟩ := isPlain_credentialTexts ((splitCredentials cs).1.getD [])
    rw [hweb] at hhost
    obtain rfl := congrArg Prod.fst (Option.some.inj h)
    exact isPlain_toText huser hpassword (Host.isPlain_ofText hhost)

/-! ### URLs of the web -/

theorem exists_of_ofAuthority (h : ofAuthority? scheme cs = some url) :
    ∃ authority authorityChars before rest,
      authority? scheme authorityChars = some (authority, before) ∧
      url = ofRest scheme (some authority) false rest := by
  unfold ofAuthority? at h
  dsimp only at h
  split at h
  · cases h
  · obtain ⟨⟨authority, before⟩, hauthority, h⟩ := Option.bind_eq_some_iff.1 h
    exact ⟨authority, _, before, _, hauthority, (Option.some.inj h).symm⟩

theorem scheme_of_ofFile (h : ofFile? cs = some url) : url.scheme = "file" := by
  unfold ofFile? at h
  dsimp only at h
  split at h
  · obtain rfl := Option.some.inj h
    rfl
  · split at h
    · obtain rfl := Option.some.inj h
      rfl
    · split at h
      · obtain rfl := Option.some.inj h
        rfl
      · obtain ⟨host, -, h⟩ := Option.bind_eq_some_iff.1 h
        obtain rfl := Option.some.inj h
        rfl

/-- What a URL of the web is read from. -/
theorem exists_of_ofText {text : String} (h : ofText? text = some url)
    (hweb : isWeb url.scheme = true) (hfile : url.scheme ≠ "file") :
    ∃ authority authorityChars before rest,
      authority? url.scheme authorityChars = some (authority, before) ∧
      url = ofRest url.scheme (some authority) false rest := by
  obtain ⟨⟨scheme, rest⟩, -, h⟩ := Option.bind_eq_some_iff.1 h
  dsimp only at h
  split at h
  · exact absurd (scheme_of_ofFile h) hfile
  · split at h
    · obtain ⟨authority, authorityChars, before, rest, hauthority, rfl⟩ := exists_of_ofAuthority h
      exact ⟨authority, authorityChars, before, rest, hauthority, rfl⟩
    · next hscheme =>
      split at h
      · obtain ⟨authority, authorityChars, before, rest, hauthority, rfl⟩ := exists_of_ofAuthority h
        exact absurd hweb hscheme
      · obtain rfl := Option.some.inj h
        exact absurd hweb hscheme
      · obtain rfl := Option.some.inj h
        exact absurd hweb hscheme

/-- A URL of the web has an authority without signs and a path of settled segments. -/
theorem exists_parts_of_ofText {text : String} (h : ofText? text = some url)
    (hweb : isWeb url.scheme = true) (hfile : url.scheme ≠ "file") :
    ∃ authority parts, url.authority = some authority ∧ IsPlain authority.toText ∧
      url.flat = false ∧ url.path = String.ofList (joined parts) ∧
      ∀ segment ∈ parts, IsSettled segment := by
  obtain ⟨authority, authorityChars, before, rest, hauthority, hurl⟩ :=
    exists_of_ofText h hweb hfile
  refine ⟨authority, _, by rw [hurl]; rfl, isPlain_authority hweb hauthority, by rw [hurl]; rfl, ?_,
    isSettled_segments hweb hfile (splitBefore endsPath rest).1⟩
  rw [← segmentedPath_web hweb hfile]
  exact congrArg Url.path hurl

/-! ### The text -/

theorem isPlain_joined {parts : List (List Char)} (h : ∀ segment ∈ parts, IsSettled segment) :
    IsPlain (String.ofList (joined parts)) := by
  refine isPlain_ofList.2 fun c hc => Bool.eq_false_iff.2 fun hends => ?_
  obtain ⟨segment, hsegment, hc⟩ := List.mem_flatMap.1 hc
  obtain rfl | hc := List.mem_cons.1 hc
  · exact absurd hends (by decide)
  · obtain ⟨-, hkept⟩ := (h segment hsegment).isKept c hc
    obtain rfl | rfl := endsPath_iff.1 hends <;> exact absurd hkept (by decide)

def queryOfText? (text : String) : Option String :=
  match (text.toList.takeWhile (· ≠ '#')).dropWhile (· ≠ '?') with
  | '?' :: query => some (String.ofList query)
  | _ => none

theorem queryOfText?_toText {query : String} (hscheme : IsPlain url.scheme)
    (hbefore : IsPlain url.beforePath) (hpath : IsPlain url.path) (hquery : url.query = some query)
    (hhash : '#' ∉ query.toList) : queryOfText? url.toText = some query := by
  let before := url.scheme ++ ":" ++ url.beforePath ++ url.path
  let fragment := (url.fragment.map ("#" ++ ·)).getD ""
  have hplain : IsPlain before :=
    ((hscheme.append (by simp [IsPlain, endsPath])).append hbefore).append hpath
  have hsign : ∀ c ∈ before.toList, c ≠ '?' ∧ c ≠ '#' := fun c hc =>
    not_or.1 (mt endsPath_iff.2 (Bool.eq_false_iff.1 (hplain c hc)))
  have htext : url.toText.toList = before.toList ++ '?' :: query.toList ++ fragment.toList := by
    rw [toText, hquery]
    simp [before, fragment]
  have hfragment : fragment.toList.takeWhile (· ≠ '#') = [] := by
    simp only [fragment]
    cases url.fragment with
    | none => rfl
    | some text => simp
  have hkept : ∀ c ∈ before.toList ++ '?' :: query.toList, decide (c ≠ '#') = true := by
    intro c hc
    obtain hc | hc := List.mem_append.1 hc
    · exact decide_eq_true (hsign c hc).2
    · obtain rfl | hc := List.mem_cons.1 hc
      · rfl
      · exact decide_eq_true fun h => hhash (h ▸ hc)
  have hstart : ∀ c ∈ before.toList, decide (c ≠ '?') = true := fun c hc =>
    decide_eq_true (hsign c hc).1
  rw [queryOfText?, htext, List.takeWhile_append_of_pos hkept, hfragment, List.append_nil,
    List.dropWhile_append_of_pos hstart, List.dropWhile_cons_of_neg (by simp)]
  exact congrArg some (String.ofList_toList)

end SeriesSql.Url
