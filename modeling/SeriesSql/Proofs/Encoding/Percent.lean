import Mathlib
import SeriesSql.Encoding.Percent

/-!
# What percent signs encode

A byte that is encoded is decoded in front of anything, and so are all the bytes of a character.
Encoding a text leaves characters of ASCII that are kept, percent signs and digits, so a text that
is encoded has nothing left to encode.
-/

namespace SeriesSql.Percent

/-! ### Bytes -/

def utf8 (cs : List Char) : List UInt8 :=
  cs.flatMap String.utf8EncodeChar

theorem utf8_append (cs cs' : List Char) : utf8 (cs ++ cs') = utf8 cs ++ utf8 cs' :=
  List.flatMap_append

theorem utf8EncodeChar_of_lt {c : Char} (hc : c.toNat < 0x80) :
    String.utf8EncodeChar c = [UInt8.ofNat c.toNat] := by
  have hsize : c.utf8Size = 1 :=
    Char.utf8Size_eq_one_iff.2 (UInt32.le_iff_toNat_le.2 (Nat.le_of_lt_succ hc))
  rw [String.utf8EncodeChar_eq_singleton hsize]
  rfl

structure IsHexDigit (n : Nat) (c : Char) : Prop where
  isFormChar : isFormChar c = true
  lt : c.toNat < 0x80
  value : hexValue? (UInt8.ofNat c.toNat) = some n

theorem isHexDigit_hexDigit {n : Nat} (hn : n < 16) : IsHexDigit n (hexDigit n) := by
  interval_cases n <;> exact ⟨by decide, by decide, by decide⟩

theorem digits_lt (byte : UInt8) : byte.toNat / 16 < 16 ∧ byte.toNat % 16 < 16 :=
  ⟨Nat.div_lt_of_lt_mul byte.toNat_lt, Nat.mod_lt _ (by decide)⟩

theorem decode_cons_of_ne {byte : UInt8} (hbyte : byte ≠ 0x25) (rest : List UInt8) :
    decode (byte :: rest) = byte :: decode rest := by
  match rest with
  | [] => rfl
  | [_] => rfl
  | _ :: _ :: _ =>
    rw [decode, beq_false_of_ne hbyte]

theorem decode_encodeByte (byte : UInt8) (rest : List UInt8) :
    decode (utf8 (encodeByte byte) ++ rest) = byte :: decode rest := by
  have hhigh := isHexDigit_hexDigit (digits_lt byte).1
  have hlow := isHexDigit_hexDigit (digits_lt byte).2
  have hbytes : utf8 (encodeByte byte) = [0x25, UInt8.ofNat (hexDigit (byte.toNat / 16)).toNat,
      UInt8.ofNat (hexDigit (byte.toNat % 16)).toNat] := by
    simp [utf8, encodeByte, utf8EncodeChar_of_lt, hhigh.lt, hlow.lt]
  rw [hbytes, List.cons_append, List.cons_append, List.cons_append, List.nil_append, decode,
    hhigh.value, hlow.value]
  simp only [beq_self_eq_true, Nat.div_add_mod', UInt8.ofNat_toNat]

theorem decode_encodeChar (c : Char) (rest : List UInt8) :
    decode (utf8 (encodeChar c) ++ rest) = String.utf8EncodeChar c ++ decode rest := by
  rw [encodeChar]
  induction String.utf8EncodeChar c with
  | nil => rfl
  | cons byte bytes ih =>
    rw [List.flatMap_cons, utf8_append, List.append_assoc, decode_encodeByte, ih, List.cons_append]

/-! ### Characters -/

theorem lt_of_isAlphanum {c : Char} (hc : c.isAlphanum = true) : c.toNat < 0x80 := by
  have hval : c.toNat = c.val.toNat := rfl
  simp only [Char.isAlphanum, Char.isAlpha, Char.isUpper, Char.isLower, Char.isDigit,
    Bool.or_eq_true, Bool.and_eq_true, decide_eq_true_eq, ge_iff_le, UInt32.le_iff_toNat_le] at hc
  simp at hc
  omega

theorem lt_of_isFormChar {c : Char} (hc : isFormChar c = true) : c.toNat < 0x80 := by
  simp only [isFormChar, Bool.or_eq_true, beq_iff_eq] at hc
  obtain (((hc | rfl) | rfl) | rfl) | rfl := hc
  · exact lt_of_isAlphanum hc
  all_goals decide

theorem eq_percent_or_of_mem_encodeChar {c d : Char} (hd : d ∈ encodeChar c) :
    d = '%' ∨ isFormChar d := by
  obtain ⟨byte, -, hd⟩ := List.mem_flatMap.1 hd
  have hhigh := isHexDigit_hexDigit (digits_lt byte).1
  have hlow := isHexDigit_hexDigit (digits_lt byte).2
  simp only [encodeByte, List.mem_cons, List.not_mem_nil, or_false] at hd
  obtain rfl | rfl | rfl := hd
  · exact .inl rfl
  · exact .inr hhigh.isFormChar
  · exact .inr hlow.isFormChar

/-- What holds of the characters of ASCII, one by one. -/
theorem of_ascii {p : Char → Prop} (h : ∀ n < 0x80, p (Char.ofNat n)) {c : Char}
    (hc : c.toNat < 0x80) : p c :=
  Char.ofNat_toNat c ▸ h c.toNat hc

/-- The bytes of a character above ASCII start with one that is not in ASCII. -/
theorem le_of_utf8EncodeChar_eq_cons {c : Char} {byte : UInt8} {bytes : List UInt8}
    (hc : 0x80 ≤ c.toNat) (h : String.utf8EncodeChar c = byte :: bytes) : 0xC0 ≤ byte.toNat := by
  have hval : c.toNat = c.val.toNat := rfl
  rw [String.utf8EncodeChar, if_neg (by omega)] at h
  have hfirst : ∀ n rest, UInt8.ofNat n :: rest = byte :: bytes → n < 0x100 → byte.toNat = n := by
    intro n rest h hn
    rw [← (List.cons.inj h).1, UInt8.toNat_ofNat', Nat.mod_eq_of_lt hn]
  split at h
  · have hbyte := hfirst _ _ h (by omega)
    omega
  · split at h <;>
    · have hbyte := hfirst _ _ h (by omega)
      omega

/-- A byte of ASCII stands first only for its own character. -/
theorem eq_of_utf8EncodeChar_eq_cons {c d : Char} {bytes : List UInt8} (hd : d.toNat < 0x80)
    (h : String.utf8EncodeChar c = UInt8.ofNat d.toNat :: bytes) : c = d := by
  have hcode : (UInt8.ofNat d.toNat).toNat = d.toNat := by
    rw [UInt8.toNat_ofNat', Nat.mod_eq_of_lt (Nat.lt_trans hd (by decide))]
  by_cases hc : c.toNat < 0x80
  · rw [utf8EncodeChar_of_lt hc] at h
    have hbyte := congrArg UInt8.toNat (List.cons.inj h).1
    rw [hcode, UInt8.toNat_ofNat', Nat.mod_eq_of_lt (Nat.lt_trans hc (by decide))] at hbyte
    exact Char.toNat_inj.1 hbyte
  · have hbyte := le_of_utf8EncodeChar_eq_cons (Nat.le_of_not_lt hc) h
    omega

/-! ### Texts -/

def IsKept (keeps : Char → Bool) (c : Char) : Prop :=
  c.toNat < 0x80 ∧ keeps c = true

instance (keeps : Char → Bool) (c : Char) : Decidable (IsKept keeps c) :=
  inferInstanceAs (Decidable (_ ∧ _))

variable {keeps : Char → Bool} {cs : List Char}

theorem mem_encode {d : Char} (hd : d ∈ encode keeps cs) :
    (d ∈ cs ∧ IsKept keeps d) ∨ d = '%' ∨ isFormChar d := by
  obtain ⟨c, hc, hd⟩ := List.mem_flatMap.1 hd
  split at hd
  · next hkept =>
    obtain rfl := List.mem_singleton.1 hd
    rw [Bool.and_eq_true, decide_eq_true_iff] at hkept
    exact .inl ⟨hc, hkept⟩
  · exact .inr (eq_percent_or_of_mem_encodeChar hd)

theorem encode_of_isKept (h : ∀ c ∈ cs, IsKept keeps c) : encode keeps cs = cs := by
  induction cs with
  | nil => rfl
  | cons c cs ih =>
    obtain ⟨hlt, hkept⟩ := h c List.mem_cons_self
    rw [encode, List.flatMap_cons, hkept, decide_eq_true hlt, ← encode,
      ih fun d hd => h d (List.mem_cons_of_mem _ hd)]
    rfl

/-- What keeps the signs of an encoded text. -/
structure KeepsEncoded (keeps : Char → Bool) : Prop where
  percent : keeps '%' = true
  formChar : ∀ c, isFormChar c = true → keeps c = true

theorem isKept_of_mem_encode (hkeeps : KeepsEncoded keeps) {d : Char} (hd : d ∈ encode keeps cs) :
    IsKept keeps d := by
  obtain ⟨-, hkept⟩ | rfl | hform := mem_encode hd
  · exact hkept
  · exact ⟨by decide, hkeeps.percent⟩
  · exact ⟨lt_of_isFormChar hform, hkeeps.formChar d hform⟩

/-- A text that is not kept as it is has an encoded byte, the first one of some character. -/
theorem exists_encodeByte_of_not_kept {c : Char} (hc : c ∈ cs) (hkept : ¬ IsKept keeps c) :
    ∃ before byte bytes after, String.utf8EncodeChar c = byte :: bytes ∧
      encode keeps cs = before ++ encodeByte byte ++ after := by
  obtain ⟨left, right, rfl⟩ := List.append_of_mem hc
  have hne : String.utf8EncodeChar c ≠ [] := List.ne_nil_of_length_pos
    (String.length_utf8EncodeChar c ▸ Char.utf8Size_pos c)
  obtain ⟨byte, bytes, hbytes⟩ := List.exists_cons_of_ne_nil hne
  refine ⟨encode keeps left, byte, bytes, bytes.flatMap encodeByte ++ encode keeps right,
    hbytes, ?_⟩
  have hencoded : ¬ (decide (c.toNat < 0x80) && keeps c) = true := by
    rwa [Bool.and_eq_true, decide_eq_true_iff]
  rw [encode, List.flatMap_append, List.flatMap_cons, if_neg hencoded, encodeChar, hbytes,
    List.flatMap_cons]
  simp [encode]

end SeriesSql.Percent
