import Mathlib
import SeriesSql.Proofs.Http.ErrorBody
import SeriesSql.Proofs.Time.Duration

/-!
# When a statement is sent again

An answer with a status of success is a response or makes no sense, and in both cases the statement
is not sent again, for the engine may have run it. Any other answer is an error of the engine, and
the statement is sent again if the status puts the fault with the engine. The delay before that is
the first delay times a power of two, as long as neither leaves the range of its type.
-/

namespace SeriesSql.Http

/-! ### What an answer is -/

def IsSuccess (status : Nat) : Prop :=
  200 ≤ status ∧ status ≤ 299

def DescribesError (body : String) : Prop :=
  ∃ document message position,
    Document.ofText? body = some document ∧ Describes document message position

/-- The message and the position of an answer that is no success: those of the error that its body
describes, or else the text of the body, or else the status. -/
inductive Says (status : Nat) (body : String) : String → Option Nat → Prop where
  | described {document : Document} {message : String} {position : Option Nat} :
      Document.ofText? body = some document → Describes document message position →
      Says status body message position
  | text {message : String} : ¬ DescribesError body →
      Text.IsTrimmed body.toList message.toList → message ≠ "" → Says status body message none
  | blank : ¬ DescribesError body → (∀ c ∈ body.toList, Text.isBlank c) →
      Says status body s!"HTTP status {status}" none

theorem errorBody?_eq_none_iff {body : String} :
    errorBody? body = none ↔ ¬ DescribesError body := by
  rw [← not_iff_not, not_not, ← ne_eq, Option.ne_none_iff_exists']
  constructor
  · rintro ⟨⟨message, position⟩, h⟩
    obtain ⟨document, hdocument, hdescribes⟩ := errorBody?_eq_some_iff.1 h
    exact ⟨document, message, position, hdocument, hdescribes⟩
  · rintro ⟨document, message, position, h⟩
    exact ⟨(message, position), errorBody?_eq_some_iff.2 ⟨document, h⟩⟩

theorem says_iff {status : Nat} {body message : String} {position : Option Nat} :
    Says status body message position ↔
      (errorBody? body).getD (plainMessage status body, none) = (message, position) := by
  constructor
  · rintro (⟨hdocument, hdescribes⟩ | ⟨hnone, htrimmed, hne⟩ | ⟨hnone, hblank⟩)
    · rw [errorBody?_eq_some_iff.2 ⟨_, hdocument, hdescribes⟩, Option.getD_some]
    · rw [errorBody?_eq_none_iff.2 hnone, Option.getD_none, plainMessage,
        Text.trim_eq_iff.2 htrimmed, if_neg hne]
    · rw [errorBody?_eq_none_iff.2 hnone, Option.getD_none, plainMessage,
        Text.trim_eq_empty_iff.2 hblank, if_pos rfl]
  · intro h
    cases hbody : errorBody? body with
    | some described =>
      rw [hbody, Option.getD_some] at h
      obtain ⟨document, hdocument, hdescribes⟩ := errorBody?_eq_some_iff.1 (h ▸ hbody)
      exact .described hdocument hdescribes
    | none =>
      rw [hbody, Option.getD_none, plainMessage] at h
      obtain ⟨rfl, rfl⟩ := Prod.mk.inj h
      have hnone := errorBody?_eq_none_iff.1 hbody
      by_cases hempty : Text.trim body = ""
      · rw [if_pos hempty]
        exact .blank hnone (Text.trim_eq_empty_iff.1 hempty)
      · rw [if_neg hempty]
        exact .text hnone (Text.isTrimmed_trim body) hempty

theorem classify_of_isSuccess {status : Nat} (hstatus : IsSuccess status) (body sql : String) :
    classify status body sql = ((Response.ofText? body).map Except.ok).getD
      (.error (.invalidResponse ("not a response" ++ ": " ++ body))) := by
  have hrange : 200 ≤ status ∧ status < 300 := ⟨hstatus.1, Nat.lt_succ_of_le hstatus.2⟩
  rw [classify, if_pos hrange]
  cases Response.ofText? body <;> rfl

theorem classify_of_not_isSuccess {status : Nat} (hstatus : ¬ IsSuccess status)
    {body message : String} {position : Option Nat} (hsaid : Says status body message position)
    (sql : String) :
    classify status body sql = .error (.server status message position sql) := by
  have hrange : ¬ (200 ≤ status ∧ status < 300) := fun h => hstatus ⟨h.1, Nat.le_of_lt_succ h.2⟩
  rw [classify, if_neg hrange, says_iff.1 hsaid]

/-- An answer is a response exactly if its status is one of success and its body reads as a
response. Any other body is then an invalid response. With any other status the answer is an error
of the engine that has the status and the statement and says what the body or the status says. Only
an answer with a status of at least 500 lets the statement be sent again. -/
theorem classify_resends_only_failures (status : Nat) (body sql : String) :
    (∀ response, classify status body sql = .ok response ↔
      IsSuccess status ∧ Response.ofText? body = some response) ∧
    (IsSuccess status → Response.ofText? body = none →
      ∃ reason, classify status body sql = .error (.invalidResponse (reason ++ ": " ++ body))) ∧
    (¬ IsSuccess status → ∃ message position,
      classify status body sql = .error (.server status message position sql) ∧
      ∀ text place, Says status body text place ↔ text = message ∧ place = position) ∧
    ∀ e, classify status body sql = .error e → (e.isRetryable ↔ 500 ≤ status) := by
  by_cases hstatus : IsSuccess status
  · have hclassify := classify_of_isSuccess hstatus body sql
    have hlow : ¬ 500 ≤ status := fun h => by
      have hhigh := hstatus.2
      omega
    cases hread : Response.ofText? body with
    | some response =>
      rw [hread, Option.map_some, Option.getD_some] at hclassify
      simp [hclassify, hstatus]
    | none =>
      rw [hread, Option.map_none, Option.getD_none] at hclassify
      refine ⟨by simp [hclassify], fun _ _ => ⟨_, hclassify⟩, fun h => absurd hstatus h, ?_⟩
      intro e he
      obtain rfl := Except.error.inj (hclassify.symm.trans he)
      simp [TransportError.isRetryable, hlow]
  · obtain ⟨⟨message, position⟩, hsaid⟩ :
        ∃ said : String × Option Nat, Says status body said.1 said.2 :=
      ⟨_, says_iff.2 rfl⟩
    have hclassify := classify_of_not_isSuccess hstatus hsaid sql
    refine ⟨by simp [hclassify, hstatus], fun h => absurd h hstatus,
      fun _ => ⟨message, position, hclassify, fun text place => ?_⟩, fun e he => ?_⟩
    · rw [says_iff, says_iff.1 hsaid, Prod.mk.injEq, eq_comm, @eq_comm _ position]
    · obtain rfl := Except.error.inj (hclassify.symm.trans he)
      simp [TransportError.isRetryable]

/-- An object whose message is no text describes no error. -/
example : classify 400 " \x7b\"error\": 7\x7d\n" "SELECT 1" =
    .error (.server 400 "\x7b\"error\": 7\x7d" none "SELECT 1") := by cbv

/-! ### The delay before the next attempt -/

/-- The power of two, or the greatest number of 32 bits. -/
theorem saturatingPowTwo_eq (n : Nat) : saturatingPowTwo n = min (2 ^ n) (2 ^ 32 - 1) := by
  have hmax : UInt32.size - 1 = 2 ^ 32 - 1 := rfl
  rw [saturatingPowTwo, Nat.shiftLeft_eq, Nat.one_mul, hmax]
  split
  · rename_i hn
    have hpow : 2 ^ n ≤ 2 ^ 31 := Nat.pow_le_pow_right (by decide) (by omega)
    rw [Nat.min_eq_left]
    omega
  · rename_i hn
    have hpow : 2 ^ 32 ≤ 2 ^ n := Nat.pow_le_pow_right (by decide) (by omega)
    rw [Nat.min_eq_right]
    omega

theorem saturatingPowTwo_lt (n : Nat) : saturatingPowTwo n < UInt32.size := by
  have hmax : UInt32.size = 2 ^ 32 := rfl
  rw [saturatingPowTwo_eq, hmax]
  omega

theorem toNanos_backoffDelay (first : Duration) (retry : Nat) :
    (backoffDelay first retry).toNanos =
      min (first.toNanos * min (2 ^ retry) (2 ^ 32 - 1)) Duration.longest.toNanos := by
  rw [backoffDelay, Duration.toNanos_saturatingMul, saturatingPowTwo_eq]

theorem toNanos_backoffDelay_succ (first : Duration) {retry : Nat} (hretry : retry < 31) :
    (backoffDelay first (retry + 1)).toNanos =
      min (2 * (backoffDelay first retry).toNanos) Duration.longest.toNanos := by
  -- Neither of the two powers is cut off, so only the longest duration stops the doubling.
  have hexact : ∀ n ≤ 31, min (2 ^ n) (2 ^ 32 - 1) = 2 ^ n := by
    intro n hn
    have hpow : 2 ^ n ≤ 2 ^ 31 := Nat.pow_le_pow_right (by decide) hn
    exact Nat.min_eq_left (by omega)
  have hdouble : first.toNanos * 2 ^ (retry + 1) = 2 * (first.toNanos * 2 ^ retry) := by ring
  rw [toNanos_backoffDelay, toNanos_backoffDelay, hexact _ (by omega), hexact _ (by omega),
    hdouble]
  omega

/-- In nanoseconds the delay is the first delay times the power of two, where the power is cut off
at the greatest number of 32 bits and the product at the longest duration. The words that hold the
parts of the first delay never overflow on the way. So a delay is never shorter than one with a
smaller number or a shorter first delay, and up to number 31 each is twice the one before, or the
longest duration if that is less. -/
theorem backoffDelay_capped (first : Duration) (retry : Nat) :
    (backoffDelay first retry).Fits ∧
    (backoffDelay first retry).toNanos =
      min (first.toNanos * min (2 ^ retry) (2 ^ 32 - 1)) Duration.longest.toNanos ∧
    (first.Fits →
      first.mulInWords? (saturatingPowTwo retry) = some (backoffDelay first retry)) ∧
    (∀ later, retry ≤ later →
      (backoffDelay first retry).toNanos ≤ (backoffDelay first later).toNanos) ∧
    (∀ longer : Duration, first.toNanos ≤ longer.toNanos →
      (backoffDelay first retry).toNanos ≤ (backoffDelay longer retry).toNanos) ∧
    (retry < 31 → (backoffDelay first (retry + 1)).toNanos =
      min (2 * (backoffDelay first retry).toNanos) Duration.longest.toNanos) := by
  refine ⟨Duration.fits_saturatingMul _ _, toNanos_backoffDelay first retry,
    fun hfirst => Duration.mulInWords?_eq hfirst (saturatingPowTwo_lt retry), fun later hlater => ?_,
    fun longer hlonger => ?_, toNanos_backoffDelay_succ first⟩
  · have hpow : 2 ^ retry ≤ 2 ^ later := Nat.pow_le_pow_right (by decide) hlater
    rw [toNanos_backoffDelay, toNanos_backoffDelay]
    gcongr
  · rw [toNanos_backoffDelay, toNanos_backoffDelay]
    gcongr

/-- A delay that doubles to one nanosecond less than the longest duration, with a carry. -/
example : backoffDelay ⟨2 ^ 63 - 1, 999999999⟩ 1 = ⟨2 ^ 64 - 1, 999999998⟩ := by decide

end SeriesSql.Http
