import Mathlib
import SeriesSql.Proofs.Result.Cell
import SeriesSql.Proofs.Sql.Literal
import SeriesSql.Proofs.Time.Iso

/-!
# Timestamps survive the way out and back

The literal of an instant in a year of four digits holds a text that a response may send back, with
or without its last letter. A column of nanoseconds keeps the instant, other columns keep it up to
its microseconds. The instants that come from epochs have no smaller part.
-/

namespace SeriesSql

open ColumnType (ofWireName?)

namespace Cell

theorem isIntegerText_dateTimeChars {t : Timestamp} (ht : t.IsCommon) (places : Nat)
    (rest : List Char) : isIntegerText (Timestamp.dateTimeChars places t ++ rest) = false := by
  obtain ⟨c, cs, hcs, hc⟩ := Timestamp.exists_cons_padded (by decide) ht.year_lt
  rw [ht.dateTimeChars_append, hcs, List.cons_append, isIntegerText]
  · simp [Integer.digits?]
  · intro _ heq
    obtain rfl := (List.cons.inj heq).1
    exact absurd hc (by decide)

theorem timestamp_string {t : Timestamp} {s : String} (h : Timestamp.ofText? s = some t)
    (ticksPerSecond : Nat) : timestamp ticksPerSecond (.string s) = .ok (.timestamp t) := by
  rw [timestamp, h]

/-- A text that holds an instant means it in every column of timestamps. -/
theorem ofType_timestamp {type : ColumnType}
    (htype : type ∈ [ColumnType.timestamp, .date, .timestampNs]) {t : Timestamp} {s : String}
    (h : Timestamp.ofText? s = some t) (hinteger : isIntegerText s.toList = false) :
    ofType type (.string s) = .ok (.timestamp t) := by
  simp only [List.mem_cons, List.not_mem_nil, or_false] at htype
  rcases htype with rfl | rfl | rfl
  · exact timestamp_string h 1000000
  · exact timestamp_string h 1000
  · rw [ofType, nanoTimestamp, hinteger]
    exact timestamp_string h 1000000

end Cell

/-- The quoted text of an instant in a column of a type, which ends in the letter for UTC, decodes
to another instant in columns of the type, also without that letter. -/
def ReturnsAs (type : ColumnType) (t result : Timestamp) : Prop :=
  ∃ text body, Literal.ofValue (.timestamp t) type = .ok text ∧
    Lexeme.read? text.toList = some (.text (body ++ ['Z']), []) ∧
    ∀ wire, ofWireName? wire = some type →
      Cell.decode (.string (String.ofList (body ++ ['Z']))) wire = .ok (.timestamp result) ∧
        Cell.decode (.string (String.ofList body)) wire = .ok (.timestamp result)

namespace Timestamp

theorem IsCommon.returnsAs {t : Timestamp} (ht : t.IsCommon) {type : ColumnType}
    (htype : type ∈ [ColumnType.timestamp, .date, .timestampNs]) (places : Nat)
    (hplaces : places ≤ 9)
    (htext : Literal.ofValue (.timestamp t) type = .ok (Token.quoted (t.toUtcText places))) :
    ReturnsAs type t (t.truncate places) := by
  refine ⟨_, dateTimeChars places t, htext, ?_, fun wire hwire => ?_⟩
  · rw [Literal.read?_quoted, toUtcText, String.toList_ofList]
  · obtain ⟨hutc, hlocal⟩ := ht.ofText?_text hplaces
    have hinteger := Cell.isIntegerText_dateTimeChars ht places
    constructor
    · apply Cell.decode_of_type hwire (by simp)
      exact Cell.ofType_timestamp htype hutc (by rw [String.toList_ofList, hinteger])
    · apply Cell.decode_of_type hwire (by simp)
      apply Cell.ofType_timestamp htype hlocal
      rw [String.toList_ofList, ← List.append_nil (dateTimeChars places t), hinteger]

theorem IsCommon.returnsAs_nanos {t : Timestamp} (ht : t.IsCommon) :
    ReturnsAs .timestampNs t t := by
  have h : ReturnsAs .timestampNs t (t.truncate 9) := ht.returnsAs (by decide) 9 (by decide) rfl
  rwa [truncate_nine] at h

theorem IsCommon.returnsAs_micros {t : Timestamp} (ht : t.IsCommon) {type : ColumnType}
    (htype : type ∈ [ColumnType.timestamp, .date]) :
    ReturnsAs type t { t with nanos := t.nanos / 1000 * 1000 } := by
  rw [← truncate_six]
  simp only [List.mem_cons, List.not_mem_nil, or_false] at htype
  rcases htype with rfl | rfl
  · exact ht.returnsAs (by decide) 6 (by decide) rfl
  · exact ht.returnsAs (by decide) 6 (by decide) rfl

/-- An instant without a part smaller than a microsecond is returned unchanged. -/
theorem IsCommon.returnsAs_self {t : Timestamp} (ht : t.IsCommon)
    (hnanos : t.nanos / 1000 * 1000 = t.nanos) {type : ColumnType}
    (htype : type ∈ [ColumnType.timestamp, .date, .timestampNs]) : ReturnsAs type t t := by
  have hmicros : ∀ type ∈ [ColumnType.timestamp, .date], ReturnsAs type t t := by
    intro type htype
    have h := ht.returnsAs_micros htype
    rwa [hnanos] at h
  simp only [List.mem_cons, List.not_mem_nil, or_false] at htype
  rcases htype with rfl | rfl | rfl
  · exact hmicros .timestamp (by decide)
  · exact hmicros .date (by decide)
  · exact ht.returnsAs_nanos

/-! ### Epochs -/

/-- An epoch from the start of the year 0 to before the start of the year 10000, with so many ticks
to the second. -/
def IsCommonEpoch (ticksPerSecond : Nat) (epoch : Int) : Prop :=
  Date.toDays ⟨0, 1, 1⟩ * (ticksPerSecond * secondsPerDay) ≤ epoch ∧
    epoch < Date.toDays ⟨10000, 1, 1⟩ * (ticksPerSecond * secondsPerDay)

/-- The instant so many ticks after 1970 began, which is in no leap second. -/
def IsAtEpoch (t : Timestamp) (ticksPerSecond : Nat) (epoch : Int) : Prop :=
  t.nanos < nanosPerSecond ∧
    (t.seconds * nanosPerSecond + t.nanos) * ticksPerSecond = epoch * nanosPerSecond

theorem pos_of_mul_eq_nanosPerSecond {ticksPerSecond unit : Nat}
    (hunit : ticksPerSecond * unit = nanosPerSecond) : 0 < ticksPerSecond ∧ 0 < unit := by
  have hprod : 0 < ticksPerSecond * unit := hunit ▸ (by decide)
  exact ⟨Nat.pos_of_mul_pos_right hprod, Nat.pos_of_mul_pos_left hprod⟩

/-- An epoch is whole seconds and some ticks of the next one, each of `unit` nanoseconds. -/
theorem exists_tick {ticksPerSecond unit : Nat} (hunit : ticksPerSecond * unit = nanosPerSecond)
    (epoch : Int) :
    ∃ tick : Nat, epoch % ticksPerSecond = tick ∧ tick * unit < nanosPerSecond ∧
      ofTicks? ticksPerSecond epoch = ofSeconds? (epoch / ticksPerSecond) (tick * unit) := by
  obtain ⟨hpos, hunit_pos⟩ := pos_of_mul_eq_nanosPerSecond hunit
  obtain ⟨tick, htick⟩ := Int.eq_ofNat_of_zero_le
    (Int.emod_nonneg epoch (Int.natCast_ne_zero.2 hpos.ne'))
  have htick_lt : tick < ticksPerSecond := by
    have := Int.emod_lt_of_pos epoch (Int.natCast_pos.2 hpos)
    omega
  refine ⟨tick, htick, ?_, ?_⟩
  · rw [← hunit]
    exact Nat.mul_lt_mul_of_pos_right htick_lt hunit_pos
  · rw [ofTicks?, htick, Int.toNat_natCast, Nat.div_eq_of_eq_mul_right hpos hunit.symm]

theorem isAtEpoch_of_ofTicks? {ticksPerSecond : Nat} (hdvd : ticksPerSecond ∣ nanosPerSecond)
    {epoch : Int} {t : Timestamp} (h : ofTicks? ticksPerSecond epoch = some t) :
    t.IsAtEpoch ticksPerSecond epoch := by
  obtain ⟨unit, hunit⟩ := hdvd
  obtain ⟨tick, htick, hnanos, hread⟩ := exists_tick hunit.symm epoch
  rw [hread, ofSeconds?] at h
  obtain rfl := Option.some.inj (Option.ite_none_right_eq_some.1 h).2
  refine ⟨hnanos, ?_⟩
  calc (epoch / ticksPerSecond * nanosPerSecond + (tick * unit : Nat)) * (ticksPerSecond : Int)
    _ = (epoch / ticksPerSecond * ticksPerSecond + tick) * nanosPerSecond := by
      rw [hunit]
      push_cast
      ring
    _ = epoch * nanosPerSecond := by rw [← htick, Int.ediv_mul_add_emod]

/-- The instant of an epoch is in a year of four digits and no leap second. Ticks of a microsecond
or more leave no smaller part. -/
theorem exists_of_epoch {ticksPerSecond : Nat} (scale : Nat)
    (hscale : ticksPerSecond * (scale * 1000) = nanosPerSecond) {epoch : Int}
    (hepoch : IsCommonEpoch ticksPerSecond epoch) :
    ∃ t : Timestamp, t.IsCommon ∧ t.nanos / 1000 * 1000 = t.nanos ∧
      ofTicks? ticksPerSecond epoch = some t := by
  have hpos := (pos_of_mul_eq_nanosPerSecond hscale).1
  obtain ⟨tick, -, hnanos, hread⟩ := exists_tick hscale epoch
  have hday : epoch / ticksPerSecond / secondsPerDay = epoch / (ticksPerSecond * secondsPerDay) :=
    Int.ediv_ediv_of_nonneg (Int.natCast_nonneg _)
  have hticks : 0 < (ticksPerSecond : Int) * secondsPerDay :=
    Int.mul_pos (Int.natCast_pos.2 hpos) (by decide)
  have hfirst := (Int.le_ediv_iff_mul_le hticks).2 hepoch.1
  have hlast := Int.ediv_lt_of_lt_mul hticks hepoch.2
  rw [← hday, Date.toDays_newYear_le_iff] at hfirst
  rw [← hday, ← Int.not_le, Date.toDays_newYear_le_iff] at hlast
  have hcommon : IsCommon ⟨epoch / ticksPerSecond, tick * (scale * 1000)⟩ :=
    { year_nonneg := hfirst
      year_le := Int.lt_add_one_iff.1 (Int.not_le.1 hlast)
      nanos_lt := hnanos.trans (by decide)
      leap := fun hleap => absurd hnanos (Nat.not_lt.2 hleap) }
  refine ⟨_, hcommon, ?_, ?_⟩
  · rw [← Nat.mul_assoc, Nat.mul_div_cancel _ (by decide)]
  · rw [hread]
    exact ofSeconds?_of_year hcommon.minYear_le hcommon.le_maxYear _

end Timestamp

namespace Cell

theorem timestamp_number {ticksPerSecond : Nat} {epoch : Int64} {t : Timestamp}
    (h : Timestamp.ofTicks? ticksPerSecond epoch.toInt = some t) :
    timestamp ticksPerSecond (.number (toString epoch.toInt)) = .ok (.timestamp t) := by
  have hread : int64? (toString epoch.toInt).toList = some epoch.toInt :=
    Integer.within?_toString (Int64.le_toInt epoch) (Int64.toInt_le epoch)
  simp only [timestamp, hread, h]

end Cell

/-- An instant in a year of four digits, which may be a leap second at the end of a minute, is sent
and returned whole as nanoseconds and up to its microseconds otherwise. An epoch of 64 bits in those
years is read as the instant so many ticks after 1970 began, which is returned unchanged from each
type of column. -/
theorem timestamps_return :
    (∀ t : Timestamp, t.IsCommon →
      ReturnsAs .timestampNs t t ∧
        ∀ type ∈ [ColumnType.timestamp, .date],
          ReturnsAs type t { t with nanos := t.nanos / 1000 * 1000 }) ∧
      ∀ epoch : Int64, ∀ column ∈ [(ColumnType.timestamp, 1000000), (.date, 1000)],
        Timestamp.IsCommonEpoch column.2 epoch.toInt →
          ∃ t : Timestamp, Timestamp.ofTicks? column.2 epoch.toInt = some t ∧
            t.IsAtEpoch column.2 epoch.toInt ∧ t.IsCommon ∧
            (∀ wire, ofWireName? wire = some column.1 →
              Cell.decode (.number (toString epoch.toInt)) wire = .ok (.timestamp t)) ∧
            ∀ type ∈ [ColumnType.timestamp, .date, .timestampNs], ReturnsAs type t t := by
  constructor
  · exact fun t ht => ⟨ht.returnsAs_nanos, fun type htype => ht.returnsAs_micros htype⟩
  · intro epoch column hcolumn hepoch
    obtain ⟨hdvd, t, ht, hnanos, hread, hdecode⟩ : column.2 ∣ Timestamp.nanosPerSecond ∧
        ∃ t : Timestamp, t.IsCommon ∧ t.nanos / 1000 * 1000 = t.nanos ∧
          Timestamp.ofTicks? column.2 epoch.toInt = some t ∧
          Cell.ofType column.1 (.number (toString epoch.toInt)) = .ok (.timestamp t) := by
      simp only [List.mem_cons, List.not_mem_nil, or_false] at hcolumn
      rcases hcolumn with rfl | rfl
      · obtain ⟨t, ht, hnanos, hread⟩ := Timestamp.exists_of_epoch 1 rfl hepoch
        exact ⟨by decide, t, ht, hnanos, hread, Cell.timestamp_number hread⟩
      · obtain ⟨t, ht, hnanos, hread⟩ := Timestamp.exists_of_epoch 1000 rfl hepoch
        exact ⟨by decide, t, ht, hnanos, hread, Cell.timestamp_number hread⟩
    exact ⟨t, hread, Timestamp.isAtEpoch_of_ofTicks? hdvd hread, ht,
      fun wire hwire => Cell.decode_of_type hwire (by simp) hdecode,
      fun type htype => ht.returnsAs_self hnanos htype⟩

/-- The leap second before 1970, and the epoch of the millisecond before it. -/
theorem timestamps_return_leap_second :
    Timestamp.IsCommon ⟨-1, 1500000000⟩ ∧ ReturnsAs .timestampNs ⟨-1, 1500000000⟩ ⟨-1, 1500000000⟩ ∧
      ReturnsAs .date ⟨-1, 1500000000⟩ ⟨-1, 1500000000⟩ ∧
      Timestamp.IsCommonEpoch 1000 (Int64.toInt (-1)) ∧ ofWireName? "date" = some .date ∧
      Timestamp.IsCommon ⟨-1, 999000000⟩ ∧
      Cell.decode (.number (toString (Int64.toInt (-1)))) "date" =
        .ok (.timestamp ⟨-1, 999000000⟩) ∧
      ReturnsAs .date ⟨-1, 999000000⟩ ⟨-1, 999000000⟩ := by
  have hleap : Timestamp.IsCommon ⟨-1, 1500000000⟩ :=
    ⟨by decide, by decide, by decide, by decide⟩
  have hepoch : Timestamp.IsCommonEpoch 1000 (Int64.toInt (-1)) := ⟨by decide, by decide⟩
  have hwire : ofWireName? "date" = some .date := by decide
  obtain ⟨hnanos, hmicros⟩ := timestamps_return.1 ⟨-1, 1500000000⟩ hleap
  obtain ⟨t, hread, -, hcommon, hdecode, hreturns⟩ :=
    timestamps_return.2 (-1) (.date, 1000) (by decide) hepoch
  obtain rfl : ⟨-1, 999000000⟩ = t := Option.some.inj hread
  exact ⟨hleap, hnanos, hmicros .date (by decide), hepoch, hwire, hcommon, hdecode "date" hwire,
    hreturns .date (by decide)⟩

end SeriesSql
