import SdkCore.Protos
import Mathlib.Data.Rat.Floor

/-!
# `f64`, `std::time` and the `prost_types` conversions

The standard-library types the timeout and retry code computes with. An `f64` is NaN, an infinity
or a finite value; a finite value is kept exact, so the rounding of a literal or of a product to the
nearest double is not modelled. A `std::time::Duration` is a number of nanoseconds below
`u64::MAX + 1` seconds, carried as a field, so that no larger one can be built;
`try_from_secs_f64` rounds to the nearest nanosecond, ties to even, and fails on a negative value,
NaN, an infinity or `2^64` seconds and above. A `SystemTime` is a number of nanoseconds since the
epoch whose seconds fit an `i64`, as in a Unix `timespec`; adding a duration past that range is the
panic `"overflow when adding duration to instant"`. A panic is an `Except.error` carrying its
message.

The conversions between a `std::time::Duration` and a protobuf `Duration`, and from a `SystemTime`
to a `Timestamp`, come from `prost_types`, a crate outside this repository: the code that calls
them takes them as a parameter (`ProstTypes`), with what the crate documents of them as named
hypotheses (`ProstTypes.Lawful`): a `std` duration converts exactly when its seconds fit an `i64`,
back and forth gives it again, and a protobuf duration within its wire types' ranges converts to
one whose seconds fit an `i64`. The crate's own conversions (`ProstTypes.reference`) meet them:
`normalize` brings the nanoseconds into range with the sign of the seconds, saturating at the
`i64` bounds, and a duration converts to a `std` one when it is not negative after normalizing.
-/

namespace SdkCore

/-! ## `f64` -/

/-- An `f64` by its value; a finite value is exact (the sign of a zero is not kept). -/
inductive F64 where
  | nan
  | posInf
  | negInf
  | finite (q : ℚ)
  deriving DecidableEq

namespace F64

/-- The infinity of the given sign. -/
def inf (positive : Bool) : F64 :=
  if positive then posInf else negInf

/-- `>=`: false when either side is NaN. -/
def ge : F64 → F64 → Bool
  | nan, _ => false
  | _, nan => false
  | posInf, _ => true
  | negInf, negInf => true
  | negInf, _ => false
  | finite _, posInf => false
  | finite _, negInf => true
  | finite a, finite b => decide (b ≤ a)

/-- `*`, with IEEE's special cases: NaN spreads, and an infinity times zero is NaN. -/
def mul : F64 → F64 → F64
  | nan, _ => nan
  | _, nan => nan
  | finite a, finite b => finite (a * b)
  | finite a, posInf => if a = 0 then nan else inf (0 < a)
  | posInf, finite a => if a = 0 then nan else inf (0 < a)
  | finite a, negInf => if a = 0 then nan else inf (a < 0)
  | negInf, finite a => if a = 0 then nan else inf (a < 0)
  | posInf, posInf => posInf
  | negInf, negInf => posInf
  | posInf, negInf => negInf
  | negInf, posInf => negInf

/-- `/`, with IEEE's special cases: a nonzero value over zero is an infinity, zero over zero and
an infinity over an infinity are NaN. -/
def div : F64 → F64 → F64
  | nan, _ => nan
  | _, nan => nan
  | finite a, finite b =>
    if b = 0 then (if a = 0 then nan else inf (0 < a)) else finite (a / b)
  | finite _, _ => finite 0
  | posInf, finite b => inf (0 ≤ b)
  | negInf, finite b => inf (b < 0)
  | _, _ => nan

/-- `x` multiplied by itself `n` times, from one. -/
def powNat (x : F64) : Nat → F64
  | 0 => finite 1
  | n + 1 => mul (powNat x n) x

/-- `f64::powi`. -/
def powi (x : F64) (n : Int) : F64 :=
  if 0 ≤ n then powNat x n.toNat else div (finite 1) (powNat x n.natAbs)

end F64

/-- Rounding to the nearest integer, ties to even. -/
def roundHalfEven (q : ℚ) : ℤ :=
  let f := q.floor
  if q - f < 1 / 2 then f
  else if 1 / 2 < q - f then f + 1
  else if f % 2 = 0 then f else f + 1

/-! ## `std::time::Duration` -/

/-- One more than the nanoseconds of `Duration::MAX`, `u64::MAX` seconds and `999_999_999`
nanoseconds. -/
def durationBound : Nat := 2 ^ 64 * 10 ^ 9

/-- `std::time::Duration`, in nanoseconds. -/
@[ext] structure StdDuration where
  nanos : Nat
  lt_bound : nanos < durationBound
  deriving DecidableEq

/-- `TryFromFloatSecsError`, by its kind. -/
inductive TryFromFloatSecsError where
  | negative
  | overflowOrNan
  deriving DecidableEq, Repr

/-- The description a `TryFromFloatSecsError` displays, and `from_secs_f64` panics with. -/
def TryFromFloatSecsError.description : TryFromFloatSecsError → String
  | .negative => "cannot convert float seconds to Duration: value is negative"
  | .overflowOrNan => "cannot convert float seconds to Duration: value is either too big or NaN"

namespace StdDuration

/-- `Duration::as_secs`. -/
def asSecs (d : StdDuration) : Nat := d.nanos / 10 ^ 9

/-- `Duration::subsec_nanos`. -/
def subsecNanos (d : StdDuration) : Nat := d.nanos % 10 ^ 9

/-- `Duration::from_secs`. -/
def fromSecs (secs : Fin (2 ^ 64)) : StdDuration :=
  ⟨secs.val * 10 ^ 9, by unfold durationBound; have := secs.isLt; omega⟩

/-- `Duration::MAX`. -/
def max : StdDuration := ⟨durationBound - 1, by decide⟩

/-- `Ord::max`. -/
def maxOf (a b : StdDuration) : StdDuration := if a.nanos ≤ b.nanos then b else a

/-- `Ord::min`. -/
def minOf (a b : StdDuration) : StdDuration := if a.nanos ≤ b.nanos then a else b

/-- `Duration::checked_mul`. -/
def checkedMul (d : StdDuration) (k : Nat) : Option StdDuration :=
  if h : d.nanos * k < durationBound then some ⟨d.nanos * k, h⟩ else none

/-- `Duration::saturating_mul`. -/
def saturatingMul (d : StdDuration) (k : Nat) : StdDuration :=
  (d.checkedMul k).getD max

/-- `Duration::as_secs_f64`. -/
def asSecsF64 (d : StdDuration) : F64 :=
  .finite ((d.nanos : ℚ) / 10 ^ 9)

/-- `Duration::try_from_secs_f64`. -/
def tryFromSecsF64 : F64 → Except TryFromFloatSecsError StdDuration
  | .nan => .error .overflowOrNan
  | .posInf => .error .overflowOrNan
  | .negInf => .error .negative
  | .finite q =>
    if q < 0 then .error .negative
    else if 2 ^ 64 ≤ q then .error .overflowOrNan
    else
      let n := (roundHalfEven (q * 10 ^ 9)).toNat
      if h : n < durationBound then .ok ⟨n, h⟩ else .error .overflowOrNan

/-- `Duration::from_secs_f64`, which panics where `try_from_secs_f64` fails. -/
def fromSecsF64 (x : F64) : Except String StdDuration :=
  (tryFromSecsF64 x).mapError TryFromFloatSecsError.description

theorem minOf_le_right (a b : StdDuration) : (a.minOf b).nanos ≤ b.nanos := by
  unfold minOf
  split_ifs with h <;> omega

theorem le_maxOf_right (a b : StdDuration) : b.nanos ≤ (a.maxOf b).nanos := by
  unfold maxOf
  split_ifs with h <;> omega

theorem maxOf_eq_left {a b : StdDuration} (h : b.nanos ≤ a.nanos) : a.maxOf b = a := by
  unfold maxOf
  split_ifs with hab
  · exact StdDuration.ext (by omega)
  · rfl

theorem maxOf_cases (a b : StdDuration) : a.maxOf b = a ∨ a.maxOf b = b := by
  unfold maxOf
  split_ifs
  · exact .inr rfl
  · exact .inl rfl

theorem le_saturatingMul (d : StdDuration) {k : Nat} (hk : 1 ≤ k) :
    d.nanos ≤ (d.saturatingMul k).nanos := by
  unfold saturatingMul checkedMul
  split_ifs with h
  · exact Nat.le_mul_of_pos_right _ hk
  · have := d.lt_bound
    simp only [Option.getD_none, max]
    omega

end StdDuration

/-! ## `SystemTime` -/

/-- `i64::MIN`. -/
def i64Min : Int := -2 ^ 63

/-- `i64::MAX`. -/
def i64Max : Int := 2 ^ 63 - 1

/-- `SystemTime` on Unix: nanoseconds since the epoch, whose seconds fit an `i64`. -/
structure SystemTime where
  nanos : Int
  secs_ge : i64Min ≤ nanos / 10 ^ 9
  secs_le : nanos / 10 ^ 9 ≤ i64Max

namespace SystemTime

/-- `UNIX_EPOCH`. -/
def unixEpoch : SystemTime := ⟨0, by decide, by decide⟩

/-- `SystemTime::checked_add`: the seconds must stay within an `i64`. -/
def checkedAdd (t : SystemTime) (d : StdDuration) : Option SystemTime :=
  if h : (t.nanos + d.nanos) / 10 ^ 9 ≤ i64Max then
    some ⟨t.nanos + d.nanos,
      le_trans t.secs_ge (Int.ediv_le_ediv (by decide) (by omega)), h⟩
  else none

/-- `SystemTime + Duration`. -/
def add (t : SystemTime) (d : StdDuration) : Except String SystemTime :=
  match t.checkedAdd d with
  | some t => .ok t
  | none => .error "overflow when adding duration to instant"

/-- `From<SystemTime> for Timestamp` of `prost_types`: the seconds and nanoseconds since the
epoch, or before it, whose seconds `i64::try_from(..).unwrap()` must convert. -/
def toTimestamp (t : SystemTime) : Except String Timestamp :=
  if 0 ≤ t.nanos then .ok ⟨t.nanos / 10 ^ 9, t.nanos % 10 ^ 9⟩
  else
    let before := -t.nanos
    let seconds := before / 10 ^ 9
    let nanos := before % 10 ^ 9
    if i64Max < seconds then
      .error "called `Result::unwrap()` on an `Err` value: TryFromIntError(())"
    else if nanos = 0 then .ok ⟨-seconds, 0⟩
    else .ok ⟨-seconds - 1, 10 ^ 9 - nanos⟩

end SystemTime

/-! ## `prost_types::Duration` -/

/-- `i32::MIN`. -/
def i32Min : Int := -2 ^ 31

/-- `i32::MAX`. -/
def i32Max : Int := 2 ^ 31 - 1

/-- `NANOS_PER_SECOND`. -/
def nanosPerSecond : Int := 10 ^ 9

/-- `NANOS_MAX`. -/
def nanosMax : Int := 10 ^ 9 - 1

/-- `i64::checked_add`. -/
def checkedAddI64 (a b : Int) : Option Int :=
  if i64Min ≤ a + b ∧ a + b ≤ i64Max then some (a + b) else none

namespace Duration

/-- A protobuf `Duration` as its wire types allow: `i64` seconds and `i32` nanoseconds. -/
def InRange (d : Duration) : Prop :=
  i64Min ≤ d.seconds ∧ d.seconds ≤ i64Max ∧ i32Min ≤ d.nanos ∧ d.nanos ≤ i32Max

/-- `Duration::normalize` of `prost_types`; `/` and `%` truncate, as on `i32`. -/
def normalize (d : Duration) : Duration :=
  let d : Duration :=
    if d.nanos ≤ -nanosPerSecond ∨ nanosPerSecond ≤ d.nanos then
      match checkedAddI64 d.seconds (d.nanos.tdiv nanosPerSecond) with
      | some seconds => ⟨seconds, d.nanos.tmod nanosPerSecond⟩
      | none => if d.nanos < 0 then ⟨i64Min, -nanosMax⟩ else ⟨i64Max, nanosMax⟩
    else d
  if d.seconds < 0 ∧ 0 < d.nanos then
    match checkedAddI64 d.seconds 1 with
    | some seconds => ⟨seconds, d.nanos - nanosPerSecond⟩
    | none => ⟨d.seconds, nanosMax⟩
  else if 0 < d.seconds ∧ d.nanos < 0 then
    match checkedAddI64 d.seconds (-1) with
    | some seconds => ⟨seconds, d.nanos + nanosPerSecond⟩
    | none => ⟨d.seconds, -nanosMax⟩
  else d

/-- `DurationError`, the cases the conversions return. -/
inductive DurationError where
  | negativeDuration
  | outOfRange
  deriving DecidableEq, Repr

/-- `TryFrom<Duration> for std::time::Duration`: the normalized duration when it is not negative
(as documented; the error carries the negated duration, which is not kept). A seconds value above
`u64::MAX`, which an `i64` cannot hold, is out of range. -/
def tryToStd (d : Duration) : Except DurationError StdDuration :=
  let d := d.normalize
  if 0 ≤ d.seconds ∧ 0 ≤ d.nanos then
    if h : (d.seconds * 10 ^ 9 + d.nanos).toNat < durationBound then
      .ok ⟨(d.seconds * 10 ^ 9 + d.nanos).toNat, h⟩
    else .error .outOfRange
  else .error .negativeDuration

end Duration

/-- `TryFrom<std::time::Duration> for Duration`: the seconds must fit an `i64`. -/
def StdDuration.tryToProto (d : StdDuration) : Except Duration.DurationError Duration :=
  if (d.asSecs : Int) ≤ i64Max then .ok (Duration.normalize ⟨d.asSecs, d.subsecNanos⟩)
  else .error .outOfRange

/-! ## Conversions back and forth -/

namespace StdDuration

/-- A duration whose seconds fit an `i64` converts to a protobuf one. -/
def ProtoConvertible (d : StdDuration) : Prop :=
  (d.asSecs : Int) ≤ i64Max

theorem normalize_of_normal {seconds nanos : Int} (hs : 0 ≤ seconds) (hn : 0 ≤ nanos)
    (hn' : nanos < nanosPerSecond) : Duration.normalize ⟨seconds, nanos⟩ = ⟨seconds, nanos⟩ := by
  unfold Duration.normalize
  have h1 : ¬ (nanos ≤ -nanosPerSecond ∨ nanosPerSecond ≤ nanos) := by
    unfold nanosPerSecond at *
    omega
  simp only [h1, if_false]
  have h2 : ¬ (seconds < 0 ∧ 0 < nanos) := by omega
  have h3 : ¬ (0 < seconds ∧ nanos < 0) := by omega
  simp only [h2, h3, if_false]

theorem tryToProto_eq_ok {d : StdDuration} (h : d.ProtoConvertible) :
    d.tryToProto = .ok ⟨d.asSecs, d.subsecNanos⟩ := by
  have hsub : (d.subsecNanos : Int) < nanosPerSecond := by
    unfold subsecNanos nanosPerSecond
    omega
  unfold tryToProto
  rw [if_pos (show (d.asSecs : Int) ≤ i64Max from h), normalize_of_normal (by omega) (by omega) hsub]

/-- The protobuf duration of a `std` one, its seconds and nanoseconds, converts back to it. -/
theorem tryToStd_mk_asSecs (d : StdDuration) :
    (Duration.mk d.asSecs d.subsecNanos).tryToStd = .ok d := by
  have hsub : (d.subsecNanos : Int) < nanosPerSecond := by
    unfold subsecNanos nanosPerSecond
    omega
  have hsum : ((d.asSecs : Int) * 10 ^ 9 + (d.subsecNanos : Int)).toNat = d.nanos := by
    unfold asSecs subsecNanos
    omega
  have hlt : ((d.asSecs : Int) * 10 ^ 9 + (d.subsecNanos : Int)).toNat < durationBound :=
    hsum ▸ d.lt_bound
  unfold Duration.tryToStd
  rw [normalize_of_normal (by omega) (by omega) hsub,
    if_pos ⟨by dsimp only; omega, by dsimp only; omega⟩, dif_pos hlt]
  exact congrArg Except.ok (StdDuration.ext hsum)

end StdDuration

/-! ## What converts from a protobuf duration converts back -/

theorem checkedAddI64_eq_some {a b c : Int} (h : checkedAddI64 a b = some c) :
    c = a + b ∧ i64Min ≤ c ∧ c ≤ i64Max := by
  unfold checkedAddI64 at h
  split_ifs at h with hr
  cases h
  exact ⟨rfl, hr⟩

namespace Duration

instance (d : Duration) : Decidable d.InRange :=
  inferInstanceAs (Decidable (i64Min ≤ d.seconds ∧ d.seconds ≤ i64Max ∧
    i32Min ≤ d.nanos ∧ d.nanos ≤ i32Max))

/-- Seconds within an `i64` and less than a second of nanoseconds either way. -/
def Bounded (d : Duration) : Prop :=
  i64Min ≤ d.seconds ∧ d.seconds ≤ i64Max ∧ -nanosPerSecond < d.nanos ∧ d.nanos < nanosPerSecond

instance (d : Duration) : Decidable d.Bounded :=
  inferInstanceAs (Decidable (i64Min ≤ d.seconds ∧ d.seconds ≤ i64Max ∧
    -nanosPerSecond < d.nanos ∧ d.nanos < nanosPerSecond))

theorem normalize_bounded {d : Duration} (h : d.InRange) : d.normalize.Bounded := by
  obtain ⟨hs1, hs2, -, -⟩ := h
  unfold normalize
  extract_lets d1
  -- the carry brings the nanoseconds under a second, saturating the seconds at the `i64` bounds
  have h1 : d1.Bounded := by
    simp only [d1]
    by_cases hc : d.nanos ≤ -nanosPerSecond ∨ nanosPerSecond ≤ d.nanos
    · rw [if_pos hc]
      cases hadd : checkedAddI64 d.seconds (d.nanos.tdiv nanosPerSecond) with
      | some seconds =>
        obtain ⟨-, hlo, hhi⟩ := checkedAddI64_eq_some hadd
        exact ⟨hlo, hhi, Int.lt_tmod_of_pos _ (by decide), Int.tmod_lt_of_pos _ (by decide)⟩
      | none =>
        dsimp only
        split_ifs <;> decide
    · rw [if_neg hc]
      unfold Bounded nanosPerSecond at *
      exact ⟨hs1, hs2, by omega, by omega⟩
  clear_value d1
  obtain ⟨s1, s2, n1, n2⟩ := h1
  unfold nanosPerSecond at n1 n2
  -- the sign fix moves a second between the fields, or saturates the nanoseconds
  split_ifs with hneg hpos
  · cases hadd : checkedAddI64 d1.seconds 1 with
    | some seconds =>
      obtain ⟨-, hlo, hhi⟩ := checkedAddI64_eq_some hadd
      unfold Bounded nanosPerSecond
      dsimp only
      exact ⟨hlo, hhi, by omega, by omega⟩
    | none =>
      unfold Bounded nanosPerSecond nanosMax
      dsimp only
      exact ⟨s1, s2, by omega, by omega⟩
  · cases hadd : checkedAddI64 d1.seconds (-1) with
    | some seconds =>
      obtain ⟨-, hlo, hhi⟩ := checkedAddI64_eq_some hadd
      unfold Bounded nanosPerSecond
      dsimp only
      exact ⟨hlo, hhi, by omega, by omega⟩
    | none =>
      unfold Bounded nanosPerSecond nanosMax
      dsimp only
      exact ⟨s1, s2, by omega, by omega⟩
  · exact ⟨s1, s2, n1, n2⟩

end Duration

namespace StdDuration

instance (d : StdDuration) : Decidable d.ProtoConvertible :=
  inferInstanceAs (Decidable ((d.asSecs : Int) ≤ i64Max))

theorem protoConvertible_of_isOk {d : StdDuration} (h : d.tryToProto.isOk = true) :
    d.ProtoConvertible := by
  unfold tryToProto at h
  split_ifs at h with hc
  · exact hc
  · cases h

theorem protoConvertible_of_tryToStd {d : Duration} {s : StdDuration} (h : d.InRange)
    (hs : d.tryToStd = .ok s) : s.ProtoConvertible := by
  obtain ⟨-, hsec, -, hnan⟩ := Duration.normalize_bounded h
  unfold Duration.tryToStd at hs
  dsimp only at hs
  split_ifs at hs with hnn hlt
  cases hs
  unfold ProtoConvertible asSecs
  unfold nanosPerSecond at hnan
  dsimp only
  omega

end StdDuration

/-! ## The conversions as a parameter -/

/-- The conversions of `prost_types` (`prost-wkt-types`) the code calls:
`TryFrom<Duration> for std::time::Duration`, `TryFrom<std::time::Duration> for Duration`, and
`From<SystemTime> for Timestamp`, whose error is a panic. -/
structure ProstTypes where
  durationToStd : Duration → Except Duration.DurationError StdDuration
  durationFromStd : StdDuration → Except Duration.DurationError Duration
  timestampFromSystemTime : SystemTime → Except String Timestamp

/-- What the crate documents of the two duration conversions, as far as the proofs use it: a `std`
duration converts exactly when its seconds fit an `i64`, to its seconds and nanoseconds, which
convert back to it; and a protobuf duration within its wire types' ranges converts to one whose
seconds fit an `i64`. -/
structure ProstTypes.Lawful (prost : ProstTypes) : Prop where
  durationFromStd_eq_ok : ∀ d : StdDuration, d.ProtoConvertible →
    prost.durationFromStd d = .ok ⟨d.asSecs, d.subsecNanos⟩
  protoConvertible_of_durationFromStd : ∀ d : StdDuration,
    (prost.durationFromStd d).isOk = true → d.ProtoConvertible
  durationToStd_mk : ∀ d : StdDuration, prost.durationToStd ⟨d.asSecs, d.subsecNanos⟩ = .ok d
  protoConvertible_of_durationToStd : ∀ (d : Duration) (s : StdDuration), d.InRange →
    prost.durationToStd d = .ok s → s.ProtoConvertible

/-- The crate's own conversions, as modelled above. -/
def ProstTypes.reference : ProstTypes :=
  ⟨Duration.tryToStd, StdDuration.tryToProto, SystemTime.toTimestamp⟩

theorem ProstTypes.reference_lawful : ProstTypes.reference.Lawful :=
  ⟨fun _ => StdDuration.tryToProto_eq_ok, fun _ => StdDuration.protoConvertible_of_isOk,
    StdDuration.tryToStd_mk_asSecs, fun _ _ => StdDuration.protoConvertible_of_tryToStd⟩

end SdkCore
