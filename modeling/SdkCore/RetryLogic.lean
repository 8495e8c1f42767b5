import SdkCore.Time

/-!
# Validated retry policies

`crates/sdk-core/src/retry_logic.rs`. `ValidatedRetryPolicy::from_proto_with_defaults` replaces
every invalid field of a `RetryPolicy` by a default: a missing or negative initial interval by one
second, a coefficient below one (or NaN) by two, a missing or negative maximum interval by a
hundred initial intervals, or by one where that many do not convert back to a protobuf duration,
and a negative maximum of attempts by none. `From<ValidatedRetryPolicy> for RetryPolicy` unwraps the
conversions back, relying on those defaults. The duration conversions are those of `prost_types`,
a parameter (`ProstTypes`) of which the results assume only what the crate documents.

For every policy whose fields have the ranges of their wire types the validated policy keeps its
invariants (`ValidatedRetryPolicy.Valid`), the export does not panic and validating it again gives
the same policy; and `should_retry` without an explicit delay stops exactly at the maximum of
attempts, on a non-retryable failure or on a non-retryable type, and waits at most the maximum
interval otherwise (`fromProtoWithDefaults_idempotent`).
-/

namespace SdkCore

/-- `temporal.api.common.v1.RetryPolicy`. -/
structure RetryPolicy where
  initialInterval : Option Duration
  backoffCoefficient : F64
  maximumInterval : Option Duration
  maximumAttempts : Int
  nonRetryableErrorTypes : List String
  deriving DecidableEq

/-- prost's `Default`. -/
instance : Inhabited RetryPolicy := ⟨⟨none, .finite 0, none, 0, []⟩⟩

/-- `temporal.api.failure.v1.ApplicationFailureInfo`, the fields `should_retry` reads. -/
structure ApplicationFailureInfo where
  type : String
  nonRetryable : Bool
  nextRetryDelay : Option Duration
  deriving DecidableEq

/-- `NonZero<u32>`. -/
structure NonZeroU32 where
  get : Nat
  pos : 0 < get
  lt : get < 2 ^ 32

/-- `TryInto<u32> for i32`. -/
def tryIntoU32 (x : Int) : Option Nat :=
  if 0 ≤ x then some x.toNat else none

/-- `TryFrom<u32> for i32`. -/
def tryIntoI32 (n : Nat) : Except Unit Int :=
  if (n : Int) ≤ i32Max then .ok n else .error ()

/-- `Result::unwrap`, whose panic shows the error by `Debug`. -/
def resultUnwrap {ε α : Type} (debug : ε → String) : Except ε α → Except String α
  | .ok a => .ok a
  | .error e => .error ("called `Result::unwrap()` on an `Err` value: " ++ debug e)

/-- The `Debug` name of a `DurationError` (the negated duration a negative one carries is not
kept). -/
def Duration.DurationError.debugName : Duration.DurationError → String
  | .negativeDuration => "NegativeDuration"
  | .outOfRange => "OutOfRange"

/-- `ValidatedRetryPolicy`. -/
structure ValidatedRetryPolicy where
  initialInterval : StdDuration
  backoffCoefficient : F64
  maximumInterval : StdDuration
  maximumAttempts : Nat
  nonRetryableErrorTypes : List String

namespace ValidatedRetryPolicy

/-- The `maximum_interval` of `from_proto_with_defaults`, from the validated initial interval. -/
def maximumIntervalWithDefault (prost : ProstTypes) (maximumInterval : Option Duration)
    (initialInterval : StdDuration) : StdDuration :=
  match maximumInterval.bind fun i => (prost.durationToStd i).toOption with
  | some maximumInterval => maximumInterval.maxOf initialInterval
  | none =>
    let maximumInterval := initialInterval.saturatingMul 100
    -- serialization to proto fails for extremely large durations
    if (prost.durationFromStd maximumInterval).isOk then maximumInterval else initialInterval

/-- `ValidatedRetryPolicy::from_proto_with_defaults`. -/
def fromProtoWithDefaults (prost : ProstTypes) (retryPolicy : RetryPolicy) :
    ValidatedRetryPolicy :=
  let initialInterval := (retryPolicy.initialInterval.bind fun i => (prost.durationToStd i).toOption).getD
    (StdDuration.fromSecs 1)
  let backoffCoefficient :=
    if retryPolicy.backoffCoefficient.ge (.finite 1) then retryPolicy.backoffCoefficient
    else .finite 2
  { initialInterval, backoffCoefficient,
    maximumInterval := maximumIntervalWithDefault prost retryPolicy.maximumInterval initialInterval,
    maximumAttempts := (tryIntoU32 retryPolicy.maximumAttempts).getD 0,
    nonRetryableErrorTypes := retryPolicy.nonRetryableErrorTypes }

/-- `Default for ValidatedRetryPolicy`. -/
def default (prost : ProstTypes) : ValidatedRetryPolicy :=
  fromProtoWithDefaults prost (Inhabited.default : RetryPolicy)

example : (default .reference).maximumInterval = StdDuration.fromSecs 100 := by
  decide

/-- The delay of `should_retry` after the first attempt: the initial interval times the backoff
coefficient to the attempt's number less one, at most the maximum interval, which is also the delay
when the attempt does not fit an `i32` or the product does not convert. -/
def backoffDelay (self : ValidatedRetryPolicy) (attempt : Nat) : StdDuration :=
  (((tryIntoI32 attempt).toOption.bind fun attempt =>
      let factor := self.backoffCoefficient.powi (attempt - 1)
      (StdDuration.tryFromSecsF64 (factor.mul self.initialInterval.asSecsF64)).toOption).map
    fun interval => interval.minOf self.maximumInterval).getD self.maximumInterval

/-- `ValidatedRetryPolicy::should_retry`; `toLowercase` is `str::to_lowercase`. The error logged
when an explicit delay does not convert is not modelled. -/
def shouldRetry (prost : ProstTypes) (toLowercase : String → String) (self : ValidatedRetryPolicy)
    (attemptNumber : NonZeroU32) (applicationFailure : Option ApplicationFailureInfo) :
    Option StdDuration :=
  if 0 < self.maximumAttempts ∧ self.maximumAttempts ≤ attemptNumber.get then none
  else if (applicationFailure.map ApplicationFailureInfo.nonRetryable).getD false then none
  else
    let errTypeStr := (applicationFailure.map ApplicationFailureInfo.type).getD ""
    if self.nonRetryableErrorTypes.any fun pat => toLowercase errTypeStr == toLowercase pat then
      none
    else
      match (applicationFailure.bind ApplicationFailureInfo.nextRetryDelay).map
          prost.durationToStd with
      | some (.ok delay) => some delay
      | _ =>
        if attemptNumber.get = 1 then some self.initialInterval
        else some (self.backoffDelay attemptNumber.get)

end ValidatedRetryPolicy

/-- `From<ValidatedRetryPolicy> for RetryPolicy`, whose three unwraps panic on an error. -/
def RetryPolicy.fromValidated (prost : ProstTypes) (value : ValidatedRetryPolicy) :
    Except String RetryPolicy := do
  let initialInterval ←
    resultUnwrap Duration.DurationError.debugName (prost.durationFromStd value.initialInterval)
  let maximumInterval ←
    resultUnwrap Duration.DurationError.debugName (prost.durationFromStd value.maximumInterval)
  let maximumAttempts ←
    resultUnwrap (fun () => "TryFromIntError(())") (tryIntoI32 value.maximumAttempts)
  pure { initialInterval := some initialInterval,
         backoffCoefficient := value.backoffCoefficient,
         maximumInterval := some maximumInterval,
         maximumAttempts,
         nonRetryableErrorTypes := value.nonRetryableErrorTypes }

/-! ## Ranges and invariants -/

namespace RetryPolicy

/-- The fields of a policy have the ranges of their wire types: `i64` seconds and `i32` nanoseconds
in each duration, and an `i32` maximum of attempts. -/
def InRange (rp : RetryPolicy) : Prop :=
  (∀ d ∈ rp.initialInterval, d.InRange) ∧ (∀ d ∈ rp.maximumInterval, d.InRange) ∧
    i32Min ≤ rp.maximumAttempts ∧ rp.maximumAttempts ≤ i32Max

instance (rp : RetryPolicy) : Decidable rp.InRange :=
  inferInstanceAs (Decidable ((∀ d ∈ rp.initialInterval, d.InRange) ∧
    (∀ d ∈ rp.maximumInterval, d.InRange) ∧
    i32Min ≤ rp.maximumAttempts ∧ rp.maximumAttempts ≤ i32Max))

end RetryPolicy

namespace ValidatedRetryPolicy

/-- The invariants a validated policy upholds, and the bounds that make its export safe. -/
structure Valid (v : ValidatedRetryPolicy) : Prop where
  initial_le_maximum : v.initialInterval.nanos ≤ v.maximumInterval.nanos
  backoffCoefficient_ge_one : v.backoffCoefficient.ge (.finite 1) = true
  initial_protoConvertible : v.initialInterval.ProtoConvertible
  maximum_protoConvertible : v.maximumInterval.ProtoConvertible
  maximumAttempts_le : (v.maximumAttempts : Int) ≤ i32Max

/-! ## Validation -/

section Validation

variable {prost : ProstTypes}

theorem bind_durationToStd_eq_some {o : Option Duration} {s : StdDuration}
    (h : (o.bind fun i => (prost.durationToStd i).toOption) = some s) :
    ∃ i ∈ o, prost.durationToStd i = .ok s := by
  cases o with
  | none => cases h
  | some i =>
    refine ⟨i, rfl, ?_⟩
    cases hi : prost.durationToStd i with
    | error e => simp [hi, Except.toOption] at h
    | ok t => simpa [hi, Except.toOption] using h

theorem backoffCoefficient_ge_one (rp : RetryPolicy) :
    (fromProtoWithDefaults prost rp).backoffCoefficient.ge (.finite 1) = true := by
  show (if rp.backoffCoefficient.ge (.finite 1) then rp.backoffCoefficient else .finite 2).ge _ = _
  split_ifs with h
  · exact h
  · decide

theorem tryIntoU32_getD_le {x : Int} (h : x ≤ i32Max) : (((tryIntoU32 x).getD 0 : Nat) : Int) ≤ i32Max := by
  unfold tryIntoU32
  split_ifs with hx
  · simp only [Option.getD_some]
    omega
  · simp [i32Max]

variable (hprost : prost.Lawful)
include hprost

theorem bind_durationToStd_mk (d : StdDuration) :
    ((some (Duration.mk d.asSecs d.subsecNanos)).bind fun i => (prost.durationToStd i).toOption) =
      some d := by
  simp [hprost.durationToStd_mk, Except.toOption]

theorem protoConvertible_of_bind_durationToStd {o : Option Duration} (ho : ∀ d ∈ o, d.InRange)
    {s : StdDuration} (h : (o.bind fun i => (prost.durationToStd i).toOption) = some s) :
    s.ProtoConvertible := by
  obtain ⟨i, hi, hs⟩ := bind_durationToStd_eq_some h
  exact hprost.protoConvertible_of_durationToStd i s (ho i hi) hs

theorem maximumIntervalWithDefault_spec {mi : Option Duration} {I : StdDuration}
    (hm : ∀ d ∈ mi, d.InRange) (hI : I.ProtoConvertible) :
    I.nanos ≤ (maximumIntervalWithDefault prost mi I).nanos ∧
      (maximumIntervalWithDefault prost mi I).ProtoConvertible := by
  unfold maximumIntervalWithDefault
  cases hc : mi.bind fun i => (prost.durationToStd i).toOption with
  | some m =>
    dsimp only
    refine ⟨StdDuration.le_maxOf_right m I, ?_⟩
    rcases StdDuration.maxOf_cases m I with h | h <;> rw [h]
    · exact protoConvertible_of_bind_durationToStd hprost hm hc
    · exact hI
  | none =>
    dsimp only
    split_ifs with hok
    · exact ⟨StdDuration.le_saturatingMul I (by norm_num),
        hprost.protoConvertible_of_durationFromStd _ hok⟩
    · exact ⟨le_refl _, hI⟩

theorem maximumIntervalWithDefault_mk {m I : StdDuration} (h : I.nanos ≤ m.nanos) :
    maximumIntervalWithDefault prost (some ⟨m.asSecs, m.subsecNanos⟩) I = m := by
  unfold maximumIntervalWithDefault
  rw [bind_durationToStd_mk hprost]
  exact StdDuration.maxOf_eq_left h

theorem initialInterval_protoConvertible {rp : RetryPolicy}
    (h : ∀ d ∈ rp.initialInterval, d.InRange) :
    (fromProtoWithDefaults prost rp).initialInterval.ProtoConvertible := by
  show ((rp.initialInterval.bind fun i => (prost.durationToStd i).toOption).getD
    (StdDuration.fromSecs 1)).ProtoConvertible
  cases hc : rp.initialInterval.bind fun i => (prost.durationToStd i).toOption with
  | none => decide
  | some s => exact protoConvertible_of_bind_durationToStd hprost h hc

theorem fromProtoWithDefaults_valid {rp : RetryPolicy} (h : rp.InRange) :
    (fromProtoWithDefaults prost rp).Valid := by
  obtain ⟨hi, hm, -, hhi⟩ := h
  have hinit := initialInterval_protoConvertible hprost hi
  obtain ⟨hle, hmax⟩ := maximumIntervalWithDefault_spec hprost hm hinit
  exact ⟨hle, backoffCoefficient_ge_one rp, hinit, hmax, tryIntoU32_getD_le hhi⟩

end Validation

/-! ## The export -/

theorem tryIntoI32_of_le {n : Nat} (h : (n : Int) ≤ i32Max) : tryIntoI32 n = .ok n := by
  unfold tryIntoI32
  rw [if_pos h]

theorem tryIntoU32_natCast (n : Nat) : tryIntoU32 n = some n := by
  unfold tryIntoU32
  rw [if_pos (Int.natCast_nonneg n), Int.toNat_natCast]

section Export

variable {prost : ProstTypes} (hprost : prost.Lawful)
include hprost

/-- The protobuf policy a valid policy exports. -/
theorem fromValidated_eq_ok {v : ValidatedRetryPolicy} (hv : v.Valid) :
    RetryPolicy.fromValidated prost v =
      .ok ⟨some ⟨v.initialInterval.asSecs, v.initialInterval.subsecNanos⟩,
        v.backoffCoefficient, some ⟨v.maximumInterval.asSecs, v.maximumInterval.subsecNanos⟩,
        v.maximumAttempts, v.nonRetryableErrorTypes⟩ := by
  simp only [RetryPolicy.fromValidated, hprost.durationFromStd_eq_ok _ hv.initial_protoConvertible,
    hprost.durationFromStd_eq_ok _ hv.maximum_protoConvertible,
    tryIntoI32_of_le hv.maximumAttempts_le, resultUnwrap]
  rfl

/-- Validating the export of a valid policy gives the policy back. -/
theorem fromProtoWithDefaults_export {v : ValidatedRetryPolicy} (hv : v.Valid) :
    fromProtoWithDefaults prost ⟨some ⟨v.initialInterval.asSecs, v.initialInterval.subsecNanos⟩,
      v.backoffCoefficient, some ⟨v.maximumInterval.asSecs, v.maximumInterval.subsecNanos⟩,
      v.maximumAttempts, v.nonRetryableErrorTypes⟩ = v := by
  unfold fromProtoWithDefaults
  dsimp only
  rw [bind_durationToStd_mk hprost, Option.getD_some, if_pos hv.backoffCoefficient_ge_one,
    maximumIntervalWithDefault_mk hprost hv.initial_le_maximum, tryIntoU32_natCast,
    Option.getD_some]

end Export

/-! ## `should_retry` -/

section ShouldRetry

variable (prost : ProstTypes) (toLowercase : String → String) (v : ValidatedRetryPolicy)
  (n : NonZeroU32)

theorem backoffDelay_le (attempt : Nat) :
    (v.backoffDelay attempt).nanos ≤ v.maximumInterval.nanos := by
  unfold backoffDelay
  cases h : (tryIntoI32 attempt).toOption.bind fun attempt =>
      (StdDuration.tryFromSecsF64 ((v.backoffCoefficient.powi (attempt - 1)).mul
        v.initialInterval.asSecsF64)).toOption with
  | none => exact le_refl _
  | some interval => exact StdDuration.minOf_le_right interval v.maximumInterval

/-- Without an explicit delay, `should_retry` stops on its three conditions and otherwise waits the
initial interval after the first attempt and the backoff delay after a later one. -/
theorem shouldRetry_of_nextRetryDelay_none {af : ApplicationFailureInfo}
    (hd : af.nextRetryDelay = none) :
    v.shouldRetry prost toLowercase n (some af) =
      if (0 < v.maximumAttempts ∧ v.maximumAttempts ≤ n.get) ∨ af.nonRetryable = true ∨
          ∃ pat ∈ v.nonRetryableErrorTypes, toLowercase af.type = toLowercase pat then none
      else some (if n.get = 1 then v.initialInterval else v.backoffDelay n.get) := by
  have hany : (v.nonRetryableErrorTypes.any fun pat => toLowercase af.type == toLowercase pat) =
      true ↔ ∃ pat ∈ v.nonRetryableErrorTypes, toLowercase af.type = toLowercase pat := by
    simp only [List.any_eq_true, beq_iff_eq]
  unfold shouldRetry
  simp only [Option.map_some, Option.getD_some, Option.bind_some, hd, Option.map_none]
  by_cases h1 : 0 < v.maximumAttempts ∧ v.maximumAttempts ≤ n.get
  · rw [if_pos h1, if_pos (.inl h1)]
  rw [if_neg h1]
  by_cases h2 : af.nonRetryable = true
  · rw [if_pos h2, if_pos (.inr (.inl h2))]
  rw [if_neg h2]
  by_cases h3 : ∃ pat ∈ v.nonRetryableErrorTypes, toLowercase af.type = toLowercase pat
  · rw [if_pos (hany.mpr h3), if_pos (.inr (.inr h3))]
  -- none of the three holds, and there is no explicit delay to convert
  rw [if_neg (mt hany.mp h3), if_neg (not_or.mpr ⟨h1, not_or.mpr ⟨h2, h3⟩⟩)]
  split_ifs <;> rfl

theorem shouldRetry_eq_none_iff {af : ApplicationFailureInfo} (hd : af.nextRetryDelay = none) :
    v.shouldRetry prost toLowercase n (some af) = none ↔
      (0 < v.maximumAttempts ∧ v.maximumAttempts ≤ n.get) ∨ af.nonRetryable = true ∨
        ∃ pat ∈ v.nonRetryableErrorTypes, toLowercase af.type = toLowercase pat := by
  rw [shouldRetry_of_nextRetryDelay_none prost toLowercase v n hd]
  split_ifs with h <;> simp [h]

theorem shouldRetry_le_maximumInterval (hle : v.initialInterval.nanos ≤ v.maximumInterval.nanos)
    {af : ApplicationFailureInfo} (hd : af.nextRetryDelay = none) {d : StdDuration}
    (h : v.shouldRetry prost toLowercase n (some af) = some d) : d.nanos ≤ v.maximumInterval.nanos := by
  rw [shouldRetry_of_nextRetryDelay_none prost toLowercase v n hd] at h
  split_ifs at h with hstop hfirst
  · cases h
    exact hle
  · cases h
    exact backoffDelay_le v _

end ShouldRetry

/-- Validating a policy whose fields have their wire types' ranges gives a valid policy, whose
export does not panic and validates to the same policy; without an explicit delay, it stops
retrying exactly at the maximum of attempts, on a non-retryable failure or type, and otherwise waits
at most the maximum interval. -/
theorem fromProtoWithDefaults_idempotent (prost : ProstTypes) (hprost : prost.Lawful)
    (toLowercase : String → String) (rp : RetryPolicy) (h : rp.InRange) :
    (fromProtoWithDefaults prost rp).Valid ∧
      (∃ rp', RetryPolicy.fromValidated prost (fromProtoWithDefaults prost rp) = .ok rp' ∧
        fromProtoWithDefaults prost rp' = fromProtoWithDefaults prost rp) ∧
      ∀ (n : NonZeroU32) (af : ApplicationFailureInfo), af.nextRetryDelay = none →
        ((fromProtoWithDefaults prost rp).shouldRetry prost toLowercase n (some af) = none ↔
          (0 < (fromProtoWithDefaults prost rp).maximumAttempts ∧
              (fromProtoWithDefaults prost rp).maximumAttempts ≤ n.get) ∨
            af.nonRetryable = true ∨
            ∃ pat ∈ rp.nonRetryableErrorTypes, toLowercase af.type = toLowercase pat) ∧
        ∀ d, (fromProtoWithDefaults prost rp).shouldRetry prost toLowercase n (some af) = some d →
          d.nanos ≤ (fromProtoWithDefaults prost rp).maximumInterval.nanos := by
  have hv := fromProtoWithDefaults_valid hprost h
  refine ⟨hv, ⟨_, fromValidated_eq_ok hprost hv, fromProtoWithDefaults_export hprost hv⟩,
    fun n af hd => ?_⟩
  exact ⟨shouldRetry_eq_none_iff prost toLowercase _ n hd,
    fun d => shouldRetry_le_maximumInterval prost toLowercase _ n hv.initial_le_maximum hd⟩

/-- A policy with a negative initial interval, a NaN backoff coefficient and a negative maximum
of attempts, each of which `from_proto_with_defaults` replaces. -/
def negativeRetryPolicy : RetryPolicy :=
  ⟨some ⟨-5, 0⟩, .nan, some ⟨-1, -500⟩, -3, ["NotFound"]⟩

theorem fromProtoWithDefaults_idempotent_negative :
    ProstTypes.reference.Lawful ∧ negativeRetryPolicy.InRange ∧
      (fromProtoWithDefaults .reference negativeRetryPolicy).Valid ∧
      (∃ rp', RetryPolicy.fromValidated .reference
          (fromProtoWithDefaults .reference negativeRetryPolicy) = .ok rp' ∧
        fromProtoWithDefaults .reference rp' = fromProtoWithDefaults .reference negativeRetryPolicy) ∧
      ∀ (n : NonZeroU32) (af : ApplicationFailureInfo), af.nextRetryDelay = none →
        ((fromProtoWithDefaults .reference negativeRetryPolicy).shouldRetry .reference String.toLower
            n (some af) = none ↔
          (0 < (fromProtoWithDefaults .reference negativeRetryPolicy).maximumAttempts ∧
              (fromProtoWithDefaults .reference negativeRetryPolicy).maximumAttempts ≤ n.get) ∨
            af.nonRetryable = true ∨
            ∃ pat ∈ negativeRetryPolicy.nonRetryableErrorTypes,
              String.toLower af.type = String.toLower pat) ∧
        ∀ d, (fromProtoWithDefaults .reference negativeRetryPolicy).shouldRetry .reference
            String.toLower n (some af) = some d →
          d.nanos ≤ (fromProtoWithDefaults .reference negativeRetryPolicy).maximumInterval.nanos :=
  ⟨ProstTypes.reference_lawful, by decide,
    fromProtoWithDefaults_idempotent .reference ProstTypes.reference_lawful String.toLower
      negativeRetryPolicy (by decide)⟩

end ValidatedRetryPolicy

end SdkCore

