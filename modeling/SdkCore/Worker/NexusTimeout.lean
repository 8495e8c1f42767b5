import SdkCore.Time

/-!
# The request-timeout header of a Nexus task

`NexusTaskStream::into_stream` (`crates/sdk-core/src/worker/nexus.rs`) reads the
`request-timeout` header of each polled Nexus task. When `parse_request_timeout` reads it as a
duration, the task gets a local timeout of that duration and a request deadline of `now` plus it;
when it does not, the stream warns and delivers the task without one.

The header comes from the remote caller, and two steps of its handling panic. The `m` and `s`
branches of `parse_request_timeout` convert with `Duration::from_secs_f64`, which panics on
`2^64` seconds and above, where only the `ms` branch uses the checked `try_from_secs_f64`; and the
deadline `SystemTime::now() + timeout_dur` panics once its seconds leave an `i64`
(`localTimeout_panics`).
-/

namespace SdkCore.Nexus

/-- `char::is_whitespace`: the characters of Unicode's `White_Space` property. -/
def isWhitespace (c : Char) : Bool :=
  let n := c.toNat
  (9 ≤ n && n ≤ 13) || n == 32 || n == 0x85 || n == 0xA0 || n == 0x1680 ||
    (0x2000 ≤ n && n ≤ 0x200A) || n == 0x2028 || n == 0x2029 || n == 0x202F || n == 0x205F ||
    n == 0x3000

/-- `str::trim`. -/
def trim (s : List Char) : List Char :=
  ((s.dropWhile isWhitespace).reverse.dropWhile isWhitespace).reverse

/-- The value of a string of ASCII digits. -/
def digitsValue (ds : List Char) : Nat :=
  ds.foldl (fun n c => 10 * n + (c.toNat - '0'.toNat)) 0

/-- `str::parse::<f64>` on a string of ASCII digits and dots, the only strings
`parse_request_timeout` parses: a decimal literal with a digit and at most one dot, its value
kept exact. -/
def parseDecimalF64 (s : List Char) : Except String F64 :=
  if s.isEmpty then .error "cannot parse float from empty string"
  else
    let whole := s.takeWhile (· != '.')
    let frac := (s.dropWhile (· != '.')).drop 1
    if frac.contains '.' || (whole.isEmpty && frac.isEmpty) then .error "invalid float literal"
    else .ok (.finite ((digitsValue whole : ℚ) + (digitsValue frac : ℚ) / 10 ^ frac.length))

/-- `parse_request_timeout`: the inner result is the function's own, the outer error a panic. -/
def parseRequestTimeout (timeout : String) : Except String (Except String StdDuration) :=
  let timeout := trim timeout.toList
  let i := timeout.findIdx fun c => !c.isDigit && c != '.'
  let value := timeout.take i
  match String.ofList (timeout.drop i) with
  | "m" =>
    match parseDecimalF64 value with
    | .error e => .ok (.error e)
    | .ok v => (StdDuration.fromSecsF64 (.mul (.finite 60) v)).map .ok
  | "s" =>
    match parseDecimalF64 value with
    | .error e => .ok (.error e)
    | .ok v => (StdDuration.fromSecsF64 v).map .ok
  | "ms" =>
    match parseDecimalF64 value with
    | .error e => .ok (.error e)
    | .ok v =>
      .ok ((StdDuration.tryFromSecsF64 (.div v (.finite 1000))).mapError
        TryFromFloatSecsError.description)
  | _ => .ok (.error "Invalid timeout format")

/-- The request-timeout handling of `into_stream` for one polled task, given the header's value
and `SystemTime::now()`: the local timeout and the request deadline, or none when the header is
missing or does not parse; an error is a panic. The deadline becomes a `Timestamp` by
`prost_types`. -/
def localTimeout (prost : ProstTypes) (header : Option String) (now : SystemTime) :
    Except String (Option (StdDuration × Timestamp)) :=
  match header with
  | none => .ok none
  | some timeoutStr =>
    match parseRequestTimeout timeoutStr with
    | .error panic => .error panic
    | .ok (.error _) => .ok none
    | .ok (.ok timeoutDur) => do
      let deadline ← now.add timeoutDur
      let requestDeadline ← prost.timestampFromSystemTime deadline
      pure (some (timeoutDur, requestDeadline))

example : parseRequestTimeout "10m" = .ok (.ok (StdDuration.fromSecs 600)) := by decide +kernel

example : parseRequestTimeout " 500ms" = .ok (.ok ⟨500000000, by decide⟩) := by decide +kernel

/-- A header of `10^20` seconds panics in `from_secs_f64` at every time, before the time is read;
one of `10^22` milliseconds converts, to `10^19` seconds, and the deadline panics, those seconds
leaving an `i64` from the epoch on. Both values, and their quotient by `1000.0`, are doubles, so
the exact model computes what the code does. -/
theorem localTimeout_panics (prost : ProstTypes) :
    (∀ now, localTimeout prost (some "100000000000000000000s") now =
      .error "cannot convert float seconds to Duration: value is either too big or NaN") ∧
    localTimeout prost (some "10000000000000000000000ms") SystemTime.unixEpoch =
      .error "overflow when adding duration to instant" := by
  have hparse : parseRequestTimeout "100000000000000000000s" =
      .error "cannot convert float seconds to Duration: value is either too big or NaN" := by
    decide +kernel
  -- `10^22` ms is `10^19` s, above `i64::MAX` seconds
  have hparse' : parseRequestTimeout "10000000000000000000000ms" =
      .ok (.ok (StdDuration.fromSecs ⟨10 ^ 19, by decide⟩)) := by
    decide +kernel
  have hadd : SystemTime.unixEpoch.add (StdDuration.fromSecs ⟨10 ^ 19, by decide⟩) =
      .error "overflow when adding duration to instant" := by
    unfold SystemTime.add SystemTime.checkedAdd
    rw [dif_neg (by decide)]
  refine ⟨fun now => ?_, ?_⟩
  · simp only [localTimeout, hparse]
  · simp only [localTimeout, hparse', hadd, bind, Except.bind]

end SdkCore.Nexus
