import SdkCore.Protos
import SdkCore.Maps
import SdkCore.Steps

/-!
# Activity heartbeats

`crates/sdk-core/src/worker/activities/activity_heartbeat_manager.rs`. Lang records heartbeats;
the first one for a task token is reported to the server at once, later ones are kept, and the
latest is reported when the throttle interval after the last report ends. `HeartbeatStreamState`
handles the messages of one channel in order: records, completions of reports, ends of throttle
sleeps and evictions. Each handler returns at most one `HeartbeatExecutorAction`, which the
executor runs concurrently: a report to the server, which sends back its completion, or a sleep,
which sends back its end unless its cancellation token is cancelled first.

`HeartbeatSystem` is the stream state with the executor: the reports in flight and the sleeps not
yet ended. A message is handled as it is sent; as the channel is first in, first out, the stream
state sees the messages in the same order.

`evict` with `should_flush` reports the latest details even when a report is in flight, so two
reports of one token are in flight at once, and the `Notify` it keeps in `tt_needs_flush` is
signalled by the completion of the earlier report, while the flush is still in flight
(`run_evictWhileInFlight`).
-/

namespace SdkCore.Heartbeat

open Maps

/-- A task token. -/
abbrev TaskToken := Nat

/-- A `Notify`: the one an `evict` call waits on, or a heartbeat timeout's resetter. -/
abbrev NotifyId := Nat

/-- A child of the stream's `CancellationToken`, numbered in the order they are made. -/
abbrev CancellationTokenId := Nat

/-- `ValidActivityHeartbeat`; the throttle interval, which gives only the length of a sleep, is
not kept. -/
structure ValidActivityHeartbeat where
  taskToken : TaskToken
  details : List Payload
  timeoutResetter : Option NotifyId
  deriving Repr, DecidableEq

/-- `HeartbeatExecutorAction`; a sleep is kept without its duration. -/
inductive HeartbeatExecutorAction where
  | sleep (taskToken : TaskToken) (cancellationToken : CancellationTokenId)
  | report (taskToken : TaskToken) (details : List Payload)
  deriving Repr, DecidableEq

/-- `ActivityHeartbeatState`; the throttle interval and the time of the last send are not
kept. -/
structure ActivityHeartbeatState where
  lastRecordedDetails : Option (List Payload)
  isRecordInFlight : Bool
  throttledCancellationToken : Option CancellationTokenId
  timeoutResetter : Option NotifyId
  deriving Repr, DecidableEq

/-- `HeartbeatStreamState`; `nextToken` numbers the child tokens of its cancellation token. -/
structure HeartbeatStreamState where
  ttToState : Map TaskToken ActivityHeartbeatState
  ttNeedsFlush : Map TaskToken NotifyId
  nextToken : Nat
  deriving DecidableEq

/-- What a handler does besides returning its action: signal a `Notify`, or cancel a token. -/
inductive Signal where
  | notify (n : NotifyId)
  | cancel (token : CancellationTokenId)
  deriving Repr, DecidableEq

/-- `HeartbeatStreamState::new`. -/
def HeartbeatStreamState.new : HeartbeatStreamState :=
  { ttToState := ∅, ttNeedsFlush := ∅, nextToken := 0 }

/-- What a handler returns: the new state, its action and its signals, in order. -/
abbrev Handled := HeartbeatStreamState × Option HeartbeatExecutorAction × List Signal

namespace HeartbeatStreamState

/-- `HeartbeatStreamState::record`. -/
def record (s : HeartbeatStreamState) (hb : ValidActivityHeartbeat) : Handled :=
  match s.ttToState.lookup hb.taskToken with
  | none =>
    let state : ActivityHeartbeatState :=
      { lastRecordedDetails := none, isRecordInFlight := true, throttledCancellationToken := none,
        timeoutResetter := hb.timeoutResetter }
    ({ s with ttToState := s.ttToState.insert hb.taskToken state },
      some (.report hb.taskToken hb.details), [])
  | some state =>
    let state :=
      { state with lastRecordedDetails := some hb.details, timeoutResetter := hb.timeoutResetter }
    ({ s with ttToState := s.ttToState.insert hb.taskToken state }, none, [])

/-- `HeartbeatStreamState::handle_report_completed`. -/
def handleReportCompleted (s : HeartbeatStreamState) (tt : TaskToken) : Handled :=
  let flushed := (s.ttNeedsFlush.lookup tt).toList.map Signal.notify
  let s := { s with ttNeedsFlush := s.ttNeedsFlush.erase tt }
  match s.ttToState.lookup tt with
  | some st =>
    let token := s.nextToken
    let st := { st with isRecordInFlight := false, throttledCancellationToken := some token }
    ({ s with ttToState := s.ttToState.insert tt st, nextToken := token + 1 },
      some (.sleep tt token), flushed ++ st.timeoutResetter.toList.map Signal.notify)
  | none => (s, none, flushed)

/-- `HeartbeatStreamState::handle_throttle_completed`. -/
def handleThrottleCompleted (s : HeartbeatStreamState) (tt : TaskToken) : Handled :=
  match s.ttToState.lookup tt with
  | some state =>
    match state.lastRecordedDetails with
    | some details =>
      let state := { state with lastRecordedDetails := none, throttledCancellationToken := none,
                                isRecordInFlight := true }
      ({ s with ttToState := s.ttToState.insert tt state }, some (.report tt details), [])
    | none => ({ s with ttToState := s.ttToState.erase tt }, none, [])
  | none => (s, none, [])

/-- `HeartbeatStreamState::evict`. -/
def evict (s : HeartbeatStreamState) (tt : TaskToken) (onComplete : NotifyId)
    (shouldFlush : Bool) : Handled :=
  match s.ttToState.lookup tt with
  | some state =>
    let s := { s with ttToState := s.ttToState.erase tt }
    let cancelled := state.throttledCancellationToken.toList.map Signal.cancel
    match state.lastRecordedDetails, shouldFlush with
    | some lastDeets, true =>
      ({ s with ttNeedsFlush := s.ttNeedsFlush.insert tt onComplete },
        some (.report tt lastDeets), cancelled)
    | _, _ =>
      if state.isRecordInFlight then
        ({ s with ttNeedsFlush := s.ttNeedsFlush.insert tt onComplete }, none, cancelled)
      else (s, none, cancelled ++ [.notify onComplete])
  | none => (s, none, [.notify onComplete])

end HeartbeatStreamState

/-! ## The stream state with its executor -/

/-- The stream state, the reports in flight and the sleeps not yet ended, each with its task
token, in the order they were issued. -/
structure HeartbeatSystem where
  stream : HeartbeatStreamState
  reports : List (TaskToken × List Payload)
  sleeps : List (TaskToken × CancellationTokenId)
  deriving DecidableEq

/-- No heartbeat yet. -/
def HeartbeatSystem.new : HeartbeatSystem :=
  { stream := .new, reports := [], sleeps := [] }

/-- One message to the stream state: a call of lang, or the end of a report or sleep of the
executor, by its place in the list. -/
inductive HeartbeatInput where
  | record (hb : ValidActivityHeartbeat)
  | evict (taskToken : TaskToken) (onComplete : NotifyId) (shouldFlush : Bool)
  | reportCompleted (i : Nat)
  | sleepElapsed (i : Nat)
  deriving Repr, DecidableEq

/-- What the system does that lang or the server sees: an action issued, or a signal. -/
inductive HeartbeatOutput where
  | issued (action : HeartbeatExecutorAction)
  | signalled (signal : Signal)
  deriving Repr, DecidableEq

/-- The tokens a list of signals cancels. -/
def cancelledTokens (signals : List Signal) : List CancellationTokenId :=
  signals.filterMap fun
    | .cancel t => some t
    | .notify _ => none

/-- The executor takes what a handler returned: a cancelled token ends its sleep, and the
action starts. -/
def HeartbeatSystem.apply (sys : HeartbeatSystem) (h : Handled) :
    HeartbeatSystem × List HeartbeatOutput :=
  let (stream, action, signals) := h
  let sleeps := sys.sleeps.filter fun p => p.2 ∉ cancelledTokens signals
  let (reports, sleeps) := match action with
    | some (.report tt details) => (sys.reports ++ [(tt, details)], sleeps)
    | some (.sleep tt token) => (sys.reports, sleeps ++ [(tt, token)])
    | none => (sys.reports, sleeps)
  ({ stream, reports, sleeps }, action.toList.map .issued ++ signals.map .signalled)

/-- One message. The end of a report or sleep that is not running leaves the system as it
is. -/
def step (sys : HeartbeatSystem) :
    HeartbeatInput → Except String (HeartbeatSystem × List HeartbeatOutput)
  | .record hb => .ok (sys.apply (sys.stream.record hb))
  | .evict tt onComplete shouldFlush => .ok (sys.apply (sys.stream.evict tt onComplete shouldFlush))
  | .reportCompleted i =>
    match sys.reports[i]? with
    | some (tt, _) =>
      .ok (HeartbeatSystem.apply { sys with reports := sys.reports.eraseIdx i }
        (sys.stream.handleReportCompleted tt))
    | none => .ok (sys, [])
  | .sleepElapsed i =>
    match sys.sleeps[i]? with
    | some (tt, _) =>
      .ok (HeartbeatSystem.apply { sys with sleeps := sys.sleeps.eraseIdx i }
        (sys.stream.handleThrottleCompleted tt))
    | none => .ok (sys, [])

/-! ## An eviction while a report is in flight -/

/-- The details of the `n`-th heartbeat, as the tests record them. -/
def detailsOf (n : UInt8) : List Payload := [{ metadata := [], data := [n] }]

/-- Two heartbeats for token 7, the second while the first is reported; then the activity is
evicted with a flush, and the first report completes. -/
def evictWhileInFlightInputs : List HeartbeatInput :=
  [.record ⟨7, detailsOf 0, none⟩, .record ⟨7, detailsOf 1, none⟩, .evict 7 0 true,
   .reportCompleted 0]

/-- After the eviction both reports of token 7 are in flight, and the completion of the first
signals the eviction's `Notify` while the flush is still in flight. -/
theorem run_evictWhileInFlight :
    (Steps.run step HeartbeatSystem.new (evictWhileInFlightInputs.take 3)).map
        (fun r => r.1.reports) = .ok [(7, detailsOf 0), (7, detailsOf 1)] ∧
    ∃ sys, Steps.run step HeartbeatSystem.new evictWhileInFlightInputs =
        .ok (sys, [.issued (.report 7 (detailsOf 0)), .issued (.report 7 (detailsOf 1)),
          .signalled (.notify 0)]) ∧
      sys.reports = [(7, detailsOf 1)] :=
  ⟨rfl, _, rfl, rfl⟩

end SdkCore.Heartbeat
