import SdkCore.Machines.Activity

/-!
# The local activity machine

`crates/sdk-core/src/worker/workflow/machines/local_activity_state_machine.rs`. A local
activity runs in the worker, not on the server: when the workflow is not replaying the machine
asks for its execution, lang is resolved with its result, and a `RecordMarker` command records
that result in history. When the workflow replays, the machine waits for that marker and
resolves lang from it (or from data found ahead of time, `ReplayingPreResolved`).

`adapt_response` of `Resolved` builds both the `ResolveActivity` job and the marker. It wraps a
timeout or cancellation failure in an `ActivityFailureInfo` for lang, while the marker keeps
the failure as it was; replay (`ResolveDat::from`) classifies a marker's failure only as a
cancellation or a failure.
-/

namespace SdkCore.LocalActivity

open Fsm

/-- `LocalActivityExecutionResult`, each variant with the field of its payload message. -/
inductive LocalActivityExecutionResult where
  | completed (result : Option Payload)
  | failed (failure : Option Failure)
  | timedOut (failure : Option Failure)
  | cancelled (failure : Option Failure)
  deriving Repr, DecidableEq

/-- `Cancellation::from_details(None)`. -/
def cancellationFromNoDetails : Failure :=
  { message := "Activity cancelled", cause := none, failureInfo := some (.canceledFailureInfo none) }

/-- `LocalActivityExecutionResult::empty_cancel`. -/
def LocalActivityExecutionResult.emptyCancel : LocalActivityExecutionResult :=
  .cancelled (some cancellationFromNoDetails)

/-- `LocalActivityExecutionResult::timeout`: the result the worker reports for a local activity
that timed out. -/
def LocalActivityExecutionResult.timeout (tt : TimeoutType) : LocalActivityExecutionResult :=
  .timedOut (some { message := "Activity timed out", cause := none,
                    failureInfo := some (.timeoutFailureInfo tt none) })

/-- `ResolveDat`. Times are kept as the timestamps they are converted to and from. -/
structure ResolveDat where
  result : LocalActivityExecutionResult
  completeTime : Option Timestamp
  attempt : Nat
  backoff : Option Duration
  originalScheduleTime : Option Timestamp
  deriving Repr, DecidableEq

/-- `CompleteLocalActivityData`: a marker's data and its result. -/
structure CompleteLocalActivityData where
  markerDat : LocalActivityMarkerData
  result : Except Failure Payload

/-- `From<CompleteLocalActivityData> for ResolveDat`: a failure is a cancellation when it or its
cause carries a `CanceledFailureInfo`, and a failure otherwise. -/
def ResolveDat.ofComplete (d : CompleteLocalActivityData) : ResolveDat :=
  { result :=
      match d.result with
      | .ok res => .completed (some res)
      | .error fail =>
        if FailureInfo.isCanceled fail.failureInfo ||
            FailureInfo.isCanceled (fail.cause.bind (·.failureInfo)) then
          .cancelled (some fail)
        else .failed (some fail),
    completeTime := d.markerDat.completeTime, attempt := d.markerDat.attempt,
    backoff := d.markerDat.backoff, originalScheduleTime := d.markerDat.originalScheduleTime }

/-- `ResultType`. -/
inductive ResultType where
  | completed | cancelled | failed
  deriving Repr, DecidableEq

/-- `LocalActivityMachineState`, with the data its states keep. -/
inductive LocalActivityMachineState where
  | executing | replaying | replayingPreResolved (dat : ResolveDat) | requestSent
  | markerCommandCreated (resultType : ResultType) | resultNotified (resultType : ResultType)
  | markerCommandRecorded | waitingMarkerEvent (alreadyResolved : Bool)
  | waitingMarkerEventPreResolved
  deriving Repr, DecidableEq

/-- `LocalActivityMachineEvents`. -/
inductive LocalActivityMachineEvents where
  | schedule
  | handleResult (dat : ResolveDat)
  | cancel
  | noWaitCancel (cancellationType : ActivityCancellationType)
  | commandRecordMarker
  | markerRecorded (dat : CompleteLocalActivityData)
  | handleKnownResult (dat : ResolveDat)
  | startedNonReplayWFT

/-- `LocalActivityCommand`. -/
inductive LocalActivityCommand where
  | requestActivityExecution (act : ValidScheduleLA)
  | resolved (dat : ResolveDat)
  | fakeMarker
  | requestCancel
  deriving Repr, DecidableEq

/-- The local activity's `SharedState`. -/
structure SharedState where
  attrs : ValidScheduleLA
  replayingWhenInvoked : Bool
  wfTimeWhenStarted : Option Timestamp
  internalFlags : InternalFlags
  deriving Repr, DecidableEq

/-- `LocalActivityMachine`. -/
abbrev LocalActivityMachine := StateMachine LocalActivityMachineState SharedState

/-- A transition result of the local activity machine. -/
abbrev LocalActivityMachineTransition :=
  TransitionResult LocalActivityMachineState LocalActivityCommand WFMachinesError

/-- `SharedState::produce_no_wait_cancel_resolve_dat`: a cancellation that does not move the
clock. -/
def SharedState.produceNoWaitCancelResolveDat (shared : SharedState) : ResolveDat :=
  { result := .emptyCancel, completeTime := none, attempt := shared.attrs.attempt,
    backoff := none, originalScheduleTime := shared.attrs.originalScheduleTime }

/-! ## Checking a marker against the command -/

/-- `verify_marker_data_matches`. The id and type checks record the flag when the activity was
first invoked outside replay. -/
def verifyMarkerDataMatches (shared : SharedState) (dat : CompleteLocalActivityData) :
    SharedState × Except WFMachinesError Unit :=
  if shared.attrs.seq != dat.markerDat.seq then
    (shared, .error (.nondeterminism ("Local activity marker data has sequence number " ++
      toString dat.markerDat.seq ++ " but matched against LA command with sequence number " ++
      toString shared.attrs.seq)))
  else
    let (checks, flags) :=
      shared.internalFlags.tryUse .idAndTypeDeterminismChecks (!shared.replayingWhenInvoked)
    let shared := { shared with internalFlags := flags }
    if checks && dat.markerDat.activityId != shared.attrs.activityId then
      (shared, .error (.nondeterminism ("Activity id of recorded marker \x27" ++
        dat.markerDat.activityId ++ "\x27 does not match activity id of local activity command \x27" ++
        shared.attrs.activityId ++ "\x27")))
    else if checks && dat.markerDat.activityType != shared.attrs.activityType then
      (shared, .error (.nondeterminism ("Activity type of recorded marker \x27" ++
        dat.markerDat.activityType ++
        "\x27 does not match activity type of local activity command \x27" ++
        shared.attrs.activityType ++ "\x27")))
    else (shared, .ok ())

/-- `verify_marker_dat!`: the transition `ok` unless the marker does not match. -/
def verifyMarkerDat (shared : SharedState) (dat : CompleteLocalActivityData)
    (ok : LocalActivityMachineTransition) : SharedState × LocalActivityMachineTransition :=
  match verifyMarkerDataMatches shared dat with
  | (shared, .error err) => (shared, .err err)
  | (shared, .ok ()) => (shared, ok)

/-! ## The handlers -/

/-- `Executing::on_schedule`. -/
def Executing.onSchedule (dat : SharedState) : LocalActivityMachineTransition :=
  .ok [.requestActivityExecution dat.attrs] .requestSent

/-- `Replaying::on_schedule`. -/
def Replaying.onSchedule : LocalActivityMachineTransition := .ok [] (.waitingMarkerEvent false)

/-- `ReplayingPreResolved::on_schedule`. -/
def ReplayingPreResolved.onSchedule (dat : ResolveDat) : LocalActivityMachineTransition :=
  .ok [.fakeMarker, .resolved dat] .waitingMarkerEventPreResolved

/-- The `ResultType` of a result; a timeout counts as a failure. -/
def LocalActivityExecutionResult.resultType : LocalActivityExecutionResult → ResultType
  | .completed _ => .completed
  | .failed _ => .failed
  | .timedOut _ => .failed
  | .cancelled _ => .cancelled

/-- `RequestSent::on_handle_result`. -/
def RequestSent.onHandleResult (dat : ResolveDat) : LocalActivityMachineTransition :=
  .ok [.resolved dat] (.markerCommandCreated dat.result.resultType)

/-- `RequestSent::on_cancel_requested`: the activity must still report its result. -/
def RequestSent.onCancelRequested : LocalActivityMachineTransition := .ok [.requestCancel] .requestSent

/-- `RequestSent::on_no_wait_cancel`: resolved at once, and under `TRY_CANCEL` also asked to
stop. -/
def RequestSent.onNoWaitCancel (shared : SharedState) (cancelType : ActivityCancellationType) :
    LocalActivityMachineTransition :=
  let cmds : List LocalActivityCommand :=
    (if cancelType = .tryCancel then [.requestCancel] else []) ++
      [.resolved shared.produceNoWaitCancelResolveDat]
  .ok cmds (.markerCommandCreated .cancelled)

/-- `MarkerCommandCreated::on_command_record_marker`, through `From` into `ResultNotified`. -/
def MarkerCommandCreated.onCommandRecordMarker (resultType : ResultType) :
    LocalActivityMachineTransition :=
  .ok [] (.resultNotified resultType)

/-- `ResultNotified::on_marker_recorded`: the marker must agree with how the activity ended. -/
def ResultNotified.onMarkerRecorded (resultType : ResultType) (shared : SharedState)
    (dat : CompleteLocalActivityData) : SharedState × LocalActivityMachineTransition :=
  match resultType, dat.result with
  | .completed, .error _ =>
    (shared, .err (.nondeterminism ("Local activity (seq " ++ toString shared.attrs.seq ++
      ") completed successfully locally, but history said it failed!")))
  | .failed, .ok _ =>
    (shared, .err (.nondeterminism ("Local activity (seq " ++ toString shared.attrs.seq ++
      ") failed locally, but history said it completed!")))
  | _, _ => verifyMarkerDat shared dat (.default .markerCommandRecorded)

/-- `WaitingMarkerEvent::on_marker_recorded`: lang is resolved from the marker unless data
found ahead already resolved it. -/
def WaitingMarkerEvent.onMarkerRecorded (alreadyResolved : Bool) (shared : SharedState)
    (dat : CompleteLocalActivityData) : SharedState × LocalActivityMachineTransition :=
  verifyMarkerDat shared dat
    (.ok (if alreadyResolved then [] else [.resolved (ResolveDat.ofComplete dat)])
      .markerCommandRecorded)

/-- `WaitingMarkerEvent::on_handle_result`. -/
def WaitingMarkerEvent.onHandleResult (dat : ResolveDat) : LocalActivityMachineTransition :=
  .ok [.resolved dat] (.waitingMarkerEvent true)

/-- `WaitingMarkerEvent::on_started_non_replay_wft`: no marker came, so the activity runs. -/
def WaitingMarkerEvent.onStartedNonReplayWft (dat : SharedState) :
    SharedState × LocalActivityMachineTransition :=
  let dat := { dat with replayingWhenInvoked := false }
  (dat, .ok [.requestActivityExecution dat.attrs] .requestSent)

/-- `WaitingMarkerEvent::on_cancel_requested`, which `on_no_wait_cancel` also is. -/
def WaitingMarkerEvent.onCancelRequested (alreadyResolved : Bool) :
    LocalActivityMachineTransition :=
  .ok [.requestCancel] (.waitingMarkerEvent alreadyResolved)

/-- `WaitingMarkerEventPreResolved::on_marker_recorded`. -/
def WaitingMarkerEventPreResolved.onMarkerRecorded (shared : SharedState)
    (dat : CompleteLocalActivityData) : SharedState × LocalActivityMachineTransition :=
  verifyMarkerDat shared dat (.default .markerCommandRecorded)

/-- `MarkerCommandRecorded::on_cancel_requested`: a resolved activity may still be backing off
locally, so the dispatcher is told to stop. -/
def MarkerCommandRecorded.onCancelRequested : LocalActivityMachineTransition :=
  .ok [.requestCancel] .markerCommandRecorded

/-- `MarkerCommandRecorded::on_no_wait_cancel`. -/
def MarkerCommandRecorded.onNoWaitCancel (cancelType : ActivityCancellationType) :
    LocalActivityMachineTransition :=
  if cancelType = .tryCancel then .ok [.requestCancel] .markerCommandRecorded
  else .default .markerCommandRecorded

/-! ## The table -/

/-- The `fsm!` table of `LocalActivityMachine`. -/
def transitions : Transitions LocalActivityMachineState LocalActivityMachineEvents SharedState
    LocalActivityCommand WFMachinesError
  | .executing, .schedule, sh => some (sh, Executing.onSchedule sh)
  | .replaying, .schedule, sh => some (sh, Replaying.onSchedule)
  | .replayingPreResolved dat, .schedule, sh => some (sh, ReplayingPreResolved.onSchedule dat)
  -- the execution path
  | .requestSent, .handleResult dat, sh => some (sh, RequestSent.onHandleResult dat)
  | .requestSent, .cancel, sh => some (sh, RequestSent.onCancelRequested)
  | .requestSent, .noWaitCancel ct, sh => some (sh, RequestSent.onNoWaitCancel sh ct)
  | .markerCommandCreated rt, .commandRecordMarker, sh =>
    some (sh, MarkerCommandCreated.onCommandRecordMarker rt)
  | .resultNotified rt, .markerRecorded dat, sh => some (ResultNotified.onMarkerRecorded rt sh dat)
  -- the replay path
  | .waitingMarkerEvent r, .markerRecorded dat, sh =>
    some (WaitingMarkerEvent.onMarkerRecorded r sh dat)
  | .waitingMarkerEvent r, .cancel, sh => some (sh, WaitingMarkerEvent.onCancelRequested r)
  | .waitingMarkerEvent _, .handleKnownResult dat, sh =>
    some (sh, WaitingMarkerEvent.onHandleResult dat)
  | .waitingMarkerEvent r, .noWaitCancel _, sh => some (sh, WaitingMarkerEvent.onCancelRequested r)
  | .waitingMarkerEvent _, .startedNonReplayWFT, sh =>
    some (WaitingMarkerEvent.onStartedNonReplayWft sh)
  | .waitingMarkerEventPreResolved, .markerRecorded dat, sh =>
    some (WaitingMarkerEventPreResolved.onMarkerRecorded sh dat)
  -- "Ignore cancellations when waiting for the marker after being pre-resolved"
  | .waitingMarkerEventPreResolved, .cancel, sh => some (sh, .default .waitingMarkerEventPreResolved)
  | .waitingMarkerEventPreResolved, .noWaitCancel _, sh =>
    some (sh, .default .waitingMarkerEventPreResolved)
  -- "Ignore cancellation in final state"
  | .markerCommandRecorded, .cancel, sh => some (sh, MarkerCommandRecorded.onCancelRequested)
  | .markerCommandRecorded, .noWaitCancel ct, sh =>
    some (sh, MarkerCommandRecorded.onNoWaitCancel ct)
  -- "LAs reporting status after they've handled their result can simply be ignored"
  | .markerCommandCreated rt, .handleResult _, sh => some (sh, .default (.markerCommandCreated rt))
  | .resultNotified rt, .handleResult _, sh => some (sh, .default (.resultNotified rt))
  | .markerCommandRecorded, .handleResult _, sh => some (sh, .default .markerCommandRecorded)
  | _, _, _ => none

/-- The state names, as `Display` prints them. -/
def LocalActivityMachineState.name : LocalActivityMachineState → String
  | .executing => "Executing"
  | .replaying => "Replaying"
  | .replayingPreResolved _ => "ReplayingPreResolved"
  | .requestSent => "RequestSent"
  | .markerCommandCreated _ => "MarkerCommandCreated"
  | .resultNotified _ => "ResultNotified"
  | .markerCommandRecorded => "MarkerCommandRecorded"
  | .waitingMarkerEvent _ => "WaitingMarkerEvent"
  | .waitingMarkerEventPreResolved => "WaitingMarkerEventPreResolved"

/-! ## Markers -/

/-- `LOCAL_ACTIVITY_MARKER_NAME`. -/
def localActivityMarkerName : String := "core_local_activity"

/-- `build_local_activity_marker_details`. -/
def buildLocalActivityMarkerDetails (metadata : LocalActivityMarkerData) (result : Option Payload) :
    MarkerDetails :=
  { data := some metadata, result := result.map fun r => [r] }

/-- `extract_local_activity_marker_details`: the marker data, and the last payload of the
result. -/
def extractLocalActivityMarkerDetails (details : MarkerDetails) :
    Option LocalActivityMarkerData × Option Payload :=
  (details.data, details.result.bind List.getLast?)

/-- `HistoryEventExt::into_local_activity_marker_details`. A marker with neither a result nor a
failure reads as the default payload. -/
def intoLocalActivityMarkerDetails (e : HistoryEvent) : Option CompleteLocalActivityData :=
  if e.eventType = .markerRecorded then
    match e.attributes with
    | some (.markerRecordedEventAttributes markerName details failure) =>
      if markerName = localActivityMarkerName then
        let (data, okRes) := extractLocalActivityMarkerDetails details
        match data with
        | none => none
        | some data =>
          let result : Except Failure Payload :=
            match okRes, failure with
            | some r, none => .ok r
            | _, some f => .error f
            | none, none => .ok default
          some { markerDat := data, result }
      else none
    | _ => none
  else none

/-! ## Conversions and the adapter -/

/-- `TryFrom<HistEventData> for LocalActivityMachineEvents`. -/
def ofHistEvent (e : HistEventData) : Except WFMachinesError LocalActivityMachineEvents :=
  let e := e.event
  if e.eventType != .markerRecorded then
    .error (.nondeterminism ("Local activity machine cannot handle this event: " ++ e.display))
  else
    match intoLocalActivityMarkerDetails e with
    | some markerDat => .ok (.markerRecorded markerDat)
    | none => .error (.nondeterminism "Local activity machine encountered an unparsable marker")

/-- `TryFrom<CommandType> for LocalActivityMachineEvents`. -/
def ofCommandType : CommandType → Option LocalActivityMachineEvents
  | .recordMarker => some .commandRecordMarker
  | _ => none

/-- `wrap_fail!`: a failure carrying the expected info is wrapped in an `ActivityFailureInfo`
with the message; any other is left as it is. -/
def wrapFail (shared : SharedState) (fail : Option Failure) (msg : String)
    (isInfo : Option FailureInfo → Bool) : Option Failure :=
  match fail with
  | some f =>
    if isInfo f.failureInfo then
      some { message := msg, cause := some f,
             failureInfo := some (Activity.activityFailInfo shared.attrs.activityType
               shared.attrs.activityId none .cancelRequested 0 0) }
    else some f
  | none => none

/-- The resolution lang gets for a resolved activity: a backoff when one is set, else the
result, with timeouts and cancellations wrapped. -/
def resolution (shared : SharedState) (dat : ResolveDat) : ActivityResolution :=
  match dat.backoff with
  | some b =>
    { status := some (.backoff (dat.attempt + 1) (some b) dat.originalScheduleTime) }
  | none =>
    -- "Cancels and timeouts are to be wrapped with an activity failure"
    match dat.result with
    | .completed r => { status := some (.completed r) }
    | .failed f => { status := some (.failed f) }
    | .timedOut f =>
      { status := some (.failed (wrapFail shared f "Local Activity timed out" FailureInfo.isTimeout)) }
    | .cancelled f =>
      { status := some (.cancelled
          (wrapFail shared f "Local Activity cancelled" FailureInfo.isCanceled)) }

/-- The result payload and the failure the marker records, and whether the activity will not
run again. -/
def LocalActivityExecutionResult.markerParts :
    LocalActivityExecutionResult → Option Payload × Option Failure × Bool
  | .completed r => (r, none, false)
  | .failed f => (none, f, false)
  | .cancelled f => (none, f, true)
  | .timedOut f => (none, f, true)

/-- The `ResolveActivity` job of a resolved local activity. -/
def resolveActivityJob (shared : SharedState) (dat : ResolveDat) : MachineResponse :=
  .pushWFJob (.resolveActivity
    { seq := shared.attrs.seq, result := some (resolution shared dat), isLocal := true })

/-- The marker data recorded for a resolved local activity. -/
def markerData (shared : SharedState) (dat : ResolveDat) : LocalActivityMarkerData :=
  { seq := shared.attrs.seq, attempt := dat.attempt, activityId := shared.attrs.activityId,
    activityType := shared.attrs.activityType, completeTime := dat.completeTime,
    backoff := dat.backoff, originalScheduleTime := dat.originalScheduleTime }

/-- The `RecordMarker` command that records a resolved local activity. -/
def recordMarkerCommand (shared : SharedState) (dat : ResolveDat) : ProtoCommand :=
  CommandAttributes.toCommand (.recordMarkerCommandAttributes localActivityMarkerName
    (buildLocalActivityMarkerDetails (markerData shared dat) dat.result.markerParts.1)
    dat.result.markerParts.2.1)

/-- `WFMachinesAdapter for LocalActivityMachine`. -/
def adaptResponse (m : LocalActivityMachine) (myCommand : LocalActivityCommand)
    (_eventInfo : Option EventInfo) : Except WFMachinesError (List MachineResponse) :=
  let shared := m.sharedState
  match myCommand with
  | .requestActivityExecution act => .ok [.queueLocalActivity act]
  | .resolved dat =>
    -- "Cancel-resolves of abandoned activities must be explicitly dropped from tracking"
    let abandon : List MachineResponse :=
      if dat.result.markerParts.2.2 && shared.attrs.cancellationType = .abandon then
        [.abandonLocalActivity shared.attrs.seq]
      else []
    -- "Only issue record marker commands if we weren't replaying"
    let marker : List MachineResponse :=
      if !shared.replayingWhenInvoked then [.issueNewCommand (recordMarkerCommand shared dat)]
      else []
    .ok ([resolveActivityJob shared dat, .updateWFTime dat.completeTime] ++ abandon ++ marker)
  | .fakeMarker => .ok [.issueFakeLocalActivityMarker shared.attrs.seq]
  | .requestCancel => .ok [.requestCancelLocalActivity shared.attrs.seq]

/-- The local activity machine as a `TemporalStateMachine`. -/
def machineDef :
    MachineDef LocalActivityMachineState LocalActivityMachineEvents SharedState
      LocalActivityCommand :=
  { name := "LocalActivityMachine", transitions, stateName := LocalActivityMachineState.name,
    ofCommandType, ofHistEvent, adaptResponse }

/-- The adapter's responses for commands it always accepts; the `expect`s of the source are on
results that are never errors. -/
def adaptAll (m : LocalActivityMachine) (cmds : List LocalActivityCommand) : List MachineResponse :=
  cmds.flatMap fun c =>
    match adaptResponse m c none with
    | .ok r => r
    | .error _ => []

/-! ## Machine methods -/

/-- `new_local_activity`, given the wall-clock time `now` it reads. The machine is scheduled at
once; only the schedule's last command is adapted. -/
def newLocalActivity (attrs : ValidScheduleLA) (replayingWhenInvoked : Bool)
    (maybePreResolved : Option ResolveDat) (wfTime : Option Timestamp)
    (internalFlags : InternalFlags) (now : Timestamp) :
    Except WFMachinesError (LocalActivityMachine × List MachineResponse) :=
  let initialState : Except WFMachinesError LocalActivityMachineState :=
    if replayingWhenInvoked then
      match maybePreResolved with
      | some dat => .ok (.replayingPreResolved dat)
      | none => .ok .replaying
    else if maybePreResolved.isSome then
      .error (.nondeterminism "Local activity cannot be created as pre-resolved while not replaying")
    else .ok .executing
  match initialState with
  | .error e => .error e
  | .ok initialState =>
    -- "If the scheduled LA doesn't already have an "original" schedule time, assign one."
    let attrs := { attrs with originalScheduleTime := some (attrs.originalScheduleTime.getD now) }
    let machine : LocalActivityMachine := StateMachine.fromParts initialState
      { attrs, replayingWhenInvoked, wfTimeWhenStarted := wfTime, internalFlags }
    -- "Scheduling local activities doesn't fail"
    let (machine, res) := onEvent transitions machine .schedule
    let res := match res with
      | .ok cmds => cmds
      | .error _ => []
    .ok (machine, adaptAll machine res.getLast?.toList)

/-- `LocalActivityMachine::marker_should_get_special_handling`. -/
def LocalActivityMachine.markerShouldGetSpecialHandling (m : LocalActivityMachine) :
    Except WFMachinesError Bool :=
  match m.state with
  | some (.resultNotified _) => .ok false
  | some (.waitingMarkerEvent _) => .ok true
  | some .waitingMarkerEventPreResolved => .ok true
  | _ => .error (.fatal ("Attempted to check for LA marker handling in invalid state " ++
      machineDef.stateText m))

/-- `LocalActivityMachine::will_accept_resolve_marker`. -/
def LocalActivityMachine.willAcceptResolveMarker (m : LocalActivityMachine) : Bool :=
  match m.state with
  | some (.waitingMarkerEvent _) => true
  | _ => false

/-- `LocalActivityMachine::encountered_non_replay_wft`: only a machine waiting for its marker
moves; it then asks for the activity to run. -/
def LocalActivityMachine.encounteredNonReplayWft (m : LocalActivityMachine) :
    LocalActivityMachine × Except WFMachinesError (List MachineResponse) :=
  match m.state with
  | some (.waitingMarkerEvent _) =>
    match onEvent transitions m .startedNonReplayWFT with
    | (m', .ok cmds) => (m', .ok (adaptAll m' cmds.getLast?.toList))
    | (m', .error .invalidTransition) =>
      (m', .error (.fatal ("Invalid transition while notifying local activity (seq " ++
        toString m'.sharedState.attrs.seq ++ ")of non-replay-wft-started in " ++
        machineDef.stateText m')))
    | (m', .error (.underlying e)) => (m', .error e)
  -- "It can safely be ignored in the others"
  | _ => (m, .ok [])

/-- `LocalActivityMachine::_try_resolve`. -/
def LocalActivityMachine.tryResolveDat (m : LocalActivityMachine) (dat : ResolveDat)
    (fromMarker : Bool) : LocalActivityMachine × Except WFMachinesError (List MachineResponse) :=
  let evt := if fromMarker then LocalActivityMachineEvents.handleKnownResult dat else .handleResult dat
  match onEvent transitions m evt with
  | (m', .ok cmds) => (m', .ok (adaptAll m' cmds))
  | (m', .error .invalidTransition) =>
    (m', .error (.fatal ("Invalid transition resolving local activity (seq " ++
      toString m'.sharedState.attrs.seq ++ ", from marker: " ++ toString fromMarker ++ ") in " ++
      machineDef.stateText m')))
  | (m', .error (.underlying e)) => (m', .error e)

/-- `SystemTime + Duration`, on the timestamps times are kept as. -/
def Timestamp.add (t : Timestamp) (d : Duration) : Timestamp :=
  let total := (t.seconds + d.seconds) * 1000000000 + t.nanos + d.nanos
  { seconds := total / 1000000000, nanos := total % 1000000000 }

/-- `LocalActivityMachine::try_resolve`: a result from execution, completed at the workflow time
when the activity started plus its runtime. -/
def LocalActivityMachine.tryResolve (m : LocalActivityMachine) (result : LocalActivityExecutionResult)
    (runtime : Duration) (attempt : Nat) (backoff : Option Duration)
    (originalScheduleTime : Option Timestamp) :
    LocalActivityMachine × Except WFMachinesError (List MachineResponse) :=
  m.tryResolveDat
    { result, completeTime := m.sharedState.wfTimeWhenStarted.map (Timestamp.add · runtime),
      attempt, backoff, originalScheduleTime } false

/-- `LocalActivityMachine::try_resolve_with_dat`. -/
def LocalActivityMachine.tryResolveWithDat (m : LocalActivityMachine) (dat : ResolveDat) :
    LocalActivityMachine × Except WFMachinesError (List MachineResponse) :=
  m.tryResolveDat dat true

/-- `LocalActivityMachine::cancel`: `TRY_CANCEL` and `ABANDON` do not wait for the activity. -/
def LocalActivityMachine.cancel (m : LocalActivityMachine) :
    LocalActivityMachine × Except (MachineError WFMachinesError) (List MachineResponse) :=
  let event := match m.sharedState.attrs.cancellationType with
    | .tryCancel => LocalActivityMachineEvents.noWaitCancel .tryCancel
    | .abandon => .noWaitCancel .abandon
    | _ => .cancel
  match onEvent transitions m event with
  | (m', .ok cmds) => (m', .ok (adaptAll m' cmds))
  | (m', .error e) => (m', .error e)

/-- `LocalActivityMachine::was_cancelled_before_sent_to_server`: never, since the cancel marker
must still be sent. -/
def LocalActivityMachine.wasCancelledBeforeSentToServer (_m : LocalActivityMachine) : Bool := false

end SdkCore.LocalActivity
