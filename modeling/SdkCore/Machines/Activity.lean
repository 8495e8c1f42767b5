import SdkCore.Machines.Basic
import SdkCore.Steps

/-!
# The activity machine

`crates/sdk-core/src/worker/workflow/machines/activity_state_machine.rs`. An activity is
scheduled by lang, recorded by `ActivityTaskScheduled`, may start, and ends completed, failed,
timed out or cancelled. A cancel depends on the cancellation type: `TRY_CANCEL` requests the
cancel and resolves lang at once, `WAIT_CANCELLATION_COMPLETED` requests it and resolves when
the server answers, `ABANDON` resolves at once and requests nothing.

Lang is resolved (`ResolveActivity`) from four places: `cancel` itself, `adapt_response` of a
cancel request for the types that do not wait, the terminal event handlers, and
`notify_if_not_already_cancelled`.
-/

namespace SdkCore.Activity

open Fsm

/-- `ActivityMachineState`. -/
inductive ActivityMachineState where
  | created | scheduleCommandCreated | scheduledEventRecorded | started
  | scheduledActivityCancelCommandCreated | scheduledActivityCancelEventRecorded
  | startedActivityCancelCommandCreated | startedActivityCancelEventRecorded
  | completed | failed | timedOut | canceled
  deriving Repr, DecidableEq

/-- `ActTaskScheduledData`. -/
structure ActTaskScheduledData where
  eventId : Int
  actType : String
  actId : String
  lastTaskInHistory : Bool
  deriving Repr, DecidableEq

/-- `ActivityMachineEvents`. -/
inductive ActivityMachineEvents where
  | schedule
  | commandScheduleActivityTask
  | activityTaskScheduled (d : ActTaskScheduledData)
  | cancel
  | abandon
  | activityTaskStarted (startedEventId : Int)
  | activityTaskTimedOut (attrs : ActivityTaskTimedOutEventAttributes)
  | activityTaskCompleted (attrs : ActivityTaskCompletedEventAttributes)
  | activityTaskFailed (attrs : ActivityTaskFailedEventAttributes)
  | commandRequestCancelActivityTask
  | activityTaskCancelRequested
  | activityTaskCanceled (attrs : ActivityTaskCanceledEventAttributes)
  deriving Repr, DecidableEq

/-- `ActivityMachineCommand`. -/
inductive ActivityMachineCommand where
  | complete (result : Option Payloads)
  | fail (failure : Failure)
  | cancel (attrs : Option ActivityTaskCanceledEventAttributes)
  | requestCancellation (cmd : ProtoCommand)
  deriving Repr, DecidableEq

/-- The activity's `SharedState`. -/
structure SharedState where
  scheduledEventId : Int
  startedEventId : Int
  attrs : ScheduleActivity
  cancellationType : ActivityCancellationType
  cancelledBeforeSent : Bool
  internalFlags : InternalFlags
  deriving Repr, DecidableEq

/-- `ActivityMachine`. -/
abbrev ActivityMachine := StateMachine ActivityMachineState SharedState

/-- A transition result of the activity machine. -/
abbrev ActivityMachineTransition :=
  TransitionResult ActivityMachineState ActivityMachineCommand WFMachinesError

/-! ## Failures built for lang -/

/-- `activity_fail_info`. -/
def activityFailInfo (actType actId : String) (identity : Option String) (retryState : RetryState)
    (startedEventId scheduledEventId : Int) : FailureInfo :=
  .activityFailureInfo scheduledEventId startedEventId (identity.getD "") actType actId retryState

/-- `new_failure`. -/
def newFailure (dat : SharedState) (attrs : ActivityTaskFailedEventAttributes) : Failure :=
  { message := "Activity task failed", cause := attrs.failure,
    failureInfo := some (activityFailInfo dat.attrs.activityType dat.attrs.activityId
      (some attrs.identity) attrs.retryState attrs.startedEventId attrs.scheduledEventId) }

/-- `new_timeout_failure`. -/
def newTimeoutFailure (dat : SharedState) (attrs : ActivityTaskTimedOutEventAttributes) :
    Failure :=
  { message := "Activity task timed out", cause := attrs.failure,
    failureInfo := some (activityFailInfo dat.attrs.activityType dat.attrs.activityId none
      attrs.retryState attrs.startedEventId attrs.scheduledEventId) }

/-- `new_cancel_failure`. -/
def newCancelFailure (dat : SharedState) (attrs : ActivityTaskCanceledEventAttributes) :
    Failure :=
  { message := "Activity cancelled",
    cause := some ({ message := "", cause := none,
                     failureInfo := some (.canceledFailureInfo attrs.details) } : Failure),
    failureInfo := some (activityFailInfo dat.attrs.activityType dat.attrs.activityId
      (some attrs.identity) .cancelRequested attrs.startedEventId attrs.scheduledEventId) }

/-! ## Transition helpers -/

/-- `notify_lang_activity_timed_out`. -/
def notifyLangActivityTimedOut (dat : SharedState) (attrs : ActivityTaskTimedOutEventAttributes) :
    ActivityMachineTransition :=
  .ok [.fail (newTimeoutFailure dat attrs)] .timedOut

/-- `notify_lang_activity_cancelled`. -/
def notifyLangActivityCancelled (canceledEvent : Option ActivityTaskCanceledEventAttributes) :
    ActivityMachineTransition :=
  .ok [.cancel canceledEvent] .canceled

/-- `create_request_cancel_activity_task_command`. -/
def createRequestCancelActivityTaskCommand (dat : SharedState) (nextState : ActivityMachineState) :
    ActivityMachineTransition :=
  let cmd : ProtoCommand :=
    { commandType := .requestCancelActivityTask,
      attributes := some (.requestCancelActivityTaskCommandAttributes dat.scheduledEventId) }
  .ok [.requestCancellation cmd] nextState

/-- `notify_if_not_already_cancelled`, with the default of its destination state. With
`TRY_CANCEL` lang was resolved when the cancel was requested. The `unreachable!` arm for
`ABANDON` is never reached: an abandoned activity goes to `Canceled` at once
(`abandon_not_cancelRequested`). -/
def notifyIfNotAlreadyCancelled (dat : SharedState) (notifier : SharedState → ActivityMachineTransition)
    (dest : ActivityMachineState) : ActivityMachineTransition :=
  match dat.cancellationType with
  | .tryCancel => .default dest
  | .waitCancellationCompleted => notifier dat
  | .abandon => .default dest

/-! ## Handlers -/

/-- `Created::on_schedule`. -/
def Created.onSchedule : ActivityMachineTransition := .default .scheduleCommandCreated

/-- The text of a determinism check failure. -/
def mismatchMessage (what : String) (ofEvent ofCommand : String) : String :=
  "Activity " ++ what ++ " of scheduled event \x27" ++ ofEvent ++ "\x27 does not match activity " ++
    what ++ " of activity command \x27" ++ ofCommand ++ "\x27"

/-- `ScheduleCommandCreated::on_activity_task_scheduled`: under the id and type determinism
flag the event must name the commanded activity. -/
def ScheduleCommandCreated.onActivityTaskScheduled (dat : SharedState) (schedDat : ActTaskScheduledData) :
    SharedState × ActivityMachineTransition :=
  let (checks, flags) :=
    dat.internalFlags.tryUse .idAndTypeDeterminismChecks schedDat.lastTaskInHistory
  let dat := { dat with internalFlags := flags }
  if checks && schedDat.actId != dat.attrs.activityId then
    (dat, .err (.nondeterminism (mismatchMessage "id" schedDat.actId dat.attrs.activityId)))
  else if checks && schedDat.actType != dat.attrs.activityType then
    (dat, .err (.nondeterminism (mismatchMessage "type" schedDat.actType dat.attrs.activityType)))
  else ({ dat with scheduledEventId := schedDat.eventId }, .default .scheduledEventRecorded)

/-- `ScheduleCommandCreated::on_canceled`. Under `ABANDON` this arm is not taken (`cancel`
sends `Abandon`); its `dbg_panic!` only logs in a release build. -/
def ScheduleCommandCreated.onCanceled (dat : SharedState) : SharedState × ActivityMachineTransition :=
  let dat := { dat with cancelledBeforeSent := true }
  match dat.cancellationType with
  | .abandon => (dat, .default .canceled)
  | _ => (dat, notifyLangActivityCancelled none)

/-- `ScheduleCommandCreated::on_abandoned`. -/
def ScheduleCommandCreated.onAbandoned (dat : SharedState) : SharedState × ActivityMachineTransition :=
  ({ dat with cancelledBeforeSent := true }, notifyLangActivityCancelled none)

/-- `ScheduledEventRecorded::on_task_started`. -/
def ScheduledEventRecorded.onTaskStarted (dat : SharedState) (startedEventId : Int) :
    SharedState × ActivityMachineTransition :=
  ({ dat with startedEventId }, .default .started)

/-- `ScheduledEventRecorded::on_task_timed_out`. -/
def ScheduledEventRecorded.onTaskTimedOut (dat : SharedState) (attrs : ActivityTaskTimedOutEventAttributes) :
    SharedState × ActivityMachineTransition :=
  (dat, notifyLangActivityTimedOut dat attrs)

/-- `ScheduledEventRecorded::on_canceled`. -/
def ScheduledEventRecorded.onCanceled (dat : SharedState) : SharedState × ActivityMachineTransition :=
  (dat, createRequestCancelActivityTaskCommand dat .scheduledActivityCancelCommandCreated)

/-- `ScheduledEventRecorded::on_abandoned`. -/
def ScheduledEventRecorded.onAbandoned : ActivityMachineTransition := notifyLangActivityCancelled none

/-- `Started::on_activity_task_completed`. -/
def Started.onActivityTaskCompleted (attrs : ActivityTaskCompletedEventAttributes) :
    ActivityMachineTransition :=
  .ok [.complete attrs.result] .completed

/-- `Started::on_activity_task_failed`. -/
def Started.onActivityTaskFailed (dat : SharedState) (attrs : ActivityTaskFailedEventAttributes) :
    SharedState × ActivityMachineTransition :=
  (dat, .ok [.fail (newFailure dat attrs)] .failed)

/-- `Started::on_activity_task_timed_out`. -/
def Started.onActivityTaskTimedOut (dat : SharedState) (attrs : ActivityTaskTimedOutEventAttributes) :
    SharedState × ActivityMachineTransition :=
  (dat, notifyLangActivityTimedOut dat attrs)

/-- `Started::on_canceled`. -/
def Started.onCanceled (dat : SharedState) : SharedState × ActivityMachineTransition :=
  (dat, createRequestCancelActivityTaskCommand dat .startedActivityCancelCommandCreated)

/-- `Started::on_abandoned`. -/
def Started.onAbandoned : ActivityMachineTransition := notifyLangActivityCancelled none

/-- `ScheduledActivityCancelEventRecorded::on_activity_task_canceled`. -/
def ScheduledActivityCancelEventRecorded.onActivityTaskCanceled (dat : SharedState)
    (attrs : ActivityTaskCanceledEventAttributes) : SharedState × ActivityMachineTransition :=
  (dat, notifyIfNotAlreadyCancelled dat (fun _ => notifyLangActivityCancelled (some attrs)) .canceled)

/-- `ScheduledActivityCancelEventRecorded::on_activity_task_timed_out`. -/
def ScheduledActivityCancelEventRecorded.onActivityTaskTimedOut (dat : SharedState)
    (attrs : ActivityTaskTimedOutEventAttributes) : SharedState × ActivityMachineTransition :=
  (dat, notifyIfNotAlreadyCancelled dat (fun dat => notifyLangActivityTimedOut dat attrs) .timedOut)

/-- `StartedActivityCancelEventRecorded::on_activity_task_completed`. -/
def StartedActivityCancelEventRecorded.onActivityTaskCompleted (dat : SharedState)
    (attrs : ActivityTaskCompletedEventAttributes) : SharedState × ActivityMachineTransition :=
  (dat, notifyIfNotAlreadyCancelled dat (fun _ => .ok [.complete attrs.result] .completed)
    .completed)

/-- `StartedActivityCancelEventRecorded::on_activity_task_failed`. -/
def StartedActivityCancelEventRecorded.onActivityTaskFailed (dat : SharedState)
    (attrs : ActivityTaskFailedEventAttributes) : SharedState × ActivityMachineTransition :=
  (dat, notifyIfNotAlreadyCancelled dat (fun dat => .ok [.fail (newFailure dat attrs)] .failed)
    .failed)

/-- `StartedActivityCancelEventRecorded::on_activity_task_timed_out`. -/
def StartedActivityCancelEventRecorded.onActivityTaskTimedOut (dat : SharedState)
    (attrs : ActivityTaskTimedOutEventAttributes) : SharedState × ActivityMachineTransition :=
  (dat, notifyIfNotAlreadyCancelled dat (fun dat => notifyLangActivityTimedOut dat attrs) .timedOut)

/-- `StartedActivityCancelEventRecorded::on_activity_task_canceled`. -/
def StartedActivityCancelEventRecorded.onActivityTaskCanceled (dat : SharedState)
    (attrs : ActivityTaskCanceledEventAttributes) : SharedState × ActivityMachineTransition :=
  (dat, notifyIfNotAlreadyCancelled dat (fun _ => notifyLangActivityCancelled (some attrs)) .canceled)

/-- `Canceled::on_activity_task_started`: "Abandoned activities might start anyway. Ignore the
result." -/
def Canceled.onActivityTaskStarted (dat : SharedState) (seqNum : Int) :
    SharedState × ActivityMachineTransition :=
  if dat.cancellationType = .abandon then (dat, .default .canceled)
  else
    (dat, .err (.nondeterminism ("Non-Abandon cancel mode activities cannot be started after " ++
      "being cancelled. Seq: " ++ toString seqNum)))

/-- `Canceled::on_activity_task_completed`: "Abandoned activities might complete anyway. Ignore
the result." The message's `{attrs:?}` suffix is left out. -/
def Canceled.onActivityTaskCompleted (dat : SharedState) (_attrs : ActivityTaskCompletedEventAttributes) :
    SharedState × ActivityMachineTransition :=
  if dat.cancellationType = .abandon then (dat, .default .canceled)
  else
    (dat, .err (.nondeterminism
      "Non-Abandon cancel mode activities cannot be completed after being cancelled: "))

/-- The `fsm!` table of the activity machine. -/
def transitions : Transitions ActivityMachineState ActivityMachineEvents SharedState
    ActivityMachineCommand WFMachinesError
  | .created, .schedule, sh => some (sh, Created.onSchedule)
  | .scheduleCommandCreated, .commandScheduleActivityTask, sh =>
    some (sh, .default .scheduleCommandCreated)
  | .scheduleCommandCreated, .activityTaskScheduled d, sh =>
    some (ScheduleCommandCreated.onActivityTaskScheduled sh d)
  | .scheduleCommandCreated, .cancel, sh => some (ScheduleCommandCreated.onCanceled sh)
  | .scheduleCommandCreated, .abandon, sh => some (ScheduleCommandCreated.onAbandoned sh)
  | .scheduledEventRecorded, .activityTaskStarted id, sh =>
    some (ScheduledEventRecorded.onTaskStarted sh id)
  | .scheduledEventRecorded, .activityTaskTimedOut a, sh =>
    some (ScheduledEventRecorded.onTaskTimedOut sh a)
  | .scheduledEventRecorded, .cancel, sh => some (ScheduledEventRecorded.onCanceled sh)
  | .scheduledEventRecorded, .abandon, sh => some (sh, ScheduledEventRecorded.onAbandoned)
  | .started, .activityTaskCompleted a, sh => some (sh, Started.onActivityTaskCompleted a)
  | .started, .activityTaskFailed a, sh => some (Started.onActivityTaskFailed sh a)
  | .started, .activityTaskTimedOut a, sh => some (Started.onActivityTaskTimedOut sh a)
  | .started, .cancel, sh => some (Started.onCanceled sh)
  | .started, .abandon, sh => some (sh, Started.onAbandoned)
  | .scheduledActivityCancelCommandCreated, .commandRequestCancelActivityTask, sh =>
    some (sh, .default .scheduledActivityCancelCommandCreated)
  | .scheduledActivityCancelCommandCreated, .activityTaskCancelRequested, sh =>
    some (sh, .default .scheduledActivityCancelEventRecorded)
  | .scheduledActivityCancelEventRecorded, .activityTaskCanceled a, sh =>
    some (ScheduledActivityCancelEventRecorded.onActivityTaskCanceled sh a)
  | .scheduledActivityCancelEventRecorded, .activityTaskStarted _, sh =>
    some (sh, .default .startedActivityCancelEventRecorded)
  | .scheduledActivityCancelEventRecorded, .activityTaskTimedOut a, sh =>
    some (ScheduledActivityCancelEventRecorded.onActivityTaskTimedOut sh a)
  | .startedActivityCancelCommandCreated, .commandRequestCancelActivityTask, sh =>
    some (sh, .default .startedActivityCancelCommandCreated)
  | .startedActivityCancelCommandCreated, .activityTaskCancelRequested, sh =>
    some (sh, .default .startedActivityCancelEventRecorded)
  | .startedActivityCancelEventRecorded, .activityTaskFailed a, sh =>
    some (StartedActivityCancelEventRecorded.onActivityTaskFailed sh a)
  | .startedActivityCancelEventRecorded, .activityTaskCompleted a, sh =>
    some (StartedActivityCancelEventRecorded.onActivityTaskCompleted sh a)
  | .startedActivityCancelEventRecorded, .activityTaskTimedOut a, sh =>
    some (StartedActivityCancelEventRecorded.onActivityTaskTimedOut sh a)
  | .startedActivityCancelEventRecorded, .activityTaskCanceled a, sh =>
    some (StartedActivityCancelEventRecorded.onActivityTaskCanceled sh a)
  | .canceled, .activityTaskStarted n, sh => some (Canceled.onActivityTaskStarted sh n)
  | .canceled, .activityTaskCompleted a, sh => some (Canceled.onActivityTaskCompleted sh a)
  | _, _, _ => none

/-- The state names, as `Display` prints them. -/
def ActivityMachineState.name : ActivityMachineState → String
  | .created => "Created"
  | .scheduleCommandCreated => "ScheduleCommandCreated"
  | .scheduledEventRecorded => "ScheduledEventRecorded"
  | .started => "Started"
  | .scheduledActivityCancelCommandCreated => "ScheduledActivityCancelCommandCreated"
  | .scheduledActivityCancelEventRecorded => "ScheduledActivityCancelEventRecorded"
  | .startedActivityCancelCommandCreated => "StartedActivityCancelCommandCreated"
  | .startedActivityCancelEventRecorded => "StartedActivityCancelEventRecorded"
  | .completed => "Completed"
  | .failed => "Failed"
  | .timedOut => "TimedOut"
  | .canceled => "Canceled"

/-- `is_final`: the states no transition leaves. -/
def ActivityMachineState.isFinal : ActivityMachineState → Bool
  | .completed | .failed | .timedOut => true
  | _ => false

/-! ## Conversions and the adapter -/

/-- `TryFrom<HistEventData> for ActivityMachineEvents`. -/
def ofHistEvent (e : HistEventData) : Except WFMachinesError ActivityMachineEvents :=
  let lastTaskInHistory := e.currentTaskIsLastInHistory
  let e := e.event
  match e.eventType, e.attributes with
  | .activityTaskScheduled, some (.activityTaskScheduledEventAttributes attrs) =>
    .ok (.activityTaskScheduled
      { eventId := e.eventId, actId := attrs.activityId, actType := attrs.activityType.getD "",
        lastTaskInHistory })
  | .activityTaskScheduled, _ =>
    .error (.fatal ("Activity scheduled attributes were unset: " ++ e.display))
  | .activityTaskStarted, _ => .ok (.activityTaskStarted e.eventId)
  | .activityTaskCompleted, some (.activityTaskCompletedEventAttributes attrs) =>
    .ok (.activityTaskCompleted attrs)
  | .activityTaskCompleted, _ =>
    .error (.fatal ("Activity completion attributes were unset: " ++ e.display))
  | .activityTaskFailed, some (.activityTaskFailedEventAttributes attrs) =>
    .ok (.activityTaskFailed attrs)
  | .activityTaskFailed, _ =>
    .error (.fatal ("Activity failure attributes were unset: " ++ e.display))
  | .activityTaskTimedOut, some (.activityTaskTimedOutEventAttributes attrs) =>
    .ok (.activityTaskTimedOut attrs)
  | .activityTaskTimedOut, _ =>
    .error (.fatal ("Activity timeout attributes were unset: " ++ e.display))
  | .activityTaskCancelRequested, _ => .ok .activityTaskCancelRequested
  | .activityTaskCanceled, some (.activityTaskCanceledEventAttributes attrs) =>
    .ok (.activityTaskCanceled attrs)
  | .activityTaskCanceled, _ =>
    .error (.fatal ("Activity cancellation attributes were unset: " ++ e.display))
  | _, _ => .error (.nondeterminism ("Activity machine does not handle this event: " ++ e.display))

/-- `TryFrom<CommandType> for ActivityMachineEvents`. -/
def ofCommandType : CommandType → Option ActivityMachineEvents
  | .scheduleActivityTask => some .commandScheduleActivityTask
  | .requestCancelActivityTask => some .commandRequestCancelActivityTask
  | _ => none

/-- `convert_payloads`: a result holds exactly one payload. -/
def convertPayloads (eventInfo : Option EventInfo) (result : Option Payloads) :
    Except WFMachinesError (Option Payload) :=
  match result with
  | none => .ok none
  | some ps =>
    match payloadsToPayload ps with
    | .ok p => .ok (some p)
    | .error pe => .error (.fatal ("Not exactly one payload in activity result (" ++ pe.name ++
      ") for event: " ++ EventInfo.debugOption eventInfo))

/-- The `ResolveActivity` job of a status. -/
def resolve (dat : SharedState) (status : ActivityResolutionStatus) : MachineResponse :=
  .pushWFJob (.resolveActivity
    { seq := dat.attrs.seq, result := some { status := some status }, isLocal := false })

/-- `ActivityMachine::create_cancelation_resolve`. -/
def createCancelationResolve (dat : SharedState) (attrs : Option ActivityTaskCanceledEventAttributes) :
    MachineResponse :=
  resolve dat (.cancelled (some (newCancelFailure dat (attrs.getD .default))))

/-- `ActivityMachine::machine_responses_from_cancel_request`: the cancel command, and the
resolution unless the type waits for the cancellation to complete. -/
def machineResponsesFromCancelRequest (dat : SharedState) (cancelCmd : ProtoCommand) :
    List MachineResponse :=
  .issueNewCommand cancelCmd ::
    (if dat.cancellationType != .waitCancellationCompleted then [createCancelationResolve dat none]
     else [])

/-- `WFMachinesAdapter for ActivityMachine`. -/
def adaptResponse (m : ActivityMachine) (myCommand : ActivityMachineCommand)
    (eventInfo : Option EventInfo) : Except WFMachinesError (List MachineResponse) :=
  match myCommand with
  | .complete result => do
    let p ← convertPayloads eventInfo result
    pure [resolve m.sharedState (.completed p)]
  | .fail failure => .ok [resolve m.sharedState (.failed (some failure))]
  | .requestCancellation c => .ok (machineResponsesFromCancelRequest m.sharedState c)
  | .cancel attrs => .ok [createCancelationResolve m.sharedState attrs]

/-- The activity machine as a `TemporalStateMachine`. -/
def machineDef :
    MachineDef ActivityMachineState ActivityMachineEvents SharedState ActivityMachineCommand :=
  { name := "ActivityMachine", transitions, stateName := ActivityMachineState.name,
    ofCommandType, ofHistEvent, adaptResponse }

/-! ## Machine methods -/

/-- `ActivityMachine::new_scheduled`: the machine after `Schedule`, and the schedule command's
attributes. -/
def ActivityMachine.newScheduled (attrs : ScheduleActivity) (internalFlags : InternalFlags) :
    ActivityMachine × CommandAttributes :=
  let s : ActivityMachine := StateMachine.fromParts .created
    { cancellationType := attrs.cancellationType, attrs, internalFlags, scheduledEventId := 0,
      startedEventId := 0, cancelledBeforeSent := false }
  let s := (onEvent transitions s .schedule).1
  (s, .scheduleActivityTaskCommandAttributes s.sharedState.attrs.activityId
    s.sharedState.attrs.activityType)

/-- The responses `cancel` makes of one command of a cancel transition. The `panic!` arm for
the other commands is never reached: no cancel arm yields them (`cancel_commands`). -/
def cancelResponses (dat : SharedState) : ActivityMachineCommand → List MachineResponse
  | .requestCancellation cmd => machineResponsesFromCancelRequest dat cmd
  | .cancel details => [createCancelationResolve dat details]
  | _ => []

/-- `ActivityMachine::cancel`: nothing in a terminal state, else `Abandon` or `Cancel` by the
cancellation type. -/
def ActivityMachine.cancel (m : ActivityMachine) :
    ActivityMachine × Except (MachineError WFMachinesError) (List MachineResponse) :=
  match m.state with
  -- "Ignore attempted cancels in terminal states"
  | some .completed | some .canceled | some .failed | some .timedOut => (m, .ok [])
  | _ =>
    let event := match m.sharedState.cancellationType with
      | .abandon => ActivityMachineEvents.abandon
      | _ => .cancel
    match onEvent transitions m event with
    | (m', .ok cmds) => (m', .ok (cmds.flatMap (cancelResponses m'.sharedState)))
    | (m', .error e) => (m', .error e)

/-- `ActivityMachine::was_cancelled_before_sent_to_server`. -/
def ActivityMachine.wasCancelledBeforeSentToServer (m : ActivityMachine) : Bool :=
  m.sharedState.cancelledBeforeSent

/-- One input to an activity machine, as `WorkflowMachines` delivers it. -/
def step (m : ActivityMachine) (i : MachineInput) :
    Except WFMachinesError (ActivityMachine × List MachineResponse) :=
  machineDef.step (fun _ => ActivityMachine.cancel) m i

/-! ## An abandoned activity that fails -/

/-- Activity 1 (`echo`) with cancellation type `ABANDON`, as scheduled. -/
def abandonedEcho : ActivityMachine :=
  (ActivityMachine.newScheduled
    { seq := 1, activityId := "1", activityType := "echo", cancellationType := .abandon }
    (.enabled [] [])).1

/-- An event of the activity, applied in the last task of the history. -/
def activityEvent (eventId : Int) (eventType : EventType) (attributes : Attributes) : MachineInput :=
  .handleEvent
    { event := { eventId, eventType, attributes := some attributes }, replaying := false,
      currentTaskIsLastInHistory := true }

/-- The schedule command is sent and recorded as event 5, lang cancels (abandons) the activity,
which the worker still starts (event 6) and which then fails (event 7). -/
def abandonThenFailedInputs : List MachineInput :=
  [.handleCommand .scheduleActivityTask,
   activityEvent 5 .activityTaskScheduled (.activityTaskScheduledEventAttributes ⟨"1", some "echo"⟩),
   .cancel "",
   activityEvent 6 .activityTaskStarted .other,
   activityEvent 7 .activityTaskFailed
     (.activityTaskFailedEventAttributes ⟨none, 5, 6, "worker", .maximumAttemptsReached⟩)]

/-- The start after the abandon is ignored, but the failure has no arm in `Canceled`: the run
ends in a fatal error. -/
theorem run_abandonThenFailed :
    (Steps.run step abandonedEcho (abandonThenFailedInputs.take 4)).map (·.1.state) =
      .ok (some .canceled) ∧
    Steps.run step abandonedEcho abandonThenFailedInputs =
      .error (.fatal ("ActivityMachine in state Canceled says the transition is invalid during " ++
        "event EventInfo \x7b event_id: 7, event_type: ActivityTaskFailed \x7d")) :=
  ⟨rfl, rfl⟩

end SdkCore.Activity
