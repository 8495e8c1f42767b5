import SdkCore.Machines.Basic

/-!
# The Nexus operation machine

`crates/sdk-core/src/worker/workflow/machines/nexus_operation_state_machine.rs`. An operation is
scheduled by its command and recorded by `NexusOperationScheduled`; it then starts
(`NexusOperationStarted`, with a token) or resolves at once, and ends by one of the four
terminal events. Lang is told twice: `ResolveNexusOperationStart` once the start is known, and
`ResolveNexusOperation` with the result.

A cancel asks the server to cancel the operation (`IssueCancel`) at most once, guarded by
`cancel_sent`. Under `ABANDON` no request is sent and, with `TRY_CANCEL`, lang is resolved as
cancelled at once. From `Started` both modes move to `Cancelled`, whose handlers absorb the
server's later terminal events; from `ScheduledEventRecorded` the machine stays where it is.

The three `Cancelled` handlers for a late completion, failure or timeout reject it with the
message "Nexus operation which don't have the ABANDON cancellation type cannot complete after
being cancelled", but their guard tests for `ABANDON` itself (`Cancelled.rejectLate`).
-/

namespace SdkCore.Nexus

open Fsm

/-- `NexusOperationMachine`'s states. -/
inductive NexusOperationMachineState where
  | scheduleCommandCreated | scheduledEventRecorded | started | completed | failed | timedOut
  | cancelled
  deriving Repr, DecidableEq

/-- `NexusOperationMachineEvents`, each carrying the attribute fields its handler reads. -/
inductive NexusOperationMachineEvents where
  | commandScheduleNexusOperation
  | nexusOperationScheduled (eventId : Int)
  | cancel
  | commandRequestCancelNexusOperation
  | nexusOperationCancelRequested
  | nexusOperationCompleted (result : Option Payload)
  | nexusOperationFailed (failure : Option Failure)
  | nexusOperationCanceled (failure : Option Failure)
  | nexusOperationTimedOut (failure : Option Failure)
  | nexusOperationStarted (operationToken : String)
  | nexusOperationCancelRequestCompleted
  | nexusOperationCancelRequestFailed (failure : Option Failure)
  deriving Repr, DecidableEq

/-- `NexusOperationCommand`. -/
inductive NexusOperationCommand where
  | start (operationToken : String)
  | startSync
  | failBeforeStart (failure : Failure)
  | complete (result : Option Payload)
  | fail (failure : Failure)
  | cancel (failure : Failure)
  | timedOut (failure : Failure)
  | issueCancel
  deriving Repr, DecidableEq

/-- The Nexus machine's `SharedState`. -/
structure SharedState where
  langSeqNum : Nat
  scheduledEventId : Int
  endpoint : String
  service : String
  operation : String
  cancelledBeforeSent : Bool
  cancelSent : Bool
  cancelType : NexusOperationCancellationType
  operationToken : Option String
  deriving Repr, DecidableEq

/-- `NexusOperationMachine`. -/
abbrev NexusOperationMachine := StateMachine NexusOperationMachineState SharedState

/-- A transition result of the Nexus machine. -/
abbrev NexusOperationMachineTransition :=
  TransitionResult NexusOperationMachineState NexusOperationCommand WFMachinesError

/-! ## Failures -/

/-- `SharedState::failure`: a failure naming the operation, with `cause` under it. -/
def SharedState.failure (ss : SharedState) (message : String) (cause : Failure) : Failure :=
  { message, cause := some cause,
    failureInfo := some (.nexusOperationExecutionFailureInfo ss.scheduledEventId ss.endpoint
      ss.service ss.operation (ss.operationToken.getD "")) }

/-- `SharedState::cancelled_failure`. -/
def SharedState.cancelledFailure (ss : SharedState) (message : String) : Failure :=
  ss.failure message { message := "", cause := none, failureInfo := some (.canceledFailureInfo none) }

/-- `failure.unwrap_or_else(|| Failure { message, ..Default::default() })`. -/
def failureOr (failure : Option Failure) (message : String) : Failure :=
  failure.getD { message, cause := none, failureInfo := none }

/-- `completion_of_not_abandoned_err`. -/
def completionOfNotAbandonedErr : WFMachinesError :=
  .nondeterminism ("Nexus operation which don\x27t have the ABANDON cancellation type cannot " ++
    "complete after being cancelled.")

/-! ## Handlers -/

/-- `ScheduleCommandCreated::on_scheduled`. -/
def ScheduleCommandCreated.onScheduled (state : SharedState) (eventId : Int) :
    SharedState × NexusOperationMachineTransition :=
  ({ state with scheduledEventId := eventId }, .default .scheduledEventRecorded)

/-- `ScheduleCommandCreated::on_cancelled`. -/
def ScheduleCommandCreated.onCancelled (state : SharedState) :
    SharedState × NexusOperationMachineTransition :=
  let state := { state with cancelledBeforeSent := true }
  (state, .ok [.failBeforeStart (state.cancelledFailure
    "Nexus Operation cancelled before scheduled")] .cancelled)

/-- `ScheduledEventRecorded::on_issue_cancel`: the cancel request is issued once. -/
def ScheduledEventRecorded.onIssueCancel (ss : SharedState) :
    SharedState × NexusOperationMachineTransition :=
  if !ss.cancelSent then ({ ss with cancelSent := true }, .ok [.issueCancel] .scheduledEventRecorded)
  else (ss, .default .scheduledEventRecorded)

/-- `ScheduledEventRecorded::on_completed`: started and completed at once. -/
def ScheduledEventRecorded.onCompleted (result : Option Payload) : NexusOperationMachineTransition :=
  .ok [.startSync, .complete result] .completed

/-- `ScheduledEventRecorded::on_failed`. -/
def ScheduledEventRecorded.onFailed (failure : Option Failure) : NexusOperationMachineTransition :=
  .ok [.failBeforeStart (failureOr failure
    "Nexus operation failed but failure field was not populated")] .failed

/-- `ScheduledEventRecorded::on_canceled`. -/
def ScheduledEventRecorded.onCanceled (failure : Option Failure) : NexusOperationMachineTransition :=
  .ok [.failBeforeStart (failureOr failure
    "Nexus operation was cancelled but failure field was not populated")] .cancelled

/-- `ScheduledEventRecorded::on_timed_out`. -/
def ScheduledEventRecorded.onTimedOut (failure : Option Failure) : NexusOperationMachineTransition :=
  .ok [.failBeforeStart (failureOr failure
    "Nexus operation timed out but failure field was not populated")] .timedOut

/-- `ScheduledEventRecorded::on_started`. -/
def ScheduledEventRecorded.onStarted (ss : SharedState) (operationToken : String) :
    SharedState × NexusOperationMachineTransition :=
  ({ ss with operationToken := some operationToken }, .ok [.start operationToken] .started)

/-- `Started::on_issue_cancel`: `ABANDON` and `TRY_CANCEL` leave for `Cancelled`. -/
def Started.onIssueCancel (ss : SharedState) : SharedState × NexusOperationMachineTransition :=
  if !ss.cancelSent then
    let dest : NexusOperationMachineState :=
      if ss.cancelType = .abandon ∨ ss.cancelType = .tryCancel then .cancelled else .started
    ({ ss with cancelSent := true }, .ok [.issueCancel] dest)
  else (ss, .ok [] .started)

/-- `Started::on_completed`. -/
def Started.onCompleted (result : Option Payload) : NexusOperationMachineTransition :=
  .ok [.complete result] .completed

/-- `Started::on_failed`. -/
def Started.onFailed (failure : Option Failure) : NexusOperationMachineTransition :=
  .ok [.fail (failureOr failure "Nexus operation failed but failure field was not populated")]
    .failed

/-- `Started::on_canceled`. -/
def Started.onCanceled (failure : Option Failure) : NexusOperationMachineTransition :=
  .ok [.cancel (failureOr failure
    "Nexus operation was cancelled but failure field was not populated")] .cancelled

/-- `Started::on_cancel_request_completed`: only `WAIT_CANCELLATION_REQUESTED` resolves. -/
def Started.onCancelRequestCompleted (ss : SharedState) : NexusOperationMachineTransition :=
  if ss.cancelType = .waitCancellationRequested then
    .ok [.cancel (ss.cancelledFailure "Nexus operation cancellation request completed")] .cancelled
  else .ok [] .started

/-- `Started::on_cancel_request_failed`: under `WAIT_CANCELLATION_REQUESTED` lang is failed,
and the machine stays `Started`. -/
def Started.onCancelRequestFailed (ss : SharedState) (failure : Option Failure) :
    NexusOperationMachineTransition :=
  if ss.cancelType = .waitCancellationRequested then
    let message := "Nexus operation cancellation request failed"
    .ok [.fail (ss.failure message (failureOr failure message))] .started
  else .ok [] .started

/-- `Started::on_timed_out`. -/
def Started.onTimedOut (failure : Option Failure) : NexusOperationMachineTransition :=
  .ok [.timedOut (failureOr failure
    "Nexus operation timed out but failure field was not populated")] .timedOut

/-- The body shared by `Cancelled::on_completed`, `on_failed` and `on_timed_out`: a terminal
event after the cancel is dropped, and rejected when the cancellation type is `ABANDON`. -/
def Cancelled.rejectLate (ss : SharedState) : NexusOperationMachineTransition :=
  if ss.cancelType = .abandon then .err completionOfNotAbandonedErr else .ok [] .cancelled

/-- `Cancelled::on_completed`. -/
def Cancelled.onCompleted (ss : SharedState) : NexusOperationMachineTransition :=
  Cancelled.rejectLate ss

/-- `Cancelled::on_failed`. -/
def Cancelled.onFailed (ss : SharedState) : NexusOperationMachineTransition :=
  Cancelled.rejectLate ss

/-- `Cancelled::on_timed_out`. -/
def Cancelled.onTimedOut (ss : SharedState) : NexusOperationMachineTransition :=
  Cancelled.rejectLate ss

/-- `Cancelled::on_cancel_request_completed`. -/
def Cancelled.onCancelRequestCompleted : NexusOperationMachineTransition := .ok [] .cancelled

/-! ## The table -/

/-- The `fsm!` table of `NexusOperationMachine`. -/
def transitions : Transitions NexusOperationMachineState NexusOperationMachineEvents SharedState
    NexusOperationCommand WFMachinesError
  | .scheduleCommandCreated, .commandScheduleNexusOperation, sh =>
    some (sh, .default .scheduleCommandCreated)
  | .scheduleCommandCreated, .nexusOperationScheduled eventId, sh =>
    some (ScheduleCommandCreated.onScheduled sh eventId)
  | .scheduleCommandCreated, .cancel, sh => some (ScheduleCommandCreated.onCancelled sh)
  | .scheduledEventRecorded, .cancel, sh => some (ScheduledEventRecorded.onIssueCancel sh)
  | .scheduledEventRecorded, .commandRequestCancelNexusOperation, sh =>
    some (sh, .default .scheduledEventRecorded)
  | .scheduledEventRecorded, .nexusOperationCancelRequested, sh =>
    some (sh, .default .scheduledEventRecorded)
  | .scheduledEventRecorded, .nexusOperationCompleted r, sh =>
    some (sh, ScheduledEventRecorded.onCompleted r)
  | .scheduledEventRecorded, .nexusOperationFailed f, sh =>
    some (sh, ScheduledEventRecorded.onFailed f)
  | .scheduledEventRecorded, .nexusOperationCanceled f, sh =>
    some (sh, ScheduledEventRecorded.onCanceled f)
  | .scheduledEventRecorded, .nexusOperationTimedOut f, sh =>
    some (sh, ScheduledEventRecorded.onTimedOut f)
  | .scheduledEventRecorded, .nexusOperationStarted token, sh =>
    some (ScheduledEventRecorded.onStarted sh token)
  | .started, .cancel, sh => some (Started.onIssueCancel sh)
  | .started, .commandRequestCancelNexusOperation, sh => some (sh, .default .started)
  | .started, .nexusOperationCancelRequested, sh => some (sh, .default .started)
  | .started, .nexusOperationCompleted r, sh => some (sh, Started.onCompleted r)
  | .started, .nexusOperationFailed f, sh => some (sh, Started.onFailed f)
  | .started, .nexusOperationCanceled f, sh => some (sh, Started.onCanceled f)
  | .started, .nexusOperationCancelRequestCompleted, sh =>
    some (sh, Started.onCancelRequestCompleted sh)
  | .started, .nexusOperationCancelRequestFailed f, sh =>
    some (sh, Started.onCancelRequestFailed sh f)
  | .started, .nexusOperationTimedOut f, sh => some (sh, Started.onTimedOut f)
  | .cancelled, .cancel, sh => some (sh, .default .cancelled)
  | .cancelled, .commandRequestCancelNexusOperation, sh => some (sh, .default .cancelled)
  | .cancelled, .nexusOperationCancelRequested, sh => some (sh, .default .cancelled)
  | .cancelled, .nexusOperationCompleted _, sh => some (sh, Cancelled.onCompleted sh)
  | .cancelled, .nexusOperationFailed _, sh => some (sh, Cancelled.onFailed sh)
  | .cancelled, .nexusOperationTimedOut _, sh => some (sh, Cancelled.onTimedOut sh)
  | .cancelled, .nexusOperationCancelRequestCompleted, sh =>
    some (sh, Cancelled.onCancelRequestCompleted)
  | .cancelled, .nexusOperationCancelRequestFailed _, sh => some (sh, .default .cancelled)
  | .cancelled, .nexusOperationCanceled _, sh => some (sh, .default .cancelled)
  -- "Ignore cancels in all terminal states"
  | .completed, .cancel, sh => some (sh, .default .completed)
  | .failed, .cancel, sh => some (sh, .default .failed)
  | .timedOut, .cancel, sh => some (sh, .default .timedOut)
  | .completed, .nexusOperationCancelRequestCompleted, sh => some (sh, .default .completed)
  | .failed, .nexusOperationCancelRequestCompleted, sh => some (sh, .default .failed)
  | .timedOut, .nexusOperationCancelRequestCompleted, sh => some (sh, .default .timedOut)
  | .completed, .nexusOperationCancelRequestFailed _, sh => some (sh, .default .completed)
  | .failed, .nexusOperationCancelRequestFailed _, sh => some (sh, .default .failed)
  | .timedOut, .nexusOperationCancelRequestFailed _, sh => some (sh, .default .timedOut)
  | _, _, _ => none

/-- The state names, as `Display` prints them. -/
def NexusOperationMachineState.name : NexusOperationMachineState → String
  | .scheduleCommandCreated => "ScheduleCommandCreated"
  | .scheduledEventRecorded => "ScheduledEventRecorded"
  | .started => "Started"
  | .completed => "Completed"
  | .failed => "Failed"
  | .timedOut => "TimedOut"
  | .cancelled => "Cancelled"

/-! ## Conversions and the adapter -/

/-- `TryFrom<HistEventData> for NexusOperationMachineEvents`. -/
def ofHistEvent (e : HistEventData) : Except WFMachinesError NexusOperationMachineEvents :=
  let e := e.event
  match e.eventType, e.attributes with
  | .nexusOperationScheduled, some .nexusOperationScheduledEventAttributes =>
    .ok (.nexusOperationScheduled e.eventId)
  | .nexusOperationScheduled, _ =>
    .error (.nondeterminism "NexusOperationScheduled attributes were unset or malformed")
  | .nexusOperationStarted, some (.nexusOperationStartedEventAttributes token) =>
    .ok (.nexusOperationStarted token)
  | .nexusOperationStarted, _ =>
    .error (.nondeterminism "NexusOperationStarted attributes were unset or malformed")
  | .nexusOperationCompleted, some (.nexusOperationCompletedEventAttributes r) =>
    .ok (.nexusOperationCompleted r)
  | .nexusOperationCompleted, _ =>
    .error (.nondeterminism "NexusOperationCompleted attributes were unset or malformed")
  | .nexusOperationFailed, some (.nexusOperationFailedEventAttributes f) =>
    .ok (.nexusOperationFailed f)
  | .nexusOperationFailed, _ =>
    .error (.nondeterminism "NexusOperationFailed attributes were unset or malformed")
  | .nexusOperationCanceled, some (.nexusOperationCanceledEventAttributes f) =>
    .ok (.nexusOperationCanceled f)
  | .nexusOperationCanceled, _ =>
    .error (.nondeterminism "NexusOperationCanceled attributes were unset or malformed")
  | .nexusOperationTimedOut, some (.nexusOperationTimedOutEventAttributes f) =>
    .ok (.nexusOperationTimedOut f)
  | .nexusOperationTimedOut, _ =>
    .error (.nondeterminism "NexusOperationTimedOut attributes were unset or malformed")
  | .nexusOperationCancelRequested, _ => .ok .nexusOperationCancelRequested
  | .nexusOperationCancelRequestCompleted,
      some .nexusOperationCancelRequestCompletedEventAttributes =>
    .ok .nexusOperationCancelRequestCompleted
  | .nexusOperationCancelRequestCompleted, _ =>
    .error (.nondeterminism
      "NexusOperationCancelRequestCompleted attributes were unset or malformed")
  | .nexusOperationCancelRequestFailed,
      some (.nexusOperationCancelRequestFailedEventAttributes f) =>
    .ok (.nexusOperationCancelRequestFailed f)
  | .nexusOperationCancelRequestFailed, _ =>
    .error (.nondeterminism "NexusOperationCancelRequestFailed attributes were unset or malformed")
  | _, _ => .error (.nondeterminism ("Nexus operation machine does not handle this event: " ++
      e.display))

/-- `TryFrom<CommandType> for NexusOperationMachineEvents`. -/
def ofCommandType : CommandType → Option NexusOperationMachineEvents
  | .scheduleNexusOperation => some .commandScheduleNexusOperation
  | .requestCancelNexusOperation => some .commandRequestCancelNexusOperation
  | _ => none

/-- A `ResolveNexusOperationStart` job for the operation. -/
def resolveStart (ss : SharedState) (status : ResolveNexusOperationStartStatus) : MachineResponse :=
  .pushWFJob (.resolveNexusOperationStart { seq := ss.langSeqNum, status := some status })

/-- A `ResolveNexusOperation` job for the operation. -/
def resolve (ss : SharedState) (status : NexusOperationResultStatus) : MachineResponse :=
  .pushWFJob (.resolveNexusOperation { seq := ss.langSeqNum, result := some { status := some status } })

/-- `WFMachinesAdapter for NexusOperationMachine`. -/
def adaptResponse (m : NexusOperationMachine) (myCommand : NexusOperationCommand)
    (_eventInfo : Option EventInfo) : Except WFMachinesError (List MachineResponse) :=
  let ss := m.sharedState
  match myCommand with
  | .startSync => .ok [resolveStart ss (.startedSync true)]
  | .start operationToken => .ok [resolveStart ss (.operationToken operationToken)]
  | .failBeforeStart failure => .ok [resolveStart ss (.failed failure)]
  | .complete c => .ok [resolve ss (.completed (c.getD default))]
  | .fail f => .ok [resolve ss (.failed f)]
  | .cancel f => .ok [resolve ss (.cancelled f)]
  | .timedOut f => .ok [resolve ss (.timedOut f)]
  | .issueCancel =>
    let request : List MachineResponse :=
      if ss.cancelType ≠ .abandon then
        [.issueNewCommand
          (CommandAttributes.requestCancelNexusOperationCommandAttributes ss.scheduledEventId).toCommand]
      else []
    -- "Immediately resolve abandon/trycancel modes"
    let immediate : List MachineResponse :=
      if ss.cancelType = .abandon ∨ ss.cancelType = .tryCancel then
        [resolve ss (.cancelled (ss.cancelledFailure "Nexus operation cancelled after starting"))]
      else []
    .ok (request ++ immediate)

/-- The Nexus operation machine as a `TemporalStateMachine`. -/
def machineDef : MachineDef NexusOperationMachineState NexusOperationMachineEvents SharedState
    NexusOperationCommand :=
  { name := "NexusOperationMachine", transitions, stateName := NexusOperationMachineState.name,
    ofCommandType, ofHistEvent, adaptResponse }

/-! ## Machine methods -/

/-- `NexusOperationMachine::new_scheduled`: the machine and its schedule command. -/
def NexusOperationMachine.newScheduled (attribs : ScheduleNexusOperation) :
    NexusOperationMachine × ProtoCommand :=
  (StateMachine.fromParts .scheduleCommandCreated
    { langSeqNum := attribs.seq, scheduledEventId := 0, endpoint := attribs.endpoint,
      service := attribs.service, operation := attribs.operation, cancelledBeforeSent := false,
      cancelSent := false, cancelType := attribs.cancellationType, operationToken := none },
   attribs.toAttributes.toCommand)

/-- `NexusOperationMachine::cancel`: the `Cancel` transition's commands, adapted. -/
def NexusOperationMachine.cancel (m : NexusOperationMachine) :
    NexusOperationMachine × Except (MachineError WFMachinesError) (List MachineResponse) :=
  match onEvent transitions m .cancel with
  | (m', .ok cmds) =>
    match machineDef.processMachineCommands m' none cmds with
    | .ok r => (m', .ok r)
    | .error e => (m', .error (.underlying e))
  | (m', .error e) => (m', .error e)

/-- `NexusOperationMachine::was_cancelled_before_sent_to_server`. -/
def NexusOperationMachine.wasCancelledBeforeSentToServer (m : NexusOperationMachine) : Bool :=
  m.sharedState.cancelledBeforeSent

/-- One input to a Nexus machine, as `WorkflowMachines` delivers it. -/
def step (m : NexusOperationMachine) (i : MachineInput) :
    Except WFMachinesError (NexusOperationMachine × List MachineResponse) :=
  machineDef.step (fun _ => NexusOperationMachine.cancel) m i

/-! ## Operations on fixed inputs -/

/-- An operation on `"endpoint"`, scheduled with cancellation type `ct`. -/
def scheduledOperation (ct : NexusOperationCancellationType) : NexusOperationMachine :=
  (NexusOperationMachine.newScheduled
    { seq := 1, endpoint := "endpoint", service := "service", operation := "operation",
      input := none, scheduleToCloseTimeout := none, nexusHeader := [], cancellationType := ct,
      scheduleToStartTimeout := none, startToCloseTimeout := none }).1

/-- An event of the operation, applied in the last task of the history. -/
def operationEvent (eventId : Int) (eventType : EventType) (attributes : Attributes) :
    MachineInput :=
  .handleEvent
    { event := { eventId, eventType, attributes := some attributes }, replaying := false,
      currentTaskIsLastInHistory := true }

/-- The schedule command is sent and recorded as event 5, the operation starts (event 6), lang
cancels it, and the server still records its completion (event 7). -/
def startedThenCancelledInputs : List MachineInput :=
  [.handleCommand .scheduleNexusOperation,
   operationEvent 5 .nexusOperationScheduled .nexusOperationScheduledEventAttributes,
   operationEvent 6 .nexusOperationStarted (.nexusOperationStartedEventAttributes "token"),
   .cancel "",
   operationEvent 7 .nexusOperationCompleted (.nexusOperationCompletedEventAttributes none)]

/-- As `startedThenCancelledInputs`, but lang cancels before the operation starts. -/
def cancelledThenStartedInputs : List MachineInput :=
  [.handleCommand .scheduleNexusOperation,
   operationEvent 5 .nexusOperationScheduled .nexusOperationScheduledEventAttributes,
   .cancel "",
   operationEvent 6 .nexusOperationStarted (.nexusOperationStartedEventAttributes "token"),
   operationEvent 7 .nexusOperationCompleted (.nexusOperationCompletedEventAttributes none)]

end SdkCore.Nexus
