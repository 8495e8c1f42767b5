import SdkCore.Machines.Basic
import SdkCore.Steps

/-!
# The child workflow machine

`crates/sdk-core/src/worker/workflow/machines/child_workflow_state_machine.rs`. A child is
started by a command, recorded by `StartChildWorkflowExecutionInitiated`, then either fails to
start or starts and ends completed, failed, timed out, cancelled or terminated. Lang gets two
resolutions: `ResolveChildWorkflowExecutionStart` when the start is known (succeeded, failed,
or cancelled before the command was sent) and `ResolveChildWorkflowExecution` when the child
ends.

A cancel after the start issues `IssueCancelAfterStarted`. Its adapter asks the server to cancel
the child (a core-originated `RequestCancelExternalWorkflowExecution`) unless the type is
`ABANDON`, and resolves lang at once under `ABANDON` and `TRY_CANCEL`; under the two `WAIT`
types the machine stays in `Started`.
-/

namespace SdkCore.ChildWorkflow

open Fsm

/-- `ChildWorkflowMachineState`. `Cancelled` carries `seen_cancelled_event`. -/
inductive ChildWorkflowMachineState where
  | created | startCommandCreated | startEventRecorded | started | startFailed
  | completed | failed | timedOut | cancelled (seenCancelledEvent : Bool) | terminated
  deriving Repr, DecidableEq

/-- `ChildWorkflowExecutionStartedEvent`. -/
structure ChildWorkflowExecutionStartedEvent where
  workflowExecution : WorkflowExecution
  startedEventId : Int
  deriving Repr, DecidableEq

/-- `ChildWorkflowInitiatedData`. -/
structure ChildWorkflowInitiatedData where
  eventId : Int
  wfType : String
  wfId : String
  lastTaskInHistory : Bool
  deriving Repr, DecidableEq

/-- `ChildWorkflowMachineEvents`. -/
inductive ChildWorkflowMachineEvents where
  | schedule
  | commandStartChildWorkflowExecution
  | startChildWorkflowExecutionInitiated (d : ChildWorkflowInitiatedData)
  | cancel (reason : String)
  | childWorkflowExecutionStarted (e : ChildWorkflowExecutionStartedEvent)
  | startChildWorkflowExecutionFailed (cause : StartChildWorkflowExecutionFailedCause)
  | childWorkflowExecutionCompleted (result : Option Payloads)
  | childWorkflowExecutionFailed (attrs : ChildWorkflowExecutionFailedEventAttributes)
  | childWorkflowExecutionTimedOut (retryState : RetryState)
  | childWorkflowExecutionCancelled
  | childWorkflowExecutionTerminated
  | commandRequestCancelExternalWorkflowExecution
  deriving Repr, DecidableEq

/-- `ChildWorkflowCommand`. -/
inductive ChildWorkflowCommand where
  | start (we : WorkflowExecution)
  | complete (result : Option Payloads)
  | fail (failure : Failure)
  | cancel
  | startFail (cause : StartChildWorkflowExecutionFailedCause)
  | startCancel (failure : Failure)
  | issueCancelAfterStarted (reason : String)
  deriving Repr, DecidableEq

/-- The child's `SharedState`. -/
structure SharedState where
  initiatedEventId : Int
  startedEventId : Int
  langSequenceNumber : Nat
  namespaceName : String
  workflowId : String
  runId : String
  workflowType : String
  cancelledBeforeSent : Bool
  cancelType : ChildWorkflowCancellationType
  internalFlags : InternalFlags
  deriving Repr, DecidableEq

/-- `SharedState::abandons`. -/
def SharedState.abandons (state : SharedState) : Bool :=
  match state.cancelType with
  | .abandon => true
  | _ => false

/-- `ChildWorkflowMachine`. -/
abbrev ChildWorkflowMachine := StateMachine ChildWorkflowMachineState SharedState

/-- A transition result of the child workflow machine. -/
abbrev ChildWorkflowMachineTransition :=
  TransitionResult ChildWorkflowMachineState ChildWorkflowCommand WFMachinesError

/-! ## Failures built for lang -/

/-- `failure_info_from_state`. -/
def failureInfoFromState (state : SharedState) (retryState : RetryState) : Option FailureInfo :=
  some (.childWorkflowExecutionFailureInfo state.namespaceName
    { workflowId := state.workflowId, runId := state.runId } state.workflowType
    state.initiatedEventId state.startedEventId retryState)

/-- A failure whose only content is a `CanceledFailureInfo`. -/
def canceledCause : Failure :=
  { message := "", cause := none, failureInfo := some (.canceledFailureInfo none) }

/-- `completion_of_not_abandoned_err`. -/
def completionOfNotAbandonedErr : WFMachinesError :=
  .nondeterminism ("Child workflows which don\x27t have the ABANDON cancellation type cannot " ++
    "complete after being cancelled.")

/-! ## The handlers -/

/-- `Created::on_schedule`. -/
def Created.onSchedule : ChildWorkflowMachineTransition := .default .startCommandCreated

/-- The text of a determinism check failure. -/
def mismatchMessage (what : String) (ofEvent ofCommand : String) : String :=
  "Child workflow " ++ what ++ " of scheduled event \x27" ++ ofEvent ++
    "\x27 does not match child workflow " ++ what ++ " of command \x27" ++ ofCommand ++ "\x27"

/-- `StartCommandCreated::on_start_child_workflow_execution_initiated`: under the id and type
determinism flag the event must name the commanded child. -/
def StartCommandCreated.onStartChildWorkflowExecutionInitiated (state : SharedState)
    (eventDat : ChildWorkflowInitiatedData) : SharedState × ChildWorkflowMachineTransition :=
  let (checks, flags) :=
    state.internalFlags.tryUse .idAndTypeDeterminismChecks eventDat.lastTaskInHistory
  let state := { state with internalFlags := flags }
  if checks && eventDat.wfId != state.workflowId then
    (state, .err (.nondeterminism (mismatchMessage "id" eventDat.wfId state.workflowId)))
  else if checks && eventDat.wfType != state.workflowType then
    (state, .err (.nondeterminism (mismatchMessage "type" eventDat.wfType state.workflowType)))
  else ({ state with initiatedEventId := eventDat.eventId }, .default .startEventRecorded)

/-- `StartCommandCreated::on_cancelled`: the command is not sent, and lang learns that the
start was cancelled. -/
def StartCommandCreated.onCancelled (state : SharedState) (reason : String) :
    SharedState × ChildWorkflowMachineTransition :=
  let state := { state with cancelledBeforeSent := true }
  let failure : Failure :=
    { message := "Child Workflow Execution cancelled before scheduled: " ++ reason,
      cause := some canceledCause,
      failureInfo := failureInfoFromState state .nonRetryableFailure }
  (state, .ok [.startCancel failure] (.cancelled false))

/-- `StartEventRecorded::on_child_workflow_execution_started`. -/
def StartEventRecorded.onChildWorkflowExecutionStarted (state : SharedState)
    (event : ChildWorkflowExecutionStartedEvent) : SharedState × ChildWorkflowMachineTransition :=
  ({ state with startedEventId := event.startedEventId, runId := event.workflowExecution.runId },
    .ok [.start event.workflowExecution] .started)

/-- `StartEventRecorded::on_start_child_workflow_execution_failed`. -/
def StartEventRecorded.onStartChildWorkflowExecutionFailed
    (cause : StartChildWorkflowExecutionFailedCause) : ChildWorkflowMachineTransition :=
  .ok [.startFail cause] .startFailed

/-- `Started::on_child_workflow_execution_completed`. -/
def Started.onChildWorkflowExecutionCompleted (result : Option Payloads) :
    ChildWorkflowMachineTransition :=
  .ok [.complete result] .completed

/-- `Started::on_child_workflow_execution_failed`. -/
def Started.onChildWorkflowExecutionFailed (state : SharedState)
    (attrs : ChildWorkflowExecutionFailedEventAttributes) : ChildWorkflowMachineTransition :=
  let failure : Failure :=
    { message := "Child Workflow execution failed", cause := attrs.failure,
      failureInfo := failureInfoFromState state attrs.retryState }
  .ok [.fail failure] .failed

/-- `Started::on_child_workflow_execution_timed_out`. -/
def Started.onChildWorkflowExecutionTimedOut (state : SharedState) (retryState : RetryState) :
    ChildWorkflowMachineTransition :=
  let timedOut : Failure :=
    { message := "Timed out", cause := none,
      failureInfo := some (.timeoutFailureInfo .startToClose none) }
  let failure : Failure :=
    { message := "Child Workflow execution timed out", cause := some timedOut,
      failureInfo := failureInfoFromState state retryState }
  .ok [.fail failure] .timedOut

/-- `Started::on_child_workflow_execution_cancelled`. -/
def Started.onChildWorkflowExecutionCancelled : ChildWorkflowMachineTransition :=
  .ok [.cancel] (.cancelled true)

/-- `Started::on_child_workflow_execution_terminated`. -/
def Started.onChildWorkflowExecutionTerminated (state : SharedState) :
    ChildWorkflowMachineTransition :=
  let terminated : Failure :=
    { message := "Terminated", cause := none, failureInfo := some .terminatedFailureInfo }
  let failure : Failure :=
    { message := "Child Workflow execution terminated", cause := some terminated,
      failureInfo := failureInfoFromState state .nonRetryableFailure }
  .ok [.fail failure] .terminated

/-- `Started::on_cancelled`: `ABANDON` and `TRY_CANCEL` move to `Cancelled`, the `WAIT` types
stay in `Started` until the child resolves. -/
def Started.onCancelled (state : SharedState) (reason : String) : ChildWorkflowMachineTransition :=
  let dest := match state.cancelType with
    | .abandon | .tryCancel => ChildWorkflowMachineState.cancelled false
    | _ => .started
  .ok [.issueCancelAfterStarted reason] dest

/-- `Cancelled::on_child_workflow_execution_cancelled`: the cancel event is taken once. -/
def Cancelled.onChildWorkflowExecutionCancelled (seenCancelledEvent : Bool) :
    ChildWorkflowMachineTransition :=
  if seenCancelledEvent then
    .err (.fatal ("Child workflow has already seen a ChildWorkflowExecutionCanceledEvent, and " ++
      "now another is being applied! This is a bug, please report."))
  else .ok [] (.cancelled true)

/-- The four completions `Cancelled` takes (`on_child_workflow_execution_completed`, `_failed`,
`_timed_out`, `_terminated`): accepted and ignored for abandoned children only. -/
def Cancelled.onCompletion (seenCancelledEvent : Bool) (state : SharedState) :
    ChildWorkflowMachineTransition :=
  if !state.abandons then .err completionOfNotAbandonedErr
  else .ok [] (.cancelled seenCancelledEvent)

/-- `Cancelled::on_child_workflow_execution_completed`. -/
def Cancelled.onChildWorkflowExecutionCompleted (seenCancelledEvent : Bool) (state : SharedState)
    (_result : Option Payloads) : ChildWorkflowMachineTransition :=
  Cancelled.onCompletion seenCancelledEvent state

/-- `Cancelled::on_child_workflow_execution_failed`. -/
def Cancelled.onChildWorkflowExecutionFailed (seenCancelledEvent : Bool) (state : SharedState)
    (_attrs : ChildWorkflowExecutionFailedEventAttributes) : ChildWorkflowMachineTransition :=
  Cancelled.onCompletion seenCancelledEvent state

/-- `Cancelled::on_child_workflow_execution_timed_out`. -/
def Cancelled.onChildWorkflowExecutionTimedOut (seenCancelledEvent : Bool) (state : SharedState)
    (_retryState : RetryState) : ChildWorkflowMachineTransition :=
  Cancelled.onCompletion seenCancelledEvent state

/-- `Cancelled::on_child_workflow_execution_terminated`. -/
def Cancelled.onChildWorkflowExecutionTerminated (seenCancelledEvent : Bool) (state : SharedState) :
    ChildWorkflowMachineTransition :=
  Cancelled.onCompletion seenCancelledEvent state

/-! ## The table -/

/-- The `fsm!` table of `ChildWorkflowMachine`. A transition without a handler converts the
state into its destination with `From`, which for a state to itself keeps its data. -/
def transitions : Transitions ChildWorkflowMachineState ChildWorkflowMachineEvents SharedState
    ChildWorkflowCommand WFMachinesError
  | .created, .schedule, sh => some (sh, Created.onSchedule)
  | .startCommandCreated, .commandStartChildWorkflowExecution, sh =>
    some (sh, .default .startCommandCreated)
  | .startCommandCreated, .startChildWorkflowExecutionInitiated d, sh =>
    some (StartCommandCreated.onStartChildWorkflowExecutionInitiated sh d)
  | .startCommandCreated, .cancel reason, sh => some (StartCommandCreated.onCancelled sh reason)
  | .startEventRecorded, .childWorkflowExecutionStarted e, sh =>
    some (StartEventRecorded.onChildWorkflowExecutionStarted sh e)
  | .startEventRecorded, .startChildWorkflowExecutionFailed cause, sh =>
    some (sh, StartEventRecorded.onStartChildWorkflowExecutionFailed cause)
  | .started, .childWorkflowExecutionCompleted r, sh =>
    some (sh, Started.onChildWorkflowExecutionCompleted r)
  | .started, .childWorkflowExecutionFailed a, sh =>
    some (sh, Started.onChildWorkflowExecutionFailed sh a)
  | .started, .childWorkflowExecutionTimedOut rs, sh =>
    some (sh, Started.onChildWorkflowExecutionTimedOut sh rs)
  | .started, .childWorkflowExecutionCancelled, sh =>
    some (sh, Started.onChildWorkflowExecutionCancelled)
  | .started, .childWorkflowExecutionTerminated, sh =>
    some (sh, Started.onChildWorkflowExecutionTerminated sh)
  -- "If cancelled after started, we need to issue a cancel external workflow command"
  | .started, .cancel reason, sh => some (sh, Started.onCancelled sh reason)
  | .started, .commandRequestCancelExternalWorkflowExecution, sh => some (sh, .default .started)
  -- "Ignore any spurious cancellations after resolution"
  | .cancelled seen, .cancel _, sh => some (sh, .default (.cancelled seen))
  | .cancelled seen, .childWorkflowExecutionCancelled, sh =>
    some (sh, Cancelled.onChildWorkflowExecutionCancelled seen)
  -- "Completions of any kind after cancellation are acceptable for abandoned children"
  | .cancelled seen, .childWorkflowExecutionCompleted r, sh =>
    some (sh, Cancelled.onChildWorkflowExecutionCompleted seen sh r)
  | .cancelled seen, .childWorkflowExecutionFailed a, sh =>
    some (sh, Cancelled.onChildWorkflowExecutionFailed seen sh a)
  | .cancelled seen, .childWorkflowExecutionTimedOut rs, sh =>
    some (sh, Cancelled.onChildWorkflowExecutionTimedOut seen sh rs)
  | .cancelled seen, .childWorkflowExecutionTerminated, sh =>
    some (sh, Cancelled.onChildWorkflowExecutionTerminated seen sh)
  | .failed, .cancel _, sh => some (sh, .default .failed)
  | .startFailed, .cancel _, sh => some (sh, .default .startFailed)
  | .timedOut, .cancel _, sh => some (sh, .default .timedOut)
  | .completed, .cancel _, sh => some (sh, .default .completed)
  | _, _, _ => none

/-- The state names, as `Display` prints them. -/
def ChildWorkflowMachineState.name : ChildWorkflowMachineState → String
  | .created => "Created"
  | .startCommandCreated => "StartCommandCreated"
  | .startEventRecorded => "StartEventRecorded"
  | .started => "Started"
  | .startFailed => "StartFailed"
  | .completed => "Completed"
  | .failed => "Failed"
  | .timedOut => "TimedOut"
  | .cancelled _ => "Cancelled"
  | .terminated => "Terminated"

/-- `is_final`: no transition leaves `Terminated`, while the other ends take `Cancel`. -/
def ChildWorkflowMachineState.isFinal : ChildWorkflowMachineState → Bool
  | .terminated => true
  | _ => false

/-! ## Conversions and the adapter -/

/-- `TryFrom<HistEventData> for ChildWorkflowMachineEvents`. The source prints the unhandled
event with `{:?}`; its `Display` stands for it here. -/
def ofHistEvent (e : HistEventData) : Except WFMachinesError ChildWorkflowMachineEvents :=
  let lastTaskInHistory := e.currentTaskIsLastInHistory
  let e := e.event
  match e.eventType, e.attributes with
  | .startChildWorkflowExecutionInitiated,
      some (.startChildWorkflowExecutionInitiatedEventAttributes attrs) =>
    .ok (.startChildWorkflowExecutionInitiated
      { eventId := e.eventId, wfType := attrs.workflowType.getD "", wfId := attrs.workflowId,
        lastTaskInHistory })
  | .startChildWorkflowExecutionInitiated, _ =>
    .error (.fatal "StartChildWorkflowExecutionInitiated attributes were unset")
  | .startChildWorkflowExecutionFailed,
      some (.startChildWorkflowExecutionFailedEventAttributes cause) =>
    match StartChildWorkflowExecutionFailedCause.ofInt cause with
    | some c => .ok (.startChildWorkflowExecutionFailed c)
    | none => .error (.fatal "Invalid StartChildWorkflowExecutionFailedCause")
  | .startChildWorkflowExecutionFailed, _ =>
    .error (.fatal "StartChildWorkflowExecutionFailed attributes were unset")
  | .childWorkflowExecutionStarted, some (.childWorkflowExecutionStartedEventAttributes (some we)) =>
    .ok (.childWorkflowExecutionStarted { workflowExecution := we, startedEventId := e.eventId })
  | .childWorkflowExecutionStarted, _ =>
    .error (.fatal "ChildWorkflowExecutionStarted attributes were unset or malformed")
  | .childWorkflowExecutionCompleted, some (.childWorkflowExecutionCompletedEventAttributes r) =>
    .ok (.childWorkflowExecutionCompleted r)
  | .childWorkflowExecutionCompleted, _ =>
    .error (.fatal "ChildWorkflowExecutionCompleted attributes were unset or malformed")
  | .childWorkflowExecutionFailed, some (.childWorkflowExecutionFailedEventAttributes attrs) =>
    .ok (.childWorkflowExecutionFailed attrs)
  | .childWorkflowExecutionFailed, _ =>
    .error (.fatal "ChildWorkflowExecutionFailed attributes were unset")
  | .childWorkflowExecutionTimedOut, some (.childWorkflowExecutionTimedOutEventAttributes rs) =>
    .ok (.childWorkflowExecutionTimedOut rs)
  | .childWorkflowExecutionTimedOut, _ =>
    .error (.fatal "ChildWorkflowExecutionTimedOut attributes were unset or malformed")
  | .childWorkflowExecutionTerminated, _ => .ok .childWorkflowExecutionTerminated
  | .childWorkflowExecutionCanceled, _ => .ok .childWorkflowExecutionCancelled
  | _, _ => .error (.nondeterminism ("Child workflow machine does not handle this event: " ++
      e.display))

/-- `TryFrom<CommandType> for ChildWorkflowMachineEvents`. -/
def ofCommandType : CommandType → Option ChildWorkflowMachineEvents
  | .startChildWorkflowExecution => some .commandStartChildWorkflowExecution
  | .requestCancelExternalWorkflowExecution => some .commandRequestCancelExternalWorkflowExecution
  | _ => none

/-- `convert_payloads`: a result holds exactly one payload. -/
def convertPayloads (eventInfo : Option EventInfo) (result : Option Payloads) :
    Except WFMachinesError (Option Payload) :=
  match result with
  | none => .ok none
  | some ps =>
    match payloadsToPayload ps with
    | .ok p => .ok (some p)
    | .error pe => .error (.fatal ("Not exactly one payload in child workflow result (" ++
      pe.name ++ ") for event: " ++ EventInfo.debugOption eventInfo))

/-- The `ResolveChildWorkflowExecutionStart` job of a status. -/
def resolveStart (state : SharedState) (status : ResolveChildWorkflowExecutionStartStatus) :
    MachineResponse :=
  .pushWFJob (.resolveChildWorkflowExecutionStart
    { seq := state.langSequenceNumber, status := some status })

/-- The `ResolveChildWorkflowExecution` job of a result. -/
def resolve (state : SharedState) (status : ChildWorkflowResultStatus) : MachineResponse :=
  .pushWFJob (.resolveChildWorkflowExecution
    { seq := state.langSequenceNumber, result := some status })

/-- `ChildWorkflowMachine::resolve_cancelled_msg`. -/
def resolveCancelledMsg (state : SharedState) : MachineResponse :=
  let failure : Failure :=
    { message := "Child Workflow execution cancelled", cause := some canceledCause,
      failureInfo := failureInfoFromState state .nonRetryableFailure }
  resolve state (.cancelled (some failure))

/-- The core-originated `RequestCancelExternalWorkflowExecution` for the child. -/
def requestCancelExternal (state : SharedState) (reason : String) : MachineResponse :=
  .newCoreOriginatedCommand (.requestCancelExternalWorkflowExecutionCommandAttributes
    state.namespaceName state.workflowId state.runId true reason)

/-- `WFMachinesAdapter for ChildWorkflowMachine`. -/
def adaptResponse (m : ChildWorkflowMachine) (myCommand : ChildWorkflowCommand)
    (eventInfo : Option EventInfo) : Except WFMachinesError (List MachineResponse) :=
  let state := m.sharedState
  match myCommand with
  | .start we => .ok [resolveStart state (.succeeded we.runId)]
  | .startFail cause => .ok [resolveStart state (.failed state.workflowId state.workflowType cause)]
  | .startCancel failure => .ok [resolveStart state (.cancelled (some failure))]
  | .complete result => do
    let p ← convertPayloads eventInfo result
    pure [resolve state (.completed p)]
  | .fail failure => .ok [resolve state (.failed (some failure))]
  | .cancel => .ok [resolveCancelledMsg state]
  | .issueCancelAfterStarted reason =>
    (if state.cancelType != .abandon then [requestCancelExternal state reason] else []) ++
      -- "Immediately resolve abandon/trycancel modes"
      (match state.cancelType with
        | .abandon | .tryCancel => [resolveCancelledMsg state]
        | _ => [])
    |> .ok

/-- The child workflow machine as a `TemporalStateMachine`. -/
def machineDef :
    MachineDef ChildWorkflowMachineState ChildWorkflowMachineEvents SharedState
      ChildWorkflowCommand :=
  { name := "ChildWorkflowMachine", transitions, stateName := ChildWorkflowMachineState.name,
    ofCommandType, ofHistEvent, adaptResponse }

/-! ## Machine methods -/

/-- `ChildWorkflowMachine::new_scheduled`: the machine after `Schedule`, and the start
command's attributes (the versioning flag they also carry is left out). -/
def ChildWorkflowMachine.newScheduled (attribs : StartChildWorkflowExecution)
    (internalFlags : InternalFlags) : ChildWorkflowMachine × CommandAttributes :=
  let s : ChildWorkflowMachine := StateMachine.fromParts .created
    { langSequenceNumber := attribs.seq, workflowId := attribs.workflowId,
      workflowType := attribs.workflowType, namespaceName := attribs.namespaceName,
      cancelType := attribs.cancellationType, internalFlags, runId := "",
      initiatedEventId := 0, startedEventId := 0, cancelledBeforeSent := false }
  -- "Scheduling child workflows doesn't fail"
  ((onEvent transitions s .schedule).1,
    .startChildWorkflowExecutionCommandAttributes attribs.namespaceName attribs.workflowId
      attribs.workflowType)

/-- The responses `cancel` makes of one command of the `Cancel` transition. The `panic!` arm
for the other commands is never reached: no `Cancel` arm yields them. -/
def cancelResponse (m : ChildWorkflowMachine) :
    ChildWorkflowCommand → Except WFMachinesError (List MachineResponse)
  | .startCancel f => adaptResponse m (.startCancel f) none
  | .issueCancelAfterStarted reason => adaptResponse m (.issueCancelAfterStarted reason) none
  | _ => .ok []

/-- The responses of all commands of the `Cancel` transition (`flatten_ok().try_collect()`). -/
def cancelResponses (m : ChildWorkflowMachine) :
    List ChildWorkflowCommand → Except WFMachinesError (List MachineResponse)
  | [] => .ok []
  | c :: cs => do
    let r ← cancelResponse m c
    let rs ← cancelResponses m cs
    pure (r ++ rs)

/-- `ChildWorkflowMachine::cancel`. -/
def ChildWorkflowMachine.cancel (m : ChildWorkflowMachine) (reason : String) :
    ChildWorkflowMachine × Except (MachineError WFMachinesError) (List MachineResponse) :=
  match onEvent transitions m (.cancel reason) with
  | (m', .ok cmds) =>
    match cancelResponses m' cmds with
    | .ok r => (m', .ok r)
    | .error e => (m', .error (.underlying e))
  | (m', .error e) => (m', .error e)

/-- `ChildWorkflowMachine::was_cancelled_before_sent_to_server`. -/
def ChildWorkflowMachine.wasCancelledBeforeSentToServer (m : ChildWorkflowMachine) : Bool :=
  m.sharedState.cancelledBeforeSent

/-- One input to a child workflow machine, as `WorkflowMachines` delivers it. -/
def step (m : ChildWorkflowMachine) (i : MachineInput) :
    Except WFMachinesError (ChildWorkflowMachine × List MachineResponse) :=
  machineDef.step (fun reason m => ChildWorkflowMachine.cancel m reason) m i

end SdkCore.ChildWorkflow
