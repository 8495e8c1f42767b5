import Mathlib.Logic.Basic

/-!
# The protocol messages the machines read and build

The subset of the Temporal API and core SDK protos (`crates/common/protos`) that the modelled
machines read or construct, field names as in the `.proto` files. A field no modelled function
reads or writes (`Failure.source`, `stack_trace`, `encoded_attributes`, the payload
`external_payloads`, ...) is left out; `MODEL_MAP.json` lists them. Proto `oneof`s are inductive
types, proto enums are enumerations, `int64` is `Int` and `uint32` is `Nat`.
-/

namespace SdkCore

/-- `temporal.api.common.v1.Payload`. -/
structure Payload where
  metadata : List (String × List UInt8)
  data : List UInt8
  deriving Repr, DecidableEq, Inhabited

/-- `temporal.api.common.v1.Payloads`. -/
abbrev Payloads := List Payload

/-- `PayloadsToPayloadError`, by its `Display`. -/
inductive PayloadsToPayloadError where
  | moreThanOnePayload | noPayload
  deriving Repr, DecidableEq

/-- The `Display` of a `PayloadsToPayloadError`: the variant name. -/
def PayloadsToPayloadError.name : PayloadsToPayloadError → String
  | .moreThanOnePayload => "MoreThanOnePayload"
  | .noPayload => "NoPayload"

/-- `TryFrom<Payloads> for Payload`: exactly one payload. -/
def payloadsToPayload (v : Payloads) : Except PayloadsToPayloadError Payload :=
  match v.getLast? with
  | none => .error .noPayload
  | some p => if v.dropLast.isEmpty then .ok p else .error .moreThanOnePayload

/-- `google.protobuf.Duration`. -/
structure Duration where
  seconds : Int
  nanos : Int
  deriving Repr, DecidableEq, Inhabited

/-- `google.protobuf.Timestamp`. -/
structure Timestamp where
  seconds : Int
  nanos : Int
  deriving Repr, DecidableEq, Inhabited

/-- `temporal.api.enums.v1.RetryState`. -/
inductive RetryState where
  | unspecified | inProgress | nonRetryableFailure | timeout | maximumAttemptsReached
  | retryPolicyNotSet | internalServerError | cancelRequested
  deriving Repr, DecidableEq, Inhabited

/-- `temporal.api.enums.v1.TimeoutType`. -/
inductive TimeoutType where
  | unspecified | startToClose | scheduleToStart | scheduleToClose | heartbeat
  deriving Repr, DecidableEq, Inhabited

/-- `temporal.api.common.v1.WorkflowExecution`. -/
structure WorkflowExecution where
  workflowId : String
  runId : String
  deriving Repr, DecidableEq, Inhabited

/-- The `failure_info` oneof of `temporal.api.failure.v1.Failure`. The variants no modelled
function builds or inspects keep no fields. -/
inductive FailureInfo where
  | applicationFailureInfo (type : String) (nonRetryable : Bool)
  | timeoutFailureInfo (timeoutType : TimeoutType) (lastHeartbeatDetails : Option Payloads)
  | canceledFailureInfo (details : Option Payloads)
  | terminatedFailureInfo
  | serverFailureInfo
  | resetWorkflowFailureInfo
  | activityFailureInfo (scheduledEventId startedEventId : Int) (identity : String)
      (activityType : String) (activityId : String) (retryState : RetryState)
  | childWorkflowExecutionFailureInfo (namespaceName : String)
      (workflowExecution : WorkflowExecution) (workflowType : String)
      (initiatedEventId startedEventId : Int) (retryState : RetryState)
  | nexusOperationExecutionFailureInfo (scheduledEventId : Int)
      (endpoint service operation operationToken : String)
  | nexusHandlerFailureInfo
  deriving Repr, DecidableEq

/-- `temporal.api.failure.v1.Failure`. -/
structure Failure where
  message : String
  cause : Option Failure
  failureInfo : Option FailureInfo
  deriving Repr

/-- Equality of failures is decided field by field, down the chain of causes. -/
def Failure.decEq : (a b : Failure) → Decidable (a = b)
  | ⟨m₁, c₁, i₁⟩, ⟨m₂, c₂, i₂⟩ =>
    if hm : m₁ = m₂ then
      if hi : i₁ = i₂ then
        match c₁, c₂ with
        | none, none => isTrue (by rw [hm, hi])
        | some x, some y =>
          match Failure.decEq x y with
          | isTrue h => isTrue (by rw [hm, hi, h])
          | isFalse h => isFalse (fun e => h (Option.some.inj (Failure.mk.inj e).2.1))
        | none, some _ => isFalse (fun e => by cases e)
        | some _, none => isFalse (fun e => by cases e)
      else isFalse (fun e => hi (Failure.mk.inj e).2.2)
    else isFalse (fun e => hm (Failure.mk.inj e).1)

instance : DecidableEq Failure := Failure.decEq

/-- `matches!(f.failure_info, Some(FailureInfo::CanceledFailureInfo(_)))`. -/
def FailureInfo.isCanceled : Option FailureInfo → Bool
  | some (.canceledFailureInfo _) => true
  | _ => false

/-- `matches!(f.failure_info, Some(FailureInfo::TimeoutFailureInfo(_)))`. -/
def FailureInfo.isTimeout : Option FailureInfo → Bool
  | some (.timeoutFailureInfo _ _) => true
  | _ => false

/-! ## `coresdk.activity_result` -/

/-- The `status` oneof of `coresdk.activity_result.ActivityResolution`: `Success`, `Failure`,
`Cancellation` and `DoBackoff`. -/
inductive ActivityResolutionStatus where
  | completed (result : Option Payload)
  | failed (failure : Option Failure)
  | cancelled (failure : Option Failure)
  | backoff (attempt : Nat) (backoffDuration : Option Duration)
      (originalScheduleTime : Option Timestamp)
  deriving Repr, DecidableEq

/-- `coresdk.activity_result.ActivityResolution`. -/
structure ActivityResolution where
  status : Option ActivityResolutionStatus
  deriving Repr, DecidableEq

/-- `coresdk.workflow_activation.ResolveActivity`. -/
structure ResolveActivity where
  seq : Nat
  result : Option ActivityResolution
  isLocal : Bool
  deriving Repr, DecidableEq

/-! ## `coresdk.child_workflow` and the child workflow jobs -/

/-- `temporal.api.enums.v1.StartChildWorkflowExecutionFailedCause`. -/
inductive StartChildWorkflowExecutionFailedCause where
  | unspecified | workflowAlreadyExists | namespaceNotFound
  deriving Repr, DecidableEq, Inhabited

/-- The wire value of a `StartChildWorkflowExecutionFailedCause`. -/
def StartChildWorkflowExecutionFailedCause.toInt : StartChildWorkflowExecutionFailedCause → Int
  | .unspecified => 0
  | .workflowAlreadyExists => 1
  | .namespaceNotFound => 2

/-- `StartChildWorkflowExecutionFailedCause::try_from(i32)`: only the enum's values. -/
def StartChildWorkflowExecutionFailedCause.ofInt : Int → Option StartChildWorkflowExecutionFailedCause
  | 0 => some .unspecified
  | 1 => some .workflowAlreadyExists
  | 2 => some .namespaceNotFound
  | _ => none

@[simp] theorem StartChildWorkflowExecutionFailedCause.ofInt_toInt
    (c : StartChildWorkflowExecutionFailedCause) : ofInt c.toInt = some c := by
  cases c <;> rfl

/-- The `status` oneof of `ResolveChildWorkflowExecutionStart`. -/
inductive ResolveChildWorkflowExecutionStartStatus where
  | succeeded (runId : String)
  | failed (workflowId workflowType : String) (cause : StartChildWorkflowExecutionFailedCause)
  | cancelled (failure : Option Failure)
  deriving Repr, DecidableEq

/-- `coresdk.workflow_activation.ResolveChildWorkflowExecutionStart`. -/
structure ResolveChildWorkflowExecutionStart where
  seq : Nat
  status : Option ResolveChildWorkflowExecutionStartStatus
  deriving Repr, DecidableEq

/-- The `status` oneof of `coresdk.child_workflow.ChildWorkflowResult`. -/
inductive ChildWorkflowResultStatus where
  | completed (result : Option Payload)
  | failed (failure : Option Failure)
  | cancelled (failure : Option Failure)
  deriving Repr, DecidableEq

/-- `coresdk.workflow_activation.ResolveChildWorkflowExecution`. -/
structure ResolveChildWorkflowExecution where
  seq : Nat
  result : Option ChildWorkflowResultStatus
  deriving Repr, DecidableEq

/-! ## Workflow commands from lang -/

/-- `coresdk.workflow_commands.ActivityCancellationType`. An unknown value is read as
`TRY_CANCEL` by the activity machine, so only the three values are kept. -/
inductive ActivityCancellationType where
  | tryCancel | waitCancellationCompleted | abandon
  deriving Repr, DecidableEq, Inhabited

/-- `coresdk.child_workflow.ChildWorkflowCancellationType`. -/
inductive ChildWorkflowCancellationType where
  | abandon | tryCancel | waitCancellationCompleted | waitCancellationRequested
  deriving Repr, DecidableEq, Inhabited

/-- `coresdk.workflow_commands.StartTimer`. -/
structure StartTimer where
  seq : Nat
  startToFireTimeout : Option Duration
  deriving Repr, DecidableEq

/-- `coresdk.workflow_commands.ScheduleActivity`, the fields the activity machine reads. -/
structure ScheduleActivity where
  seq : Nat
  activityId : String
  activityType : String
  cancellationType : ActivityCancellationType
  deriving Repr, DecidableEq

/-- `coresdk.workflow_commands.StartChildWorkflowExecution`, the fields the child workflow
machine reads. -/
structure StartChildWorkflowExecution where
  seq : Nat
  namespaceName : String
  workflowId : String
  workflowType : String
  cancellationType : ChildWorkflowCancellationType
  deriving Repr, DecidableEq

/-! ## Local activities -/

/-- `coresdk.external_data.LocalActivityMarkerData`. -/
structure LocalActivityMarkerData where
  seq : Nat
  attempt : Nat
  activityId : String
  activityType : String
  completeTime : Option Timestamp
  backoff : Option Duration
  originalScheduleTime : Option Timestamp
  deriving Repr, DecidableEq

/-- The `details` map of a marker, by the keys the modelled code reads: `data`, whose JSON
payload is kept as the marker data it encodes, and `result`. -/
structure MarkerDetails where
  data : Option LocalActivityMarkerData
  result : Option Payloads
  deriving Repr, DecidableEq

/-- `ValidScheduleLA`, the fields the local activity machine reads. -/
structure ValidScheduleLA where
  seq : Nat
  activityId : String
  activityType : String
  attempt : Nat
  originalScheduleTime : Option Timestamp
  cancellationType : ActivityCancellationType
  deriving Repr, DecidableEq

/-! ## Nexus operations -/

/-- `coresdk.nexus.NexusOperationCancellationType`. -/
inductive NexusOperationCancellationType where
  | waitCancellationCompleted | abandon | tryCancel | waitCancellationRequested
  deriving Repr, DecidableEq, Inhabited

/-- `coresdk.workflow_commands.ScheduleNexusOperation`. -/
structure ScheduleNexusOperation where
  seq : Nat
  endpoint : String
  service : String
  operation : String
  input : Option Payload
  scheduleToCloseTimeout : Option Duration
  nexusHeader : List (String × String)
  cancellationType : NexusOperationCancellationType
  scheduleToStartTimeout : Option Duration
  startToCloseTimeout : Option Duration
  deriving Repr, DecidableEq

/-- The `status` oneof of `coresdk.workflow_activation.ResolveNexusOperationStart`. -/
inductive ResolveNexusOperationStartStatus where
  | operationToken (token : String)
  | startedSync (b : Bool)
  | failed (failure : Failure)
  deriving Repr, DecidableEq

/-- `coresdk.workflow_activation.ResolveNexusOperationStart`. -/
structure ResolveNexusOperationStart where
  seq : Nat
  status : Option ResolveNexusOperationStartStatus
  deriving Repr, DecidableEq

/-- The `status` oneof of `coresdk.nexus.NexusOperationResult`. -/
inductive NexusOperationResultStatus where
  | completed (result : Payload)
  | failed (failure : Failure)
  | cancelled (failure : Failure)
  | timedOut (failure : Failure)
  deriving Repr, DecidableEq

/-- `coresdk.nexus.NexusOperationResult`. -/
structure NexusOperationResult where
  status : Option NexusOperationResultStatus
  deriving Repr, DecidableEq

/-- `coresdk.workflow_activation.ResolveNexusOperation`. -/
structure ResolveNexusOperation where
  seq : Nat
  result : Option NexusOperationResult
  deriving Repr, DecidableEq

/-! ## Workflow updates -/

namespace Update

/-- `temporal.api.update.v1.Meta`. -/
structure Meta where
  updateId : String
  identity : String
  deriving Repr, DecidableEq

/-- `temporal.api.update.v1.Input`; the header is its map of fields. -/
structure Input where
  header : Option (List (String × Payload))
  name : String
  args : Option Payloads
  deriving Repr, DecidableEq

/-- `temporal.api.update.v1.Request`; its `meta`, a keyword here, is `updateMeta`. -/
structure Request where
  updateMeta : Option Meta
  input : Option Input
  deriving Repr, DecidableEq

/-- `temporal.api.update.v1.Acceptance`. -/
structure Acceptance where
  acceptedRequestMessageId : String
  acceptedRequestSequencingEventId : Int
  acceptedRequest : Option Request
  deriving Repr, DecidableEq

/-- `temporal.api.update.v1.Rejection`. -/
structure Rejection where
  rejectedRequestMessageId : String
  rejectedRequestSequencingEventId : Int
  rejectedRequest : Option Request
  failure : Option Failure
  deriving Repr, DecidableEq

/-- The `value` oneof of `temporal.api.update.v1.Outcome`. -/
inductive OutcomeValue where
  | success (payloads : Payloads)
  | failure (failure : Failure)
  deriving Repr, DecidableEq

/-- `temporal.api.update.v1.Outcome`. -/
structure Outcome where
  value : Option OutcomeValue
  deriving Repr, DecidableEq

/-- `temporal.api.update.v1.Response`, with `updateMeta` for `meta`. -/
structure Response where
  updateMeta : Option Meta
  outcome : Option Outcome
  deriving Repr, DecidableEq

end Update

/-- The body of an outgoing protocol message, a `google.protobuf.Any`: its type URL and the
update message it packs, kept as that message rather than as its encoding. -/
inductive ProtocolMessageBody where
  | acceptance (m : Update.Acceptance)
  | rejection (m : Update.Rejection)
  | response (m : Update.Response)
  deriving Repr, DecidableEq

/-- `google.protobuf.Any`, for the protocol messages the worker sends. -/
structure PackedAny where
  typeUrl : String
  value : ProtocolMessageBody
  deriving Repr, DecidableEq

/-- `temporal.api.protocol.v1.Message`, the fields an outgoing message sets. -/
structure ProtocolMessage where
  id : String
  protocolInstanceId : String
  body : Option PackedAny
  deriving Repr, DecidableEq

/-- `coresdk.workflow_activation.DoUpdate`, with `updateMeta` for `meta`. -/
structure DoUpdate where
  id : String
  protocolInstanceId : String
  name : String
  input : List Payload
  headers : List (String × Payload)
  updateMeta : Option Update.Meta
  runValidator : Bool
  deriving Repr, DecidableEq

/-- The `response` oneof of `coresdk.workflow_commands.UpdateResponse`. -/
inductive UpdateResponseBody where
  | accepted
  | rejected (failure : Failure)
  | completed (payload : Payload)
  deriving Repr, DecidableEq

/-- `coresdk.workflow_commands.UpdateResponse`. -/
structure UpdateResponse where
  protocolInstanceId : String
  response : Option UpdateResponseBody
  deriving Repr, DecidableEq

/-! ## Commands to the server -/

/-- `temporal.api.enums.v1.CommandType`. -/
inductive CommandType where
  | unspecified | scheduleActivityTask | requestCancelActivityTask | startTimer
  | completeWorkflowExecution | failWorkflowExecution | cancelTimer | cancelWorkflowExecution
  | requestCancelExternalWorkflowExecution | recordMarker | continueAsNewWorkflowExecution
  | startChildWorkflowExecution | signalExternalWorkflowExecution
  | upsertWorkflowSearchAttributes | protocolMessage | modifyWorkflowProperties
  | scheduleNexusOperation | requestCancelNexusOperation
  deriving Repr, DecidableEq, Inhabited

/-- The `{:?}` rendering of a `CommandType`: the variant name. -/
def CommandType.debugName : CommandType → String
  | .unspecified => "Unspecified"
  | .scheduleActivityTask => "ScheduleActivityTask"
  | .requestCancelActivityTask => "RequestCancelActivityTask"
  | .startTimer => "StartTimer"
  | .completeWorkflowExecution => "CompleteWorkflowExecution"
  | .failWorkflowExecution => "FailWorkflowExecution"
  | .cancelTimer => "CancelTimer"
  | .cancelWorkflowExecution => "CancelWorkflowExecution"
  | .requestCancelExternalWorkflowExecution => "RequestCancelExternalWorkflowExecution"
  | .recordMarker => "RecordMarker"
  | .continueAsNewWorkflowExecution => "ContinueAsNewWorkflowExecution"
  | .startChildWorkflowExecution => "StartChildWorkflowExecution"
  | .signalExternalWorkflowExecution => "SignalExternalWorkflowExecution"
  | .upsertWorkflowSearchAttributes => "UpsertWorkflowSearchAttributes"
  | .protocolMessage => "ProtocolMessage"
  | .modifyWorkflowProperties => "ModifyWorkflowProperties"
  | .scheduleNexusOperation => "ScheduleNexusOperation"
  | .requestCancelNexusOperation => "RequestCancelNexusOperation"

/-- The `attributes` oneof of `temporal.api.command.v1.Command`, for the commands the modelled
machines issue. -/
inductive CommandAttributes where
  | startTimerCommandAttributes (timerId : String) (startToFireTimeout : Option Duration)
  | cancelTimerCommandAttributes (timerId : String)
  | scheduleActivityTaskCommandAttributes (activityId activityType : String)
  | requestCancelActivityTaskCommandAttributes (scheduledEventId : Int)
  | startChildWorkflowExecutionCommandAttributes (namespaceName workflowId workflowType : String)
  | requestCancelExternalWorkflowExecutionCommandAttributes (namespaceName workflowId runId : String)
      (childWorkflowOnly : Bool) (reason : String)
  | recordMarkerCommandAttributes (markerName : String) (details : MarkerDetails)
      (failure : Option Failure)
  | protocolMessageCommandAttributes (messageId : String)
  | scheduleNexusOperationCommandAttributes (endpoint service operation : String)
      (input : Option Payload) (scheduleToCloseTimeout : Option Duration)
      (nexusHeader : List (String × String))
      (scheduleToStartTimeout startToCloseTimeout : Option Duration)
  | requestCancelNexusOperationCommandAttributes (scheduledEventId : Int)
  deriving Repr, DecidableEq

/-- `From<command::Attributes> for Command`: the command type of each attribute variant. -/
def CommandAttributes.commandType : CommandAttributes → CommandType
  | .startTimerCommandAttributes .. => .startTimer
  | .cancelTimerCommandAttributes .. => .cancelTimer
  | .scheduleActivityTaskCommandAttributes .. => .scheduleActivityTask
  | .requestCancelActivityTaskCommandAttributes .. => .requestCancelActivityTask
  | .startChildWorkflowExecutionCommandAttributes .. => .startChildWorkflowExecution
  | .requestCancelExternalWorkflowExecutionCommandAttributes .. =>
    .requestCancelExternalWorkflowExecution
  | .recordMarkerCommandAttributes .. => .recordMarker
  | .protocolMessageCommandAttributes .. => .protocolMessage
  | .scheduleNexusOperationCommandAttributes .. => .scheduleNexusOperation
  | .requestCancelNexusOperationCommandAttributes .. => .requestCancelNexusOperation

/-- `temporal.api.command.v1.Command`, without `user_metadata`. -/
structure ProtoCommand where
  commandType : CommandType
  attributes : Option CommandAttributes
  deriving Repr, DecidableEq

/-- `From<command::Attributes> for Command`. -/
def CommandAttributes.toCommand (a : CommandAttributes) : ProtoCommand :=
  { commandType := a.commandType, attributes := some a }

/-- `From<workflow_commands::StartTimer> for command::Attributes`. -/
def StartTimer.toAttributes (s : StartTimer) : CommandAttributes :=
  .startTimerCommandAttributes (toString s.seq) s.startToFireTimeout

/-- `From<workflow_commands::ScheduleNexusOperation> for command::Attributes`. -/
def ScheduleNexusOperation.toAttributes (c : ScheduleNexusOperation) : CommandAttributes :=
  .scheduleNexusOperationCommandAttributes c.endpoint c.service c.operation c.input
    c.scheduleToCloseTimeout c.nexusHeader c.scheduleToStartTimeout c.startToCloseTimeout

/-! ## Workflow activation jobs -/

/-- The `variant` oneof of `coresdk.workflow_activation.WorkflowActivationJob`, for the jobs the
modelled machines push. -/
inductive WorkflowActivationJob where
  | fireTimer (seq : Nat)
  | resolveActivity (r : ResolveActivity)
  | resolveChildWorkflowExecutionStart (r : ResolveChildWorkflowExecutionStart)
  | resolveChildWorkflowExecution (r : ResolveChildWorkflowExecution)
  | doUpdate (d : DoUpdate)
  | resolveNexusOperationStart (r : ResolveNexusOperationStart)
  | resolveNexusOperation (r : ResolveNexusOperation)
  deriving Repr, DecidableEq

end SdkCore
