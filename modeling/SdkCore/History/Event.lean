import SdkCore.Protos

/-!
# History events

`temporal.api.enums.v1.EventType` with every value of `event_type.proto`, the parts of
`temporal.api.history.v1.HistoryEvent` that the history chunking and the machines read, and the
classifications of `HistoryEventExt` in `crates/common/src/protos/mod.rs`
(`is_command_event`, `is_final_wf_execution_event`).
-/

namespace SdkCore

/-- `temporal.api.enums.v1.EventType`. -/
inductive EventType where
  | unspecified
  | workflowExecutionStarted | workflowExecutionCompleted | workflowExecutionFailed
  | workflowExecutionTimedOut
  | workflowTaskScheduled | workflowTaskStarted | workflowTaskCompleted | workflowTaskTimedOut
  | workflowTaskFailed
  | activityTaskScheduled | activityTaskStarted | activityTaskCompleted | activityTaskFailed
  | activityTaskTimedOut | activityTaskCancelRequested | activityTaskCanceled
  | timerStarted | timerFired | timerCanceled
  | workflowExecutionCancelRequested | workflowExecutionCanceled
  | requestCancelExternalWorkflowExecutionInitiated | requestCancelExternalWorkflowExecutionFailed
  | externalWorkflowExecutionCancelRequested
  | markerRecorded | workflowExecutionSignaled | workflowExecutionTerminated
  | workflowExecutionContinuedAsNew
  | startChildWorkflowExecutionInitiated | startChildWorkflowExecutionFailed
  | childWorkflowExecutionStarted | childWorkflowExecutionCompleted | childWorkflowExecutionFailed
  | childWorkflowExecutionCanceled | childWorkflowExecutionTimedOut
  | childWorkflowExecutionTerminated
  | signalExternalWorkflowExecutionInitiated | signalExternalWorkflowExecutionFailed
  | externalWorkflowExecutionSignaled
  | upsertWorkflowSearchAttributes
  | workflowExecutionUpdateAdmitted | workflowExecutionUpdateAccepted
  | workflowExecutionUpdateRejected | workflowExecutionUpdateCompleted
  | workflowPropertiesModifiedExternally | activityPropertiesModifiedExternally
  | workflowPropertiesModified
  | nexusOperationScheduled | nexusOperationStarted | nexusOperationCompleted
  | nexusOperationFailed | nexusOperationCanceled | nexusOperationTimedOut
  | nexusOperationCancelRequested
  | workflowExecutionOptionsUpdated
  | nexusOperationCancelRequestCompleted | nexusOperationCancelRequestFailed
  | workflowExecutionPaused | workflowExecutionUnpaused
  deriving Repr, DecidableEq, Inhabited

/-! ## Event attributes

The attribute messages of `temporal.api.history.v1`, with the fields the modelled machines
read. An `int32` enum field read through its getter (`retry_state()`) is the enum. -/

/-- `TimerFiredEventAttributes`. -/
structure TimerFiredEventAttributes where
  timerId : String
  startedEventId : Int
  deriving Repr, DecidableEq

/-- `ActivityTaskScheduledEventAttributes`. -/
structure ActivityTaskScheduledEventAttributes where
  activityId : String
  activityType : Option String
  deriving Repr, DecidableEq

/-- `ActivityTaskCompletedEventAttributes`. -/
structure ActivityTaskCompletedEventAttributes where
  result : Option Payloads
  scheduledEventId : Int
  startedEventId : Int
  deriving Repr, DecidableEq

/-- `ActivityTaskFailedEventAttributes`. -/
structure ActivityTaskFailedEventAttributes where
  failure : Option Failure
  scheduledEventId : Int
  startedEventId : Int
  identity : String
  retryState : RetryState
  deriving Repr, DecidableEq

/-- `ActivityTaskTimedOutEventAttributes`. -/
structure ActivityTaskTimedOutEventAttributes where
  failure : Option Failure
  scheduledEventId : Int
  startedEventId : Int
  retryState : RetryState
  deriving Repr, DecidableEq

/-- `ActivityTaskCanceledEventAttributes`. -/
structure ActivityTaskCanceledEventAttributes where
  details : Option Payloads
  scheduledEventId : Int
  startedEventId : Int
  identity : String
  deriving Repr, DecidableEq

/-- `ActivityTaskCanceledEventAttributes::default()`. -/
def ActivityTaskCanceledEventAttributes.default : ActivityTaskCanceledEventAttributes :=
  { details := none, scheduledEventId := 0, startedEventId := 0, identity := "" }

/-- `StartChildWorkflowExecutionInitiatedEventAttributes`. -/
structure StartChildWorkflowExecutionInitiatedEventAttributes where
  workflowId : String
  workflowType : Option String
  deriving Repr, DecidableEq

/-- `ChildWorkflowExecutionFailedEventAttributes`. -/
structure ChildWorkflowExecutionFailedEventAttributes where
  failure : Option Failure
  retryState : RetryState
  deriving Repr, DecidableEq

/-- The `attributes` oneof of a history event, for the variants a modelled function reads.
Every other variant is `other`: the chunking and the machines look only at its event type. The
`cause` of `StartChildWorkflowExecutionFailedEventAttributes` is the raw `int32`, since the
child machine rejects a value outside the enum. -/
inductive Attributes where
  | workflowExecutionUpdateAcceptedEventAttributes (protocolInstanceId : String)
      (acceptedRequestSequencingEventId : Int)
  | timerFiredEventAttributes (a : TimerFiredEventAttributes)
  | activityTaskScheduledEventAttributes (a : ActivityTaskScheduledEventAttributes)
  | activityTaskCompletedEventAttributes (a : ActivityTaskCompletedEventAttributes)
  | activityTaskFailedEventAttributes (a : ActivityTaskFailedEventAttributes)
  | activityTaskTimedOutEventAttributes (a : ActivityTaskTimedOutEventAttributes)
  | activityTaskCanceledEventAttributes (a : ActivityTaskCanceledEventAttributes)
  | startChildWorkflowExecutionInitiatedEventAttributes
      (a : StartChildWorkflowExecutionInitiatedEventAttributes)
  | startChildWorkflowExecutionFailedEventAttributes (cause : Int)
  | childWorkflowExecutionStartedEventAttributes (workflowExecution : Option WorkflowExecution)
  | childWorkflowExecutionCompletedEventAttributes (result : Option Payloads)
  | childWorkflowExecutionFailedEventAttributes (a : ChildWorkflowExecutionFailedEventAttributes)
  | childWorkflowExecutionTimedOutEventAttributes (retryState : RetryState)
  | markerRecordedEventAttributes (markerName : String) (details : MarkerDetails)
      (failure : Option Failure)
  | nexusOperationScheduledEventAttributes
  | nexusOperationStartedEventAttributes (operationToken : String)
  | nexusOperationCompletedEventAttributes (result : Option Payload)
  | nexusOperationFailedEventAttributes (failure : Option Failure)
  | nexusOperationCanceledEventAttributes (failure : Option Failure)
  | nexusOperationTimedOutEventAttributes (failure : Option Failure)
  | nexusOperationCancelRequestCompletedEventAttributes
  | nexusOperationCancelRequestFailedEventAttributes (failure : Option Failure)
  | other
  deriving Repr, DecidableEq

/-- `temporal.api.history.v1.HistoryEvent`. -/
structure HistoryEvent where
  eventId : Int
  eventType : EventType
  attributes : Option Attributes
  deriving Repr, DecidableEq

/-- The `{:?}` rendering of an `EventType`: the variant name. -/
def EventType.debugName : EventType → String
  | .unspecified => "Unspecified"
  | .workflowExecutionStarted => "WorkflowExecutionStarted"
  | .workflowExecutionCompleted => "WorkflowExecutionCompleted"
  | .workflowExecutionFailed => "WorkflowExecutionFailed"
  | .workflowExecutionTimedOut => "WorkflowExecutionTimedOut"
  | .workflowTaskScheduled => "WorkflowTaskScheduled"
  | .workflowTaskStarted => "WorkflowTaskStarted"
  | .workflowTaskCompleted => "WorkflowTaskCompleted"
  | .workflowTaskTimedOut => "WorkflowTaskTimedOut"
  | .workflowTaskFailed => "WorkflowTaskFailed"
  | .activityTaskScheduled => "ActivityTaskScheduled"
  | .activityTaskStarted => "ActivityTaskStarted"
  | .activityTaskCompleted => "ActivityTaskCompleted"
  | .activityTaskFailed => "ActivityTaskFailed"
  | .activityTaskTimedOut => "ActivityTaskTimedOut"
  | .activityTaskCancelRequested => "ActivityTaskCancelRequested"
  | .activityTaskCanceled => "ActivityTaskCanceled"
  | .timerStarted => "TimerStarted"
  | .timerFired => "TimerFired"
  | .timerCanceled => "TimerCanceled"
  | .workflowExecutionCancelRequested => "WorkflowExecutionCancelRequested"
  | .workflowExecutionCanceled => "WorkflowExecutionCanceled"
  | .requestCancelExternalWorkflowExecutionInitiated =>
    "RequestCancelExternalWorkflowExecutionInitiated"
  | .requestCancelExternalWorkflowExecutionFailed => "RequestCancelExternalWorkflowExecutionFailed"
  | .externalWorkflowExecutionCancelRequested => "ExternalWorkflowExecutionCancelRequested"
  | .markerRecorded => "MarkerRecorded"
  | .workflowExecutionSignaled => "WorkflowExecutionSignaled"
  | .workflowExecutionTerminated => "WorkflowExecutionTerminated"
  | .workflowExecutionContinuedAsNew => "WorkflowExecutionContinuedAsNew"
  | .startChildWorkflowExecutionInitiated => "StartChildWorkflowExecutionInitiated"
  | .startChildWorkflowExecutionFailed => "StartChildWorkflowExecutionFailed"
  | .childWorkflowExecutionStarted => "ChildWorkflowExecutionStarted"
  | .childWorkflowExecutionCompleted => "ChildWorkflowExecutionCompleted"
  | .childWorkflowExecutionFailed => "ChildWorkflowExecutionFailed"
  | .childWorkflowExecutionCanceled => "ChildWorkflowExecutionCanceled"
  | .childWorkflowExecutionTimedOut => "ChildWorkflowExecutionTimedOut"
  | .childWorkflowExecutionTerminated => "ChildWorkflowExecutionTerminated"
  | .signalExternalWorkflowExecutionInitiated => "SignalExternalWorkflowExecutionInitiated"
  | .signalExternalWorkflowExecutionFailed => "SignalExternalWorkflowExecutionFailed"
  | .externalWorkflowExecutionSignaled => "ExternalWorkflowExecutionSignaled"
  | .upsertWorkflowSearchAttributes => "UpsertWorkflowSearchAttributes"
  | .workflowExecutionUpdateAdmitted => "WorkflowExecutionUpdateAdmitted"
  | .workflowExecutionUpdateAccepted => "WorkflowExecutionUpdateAccepted"
  | .workflowExecutionUpdateRejected => "WorkflowExecutionUpdateRejected"
  | .workflowExecutionUpdateCompleted => "WorkflowExecutionUpdateCompleted"
  | .workflowPropertiesModifiedExternally => "WorkflowPropertiesModifiedExternally"
  | .activityPropertiesModifiedExternally => "ActivityPropertiesModifiedExternally"
  | .workflowPropertiesModified => "WorkflowPropertiesModified"
  | .nexusOperationScheduled => "NexusOperationScheduled"
  | .nexusOperationStarted => "NexusOperationStarted"
  | .nexusOperationCompleted => "NexusOperationCompleted"
  | .nexusOperationFailed => "NexusOperationFailed"
  | .nexusOperationCanceled => "NexusOperationCanceled"
  | .nexusOperationTimedOut => "NexusOperationTimedOut"
  | .nexusOperationCancelRequested => "NexusOperationCancelRequested"
  | .workflowExecutionOptionsUpdated => "WorkflowExecutionOptionsUpdated"
  | .nexusOperationCancelRequestCompleted => "NexusOperationCancelRequestCompleted"
  | .nexusOperationCancelRequestFailed => "NexusOperationCancelRequestFailed"
  | .workflowExecutionPaused => "WorkflowExecutionPaused"
  | .workflowExecutionUnpaused => "WorkflowExecutionUnpaused"

namespace HistoryEvent

/-- `HistoryEventExt::is_command_event`: the events a command of the worker produces. -/
def isCommandEvent (e : HistoryEvent) : Bool :=
  match e.eventType with
  | .activityTaskScheduled | .activityTaskCancelRequested | .markerRecorded
  | .requestCancelExternalWorkflowExecutionInitiated
  | .signalExternalWorkflowExecutionInitiated | .startChildWorkflowExecutionInitiated
  | .timerCanceled | .timerStarted | .upsertWorkflowSearchAttributes
  | .workflowPropertiesModified | .nexusOperationScheduled | .nexusOperationCancelRequested
  | .workflowExecutionCanceled | .workflowExecutionCompleted
  | .workflowExecutionContinuedAsNew | .workflowExecutionFailed
  | .workflowExecutionUpdateAccepted | .workflowExecutionUpdateRejected
  | .workflowExecutionUpdateCompleted => true
  | _ => false

/-- `HistoryEventExt::is_final_wf_execution_event`. -/
def isFinalWfExecutionEvent (e : HistoryEvent) : Bool :=
  match e.eventType with
  | .workflowExecutionCompleted | .workflowExecutionCanceled | .workflowExecutionFailed
  | .workflowExecutionTimedOut | .workflowExecutionContinuedAsNew
  | .workflowExecutionTerminated => true
  | _ => false

/-- `Display for HistoryEvent`. -/
def display (e : HistoryEvent) : String :=
  "HistoryEvent(id: " ++ toString e.eventId ++ ", " ++ e.eventType.debugName ++ ")"

/-- An event of the given type with attributes no chunking rule reads. -/
def plain (eventId : Int) (eventType : EventType) : HistoryEvent :=
  { eventId, eventType, attributes := some .other }

end HistoryEvent

end SdkCore
