import SdkCore.Machines.Basic

/-!
# The update machine

`crates/sdk-core/src/worker/workflow/machines/update_state_machine.rs`. An update request from
the server becomes a `DoUpdate` job for lang (`init`). Lang answers with `handle_response`:
accept, then complete or fail, or reject at once. Each answer becomes outgoing protocol
messages (`build_msg`); acceptance and response messages come with a `ProtocolMessage`
command of the same id (`build_command_msg`), which the machine later sees acknowledged
(`CommandProtocolMessage`), and the history records them as `WorkflowExecutionUpdateAccepted`
and `WorkflowExecutionUpdateCompleted`.

Lang's completion may come before the acceptance command is acknowledged or recorded: the
`CompletedImmediately*` states count the acknowledgements of both commands before they wait
for the acceptance event.

`UpdateRequest` keeps the invariant `TryFrom<update::v1::Request>` checks: its input and meta
are present, so the accessors that the source writes with `expect` are total here.
-/

namespace SdkCore.Update

open Fsm

/-! ## Requests -/

/-- `UpdateRequest`: a request whose `input` and `meta` are populated. -/
structure UpdateRequest where
  original : Request
  input_isSome : original.input.isSome
  meta_isSome : original.updateMeta.isSome

/-- `TryFrom<update::v1::Request> for UpdateRequest`. -/
def UpdateRequest.ofRequest (r : Request) : Except String UpdateRequest :=
  if hi : r.input.isSome then
    if hm : r.updateMeta.isSome then .ok ⟨r, hi, hm⟩
    else .error "Update request\x27s `meta` field must be populated"
  else .error "Update request\x27s `input` field must be populated"

/-- The request's input, present by the invariant. -/
def UpdateRequest.requestInput (u : UpdateRequest) : Input :=
  u.original.input.get u.input_isSome

/-- `UpdateRequest::name`. -/
def UpdateRequest.name (u : UpdateRequest) : String := u.requestInput.name

/-- `UpdateRequest::headers`. -/
def UpdateRequest.headers (u : UpdateRequest) : List (String × Payload) :=
  u.requestInput.header.getD []

/-- `UpdateRequest::input`. -/
def UpdateRequest.input (u : UpdateRequest) : List Payload := u.requestInput.args.getD []

/-- `UpdateRequest::meta`. -/
def UpdateRequest.updateMeta (u : UpdateRequest) : Meta := u.original.updateMeta.get u.meta_isSome

/-- A request is accepted exactly when its input and meta are present. -/
theorem UpdateRequest.ofRequest_isOk (r : Request) :
    (∃ u, UpdateRequest.ofRequest r = .ok u ∧ u.original = r) ↔
      r.input.isSome ∧ r.updateMeta.isSome := by
  unfold UpdateRequest.ofRequest
  by_cases hi : r.input.isSome <;> by_cases hm : r.updateMeta.isSome <;> simp [hi, hm]

/-! ## The machine -/

/-- `UpdateMachine`'s states; `RequestInitiated` holds the original request. -/
inductive UpdateMachineState where
  | requestInitiated (originalRequest : Request)
  | accepted | acceptCommandCreated | acceptCommandRecorded | completed
  | completedCommandCreated | completedCommandRecorded | rejected
  | completedImmediately | completedImmediatelyAcceptCreated
  | completedImmediatelyCompleteCreated
  deriving Repr, DecidableEq

/-- `UpdateMachineEvents`. -/
inductive UpdateMachineEvents where
  | accept
  | reject (failure : Failure)
  | complete (payload : Payload)
  | commandProtocolMessage
  | workflowExecutionUpdateAccepted
  | workflowExecutionUpdateCompleted
  deriving Repr, DecidableEq

/-- `UpdateMachineCommand`. -/
inductive UpdateMachineCommand where
  | accept (orig : Request)
  | reject (orig : Request) (fail : Failure)
  | complete (payload : Payload)
  | fail (failure : Failure)
  deriving Repr, DecidableEq

/-- The update machine's `SharedState`; `meta` is `updateMeta`. -/
structure SharedState where
  messageId : String
  instanceId : String
  eventSeqId : Int
  updateMeta : Meta
  deriving Repr, DecidableEq

/-- `UpdateMachine`. -/
abbrev UpdateMachine := StateMachine UpdateMachineState SharedState

/-- A transition result of the update machine. -/
abbrev UpdateMachineTransition :=
  TransitionResult UpdateMachineState UpdateMachineCommand WFMachinesError

/-! ## Handlers -/

/-- `RequestInitiated::on_accept`. -/
def RequestInitiated.onAccept (originalRequest : Request) : UpdateMachineTransition :=
  .ok [.accept originalRequest] .accepted

/-- `RequestInitiated::on_reject`. -/
def RequestInitiated.onReject (originalRequest : Request) (fail : Failure) :
    UpdateMachineTransition :=
  .ok [.reject originalRequest fail] .rejected

/-- The body of every `on_complete`: the `Complete` command, to `dest`. -/
def completeTo (dest : UpdateMachineState) (p : Payload) : UpdateMachineTransition :=
  .ok [.complete p] dest

/-- The body of every `on_fail`: the `Fail` command, to `dest`. -/
def failTo (dest : UpdateMachineState) (f : Failure) : UpdateMachineTransition :=
  .ok [.fail f] dest

/-- `Accepted::on_complete`. -/
def Accepted.onComplete (p : Payload) : UpdateMachineTransition :=
  completeTo .completedImmediately p

/-- `Accepted::on_fail`. -/
def Accepted.onFail (f : Failure) : UpdateMachineTransition := failTo .completedImmediately f

/-- `AcceptCommandCreated::on_complete`. -/
def AcceptCommandCreated.onComplete (p : Payload) : UpdateMachineTransition :=
  completeTo .completedImmediatelyAcceptCreated p

/-- `AcceptCommandCreated::on_fail`. -/
def AcceptCommandCreated.onFail (f : Failure) : UpdateMachineTransition :=
  failTo .completedImmediatelyAcceptCreated f

/-- `AcceptCommandRecorded::on_complete`. -/
def AcceptCommandRecorded.onComplete (p : Payload) : UpdateMachineTransition :=
  completeTo .completed p

/-- `AcceptCommandRecorded::on_fail`. -/
def AcceptCommandRecorded.onFail (f : Failure) : UpdateMachineTransition := failTo .completed f

/-- The `fsm!` table of `UpdateMachine`. -/
def transitions : Transitions UpdateMachineState UpdateMachineEvents SharedState
    UpdateMachineCommand WFMachinesError
  | .requestInitiated orig, .accept, sh => some (sh, RequestInitiated.onAccept orig)
  | .requestInitiated orig, .reject f, sh => some (sh, RequestInitiated.onReject orig f)
  | .accepted, .complete p, sh => some (sh, Accepted.onComplete p)
  | .accepted, .reject f, sh => some (sh, Accepted.onFail f)
  | .accepted, .commandProtocolMessage, sh => some (sh, .default .acceptCommandCreated)
  | .acceptCommandCreated, .workflowExecutionUpdateAccepted, sh =>
    some (sh, .default .acceptCommandRecorded)
  | .acceptCommandCreated, .complete p, sh => some (sh, AcceptCommandCreated.onComplete p)
  | .acceptCommandCreated, .reject f, sh => some (sh, AcceptCommandCreated.onFail f)
  | .acceptCommandRecorded, .complete p, sh => some (sh, AcceptCommandRecorded.onComplete p)
  | .acceptCommandRecorded, .reject f, sh => some (sh, AcceptCommandRecorded.onFail f)
  | .completed, .commandProtocolMessage, sh => some (sh, .default .completedCommandCreated)
  | .completedCommandCreated, .workflowExecutionUpdateCompleted, sh =>
    some (sh, .default .completedCommandRecorded)
  | .completedImmediately, .commandProtocolMessage, sh =>
    some (sh, .default .completedImmediatelyAcceptCreated)
  | .completedImmediatelyAcceptCreated, .commandProtocolMessage, sh =>
    some (sh, .default .completedImmediatelyCompleteCreated)
  | .completedImmediatelyCompleteCreated, .workflowExecutionUpdateAccepted, sh =>
    some (sh, .default .completedCommandCreated)
  | _, _, _ => none

/-- The state names, as `Display` prints them. -/
def UpdateMachineState.name : UpdateMachineState → String
  | .requestInitiated _ => "RequestInitiated"
  | .accepted => "Accepted"
  | .acceptCommandCreated => "AcceptCommandCreated"
  | .acceptCommandRecorded => "AcceptCommandRecorded"
  | .completed => "Completed"
  | .completedCommandCreated => "CompletedCommandCreated"
  | .completedCommandRecorded => "CompletedCommandRecorded"
  | .rejected => "Rejected"
  | .completedImmediately => "CompletedImmediately"
  | .completedImmediatelyAcceptCreated => "CompletedImmediatelyAcceptCreated"
  | .completedImmediatelyCompleteCreated => "CompletedImmediatelyCompleteCreated"

/-! ## Outgoing messages -/

/-- `UpdateMsg`. -/
inductive UpdateMsg where
  | accept (m : Acceptance)
  | reject (m : Rejection)
  | response (m : Response)
  deriving Repr, DecidableEq

/-- `UpdateMsg::pack`: the message in an `Any` under its type URL. Encoding into a growing
buffer cannot fail, so the `EncodeError` of `pack_any` is not modelled. -/
def UpdateMsg.pack : UpdateMsg → PackedAny
  | .accept m =>
    { typeUrl := "type.googleapis.com/temporal.api.update.v1.Acceptance", value := .acceptance m }
  | .reject m =>
    { typeUrl := "type.googleapis.com/temporal.api.update.v1.Rejection", value := .rejection m }
  | .response m =>
    { typeUrl := "type.googleapis.com/temporal.api.update.v1.Response", value := .response m }

/-- `UpdateMachine::build_msg`. -/
def buildMsg (sh : SharedState) (outgoingId : String) (msg : UpdateMsg) : MachineResponse :=
  .issueNewMessage { id := outgoingId, protocolInstanceId := sh.instanceId, body := some msg.pack }

/-- `UpdateMachine::build_command_msg`: the message and a `ProtocolMessage` command naming it. -/
def buildCommandMsg (sh : SharedState) (outgoingId : String) (msg : UpdateMsg) :
    List MachineResponse :=
  [buildMsg sh outgoingId msg,
   .issueNewCommand (CommandAttributes.protocolMessageCommandAttributes outgoingId).toCommand]

/-- The response message carrying an outcome. -/
def responseMsg (sh : SharedState) (value : OutcomeValue) : UpdateMsg :=
  .response { updateMeta := some sh.updateMeta, outcome := some { value := some value } }

/-- `WFMachinesAdapter for UpdateMachine`. -/
def adaptResponse (m : UpdateMachine) (myCommand : UpdateMachineCommand)
    (_eventInfo : Option EventInfo) : Except WFMachinesError (List MachineResponse) :=
  let sh := m.sharedState
  .ok <| match myCommand with
    | .accept orig =>
      buildCommandMsg sh (sh.messageId ++ "/accept")
        (.accept { acceptedRequestMessageId := sh.messageId,
                   acceptedRequestSequencingEventId := sh.eventSeqId,
                   acceptedRequest := some orig })
    | .reject orig fail =>
      [buildMsg sh (sh.messageId ++ "/reject")
        (.reject { rejectedRequestMessageId := sh.messageId,
                   rejectedRequestSequencingEventId := sh.eventSeqId,
                   rejectedRequest := some orig, failure := some fail })]
    | .complete p => buildCommandMsg sh (sh.messageId ++ "/complete") (responseMsg sh (.success [p]))
    | .fail f => buildCommandMsg sh (sh.messageId ++ "/complete") (responseMsg sh (.failure f))

/-! ## Conversions, the machine and its inputs -/

/-- `TryFrom<HistEventData> for UpdateMachineEvents`. -/
def ofHistEvent (e : HistEventData) : Except WFMachinesError UpdateMachineEvents :=
  match e.event.eventType with
  | .workflowExecutionUpdateAccepted => .ok .workflowExecutionUpdateAccepted
  | .workflowExecutionUpdateCompleted => .ok .workflowExecutionUpdateCompleted
  | _ => .error (.nondeterminism ("Update machine does not handle this event: " ++ e.event.display))

/-- `TryFrom<CommandType> for UpdateMachineEvents`. -/
def ofCommandType : CommandType → Option UpdateMachineEvents
  | .protocolMessage => some .commandProtocolMessage
  | _ => none

/-- The update machine as a `TemporalStateMachine`. -/
def machineDef : MachineDef UpdateMachineState UpdateMachineEvents SharedState
    UpdateMachineCommand :=
  { name := "UpdateMachine", transitions, stateName := UpdateMachineState.name, ofCommandType,
    ofHistEvent, adaptResponse }

/-- `UpdateMachine::init`: the machine in `RequestInitiated` and the `DoUpdate` job for lang. -/
def UpdateMachine.init (messageId instanceId : String) (eventSeqId : Int) (request : UpdateRequest)
    (replaying : Bool) : UpdateMachine × MachineResponse :=
  let updateMeta := request.updateMeta
  let doUpdate : DoUpdate :=
    { id := updateMeta.updateId, protocolInstanceId := instanceId, name := request.name,
      input := request.input, headers := request.headers, updateMeta := some updateMeta,
      runValidator := !replaying }
  (StateMachine.fromParts (.requestInitiated request.original)
    { messageId, instanceId, eventSeqId, updateMeta }, .pushWFJob (.doUpdate doUpdate))

/-- The event a lang response feeds the machine. -/
def responseEvent : UpdateResponseBody → UpdateMachineEvents
  | .accepted => .accept
  | .rejected f => .reject f
  | .completed p => .complete p

/-- `UpdateMachine::handle_response`. -/
def UpdateMachine.handleResponse (m : UpdateMachine) (resp : UpdateResponse) :
    UpdateMachine × Except WFMachinesError (List MachineResponse) :=
  match resp.response with
  | none =>
    (m, .error (.fatal ("Update response for update " ++ m.sharedState.updateMeta.updateId ++
      " had an empty result, this is a lang layer bug.")))
  | some body =>
    match onEvent transitions m (responseEvent body) with
    | (m', .ok cmds) => (m', machineDef.processMachineCommands m' none cmds)
    | (m', .error .invalidTransition) =>
      (m', .error (.nondeterminism ("Invalid transition while handling update response (id " ++
        m'.sharedState.updateMeta.updateId ++ ") in state " ++ machineDef.stateText m')))
    | (m', .error (.underlying e)) => (m', .error e)

/-- One input to an update machine: a lang response, or a command or an event as
`WorkflowMachines` delivers them. -/
inductive UpdateInput where
  | handleResponse (resp : UpdateResponse)
  | handleCommand (commandType : CommandType)
  | handleEvent (eventDat : HistEventData)

/-- The machine's responses to one input. -/
def step (m : UpdateMachine) : UpdateInput →
    Except WFMachinesError (UpdateMachine × List MachineResponse)
  | .handleResponse resp =>
    match m.handleResponse resp with
    | (m', .ok r) => .ok (m', r)
    | (_, .error e) => .error e
  | .handleCommand commandType =>
    match machineDef.handleCommand m commandType with
    | (m', .ok r) => .ok (m', r)
    | (_, .error e) => .error e
  | .handleEvent eventDat =>
    match machineDef.handleEvent m eventDat with
    | (m', .ok r) => .ok (m', r)
    | (_, .error e) => .error e

end SdkCore.Update
