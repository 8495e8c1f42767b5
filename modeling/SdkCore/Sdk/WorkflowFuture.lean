import Mathlib.Data.Finset.Basic
import SdkCore.Steps

/-!
# The Rust SDK's workflow future

`crates/sdk/src/workflow_future.rs`: `WorkflowFuture::poll` takes activations from core one after
another. An activation that only evicts is answered with an empty completion and ends the future.
Otherwise each job is handled (`handle_job`): a resolution unblocks the future of the command it
resolves, found in `command_status`; a signal starts its handler's future and an update its
validator and handler; a failing job fails the task (`fail_wft`). The signal handlers' futures are
polled next, and the first error among them fails the task; then the update handlers' futures,
each finished one sending its response into the command channel. The workflow body is then polled
(`poll_wf_future`), the commands sent are drained, and the activation is answered with the
commands gathered (`send_completion`).

The workflow code is a parameter (`WorkflowBody`): what reaches it lands at once, as a `oneshot`
send does, and each poll of it or of a handler's future gives the commands the code sent.
`command_status` is kept as its set of keys.

Cancelling a timer unblocks it in the drain loop with `?`; when the timer has already fired, its
entry is gone, and the error leaves `poll` as its result with the activation unanswered
(`processActivation_cancelAfterFire`).
-/

namespace SdkCore.Sdk

/-- `TimerResult`. -/
inductive TimerResult where
  | fired
  | cancelled
  deriving DecidableEq, Repr

/-- `UnblockEvent`; the results of other commands, which the future only passes on, are not
kept. -/
inductive UnblockEvent where
  | timer (seq : Nat) (result : TimerResult)
  | activity (seq : Nat)
  | workflowStart (seq : Nat)
  | workflowComplete (seq : Nat)
  | signalExternal (seq : Nat)
  | cancelExternal (seq : Nat)
  | nexusOperationStart (seq : Nat)
  | nexusOperationComplete (seq : Nat)
  deriving DecidableEq, Repr

/-- `CommandID`. -/
inductive CommandID where
  | timer (seq : Nat)
  | activity (seq : Nat)
  | childWorkflowStart (seq : Nat)
  | childWorkflowComplete (seq : Nat)
  | signalExternal (seq : Nat)
  | cancelExternal (seq : Nat)
  | nexusOpStart (seq : Nat)
  | nexusOpComplete (seq : Nat)
  deriving DecidableEq, Repr

/-- The `{:?}` rendering of a `CommandID`. -/
def CommandID.debug : CommandID → String
  | .timer seq => "Timer(" ++ toString seq ++ ")"
  | .activity seq => "Activity(" ++ toString seq ++ ")"
  | .childWorkflowStart seq => "ChildWorkflowStart(" ++ toString seq ++ ")"
  | .childWorkflowComplete seq => "ChildWorkflowComplete(" ++ toString seq ++ ")"
  | .signalExternal seq => "SignalExternal(" ++ toString seq ++ ")"
  | .cancelExternal seq => "CancelExternal(" ++ toString seq ++ ")"
  | .nexusOpStart seq => "NexusOpStart(" ++ toString seq ++ ")"
  | .nexusOpComplete seq => "NexusOpComplete(" ++ toString seq ++ ")"

/-- The command an unblock event resolves, as `unblock` maps it. -/
def UnblockEvent.commandId : UnblockEvent → CommandID
  | .timer seq _ => .timer seq
  | .activity seq => .activity seq
  | .workflowStart seq => .childWorkflowStart seq
  | .workflowComplete seq => .childWorkflowComplete seq
  | .signalExternal seq => .signalExternal seq
  | .cancelExternal seq => .cancelExternal seq
  | .nexusOperationStart seq => .nexusOpStart seq
  | .nexusOperationComplete seq => .nexusOpComplete seq

/-- `CancellableID`; the reasons some carry are not kept. -/
inductive CancellableID where
  | timer (seq : Nat)
  | activity (seq : Nat)
  | localActivity (seq : Nat)
  | childWorkflow (seqnum : Nat)
  | signalExternalWorkflow (seq : Nat)
  | externalWorkflow (seqnum : Nat)
  | nexusOp (seq : Nat)
  deriving DecidableEq, Repr

/-- `update_response::Response`: accepted, rejected with its failure's message, or completed; the
payload a completed update returns is not kept. -/
inductive UpdateResponse where
  | accepted
  | rejected (message : String)
  | completed
  deriving DecidableEq, Repr

/-- `WorkflowCommand`, by its variant; `other` stands for the nonblocking commands the future only
passes on. -/
inductive WorkflowCommand where
  | startTimer (seq : Nat)
  | scheduleActivity (seq : Nat)
  | scheduleLocalActivity (seq : Nat)
  | setPatchMarker
  | startChildWorkflowExecution (seq : Nat)
  | signalExternalWorkflowExecution (seq : Nat)
  | requestCancelExternalWorkflowExecution (seq : Nat)
  | scheduleNexusOperation (seq : Nat)
  | cancelTimer (seq : Nat)
  | requestCancelActivity (seq : Nat)
  | requestCancelLocalActivity (seq : Nat)
  | cancelChildWorkflowExecution (seq : Nat)
  | cancelSignalWorkflow (seq : Nat)
  | requestCancelNexusOperation (seq : Nat)
  | respondToQuery (queryId : String)
  | updateResponse (protocolInstanceId : String) (response : UpdateResponse)
  | completeWorkflowExecution
  | continueAsNewWorkflowExecution
  | cancelWorkflowExecution
  | failWorkflowExecution (message : String)
  | other
  deriving DecidableEq, Repr

/-- `RustWfCmd`, what the workflow code sends to its future. -/
inductive RustWfCmd where
  | cancel (id : CancellableID)
  | newCmd (cmd : WorkflowCommand)
  | newNonblockingCmd (cmd : WorkflowCommand)
  | subscribeChildWorkflowCompletion (seq : Nat)
  | forceWFTFailure (err : String)
  | subscribeNexusOperationCompletion (seq : Nat)
  deriving DecidableEq, Repr

/-- `WorkflowTermination`; a continue-as-new's command is not kept. -/
inductive WorkflowTermination where
  | cancelled
  | evicted
  | continueAsNew
  | failed (message : String)
  deriving DecidableEq, Repr

/-- What polling the workflow body gives: still pending, finished, or panicked. -/
inductive RunPoll where
  | pending
  | ready (result : Except WorkflowTermination Unit)
  | panicked (message : String)
  deriving DecidableEq, Repr

/-- What polling a signal or an update handler's future gives (`poll_unpin`): still pending, with
the future as it now stands, finished with its result, or panicked. -/
inductive HandlerPoll (φ : Type) where
  | pending (fut : φ)
  | ready (result : Except String Unit)
  | panicked (message : String)

/-- What reaches the workflow code: an unblocked command future, or a cancellation of the
workflow (`cancel_sender`). -/
inductive Delivery where
  | unblock (event : UnblockEvent)
  | cancel (reason : String)
  deriving DecidableEq, Repr

/-- The workflow code (`DynWorkflowExecution`), over its state `β`, with signal handler futures `φ`
and update handler futures `υ`. `deliver` is the `oneshot` (or `watch`) send, which lands at once;
each poll gives the commands the code sent, in order. An `Except` error is a panic's message:
`dispatch_signal` and `validate_update` run inside `catch_unwind`, `start_update` does not. -/
structure WorkflowBody (β φ υ : Type) where
  deliver : β → Delivery → β
  pollRun : β → β × List RustWfCmd × RunPoll
  dispatchSignal : β → String → Except String (β × Option φ)
  validateUpdate : β → String → Except String (Option (Except String Unit))
  startUpdate : β → String → Except String (β × Option υ)
  pollSignal : β → φ → β × List RustWfCmd × HandlerPoll φ
  pollUpdate : β → υ → β × List RustWfCmd × HandlerPoll υ

/-- `WorkflowActivationJob`, by its variant; the payloads and results it carries are kept only as
whether they are present. -/
inductive Job where
  | initializeWorkflow
  | fireTimer (seq : Nat)
  | resolveActivity (seq : Nat) (hasResult : Bool)
  | resolveChildWorkflowExecutionStart (seq : Nat) (hasStatus : Bool)
  | resolveChildWorkflowExecution (seq : Nat) (hasResult : Bool)
  | updateRandomSeed
  | queryWorkflow (queryId : String)
  | cancelWorkflow (reason : String)
  | signalWorkflow (signalName : String)
  | notifyHasPatch
  | resolveSignalExternalWorkflow (seq : Nat)
  | resolveRequestCancelExternalWorkflow (seq : Nat)
  | doUpdate (protocolInstanceId name : String) (runValidator : Bool)
  | resolveNexusOperationStart (seq : Nat) (hasStatus : Bool)
  | resolveNexusOperation (seq : Nat) (hasResult : Bool)
  | removeFromCache
  | empty
  deriving DecidableEq, Repr

/-- `WorkflowActivation`, the fields `poll` reads. -/
structure Activation where
  runId : String
  jobs : List Job
  deriving DecidableEq, Repr

/-- `WorkflowActivation::is_only_eviction`. -/
def Activation.isOnlyEviction (a : Activation) : Bool :=
  a.jobs == [.removeFromCache]

/-- `WorkflowActivationCompletion`: successful with its commands, or failed with a message. -/
inductive Completion where
  | successful (runId : String) (commands : List WorkflowCommand)
  | fail (runId : String) (message : String)
  deriving DecidableEq, Repr

/-- The run a completion answers. -/
def Completion.runId : Completion → String
  | .successful runId _ => runId
  | .fail runId _ => runId

/-- The future's state: the workflow code's, the keys of `command_status`, the commands sent that
were not yet received (`incoming_commands`), and the handler futures in progress
(`signal_futures`, and `update_futures` with their protocol instance ids). -/
structure WorkflowFuture (β φ υ : Type) where
  execution : β
  commandStatus : Finset CommandID
  incoming : List RustWfCmd
  signalFutures : List φ
  updateFutures : List (String × υ)

/-- How `poll` ends: `Ready` with a result, with the completions the last activation sent
before, or a panic (the Rust `panic!`, `unreachable!` and `expect` failures). Running out of the
drain loop's fuel is `outOfFuel`. -/
inductive PollExit where
  | ready (sent : List Completion) (result : Except WorkflowTermination Unit)
  | panic (message : String)
  | outOfFuel
  deriving DecidableEq, Repr

/-- An end of `poll` that is not `Ready`. -/
def PollExit.IsAbort : PollExit → Prop
  | .ready _ _ => False
  | _ => True

namespace WorkflowFuture

variable {β φ υ : Type} (body : WorkflowBody β φ υ)

/-- The error of `unblock` for a command it does not find. -/
def unblockNotFound (cmdId : CommandID) : String :=
  "Command " ++ cmdId.debug ++ " not found to unblock!"

/-- `WorkflowFuture::unblock`: the command's entry is removed from `command_status` and the event
sent to its future. -/
def unblock (wf : WorkflowFuture β φ υ) (event : UnblockEvent) :
    Except String (WorkflowFuture β φ υ) :=
  let cmdId := event.commandId
  if cmdId ∈ wf.commandStatus then
    .ok { wf with
      execution := body.deliver wf.execution (.unblock event)
      commandStatus := wf.commandStatus.erase cmdId }
  else .error (unblockNotFound cmdId)

/-- A failure of `handle_job`: an error, which fails the task, or a panic. -/
inductive JobFailure where
  | error (message : String)
  | panic (message : String)
  deriving DecidableEq, Repr

/-- An `unblock` inside `handle_job`, whose error fails the task. -/
def unblockJob (wf : WorkflowFuture β φ υ) (event : UnblockEvent) :
    Except JobFailure (Bool × WorkflowFuture β φ υ × List WorkflowCommand) :=
  match unblock body wf event with
  | .ok wf => .ok (true, wf, [])
  | .error e => .error (.error e)

/-- A resolution whose result is required (`.context(msg)?`), then unblocked. -/
def resolveJob (wf : WorkflowFuture β φ υ) (present : Bool) (msg : String) (event : UnblockEvent) :
    Except JobFailure (Bool × WorkflowFuture β φ υ × List WorkflowCommand) :=
  if present then unblockJob body wf event else .error (.error msg)

/-- The rejection of an update that no handler takes. -/
def noUpdateHandler (name : String) : UpdateResponse :=
  .rejected ("No update handler registered for update name " ++ name)

/-- The `DoUpdate` arm of `handle_job`: the validator runs first when asked, and a panic in it
fails the task; a valid update is started and accepted, one that fails validation is rejected
with the validator's error, and one with no handler is rejected. -/
def doUpdate (wf : WorkflowFuture β φ υ) (protocolInstanceId name : String) (runValidator : Bool) :
    Except JobFailure (Bool × WorkflowFuture β φ υ × List WorkflowCommand) := do
  let traitValResult ←
    if runValidator then
      (body.validateUpdate wf.execution name).mapError
        fun msg => .error ("Panic in update validator " ++ msg)
    else pure (some (.ok ()))
  match traitValResult with
  | some (.ok ()) =>
    match body.startUpdate wf.execution name with
    | .error msg => .error (.panic msg)
    | .ok (execution, some fut) =>
      .ok (true, { wf with
          execution
          updateFutures := wf.updateFutures ++ [(protocolInstanceId, fut)] },
        [.updateResponse protocolInstanceId .accepted])
    | .ok (execution, none) =>
      .ok (true, { wf with execution }, [.updateResponse protocolInstanceId (noUpdateHandler name)])
  | some (.error e) => .ok (true, wf, [.updateResponse protocolInstanceId (.rejected e)])
  | none => .ok (true, wf, [.updateResponse protocolInstanceId (noUpdateHandler name)])

/-- `WorkflowFuture::handle_job`: whether to poll the body, the future afterwards, and the
commands it adds. -/
def handleJob (wf : WorkflowFuture β φ υ) :
    Job → Except JobFailure (Bool × WorkflowFuture β φ υ × List WorkflowCommand)
  | .initializeWorkflow => .ok (true, wf, [])
  | .fireTimer seq => unblockJob body wf (.timer seq .fired)
  | .resolveActivity seq hasResult =>
    resolveJob body wf hasResult "Activity must have result" (.activity seq)
  | .resolveChildWorkflowExecutionStart seq hasStatus =>
    resolveJob body wf hasStatus "Workflow start must have status" (.workflowStart seq)
  | .resolveChildWorkflowExecution seq hasResult =>
    resolveJob body wf hasResult "Child Workflow execution must have a result"
      (.workflowComplete seq)
  | .updateRandomSeed => .ok (true, wf, [])
  -- an activation of only queries must not advance the workflow
  | .queryWorkflow queryId => .ok (false, wf, [.respondToQuery queryId])
  | .cancelWorkflow reason =>
    .ok (true, { wf with execution := body.deliver wf.execution (.cancel reason) }, [])
  | .signalWorkflow signalName =>
    match body.dispatchSignal wf.execution signalName with
    | .error msg => .error (.error ("Panic in signal handler: " ++ msg))
    -- a signal with no handler is dropped
    | .ok (execution, fut) =>
      .ok (true, { wf with execution, signalFutures := wf.signalFutures ++ fut.toList }, [])
  | .notifyHasPatch => .ok (true, wf, [])
  | .resolveSignalExternalWorkflow seq => unblockJob body wf (.signalExternal seq)
  | .resolveRequestCancelExternalWorkflow seq => unblockJob body wf (.cancelExternal seq)
  | .doUpdate protocolInstanceId name runValidator =>
    doUpdate body wf protocolInstanceId name runValidator
  | .resolveNexusOperationStart seq hasStatus =>
    resolveJob body wf hasStatus "Nexus operation start must have status"
      (.nexusOperationStart seq)
  | .resolveNexusOperation seq hasResult =>
    resolveJob body wf hasResult "Nexus operation must have result" (.nexusOperationComplete seq)
  | .removeFromCache =>
    .error (.panic "internal error: entered unreachable code: Cache removal should happen higher up")
  | .empty => .error (.error "Empty activation job variant")

/-- The jobs of an activation in order (the `for` loop of `poll`): the future, and whether to poll
the body with the commands added, or the first failure. -/
def handleJobs (wf : WorkflowFuture β φ υ) :
    List Job → WorkflowFuture β φ υ × Except JobFailure (Bool × List WorkflowCommand)
  | [] => (wf, .ok (false, []))
  | job :: jobs =>
    match handleJob body wf job with
    | .error f => (wf, .error f)
    | .ok (poll₁, wf, cmds₁) =>
      let (wf, r) := handleJobs wf jobs
      (wf, r.map fun (poll₂, cmds₂) => (poll₁ || poll₂, cmds₁ ++ cmds₂))

/-- The `filter_map` over the signal futures taken out of `signal_futures`, and its `collect`:
each is polled in turn, a finished one dropped and a pending one kept; the first error stops the
loop and returns, with every signal future dropped. The outer error is a panic. -/
def pollSignals (wf : WorkflowFuture β φ υ) :
    List φ → Except String (WorkflowFuture β φ υ × Option String)
  | [] => .ok (wf, none)
  | fut :: futs =>
    let (execution, cmds, p) := body.pollSignal wf.execution fut
    let wf := { wf with execution, incoming := wf.incoming ++ cmds }
    match p with
    | .panicked msg => .error msg
    | .ready (.error e) => .ok ({ wf with signalFutures := [] }, some e)
    | .ready (.ok ()) => pollSignals wf futs
    | .pending fut => pollSignals { wf with signalFutures := wf.signalFutures ++ [fut] } futs

/-- The response a finished update sends. -/
def updateResult : Except String Unit → UpdateResponse
  | .ok () => .completed
  | .error e => .rejected e

/-- The `filter_map` over the update futures taken out of `update_futures`: each is polled in turn;
a finished one sends its response into the command channel, behind the commands it sent, and is
dropped, and a pending one is kept. The error is a panic. -/
def pollUpdates (wf : WorkflowFuture β φ υ) :
    List (String × υ) → Except String (WorkflowFuture β φ υ)
  | [] => .ok wf
  | (instanceId, fut) :: futs =>
    let (execution, cmds, p) := body.pollUpdate wf.execution fut
    let wf := { wf with execution, incoming := wf.incoming ++ cmds }
    match p with
    | .panicked msg => .error msg
    | .ready r =>
      pollUpdates
        { wf with incoming := wf.incoming ++ [.newNonblockingCmd (.updateResponse instanceId (updateResult r))] }
        futs
    | .pending fut =>
      pollUpdates { wf with updateFutures := wf.updateFutures ++ [(instanceId, fut)] } futs

/-- The handler futures, polled before the body: the signals' (`std::mem::take`), then the
updates'. The error of a signal handler is returned; the outer error is a panic. -/
def pollHandlers (wf : WorkflowFuture β φ υ) :
    Except String (WorkflowFuture β φ υ × Option String) := do
  let (wf', err) ← pollSignals body { wf with signalFutures := [] } wf.signalFutures
  match err with
  | some e => pure (wf', some e)
  | none =>
    let wf'' ← pollUpdates body { wf' with updateFutures := [] } wf'.updateFutures
    pure (wf'', none)

/-- Polls the body; the commands it sends join `incoming`. -/
def pollRun (wf : WorkflowFuture β φ υ) : WorkflowFuture β φ υ × RunPoll :=
  let (execution, cmds, res) := body.pollRun wf.execution
  ({ wf with execution, incoming := wf.incoming ++ cmds }, res)

/-- The command id of a new blocking command, or the panic of `poll_wf_future` on another. -/
def newCmdId : WorkflowCommand → Except String CommandID
  | .startTimer seq => .ok (.timer seq)
  | .scheduleActivity seq => .ok (.activity seq)
  | .scheduleLocalActivity seq => .ok (.activity seq)
  | .setPatchMarker => .error "Set patch marker should be a nonblocking command"
  | .startChildWorkflowExecution seq => .ok (.childWorkflowStart seq)
  | .signalExternalWorkflowExecution seq => .ok (.signalExternal seq)
  | .requestCancelExternalWorkflowExecution seq => .ok (.cancelExternal seq)
  | .scheduleNexusOperation seq => .ok (.nexusOpStart seq)
  | _ => .error "not implemented: Command type not implemented"

/-- The command a cancellation of anything but a timer adds. -/
def cancelCommand : CancellableID → WorkflowCommand
  | .timer seq => .cancelTimer seq
  | .activity seq => .requestCancelActivity seq
  | .localActivity seq => .requestCancelLocalActivity seq
  | .childWorkflow seqnum => .cancelChildWorkflowExecution seqnum
  | .signalExternalWorkflow seq => .cancelSignalWorkflow seq
  | .externalWorkflow seqnum => .requestCancelExternalWorkflowExecution seqnum
  | .nexusOp seq => .requestCancelNexusOperation seq

/-- How the drain of the body's commands ends: with the body's last poll result, or by failing the
task (`ForceWFTFailure`), which answers the activation. -/
inductive DrainEnd where
  | drained (res : RunPoll)
  | failedTask (err : String)
  deriving DecidableEq, Repr

/-- What one command received by the drain loop leads to: the loop goes on with the future, the
body's poll result and the activation's commands, or it is left with its result: the future, the
commands and how it ended, or the error of an `unblock` (`?`), or a panic. -/
inductive DrainStep (β φ υ : Type) where
  | next (wf : WorkflowFuture β φ υ) (res : RunPoll) (acc : List WorkflowCommand)
  | done (r : Except PollExit (Except String (WorkflowFuture β φ υ × List WorkflowCommand × DrainEnd)))

/-- A timer cancelled in the drain loop: it is unblocked with `?`, and the body re-polled since
the timer is now unblocked, outside `catch_unwind`. -/
def drainCancelTimer (wf : WorkflowFuture β φ υ) (acc : List WorkflowCommand) (seq : Nat) :
    DrainStep β φ υ :=
  match unblock body wf (.timer seq .cancelled) with
  | .error e => .done (.ok (.error e))
  | .ok wf =>
    match pollRun body wf with
    | (_, .panicked msg) => .done (.error (.panic msg))
    | (wf, res) => .next wf res (acc ++ [.cancelTimer seq])

/-- The body of the `while let Ok(cmd) = incoming_commands.try_recv()` loop of
`poll_wf_future`. -/
def drainCommand (wf : WorkflowFuture β φ υ) (res : RunPoll) (acc : List WorkflowCommand) :
    RustWfCmd → DrainStep β φ υ
  | .cancel (.timer seq) => drainCancelTimer body wf acc seq
  | .cancel id => .next wf res (acc ++ [cancelCommand id])
  | .newCmd c =>
    match newCmdId c with
    | .error msg => .done (.error (.panic msg))
    | .ok cmdId => .next { wf with commandStatus := insert cmdId wf.commandStatus } res (acc ++ [c])
  | .newNonblockingCmd c => .next wf res (acc ++ [c])
  | .subscribeChildWorkflowCompletion seq =>
    .next { wf with commandStatus := insert (.childWorkflowComplete seq) wf.commandStatus } res acc
  | .forceWFTFailure err => .done (.ok (.ok (wf, acc, .failedTask err)))
  | .subscribeNexusOperationCompletion seq =>
    .next { wf with commandStatus := insert (.nexusOpComplete seq) wf.commandStatus } res acc

/-- The drain loop of `poll_wf_future`, until the channel is empty or a command leaves it. -/
def drainCommands : Nat → WorkflowFuture β φ υ → RunPoll → List WorkflowCommand →
    Except PollExit (Except String (WorkflowFuture β φ υ × List WorkflowCommand × DrainEnd))
  | 0, _, _, _ => .error .outOfFuel
  | fuel + 1, wf, res, acc =>
    match wf.incoming with
    | [] => .ok (.ok (wf, acc, .drained res))
    | cmd :: rest =>
      match drainCommand body { wf with incoming := rest } res acc cmd with
      | .next wf res acc => drainCommands fuel wf res acc
      | .done r => r

/-- The command a finished body adds. -/
def finalCommand : Except WorkflowTermination Unit → Except String WorkflowCommand
  | .ok () => .ok .completeWorkflowExecution
  | .error .continueAsNew => .ok .continueAsNewWorkflowExecution
  | .error .cancelled => .ok .cancelWorkflowExecution
  | .error .evicted => .error "Don't explicitly return WorkflowTermination::Evicted"
  | .error (.failed e) => .ok (.failWorkflowExecution ("Workflow execution error: " ++ e))

/-- The rest of `poll_wf_future` after its drain loop: a failed task answers the activation, and a
body that finished adds its final command. -/
def afterDrain (runId : String) :
    Except PollExit (Except String (WorkflowFuture β φ υ × List WorkflowCommand × DrainEnd)) →
      Except PollExit (Except String (WorkflowFuture β φ υ × List WorkflowCommand × Option Completion))
  | .error exit => .error exit
  | .ok (.error e) => .ok (.error e)
  | .ok (.ok (wf, acc, .failedTask err)) => .ok (.ok (wf, acc, some (.fail runId err)))
  | .ok (.ok (wf, acc, .drained (.ready r))) =>
    match finalCommand r with
    | .error msg => .error (.panic msg)
    | .ok c => .ok (.ok (wf, acc ++ [c], none))
  | .ok (.ok (wf, acc, .drained _)) => .ok (.ok (wf, acc, none))

/-- `WorkflowFuture::poll_wf_future`: the future, the activation's commands, and the failure it
sent when it answered the activation itself (`Ok(true)`), or the error it returns with `?`, or a
panic. -/
def pollWfFuture (fuel : Nat) (wf : WorkflowFuture β φ υ) (runId : String)
    (activationCmds : List WorkflowCommand) :
    Except PollExit (Except String (WorkflowFuture β φ υ × List WorkflowCommand × Option Completion)) :=
  match pollRun body wf with
  | (wf, .panicked msg) =>
    -- caught by `catch_unwind`: the task fails, and an eviction follows
    .ok (.ok (wf, activationCmds, some (.fail runId ("Workflow function panicked: " ++ msg))))
  | (wf, res) => afterDrain runId (drainCommands body fuel wf res activationCmds)

/-- The end of an activation whose jobs and handlers went through: the body is polled if a job
asked for it, and the activation answered. -/
def finishActivation (fuel : Nat) (wf : WorkflowFuture β φ υ) (runId : String)
    (shouldPollWf : Bool) (activationCmds : List WorkflowCommand) :
    Except PollExit (WorkflowFuture β φ υ × List Completion) :=
  if shouldPollWf then
    match pollWfFuture body fuel wf runId activationCmds with
    | .error exit => .error exit
    -- `?` returns the error from `poll` as `WorkflowTermination::Failed`
    | .ok (.error e) => .error (.ready [] (.error (.failed e)))
    | .ok (.ok (wf, _, some failure)) => .ok (wf, [failure])
    | .ok (.ok (wf, cmds, none)) => .ok (wf, [.successful runId cmds])
  else .ok (wf, [.successful runId activationCmds])

/-- One activation of the `'activations` loop of `WorkflowFuture::poll`: the future and the
completions sent, or how `poll` ends on it. -/
def processActivation (fuel : Nat) (wf : WorkflowFuture β φ υ) (activation : Activation) :
    Except PollExit (WorkflowFuture β φ υ × List Completion) :=
  if activation.isOnlyEviction then
    .error (.ready [.successful activation.runId []] (.error .evicted))
  else
    match handleJobs body wf activation.jobs with
    | (_, .error (.panic msg)) => .error (.panic msg)
    | (wf, .error (.error e)) => .ok (wf, [.fail activation.runId e])
    | (wf, .ok (shouldPollWf, activationCmds)) =>
      match pollHandlers body wf with
      | .error msg => .error (.panic msg)
      | .ok (wf, some e) => .ok (wf, [.fail activation.runId ("Signal handler error: " ++ e)])
      | .ok (wf, none) => finishActivation body fuel wf activation.runId shouldPollWf activationCmds

/-- `WorkflowFuture::poll` over the activations queued: `Pending` after answering them all, or how
it ends. -/
def poll (fuel : Nat) : WorkflowFuture β φ υ → List Activation →
    Except PollExit (WorkflowFuture β φ υ × List Completion) :=
  Steps.run (processActivation body fuel)

/-! ## How an activation is answered -/

section Answers

variable {body}

theorem unblock_eq_error_iff {wf : WorkflowFuture β φ υ} {event : UnblockEvent} {e : String} :
    unblock body wf event = .error e ↔
      event.commandId ∉ wf.commandStatus ∧ e = unblockNotFound event.commandId := by
  unfold unblock
  dsimp only
  split_ifs with h
  · simp [h]
  · simp [h, eq_comm]

/-- What the drain loop can be left with: an abort, the error of a cancelled timer's `unblock`, or
the future and the commands. -/
def DrainPost :
    Except PollExit (Except String (WorkflowFuture β φ υ × List WorkflowCommand × DrainEnd)) →
      Prop
  | .error exit => exit.IsAbort
  | .ok (.error e) => ∃ seq, e = unblockNotFound (.timer seq)
  | .ok (.ok _) => True

theorem drainCancelTimer_done {wf : WorkflowFuture β φ υ} {acc : List WorkflowCommand} {seq : Nat}
    {r} (h : drainCancelTimer body wf acc seq = .done r) : DrainPost r := by
  unfold drainCancelTimer at h
  cases hu : unblock body wf (.timer seq .cancelled) with
  | error e =>
    simp only [hu, DrainStep.done.injEq] at h
    subst h
    exact ⟨seq, (unblock_eq_error_iff.mp hu).2⟩
  | ok wf' =>
    -- re-polling the body either panics or lets the loop go on
    cases hp : pollRun body wf' with
    | mk wf'' res =>
      cases res with
      | panicked msg =>
        simp only [hu, hp, DrainStep.done.injEq] at h
        subst h
        exact trivial
      | pending => simp only [hu, hp, reduceCtorEq] at h
      | ready _ => simp only [hu, hp, reduceCtorEq] at h

/-- Each command that leaves the drain loop leaves it with what `DrainPost` allows. -/
theorem drainCommand_done {wf : WorkflowFuture β φ υ} {res : RunPoll}
    {acc : List WorkflowCommand} {cmd : RustWfCmd} {r}
    (h : drainCommand body wf res acc cmd = .done r) : DrainPost r := by
  cases cmd with
  | cancel id =>
    cases id with
    | timer seq => exact drainCancelTimer_done h
    | _ => cases h
  | newCmd c =>
    unfold drainCommand at h
    cases hc : newCmdId c with
    | error msg =>
      simp only [hc, DrainStep.done.injEq] at h
      subst h
      exact trivial
    | ok cmdId => simp only [hc, reduceCtorEq] at h
  | forceWFTFailure err =>
    cases h
    exact trivial
  | _ => cases h

/-- By induction on the fuel, one command at a time. -/
theorem drainCommands_post (fuel : Nat) (wf : WorkflowFuture β φ υ) (res : RunPoll)
    (acc : List WorkflowCommand) : DrainPost (drainCommands body fuel wf res acc) := by
  induction fuel generalizing wf res acc with
  | zero => exact trivial
  | succ fuel ih =>
    unfold drainCommands
    cases wf.incoming with
    | nil => exact trivial
    | cons cmd rest =>
      dsimp only
      cases hstep : drainCommand body { wf with incoming := rest } res acc cmd with
      | next wf' res' acc' => exact ih wf' res' acc'
      | done r => exact drainCommand_done hstep

/-- What `poll_wf_future` can end with: an abort, the error of a cancelled timer's `unblock`, or
the future and the commands, with the failure it sent for the activation's run. -/
def PollWfPost (runId : String) :
    Except PollExit (Except String (WorkflowFuture β φ υ × List WorkflowCommand × Option Completion)) →
      Prop
  | .error exit => exit.IsAbort
  | .ok (.error e) => ∃ seq, e = unblockNotFound (.timer seq)
  | .ok (.ok (_, _, some c)) => c.runId = runId
  | .ok (.ok (_, _, none)) => True

theorem afterDrain_post (runId : String)
    {d : Except PollExit (Except String (WorkflowFuture β φ υ × List WorkflowCommand × DrainEnd))}
    (hd : DrainPost d) : PollWfPost runId (afterDrain runId d) := by
  rcases d with exit | e | ⟨wf, acc, res | err⟩
  · exact hd
  · exact hd
  · cases res with
    | ready r =>
      -- only a body that returns `Evicted` has no final command, and that panics
      cases hf : finalCommand r with
      | error msg =>
        simp only [afterDrain, hf]
        exact trivial
      | ok c =>
        simp only [afterDrain, hf]
        exact trivial
    | pending => exact trivial
    | panicked msg => exact trivial
  · rfl

theorem pollWfFuture_post (fuel : Nat) (wf : WorkflowFuture β φ υ) (runId : String)
    (cmds : List WorkflowCommand) : PollWfPost runId (pollWfFuture body fuel wf runId cmds) := by
  unfold pollWfFuture
  cases pollRun body wf with
  | mk wf' res =>
    -- a panic of the first poll is caught; otherwise the drain loop decides
    cases res with
    | panicked msg => rfl
    | pending => exact afterDrain_post runId (drainCommands_post fuel wf' .pending cmds)
    | ready r => exact afterDrain_post runId (drainCommands_post fuel wf' (.ready r) cmds)

/-- What one activation can lead to: an answer by one completion of its run, or `Ready` after an
eviction or a timer's `unblock` error, or an abort. -/
def ActivationPost (a : Activation) :
    Except PollExit (WorkflowFuture β φ υ × List Completion) → Prop
  | .ok (_, sent) => sent.map Completion.runId = [a.runId]
  | .error (.ready sent r) =>
    (a.isOnlyEviction = true ∧ sent = [.successful a.runId []] ∧ r = .error .evicted) ∨
      (sent = [] ∧ ∃ seq, r = .error (.failed (unblockNotFound (.timer seq))))
  | .error _ => True

theorem finishActivation_post (fuel : Nat) (wf : WorkflowFuture β φ υ) (a : Activation)
    (shouldPollWf : Bool) (cmds : List WorkflowCommand) :
    ActivationPost a (finishActivation body fuel wf a.runId shouldPollWf cmds) := by
  unfold finishActivation
  cases shouldPollWf with
  | false => rfl
  | true =>
    have hpoll : PollWfPost a.runId (pollWfFuture body fuel wf a.runId cmds) :=
      pollWfFuture_post fuel wf a.runId cmds
    revert hpoll
    rcases pollWfFuture body fuel wf a.runId cmds with exit | e | ⟨wf', cmds', _ | c⟩
    · -- `poll_wf_future` ends `poll` itself only by an abort
      cases exit with
      | ready sent r => exact False.elim
      | panic msg => exact fun _ => trivial
      | outOfFuel => exact fun _ => trivial
    · rintro ⟨seq, rfl⟩
      exact .inr ⟨rfl, seq, rfl⟩
    · exact fun _ => rfl
    · intro hc
      change [c].map Completion.runId = [a.runId]
      rw [List.map_singleton, show c.runId = a.runId from hc]

/-- Each activation leads to what `ActivationPost` allows. -/
theorem processActivation_post (fuel : Nat) (wf : WorkflowFuture β φ υ) (a : Activation) :
    ActivationPost a (processActivation body fuel wf a) := by
  unfold processActivation
  split_ifs with hev
  · exact .inl ⟨hev, rfl, rfl⟩
  · cases handleJobs body wf a.jobs with
    | mk wf' r =>
      cases r with
      | error f =>
        cases f with
        | error e => rfl
        | panic msg => exact trivial
      | ok p =>
        obtain ⟨shouldPollWf, cmds⟩ := p
        dsimp only
        -- a signal handler's error fails the task, as a failing job does
        cases pollHandlers body wf' with
        | error msg => exact trivial
        | ok q =>
          obtain ⟨wf'', _ | e⟩ := q
          · exact finishActivation_post fuel wf'' a shouldPollWf cmds
          · rfl

/-- An activation `poll` goes on from was answered by exactly one completion of its run. -/
theorem processActivation_ok {fuel : Nat} {wf wf' : WorkflowFuture β φ υ} {a : Activation}
    {sent : List Completion} (h : processActivation body fuel wf a = .ok (wf', sent)) :
    sent.map Completion.runId = [a.runId] := by
  have hpost : ActivationPost a (processActivation body fuel wf a) := processActivation_post fuel wf a
  rw [h] at hpost
  exact hpost

/-- `poll` ends `Ready` on an activation that only evicts, answered with an empty completion, or
on the error of a timer's `unblock`, with nothing sent. -/
theorem processActivation_ready {fuel : Nat} {wf : WorkflowFuture β φ υ} {a : Activation}
    {sent : List Completion} {r : Except WorkflowTermination Unit}
    (h : processActivation body fuel wf a = .error (.ready sent r)) :
    (a.isOnlyEviction = true ∧ sent = [.successful a.runId []] ∧ r = .error .evicted) ∨
      (sent = [] ∧ ∃ seq, r = .error (.failed (unblockNotFound (.timer seq)))) := by
  have hpost : ActivationPost a (processActivation body fuel wf a) := processActivation_post fuel wf a
  rw [h] at hpost
  exact hpost

end Answers

/-- Over a run of activations: when `poll` is still pending, each activation was answered by one
completion of its run, in order; when it ended `Ready`, it did so on an activation that only
evicts, or on a timer's `unblock` error with that activation left unanswered. -/
theorem poll_answers (fuel : Nat) (wf : WorkflowFuture β φ υ) (acts : List Activation) :
    (∀ wf' sent, poll body fuel wf acts = .ok (wf', sent) →
      sent.map Completion.runId = acts.map Activation.runId) ∧
    (∀ sent r, poll body fuel wf acts = .error (.ready sent r) →
      ∃ a ∈ acts,
        (a.isOnlyEviction = true ∧ sent = [.successful a.runId []] ∧ r = .error .evicted) ∨
          (sent = [] ∧ ∃ seq, r = .error (.failed (unblockNotFound (.timer seq))))) := by
  constructor
  · intro wf' sent h
    have hanswers := Steps.run_map_outputs (processActivation body fuel) Completion.runId
      (fun a => [a.runId]) (fun _ _ _ _ hstep => processActivation_ok hstep) acts wf wf' sent h
    rw [hanswers, List.map_eq_flatMap]
  · intro sent r h
    obtain ⟨a, ha, _, hstep⟩ := Steps.run_eq_error (processActivation body fuel) h
    exact ⟨a, ha, processActivation_ready hstep⟩

/-- A workflow whose signal handlers all fail when first polled, and which has no update
handlers. -/
def failingSignalHandler : WorkflowBody Unit Unit Empty where
  deliver _ _ := ()
  pollRun _ := ((), [], .pending)
  dispatchSignal _ _ := .ok ((), some ())
  validateUpdate _ _ := .ok none
  startUpdate _ _ := .ok ((), none)
  pollSignal _ _ := ((), [], .ready (.error "bad input"))
  pollUpdate _ fut := fut.elim

/-- The signal's handler fails, which fails the task; an update with no handler is rejected. -/
example :
    processActivation failingSignalHandler 10 ⟨(), ∅, [], [], []⟩
        ⟨"run", [.signalWorkflow "s"]⟩ =
      .ok (⟨(), ∅, [], [], []⟩, [.fail "run" "Signal handler error: bad input"]) ∧
    processActivation failingSignalHandler 10 ⟨(), ∅, [], [], []⟩
        ⟨"run", [.doUpdate "u1" "u" true]⟩ =
      .ok (⟨(), ∅, [], [], []⟩, [.successful "run" [.updateResponse "u1"
        (.rejected "No update handler registered for update name u")]]) := by
  constructor <;> rfl

end WorkflowFuture

/-! ## Cancelling a timer that fired -/

/-- A workflow that starts timer 1 and, once it has fired, cancels it (`CancellableFuture::cancel`
after the future resolved), then waits. It has no signal or update handlers. -/
def cancelAfterFire : WorkflowBody Nat Empty Empty where
  deliver
    | 1, .unblock (.timer 1 .fired) => 2
    | n, _ => n
  pollRun
    | 0 => (1, [.newCmd (.startTimer 1)], .pending)
    | 2 => (3, [.cancel (.timer 1)], .pending)
    | n => (n, [], .pending)
  dispatchSignal n _ := .ok (n, none)
  validateUpdate _ _ := .ok none
  startUpdate n _ := .ok (n, none)
  pollSignal _ fut := fut.elim
  pollUpdate _ fut := fut.elim

/-- The first activation starts the timer and is answered with it; the second fires the timer, the
body cancels it, and `poll` returns `Ready` with the unblock error, without answering the second
activation. -/
theorem processActivation_cancelAfterFire :
    WorkflowFuture.processActivation cancelAfterFire 10 ⟨0, ∅, [], [], []⟩
        ⟨"run", [.initializeWorkflow]⟩ =
        .ok (⟨1, {.timer 1}, [], [], []⟩, [.successful "run" [.startTimer 1]]) ∧
      WorkflowFuture.processActivation cancelAfterFire 10 ⟨1, {.timer 1}, [], [], []⟩
          ⟨"run", [.fireTimer 1]⟩ =
        .error (.ready [] (.error (.failed "Command Timer(1) not found to unblock!"))) := by
  constructor <;> rfl

/-- Over both activations, `poll` ends `Ready` on the second. -/
example :
    WorkflowFuture.poll cancelAfterFire 10 ⟨0, ∅, [], [], []⟩
        [⟨"run", [.initializeWorkflow]⟩, ⟨"run", [.fireTimer 1]⟩] =
      .error (.ready [] (.error (.failed "Command Timer(1) not found to unblock!"))) := rfl

/-- At the cancelled fired timer, `poll` ends on the second activation, which it left
unanswered. -/
theorem poll_answers_cancelAfterFire :
    ∃ a ∈ [(⟨"run", [.initializeWorkflow]⟩ : Activation), ⟨"run", [.fireTimer 1]⟩],
      (a.isOnlyEviction = true ∧ ([] : List Completion) = [.successful a.runId []] ∧
          (.error (.failed "Command Timer(1) not found to unblock!") :
            Except WorkflowTermination Unit) = .error .evicted) ∨
        (([] : List Completion) = [] ∧ ∃ seq, (.error (.failed
          "Command Timer(1) not found to unblock!") : Except WorkflowTermination Unit) =
            .error (.failed (WorkflowFuture.unblockNotFound (.timer seq)))) :=
  (WorkflowFuture.poll_answers cancelAfterFire 10 ⟨0, ∅, [], [], []⟩ _).2 _ _ rfl

end SdkCore.Sdk
