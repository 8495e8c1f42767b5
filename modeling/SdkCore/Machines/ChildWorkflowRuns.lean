import SdkCore.Machines.ChildWorkflow

/-!
# What a child workflow machine emits over a whole interleaving

A child's life, as lang and a server produce it (`Interleaving`): lang may cancel before the
start command is sent, and then nothing reaches the machine again; or the command is sent and
recorded, and the server either fails to start the child or starts it, after which lang may
cancel it any number of times until it ends, and may cancel it again after that.

`run_interleaving` computes what the machine does over every such interleaving that the table
takes: no error, one `ResolveChildWorkflowExecutionStart`, one `ResolveChildWorkflowExecution`
when the child started, and a `RequestCancelExternalWorkflowExecution` for the first cancel of
a started child under `TRY_CANCEL` and for each such cancel under the `WAIT` types. The proof
runs the phases one after another (`step_ack`, `step_initiated`, `step_started`,
`run_cancels_started_wait`, `step_end_started`, `run_cancels_ignored`, ...) and joins them with
`Steps.run_cons_eq_ok`.
-/

namespace SdkCore.ChildWorkflow

open Fsm

/-! ## Interleavings -/

/-- What a history event of the child carries besides its type and attributes. -/
structure EventMeta where
  eventId : Int
  replaying : Bool
  currentTaskIsLastInHistory : Bool
  deriving Repr, DecidableEq

/-- The event with this id and these flags, of a type and with attributes. -/
def EventMeta.input (ev : EventMeta) (eventType : EventType) (attributes : Option Attributes) :
    MachineInput :=
  .handleEvent
    { event := { eventId := ev.eventId, eventType, attributes }, replaying := ev.replaying,
      currentTaskIsLastInHistory := ev.currentTaskIsLastInHistory }

/-- The acknowledgement of the start command, when `prepare_commands` sends it. -/
def ack : MachineInput := .handleCommand .startChildWorkflowExecution

/-- Lang's cancels, with their reasons. -/
def cancels (reasons : List String) : List MachineInput := reasons.map .cancel

/-- The `StartChildWorkflowExecutionInitiated` event the server records for the command. -/
def initiatedInput (attrs : StartChildWorkflowExecution) (ev : EventMeta) : MachineInput :=
  ev.input .startChildWorkflowExecutionInitiated
    (some (.startChildWorkflowExecutionInitiatedEventAttributes
      { workflowId := attrs.workflowId, workflowType := some attrs.workflowType }))

/-- The `StartChildWorkflowExecutionFailed` event. -/
def startFailedInput (ev : EventMeta) (cause : StartChildWorkflowExecutionFailedCause) :
    MachineInput :=
  ev.input .startChildWorkflowExecutionFailed
    (some (.startChildWorkflowExecutionFailedEventAttributes cause.toInt))

/-- The `ChildWorkflowExecutionStarted` event of run `runId` of the child. -/
def startedInput (attrs : StartChildWorkflowExecution) (ev : EventMeta) (runId : String) :
    MachineInput :=
  ev.input .childWorkflowExecutionStarted
    (some (.childWorkflowExecutionStartedEventAttributes
      (some { workflowId := attrs.workflowId, runId })))

/-- How a started child ends. A workflow's result is at most one payload; the machine reads no
attributes of a cancellation or a termination. -/
inductive ChildEnd where
  | completed (result : Option Payload)
  | failed (attrs : ChildWorkflowExecutionFailedEventAttributes)
  | timedOut (retryState : RetryState)
  | canceled (attributes : Option Attributes)
  | terminated (attributes : Option Attributes)
  deriving Repr, DecidableEq

/-- The event that ends the child. -/
def ChildEnd.input (ev : EventMeta) : ChildEnd → MachineInput
  | .completed r =>
    ev.input .childWorkflowExecutionCompleted
      (some (.childWorkflowExecutionCompletedEventAttributes (r.map fun p => [p])))
  | .failed a =>
    ev.input .childWorkflowExecutionFailed (some (.childWorkflowExecutionFailedEventAttributes a))
  | .timedOut rs =>
    ev.input .childWorkflowExecutionTimedOut
      (some (.childWorkflowExecutionTimedOutEventAttributes rs))
  | .canceled a => ev.input .childWorkflowExecutionCanceled a
  | .terminated a => ev.input .childWorkflowExecutionTerminated a

def ChildEnd.isCanceled : ChildEnd → Bool
  | .canceled _ => true
  | _ => false

def ChildEnd.isTerminated : ChildEnd → Bool
  | .terminated _ => true
  | _ => false

/-- The state the table moves a started child to when it ends. -/
def ChildEnd.fromStarted : ChildEnd → ChildWorkflowMachineState
  | .completed _ => .completed
  | .failed _ => .failed
  | .timedOut _ => .timedOut
  | .canceled _ => .cancelled true
  | .terminated _ => .terminated

/-- A complete interleaving, for one child, of lang's cancels, the acknowledgement of the start
command, and the events the server records for the child. -/
inductive Interleaving where
  /-- Lang cancels before the command goes to the server (after `prepare_commands` took it, when
  `acked`); the command is then dropped and no event follows. -/
  | cancelledBeforeSent (acked : Bool) (reason : String) (laterReasons : List String)
  /-- The server records the command and fails to start the child. -/
  | startFailed (initiated failed : EventMeta) (cause : StartChildWorkflowExecutionFailedCause)
      (laterReasons : List String)
  /-- The child starts as run `runId`, lang cancels it for each of `whileStarted`, it ends, and
  lang may still cancel it. -/
  | started (initiated start : EventMeta) (runId : String) (whileStarted : List String)
      (finish : EventMeta) (e : ChildEnd) (laterReasons : List String)
  deriving Repr, DecidableEq

/-- The machine's inputs along an interleaving. -/
def Interleaving.inputs (attrs : StartChildWorkflowExecution) : Interleaving → List MachineInput
  | .cancelledBeforeSent acked reason rs => (if acked then [ack] else []) ++ cancels (reason :: rs)
  | .startFailed ini f cause rs => [ack, initiatedInput attrs ini, startFailedInput f cause] ++ cancels rs
  | .started ini st runId ws fin e rs =>
    [ack, initiatedInput attrs ini, startedInput attrs st runId] ++ cancels ws ++
      e.input fin :: cancels rs

/-- The interleavings the table takes: `Terminated` has no `Cancel` arm, and under `TRY_CANCEL`
a child cancelled after its start may only end by its cancellation. -/
def Interleaving.Allowed (ct : ChildWorkflowCancellationType) : Interleaving → Prop
  | .started _ _ _ ws _ e rs =>
    (e.isTerminated = true → rs = []) ∧ (ct = .tryCancel → ws ≠ [] → e.isCanceled = true)
  | _ => True

instance (ct : ChildWorkflowCancellationType) : (x : Interleaving) → Decidable (x.Allowed ct)
  | .cancelledBeforeSent .. => isTrue trivial
  | .startFailed .. => isTrue trivial
  | .started _ _ _ ws _ e rs =>
    inferInstanceAs
      (Decidable ((e.isTerminated = true → rs = []) ∧ (ct = .tryCancel → ws ≠ [] → e.isCanceled = true)))

/-- Whether the child started, so that lang is owed its result. -/
def Interleaving.childStarted : Interleaving → Bool
  | .started .. => true
  | _ => false

/-- The cancel requests sent for `n` cancels of a started child: none under `ABANDON`, one for
the first under `TRY_CANCEL`, one each under the `WAIT` types. -/
def cancelRequests (ct : ChildWorkflowCancellationType) (n : Nat) : Nat :=
  match ct with
  | .abandon => 0
  | .tryCancel => min 1 n
  | _ => n

/-- The cancel requests the machine sends for the child. -/
def Interleaving.externalCancels (ct : ChildWorkflowCancellationType) : Interleaving → Nat
  | .started _ _ _ ws _ _ _ => cancelRequests ct ws.length
  | _ => 0

/-! ## Kinds of responses -/

/-- A `ResolveChildWorkflowExecutionStart` job. -/
def isStartResolve : MachineResponse → Bool
  | .pushWFJob (.resolveChildWorkflowExecutionStart _) => true
  | _ => false

/-- A `ResolveChildWorkflowExecution` job. -/
def isResolve : MachineResponse → Bool
  | .pushWFJob (.resolveChildWorkflowExecution _) => true
  | _ => false

/-- A core-originated `RequestCancelExternalWorkflowExecution`. -/
def isCancelExternal : MachineResponse → Bool
  | .newCoreOriginatedCommand (.requestCancelExternalWorkflowExecutionCommandAttributes ..) => true
  | _ => false

@[simp] theorem isStartResolve_resolveStart (sh : SharedState) (st) :
    isStartResolve (resolveStart sh st) = true := rfl
@[simp] theorem isResolve_resolveStart (sh : SharedState) (st) :
    isResolve (resolveStart sh st) = false := rfl
@[simp] theorem isCancelExternal_resolveStart (sh : SharedState) (st) :
    isCancelExternal (resolveStart sh st) = false := rfl
@[simp] theorem isStartResolve_resolve (sh : SharedState) (st) :
    isStartResolve (resolve sh st) = false := rfl
@[simp] theorem isResolve_resolve (sh : SharedState) (st) : isResolve (resolve sh st) = true := rfl
@[simp] theorem isCancelExternal_resolve (sh : SharedState) (st) :
    isCancelExternal (resolve sh st) = false := rfl
@[simp] theorem isStartResolve_resolveCancelledMsg (sh : SharedState) :
    isStartResolve (resolveCancelledMsg sh) = false := rfl
@[simp] theorem isResolve_resolveCancelledMsg (sh : SharedState) :
    isResolve (resolveCancelledMsg sh) = true := rfl
@[simp] theorem isCancelExternal_resolveCancelledMsg (sh : SharedState) :
    isCancelExternal (resolveCancelledMsg sh) = false := rfl
@[simp] theorem isStartResolve_requestCancelExternal (sh : SharedState) (r : String) :
    isStartResolve (requestCancelExternal sh r) = false := rfl
@[simp] theorem isResolve_requestCancelExternal (sh : SharedState) (r : String) :
    isResolve (requestCancelExternal sh r) = false := rfl
@[simp] theorem isCancelExternal_requestCancelExternal (sh : SharedState) (r : String) :
    isCancelExternal (requestCancelExternal sh r) = true := rfl

/-! ## The phases -/

/-- The acknowledgement leaves `StartCommandCreated` as it is. -/
theorem step_ack (sh : SharedState) :
    step ⟨some .startCommandCreated, sh⟩ ack = .ok (⟨some .startCommandCreated, sh⟩, []) :=
  machineDef.step_handleCommand_of_ok rfl (onEvent_ok transitions rfl) rfl

/-- A cancel before the command is sent resolves the start as cancelled. -/
theorem step_cancel_startCommandCreated (sh : SharedState) (reason : String) :
    ∃ f, step ⟨some .startCommandCreated, sh⟩ (.cancel reason) =
      .ok (⟨some (.cancelled false), { sh with cancelledBeforeSent := true }⟩,
        [resolveStart { sh with cancelledBeforeSent := true } (.cancelled (some f))]) :=
  ⟨_, machineDef.step_cancel_of_ok rfl⟩

/-- The states whose `Cancel` arm keeps the state: "Ignore any spurious cancellations after
resolution". -/
def ChildWorkflowMachineState.ignoresCancel : ChildWorkflowMachineState → Bool
  | .cancelled _ | .failed | .startFailed | .timedOut | .completed => true
  | _ => false

theorem step_cancel_ignored {s : ChildWorkflowMachineState} (hs : s.ignoresCancel = true)
    (sh : SharedState) (reason : String) :
    step ⟨some s, sh⟩ (.cancel reason) = .ok (⟨some s, sh⟩, []) := by
  cases s <;> simp only [ChildWorkflowMachineState.ignoresCancel, reduceCtorEq] at hs <;> rfl

theorem run_cancels_ignored {s : ChildWorkflowMachineState} (hs : s.ignoresCancel = true)
    (sh : SharedState) (reasons : List String) :
    Steps.run step ⟨some s, sh⟩ (cancels reasons) = .ok (⟨some s, sh⟩, []) := by
  induction reasons with
  | nil => rfl
  | cons r rs ih => exact Steps.run_cons_eq_ok step (step_cancel_ignored hs sh r) ih

/-- The recorded start of the commanded child passes the determinism checks. -/
theorem step_initiated {attrs : StartChildWorkflowExecution} {sh : SharedState}
    (hid : sh.workflowId = attrs.workflowId) (htype : sh.workflowType = attrs.workflowType)
    (ev : EventMeta) :
    step ⟨some .startCommandCreated, sh⟩ (initiatedInput attrs ev) =
      .ok (⟨some .startEventRecorded,
        { sh with
          internalFlags :=
            (sh.internalFlags.tryUse .idAndTypeDeterminismChecks ev.currentTaskIsLastInHistory).2,
          initiatedEventId := ev.eventId }⟩, []) := by
  refine machineDef.step_handleEvent_of_ok rfl (onEvent_ok transitions ?_)
    (machineDef.processMachineCommands_nil _ _)
  simp [transitions, StartCommandCreated.onStartChildWorkflowExecutionInitiated, hid, htype,
    TransitionResult.default]

theorem step_startFailed (sh : SharedState) (ev : EventMeta)
    (cause : StartChildWorkflowExecutionFailedCause) :
    step ⟨some .startEventRecorded, sh⟩ (startFailedInput ev cause) =
      .ok (⟨some .startFailed, sh⟩,
        [resolveStart sh (.failed sh.workflowId sh.workflowType cause)]) := by
  cases cause <;> rfl

theorem step_started (attrs : StartChildWorkflowExecution) (sh : SharedState) (ev : EventMeta)
    (runId : String) :
    step ⟨some .startEventRecorded, sh⟩ (startedInput attrs ev runId) =
      .ok (⟨some .started, { sh with startedEventId := ev.eventId, runId }⟩,
        [resolveStart { sh with startedEventId := ev.eventId, runId } (.succeeded runId)]) :=
  rfl

/-! ### Cancels of a started child -/

/-- Under the `WAIT` types a cancel keeps the child started and asks the server to cancel it. -/
theorem step_cancel_started_wait {sh : SharedState}
    (hw : sh.cancelType = .waitCancellationCompleted ∨ sh.cancelType = .waitCancellationRequested)
    (reason : String) :
    step ⟨some .started, sh⟩ (.cancel reason) =
      .ok (⟨some .started, sh⟩, [requestCancelExternal sh reason]) := by
  obtain ⟨_, _, _, _, _, _, _, _, ct, _⟩ := sh
  rcases hw with hw | hw <;> (simp only at hw; subst hw; rfl)

theorem run_cancels_started_wait {sh : SharedState}
    (hw : sh.cancelType = .waitCancellationCompleted ∨ sh.cancelType = .waitCancellationRequested)
    (reasons : List String) :
    Steps.run step ⟨some .started, sh⟩ (cancels reasons) =
      .ok (⟨some .started, sh⟩, reasons.map (requestCancelExternal sh)) := by
  induction reasons with
  | nil => rfl
  | cons r rs ih => exact Steps.run_cons_eq_ok step (step_cancel_started_wait hw r) ih

/-- Under `ABANDON` a cancel resolves the child as cancelled and asks the server nothing. -/
theorem step_cancel_started_abandon {sh : SharedState} (ha : sh.cancelType = .abandon)
    (reason : String) :
    step ⟨some .started, sh⟩ (.cancel reason) =
      .ok (⟨some (.cancelled false), sh⟩, [resolveCancelledMsg sh]) := by
  obtain ⟨_, _, _, _, _, _, _, _, ct, _⟩ := sh
  simp only at ha
  subst ha
  rfl

/-- Under `TRY_CANCEL` a cancel asks the server to cancel the child and resolves it at once. -/
theorem step_cancel_started_tryCancel {sh : SharedState} (ht : sh.cancelType = .tryCancel)
    (reason : String) :
    step ⟨some .started, sh⟩ (.cancel reason) =
      .ok (⟨some (.cancelled false), sh⟩, [requestCancelExternal sh reason, resolveCancelledMsg sh]) := by
  obtain ⟨_, _, _, _, _, _, _, _, ct, _⟩ := sh
  simp only at ht
  subst ht
  rfl

/-! ### The end of the child -/

/-- A started child that ends resolves lang once. -/
theorem step_end_started (sh : SharedState) (ev : EventMeta) (e : ChildEnd) :
    ∃ status, step ⟨some .started, sh⟩ (e.input ev) =
      .ok (⟨some e.fromStarted, sh⟩, [resolve sh status]) := by
  cases e with
  | completed r => cases r <;> exact ⟨_, rfl⟩
  | failed a => exact ⟨_, rfl⟩
  | timedOut rs => exact ⟨_, rfl⟩
  | canceled a => exact ⟨_, rfl⟩
  | terminated a => exact ⟨_, rfl⟩

/-- An abandoned child may end in any way after its cancel; nothing more reaches lang. -/
theorem step_end_cancelled_abandon {sh : SharedState} (ha : sh.cancelType = .abandon)
    (ev : EventMeta) (e : ChildEnd) :
    step ⟨some (.cancelled false), sh⟩ (e.input ev) =
      .ok (⟨some (.cancelled e.isCanceled), sh⟩, []) := by
  obtain ⟨_, _, _, _, _, _, _, _, ct, _⟩ := sh
  simp only at ha
  subst ha
  cases e with
  | completed r => cases r <;> rfl
  | failed a => rfl
  | timedOut rs => rfl
  | canceled a => rfl
  | terminated a => rfl

/-- The cancellation event after a cancel is taken silently. -/
theorem step_canceled_cancelled (sh : SharedState) (ev : EventMeta) (a : Option Attributes) :
    step ⟨some (.cancelled false), sh⟩ ((ChildEnd.canceled a).input ev) =
      .ok (⟨some (.cancelled true), sh⟩, []) :=
  rfl

/-- A started child that ends, then any cancels the table takes after the end. -/
theorem run_end_started {sh : SharedState} (fin : EventMeta) (e : ChildEnd) (rs : List String)
    (hterm : e.isTerminated = true → rs = []) :
    ∃ status, Steps.run step ⟨some .started, sh⟩ (e.input fin :: cancels rs) =
      .ok (⟨some e.fromStarted, sh⟩, [resolve sh status]) := by
  obtain ⟨status, hend⟩ := step_end_started sh fin e
  refine ⟨status, Steps.run_cons_eq_ok step hend ?_⟩
  -- every end but the termination ignores later cancels
  cases e with
  | terminated a =>
    rw [hterm rfl]
    rfl
  | completed r => exact run_cancels_ignored rfl sh rs
  | failed a => exact run_cancels_ignored rfl sh rs
  | timedOut r => exact run_cancels_ignored rfl sh rs
  | canceled a => exact run_cancels_ignored rfl sh rs

/-- After a cancel moved the child to `Cancelled`: more cancels, the end (any end when the
child is abandoned, else its cancellation), and more cancels, all silently. -/
theorem run_cancelled_end {sh : SharedState} (ws : List String) (fin : EventMeta) (e : ChildEnd)
    (rs : List String) (he : sh.cancelType = .abandon ∨ e.isCanceled = true) :
    Steps.run step ⟨some (.cancelled false), sh⟩ (cancels ws ++ e.input fin :: cancels rs) =
      .ok (⟨some (.cancelled e.isCanceled), sh⟩, []) := by
  have hend : step ⟨some (.cancelled false), sh⟩ (e.input fin) =
      .ok (⟨some (.cancelled e.isCanceled), sh⟩, []) := by
    rcases he with ha | hc
    · exact step_end_cancelled_abandon ha fin e
    · cases e <;> simp only [ChildEnd.isCanceled, reduceCtorEq] at hc
      exact step_canceled_cancelled sh fin _
  have h₁ := run_cancels_ignored
    (show (ChildWorkflowMachineState.cancelled false).ignoresCancel = true from rfl) sh ws
  have h₂ := Steps.run_cons_eq_ok step hend (run_cancels_ignored rfl sh rs)
  simpa using Steps.run_append_of_ok step h₁ h₂

/-- From the start on: the cancels while started, the end, and the cancels after it. -/
theorem run_afterStart (sh : SharedState) (ws : List String) (fin : EventMeta) (e : ChildEnd)
    (rs : List String) (hterm : e.isTerminated = true → rs = [])
    (htry : sh.cancelType = .tryCancel → ws ≠ [] → e.isCanceled = true) :
    ∃ m o, Steps.run step ⟨some .started, sh⟩ (cancels ws ++ e.input fin :: cancels rs) =
      .ok (m, o) ∧ o.countP isStartResolve = 0 ∧ o.countP isResolve = 1 ∧
      o.countP isCancelExternal = cancelRequests sh.cancelType ws.length := by
  -- the `WAIT` types stay in `Started` over any number of cancels
  have hwait : (sh.cancelType = .waitCancellationCompleted ∨
      sh.cancelType = .waitCancellationRequested) →
      ∃ m o, Steps.run step ⟨some .started, sh⟩ (cancels ws ++ e.input fin :: cancels rs) =
        .ok (m, o) ∧ o.countP isStartResolve = 0 ∧ o.countP isResolve = 1 ∧
        o.countP isCancelExternal = ws.length := by
    intro hw
    obtain ⟨status, hend⟩ := run_end_started fin e rs hterm
    refine ⟨_, _, Steps.run_append_of_ok step (run_cancels_started_wait hw ws) hend, ?_, ?_, ?_⟩ <;>
      simp [List.countP_append, List.countP_map, Function.comp_def]
  -- with no cancel the child simply ends
  have hnil : ws = [] → ∃ m o,
      Steps.run step ⟨some .started, sh⟩ (cancels ws ++ e.input fin :: cancels rs) = .ok (m, o) ∧
        o.countP isStartResolve = 0 ∧ o.countP isResolve = 1 ∧ o.countP isCancelExternal = 0 := by
    rintro rfl
    obtain ⟨status, hend⟩ := run_end_started fin e rs hterm
    exact ⟨_, _, hend, by simp, by simp, by simp⟩
  cases hct : sh.cancelType
  case waitCancellationCompleted => simpa [cancelRequests] using hwait (.inl hct)
  case waitCancellationRequested => simpa [cancelRequests] using hwait (.inr hct)
  all_goals
    cases ws with
    | nil => simpa [cancelRequests] using hnil rfl
    | cons w ws => ?_
  -- `ABANDON`: the first cancel resolves the child, nothing is asked of the server
  case abandon =>
    have h₁ := Steps.run_cons_eq_ok step (step_cancel_started_abandon hct w)
      (run_cancelled_end ws fin e rs (.inl hct))
    exact ⟨_, _, h₁, by simp, by simp, by simp [cancelRequests]⟩
  -- `TRY_CANCEL`: the first cancel asks the server and resolves; the child then ends cancelled
  case tryCancel =>
    have hc : e.isCanceled = true := htry hct (List.cons_ne_nil w ws)
    have h₁ := Steps.run_cons_eq_ok step (step_cancel_started_tryCancel hct w)
      (run_cancelled_end ws fin e rs (.inr hc))
    exact ⟨_, _, h₁, by simp, by simp [List.countP_cons], by simp [List.countP_cons, cancelRequests]⟩

/-- What the machine does over every interleaving the table takes: it never fails, resolves the
start once, resolves the child once exactly when it started, and sends the cancel requests of
`cancelRequests`. -/
theorem run_interleaving (attrs : StartChildWorkflowExecution) (internalFlags : InternalFlags)
    (x : Interleaving) (hx : x.Allowed attrs.cancellationType) :
    ∃ m r, Steps.run step (ChildWorkflowMachine.newScheduled attrs internalFlags).1
        (x.inputs attrs) = .ok (m, r) ∧
      r.countP isStartResolve = 1 ∧
      r.countP isResolve = (if x.childStarted then 1 else 0) ∧
      r.countP isCancelExternal = x.externalCancels attrs.cancellationType := by
  let sh₀ : SharedState := (ChildWorkflowMachine.newScheduled attrs internalFlags).1.sharedState
  have h₀ : (ChildWorkflowMachine.newScheduled attrs internalFlags).1 =
      ⟨some .startCommandCreated, sh₀⟩ := rfl
  rw [h₀]
  cases x with
  | cancelledBeforeSent acked reason rs =>
    obtain ⟨f, hc⟩ := step_cancel_startCommandCreated sh₀ reason
    have hrun := Steps.run_cons_eq_ok step hc (run_cancels_ignored rfl _ rs)
    cases acked
    · exact ⟨_, _, hrun, by simp, by simp [Interleaving.childStarted],
        by simp [Interleaving.externalCancels]⟩
    · exact ⟨_, _, Steps.run_cons_eq_ok step (step_ack sh₀) hrun, by simp,
        by simp [Interleaving.childStarted], by simp [Interleaving.externalCancels]⟩
  | startFailed ini fl cause rs =>
    have h₁ := step_initiated (show sh₀.workflowId = attrs.workflowId from rfl) rfl ini
    have hrun := Steps.run_cons_eq_ok step (step_ack sh₀)
      (Steps.run_cons_eq_ok step h₁
        (Steps.run_cons_eq_ok step (step_startFailed _ fl cause) (run_cancels_ignored rfl _ rs)))
    exact ⟨_, _, hrun, by simp, by simp [Interleaving.childStarted],
      by simp [Interleaving.externalCancels]⟩
  | started ini st runId ws fin e rs =>
    obtain ⟨hterm, htry⟩ := hx
    have h₁ := step_initiated (show sh₀.workflowId = attrs.workflowId from rfl) rfl ini
    -- the shared state once the child started
    let sh₂ : SharedState :=
      { sh₀ with
        internalFlags :=
          (sh₀.internalFlags.tryUse .idAndTypeDeterminismChecks ini.currentTaskIsLastInHistory).2,
        initiatedEventId := ini.eventId, startedEventId := st.eventId, runId }
    obtain ⟨m, o, hafter, hs, hr, he⟩ := run_afterStart sh₂ ws fin e rs hterm htry
    have hrun := Steps.run_cons_eq_ok step (step_ack sh₀)
      (Steps.run_cons_eq_ok step h₁
        (Steps.run_cons_eq_ok step (step_started attrs _ st runId) hafter))
    have he' : o.countP isCancelExternal = cancelRequests attrs.cancellationType ws.length := he
    exact ⟨_, _, hrun, by simp [List.countP_cons, hs],
      by simp [hr, Interleaving.childStarted], by simp [he', Interleaving.externalCancels]⟩

/-! ## Two interleavings of child `child-id-1` -/

/-- Child `child-id-1` of type `child` in namespace `default`, sequence 1. -/
def childAttrs (ct : ChildWorkflowCancellationType) : StartChildWorkflowExecution :=
  { seq := 1, namespaceName := "default", workflowId := "child-id-1", workflowType := "child",
    cancellationType := ct }

/-- Event `id`, applied in the last task of the history. -/
def evAt (id : Int) : EventMeta := ⟨id, false, true⟩

/-- Recorded as event 5 and started as event 6, the child is cancelled by lang and then
completes (event 8). -/
def completedAfterCancel : Interleaving :=
  .started (evAt 5) (evAt 6) "run-1" ["die"] (evAt 8) (.completed none) []

/-- Lang cancels the started child twice, and it ends cancelled (event 9). -/
def cancelledTwice : Interleaving :=
  .started (evAt 5) (evAt 6) "run-1" ["die", "die again"] (evAt 9) (.canceled none) []

/-- Under `TRY_CANCEL` a child that completes after lang cancelled it makes the machine fail;
under `WAIT_CANCELLATION_COMPLETED` two cancels of the started child send two cancel
requests. -/
theorem run_completedAfterCancel_cancelledTwice :
    Steps.run step (ChildWorkflowMachine.newScheduled (childAttrs .tryCancel) (.enabled [] [])).1
        (completedAfterCancel.inputs (childAttrs .tryCancel)) =
      .error completionOfNotAbandonedErr ∧
    (Steps.run step
        (ChildWorkflowMachine.newScheduled (childAttrs .waitCancellationCompleted) (.enabled [] [])).1
        (cancelledTwice.inputs (childAttrs .waitCancellationCompleted))).map
      (·.2.countP isCancelExternal) = .ok 2 :=
  ⟨rfl, rfl⟩

/-- Under `TRY_CANCEL`, a child cancelled once while started that ends cancelled. -/
def cancelledOnce : Interleaving :=
  .started (evAt 5) (evAt 6) "run-1" ["die"] (evAt 8) (.canceled none) ["late"]

theorem run_interleaving_cancelledOnce :
    ∃ m r, Steps.run step
        (ChildWorkflowMachine.newScheduled (childAttrs .tryCancel) (.enabled [] [])).1
        (cancelledOnce.inputs (childAttrs .tryCancel)) = .ok (m, r) ∧
      r.countP isStartResolve = 1 ∧ r.countP isResolve = 1 ∧ r.countP isCancelExternal = 1 :=
  run_interleaving (childAttrs .tryCancel) (.enabled [] []) cancelledOnce (by decide)

end SdkCore.ChildWorkflow
