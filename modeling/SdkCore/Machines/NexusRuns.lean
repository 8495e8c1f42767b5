import SdkCore.Machines.Nexus
import SdkCore.Steps

/-!
# What a Nexus operation tells lang over a run

Over every run of inputs that a scheduled Nexus operation machine accepts, lang gets at most
one `ResolveNexusOperationStart`, and exactly one once the machine has left
`ScheduleCommandCreated` and `ScheduledEventRecorded`; the server gets at most one
`RequestCancelNexusOperation`, and none under `ABANDON`, because `cancel_sent` guards both
`on_issue_cancel` handlers. Under `WAIT_CANCELLATION_COMPLETED` lang also gets at most one
`ResolveNexusOperation`.

Each count is carried by a potential (`startPending`, `cancelPending`, `resultPending`) under
`Keeps`, arm by arm (`transitions_counts`), through one input (`step_counts`) to a whole run
(`run_counts`). The result has only a bound: a failure or timeout before the start resolves the
start and never the result.

The other cancellation types resolve the result twice on runs the server can produce: under
`TRY_CANCEL` and `ABANDON` a cancel in `ScheduledEventRecorded` resolves the operation at once
and keeps the state, so the later start and completion are resolved as well; under
`WAIT_CANCELLATION_REQUESTED` a failed cancel request fails the operation and keeps it
`Started`. Under `ABANDON`, the guard of `Cancelled.rejectLate` turns the completion that the
server still records after the abandon into an error (`run_abandonThenCompleted`).
-/

namespace SdkCore.Nexus

open Fsm

/-! ## Kinds of responses -/

/-- A `ResolveNexusOperationStart` job. -/
def isStartResolve : MachineResponse → Bool
  | .pushWFJob (.resolveNexusOperationStart _) => true
  | _ => false

/-- A `ResolveNexusOperation` job. -/
def isResolve : MachineResponse → Bool
  | .pushWFJob (.resolveNexusOperation _) => true
  | _ => false

/-- A `RequestCancelNexusOperation` command. -/
def isRequestCancel : MachineResponse → Bool
  | .issueNewCommand c => c.commandType == .requestCancelNexusOperation
  | _ => false

/-- The `ResolveNexusOperationStart` jobs a command becomes. -/
def NexusOperationCommand.startResolves : NexusOperationCommand → Nat
  | .start _ | .startSync | .failBeforeStart _ => 1
  | _ => 0

/-- The `ResolveNexusOperation` jobs a command becomes: `IssueCancel` resolves at once under
`ABANDON` and `TRY_CANCEL`. -/
def NexusOperationCommand.resultResolves (ct : NexusOperationCancellationType) :
    NexusOperationCommand → Nat
  | .complete _ | .fail _ | .cancel _ | .timedOut _ => 1
  | .issueCancel => if ct = .abandon ∨ ct = .tryCancel then 1 else 0
  | _ => 0

/-- The `RequestCancelNexusOperation` commands a command becomes. -/
def NexusOperationCommand.cancelRequests (ct : NexusOperationCancellationType) :
    NexusOperationCommand → Nat
  | .issueCancel => if ct ≠ .abandon then 1 else 0
  | _ => 0

/-! ## The potentials -/

/-- 1 until the start is resolved. -/
def startPending : NexusOperationMachineState → Nat
  | .scheduleCommandCreated | .scheduledEventRecorded => 1
  | _ => 0

/-- 1 until the result is resolved or can no longer be. -/
def resultPending : NexusOperationMachineState → Nat
  | .scheduleCommandCreated | .scheduledEventRecorded | .started => 1
  | _ => 0

/-- 1 while a cancel request may still be sent. -/
def SharedState.cancelPending (sh : SharedState) : Nat :=
  if sh.cancelSent = false ∧ sh.cancelType ≠ .abandon then 1 else 0

def NexusOperationMachine.startPending (m : NexusOperationMachine) : Nat :=
  (m.state.map Nexus.startPending).getD 0

def NexusOperationMachine.resultPending (m : NexusOperationMachine) : Nat :=
  (m.state.map Nexus.resultPending).getD 0

/-- What a run from `new_scheduled` keeps: the machine holds a state, and its cancellation type
is the one it was scheduled with. -/
def Keeps (ct : NexusOperationCancellationType) (m : NexusOperationMachine) : Prop :=
  m.state.isSome ∧ m.sharedState.cancelType = ct

/-! ## One arm -/

/-- Sending the cancel request uses up the potential it had. -/
theorem cancelPending_send (sh : SharedState) (h : sh.cancelSent = false) :
    NexusOperationCommand.cancelRequests sh.cancelType .issueCancel +
        { sh with cancelSent := true }.cancelPending = sh.cancelPending := by
  by_cases hab : sh.cancelType = .abandon <;>
    simp [NexusOperationCommand.cancelRequests, SharedState.cancelPending, h, hab]

/-- The four facts each arm of the table keeps. -/
def ArmCounts (s s' : NexusOperationMachineState) (sh sh' : SharedState)
    (cmds : List NexusOperationCommand) : Prop :=
  sh'.cancelType = sh.cancelType ∧
    (cmds.map (·.startResolves)).sum + startPending s' = startPending s ∧
    (cmds.map (·.cancelRequests sh.cancelType)).sum + sh'.cancelPending = sh.cancelPending ∧
    (sh.cancelType = .waitCancellationCompleted →
      (cmds.map (·.resultResolves sh.cancelType)).sum + resultPending s' ≤ resultPending s)

/-- An arm that keeps the shared state and emits nothing. -/
theorem armCounts_quiet {s s' : NexusOperationMachineState} {sh : SharedState}
    (hstart : startPending s' = startPending s) (hresult : resultPending s' ≤ resultPending s) :
    ArmCounts s s' sh sh [] := by
  refine ⟨rfl, ?_, by simp, fun _ => ?_⟩
  · rw [List.map_nil, List.sum_nil, Nat.zero_add, hstart]
  · rw [List.map_nil, List.sum_nil, Nat.zero_add]
    exact hresult

/-- `ScheduledEventRecorded::on_issue_cancel` sends the request once and stays. -/
theorem ScheduledEventRecorded.onIssueCancel_counts {sh sh' : SharedState}
    {cmds : List NexusOperationCommand} {s' : NexusOperationMachineState}
    (h : ScheduledEventRecorded.onIssueCancel sh = (sh', .ok cmds s')) :
    ArmCounts .scheduledEventRecorded s' sh sh' cmds := by
  unfold ScheduledEventRecorded.onIssueCancel at h
  by_cases hsent : sh.cancelSent = true
  · simp only [hsent, Bool.not_true, Bool.false_eq_true, if_false, TransitionResult.default,
      Prod.mk.injEq, TransitionResult.ok.injEq] at h
    obtain ⟨rfl, rfl, rfl⟩ := h
    exact armCounts_quiet rfl (Nat.le_refl _)
  · have hsent' : sh.cancelSent = false := by simpa using hsent
    simp only [hsent', Bool.not_false, if_true, Prod.mk.injEq, TransitionResult.ok.injEq] at h
    obtain ⟨rfl, rfl, rfl⟩ := h
    refine ⟨rfl, rfl, by simpa using cancelPending_send sh hsent', fun hct => ?_⟩
    simp [NexusOperationCommand.resultResolves, hct, resultPending]

/-- `Started::on_issue_cancel` sends the request once; `ABANDON` and `TRY_CANCEL` leave for
`Cancelled`, whose result is then resolved by the adapter. -/
theorem Started.onIssueCancel_counts {sh sh' : SharedState} {cmds : List NexusOperationCommand}
    {s' : NexusOperationMachineState} (h : Started.onIssueCancel sh = (sh', .ok cmds s')) :
    ArmCounts .started s' sh sh' cmds := by
  unfold Started.onIssueCancel at h
  by_cases hsent : sh.cancelSent = true
  · simp only [hsent, Bool.not_true, Bool.false_eq_true, if_false, Prod.mk.injEq,
      TransitionResult.ok.injEq] at h
    obtain ⟨rfl, rfl, rfl⟩ := h
    exact armCounts_quiet rfl (Nat.le_refl _)
  · have hsent' : sh.cancelSent = false := by simpa using hsent
    simp only [hsent', Bool.not_false, if_true, Prod.mk.injEq, TransitionResult.ok.injEq] at h
    obtain ⟨rfl, rfl, rfl⟩ := h
    refine ⟨rfl, ?_, by simpa using cancelPending_send sh hsent', fun hct => ?_⟩
    · split <;> rfl
    · simp [NexusOperationCommand.resultResolves, hct, resultPending]

/-- Every arm keeps the cancellation type and emits the drop of the start and cancel
potentials, and under `WAIT_CANCELLATION_COMPLETED` at most the drop of the result's. -/
theorem transitions_counts {s s' : NexusOperationMachineState} {e : NexusOperationMachineEvents}
    {sh sh' : SharedState} {cmds : List NexusOperationCommand}
    (h : transitions s e sh = some (sh', .ok cmds s')) : ArmCounts s s' sh sh' cmds := by
  cases s <;> cases e <;> simp only [transitions, reduceCtorEq, Option.some.injEq] at h
  case scheduledEventRecorded.cancel => exact ScheduledEventRecorded.onIssueCancel_counts h
  case started.cancel => exact Started.onIssueCancel_counts h
  case scheduleCommandCreated.nexusOperationScheduled eventId =>
    simp only [ScheduleCommandCreated.onScheduled, TransitionResult.default, Prod.mk.injEq,
      TransitionResult.ok.injEq] at h
    obtain ⟨rfl, rfl, rfl⟩ := h
    exact ⟨rfl, rfl, by simp [SharedState.cancelPending], fun _ => Nat.le_refl _⟩
  case scheduleCommandCreated.cancel =>
    simp only [ScheduleCommandCreated.onCancelled, Prod.mk.injEq, TransitionResult.ok.injEq] at h
    obtain ⟨rfl, rfl, rfl⟩ := h
    refine ⟨rfl, rfl, ?_, fun _ => ?_⟩ <;>
      simp [SharedState.cancelPending, NexusOperationCommand.cancelRequests,
        NexusOperationCommand.resultResolves, resultPending]
  case scheduledEventRecorded.nexusOperationStarted token =>
    simp only [ScheduledEventRecorded.onStarted, Prod.mk.injEq, TransitionResult.ok.injEq] at h
    obtain ⟨rfl, rfl, rfl⟩ := h
    refine ⟨rfl, rfl, ?_, fun _ => ?_⟩ <;>
      simp [SharedState.cancelPending, NexusOperationCommand.cancelRequests,
        NexusOperationCommand.resultResolves, resultPending]
  -- the cancel request's outcome is news to lang only under `WAIT_CANCELLATION_REQUESTED`
  case started.nexusOperationCancelRequestCompleted | started.nexusOperationCancelRequestFailed =>
    simp only [Prod.mk.injEq] at h
    obtain ⟨rfl, h⟩ := h
    by_cases hwcr : sh.cancelType = .waitCancellationRequested <;>
      simp only [Started.onCancelRequestCompleted, Started.onCancelRequestFailed, hwcr,
        ↓reduceIte, TransitionResult.ok.injEq] at h <;>
      obtain ⟨rfl, rfl⟩ := h
    · refine ⟨rfl, rfl, by simp [NexusOperationCommand.cancelRequests], fun hwcc => ?_⟩
      rw [hwcr] at hwcc
      cases hwcc
    · exact armCounts_quiet rfl (Nat.le_refl _)
  case cancelled.nexusOperationCompleted | cancelled.nexusOperationFailed |
      cancelled.nexusOperationTimedOut =>
    simp only [Prod.mk.injEq] at h
    obtain ⟨rfl, h⟩ := h
    by_cases hab : sh.cancelType = .abandon <;>
      simp only [Cancelled.onCompleted, Cancelled.onFailed, Cancelled.onTimedOut,
        Cancelled.rejectLate, hab, ↓reduceIte, reduceCtorEq, TransitionResult.ok.injEq] at h
    obtain ⟨rfl, rfl⟩ := h
    exact armCounts_quiet rfl (Nat.le_refl _)
  -- the rest keep the shared state and emit a fixed list
  all_goals
    simp only [ScheduledEventRecorded.onCompleted, ScheduledEventRecorded.onFailed,
      ScheduledEventRecorded.onCanceled, ScheduledEventRecorded.onTimedOut, Started.onCompleted,
      Started.onFailed, Started.onCanceled, Started.onTimedOut,
      Cancelled.onCancelRequestCompleted, TransitionResult.default, Prod.mk.injEq,
      TransitionResult.ok.injEq] at h
    obtain ⟨rfl, rfl, rfl⟩ := h
    refine ⟨rfl, ?_, ?_, fun _ => ?_⟩ <;>
      simp [NexusOperationCommand.startResolves, NexusOperationCommand.cancelRequests,
        NexusOperationCommand.resultResolves, startPending, resultPending]

/-! ## What the adapter and `cancel` emit -/

@[simp] theorem isStartResolve_resolveStart (sh : SharedState) (st) :
    isStartResolve (resolveStart sh st) = true := rfl
@[simp] theorem isResolve_resolveStart (sh : SharedState) (st) :
    isResolve (resolveStart sh st) = false := rfl
@[simp] theorem isRequestCancel_resolveStart (sh : SharedState) (st) :
    isRequestCancel (resolveStart sh st) = false := rfl
@[simp] theorem isStartResolve_resolve (sh : SharedState) (st) :
    isStartResolve (resolve sh st) = false := rfl
@[simp] theorem isResolve_resolve (sh : SharedState) (st) : isResolve (resolve sh st) = true := rfl
@[simp] theorem isRequestCancel_resolve (sh : SharedState) (st) :
    isRequestCancel (resolve sh st) = false := rfl
@[simp] theorem isStartResolve_issueNewCommand (c : ProtoCommand) :
    isStartResolve (.issueNewCommand c) = false := rfl
@[simp] theorem isResolve_issueNewCommand (c : ProtoCommand) :
    isResolve (.issueNewCommand c) = false := rfl
@[simp] theorem isRequestCancel_requestCancel (scheduledEventId : Int) :
    isRequestCancel (.issueNewCommand
      (CommandAttributes.requestCancelNexusOperationCommandAttributes scheduledEventId).toCommand) =
      true := rfl

theorem adaptResponse_counts {m : NexusOperationMachine} {c : NexusOperationCommand}
    {eventInfo : Option EventInfo} {r : List MachineResponse}
    (h : adaptResponse m c eventInfo = .ok r) :
    r.countP isStartResolve = c.startResolves ∧
      r.countP isRequestCancel = c.cancelRequests m.sharedState.cancelType ∧
      r.countP isResolve = c.resultResolves m.sharedState.cancelType := by
  cases c <;> simp only [adaptResponse, Except.ok.injEq] at h <;> subst h
  case issueCancel =>
    cases m.sharedState.cancelType <;>
      simp [NexusOperationCommand.startResolves, NexusOperationCommand.cancelRequests,
        NexusOperationCommand.resultResolves, List.countP_cons]
  all_goals
    simp [NexusOperationCommand.startResolves, NexusOperationCommand.cancelRequests,
      NexusOperationCommand.resultResolves]

theorem processMachineCommands_counts {m : NexusOperationMachine} {eventInfo : Option EventInfo}
    {cmds : List NexusOperationCommand} {r : List MachineResponse}
    (h : machineDef.processMachineCommands m eventInfo cmds = .ok r) :
    r.countP isStartResolve = (cmds.map (·.startResolves)).sum ∧
      r.countP isRequestCancel = (cmds.map (·.cancelRequests m.sharedState.cancelType)).sum ∧
      r.countP isResolve = (cmds.map (·.resultResolves m.sharedState.cancelType)).sum :=
  ⟨machineDef.processMachineCommands_countP isStartResolve _
      (fun _ _ hr => (@adaptResponse_counts _ _ eventInfo _ hr).1) h,
    machineDef.processMachineCommands_countP isRequestCancel _
      (fun _ _ hr => (@adaptResponse_counts _ _ eventInfo _ hr).2.1) h,
    machineDef.processMachineCommands_countP isResolve _
      (fun _ _ hr => (@adaptResponse_counts _ _ eventInfo _ hr).2.2) h⟩

/-- `cancel` is the `Cancel` transition with all its commands adapted. -/
theorem NexusOperationMachine.cancel_ok {m m' : NexusOperationMachine}
    {r : List MachineResponse} (h : NexusOperationMachine.cancel m = (m', .ok r)) :
    ∃ cmds, onEvent transitions m .cancel = (m', .ok cmds) ∧
      machineDef.processMachineCommands m' none cmds = .ok r := by
  unfold NexusOperationMachine.cancel at h
  split at h
  · rename_i m₁ cmds hev
    split at h
    · rename_i r₁ hr
      simp only [Prod.mk.injEq, Except.ok.injEq] at h
      obtain ⟨rfl, rfl⟩ := h
      exact ⟨cmds, hev, hr⟩
    · simp only [Prod.mk.injEq, reduceCtorEq, and_false] at h
  · simp only [Prod.mk.injEq, reduceCtorEq, and_false] at h

/-! ## One input, then a whole run -/

/-- The counts of one input, in terms of the machine before and after it. -/
def StepCounts (ct : NexusOperationCancellationType) (m m' : NexusOperationMachine)
    (r : List MachineResponse) : Prop :=
  Keeps ct m' ∧ r.countP isStartResolve + m'.startPending = m.startPending ∧
    r.countP isRequestCancel + m'.sharedState.cancelPending = m.sharedState.cancelPending ∧
    (ct = .waitCancellationCompleted → r.countP isResolve + m'.resultPending ≤ m.resultPending)

/-- A transition through `on_event` whose commands the adapter takes keeps `Keeps` and emits
the drop of each potential. -/
theorem onEvent_counts {ct : NexusOperationCancellationType} {m m' : NexusOperationMachine}
    {e : NexusOperationMachineEvents} {cmds : List NexusOperationCommand}
    {eventInfo : Option EventInfo} {r : List MachineResponse} (hm : Keeps ct m)
    (hev : onEvent transitions m e = (m', .ok cmds))
    (hp : machineDef.processMachineCommands m' eventInfo cmds = .ok r) : StepCounts ct m m' r := by
  obtain ⟨-, rfl⟩ := hm
  obtain ⟨s, s', sh', hs, ht, rfl⟩ := onEvent_eq_ok transitions hev
  obtain ⟨hct, hstart, hcancel, hresult⟩ := transitions_counts ht
  obtain ⟨hrs, hrc, hrr⟩ := processMachineCommands_counts hp
  simp only at hrs hrc hrr
  rw [hct] at hrc hrr
  refine ⟨⟨rfl, hct⟩, ?_, ?_, fun hwcc => ?_⟩
  · rw [hrs]
    simpa only [NexusOperationMachine.startPending, hs, Option.map_some, Option.getD_some]
      using hstart
  · rw [hrc]
    exact hcancel
  · rw [hrr]
    simpa only [NexusOperationMachine.resultPending, hs, Option.map_some, Option.getD_some]
      using hresult hwcc

/-- The step lemma: every input the machine takes keeps `Keeps` and emits the drop of each
potential. -/
theorem step_counts {ct : NexusOperationCancellationType} {m m' : NexusOperationMachine}
    {i : MachineInput} {r : List MachineResponse} (hm : Keeps ct m) (h : step m i = .ok (m', r)) :
    StepCounts ct m m' r := by
  cases i with
  | cancel reason =>
    obtain ⟨cmds, hev, hp⟩ := NexusOperationMachine.cancel_ok (machineDef.step_cancel_ok h)
    exact onEvent_counts hm hev hp
  | handleCommand commandType =>
    obtain ⟨e, c, -, hev, hp⟩ := machineDef.step_handleCommand_ok h
    exact onEvent_counts hm hev hp
  | handleEvent eventDat =>
    obtain ⟨e, c, eventInfo, -, hev, hp⟩ := machineDef.step_handleEvent_ok h
    exact onEvent_counts hm hev hp

/-- The run lemma: from any machine that `Keeps`, a successful run emits the drop of the start
and cancel potentials, and under `WAIT_CANCELLATION_COMPLETED` at most the drop of the
result's. -/
theorem run_counts {ct : NexusOperationCancellationType} (is : List MachineInput)
    {m m' : NexusOperationMachine} {r : List MachineResponse} (hm : Keeps ct m)
    (h : Steps.run step m is = .ok (m', r)) : StepCounts ct m m' r := by
  obtain ⟨hk, hstart⟩ := Steps.run_countP_add step (Keeps ct)
    NexusOperationMachine.startPending isStartResolve
    (fun _ _ _ _ hs hstep => (step_counts hs hstep).imp_right And.left) is m m' r hm h
  obtain ⟨-, hcancel⟩ := Steps.run_countP_add step (Keeps ct)
    (fun m => m.sharedState.cancelPending) isRequestCancel
    (fun _ _ _ _ hs hstep => (step_counts hs hstep).imp_right fun h => h.2.1) is m m' r hm h
  refine ⟨hk, hstart, hcancel, fun hwcc => ?_⟩
  exact (Steps.run_countP_le step (Keeps ct) NexusOperationMachine.resultPending isResolve
    (fun _ _ _ _ hs hstep => (step_counts hs hstep).imp_right fun h => h.2.2 hwcc)
    is m m' r hm h).2

/-- `new_scheduled` leaves the machine in `ScheduleCommandCreated`, owed its start, its result
and, unless it is abandoned, its cancel request. -/
theorem newScheduled_keeps (attribs : ScheduleNexusOperation) :
    Keeps attribs.cancellationType (NexusOperationMachine.newScheduled attribs).1 ∧
      (NexusOperationMachine.newScheduled attribs).1.startPending = 1 ∧
      (NexusOperationMachine.newScheduled attribs).1.resultPending = 1 ∧
      (NexusOperationMachine.newScheduled attribs).1.sharedState.cancelPending =
        if attribs.cancellationType = .abandon then 0 else 1 := by
  refine ⟨⟨rfl, rfl⟩, rfl, rfl, ?_⟩
  by_cases hab : attribs.cancellationType = .abandon <;>
    simp [NexusOperationMachine.newScheduled, StateMachine.fromParts, SharedState.cancelPending,
      hab]

/-- Over every run the scheduled Nexus operation machine accepts, lang gets at most one start
resolution, exactly one once the machine is past `ScheduledEventRecorded`, and the server at
most one cancel request, none for an abandoned operation; under
`WAIT_CANCELLATION_COMPLETED` lang gets at most one result resolution. -/
theorem run_resolves_start_once (attribs : ScheduleNexusOperation) (is : List MachineInput)
    {m : NexusOperationMachine} {r : List MachineResponse}
    (h : Steps.run step (NexusOperationMachine.newScheduled attribs).1 is = .ok (m, r)) :
    r.countP isStartResolve ≤ 1 ∧
      (m.state ≠ some .scheduleCommandCreated → m.state ≠ some .scheduledEventRecorded →
        r.countP isStartResolve = 1) ∧
      r.countP isRequestCancel ≤ 1 ∧
      (attribs.cancellationType = .abandon → r.countP isRequestCancel = 0) ∧
      (attribs.cancellationType = .waitCancellationCompleted → r.countP isResolve ≤ 1) := by
  obtain ⟨hk₀, hs₀, hr₀, hc₀⟩ := newScheduled_keeps attribs
  obtain ⟨⟨hsome, -⟩, hstart, hcancel, hresult⟩ := run_counts is hk₀ h
  rw [hs₀] at hstart
  rw [hc₀] at hcancel
  rw [hr₀] at hresult
  refine ⟨by omega, fun hscc hser => ?_, ?_, fun hab => ?_, fun hwcc => by
    have := hresult hwcc; omega⟩
  · -- past the first two states the start potential is spent
    obtain ⟨s, hs⟩ := Option.isSome_iff_exists.1 hsome
    have hzero : m.startPending = 0 := by
      cases s <;> simp_all [NexusOperationMachine.startPending, Nexus.startPending]
    omega
  · split at hcancel <;> omega
  · rw [if_pos hab] at hcancel
    omega

/-- The operation started, cancelled under `TRY_CANCEL` and then completed: its start is
resolved once and one cancel request is sent. -/
theorem run_resolves_start_once_startedThenCancelled :
    ∃ m r, Steps.run step (scheduledOperation .tryCancel) startedThenCancelledInputs =
        .ok (m, r) ∧
      r.countP isStartResolve = 1 ∧ r.countP isRequestCancel = 1 := by
  -- the run ends in `Cancelled` with one cancel request, as evaluating it shows
  obtain ⟨⟨m, r⟩, hrun,
      hend : (m.state, r.countP isRequestCancel) = (some .cancelled, 1)⟩ :=
    Steps.map_eq_ok
      (show (Steps.run step (scheduledOperation .tryCancel) startedThenCancelledInputs).map
          (fun x => (x.1.state, x.2.countP isRequestCancel)) = .ok (some .cancelled, 1) from rfl)
  simp only [Prod.mk.injEq] at hend
  have hstart := (run_resolves_start_once _ _ hrun).2.1 (by simp [hend.1]) (by simp [hend.1])
  exact ⟨m, r, hrun, hstart, hend.2⟩

/-- The two failing runs. Abandoned after its start, the operation rejects the completion the
server still records, though `TRY_CANCEL` takes the same inputs; cancelled under `TRY_CANCEL`
before its start, it resolves lang's result twice, the first time before its start. -/
theorem run_abandonThenCompleted :
    Steps.run step (scheduledOperation .abandon) startedThenCancelledInputs =
        .error completionOfNotAbandonedErr ∧
      (Steps.run step (scheduledOperation .tryCancel) startedThenCancelledInputs).map
          (·.1.state) = .ok (some .cancelled) ∧
      (Steps.run step (scheduledOperation .tryCancel) cancelledThenStartedInputs).map
          (fun x => (x.2.map fun resp => (isStartResolve resp, isResolve resp)).filter
            fun k => k.1 || k.2) =
        .ok [(false, true), (true, false), (false, true)] :=
  ⟨rfl, rfl, rfl⟩

end SdkCore.Nexus
