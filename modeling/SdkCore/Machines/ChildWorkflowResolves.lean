import SdkCore.Machines.ChildWorkflowRuns

/-!
# A child workflow resolves lang at most once, for its start and for its result

Over every run of inputs that a scheduled child workflow machine accepts, whatever lang cancels
and whatever the server records, lang gets at most one `ResolveChildWorkflowExecutionStart` and
at most one `ResolveChildWorkflowExecution`. The argument is the potential rule of `Steps`, as
for activities, with one potential per job (`startPending`, `resultPending`): a state counts 1
until the machine has emitted the job. A child cancelled before its command was sent never gets
a result, so its result stays pending; `Keeps` records that such a machine stays `Cancelled`.
Each arm of the table emits as many jobs as it lowers the potentials (`transitions_pending`),
so a whole run emits `1 - pending` of each (`run_pending`), which fixes the counts in every
state a run can end in (`run_resolutions`).
-/

namespace SdkCore.ChildWorkflow

open Fsm

/-! ## The potentials -/

/-- 1 until the child's start is resolved. -/
def startPending : ChildWorkflowMachineState → Nat
  | .created | .startCommandCreated | .startEventRecorded => 1
  | _ => 0

/-- 1 until the child's result is resolved; for ever in a child that failed to start or was
cancelled before its command was sent. -/
def resultPending (cancelledBeforeSent : Bool) : ChildWorkflowMachineState → Nat
  | .created | .startCommandCreated | .startEventRecorded | .started | .startFailed => 1
  | .completed | .failed | .timedOut | .terminated => 0
  | .cancelled _ => if cancelledBeforeSent then 1 else 0

def ChildWorkflowMachine.startPending (m : ChildWorkflowMachine) : Nat :=
  (m.state.map ChildWorkflow.startPending).getD 0

def ChildWorkflowMachine.resultPending (m : ChildWorkflowMachine) : Nat :=
  (m.state.map (ChildWorkflow.resultPending m.sharedState.cancelledBeforeSent)).getD 0

/-- The `ResolveChildWorkflowExecutionStart` jobs a command becomes. -/
def ChildWorkflowCommand.startResolves : ChildWorkflowCommand → Nat
  | .start _ | .startFail _ | .startCancel _ => 1
  | _ => 0

/-- The `ResolveChildWorkflowExecution` jobs a command becomes: a cancel after the start
resolves at once under `ABANDON` and `TRY_CANCEL`. -/
def ChildWorkflowCommand.resultResolves (ct : ChildWorkflowCancellationType) :
    ChildWorkflowCommand → Nat
  | .complete _ | .fail _ | .cancel => 1
  | .issueCancelAfterStarted _ =>
    match ct with
    | .abandon | .tryCancel => 1
    | _ => 0
  | _ => 0

/-- The commands of a `Cancel` transition. -/
def ChildWorkflowCommand.isCancel : ChildWorkflowCommand → Bool
  | .startCancel _ | .issueCancelAfterStarted _ => true
  | _ => false

/-- What a run from `new_scheduled` keeps: the machine holds a state, its cancellation type is
the one it was scheduled with, and a machine cancelled before its command was sent is
`Cancelled`. -/
def Keeps (ct : ChildWorkflowCancellationType) (m : ChildWorkflowMachine) : Prop :=
  m.state.isSome ∧ m.sharedState.cancelType = ct ∧
    (m.sharedState.cancelledBeforeSent = true → ∃ seen, m.state = some (.cancelled seen))

/-! ## One arm -/

/-- The recorded start, past the determinism checks, stores the event id and the flag's use. -/
theorem StartCommandCreated.onStartChildWorkflowExecutionInitiated_ok {sh sh' : SharedState}
    {d : ChildWorkflowInitiatedData} {cmds : List ChildWorkflowCommand}
    {s' : ChildWorkflowMachineState}
    (h : StartCommandCreated.onStartChildWorkflowExecutionInitiated sh d = (sh', .ok cmds s')) :
    sh'.cancelType = sh.cancelType ∧ sh'.cancelledBeforeSent = sh.cancelledBeforeSent ∧
      cmds = [] ∧ s' = .startEventRecorded := by
  unfold StartCommandCreated.onStartChildWorkflowExecutionInitiated at h
  -- the answer of `try_use`, then the id check and the type check
  split at h
  dsimp only at h
  split at h
  · simp only [Prod.mk.injEq, reduceCtorEq, and_false] at h
  split at h
  · simp only [Prod.mk.injEq, reduceCtorEq, and_false] at h
  simp only [Prod.mk.injEq, TransitionResult.default, TransitionResult.ok.injEq] at h
  obtain ⟨rfl, rfl, rfl⟩ := h
  exact ⟨rfl, rfl, rfl, rfl⟩

/-- `Cancelled` emits nothing and stays `Cancelled`: cancels are ignored, the cancellation event
is taken once, and completions are taken only from abandoned children. -/
theorem transitions_cancelled {seen : Bool} {e : ChildWorkflowMachineEvents}
    {sh sh' : SharedState} {cmds : List ChildWorkflowCommand} {s' : ChildWorkflowMachineState}
    (h : transitions (.cancelled seen) e sh = some (sh', .ok cmds s')) :
    sh' = sh ∧ cmds = [] ∧ ∃ seen', s' = .cancelled seen' := by
  cases e <;> simp only [transitions, reduceCtorEq, Option.some.injEq] at h
  case cancel reason =>
    simp only [TransitionResult.default, Prod.mk.injEq, TransitionResult.ok.injEq] at h
    obtain ⟨rfl, rfl, rfl⟩ := h
    exact ⟨rfl, rfl, seen, rfl⟩
  case childWorkflowExecutionCancelled =>
    cases seen <;>
      simp only [Cancelled.onChildWorkflowExecutionCancelled, Bool.false_eq_true, if_true,
        if_false, Prod.mk.injEq, TransitionResult.ok.injEq, reduceCtorEq, and_false] at h
    obtain ⟨rfl, rfl, rfl⟩ := h
    exact ⟨rfl, rfl, true, rfl⟩
  -- the four completions share `Cancelled.onCompletion`
  all_goals
    simp only [Cancelled.onChildWorkflowExecutionCompleted,
      Cancelled.onChildWorkflowExecutionFailed, Cancelled.onChildWorkflowExecutionTimedOut, Cancelled.onChildWorkflowExecutionTerminated,
      Cancelled.onCompletion] at h
    split at h
    · simp only [Prod.mk.injEq, reduceCtorEq, and_false] at h
    · simp only [Prod.mk.injEq, TransitionResult.ok.injEq] at h
      obtain ⟨rfl, rfl, rfl⟩ := h
      exact ⟨rfl, rfl, seen, rfl⟩

/-- Every arm keeps the cancellation type and `Keeps`, and emits the drop of each potential. -/
theorem transitions_pending {s s' : ChildWorkflowMachineState} {e : ChildWorkflowMachineEvents}
    {sh sh' : SharedState} {cmds : List ChildWorkflowCommand}
    (hbefore : sh.cancelledBeforeSent = true → ∃ seen, s = .cancelled seen)
    (h : transitions s e sh = some (sh', .ok cmds s')) :
    sh'.cancelType = sh.cancelType ∧
      (sh'.cancelledBeforeSent = true → ∃ seen, s' = .cancelled seen) ∧
      (cmds.map (·.startResolves)).sum + startPending s' = startPending s ∧
      (cmds.map (·.resultResolves sh.cancelType)).sum +
          resultPending sh'.cancelledBeforeSent s' = resultPending sh.cancelledBeforeSent s := by
  cases s
  case cancelled seen =>
    obtain ⟨rfl, rfl, seen', rfl⟩ := transitions_cancelled h
    exact ⟨rfl, fun _ => ⟨seen', rfl⟩, by simp [startPending], by simp [resultPending]⟩
  -- outside `Cancelled` the command was not cancelled before it was sent
  all_goals
    have hcbs : sh.cancelledBeforeSent = false := by
      cases hb : sh.cancelledBeforeSent
      · rfl
      · obtain ⟨_, hs⟩ := hbefore hb
        cases hs
    cases e <;> simp only [transitions, reduceCtorEq, Option.some.injEq] at h
  case startCommandCreated.startChildWorkflowExecutionInitiated d =>
    obtain ⟨hct, hcbs', rfl, rfl⟩ := StartCommandCreated.onStartChildWorkflowExecutionInitiated_ok h
    refine ⟨hct, by simp [hcbs', hcbs], ?_, ?_⟩ <;> simp [startPending, resultPending]
  -- a cancel before the command is sent: the start is resolved, the result never will be
  case startCommandCreated.cancel reason =>
    simp only [StartCommandCreated.onCancelled, Prod.mk.injEq, TransitionResult.ok.injEq] at h
    obtain ⟨rfl, rfl, rfl⟩ := h
    refine ⟨rfl, fun _ => ⟨false, rfl⟩, ?_, ?_⟩ <;>
      simp [startPending, resultPending, ChildWorkflowCommand.startResolves,
        ChildWorkflowCommand.resultResolves]
  -- a cancel after the start: resolved at once unless a `WAIT` type keeps it `Started`
  case started.cancel reason =>
    simp only [Started.onCancelled, Prod.mk.injEq, TransitionResult.ok.injEq] at h
    obtain ⟨rfl, rfl, rfl⟩ := h
    cases sh.cancelType <;> refine ⟨rfl, by simp [hcbs], ?_, ?_⟩ <;>
      simp [startPending, resultPending, ChildWorkflowCommand.startResolves,
        ChildWorkflowCommand.resultResolves, hcbs]
  all_goals
    simp only [Created.onSchedule, StartEventRecorded.onChildWorkflowExecutionStarted,
      StartEventRecorded.onStartChildWorkflowExecutionFailed,
      Started.onChildWorkflowExecutionCompleted, Started.onChildWorkflowExecutionFailed,
      Started.onChildWorkflowExecutionTimedOut, Started.onChildWorkflowExecutionCancelled,
      Started.onChildWorkflowExecutionTerminated, TransitionResult.default, Prod.mk.injEq,
      TransitionResult.ok.injEq] at h
    obtain ⟨rfl, rfl, rfl⟩ := h
    refine ⟨rfl, by simp [hcbs], ?_, ?_⟩ <;>
      simp [startPending, resultPending, ChildWorkflowCommand.startResolves,
        ChildWorkflowCommand.resultResolves, hcbs]

/-- The `Cancel` arms give only cancel commands. -/
theorem transitions_cancel_commands {s s' : ChildWorkflowMachineState} {reason : String}
    {sh sh' : SharedState} {cmds : List ChildWorkflowCommand}
    (h : transitions s (.cancel reason) sh = some (sh', .ok cmds s')) :
    ∀ c ∈ cmds, c.isCancel := by
  cases s <;>
    simp only [transitions, StartCommandCreated.onCancelled, Started.onCancelled,
      TransitionResult.default, reduceCtorEq, Option.some.injEq, Prod.mk.injEq,
      TransitionResult.ok.injEq] at h
  all_goals
    obtain ⟨-, rfl, -⟩ := h
    simp [ChildWorkflowCommand.isCancel]

/-! ## What the adapter and `cancel` emit -/

theorem adaptResponse_counts {m : ChildWorkflowMachine} {c : ChildWorkflowCommand}
    {eventInfo : Option EventInfo} {r : List MachineResponse}
    (h : adaptResponse m c eventInfo = .ok r) :
    r.countP isStartResolve = c.startResolves ∧
      r.countP isResolve = c.resultResolves m.sharedState.cancelType := by
  cases c with
  | complete result =>
    obtain ⟨p, -, hp⟩ := Steps.bind_eq_ok h
    cases hp
    exact ⟨rfl, rfl⟩
  | issueCancelAfterStarted reason =>
    cases h
    cases m.sharedState.cancelType <;>
      simp [ChildWorkflowCommand.startResolves, ChildWorkflowCommand.resultResolves]
  | start we => cases h; exact ⟨rfl, rfl⟩
  | fail failure => cases h; exact ⟨rfl, rfl⟩
  | cancel => cases h; exact ⟨rfl, rfl⟩
  | startFail cause => cases h; exact ⟨rfl, rfl⟩
  | startCancel failure => cases h; exact ⟨rfl, rfl⟩

theorem processMachineCommands_counts {m : ChildWorkflowMachine} {eventInfo : Option EventInfo}
    {cmds : List ChildWorkflowCommand} {r : List MachineResponse}
    (h : machineDef.processMachineCommands m eventInfo cmds = .ok r) :
    r.countP isStartResolve = (cmds.map (·.startResolves)).sum ∧
      r.countP isResolve = (cmds.map (·.resultResolves m.sharedState.cancelType)).sum :=
  ⟨machineDef.processMachineCommands_countP isStartResolve _
      (fun _ _ hr => (adaptResponse_counts hr).1) h,
    machineDef.processMachineCommands_countP isResolve _
      (fun _ _ hr => (adaptResponse_counts hr).2) h⟩

/-- On cancel commands, `cancel`'s responses are those of `process_machine_commands`: the
`panic!` arm is never reached. -/
theorem cancelResponses_eq (m : ChildWorkflowMachine) :
    ∀ {cmds : List ChildWorkflowCommand}, (∀ c ∈ cmds, c.isCancel) →
      cancelResponses m cmds = machineDef.processMachineCommands m none cmds := by
  intro cmds
  induction cmds with
  | nil => intro _; rfl
  | cons c cs ih =>
    intro hc
    have hcs : ∀ c ∈ cs, c.isCancel := fun c' hc' => hc c' (List.mem_cons_of_mem _ hc')
    have hcc := hc c List.mem_cons_self
    cases c <;> simp only [ChildWorkflowCommand.isCancel, Bool.false_eq_true] at hcc <;>
      simp only [cancelResponses, cancelResponse, MachineDef.processMachineCommands, ih hcs] <;>
      rfl

/-! ## One input, then a whole run -/

/-- A transition through `on_event` whose commands the adapter takes keeps `Keeps` and emits
the drop of each potential. -/
theorem onEvent_pending {ct : ChildWorkflowCancellationType} {m m' : ChildWorkflowMachine}
    {e : ChildWorkflowMachineEvents} {cmds : List ChildWorkflowCommand}
    {eventInfo : Option EventInfo} {r : List MachineResponse} (hm : Keeps ct m)
    (hev : onEvent transitions m e = (m', .ok cmds))
    (hp : machineDef.processMachineCommands m' eventInfo cmds = .ok r) :
    Keeps ct m' ∧ r.countP isStartResolve + m'.startPending = m.startPending ∧
      r.countP isResolve + m'.resultPending = m.resultPending := by
  obtain ⟨-, rfl, hbefore⟩ := hm
  obtain ⟨s, s', sh', hs, ht, rfl⟩ := onEvent_eq_ok transitions hev
  have hbefore' : m.sharedState.cancelledBeforeSent = true → ∃ seen, s = .cancelled seen := by
    intro hb
    obtain ⟨seen, hseen⟩ := hbefore hb
    rw [hs] at hseen
    exact ⟨seen, Option.some.inj hseen⟩
  obtain ⟨hct, hk, hstart, hresult⟩ := transitions_pending hbefore' ht
  obtain ⟨hrs, hrr⟩ := processMachineCommands_counts hp
  refine ⟨⟨rfl, hct, fun hb => (hk hb).imp fun _ h => by rw [h]⟩, ?_, ?_⟩
  · rw [hrs]
    simpa only [ChildWorkflowMachine.startPending, hs, Option.map_some, Option.getD_some]
      using hstart
  · rw [hrr, hct]
    simpa only [ChildWorkflowMachine.resultPending, hs, Option.map_some, Option.getD_some]
      using hresult

/-- The step lemma: every input the machine takes keeps `Keeps` and emits the drop of each
potential. -/
theorem step_pending {ct : ChildWorkflowCancellationType} {m m' : ChildWorkflowMachine}
    {i : MachineInput} {r : List MachineResponse} (hm : Keeps ct m) (h : step m i = .ok (m', r)) :
    Keeps ct m' ∧ r.countP isStartResolve + m'.startPending = m.startPending ∧
      r.countP isResolve + m'.resultPending = m.resultPending := by
  cases i with
  | cancel reason =>
    have hc := machineDef.step_cancel_ok h
    unfold ChildWorkflowMachine.cancel at hc
    split at hc
    · rename_i m₁ cmds hev
      split at hc
      · rename_i r₁ hr
        simp only [Prod.mk.injEq, Except.ok.injEq] at hc
        obtain ⟨rfl, rfl⟩ := hc
        obtain ⟨_, _, _, -, ht, -⟩ := onEvent_eq_ok transitions hev
        -- `cancel` adapts exactly the cancel commands of its transition
        rw [cancelResponses_eq _ (transitions_cancel_commands ht)] at hr
        exact onEvent_pending hm hev hr
      · simp only [Prod.mk.injEq, reduceCtorEq, and_false] at hc
    · simp only [Prod.mk.injEq, reduceCtorEq, and_false] at hc
  | handleCommand commandType =>
    obtain ⟨e, c, -, hev, hp⟩ := machineDef.step_handleCommand_ok h
    exact onEvent_pending hm hev hp
  | handleEvent eventDat =>
    obtain ⟨e, c, eventInfo, -, hev, hp⟩ := machineDef.step_handleEvent_ok h
    exact onEvent_pending hm hev hp

/-- The run lemma: from any machine that `Keeps`, a successful run emits the drop of each
potential. -/
theorem run_pending {ct : ChildWorkflowCancellationType} (is : List MachineInput)
    {m m' : ChildWorkflowMachine} {r : List MachineResponse} (hm : Keeps ct m)
    (h : Steps.run step m is = .ok (m', r)) :
    Keeps ct m' ∧ r.countP isStartResolve + m'.startPending = m.startPending ∧
      r.countP isResolve + m'.resultPending = m.resultPending := by
  obtain ⟨hk, hstart⟩ := Steps.run_countP_add step (Keeps ct) ChildWorkflowMachine.startPending
    isStartResolve (fun _ _ _ _ hs hstep => (step_pending hs hstep).imp_right And.left)
    is m m' r hm h
  obtain ⟨-, hresult⟩ := Steps.run_countP_add step (Keeps ct) ChildWorkflowMachine.resultPending
    isResolve (fun _ _ _ _ hs hstep => (step_pending hs hstep).imp_right And.right)
    is m m' r hm h
  exact ⟨hk, hstart, hresult⟩

/-- `new_scheduled` leaves the machine in `StartCommandCreated`, owed both jobs. -/
theorem newScheduled_keeps (attrs : StartChildWorkflowExecution) (internalFlags : InternalFlags) :
    Keeps attrs.cancellationType (ChildWorkflowMachine.newScheduled attrs internalFlags).1 ∧
      (ChildWorkflowMachine.newScheduled attrs internalFlags).1.startPending = 1 ∧
      (ChildWorkflowMachine.newScheduled attrs internalFlags).1.resultPending = 1 :=
  ⟨⟨rfl, rfl, fun h => by cases h⟩, rfl, rfl⟩

/-- Over every run the scheduled child workflow machine accepts, lang gets at most one start
resolution and at most one result resolution: both for a child that ended, the start only for
one that failed to start, and for a cancelled child the start and, unless it was cancelled
before its command was sent, the result. -/
theorem run_resolutions (attrs : StartChildWorkflowExecution) (internalFlags : InternalFlags)
    (is : List MachineInput) {m : ChildWorkflowMachine} {r : List MachineResponse}
    (h : Steps.run step (ChildWorkflowMachine.newScheduled attrs internalFlags).1 is =
      .ok (m, r)) :
    r.countP isStartResolve ≤ 1 ∧ r.countP isResolve ≤ 1 ∧
      (m.state ∈ [some .completed, some .failed, some .timedOut, some .terminated] →
        r.countP isStartResolve = 1 ∧ r.countP isResolve = 1) ∧
      (m.state = some .startFailed → r.countP isStartResolve = 1 ∧ r.countP isResolve = 0) ∧
      (∀ seen, m.state = some (.cancelled seen) →
        r.countP isStartResolve = 1 ∧
          r.countP isResolve = if m.wasCancelledBeforeSentToServer then 0 else 1) := by
  obtain ⟨hk₀, hs₀, hr₀⟩ := newScheduled_keeps attrs internalFlags
  obtain ⟨-, hstart, hresult⟩ := run_pending is hk₀ h
  rw [hs₀] at hstart
  rw [hr₀] at hresult
  -- the counts are 1 minus the potentials of the state the run ends in
  have hend : ∀ s, m.state = some s →
      r.countP isStartResolve + startPending s = 1 ∧
        r.countP isResolve + resultPending m.sharedState.cancelledBeforeSent s = 1 := by
    intro s hs
    simp only [ChildWorkflowMachine.startPending, ChildWorkflowMachine.resultPending, hs,
      Option.map_some, Option.getD_some] at hstart hresult
    exact ⟨hstart, hresult⟩
  refine ⟨by omega, by omega, ?_, ?_, ?_⟩
  · intro hfinal
    simp only [List.mem_cons, List.not_mem_nil, or_false] at hfinal
    rcases hfinal with hf | hf | hf | hf <;>
      obtain ⟨h₁, h₂⟩ := hend _ hf <;>
      simp only [ChildWorkflow.startPending, ChildWorkflow.resultPending] at h₁ h₂ <;>
      omega
  · intro hf
    obtain ⟨h₁, h₂⟩ := hend _ hf
    simp only [ChildWorkflow.startPending, ChildWorkflow.resultPending] at h₁ h₂
    omega
  · intro seen hf
    obtain ⟨h₁, h₂⟩ := hend _ hf
    simp only [ChildWorkflow.startPending, ChildWorkflow.resultPending,
      ChildWorkflowMachine.wasCancelledBeforeSentToServer] at h₁ h₂ ⊢
    refine ⟨by omega, ?_⟩
    by_cases hcbs : m.sharedState.cancelledBeforeSent = true <;>
      simp only [hcbs, if_true, Bool.false_eq_true, if_false] at h₂ ⊢ <;> omega

/-- An abandoned child cancelled before its command was sent: its start is resolved, its
result never. -/
theorem run_resolutions_cancelledBeforeSent :
    ∃ m r, Steps.run step (ChildWorkflowMachine.newScheduled (childAttrs .abandon)
        (.enabled [] [])).1 [.cancel "stop"] = .ok (m, r) ∧
      m.state = some (.cancelled false) ∧ m.wasCancelledBeforeSentToServer = true ∧
      r.countP isStartResolve = 1 ∧ r.countP isResolve = 0 := by
  -- the run ends in `Cancelled`, cancelled before sent, as evaluating it shows
  obtain ⟨⟨m, r⟩, hrun,
      hend : (m.state, m.wasCancelledBeforeSentToServer) = (some (.cancelled false), true)⟩ :=
    Steps.map_eq_ok
      (show (Steps.run step (ChildWorkflowMachine.newScheduled (childAttrs .abandon)
          (.enabled [] [])).1 [.cancel "stop"]).map
            (fun x => (x.1.state, x.1.wasCancelledBeforeSentToServer)) =
        .ok (some (.cancelled false), true) from rfl)
  simp only [Prod.mk.injEq] at hend
  obtain ⟨hstart, hresult⟩ := (run_resolutions _ _ _ hrun).2.2.2.2 false hend.1
  rw [hend.2, if_pos rfl] at hresult
  exact ⟨m, r, hrun, hend.1, hend.2, hstart, hresult⟩

end SdkCore.ChildWorkflow
