import SdkCore.Machines.Activity

/-!
# An activity resolves lang at most once

Over every run of inputs that the activity machine accepts, lang gets at most one
`ResolveActivity`. The argument is a potential (`owed`): a state owes lang one resolution until
the activity is resolved, and a pending cancel request owes one only under
`WAIT_CANCELLATION_COMPLETED`. Every arm of the table emits, through the adapter or through
`cancel`, as many resolutions as it moves the potential down (`transitions_owed`), so by the
potential rule of `Steps` a whole run emits `1 - owed` of them (`run_resolves_once`).
-/

namespace SdkCore.Activity

open Fsm

/-- The four states between a cancel request and the server's answer to it. -/
def ActivityMachineState.cancelRequested : ActivityMachineState → Bool
  | .scheduledActivityCancelCommandCreated | .scheduledActivityCancelEventRecorded
  | .startedActivityCancelCommandCreated | .startedActivityCancelEventRecorded => true
  | _ => false

/-- The resolutions lang is still owed in a state. -/
def owed (ct : ActivityCancellationType) : ActivityMachineState → Nat
  | .created | .scheduleCommandCreated | .scheduledEventRecorded | .started => 1
  | .completed | .failed | .timedOut | .canceled => 0
  | .scheduledActivityCancelCommandCreated | .scheduledActivityCancelEventRecorded
  | .startedActivityCancelCommandCreated | .startedActivityCancelEventRecorded =>
    if ct = .waitCancellationCompleted then 1 else 0

/-- The resolutions a machine is owed; none once it holds no state. -/
def ActivityMachine.owed (m : ActivityMachine) : Nat :=
  (m.state.map (Activity.owed m.sharedState.cancellationType)).getD 0

/-- The `ResolveActivity` jobs a command of the machine becomes. -/
def ActivityMachineCommand.resolves (ct : ActivityCancellationType) : ActivityMachineCommand → Nat
  | .complete _ | .fail _ | .cancel _ => 1
  | .requestCancellation _ => if ct = .waitCancellationCompleted then 0 else 1

/-- The commands of a cancel transition. -/
def ActivityMachineCommand.isCancel : ActivityMachineCommand → Bool
  | .cancel _ | .requestCancellation _ => true
  | _ => false

/-- A `ResolveActivity` job. -/
def isResolve : MachineResponse → Bool
  | .pushWFJob (.resolveActivity _) => true
  | _ => false

/-! ## One arm -/

/-- The recording of the schedule: past the determinism checks it only stores the event id
(and the flag's use). -/
theorem ScheduleCommandCreated.onActivityTaskScheduled_ok {sh sh' : SharedState}
    {d : ActTaskScheduledData} {cmds : List ActivityMachineCommand} {s' : ActivityMachineState}
    (h : ScheduleCommandCreated.onActivityTaskScheduled sh d = (sh', .ok cmds s')) :
    sh'.cancellationType = sh.cancellationType ∧ cmds = [] ∧ s' = .scheduledEventRecorded := by
  unfold ScheduleCommandCreated.onActivityTaskScheduled at h
  -- the answer of `try_use`, then the id check and the type check
  split at h
  dsimp only at h
  split at h
  · simp only [Prod.mk.injEq, reduceCtorEq, and_false] at h
  split at h
  · simp only [Prod.mk.injEq, reduceCtorEq, and_false] at h
  simp only [Prod.mk.injEq, TransitionResult.default, TransitionResult.ok.injEq] at h
  obtain ⟨rfl, rfl, rfl⟩ := h
  exact ⟨rfl, rfl, rfl⟩

/-- Every arm keeps the cancellation type and emits the drop of the potential, except the
`dbg_panic!` arm of a `Cancel` under `ABANDON`, which `cancel` never sends. -/
theorem transitions_owed {s s' : ActivityMachineState} {e : ActivityMachineEvents}
    {sh sh' : SharedState} {cmds : List ActivityMachineCommand}
    (he : e = .cancel → sh.cancellationType ≠ .abandon)
    (h : transitions s e sh = some (sh', .ok cmds s')) :
    sh'.cancellationType = sh.cancellationType ∧
      (cmds.map (·.resolves sh.cancellationType)).sum + owed sh.cancellationType s' =
        owed sh.cancellationType s := by
  -- split by cancellation type first, so that the handlers' matches on it reduce
  cases hct : sh.cancellationType <;> cases s <;> cases e <;>
    simp only [transitions, Created.onSchedule, ScheduleCommandCreated.onCanceled, ScheduleCommandCreated.onAbandoned,
      ScheduledEventRecorded.onTaskStarted, ScheduledEventRecorded.onTaskTimedOut,
      ScheduledEventRecorded.onCanceled, ScheduledEventRecorded.onAbandoned,
      Started.onActivityTaskCompleted, Started.onActivityTaskFailed,
      Started.onActivityTaskTimedOut, Started.onCanceled, Started.onAbandoned,
      ScheduledActivityCancelEventRecorded.onActivityTaskCanceled,
      ScheduledActivityCancelEventRecorded.onActivityTaskTimedOut,
      StartedActivityCancelEventRecorded.onActivityTaskCompleted,
      StartedActivityCancelEventRecorded.onActivityTaskFailed,
      StartedActivityCancelEventRecorded.onActivityTaskTimedOut,
      StartedActivityCancelEventRecorded.onActivityTaskCanceled,
      Canceled.onActivityTaskStarted, Canceled.onActivityTaskCompleted,
      notifyIfNotAlreadyCancelled, notifyLangActivityCancelled, notifyLangActivityTimedOut,
      createRequestCancelActivityTaskCommand, TransitionResult.default, hct, reduceCtorEq,
      Option.some.injEq, Prod.mk.injEq, TransitionResult.ok.injEq, and_false,
      if_true, if_false] at h
  -- the `dbg_panic!` arm: `cancel` sends `Abandon` under `ABANDON`
  case abandon.scheduleCommandCreated.cancel => exact absurd hct (he rfl)
  all_goals
    first
    | obtain ⟨hsh, rfl, rfl⟩ := ScheduleCommandCreated.onActivityTaskScheduled_ok h
      simp [owed, hsh, hct]
    | obtain ⟨rfl, rfl, rfl⟩ := h
      simp [owed, ActivityMachineCommand.resolves, hct]

/-- The `Cancel` and `Abandon` arms give only cancel commands. -/
theorem transitions_cancel_commands {s s' : ActivityMachineState} {e : ActivityMachineEvents}
    {sh sh' : SharedState} {cmds : List ActivityMachineCommand}
    (he : e = .cancel ∨ e = .abandon) (h : transitions s e sh = some (sh', .ok cmds s')) :
    ∀ c ∈ cmds, c.isCancel := by
  rcases he with rfl | rfl <;> cases hct : sh.cancellationType <;> cases s <;>
    simp only [transitions, ScheduleCommandCreated.onCanceled,
      ScheduleCommandCreated.onAbandoned, ScheduledEventRecorded.onCanceled,
      ScheduledEventRecorded.onAbandoned, Started.onCanceled, Started.onAbandoned,
      notifyLangActivityCancelled, createRequestCancelActivityTaskCommand,
      TransitionResult.default, hct, reduceCtorEq, Option.some.injEq, Prod.mk.injEq,
      TransitionResult.ok.injEq] at h
  all_goals
    obtain ⟨-, rfl, -⟩ := h
    simp [ActivityMachineCommand.isCancel]

/-! ## What the adapter and `cancel` emit -/

theorem adaptResponse_resolves {m : ActivityMachine} {c : ActivityMachineCommand}
    {eventInfo : Option EventInfo} {r : List MachineResponse}
    (h : adaptResponse m c eventInfo = .ok r) :
    r.countP isResolve = c.resolves m.sharedState.cancellationType := by
  cases c with
  | complete result =>
    obtain ⟨p, -, hp⟩ := Steps.bind_eq_ok h
    cases hp
    rfl
  | fail failure => cases h; rfl
  | cancel attrs => cases h; rfl
  | requestCancellation cmd =>
    cases h
    cases hct : m.sharedState.cancellationType <;>
      simp [machineResponsesFromCancelRequest, createCancelationResolve, resolve, isResolve,
        ActivityMachineCommand.resolves, hct]

/-- `process_machine_commands` emits the resolutions its commands count for. -/
theorem processMachineCommands_resolves {m : ActivityMachine} {eventInfo : Option EventInfo}
    {cmds : List ActivityMachineCommand} {r : List MachineResponse}
    (h : machineDef.processMachineCommands m eventInfo cmds = .ok r) :
    r.countP isResolve = (cmds.map (·.resolves m.sharedState.cancellationType)).sum :=
  machineDef.processMachineCommands_countP isResolve _ (fun _ _ => adaptResponse_resolves) h

/-- The responses `cancel` makes of cancel commands count their resolutions. -/
theorem cancelResponses_resolves (dat : SharedState) :
    ∀ {cmds : List ActivityMachineCommand}, (∀ c ∈ cmds, c.isCancel) →
      (cmds.flatMap (cancelResponses dat)).countP isResolve =
        (cmds.map (·.resolves dat.cancellationType)).sum := by
  intro cmds
  induction cmds with
  | nil => intro _; rfl
  | cons c cs ih =>
    intro hc
    have hcs : ∀ c ∈ cs, c.isCancel := fun c' hc' => hc c' (List.mem_cons_of_mem _ hc')
    rw [List.flatMap_cons, List.countP_append, ih hcs, List.map_cons, List.sum_cons]
    congr 1
    have hcc := hc c List.mem_cons_self
    cases c with
    | requestCancellation cmd =>
      cases hct : dat.cancellationType <;>
        simp [cancelResponses, machineResponsesFromCancelRequest, createCancelationResolve,
          resolve, isResolve, ActivityMachineCommand.resolves, hct]
    | cancel details => rfl
    | complete _ => simp [ActivityMachineCommand.isCancel] at hcc
    | fail _ => simp [ActivityMachineCommand.isCancel] at hcc

/-! ## One input, then a whole run -/

/-- What a run from `new_scheduled` keeps: the machine holds a state, and its cancellation type
is the one it was scheduled with. -/
def Keeps (ct : ActivityCancellationType) (m : ActivityMachine) : Prop :=
  m.state.isSome ∧ m.sharedState.cancellationType = ct

theorem ofCommandType_ne_cancel (commandType : CommandType) :
    ofCommandType commandType ≠ some .cancel := by
  cases commandType <;> simp [ofCommandType]

theorem ofHistEvent_ne_cancel (eventDat : HistEventData) : ofHistEvent eventDat ≠ .ok .cancel := by
  simp only [ofHistEvent]
  split <;> simp

/-- A transition of the machine through `on_event`, in terms of the machine's potential. -/
theorem onEvent_owed {m m' : ActivityMachine} {e : ActivityMachineEvents}
    {cmds : List ActivityMachineCommand}
    (he : e = .cancel → m.sharedState.cancellationType ≠ .abandon)
    (h : onEvent transitions m e = (m', .ok cmds)) :
    m'.state.isSome ∧ m'.sharedState.cancellationType = m.sharedState.cancellationType ∧
      (cmds.map (·.resolves m.sharedState.cancellationType)).sum + m'.owed = m.owed := by
  obtain ⟨s, s', sh', hs, ht, rfl⟩ := onEvent_eq_ok transitions h
  obtain ⟨hct, hsum⟩ := transitions_owed he ht
  refine ⟨rfl, hct, ?_⟩
  simpa only [ActivityMachine.owed, hs, Option.map_some, Option.getD_some, hct] using hsum

/-- A cancel transition, with the responses `cancel` makes of its commands. -/
theorem cancelTransition_owed {m m' : ActivityMachine} {e : ActivityMachineEvents}
    {cmds : List ActivityMachineCommand} (he : e = .cancel ∨ e = .abandon)
    (hne : e = .cancel → m.sharedState.cancellationType ≠ .abandon)
    (h : onEvent transitions m e = (m', .ok cmds)) :
    m'.state.isSome ∧ m'.sharedState.cancellationType = m.sharedState.cancellationType ∧
      (cmds.flatMap (cancelResponses m'.sharedState)).countP isResolve + m'.owed = m.owed := by
  obtain ⟨hsome, hct, hsum⟩ := onEvent_owed hne h
  obtain ⟨s, s', sh', -, ht, rfl⟩ := onEvent_eq_ok transitions h
  refine ⟨hsome, hct, ?_⟩
  rw [cancelResponses_resolves _ (transitions_cancel_commands he ht), hct]
  exact hsum

/-- `cancel` emits the drop of the potential. -/
theorem cancel_owed {m m' : ActivityMachine} {r : List MachineResponse} (hm : m.state.isSome)
    (h : ActivityMachine.cancel m = (m', .ok r)) :
    m'.state.isSome ∧ m'.sharedState.cancellationType = m.sharedState.cancellationType ∧
      r.countP isResolve + m'.owed = m.owed := by
  unfold ActivityMachine.cancel at h
  split at h
  -- in a state that is not terminal: `Abandon` under `ABANDON`, else `Cancel`
  case h_5 =>
    cases hct : m.sharedState.cancellationType <;> simp only [hct] at h <;> split at h <;>
      simp only [Prod.mk.injEq, reduceCtorEq, and_false, Except.ok.injEq] at h <;>
      obtain ⟨rfl, rfl⟩ := h
    all_goals
      rename_i hev
      obtain ⟨hsome, hct', hsum⟩ := cancelTransition_owed (by simp) (by simp [hct]) hev
      exact ⟨hsome, hct'.trans hct, hsum⟩
  -- "Ignore attempted cancels in terminal states"
  all_goals
    simp only [Prod.mk.injEq, Except.ok.injEq] at h
    obtain ⟨rfl, rfl⟩ := h
    exact ⟨hm, rfl, by simp⟩

/-- The step lemma: every input the machine takes emits as many resolutions as the potential
drops, and keeps `Keeps`. -/
theorem step_owed {ct : ActivityCancellationType} {m m' : ActivityMachine} {i : MachineInput}
    {r : List MachineResponse} (hm : Keeps ct m) (h : step m i = .ok (m', r)) :
    Keeps ct m' ∧ r.countP isResolve + m'.owed = m.owed := by
  obtain ⟨hsome, rfl⟩ := hm
  cases i with
  | cancel reason =>
    obtain ⟨hsome', hct, hsum⟩ := cancel_owed hsome (machineDef.step_cancel_ok h)
    exact ⟨⟨hsome', hct⟩, hsum⟩
  | handleCommand commandType =>
    obtain ⟨e, c, hconv, hev, hp⟩ := machineDef.step_handleCommand_ok h
    have he : e = .cancel → m.sharedState.cancellationType ≠ .abandon := by
      rintro rfl
      exact absurd hconv (ofCommandType_ne_cancel commandType)
    obtain ⟨hsome', hct, hsum⟩ := onEvent_owed he hev
    refine ⟨⟨hsome', hct⟩, ?_⟩
    rw [processMachineCommands_resolves hp, hct]
    exact hsum
  | handleEvent eventDat =>
    obtain ⟨e, c, eventInfo, hconv, hev, hp⟩ := machineDef.step_handleEvent_ok h
    have he : e = .cancel → m.sharedState.cancellationType ≠ .abandon := by
      rintro rfl
      exact absurd hconv (ofHistEvent_ne_cancel eventDat)
    obtain ⟨hsome', hct, hsum⟩ := onEvent_owed he hev
    refine ⟨⟨hsome', hct⟩, ?_⟩
    rw [processMachineCommands_resolves hp, hct]
    exact hsum

/-- The run lemma: from any state that `Keeps`, a successful run emits the drop of the
potential. -/
theorem run_owed {ct : ActivityCancellationType} (is : List MachineInput) {m m' : ActivityMachine}
    {r : List MachineResponse} (hm : Keeps ct m) (h : Steps.run step m is = .ok (m', r)) :
    Keeps ct m' ∧ r.countP isResolve + m'.owed = m.owed :=
  Steps.run_countP_add step (Keeps ct) ActivityMachine.owed isResolve
    (fun _ _ _ _ hs hstep => step_owed hs hstep) is m m' r hm h

/-- `new_scheduled` leaves the machine in `ScheduleCommandCreated`, owing one resolution. -/
theorem newScheduled_state (attrs : ScheduleActivity) (internalFlags : InternalFlags) :
    (ActivityMachine.newScheduled attrs internalFlags).1.state = some .scheduleCommandCreated ∧
      (ActivityMachine.newScheduled attrs internalFlags).1.sharedState.cancellationType =
        attrs.cancellationType :=
  ⟨rfl, rfl⟩

/-- Over every run the scheduled activity machine accepts, lang is resolved at most once, and
exactly once when the machine ends in one of the terminal states that `cancel` ignores. -/
theorem run_resolves_once (attrs : ScheduleActivity) (internalFlags : InternalFlags)
    (is : List MachineInput) {m : ActivityMachine} {r : List MachineResponse}
    (h : Steps.run step (ActivityMachine.newScheduled attrs internalFlags).1 is = .ok (m, r)) :
    r.countP isResolve ≤ 1 ∧
      (m.state ∈ [some .completed, some .failed, some .timedOut, some .canceled] →
        r.countP isResolve = 1) := by
  obtain ⟨hs, hct⟩ := newScheduled_state attrs internalFlags
  obtain ⟨-, hsum⟩ := run_owed is ⟨by simp [hs], hct⟩ h
  have h₀ : (ActivityMachine.newScheduled attrs internalFlags).1.owed = 1 := by
    simp [ActivityMachine.owed, hs, Activity.owed]
  refine ⟨by omega, ?_⟩
  intro hfinal
  have hzero : m.owed = 0 := by
    simp only [List.mem_cons, List.not_mem_nil, or_false] at hfinal
    rcases hfinal with hf | hf | hf | hf <;> simp [ActivityMachine.owed, hf, Activity.owed]
  omega

/-- The abandoned activity of `run_abandonThenFailed`, before its failure: cancelled, and
resolved once. -/
theorem run_resolves_once_abandonedEcho :
    ∃ m r, Steps.run step abandonedEcho (abandonThenFailedInputs.take 4) = .ok (m, r) ∧
      m.state = some .canceled ∧ r.countP isResolve = 1 := by
  -- the run ends in `Canceled`, as evaluating it shows
  obtain ⟨⟨m, r⟩, hrun, hstate : m.state = some .canceled⟩ := Steps.map_eq_ok
    (show (Steps.run step abandonedEcho (abandonThenFailedInputs.take 4)).map (·.1.state) =
      .ok (some .canceled) from rfl)
  exact ⟨m, r, hrun, hstate, (run_resolves_once _ _ _ hrun).2 (by simp [hstate])⟩

end SdkCore.Activity
