import SdkCore.Machines.Timer

/-!
# A timer fires once, and only if it is not cancelled

Over every run of inputs that a scheduled timer machine accepts, lang gets a `FireTimer` job
exactly when the machine ends `Fired`: at most once, and never for a timer that was cancelled.
The machine issues at most one `CancelTimer` command: none for a timer that fired, and for a
cancelled timer one exactly when the cancel came after its start was sent.

The argument is the potential rule of `Steps` with one potential per output (`firePending`,
`cancelPending`), as for activities and child workflows. A timer cancelled before its start
was sent issues no cancel command and stays `Canceled` (`Keeps`), so its cancel command stays
pending for ever.
-/

namespace SdkCore.Timer

open Fsm

/-! ## Outputs and potentials -/

/-- A `FireTimer` job. -/
def isFire : MachineResponse → Bool
  | .pushWFJob (.fireTimer _) => true
  | _ => false

/-- A `CancelTimer` command. -/
def isCancelTimer : MachineResponse → Bool
  | .issueNewCommand c => c.commandType == .cancelTimer
  | _ => false

/-- 1 until lang is told the timer fired. -/
def firePending : TimerMachineState → Nat
  | .fired => 0
  | _ => 1

/-- 1 until the cancel command is issued; for ever in a timer that fired or was cancelled
before its start was sent. -/
def cancelPending (cancelledBeforeSent : Bool) : TimerMachineState → Nat
  | .created | .startCommandCreated | .startCommandRecorded | .fired => 1
  | .cancelTimerCommandCreated | .cancelTimerCommandSent => 0
  | .canceled => if cancelledBeforeSent then 1 else 0

def TimerMachine.firePending (m : TimerMachine) : Nat :=
  (m.state.map Timer.firePending).getD 0

def TimerMachine.cancelPending (m : TimerMachine) : Nat :=
  (m.state.map (Timer.cancelPending m.sharedState.cancelledBeforeSent)).getD 0

/-- The `FireTimer` jobs a command becomes. -/
def TimerMachineCommand.fires : TimerMachineCommand → Nat
  | .complete => 1
  | .issueCancelCmd _ => 0

/-- The `CancelTimer` commands a command becomes. -/
def TimerMachineCommand.cancels : TimerMachineCommand → Nat
  | .complete => 0
  | .issueCancelCmd c => if c.commandType = .cancelTimer then 1 else 0

/-- What a run from `new_scheduled` keeps: the machine holds a state, and a timer cancelled
before its start was sent is `Canceled`. -/
def Keeps (m : TimerMachine) : Prop :=
  m.state.isSome ∧ (m.sharedState.cancelledBeforeSent = true → m.state = some .canceled)

/-! ## One arm -/

/-- Every arm keeps `Keeps` and emits the drop of each potential. -/
theorem transitions_pending {s s' : TimerMachineState} {e : TimerMachineEvents}
    {sh sh' : SharedState} {cmds : List TimerMachineCommand}
    (hbefore : sh.cancelledBeforeSent = true → s = .canceled)
    (h : transitions s e sh = some (sh', .ok cmds s')) :
    (sh'.cancelledBeforeSent = true → s' = .canceled) ∧
      (cmds.map (·.fires)).sum + firePending s' = firePending s ∧
      (cmds.map (·.cancels)).sum + cancelPending sh'.cancelledBeforeSent s' =
        cancelPending sh.cancelledBeforeSent s := by
  cases s
  case canceled =>
    cases e <;>
      simp only [transitions, TransitionResult.default, reduceCtorEq, Option.some.injEq,
        Prod.mk.injEq, TransitionResult.ok.injEq] at h
    obtain ⟨rfl, rfl, rfl⟩ := h
    exact ⟨hbefore, rfl, by simp⟩
  -- outside `Canceled` the timer was not cancelled before its start was sent
  all_goals
    have hcbs : sh.cancelledBeforeSent = false := by
      cases hb : sh.cancelledBeforeSent
      · rfl
      · cases hbefore hb
    cases e <;> simp only [transitions, reduceCtorEq, Option.some.injEq] at h
  -- the fired event: only the timer's own id is taken
  case startCommandRecorded.timerFired attrs =>
    unfold StartCommandRecorded.onTimerFired at h
    split at h
    · simp only [Prod.mk.injEq, TransitionResult.ok.injEq] at h
      obtain ⟨rfl, rfl, rfl⟩ := h
      refine ⟨by simp [hcbs], ?_, ?_⟩ <;>
        simp [firePending, cancelPending, TimerMachineCommand.fires, TimerMachineCommand.cancels]
    · simp only [Prod.mk.injEq, reduceCtorEq, and_false] at h
  -- a cancel before the start was sent: no command, and the cancel stays pending
  case startCommandCreated.cancel =>
    simp only [StartCommandCreated.onCancel, TransitionResult.default, Prod.mk.injEq,
      TransitionResult.ok.injEq] at h
    obtain ⟨rfl, rfl, rfl⟩ := h
    exact ⟨fun _ => rfl, rfl, by simp [cancelPending]⟩
  all_goals
    simp only [Created.onSchedule, StartCommandCreated.onTimerStarted,
      StartCommandRecorded.onCancel, CancelTimerCommandCreated.onCommandCancelTimer,
      TransitionResult.default, Prod.mk.injEq, TransitionResult.ok.injEq] at h
    obtain ⟨rfl, rfl, rfl⟩ := h
    refine ⟨by simp [hcbs], ?_, ?_⟩ <;>
      simp [firePending, cancelPending, TimerMachineCommand.fires, TimerMachineCommand.cancels,
        CommandAttributes.commandType, hcbs]

/-! ## What the adapter and `cancel` emit -/

theorem adaptResponse_counts {m : TimerMachine} {c : TimerMachineCommand}
    {eventInfo : Option EventInfo} {r : List MachineResponse}
    (h : adaptResponse m c eventInfo = .ok r) :
    r.countP isFire = c.fires ∧ r.countP isCancelTimer = c.cancels := by
  cases c with
  | complete => cases h; exact ⟨rfl, rfl⟩
  | issueCancelCmd a =>
    cases h
    simp [isFire, isCancelTimer, TimerMachineCommand.fires, TimerMachineCommand.cancels,
      CommandAttributes.toCommand]

theorem processMachineCommands_counts {m : TimerMachine} {eventInfo : Option EventInfo}
    {cmds : List TimerMachineCommand} {r : List MachineResponse}
    (h : machineDef.processMachineCommands m eventInfo cmds = .ok r) :
    r.countP isFire = (cmds.map (·.fires)).sum ∧
      r.countP isCancelTimer = (cmds.map (·.cancels)).sum :=
  ⟨machineDef.processMachineCommands_countP isFire _
      (fun _ _ hr => (@adaptResponse_counts m _ eventInfo _ hr).1) h,
    machineDef.processMachineCommands_countP isCancelTimer _
      (fun _ _ hr => (@adaptResponse_counts m _ eventInfo _ hr).2) h⟩

/-- `cancel` after a transition: its response is made of the transition's last command. -/
theorem TimerMachine.cancel_of_onEvent {m m' : TimerMachine} {cmds : List TimerMachineCommand}
    (hev : onEvent transitions m .cancel = (m', .ok cmds)) :
    TimerMachine.cancel m =
      (m', .ok (match cmds.getLast? with
        | some (.issueCancelCmd cmd) => [.issueNewCommand cmd.toCommand]
        | _ => [])) := by
  unfold TimerMachine.cancel
  rw [hev]
  dsimp only
  cases cmds.getLast? with
  | none => rfl
  | some c => cases c <;> rfl

/-- On the commands of a `Cancel` arm, that response is the adapter's on all of them. -/
theorem cancel_processMachineCommands (m : TimerMachine) {cmds : List TimerMachineCommand}
    (hcmds : cmds = [] ∨ ∃ a, cmds = [.issueCancelCmd a]) :
    machineDef.processMachineCommands m none cmds =
      .ok (match cmds.getLast? with
        | some (.issueCancelCmd cmd) => [.issueNewCommand cmd.toCommand]
        | _ => []) := by
  rcases hcmds with rfl | ⟨a, rfl⟩ <;> rfl

/-! ## One input, then a whole run -/

/-- A transition through `on_event` whose responses count as the adapter's keeps `Keeps` and
emits the drop of each potential. -/
theorem onEvent_pending {m m' : TimerMachine} {e : TimerMachineEvents}
    {cmds : List TimerMachineCommand} {r : List MachineResponse} (hm : Keeps m)
    (hev : onEvent transitions m e = (m', .ok cmds))
    (hr : r.countP isFire = (cmds.map (·.fires)).sum ∧
      r.countP isCancelTimer = (cmds.map (·.cancels)).sum) :
    Keeps m' ∧ r.countP isFire + m'.firePending = m.firePending ∧
      r.countP isCancelTimer + m'.cancelPending = m.cancelPending := by
  obtain ⟨-, hbefore⟩ := hm
  obtain ⟨s, s', sh', hs, ht, rfl⟩ := onEvent_eq_ok transitions hev
  have hbefore' : m.sharedState.cancelledBeforeSent = true → s = .canceled := by
    intro hb
    have hs' := hbefore hb
    rw [hs] at hs'
    exact Option.some.inj hs'
  obtain ⟨hk, hfire, hcancel⟩ := transitions_pending hbefore' ht
  refine ⟨⟨rfl, fun hb => by rw [hk hb]⟩, ?_, ?_⟩
  · rw [hr.1]
    simpa only [TimerMachine.firePending, hs, Option.map_some, Option.getD_some] using hfire
  · rw [hr.2]
    simpa only [TimerMachine.cancelPending, hs, Option.map_some, Option.getD_some] using hcancel

/-- The step lemma: every input the machine takes keeps `Keeps` and emits the drop of each
potential. -/
theorem step_pending {m m' : TimerMachine} {i : MachineInput} {r : List MachineResponse}
    (hm : Keeps m) (h : step m i = .ok (m', r)) :
    Keeps m' ∧ r.countP isFire + m'.firePending = m.firePending ∧
      r.countP isCancelTimer + m'.cancelPending = m.cancelPending := by
  cases i with
  | cancel reason =>
    have hc := machineDef.step_cancel_ok h
    rcases hev : onEvent transitions m .cancel with ⟨m₁, _ | cmds⟩
    · simp only [TimerMachine.cancel, hev, Prod.mk.injEq, reduceCtorEq, and_false] at hc
    · rw [TimerMachine.cancel_of_onEvent hev, Prod.mk.injEq, Except.ok.injEq] at hc
      obtain ⟨rfl, rfl⟩ := hc
      obtain ⟨_, _, _, -, ht, -⟩ := onEvent_eq_ok transitions hev
      -- the response of `cancel` is the adapter's on the arm's one command
      exact onEvent_pending hm hev
        (processMachineCommands_counts
          (cancel_processMachineCommands m₁ (cancel_commands_le_one ht)))
  | handleCommand commandType =>
    obtain ⟨e, c, -, hev, hp⟩ := machineDef.step_handleCommand_ok h
    exact onEvent_pending hm hev (processMachineCommands_counts hp)
  | handleEvent eventDat =>
    obtain ⟨e, c, eventInfo, -, hev, hp⟩ := machineDef.step_handleEvent_ok h
    exact onEvent_pending hm hev (processMachineCommands_counts hp)

/-- The run lemma: from any machine that `Keeps`, a successful run emits the drop of each
potential. -/
theorem run_pending (is : List MachineInput) {m m' : TimerMachine} {r : List MachineResponse}
    (hm : Keeps m) (h : Steps.run step m is = .ok (m', r)) :
    Keeps m' ∧ r.countP isFire + m'.firePending = m.firePending ∧
      r.countP isCancelTimer + m'.cancelPending = m.cancelPending := by
  obtain ⟨hk, hfire⟩ := Steps.run_countP_add step Keeps TimerMachine.firePending isFire
    (fun _ _ _ _ hs hstep => (step_pending hs hstep).imp_right And.left) is m m' r hm h
  obtain ⟨-, hcancel⟩ := Steps.run_countP_add step Keeps TimerMachine.cancelPending isCancelTimer
    (fun _ _ _ _ hs hstep => (step_pending hs hstep).imp_right And.right) is m m' r hm h
  exact ⟨hk, hfire, hcancel⟩

/-- `new_scheduled` leaves the machine in `StartCommandCreated`, with both outputs pending. -/
theorem newScheduled_keeps (attribs : StartTimer) :
    Keeps (TimerMachine.newScheduled attribs).1 ∧
      (TimerMachine.newScheduled attribs).1.firePending = 1 ∧
      (TimerMachine.newScheduled attribs).1.cancelPending = 1 :=
  ⟨⟨rfl, fun h => by cases h⟩, rfl, rfl⟩

/-- Over every run the scheduled timer machine accepts, lang is told the timer fired exactly
when the machine ends `Fired`, and at most one cancel command is issued: none for a fired
timer, and for a cancelled one exactly when it was not cancelled before its start was sent. -/
theorem run_fires (attribs : StartTimer) (is : List MachineInput) {m : TimerMachine}
    {r : List MachineResponse}
    (h : Steps.run step (TimerMachine.newScheduled attribs).1 is = .ok (m, r)) :
    r.countP isFire = (if m.state = some .fired then 1 else 0) ∧
      r.countP isCancelTimer ≤ 1 ∧
      (m.state = some .fired → r.countP isCancelTimer = 0) ∧
      (m.state = some .canceled →
        r.countP isCancelTimer = if m.wasCancelledBeforeSentToServer then 0 else 1) := by
  obtain ⟨hk₀, hf₀, hc₀⟩ := newScheduled_keeps attribs
  obtain ⟨⟨hsome, -⟩, hfire, hcancel⟩ := run_pending is hk₀ h
  rw [hf₀] at hfire
  rw [hc₀] at hcancel
  -- the counts are 1 minus the potentials of the state the run ends in
  obtain ⟨s, hs⟩ := Option.isSome_iff_exists.mp hsome
  simp only [TimerMachine.firePending, TimerMachine.cancelPending, hs, Option.map_some,
    Option.getD_some] at hfire hcancel
  refine ⟨?_, by omega, ?_, ?_⟩
  · rw [hs]
    cases s <;>
      simp only [Timer.firePending, Option.some.injEq, reduceCtorEq, reduceIte] at hfire ⊢ <;>
      omega
  · intro hf
    rw [hs, Option.some.injEq] at hf
    subst hf
    simp only [Timer.cancelPending] at hcancel
    omega
  · intro hc
    rw [hs, Option.some.injEq] at hc
    subst hc
    simp only [Timer.cancelPending, TimerMachine.wasCancelledBeforeSentToServer] at hcancel ⊢
    by_cases hcbs : m.sharedState.cancelledBeforeSent = true <;>
      simp only [hcbs, if_true, Bool.false_eq_true, if_false] at hcancel ⊢ <;> omega

/-- Timer 1 is started (event 5), cancelled by lang, its cancel command is sent, and its
cancellation is recorded (event 6). -/
def cancelledAfterStartInputs : List MachineInput :=
  [.handleCommand .startTimer, .handleEvent ⟨.plain 5 .timerStarted, false, true⟩, .cancel "",
   .handleCommand .cancelTimer, .handleEvent ⟨.plain 6 .timerCanceled, false, true⟩]

/-- That timer never fires, and one cancel command is issued for it. -/
theorem run_fires_cancelledAfterStart :
    ∃ m r, Steps.run step (TimerMachine.newScheduled ⟨1, none⟩).1 cancelledAfterStartInputs =
        .ok (m, r) ∧
      m.state = some .canceled ∧ m.wasCancelledBeforeSentToServer = false ∧
      r.countP isFire = 0 ∧ r.countP isCancelTimer = 1 := by
  -- the run ends in `Canceled`, cancelled after its start was sent, as evaluating it shows
  obtain ⟨⟨m, r⟩, hrun,
      hend : (m.state, m.wasCancelledBeforeSentToServer) = (some .canceled, false)⟩ :=
    Steps.map_eq_ok
      (show (Steps.run step (TimerMachine.newScheduled ⟨1, none⟩).1
          cancelledAfterStartInputs).map
            (fun x => (x.1.state, x.1.wasCancelledBeforeSentToServer)) =
        .ok (some .canceled, false) from rfl)
  simp only [Prod.mk.injEq] at hend
  obtain ⟨hfire, -, -, hcancel⟩ := run_fires _ _ hrun
  rw [hend.1, if_neg (by simp)] at hfire
  rw [hend.2, if_neg (by simp)] at hcancel
  exact ⟨m, r, hrun, hend.1, hend.2, hfire, hcancel hend.1⟩

end SdkCore.Timer
