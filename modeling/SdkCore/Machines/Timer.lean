import SdkCore.Machines.Basic

/-!
# The timer machine

`crates/sdk-core/src/worker/workflow/machines/timer_state_machine.rs`. A timer is scheduled
when lang starts it, recorded by `TimerStarted`, and then fired by `TimerFired` or cancelled;
a cancel before the start is recorded resolves it at once (`cancelled_before_sent`).

`StartCommandRecorded.onTimerFired` is the one handler that fails: a fired event for another
timer id is a nondeterminism error. Through `onEvent` that error leaves the machine without a
state (`onEvent_timerFired_other_id`), unlike an event with no arm, which leaves it as it was.
-/

namespace SdkCore.Timer

open Fsm

/-- `TimerMachineState`. -/
inductive TimerMachineState where
  | created | startCommandCreated | startCommandRecorded | cancelTimerCommandCreated
  | cancelTimerCommandSent | canceled | fired
  deriving Repr, DecidableEq

/-- `TimerMachineEvents`. -/
inductive TimerMachineEvents where
  | schedule
  | commandStartTimer
  | timerStarted (historyEventId : Int)
  | cancel
  | timerFired (attrs : TimerFiredEventAttributes)
  | commandCancelTimer
  | timerCanceled
  deriving Repr, DecidableEq

/-- `TimerMachineCommand`. -/
inductive TimerMachineCommand where
  | complete
  | issueCancelCmd (cmd : CommandAttributes)
  deriving Repr, DecidableEq

/-- The timer's `SharedState`. -/
structure SharedState where
  attrs : StartTimer
  cancelledBeforeSent : Bool
  deriving Repr, DecidableEq

/-- `TimerMachine`. -/
abbrev TimerMachine := StateMachine TimerMachineState SharedState

/-- A transition result of the timer machine. -/
abbrev TimerMachineTransition := TransitionResult TimerMachineState TimerMachineCommand WFMachinesError

/-! ## Handlers -/

/-- `Created::on_schedule`. -/
def Created.onSchedule : TimerMachineTransition := .default .startCommandCreated

/-- `StartCommandCreated::on_timer_started`. -/
def StartCommandCreated.onTimerStarted (_id : Int) : TimerMachineTransition :=
  .default .startCommandRecorded

/-- `StartCommandCreated::on_cancel`. -/
def StartCommandCreated.onCancel (dat : SharedState) : SharedState × TimerMachineTransition :=
  ({ dat with cancelledBeforeSent := true }, .default .canceled)

/-- `StartCommandRecorded::on_timer_fired`: the timer id must be the sequence number. -/
def StartCommandRecorded.onTimerFired (dat : SharedState) (attrs : TimerFiredEventAttributes) :
    SharedState × TimerMachineTransition :=
  if toString dat.attrs.seq = attrs.timerId then (dat, .ok [.complete] .fired)
  else
    (dat, .err (.nondeterminism ("Timer fired event did not have expected timer id " ++
      toString dat.attrs.seq ++ ", it was " ++ attrs.timerId ++ "!")))

/-- `StartCommandRecorded::on_cancel`. -/
def StartCommandRecorded.onCancel (dat : SharedState) : SharedState × TimerMachineTransition :=
  (dat, .ok [.issueCancelCmd (.cancelTimerCommandAttributes (toString dat.attrs.seq))]
    .cancelTimerCommandCreated)

/-- `CancelTimerCommandCreated::on_command_cancel_timer`. -/
def CancelTimerCommandCreated.onCommandCancelTimer : TimerMachineTransition :=
  .ok [] .cancelTimerCommandSent

/-- The `fsm!` table of the timer machine. -/
def transitions : Transitions TimerMachineState TimerMachineEvents SharedState TimerMachineCommand
    WFMachinesError
  | .created, .schedule, sh => some (sh, Created.onSchedule)
  | .startCommandCreated, .commandStartTimer, sh => some (sh, .default .startCommandCreated)
  | .startCommandCreated, .timerStarted id, sh => some (sh, StartCommandCreated.onTimerStarted id)
  | .startCommandCreated, .cancel, sh => some (StartCommandCreated.onCancel sh)
  | .startCommandRecorded, .timerFired attrs, sh =>
    some (StartCommandRecorded.onTimerFired sh attrs)
  | .startCommandRecorded, .cancel, sh => some (StartCommandRecorded.onCancel sh)
  | .cancelTimerCommandCreated, .cancel, sh => some (sh, .default .cancelTimerCommandCreated)
  | .cancelTimerCommandCreated, .commandCancelTimer, sh =>
    some (sh, CancelTimerCommandCreated.onCommandCancelTimer)
  | .cancelTimerCommandSent, .timerCanceled, sh => some (sh, .default .canceled)
  -- "Ignore any spurious cancellations after resolution"
  | .canceled, .cancel, sh => some (sh, .default .canceled)
  | .fired, .cancel, sh => some (sh, .default .fired)
  | _, _, _ => none

/-- The state names, as `Display` prints them. -/
def TimerMachineState.name : TimerMachineState → String
  | .created => "Created"
  | .startCommandCreated => "StartCommandCreated"
  | .startCommandRecorded => "StartCommandRecorded"
  | .cancelTimerCommandCreated => "CancelTimerCommandCreated"
  | .cancelTimerCommandSent => "CancelTimerCommandSent"
  | .canceled => "Canceled"
  | .fired => "Fired"

/-- `is_final`: every state of the timer has a transition leaving it. -/
def TimerMachineState.isFinal (_s : TimerMachineState) : Bool := false

/-! ## Conversions and the adapter -/

/-- `TryFrom<HistEventData> for TimerMachineEvents`. -/
def ofHistEvent (e : HistEventData) : Except WFMachinesError TimerMachineEvents :=
  let e := e.event
  match e.eventType with
  | .timerStarted => .ok (.timerStarted e.eventId)
  | .timerCanceled => .ok .timerCanceled
  | .timerFired =>
    match e.attributes with
    | some (.timerFiredEventAttributes attrs) => .ok (.timerFired attrs)
    | _ => .error (.fatal ("Timer fired attribs were unset: " ++ e.display))
  | _ => .error (.nondeterminism ("Timer machine does not handle this event: " ++ e.display))

/-- `TryFrom<CommandType> for TimerMachineEvents`. -/
def ofCommandType : CommandType → Option TimerMachineEvents
  | .startTimer => some .commandStartTimer
  | .cancelTimer => some .commandCancelTimer
  | _ => none

/-- `WFMachinesAdapter for TimerMachine`. -/
def adaptResponse (m : TimerMachine) (myCommand : TimerMachineCommand) (_eventInfo : Option EventInfo) :
    Except WFMachinesError (List MachineResponse) :=
  match myCommand with
  | .complete => .ok [.pushWFJob (.fireTimer m.sharedState.attrs.seq)]
  | .issueCancelCmd c => .ok [.issueNewCommand c.toCommand]

/-- The timer machine as a `TemporalStateMachine`. -/
def machineDef : MachineDef TimerMachineState TimerMachineEvents SharedState TimerMachineCommand :=
  { name := "TimerMachine", transitions, stateName := TimerMachineState.name, ofCommandType,
    ofHistEvent, adaptResponse }

/-! ## Machine methods -/

/-- `TimerMachine::new`. -/
def TimerMachine.new (attribs : StartTimer) : TimerMachine :=
  StateMachine.fromParts .created { attrs := attribs, cancelledBeforeSent := false }

/-- `TimerMachine::new_scheduled`: the machine after `Schedule` and its start command. -/
def TimerMachine.newScheduled (attribs : StartTimer) : TimerMachine × CommandAttributes :=
  let s := (onEvent transitions (TimerMachine.new attribs) .schedule).1
  (s, s.sharedState.attrs.toAttributes)

/-- `TimerMachine::cancel`: the last command of the `Cancel` transition, as a response. The
`panic!` arm for any other command is never reached: no `Cancel` arm yields `Complete`
(`cancel_commands_le_one`). -/
def TimerMachine.cancel (m : TimerMachine) :
    TimerMachine × Except (MachineError WFMachinesError) (List MachineResponse) :=
  match onEvent transitions m .cancel with
  | (m', .ok cmds) =>
    match cmds.getLast? with
    | some (.issueCancelCmd cmd) => (m', .ok [.issueNewCommand cmd.toCommand])
    | _ => (m', .ok [])
  | (m', .error e) => (m', .error e)

/-- `TimerMachine::was_cancelled_before_sent_to_server`. -/
def TimerMachine.wasCancelledBeforeSentToServer (m : TimerMachine) : Bool :=
  m.sharedState.cancelledBeforeSent

/-- One input to a timer machine, as `WorkflowMachines` delivers it. -/
def step (m : TimerMachine) (i : MachineInput) :
    Except WFMachinesError (TimerMachine × List MachineResponse) :=
  machineDef.step (fun _ => TimerMachine.cancel) m i

/-! ## The arms of the table -/

/-- A `Cancel` arm gives at most one command, the cancel command. -/
theorem cancel_commands_le_one {s s' : TimerMachineState} {sh sh' : SharedState}
    {cmds : List TimerMachineCommand} (h : transitions s .cancel sh = some (sh', .ok cmds s')) :
    cmds = [] ∨ ∃ a, cmds = [.issueCancelCmd a] := by
  cases s <;>
    simp only [transitions, StartCommandCreated.onCancel, StartCommandRecorded.onCancel,
      TransitionResult.default, reduceCtorEq, Option.some.injEq, Prod.mk.injEq,
      TransitionResult.ok.injEq] at h
  all_goals
    obtain ⟨-, rfl, -⟩ := h
    simp

/-- The one failing handler: a fired event for another timer. -/
theorem transitions_err {s : TimerMachineState} {e : TimerMachineEvents} {sh sh' : SharedState}
    {x : WFMachinesError} (h : transitions s e sh = some (sh', .err x)) :
    s = .startCommandRecorded ∧ sh' = sh ∧
      ∃ attrs, e = .timerFired attrs ∧ toString sh.attrs.seq ≠ attrs.timerId := by
  cases s <;> cases e <;>
    simp only [transitions, Created.onSchedule, StartCommandCreated.onTimerStarted,
      StartCommandCreated.onCancel, StartCommandRecorded.onCancel,
      CancelTimerCommandCreated.onCommandCancelTimer, TransitionResult.default, reduceCtorEq,
      Option.some.injEq, Prod.mk.injEq, and_false] at h
  case startCommandRecorded.timerFired attrs =>
    unfold StartCommandRecorded.onTimerFired at h
    split at h
    · simp at h
    · simp only [Prod.mk.injEq] at h
      exact ⟨rfl, h.1.symm, attrs, rfl, ‹_›⟩

/-! ## A fired event for another timer -/

/-- A timer with sequence number 1 whose start has been recorded. -/
def recordedTimerOne : TimerMachine :=
  ⟨some .startCommandRecorded, { attrs := ⟨1, none⟩, cancelledBeforeSent := false }⟩

/-- `TimerFired` for timer `"2"` on timer 1: `on_event` returns the handler's nondeterminism
error and leaves the machine with no state, so `state()` panics afterwards. -/
theorem onEvent_timerFired_other_id :
    onEvent transitions recordedTimerOne (.timerFired ⟨"2", 5⟩) =
      (⟨none, recordedTimerOne.sharedState⟩, .error (.underlying (.nondeterminism
        "Timer fired event did not have expected timer id 1, it was 2!"))) ∧
    (onEvent transitions recordedTimerOne (.timerFired ⟨"2", 5⟩)).1.getState =
      .error unwrapNonePanic :=
  ⟨rfl, rfl⟩

/-- Both error paths of `on_event` at timer 1: `TimerStarted` has no arm in
`StartCommandRecorded` and leaves the machine as it was; the fired event for timer `"2"` fails
in its handler and leaves no state behind. -/
theorem onEvent_error_path_recordedTimerOne :
    (onEvent transitions recordedTimerOne (.timerStarted 5)).2 = .error .invalidTransition ∧
    (onEvent transitions recordedTimerOne (.timerStarted 5)).1 = recordedTimerOne ∧
    (onEvent transitions recordedTimerOne (.timerFired ⟨"2", 5⟩)).2 = .error (.underlying
      (.nondeterminism "Timer fired event did not have expected timer id 1, it was 2!")) ∧
    (onEvent transitions recordedTimerOne (.timerFired ⟨"2", 5⟩)).1.getState =
      .error unwrapNonePanic :=
  have h := onEvent_error_path transitions .startCommandRecorded recordedTimerOne.sharedState
  ⟨rfl, (h (.timerStarted 5)).1 rfl, rfl, ((h (.timerFired ⟨"2", 5⟩)).2 _ rfl).2.1⟩

end SdkCore.Timer
