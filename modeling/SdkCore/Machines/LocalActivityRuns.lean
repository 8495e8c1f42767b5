import SdkCore.Machines.LocalActivityReplay
import SdkCore.Steps

/-!
# What a local activity tells lang over a run

A local activity machine takes, besides the commands and events `WorkflowMachines` gives every
machine, the results of its execution (`try_resolve`), a marker found ahead in history
(`try_resolve_with_dat`) and the start of a workflow task that is not replayed
(`encountered_non_replay_wft`). `step` is one such input.

`WaitingMarkerEvent` records a marker found ahead only in its `already_resolved` flag, which
`on_marker_recorded` reads. `on_started_non_replay_wft` does not read it: it moves to
`RequestSent` and asks for the activity to run, so a replayed activity whose marker was found
ahead is queued again after lang was resolved, and its result resolves lang a second time
(`run_peekThenNonReplay`).

`WorkflowMachines` does not deliver that order: it calls `encountered_non_replay_wft` from
`task_started` outside replay, after the `MarkerRecorded` of the sequence whose marker it found
ahead has moved the machine on (`deliveredRun`). Over the runs it delivers, with at most one
marker found ahead, lang is resolved at most once. The argument is a potential (`owed`): one
resolution until the activity is resolved. Every arm an input reaches emits the drop
(`transitions_owed`), a request only while lang is owed, and a `RecordMarker` only with a
resolution (`step_owed`); by induction over the run (`run_owed`), and from the three ways
`new_local_activity` starts, the responses hold one `ResolveActivity` at most, one
`RecordMarker` at most, and no `QueueLocalActivity` after the resolution
(`run_delivered_resolvesOnce`).
-/

namespace SdkCore.LocalActivity

open Fsm

/-! ## Inputs -/

/-- One input to a local activity machine. -/
inductive LocalActivityInput where
  | machine (i : MachineInput)
  | tryResolve (result : LocalActivityExecutionResult) (runtime : Duration) (attempt : Nat)
      (backoff : Option Duration) (originalScheduleTime : Option Timestamp)
  | tryResolveWithDat (dat : ResolveDat)
  | encounteredNonReplayWft

/-- A call that returns the machine and its responses, as one step. -/
def stepOf (r : LocalActivityMachine × Except WFMachinesError (List MachineResponse)) :
    Except WFMachinesError (LocalActivityMachine × List MachineResponse) :=
  match r with
  | (m', .ok rs) => .ok (m', rs)
  | (_, .error e) => .error e

/-- The machine's responses to one input. -/
def step (m : LocalActivityMachine) : LocalActivityInput →
    Except WFMachinesError (LocalActivityMachine × List MachineResponse)
  | .machine i => machineDef.step (fun _ => LocalActivityMachine.cancel) m i
  | .tryResolve result runtime attempt backoff originalScheduleTime =>
    stepOf (m.tryResolve result runtime attempt backoff originalScheduleTime)
  | .tryResolveWithDat dat => stepOf (m.tryResolveWithDat dat)
  | .encounteredNonReplayWft => stepOf m.encounteredNonReplayWft

/-! ## Kinds of responses -/

/-- A `ResolveActivity` job. -/
def isResolveActivity : MachineResponse → Bool
  | .pushWFJob (.resolveActivity _) => true
  | _ => false

/-- A `QueueLocalActivity` request. -/
def isQueue : MachineResponse → Bool
  | .queueLocalActivity _ => true
  | _ => false

/-- A `RecordMarker` command. -/
def isRecordMarker : MachineResponse → Bool
  | .issueNewCommand c => c.commandType == .recordMarker
  | _ => false

/-- The kinds of the responses a run is about, in order. -/
def kinds (r : List MachineResponse) : List (Bool × Bool × Bool) :=
  (r.filter fun x => isResolveActivity x || isQueue x || isRecordMarker x).map
    fun x => (isResolveActivity x, isQueue x, isRecordMarker x)

/-! ## A marker found ahead, then a task that is not replayed -/

/-- The completed result of the marker found ahead. -/
def peekedDat : ResolveDat :=
  { result := .completed none, completeTime := none, attempt := 1, backoff := none,
    originalScheduleTime := none }

/-- The marker is found ahead, the next workflow task is not replayed, and the activity, run
again, completes. -/
def peekThenNonReplayInputs : List LocalActivityInput :=
  [.tryResolveWithDat peekedDat, .encounteredNonReplayWft,
   .tryResolve (.completed none) ⟨0, 0⟩ 1 none none]

/-- The replayed `echo` activity is resolved from the marker found ahead, queued again, and
resolved again by its result, which a marker then records. -/
theorem run_peekThenNonReplay :
    ∃ m₀, newLocalActivity echoAttrs true none none (.enabled [] []) ⟨0, 0⟩ = .ok (m₀, []) ∧
      (Steps.run step m₀ peekThenNonReplayInputs).map (fun x => kinds x.2) =
        .ok [(true, false, false), (false, true, false), (true, false, false),
          (false, false, true)] :=
  ⟨_, newLocalActivity_replaying echoAttrs none (.enabled [] []) ⟨0, 0⟩, rfl⟩

/-! ## The orders `WorkflowMachines` delivers -/

/-- A marker found ahead. -/
def LocalActivityInput.isPeek : LocalActivityInput → Bool
  | .tryResolveWithDat _ => true
  | _ => false

/-- Whether `WorkflowMachines` hands a machine in its state the input. It calls
`encountered_non_replay_wft` only from `task_started` outside replay, and by then the
`MarkerRecorded` of the sequence whose marker it found ahead has moved the machine out of
`WaitingMarkerEvent`: a machine resolved from a marker found ahead is not told of a task that is
not replayed. Every other input may come in any state. -/
def delivered (m : LocalActivityMachine) : LocalActivityInput → Bool
  | .encounteredNonReplayWft => m.state != some (.waitingMarkerEvent true)
  | _ => true

/-- Inputs each of which `WorkflowMachines` delivers in the state the ones before it reach. -/
def deliveredRun : LocalActivityMachine → List LocalActivityInput → Bool
  | _, [] => true
  | m, i :: is =>
    delivered m i &&
      match step m i with
      | .ok (t, _) => deliveredRun t is
      | .error _ => true

/-! ## What lang is still owed -/

/-- The resolutions lang is still owed in a state: one until the activity is resolved, from the
execution, a cancel, its marker or a marker found ahead. -/
def owed : LocalActivityMachineState → Nat
  | .executing | .replaying | .replayingPreResolved _ | .requestSent | .waitingMarkerEvent false => 1
  | .markerCommandCreated _ | .resultNotified _ | .markerCommandRecorded | .waitingMarkerEvent true
  | .waitingMarkerEventPreResolved => 0

/-- The resolutions a machine is owed; none once it holds no state. -/
def LocalActivityMachine.owed (m : LocalActivityMachine) : Nat :=
  (m.state.map LocalActivity.owed).getD 0

theorem owed_le_one (s : LocalActivityMachineState) : owed s ≤ 1 := by
  cases s with
  | waitingMarkerEvent r => cases r <;> simp [owed]
  | _ => simp [owed]

theorem LocalActivityMachine.owed_le_one (m : LocalActivityMachine) : m.owed ≤ 1 := by
  unfold LocalActivityMachine.owed
  cases m.state <;> simp [LocalActivity.owed_le_one]

/-- The `ResolveActivity` jobs a command becomes. -/
def LocalActivityCommand.resolves : LocalActivityCommand → Nat
  | .resolved _ => 1
  | _ => 0

/-- The `QueueLocalActivity` requests a command becomes. -/
def LocalActivityCommand.requests : LocalActivityCommand → Nat
  | .requestActivityExecution _ => 1
  | _ => 0

/-- The `RecordMarker` commands a command becomes: one for a resolution outside replay. -/
def LocalActivityCommand.markers (shared : SharedState) : LocalActivityCommand → Nat
  | .resolved _ => if shared.replayingWhenInvoked then 0 else 1
  | _ => 0

theorem LocalActivityCommand.markers_le_resolves (shared : SharedState) (c : LocalActivityCommand) :
    c.markers shared ≤ c.resolves := by
  cases c with
  | resolved dat => simp only [markers, resolves]; split <;> simp
  | _ => simp [markers, resolves]

/-- What the adapter makes of one command, kind by kind. -/
theorem adaptResponse_counts {m : LocalActivityMachine} {c : LocalActivityCommand}
    {eventInfo : Option EventInfo} {r : List MachineResponse}
    (h : adaptResponse m c eventInfo = .ok r) :
    r.countP isResolveActivity = c.resolves ∧ r.countP isQueue = c.requests ∧
      r.countP isRecordMarker = c.markers m.sharedState := by
  cases c with
  | resolved dat =>
    simp only [adaptResponse, Except.ok.injEq] at h
    subst h
    -- the abandon and the marker responses are neither jobs nor requests
    refine ⟨?_, ?_, ?_⟩ <;> split_ifs <;>
      simp_all [List.countP_cons, isResolveActivity, isQueue, isRecordMarker, resolveActivityJob,
        recordMarkerCommand, CommandAttributes.toCommand, CommandAttributes.commandType,
        LocalActivityCommand.resolves, LocalActivityCommand.requests, LocalActivityCommand.markers]
  | _ =>
    simp only [adaptResponse, Except.ok.injEq] at h
    subst h
    simp [isResolveActivity, isQueue, isRecordMarker, LocalActivityCommand.resolves,
      LocalActivityCommand.requests, LocalActivityCommand.markers]

/-- The responses `adapt_all` makes of commands hold, of a kind, the sum over the commands. -/
theorem adaptAll_countP (p : MachineResponse → Bool) (count : LocalActivityCommand → Nat)
    {m : LocalActivityMachine}
    (hadapt : ∀ c r, adaptResponse m c none = .ok r → r.countP p = count c) :
    ∀ cmds : List LocalActivityCommand, (adaptAll m cmds).countP p = (cmds.map count).sum := by
  intro cmds
  induction cmds with
  | nil => rfl
  | cons c cs ih =>
    obtain ⟨r, hr⟩ := adaptResponse_ok m c none
    simp only [adaptAll, List.flatMap_cons, List.countP_append, List.map_cons, List.sum_cons] at ih ⊢
    rw [hr, hadapt c r hr, ih]

/-! ## One arm -/

theorem verifyMarkerDat_ok {sh sh' : SharedState} {dat : CompleteLocalActivityData}
    {t : LocalActivityMachineTransition} {cmds : List LocalActivityCommand}
    {s' : LocalActivityMachineState} (h : verifyMarkerDat sh dat t = (sh', .ok cmds s')) :
    t = .ok cmds s' := by
  unfold verifyMarkerDat at h
  split at h
  · simp at h
  · exact (Prod.mk.inj h).2

/-- A marker that agrees with how the activity ended changes nothing but the state. -/
theorem ResultNotified.onMarkerRecorded_ok {rt : ResultType} {sh sh' : SharedState}
    {dat : CompleteLocalActivityData} {cmds : List LocalActivityCommand}
    {s' : LocalActivityMachineState}
    (h : ResultNotified.onMarkerRecorded rt sh dat = (sh', .ok cmds s')) :
    cmds = [] ∧ s' = .markerCommandRecorded := by
  unfold ResultNotified.onMarkerRecorded at h
  split at h
  · simp at h
  · simp at h
  · cases verifyMarkerDat_ok h
    exact ⟨rfl, rfl⟩

/-- The marker resolves lang unless data found ahead already did. -/
theorem WaitingMarkerEvent.onMarkerRecorded_ok {r : Bool} {sh sh' : SharedState}
    {dat : CompleteLocalActivityData} {cmds : List LocalActivityCommand}
    {s' : LocalActivityMachineState}
    (h : WaitingMarkerEvent.onMarkerRecorded r sh dat = (sh', .ok cmds s')) :
    cmds = (if r then [] else [.resolved (ResolveDat.ofComplete dat)]) ∧
      s' = .markerCommandRecorded := by
  cases verifyMarkerDat_ok h
  exact ⟨rfl, rfl⟩

theorem WaitingMarkerEventPreResolved.onMarkerRecorded_ok {sh sh' : SharedState}
    {dat : CompleteLocalActivityData} {cmds : List LocalActivityCommand}
    {s' : LocalActivityMachineState}
    (h : WaitingMarkerEventPreResolved.onMarkerRecorded sh dat = (sh', .ok cmds s')) :
    cmds = [] ∧ s' = .markerCommandRecorded := by
  cases verifyMarkerDat_ok h
  exact ⟨rfl, rfl⟩

/-- Every arm an input reaches emits the drop of the potential. An arm that asks for the activity
to run is taken only while lang is owed, and resolves nothing; only a marker found ahead leads
into `WaitingMarkerEvent` with `already_resolved` set. No input schedules, and a second marker
found ahead and a task that is not replayed after one are the cases the hypotheses leave out. -/
theorem transitions_owed {s s' : LocalActivityMachineState} {e : LocalActivityMachineEvents}
    {sh sh' : SharedState} {cmds : List LocalActivityCommand} (hsched : e ≠ .schedule)
    (hpeek : ∀ dat, e = .handleKnownResult dat → s ≠ .waitingMarkerEvent true)
    (hnr : e = .startedNonReplayWFT → s ≠ .waitingMarkerEvent true)
    (h : transitions s e sh = some (sh', .ok cmds s')) :
    (cmds.map (·.resolves)).sum + owed s' ≤ owed s ∧
      (0 < (cmds.map (·.requests)).sum → owed s = 1 ∧ (cmds.map (·.resolves)).sum = 0) ∧
      (s' = .waitingMarkerEvent true →
        (∃ dat, e = .handleKnownResult dat) ∨ s = .waitingMarkerEvent true) := by
  rcases s with _ | _ | _ | _ | _ | _ | _ | ⟨_ | _⟩ | _ <;> cases e <;>
    simp only [transitions, reduceCtorEq, Option.some.injEq] at h
  -- no input schedules
  case executing.schedule | replaying.schedule | replayingPreResolved.schedule =>
    exact absurd rfl hsched
  case waitingMarkerEvent.true.handleKnownResult dat => exact absurd rfl (hpeek dat rfl)
  case waitingMarkerEvent.true.startedNonReplayWFT => exact absurd rfl (hnr rfl)
  -- the arms that read a marker
  case resultNotified.markerRecorded rt dat | waitingMarkerEventPreResolved.markerRecorded dat =>
    first
    | obtain ⟨rfl, rfl⟩ := ResultNotified.onMarkerRecorded_ok h
    | obtain ⟨rfl, rfl⟩ := WaitingMarkerEventPreResolved.onMarkerRecorded_ok h
    simp [owed]
  case waitingMarkerEvent.false.markerRecorded dat | waitingMarkerEvent.true.markerRecorded dat =>
    obtain ⟨rfl, rfl⟩ := WaitingMarkerEvent.onMarkerRecorded_ok h
    simp [owed, LocalActivityCommand.resolves, LocalActivityCommand.requests]
  -- a cancel that does not wait resolves from `RequestSent`
  case requestSent.noWaitCancel ct =>
    simp only [RequestSent.onNoWaitCancel, Prod.mk.injEq, TransitionResult.ok.injEq] at h
    obtain ⟨-, rfl, rfl⟩ := h
    split_ifs <;> simp [owed, LocalActivityCommand.resolves, LocalActivityCommand.requests]
  case markerCommandRecorded.noWaitCancel ct =>
    simp only [MarkerCommandRecorded.onNoWaitCancel] at h
    split_ifs at h <;>
      simp only [TransitionResult.default, Prod.mk.injEq, TransitionResult.ok.injEq] at h <;>
      obtain ⟨-, rfl, rfl⟩ := h <;>
      simp [owed, LocalActivityCommand.resolves, LocalActivityCommand.requests]
  all_goals
    simp only [RequestSent.onHandleResult, RequestSent.onCancelRequested,
      MarkerCommandCreated.onCommandRecordMarker, WaitingMarkerEvent.onHandleResult,
      WaitingMarkerEvent.onStartedNonReplayWft, WaitingMarkerEvent.onCancelRequested,
      MarkerCommandRecorded.onCancelRequested, TransitionResult.default, Prod.mk.injEq,
      TransitionResult.ok.injEq] at h
    obtain ⟨-, rfl, rfl⟩ := h
    simp [owed, LocalActivityCommand.resolves, LocalActivityCommand.requests]

/-! ## One input, then a whole run -/

/-- What a delivered run keeps, given how many markers were found ahead so far: the machine holds
a state, and it waits for its marker with `already_resolved` set only once one was. -/
structure Keeps (peeks : Nat) (m : LocalActivityMachine) : Prop where
  hasState : m.state.isSome
  peeked : m.state = some (.waitingMarkerEvent true) → 1 ≤ peeks

/-- A transition through `on_event`, in terms of the machine's potential. -/
theorem onEvent_owed {m m' : LocalActivityMachine} {e : LocalActivityMachineEvents}
    {cmds : List LocalActivityCommand} (hsched : e ≠ .schedule)
    (hpeek : ∀ dat, e = .handleKnownResult dat → m.state ≠ some (.waitingMarkerEvent true))
    (hnr : e = .startedNonReplayWFT → m.state ≠ some (.waitingMarkerEvent true))
    (h : onEvent transitions m e = (m', .ok cmds)) :
    m'.state.isSome ∧ (cmds.map (·.resolves)).sum + m'.owed ≤ m.owed ∧
      (0 < (cmds.map (·.requests)).sum → m.owed = 1 ∧ (cmds.map (·.resolves)).sum = 0) ∧
      (m'.state = some (.waitingMarkerEvent true) →
        (∃ dat, e = .handleKnownResult dat) ∨ m.state = some (.waitingMarkerEvent true)) := by
  obtain ⟨s, s', sh', hs, ht, rfl⟩ := onEvent_eq_ok transitions h
  have hne : ∀ x, m.state ≠ some x → s ≠ x := fun x hx hsx => hx (hsx ▸ hs)
  obtain ⟨hsum, hq, hw⟩ := transitions_owed hsched (fun dat hd => hne _ (hpeek dat hd))
    (fun hd => hne _ (hnr hd)) ht
  simp only [LocalActivityMachine.owed, hs, Option.map_some, Option.getD_some, Option.isSome_some,
    Option.some.injEq, true_and]
  exact ⟨hsum, hq, hw⟩

/-- The responses to the commands of a transition, kind by kind, against the potential. -/
theorem responses_owed {m m' : LocalActivityMachine} {cmds : List LocalActivityCommand}
    {r : List MachineResponse}
    (hres : r.countP isResolveActivity = (cmds.map (·.resolves)).sum)
    (hreq : r.countP isQueue = (cmds.map (·.requests)).sum)
    (hmark : r.countP isRecordMarker = (cmds.map (·.markers m'.sharedState)).sum)
    (hsum : (cmds.map (·.resolves)).sum + m'.owed ≤ m.owed)
    (hq : 0 < (cmds.map (·.requests)).sum → m.owed = 1 ∧ (cmds.map (·.resolves)).sum = 0) :
    r.countP isResolveActivity + m'.owed ≤ m.owed ∧
      r.countP isRecordMarker ≤ r.countP isResolveActivity ∧
      (0 < r.countP isQueue → m.owed = 1 ∧ r.countP isResolveActivity = 0) := by
  have hle : (cmds.map (·.markers m'.sharedState)).sum ≤ (cmds.map (·.resolves)).sum :=
    List.sum_le_sum fun c _ => c.markers_le_resolves m'.sharedState
  refine ⟨hres ▸ hsum, hmark ▸ hres ▸ hle, fun hpos => ?_⟩
  rw [hres]
  exact hq (hreq ▸ hpos)

/-- `adapt_all` counts its commands' responses. -/
theorem adaptAll_counts (m : LocalActivityMachine) (cmds : List LocalActivityCommand) :
    (adaptAll m cmds).countP isResolveActivity = (cmds.map (·.resolves)).sum ∧
      (adaptAll m cmds).countP isQueue = (cmds.map (·.requests)).sum ∧
      (adaptAll m cmds).countP isRecordMarker = (cmds.map (·.markers m.sharedState)).sum :=
  ⟨adaptAll_countP _ _ (fun _ _ h => (adaptResponse_counts h).1) cmds,
    adaptAll_countP _ _ (fun _ _ h => (adaptResponse_counts h).2.1) cmds,
    adaptAll_countP _ _ (fun _ _ h => (adaptResponse_counts h).2.2) cmds⟩

/-- `process_machine_commands` counts its commands' responses. -/
theorem processMachineCommands_counts {m : LocalActivityMachine} {eventInfo : Option EventInfo}
    {cmds : List LocalActivityCommand} {r : List MachineResponse}
    (h : machineDef.processMachineCommands m eventInfo cmds = .ok r) :
    r.countP isResolveActivity = (cmds.map (·.resolves)).sum ∧
      r.countP isQueue = (cmds.map (·.requests)).sum ∧
      r.countP isRecordMarker = (cmds.map (·.markers m.sharedState)).sum :=
  ⟨machineDef.processMachineCommands_countP _ _
      (fun _ _ h' => (@adaptResponse_counts _ _ eventInfo _ h').1) h,
    machineDef.processMachineCommands_countP _ _
      (fun _ _ h' => (@adaptResponse_counts _ _ eventInfo _ h').2.1) h,
    machineDef.processMachineCommands_countP _ _
      (fun _ _ h' => (@adaptResponse_counts _ _ eventInfo _ h').2.2) h⟩

theorem stepOf_eq_ok {r : LocalActivityMachine × Except WFMachinesError (List MachineResponse)}
    {t : LocalActivityMachine} {o : List MachineResponse} (h : stepOf r = .ok (t, o)) :
    r = (t, .ok o) := by
  rcases r with ⟨m', _ | rs⟩ <;> simp only [stepOf, reduceCtorEq, Except.ok.injEq, Prod.mk.injEq] at h
  obtain ⟨rfl, rfl⟩ := h
  rfl

/-- `_try_resolve` took the result: the transition, and its commands adapted. -/
theorem tryResolveDat_ok {m t : LocalActivityMachine} {dat : ResolveDat} {fromMarker : Bool}
    {o : List MachineResponse} (h : m.tryResolveDat dat fromMarker = (t, .ok o)) :
    ∃ cmds, onEvent transitions m
        (if fromMarker then .handleKnownResult dat else .handleResult dat) = (t, .ok cmds) ∧
      o = adaptAll t cmds := by
  rcases hev : onEvent transitions m
      (if fromMarker then .handleKnownResult dat else .handleResult dat) with ⟨m', e | cmds⟩
  · cases e <;> simp [LocalActivityMachine.tryResolveDat, hev] at h
  · simp only [LocalActivityMachine.tryResolveDat, hev, Prod.mk.injEq, Except.ok.injEq] at h
    obtain ⟨rfl, rfl⟩ := h
    exact ⟨cmds, rfl, rfl⟩

/-- A transition whose commands are all adapted, as `cancel` adapts them. -/
theorem adaptOnEvent_ok {m t : LocalActivityMachine} {e : LocalActivityMachineEvents}
    {o : List MachineResponse}
    (h : (match onEvent transitions m e with
      | (m', .ok cmds) => (m', .ok (adaptAll m' cmds))
      | (m', .error err) => (m', .error err)) = (t, Except.ok (ε := MachineError WFMachinesError) o)) :
    ∃ cmds, onEvent transitions m e = (t, .ok cmds) ∧ o = adaptAll t cmds := by
  rcases hev : onEvent transitions m e with ⟨m', err | cmds⟩ <;> rw [hev] at h
  · simp at h
  · simp only [Prod.mk.injEq, Except.ok.injEq] at h
    obtain ⟨rfl, rfl⟩ := h
    exact ⟨cmds, rfl, rfl⟩

/-- `cancel` took the cancellation: the event it sends, the transition, and its commands
adapted. -/
theorem cancel_ok {m t : LocalActivityMachine} {o : List MachineResponse}
    (h : LocalActivityMachine.cancel m = (t, .ok o)) :
    ∃ e cmds, (e = .cancel ∨ ∃ ct, e = .noWaitCancel ct) ∧
      onEvent transitions m e = (t, .ok cmds) ∧ o = adaptAll t cmds := by
  unfold LocalActivityMachine.cancel at h
  cases hct : m.sharedState.attrs.cancellationType <;> simp only [hct] at h <;>
    obtain ⟨cmds, hev, ho⟩ := adaptOnEvent_ok h
  · exact ⟨_, cmds, .inr ⟨_, rfl⟩, hev, ho⟩
  · exact ⟨_, cmds, .inl rfl, hev, ho⟩
  · exact ⟨_, cmds, .inr ⟨_, rfl⟩, hev, ho⟩

/-- A task that is not replayed, told to a machine waiting for its marker: the one request. -/
theorem encounteredNonReplayWft_ok {m t : LocalActivityMachine} {o : List MachineResponse}
    (h : m.encounteredNonReplayWft = (t, .ok o)) :
    (t = m ∧ o = []) ∨ ∃ cmds, onEvent transitions m .startedNonReplayWFT = (t, .ok cmds) ∧
      o = adaptAll t cmds := by
  unfold LocalActivityMachine.encounteredNonReplayWft at h
  split at h
  · right
    split at h
    · rename_i cmds hev
      simp only [Prod.mk.injEq, Except.ok.injEq] at h
      obtain ⟨rfl, rfl⟩ := h
      -- the arm gives one command, so adapting the last is adapting all
      obtain ⟨s, s', sh', -, ht, -⟩ := onEvent_eq_ok transitions hev
      cases s <;> simp only [transitions, reduceCtorEq, WaitingMarkerEvent.onStartedNonReplayWft,
        Option.some.injEq, Prod.mk.injEq, TransitionResult.ok.injEq] at ht
      obtain ⟨-, rfl, -⟩ := ht
      exact ⟨_, hev, rfl⟩
    all_goals simp at h
  · simp only [Prod.mk.injEq, Except.ok.injEq] at h
    exact .inl ⟨h.1.symm, h.2.symm⟩

theorem ofCommandType_eq_some {ct : CommandType} {e : LocalActivityMachineEvents}
    (h : ofCommandType ct = some e) : e = .commandRecordMarker := by
  cases ct <;> simp only [ofCommandType, reduceCtorEq, Option.some.injEq] at h
  exact h.symm

theorem ofHistEvent_eq_ok {ed : HistEventData} {e : LocalActivityMachineEvents}
    (h : ofHistEvent ed = .ok e) : ∃ dat, e = .markerRecorded dat := by
  simp only [ofHistEvent] at h
  split_ifs at h
  cases hd : intoLocalActivityMarkerDetails ed.event with
  | none => simp [hd] at h
  | some dat =>
    simp only [hd, Except.ok.injEq] at h
    exact ⟨dat, h.symm⟩

/-- A transition that does not read a marker found ahead, with its commands' responses: it keeps
`Keeps` for any count of markers found ahead past the ones before, and emits the drop of the
potential. -/
theorem owed_of_onEvent {n b : Nat} {m t : LocalActivityMachine} {e : LocalActivityMachineEvents}
    {cmds : List LocalActivityCommand} {o : List MachineResponse} (hm : Keeps n m)
    (hsched : e ≠ .schedule)
    (hpeek : ∀ dat, e = .handleKnownResult dat → m.state ≠ some (.waitingMarkerEvent true) ∧ 1 ≤ b)
    (hnr : e = .startedNonReplayWFT → m.state ≠ some (.waitingMarkerEvent true))
    (hev : onEvent transitions m e = (t, .ok cmds))
    (hcounts : o.countP isResolveActivity = (cmds.map (·.resolves)).sum ∧
      o.countP isQueue = (cmds.map (·.requests)).sum ∧
      o.countP isRecordMarker = (cmds.map (·.markers t.sharedState)).sum) :
    Keeps (n + b) t ∧ o.countP isResolveActivity + t.owed ≤ m.owed ∧
      o.countP isRecordMarker ≤ o.countP isResolveActivity ∧
      (0 < o.countP isQueue → m.owed = 1 ∧ o.countP isResolveActivity = 0) := by
  obtain ⟨hsome, hsum, hq, hw⟩ := onEvent_owed hsched (fun dat hd => (hpeek dat hd).1) hnr hev
  refine ⟨⟨hsome, fun ht => ?_⟩, responses_owed hcounts.1 hcounts.2.1 hcounts.2.2 hsum hq⟩
  -- `already_resolved` is set by a marker found ahead, or was set before
  rcases hw ht with ⟨dat, hd⟩ | hs
  · have := (hpeek dat hd).2
    omega
  · have := hm.peeked hs
    omega

/-- The step lemma: an input `WorkflowMachines` delivers, while no marker was found ahead if it
is one, emits the drop of the potential, at most as many `RecordMarker` commands as
`ResolveActivity` jobs, and a `QueueLocalActivity` only while lang is owed and with no
resolution. -/
theorem step_owed {n : Nat} {m t : LocalActivityMachine} {i : LocalActivityInput}
    {o : List MachineResponse} (hm : Keeps n m) (hpeek : i.isPeek → n = 0)
    (hdel : delivered m i) (h : step m i = .ok (t, o)) :
    Keeps (n + if i.isPeek then 1 else 0) t ∧ o.countP isResolveActivity + t.owed ≤ m.owed ∧
      o.countP isRecordMarker ≤ o.countP isResolveActivity ∧
      (0 < o.countP isQueue → m.owed = 1 ∧ o.countP isResolveActivity = 0) := by
  cases i with
  | machine i =>
    change machineDef.step (fun _ => LocalActivityMachine.cancel) m i = .ok (t, o) at h
    cases i with
    | cancel reason =>
      obtain ⟨e, cmds, he, hev, rfl⟩ := cancel_ok (machineDef.step_cancel_ok h)
      rcases he with rfl | ⟨ct, rfl⟩ <;>
        exact owed_of_onEvent hm (by simp) (by simp) (by simp) hev (adaptAll_counts t cmds)
    | handleCommand ct =>
      obtain ⟨e, cmds, hconv, hev, hp⟩ := machineDef.step_handleCommand_ok h
      cases ofCommandType_eq_some hconv
      exact owed_of_onEvent hm (by simp) (by simp) (by simp) hev (processMachineCommands_counts hp)
    | handleEvent ed =>
      obtain ⟨e, cmds, eventInfo, hconv, hev, hp⟩ := machineDef.step_handleEvent_ok h
      obtain ⟨dat, rfl⟩ := ofHistEvent_eq_ok hconv
      exact owed_of_onEvent hm (by simp) (by simp) (by simp) hev (processMachineCommands_counts hp)
  | tryResolve result runtime attempt backoff originalScheduleTime =>
    obtain ⟨cmds, hev, rfl⟩ := tryResolveDat_ok (stepOf_eq_ok h)
    exact owed_of_onEvent hm (by simp) (by simp) (by simp) hev (adaptAll_counts t cmds)
  | tryResolveWithDat dat =>
    -- the first marker found ahead: the machine cannot have set `already_resolved` yet
    obtain ⟨cmds, hev, rfl⟩ := tryResolveDat_ok (stepOf_eq_ok h)
    have hn : n = 0 := hpeek rfl
    have hw : m.state ≠ some (.waitingMarkerEvent true) := fun hs => by
      have := hm.peeked hs
      omega
    exact owed_of_onEvent hm (by simp) (fun _ _ => ⟨hw, by simp [LocalActivityInput.isPeek]⟩)
      (by simp) hev (adaptAll_counts t cmds)
  | encounteredNonReplayWft =>
    rcases encounteredNonReplayWft_ok (stepOf_eq_ok h) with ⟨rfl, rfl⟩ | ⟨cmds, hev, rfl⟩
    · exact ⟨by simpa [LocalActivityInput.isPeek] using hm, by simp, by simp, by simp⟩
    · -- delivered: the machine was not resolved from a marker found ahead
      have hw : m.state ≠ some (.waitingMarkerEvent true) := by simpa [delivered] using hdel
      exact owed_of_onEvent hm (by simp) (by simp) (fun _ => hw) hev (adaptAll_counts t cmds)

/-- No `QueueLocalActivity` from the first `ResolveActivity` on. -/
def QueueFirst (os : List MachineResponse) : Prop :=
  (os.dropWhile fun x => !isResolveActivity x).countP isQueue = 0

/-- Responses with no resolution, or with no request, before ones that are `QueueFirst` and
hold a request only while no resolution came before. -/
theorem queueFirst_append {o os : List MachineResponse}
    (ho : 0 < o.countP isQueue → o.countP isResolveActivity = 0)
    (hos : 0 < os.countP isQueue → o.countP isResolveActivity = 0) (h : QueueFirst os) :
    QueueFirst (o ++ os) := by
  unfold QueueFirst at h ⊢
  by_cases hr : o.countP isResolveActivity = 0
  · -- no resolution in `o`: it is dropped whole
    have hnil : o.dropWhile (fun x => !isResolveActivity x) = [] :=
      List.dropWhile_eq_nil_iff.2 fun x hx => by
        simpa using List.countP_eq_zero.1 hr x hx
    rw [List.dropWhile_append, hnil]
    exact h
  · -- a resolution in `o`: no request in `o` or after it
    have h₁ : o.countP isQueue = 0 := by
      by_contra hq
      exact hr (ho (Nat.pos_of_ne_zero hq))
    have h₂ : os.countP isQueue = 0 := by
      by_contra hq
      exact hr (hos (Nat.pos_of_ne_zero hq))
    have hle := (List.dropWhile_suffix (fun x => !isResolveActivity x) (l := o ++ os)).countP_le
      (p := isQueue)
    rw [List.countP_append, h₁, h₂] at hle
    omega

/-- The run lemma: over a run `WorkflowMachines` delivers, with at most one marker found ahead in
all, the responses hold the drop of the potential in resolutions, no more `RecordMarker`
commands than resolutions, and no request after a resolution; a request comes only from a machine
that still owes lang. -/
theorem run_owed : ∀ (is : List LocalActivityInput) {n : Nat} {m u : LocalActivityMachine}
    {os : List MachineResponse}, Keeps n m → n + is.countP (·.isPeek) ≤ 1 →
    deliveredRun m is = true → Steps.run step m is = .ok (u, os) →
    os.countP isResolveActivity + u.owed ≤ m.owed ∧
      os.countP isRecordMarker ≤ os.countP isResolveActivity ∧ QueueFirst os ∧
      (0 < os.countP isQueue → m.owed = 1) := by
  intro is
  induction is with
  | nil =>
    intro n m u os _ _ _ h
    simp only [Steps.run_nil, Except.ok.injEq, Prod.mk.injEq] at h
    obtain ⟨rfl, rfl⟩ := h
    simp [QueueFirst]
  | cons i is ih =>
    intro n m u os hm hn hdel h
    obtain ⟨t, o, os', hi, hrun, rfl⟩ := Steps.run_cons_ok step h
    simp only [deliveredRun, hi, Bool.and_eq_true] at hdel
    have hpeek : i.isPeek → n = 0 := fun hp => by
      simp only [List.countP_cons, hp, if_true] at hn
      omega
    obtain ⟨ht, hsum, hmark, hq⟩ := step_owed hm hpeek hdel.1 hi
    have hn' : n + (if i.isPeek then 1 else 0) + is.countP (·.isPeek) ≤ 1 := by
      simp only [List.countP_cons] at hn
      omega
    obtain ⟨hsum', hmark', hqf', hq'⟩ := ih ht hn' hdel.2 hrun
    have hle := m.owed_le_one
    -- a request later on comes from a machine that still owes, so this step resolved nothing
    have hlater : 0 < os'.countP isQueue → o.countP isResolveActivity = 0 ∧ m.owed = 1 := by
      intro hpos
      have := hq' hpos
      omega
    refine ⟨?_, ?_, queueFirst_append (fun hpos => (hq hpos).2) (fun hpos => (hlater hpos).1) hqf',
      fun hpos => ?_⟩
    · rw [List.countP_append]
      omega
    · rw [List.countP_append, List.countP_append]
      omega
    · rw [List.countP_append] at hpos
      by_cases ho : 0 < o.countP isQueue
      · exact (hq ho).1
      · exact (hlater (by omega)).2

/-! ## Delivered runs resolve lang once -/

/-- In replay with data found ahead, lang is resolved at schedule, from the resolution alone. -/
theorem newLocalActivity_preResolved_eq (attrs : ValidScheduleLA) (dat : ResolveDat)
    (wfTime : Option Timestamp) (internalFlags : InternalFlags) (now : Timestamp) :
    newLocalActivity attrs true (some dat) wfTime internalFlags now =
      .ok (⟨some .waitingMarkerEventPreResolved, initialShared attrs true wfTime internalFlags now⟩,
        adaptAll ⟨some .waitingMarkerEventPreResolved,
          initialShared attrs true wfTime internalFlags now⟩ [.resolved dat]) :=
  rfl

/-- A local activity machine, however `new_local_activity` made it, resolves lang at most once
over every run `WorkflowMachines` delivers with at most one marker found ahead: its responses,
those of the schedule included, hold at most one `ResolveActivity` job and one `RecordMarker`
command, and no `QueueLocalActivity` after the resolution. -/
theorem run_delivered_resolvesOnce (attrs : ValidScheduleLA) (replayingWhenInvoked : Bool)
    (maybePreResolved : Option ResolveDat) (wfTime : Option Timestamp)
    (internalFlags : InternalFlags) (now : Timestamp) {m₀ u : LocalActivityMachine}
    {os₀ os : List MachineResponse}
    (hnew : newLocalActivity attrs replayingWhenInvoked maybePreResolved wfTime internalFlags now =
      .ok (m₀, os₀))
    (is : List LocalActivityInput) (hpeek : is.countP (·.isPeek) ≤ 1)
    (hdel : deliveredRun m₀ is = true) (hrun : Steps.run step m₀ is = .ok (u, os)) :
    (os₀ ++ os).countP isResolveActivity ≤ 1 ∧ (os₀ ++ os).countP isRecordMarker ≤ 1 ∧
      QueueFirst (os₀ ++ os) := by
  have hkeeps : ∀ s sh, s ≠ .waitingMarkerEvent true → Keeps 0 ⟨some s, sh⟩ :=
    fun s sh hs => ⟨rfl, fun h => absurd (Option.some.inj h) hs⟩
  -- the three ways `new_local_activity` starts, and the one it refuses
  cases replayingWhenInvoked <;> cases maybePreResolved
  case false.none =>
    rw [newLocalActivity_executing, Except.ok.injEq, Prod.mk.injEq] at hnew
    obtain ⟨rfl, rfl⟩ := hnew
    obtain ⟨hsum, hmark, hqf, -⟩ :=
      run_owed is (hkeeps _ _ (by simp)) (by simpa using hpeek) hdel hrun
    simp only [LocalActivityMachine.owed, Option.map_some, Option.getD_some, owed] at hsum
    refine ⟨?_, ?_, queueFirst_append (by simp [isResolveActivity]) (by simp [isResolveActivity]) hqf⟩
    · simp [isResolveActivity]
      omega
    · simp [isRecordMarker]
      omega
  case false.some dat => simp [newLocalActivity] at hnew
  case true.none =>
    rw [newLocalActivity_replaying, Except.ok.injEq, Prod.mk.injEq] at hnew
    obtain ⟨rfl, rfl⟩ := hnew
    obtain ⟨hsum, hmark, hqf, -⟩ :=
      run_owed is (hkeeps _ _ (by simp)) (by simpa using hpeek) hdel hrun
    simp only [LocalActivityMachine.owed, Option.map_some, Option.getD_some, owed] at hsum
    simp only [List.nil_append]
    exact ⟨by omega, by omega, hqf⟩
  case true.some dat =>
    rw [newLocalActivity_preResolved_eq, Except.ok.injEq, Prod.mk.injEq] at hnew
    obtain ⟨rfl, rfl⟩ := hnew
    obtain ⟨hsum, hmark, hqf, hq⟩ :=
      run_owed is (hkeeps _ _ (by simp)) (by simpa using hpeek) hdel hrun
    obtain ⟨hres₀, hreq₀, hmark₀⟩ := adaptAll_counts
      ⟨some .waitingMarkerEventPreResolved, initialShared attrs true wfTime internalFlags now⟩
      [.resolved dat]
    simp only [LocalActivityMachine.owed, Option.map_some, Option.getD_some, owed] at hsum hq
    -- one resolution, which records no marker in replay, and no request
    replace hres₀ : _ = 1 := hres₀
    replace hreq₀ : _ = 0 := hreq₀
    replace hmark₀ : _ = 0 := hmark₀
    -- lang was resolved at schedule: the run owes nothing, so it resolves and requests nothing
    have hnoq : os.countP isQueue = 0 := by
      by_contra hne
      exact absurd (hq (Nat.pos_of_ne_zero hne)) (by simp)
    refine ⟨?_, ?_, queueFirst_append (by omega) (by omega) hqf⟩
    · rw [List.countP_append]
      omega
    · rw [List.countP_append]
      omega

/-- The marker found ahead for the replayed `echo` activity, then its `MarkerRecorded` event, then
a task that is not replayed. -/
def peekThenMarkerInputs : List LocalActivityInput :=
  [.tryResolveWithDat peekedDat,
   .machine (.handleEvent (markerRecordedEvent
     (recordMarkerCommand (initialShared echoAttrs true none (.enabled [] []) ⟨0, 0⟩) peekedDat) 5
     false)),
   .encounteredNonReplayWft]

theorem run_delivered_resolvesOnce_peekThenMarker :
    ∃ m₀ u os, newLocalActivity echoAttrs true none none (.enabled [] []) ⟨0, 0⟩ = .ok (m₀, []) ∧
      peekThenMarkerInputs.countP (·.isPeek) ≤ 1 ∧ deliveredRun m₀ peekThenMarkerInputs = true ∧
      Steps.run step m₀ peekThenMarkerInputs = .ok (u, os) ∧
      (([] : List MachineResponse) ++ os).countP isResolveActivity ≤ 1 ∧
      (([] : List MachineResponse) ++ os).countP isRecordMarker ≤ 1 ∧
      QueueFirst (([] : List MachineResponse) ++ os) := by
  have hnew := newLocalActivity_replaying echoAttrs none (.enabled [] []) ⟨0, 0⟩
  obtain ⟨u, os, hrun⟩ : ∃ u os, Steps.run step
      ⟨some (.waitingMarkerEvent false), initialShared echoAttrs true none (.enabled [] []) ⟨0, 0⟩⟩
      peekThenMarkerInputs = .ok (u, os) := ⟨_, _, rfl⟩
  have hdel : deliveredRun
      ⟨some (.waitingMarkerEvent false), initialShared echoAttrs true none (.enabled [] []) ⟨0, 0⟩⟩
      peekThenMarkerInputs = true := rfl
  exact ⟨_, u, os, hnew, by decide, hdel, hrun,
    run_delivered_resolvesOnce echoAttrs true none none (.enabled [] []) ⟨0, 0⟩ hnew
      peekThenMarkerInputs (by decide) hdel hrun⟩

end SdkCore.LocalActivity
