import Mathlib
import SdkCore.Fsm.Machine
import SdkCore.History.Event
import SdkCore.Steps

/-!
# The machines' common interface

`crates/sdk-core/src/worker/workflow/machines/mod.rs`: every `fsm!` machine becomes a
`TemporalStateMachine` through one blanket implementation. A command acknowledgement
(`handle_command`) and a history event (`handle_event`) are converted into the machine's own
event, fed to `on_event`, and the machine's commands are turned into `MachineResponse`s by its
`adapt_response`. A machine is described by a `MachineDef`: its `fsm!` table, its state names,
its two conversions and its adapter; `handleCommand` and `handleEvent` are the blanket
implementation, written once.
-/

namespace SdkCore

open Fsm

/-- `WFMachinesError`. -/
inductive WFMachinesError where
  | nondeterminism (msg : String)
  | fatal (msg : String)
  deriving Repr, DecidableEq

/-- `From<MachineError<WFMachinesError>> for WFMachinesError`, used where a machine's own
method (such as `cancel`) is called with `?`. -/
def WFMachinesError.ofMachineError : MachineError WFMachinesError → WFMachinesError
  | .invalidTransition => .nondeterminism "Invalid transition in state machine"
  | .underlying e => e

/-- `MachineResponse`, for the responses the modelled machines give. -/
inductive MachineResponse where
  | pushWFJob (job : WorkflowActivationJob)
  | issueNewCommand (command : ProtoCommand)
  | issueNewMessage (message : ProtocolMessage)
  | newCoreOriginatedCommand (attributes : CommandAttributes)
  | issueFakeLocalActivityMarker (seq : Nat)
  | queueLocalActivity (act : ValidScheduleLA)
  | requestCancelLocalActivity (seq : Nat)
  | abandonLocalActivity (seq : Nat)
  | updateWFTime (time : Option Timestamp)
  deriving Repr, DecidableEq

/-- `EventInfo`. -/
structure EventInfo where
  eventId : Int
  eventType : EventType
  deriving Repr, DecidableEq

/-- The `{:?}` rendering of an `EventInfo`. -/
def EventInfo.debug (i : EventInfo) : String :=
  "EventInfo \x7b event_id: " ++ toString i.eventId ++ ", event_type: " ++
    i.eventType.debugName ++ " \x7d"

/-- `HistEventData`. -/
structure HistEventData where
  event : HistoryEvent
  replaying : Bool
  currentTaskIsLastInHistory : Bool
  deriving Repr, DecidableEq

/-- `CoreInternalFlags`. -/
inductive CoreInternalFlags where
  | idAndTypeDeterminismChecks | upsertSearchAttributeOnPatch | moveTerminalCommands | tooHigh
  deriving Repr, DecidableEq

/-- `InternalFlags`, with the two sets of core flags `try_use` reads and writes (the lang flags
and SDK names are left out). The source shares one value between all machines of a run; a
machine here keeps it in its shared state, since it acts only on what `try_use` answers. -/
inductive InternalFlags where
  | enabled (core : List CoreInternalFlags) (coreSinceLastComplete : List CoreInternalFlags)
  | disabled
  deriving Repr, DecidableEq

/-- `InternalFlags::try_use`: whether the flag may be used, recording it when `shouldRecord`. -/
def InternalFlags.tryUse (flags : InternalFlags) (flag : CoreInternalFlags) (shouldRecord : Bool) :
    Bool × InternalFlags :=
  match flags with
  | .enabled core coreSinceLastComplete =>
    if shouldRecord then (true, .enabled core (flag :: coreSinceLastComplete))
    else (core.contains flag, flags)
  -- "If the server does not support the metadata field, we must assume we can never use any
  -- internal flags since they can't be recorded for future use"
  | .disabled => (false, .disabled)

/-- What reaches one machine from outside: lang cancels it (`cancel_machine!`), a command of it
is sent (`handle_command`), or an event of it is applied (`handle_event`). -/
inductive MachineInput where
  | cancel (reason : String)
  | handleCommand (commandType : CommandType)
  | handleEvent (eventDat : HistEventData)
  deriving Repr, DecidableEq

/-- What the blanket `TemporalStateMachine` implementation needs of a machine. -/
structure MachineDef (σ ε η κ : Type) where
  /-- `StateMachine::name`. -/
  name : String
  /-- The `fsm!` transition table. -/
  transitions : Transitions σ ε η κ WFMachinesError
  /-- The `Display` of the state enum: the state's name. -/
  stateName : σ → String
  /-- `TryFrom<CommandType>` for the machine's events. -/
  ofCommandType : CommandType → Option ε
  /-- `TryFrom<HistEventData>` for the machine's events. -/
  ofHistEvent : HistEventData → Except WFMachinesError ε
  /-- `WFMachinesAdapter::adapt_response`, run on the machine after the transition. -/
  adaptResponse : StateMachine σ η → κ → Option EventInfo →
    Except WFMachinesError (List MachineResponse)

namespace MachineDef

variable {σ ε η κ : Type} (d : MachineDef σ ε η κ)

/-- `process_machine_commands`: the responses of all commands, in order, failing at the first
adapter error. -/
def processMachineCommands (m : StateMachine σ η) (eventInfo : Option EventInfo) :
    List κ → Except WFMachinesError (List MachineResponse)
  | [] => .ok []
  | c :: cs => do
    let r ← d.adaptResponse m c eventInfo
    let rs ← processMachineCommands m eventInfo cs
    pure (r ++ rs)

/-- The `Display` of `self.state()` in an error message. The message is built only after an
`InvalidTransition`, which leaves a machine that held a state holding it again. -/
def stateText (m : StateMachine σ η) : String :=
  (m.state.map d.stateName).getD ""

/-- `TemporalStateMachine::handle_command`. -/
def handleCommand (m : StateMachine σ η) (commandType : CommandType) :
    StateMachine σ η × Except WFMachinesError (List MachineResponse) :=
  match d.ofCommandType commandType with
  | some converted =>
    match onEvent d.transitions m converted with
    | (m', .ok c) => (m', d.processMachineCommands m' none c)
    | (m', .error .invalidTransition) =>
      (m', .error (.nondeterminism ("Unexpected command producing an invalid transition " ++
        commandType.debugName ++ " in state " ++ d.stateText m')))
    | (m', .error (.underlying e)) => (m', .error e)
  | none =>
    (m, .error (.nondeterminism ("Unexpected command " ++ commandType.debugName ++
      " generated by a \"" ++ d.name ++ "\" machine")))

/-- `TemporalStateMachine::handle_event`. -/
def handleEvent (m : StateMachine σ η) (eventDat : HistEventData) :
    StateMachine σ η × Except WFMachinesError (List MachineResponse) :=
  let eventInfo : EventInfo :=
    { eventId := eventDat.event.eventId, eventType := eventDat.event.eventType }
  match d.ofHistEvent eventDat with
  | .error e => (m, .error e)
  | .ok converted =>
    match onEvent d.transitions m converted with
    | (m', .ok c) => (m', d.processMachineCommands m' (some eventInfo) c)
    | (m', .error .invalidTransition) =>
      (m', .error (.fatal (d.name ++ " in state " ++ d.stateText m' ++
        " says the transition is invalid during event " ++ eventInfo.debug)))
    | (m', .error (.underlying e)) => (m', .error e)

/-! ## Driving one machine -/

/-- The machine's responses to one input, given its `cancel` method. A failed `cancel` goes
through `From<MachineError>`, as `cancel_machine!` does with `?`. -/
def step (cancel : String → StateMachine σ η →
      StateMachine σ η × Except (MachineError WFMachinesError) (List MachineResponse))
    (m : StateMachine σ η) : MachineInput →
      Except WFMachinesError (StateMachine σ η × List MachineResponse)
  | .cancel reason =>
    match cancel reason m with
    | (m', .ok r) => .ok (m', r)
    | (_, .error e) => .error (WFMachinesError.ofMachineError e)
  | .handleCommand commandType =>
    match d.handleCommand m commandType with
    | (m', .ok r) => .ok (m', r)
    | (_, .error e) => .error e
  | .handleEvent eventDat =>
    match d.handleEvent m eventDat with
    | (m', .ok r) => .ok (m', r)
    | (_, .error e) => .error e

/-- A command that a machine took: it converted, the machine moved, and the adapter accepted
the new commands. -/
theorem step_handleCommand_ok {cancel : String → StateMachine σ η →
      StateMachine σ η × Except (MachineError WFMachinesError) (List MachineResponse)}
    {m m' : StateMachine σ η} {commandType : CommandType} {r : List MachineResponse}
    (h : d.step cancel m (.handleCommand commandType) = .ok (m', r)) :
    ∃ e c, d.ofCommandType commandType = some e ∧ onEvent d.transitions m e = (m', .ok c) ∧
      d.processMachineCommands m' none c = .ok r := by
  simp only [step] at h
  split at h
  · rename_i m₁ r₁ hc
    simp only [Except.ok.injEq, Prod.mk.injEq] at h
    obtain ⟨rfl, rfl⟩ := h
    unfold handleCommand at hc
    split at hc
    · rename_i e he
      split at hc <;> simp only [Prod.mk.injEq, reduceCtorEq, and_false] at hc
      rename_i c hev
      obtain ⟨rfl, hp⟩ := hc
      exact ⟨e, c, he, hev, hp⟩
    · simp only [Prod.mk.injEq, reduceCtorEq, and_false] at hc
  · cases h

/-- An event that a machine took, likewise. -/
theorem step_handleEvent_ok {cancel : String → StateMachine σ η →
      StateMachine σ η × Except (MachineError WFMachinesError) (List MachineResponse)}
    {m m' : StateMachine σ η} {eventDat : HistEventData} {r : List MachineResponse}
    (h : d.step cancel m (.handleEvent eventDat) = .ok (m', r)) :
    ∃ e c eventInfo, d.ofHistEvent eventDat = .ok e ∧ onEvent d.transitions m e = (m', .ok c) ∧
      d.processMachineCommands m' eventInfo c = .ok r := by
  simp only [step] at h
  split at h
  · rename_i m₁ r₁ hc
    simp only [Except.ok.injEq, Prod.mk.injEq] at h
    obtain ⟨rfl, rfl⟩ := h
    unfold handleEvent at hc
    split at hc
    · simp only [Prod.mk.injEq, reduceCtorEq, and_false] at hc
    · rename_i e he
      split at hc <;> simp only [Prod.mk.injEq, reduceCtorEq, and_false] at hc
      rename_i c hev
      obtain ⟨rfl, hp⟩ := hc
      exact ⟨e, c, _, he, hev, hp⟩
  · cases h

/-- A cancel that a machine took is its `cancel` method succeeding. -/
theorem step_cancel_ok {cancel : String → StateMachine σ η →
      StateMachine σ η × Except (MachineError WFMachinesError) (List MachineResponse)}
    {m m' : StateMachine σ η} {reason : String} {r : List MachineResponse}
    (h : d.step cancel m (.cancel reason) = .ok (m', r)) : cancel reason m = (m', .ok r) := by
  simp only [step] at h
  split at h
  · rename_i m₁ r₁ hc
    simp only [Except.ok.injEq, Prod.mk.injEq] at h
    obtain ⟨rfl, rfl⟩ := h
    exact hc
  · cases h

/-- The responses to a list of commands hold, of a kind of response, the sum of what the
adapter gives for each command. -/
theorem processMachineCommands_countP (p : MachineResponse → Bool) (count : κ → Nat)
    {m : StateMachine σ η} {eventInfo : Option EventInfo}
    (hadapt : ∀ c r, d.adaptResponse m c eventInfo = .ok r → r.countP p = count c) :
    ∀ {cmds : List κ} {r : List MachineResponse},
      d.processMachineCommands m eventInfo cmds = .ok r → r.countP p = (cmds.map count).sum := by
  intro cmds
  induction cmds with
  | nil =>
    intro r h
    cases h
    rfl
  | cons c cs ih =>
    intro r h
    obtain ⟨r₁, h₁, h'⟩ := Steps.bind_eq_ok h
    obtain ⟨r₂, h₂, h''⟩ := Steps.bind_eq_ok h'
    cases h''
    rw [List.countP_append, hadapt c r₁ h₁, ih h₂, List.map_cons, List.sum_cons]

/-! ## The converse: inputs a machine takes -/

@[simp] theorem processMachineCommands_nil (m : StateMachine σ η) (eventInfo : Option EventInfo) :
    d.processMachineCommands m eventInfo [] = .ok [] := rfl

theorem processMachineCommands_singleton {m : StateMachine σ η} {eventInfo : Option EventInfo}
    {c : κ} {r : List MachineResponse} (h : d.adaptResponse m c eventInfo = .ok r) :
    d.processMachineCommands m eventInfo [c] = .ok r := by
  simp only [processMachineCommands, h, bind, Except.bind, pure, Except.pure, List.append_nil]

/-- An event that converts, has an arm, and whose commands the adapter accepts, is handled. -/
theorem handleEvent_of_ok {m m' : StateMachine σ η} {eventDat : HistEventData} {e : ε}
    {c : List κ} {r : List MachineResponse} (hconv : d.ofHistEvent eventDat = .ok e)
    (hev : onEvent d.transitions m e = (m', .ok c))
    (hp : d.processMachineCommands m'
      (some { eventId := eventDat.event.eventId, eventType := eventDat.event.eventType }) c =
        .ok r) :
    d.handleEvent m eventDat = (m', .ok r) := by
  simp only [handleEvent, hconv, hev, hp]

/-- A command that converts, has an arm, and whose commands the adapter accepts, is taken. -/
theorem step_handleCommand_of_ok {cancel : String → StateMachine σ η →
      StateMachine σ η × Except (MachineError WFMachinesError) (List MachineResponse)}
    {m m' : StateMachine σ η} {commandType : CommandType} {e : ε} {c : List κ}
    {r : List MachineResponse} (hconv : d.ofCommandType commandType = some e)
    (hev : onEvent d.transitions m e = (m', .ok c)) (hp : d.processMachineCommands m' none c = .ok r) :
    d.step cancel m (.handleCommand commandType) = .ok (m', r) := by
  simp only [step, handleCommand, hconv, hev, hp]

/-- An event that converts, has an arm, and whose commands the adapter accepts, is taken. -/
theorem step_handleEvent_of_ok {cancel : String → StateMachine σ η →
      StateMachine σ η × Except (MachineError WFMachinesError) (List MachineResponse)}
    {m m' : StateMachine σ η} {eventDat : HistEventData} {e : ε} {c : List κ}
    {r : List MachineResponse} (hconv : d.ofHistEvent eventDat = .ok e)
    (hev : onEvent d.transitions m e = (m', .ok c))
    (hp : d.processMachineCommands m'
      (some { eventId := eventDat.event.eventId, eventType := eventDat.event.eventType }) c =
        .ok r) :
    d.step cancel m (.handleEvent eventDat) = .ok (m', r) := by
  simp only [step, handleEvent, hconv, hev, hp]

theorem step_cancel_of_ok {cancel : String → StateMachine σ η →
      StateMachine σ η × Except (MachineError WFMachinesError) (List MachineResponse)}
    {m m' : StateMachine σ η} {reason : String} {r : List MachineResponse}
    (h : cancel reason m = (m', .ok r)) : d.step cancel m (.cancel reason) = .ok (m', r) := by
  simp only [step, h]

end MachineDef

/-- The `{:?}` rendering of an `Option<EventInfo>`. -/
def EventInfo.debugOption : Option EventInfo → String
  | some i => "Some(" ++ i.debug ++ ")"
  | none => "None"

end SdkCore
