import SdkCore.Machines.Update
import SdkCore.Steps

/-!
# The update protocol over every interleaving

What one update machine is fed: lang's answers (accept, then complete or fail; or reject), the
acknowledgements of its `ProtocolMessage` commands, in the order they were issued, and the
history events `WorkflowExecutionUpdateAccepted` and `WorkflowExecutionUpdateCompleted`, each
after the acknowledgement of the command it records. `Env` is what this environment has
delivered so far and `Env.step` the inputs it may deliver next.

`Env.step` takes a flag. Without it, the acceptance event may come while the response command is
still unacknowledged; the machine is then in `CompletedImmediatelyAcceptCreated`, which has no
arm for the event (`run_acceptedBeforeResponseAck`). With it, the acceptance event waits for the
acknowledgement of every command issued so far, as `prepare_commands` does before a workflow
task completes. Every such interleaving is then accepted (`run_admitted`): the machine's state
is `stateOf` what was delivered, and the outgoing messages and commands are those of lang's
answers (`LangStage.expected`), each command right after the message of the same id.

The step lemma `step_admitted` has one case per input kind, each split by what was delivered;
the run lemma is its induction.

The flag is what `WorkflowMachines` guarantees. Its `iterate_machines` hands lang's responses of
one activation completion to `handle_response` and runs `prepare_commands` right after, which
acknowledges every command they issued; an event comes only between two such iterations
(`Env.deliver`). Every run so delivered is admitted (`deliver_admitted`), so the machine takes it
(`run_delivered`), and the refused interleaving is delivered by none
(`acceptedBeforeResponseAck_not_delivered`).
-/

namespace SdkCore.Update

open Fsm

/-! ## What the environment delivers -/

/-- How far lang has answered. -/
inductive LangStage where
  | waiting | accepted | done | rejected
  deriving Repr, DecidableEq

/-- The `ProtocolMessage` commands lang's answers have issued. -/
def LangStage.issued : LangStage → Nat
  | .waiting | .rejected => 0
  | .accepted => 1
  | .done => 2

/-- What has been delivered to the machine. -/
structure Env where
  lang : LangStage
  acks : Nat
  acceptedSeen : Bool
  completedSeen : Bool
  deriving Repr, DecidableEq

/-- Nothing delivered yet. -/
def Env.initial : Env := ⟨.waiting, 0, false, false⟩

/-- The inputs the environment may deliver next; with `waitForAcks`, the acceptance event only
once every issued command is acknowledged. -/
def Env.step (waitForAcks : Bool) (e : Env) : UpdateInput → Option Env
  | .handleResponse resp =>
    match resp.response, e.lang with
    | some .accepted, .waiting => some { e with lang := .accepted }
    | some (.rejected _), .waiting => some { e with lang := .rejected }
    | some (.rejected _), .accepted | some (.completed _), .accepted => some { e with lang := .done }
    | _, _ => none
  | .handleCommand commandType =>
    if commandType = .protocolMessage ∧ e.acks < e.lang.issued then
      some { e with acks := e.acks + 1 }
    else none
  | .handleEvent eventDat =>
    match eventDat.event.eventType with
    | .workflowExecutionUpdateAccepted =>
      if e.acceptedSeen = false ∧ 1 ≤ e.acks ∧ (waitForAcks = true → e.acks = e.lang.issued) then
        some { e with acceptedSeen := true }
      else none
    | .workflowExecutionUpdateCompleted =>
      if e.acceptedSeen = true ∧ e.completedSeen = false ∧ 2 ≤ e.acks then
        some { e with completedSeen := true }
      else none
    | _ => none

/-- A whole interleaving, if the environment may deliver it. -/
def Env.run (waitForAcks : Bool) : Env → List UpdateInput → Option Env
  | e, [] => some e
  | e, i :: is => (e.step waitForAcks i).bind fun e' => Env.run waitForAcks e' is

/-- What every delivery keeps: no acknowledgement without its command, no event without the
acknowledgement of its command. -/
def Env.Valid (e : Env) : Prop :=
  e.acks ≤ e.lang.issued ∧ (e.acceptedSeen = true → 1 ≤ e.acks) ∧
    (e.completedSeen = true → e.acceptedSeen = true ∧ 2 ≤ e.acks)

/-- The update machine's state after the deliveries `e`. -/
def stateOf (orig : Request) (e : Env) : UpdateMachineState :=
  match e.lang, e.acks, e.acceptedSeen, e.completedSeen with
  | .waiting, _, _, _ => .requestInitiated orig
  | .rejected, _, _, _ => .rejected
  | .accepted, 0, _, _ => .accepted
  | .accepted, _, false, _ => .acceptCommandCreated
  | .accepted, _, true, _ => .acceptCommandRecorded
  | .done, 0, _, _ => .completedImmediately
  | .done, 1, false, _ => .completedImmediatelyAcceptCreated
  | .done, 1, true, _ => .completed
  | .done, _, false, _ => .completedImmediatelyCompleteCreated
  | .done, _, true, false => .completedCommandCreated
  | .done, _, true, true => .completedCommandRecorded

/-! ## What goes out -/

/-- The kind of an outgoing protocol message. -/
inductive MessageKind where
  | acceptance | rejection | response
  deriving Repr, DecidableEq

/-- An outgoing protocol message or `ProtocolMessage` command, by id. -/
inductive Outgoing where
  | message (id : String) (kind : MessageKind)
  | command (id : String)
  deriving Repr, DecidableEq

def ProtocolMessageBody.kind : ProtocolMessageBody → MessageKind
  | .acceptance _ => .acceptance
  | .rejection _ => .rejection
  | .response _ => .response

/-- A response that is a protocol message or a `ProtocolMessage` command. -/
def outgoing : MachineResponse → Option Outgoing
  | .issueNewMessage ⟨id, _, some body⟩ => some (.message id (ProtocolMessageBody.kind body.value))
  | .issueNewCommand ⟨_, some (.protocolMessageCommandAttributes messageId)⟩ =>
    some (.command messageId)
  | _ => none

def UpdateMsg.kind : UpdateMsg → MessageKind
  | .accept _ => .acceptance
  | .reject _ => .rejection
  | .response _ => .response

@[simp] theorem outgoing_buildMsg (sh : SharedState) (outgoingId : String) (msg : UpdateMsg) :
    outgoing (buildMsg sh outgoingId msg) = some (.message outgoingId msg.kind) := by
  cases msg <;> rfl

@[simp] theorem outgoing_protocolMessageCommand (messageId : String) :
    outgoing (.issueNewCommand
      (CommandAttributes.protocolMessageCommandAttributes messageId).toCommand) =
      some (.command messageId) := rfl

/-- The messages and commands lang's answers give, in order. -/
def LangStage.expected (messageId : String) : LangStage → List Outgoing
  | .waiting => []
  | .rejected => [.message (messageId ++ "/reject") .rejection]
  | .accepted => [.message (messageId ++ "/accept") .acceptance, .command (messageId ++ "/accept")]
  | .done =>
    [.message (messageId ++ "/accept") .acceptance, .command (messageId ++ "/accept"),
     .message (messageId ++ "/complete") .response, .command (messageId ++ "/complete")]

/-! ## The machine on one input -/

section Machine

variable {sh : SharedState} {s s' : UpdateMachineState} {cmds : List UpdateMachineCommand}

theorem step_handleResponse_of {resp : UpdateResponse} {body : UpdateResponseBody}
    (hr : resp.response = some body) (ht : transitions s (responseEvent body) sh = some (sh, .ok cmds s')) :
    step ⟨some s, sh⟩ (.handleResponse resp) =
      (machineDef.processMachineCommands ⟨some s', sh⟩ none cmds).map (⟨some s', sh⟩, ·) := by
  simp only [step, UpdateMachine.handleResponse, hr, onEvent_ok transitions ht]
  cases machineDef.processMachineCommands ⟨some s', sh⟩ none cmds <;> rfl

theorem step_handleCommand_of (ht : transitions s .commandProtocolMessage sh = some (sh, .ok [] s')) :
    step ⟨some s, sh⟩ (.handleCommand .protocolMessage) = .ok (⟨some s', sh⟩, []) := by
  simp only [step, MachineDef.handleCommand, machineDef, ofCommandType, onEvent_ok transitions ht,
    MachineDef.processMachineCommands]

theorem step_handleEvent_of {eventDat : HistEventData} {ev : UpdateMachineEvents}
    (hconv : ofHistEvent eventDat = .ok ev) (ht : transitions s ev sh = some (sh, .ok [] s')) :
    step ⟨some s, sh⟩ (.handleEvent eventDat) = .ok (⟨some s', sh⟩, []) := by
  simp only [step, MachineDef.handleEvent, machineDef, hconv, onEvent_ok transitions ht,
    MachineDef.processMachineCommands]

/-- The outgoing messages and commands of each command's adapter. -/
theorem processMachineCommands_accept (orig : Request) :
    ((machineDef.processMachineCommands ⟨some s, sh⟩ none [.accept orig]).map
      (·.filterMap outgoing)) = .ok (LangStage.accepted.expected sh.messageId) := rfl

theorem processMachineCommands_reject (orig : Request) (fail : Failure) :
    ((machineDef.processMachineCommands ⟨some s, sh⟩ none [.reject orig fail]).map
      (·.filterMap outgoing)) = .ok (LangStage.rejected.expected sh.messageId) := rfl

theorem processMachineCommands_complete (p : Payload) :
    ((machineDef.processMachineCommands ⟨some s, sh⟩ none [.complete p]).map
      (·.filterMap outgoing)) =
      .ok [.message (sh.messageId ++ "/complete") .response, .command (sh.messageId ++ "/complete")] :=
  rfl

theorem processMachineCommands_fail (f : Failure) :
    ((machineDef.processMachineCommands ⟨some s, sh⟩ none [.fail f]).map
      (·.filterMap outgoing)) =
      .ok [.message (sh.messageId ++ "/complete") .response, .command (sh.messageId ++ "/complete")] :=
  rfl

end Machine

/-! ## One delivery, then a whole interleaving -/

/-- A delivery that only moves lang forward keeps `Valid`. -/
theorem Env.Valid.setLang {e : Env} (hv : e.Valid) {l : LangStage}
    (h : e.lang.issued ≤ l.issued) : { e with lang := l }.Valid := by
  obtain ⟨hle, hacc, hcomp⟩ := hv
  exact ⟨Nat.le_trans hle h, hacc, hcomp⟩

/-- What one admitted delivery does to the machine: it moves to `stateOf` the new deliveries,
and what it sends extends lang's expected messages and commands. -/
def StepAdmitted (orig : Request) (sh : SharedState) (e e' : Env) (i : UpdateInput) : Prop :=
  e'.Valid ∧ ∃ o, step ⟨some (stateOf orig e), sh⟩ i = .ok (⟨some (stateOf orig e'), sh⟩, o) ∧
    e'.lang.expected sh.messageId = e.lang.expected sh.messageId ++ o.filterMap outgoing

section Deliveries

variable {orig : Request} {sh : SharedState} {e e' : Env}

/-- A lang response whose transition emits `cmds`, sending `out`. -/
theorem stepAdmitted_response {resp : UpdateResponse} {body : UpdateResponseBody}
    {cmds : List UpdateMachineCommand} {out : List Outgoing} (hv : e'.Valid)
    (hr : resp.response = some body)
    (ht : transitions (stateOf orig e) (responseEvent body) sh =
      some (sh, .ok cmds (stateOf orig e')))
    (hout : (machineDef.processMachineCommands ⟨some (stateOf orig e'), sh⟩ none cmds).map
      (·.filterMap outgoing) = .ok out)
    (hexp : e'.lang.expected sh.messageId = e.lang.expected sh.messageId ++ out) :
    StepAdmitted orig sh e e' (.handleResponse resp) := by
  obtain ⟨o, ho, hfo⟩ := Steps.map_eq_ok hout
  refine ⟨hv, o, ?_, by rw [hfo, hexp]⟩
  rw [step_handleResponse_of hr ht, ho]
  rfl

/-- Lang's answers: accept or reject first, then complete or fail after an acceptance. -/
theorem step_response_admitted {resp : UpdateResponse} (hv : e.Valid)
    (he : e.step true (.handleResponse resp) = some e') :
    StepAdmitted orig sh e e' (.handleResponse resp) := by
  obtain ⟨lang, acks, a, c⟩ := e
  have hv' := hv
  obtain ⟨hle, hacc, -⟩ := hv'
  cases hr : resp.response with
  | none => simp only [Env.step, hr] at he; cases he
  | some body =>
    cases body <;> cases lang <;> simp only [Env.step, hr, reduceCtorEq, Option.some.injEq] at he
    all_goals subst he
    -- before any answer nothing was acknowledged or recorded
    case some.accepted.waiting =>
      obtain rfl : acks = 0 := by simpa [LangStage.issued] using hle
      exact stepAdmitted_response (hv.setLang (by simp [LangStage.issued])) hr rfl
        (processMachineCommands_accept orig) rfl
    case some.rejected.waiting =>
      exact stepAdmitted_response (hv.setLang (by simp [LangStage.issued])) hr rfl
        (processMachineCommands_reject orig _) rfl
    -- after the acceptance, whose command is unacknowledged, acknowledged or recorded
    case some.rejected.accepted f =>
      simp only [LangStage.issued] at hle
      rcases (by omega : acks = 0 ∨ acks = 1) with rfl | rfl <;> cases a <;> (try simp at hacc) <;>
        exact stepAdmitted_response (hv.setLang (by simp [LangStage.issued])) hr rfl
          (processMachineCommands_fail f) rfl
    case some.completed.accepted p =>
      simp only [LangStage.issued] at hle
      rcases (by omega : acks = 0 ∨ acks = 1) with rfl | rfl <;> cases a <;> (try simp at hacc) <;>
        exact stepAdmitted_response (hv.setLang (by simp [LangStage.issued])) hr rfl
          (processMachineCommands_complete p) rfl

/-- The acknowledgement of the next issued command. -/
theorem step_ack_admitted {commandType : CommandType} (hv : e.Valid)
    (he : e.step true (.handleCommand commandType) = some e') :
    StepAdmitted orig sh e e' (.handleCommand commandType) := by
  obtain ⟨lang, acks, a, c⟩ := e
  obtain ⟨hle, hacc, hcomp⟩ := hv
  simp only [Env.step] at he
  split at he
  · rename_i hguard
    obtain ⟨rfl, hlt⟩ := hguard
    cases he
    simp only at hacc hcomp hle hlt
    refine ⟨⟨by simp only; omega, fun ha => by simp only at ha ⊢; have := hacc ha; omega,
      fun hc => ⟨(hcomp hc).1, by show 2 ≤ acks + 1; have := (hcomp hc).2; omega⟩⟩, [], ?_, by simp⟩
    cases lang <;> simp only [LangStage.issued] at hlt
    case accepted =>
      obtain rfl : acks = 0 := by omega
      obtain rfl : a = false := by cases a <;> simp_all
      exact step_handleCommand_of rfl
    case done =>
      rcases (by omega : acks = 0 ∨ acks = 1) with rfl | rfl
      · obtain rfl : a = false := by cases a <;> simp_all
        exact step_handleCommand_of rfl
      · obtain rfl : c = false := by cases c <;> simp_all
        cases a <;> exact step_handleCommand_of rfl
    all_goals omega
  · cases he

/-- The acceptance and completion events, each after its command's acknowledgement. -/
theorem step_event_admitted {eventDat : HistEventData} (hv : e.Valid)
    (he : e.step true (.handleEvent eventDat) = some e') :
    StepAdmitted orig sh e e' (.handleEvent eventDat) := by
  obtain ⟨lang, acks, a, c⟩ := e
  obtain ⟨hle, hacc, hcomp⟩ := hv
  simp only [Env.step] at he
  split at he
  · rename_i htype
    have hconv : ofHistEvent eventDat = .ok .workflowExecutionUpdateAccepted := by
      simp [ofHistEvent, htype]
    split at he
    · rename_i hguard
      obtain ⟨rfl, h1, hall⟩ := hguard
      cases he
      have hc : c = false := by cases c <;> simp_all
      subst hc
      refine ⟨⟨hle, fun _ => h1, by simp⟩, [], ?_, by simp⟩
      -- the acceptance event comes once every issued command is acknowledged
      have hacks : acks = lang.issued := by simpa using hall
      simp only at hle h1
      cases lang <;> simp only [LangStage.issued] at hacks
      case accepted => subst hacks; exact step_handleEvent_of hconv rfl
      case done => subst hacks; exact step_handleEvent_of hconv rfl
      all_goals omega
    · cases he
  · rename_i htype
    have hconv : ofHistEvent eventDat = .ok .workflowExecutionUpdateCompleted := by
      simp [ofHistEvent, htype]
    split at he
    · rename_i hguard
      obtain ⟨rfl, rfl, h2⟩ := hguard
      cases he
      refine ⟨⟨hle, hacc, fun _ => ⟨rfl, h2⟩⟩, [], ?_, by simp⟩
      simp only at hle h2
      -- two acknowledgements: lang has answered twice
      cases lang <;> simp only [LangStage.issued] at hle
      case done =>
        obtain rfl : acks = 2 := by omega
        exact step_handleEvent_of hconv rfl
      all_goals omega
    · cases he
  · cases he

/-- The step lemma: every delivery the environment may make next is taken by the machine. -/
theorem step_admitted {i : UpdateInput} (hv : e.Valid) (he : e.step true i = some e') :
    StepAdmitted orig sh e e' i := by
  cases i with
  | handleResponse resp => exact step_response_admitted hv he
  | handleCommand commandType => exact step_ack_admitted hv he
  | handleEvent eventDat => exact step_event_admitted hv he

/-- The run lemma: a whole admitted interleaving from deliveries `e` is taken by the machine in
`stateOf e`, and extends lang's expected messages and commands. -/
theorem run_admitted_from (is : List UpdateInput) :
    ∀ {e e' : Env}, e.Valid → Env.run true e is = some e' →
      e'.Valid ∧ ∃ r, Steps.run step ⟨some (stateOf orig e), sh⟩ is =
          .ok (⟨some (stateOf orig e'), sh⟩, r) ∧
        e'.lang.expected sh.messageId = e.lang.expected sh.messageId ++ r.filterMap outgoing := by
  induction is with
  | nil =>
    intro e e' hv h
    cases h
    exact ⟨hv, [], rfl, by simp⟩
  | cons i is ih =>
    intro e e' hv h
    obtain ⟨e₁, he₁, hrest⟩ := Option.bind_eq_some_iff.1 h
    obtain ⟨hv₁, o, hstep, hexp₁⟩ := step_admitted hv he₁
    obtain ⟨hv', r, hrun, hexp⟩ := ih hv₁ hrest
    refine ⟨hv', o ++ r, Steps.run_cons_eq_ok step hstep hrun, ?_⟩
    rw [hexp, hexp₁, List.filterMap_append, List.append_assoc]

end Deliveries

theorem Env.initial_valid : Env.initial.Valid :=
  ⟨Nat.le_refl _, by simp [Env.initial], by simp [Env.initial]⟩

/-- Once the completion event, or the rejection, is delivered, the machine has finished. -/
theorem stateOf_finished (orig : Request) {e : Env} (hv : e.Valid)
    (h : e.completedSeen = true ∨ e.lang = .rejected) :
    stateOf orig e = .completedCommandRecorded ∨ stateOf orig e = .rejected := by
  obtain ⟨lang, acks, a, c⟩ := e
  obtain ⟨hle, -, hcomp⟩ := hv
  rcases h with hc | hl
  · -- the completion event needs both answers and both acknowledgements
    obtain ⟨rfl, h2⟩ := hcomp hc
    simp only at hc h2 hle
    subst hc
    cases lang <;> simp only [LangStage.issued] at hle
    case done =>
      obtain rfl : acks = 2 := by omega
      exact .inl rfl
    all_goals omega
  · simp only at hl
    subst hl
    exact .inr rfl

/-- Over every interleaving in which the acceptance event waits for the acknowledgement of the
commands issued before it, the update machine takes every input; it is in `stateOf` what was
delivered, and has sent the messages and commands of lang's answers, each command right after
the message of the same id. A finished interleaving ends in `CompletedCommandRecorded` or
`Rejected`. -/
theorem run_admitted (messageId instanceId : String) (eventSeqId : Int) (request : UpdateRequest)
    (replaying : Bool) (is : List UpdateInput) {e : Env} (h : Env.run true Env.initial is = some e) :
    ∃ m r, Steps.run step (UpdateMachine.init messageId instanceId eventSeqId request replaying).1
        is = .ok (m, r) ∧
      m.state = some (stateOf request.original e) ∧
      r.filterMap outgoing = e.lang.expected messageId ∧
      (e.completedSeen = true ∨ e.lang = .rejected →
        m.state = some .completedCommandRecorded ∨ m.state = some .rejected) := by
  obtain ⟨hv, r, hrun, hexp⟩ := run_admitted_from is Env.initial_valid h
  refine ⟨_, r, hrun, rfl, by simpa [Env.initial, LangStage.expected] using hexp.symm, fun hfin => ?_⟩
  rcases stateOf_finished request.original hv hfin with hs | hs
  · exact .inl (congrArg some hs)
  · exact .inr (congrArg some hs)

/-! ## What `WorkflowMachines` delivers -/

/-- What `WorkflowMachines` hands the machine in one go: `iterate_machines`, whose
`handle_driven_results` hands lang's update responses of one activation completion to
`handle_response`, and whose `prepare_commands`, run right after, hands `handle_command` the
commands they issued; or `handle_event` of one history event. -/
inductive MachinesInput where
  | iterate (responses : List UpdateResponse)
  | event (eventDat : HistEventData)

/-- The acknowledgements `prepare_commands` makes: one for each command issued and not yet
acknowledged. -/
def Env.prepareCommands (e : Env) : List UpdateInput :=
  List.replicate (e.lang.issued - e.acks) (.handleCommand .protocolMessage)

/-- The machine inputs of a run of `WorkflowMachines` deliveries, with what has been delivered
after it, when the environment may deliver each input at all (`Env.step false`). -/
def Env.deliver (e : Env) : List MachinesInput → Option (Env × List UpdateInput)
  | [] => some (e, [])
  | .iterate rs :: ms => do
    let e₁ ← Env.run false e (rs.map .handleResponse)
    let e₂ ← Env.run false e₁ e₁.prepareCommands
    let (e₃, is) ← e₂.deliver ms
    pure (e₃, rs.map .handleResponse ++ e₁.prepareCommands ++ is)
  | .event eventDat :: ms => do
    let e₁ ← e.step false (.handleEvent eventDat)
    let (e₂, is) ← e₁.deliver ms
    pure (e₂, .handleEvent eventDat :: is)

section Delivery

variable {b : Bool} {e e' : Env}

theorem Env.run_append (l₁ l₂ : List UpdateInput) :
    Env.run b e (l₁ ++ l₂) = (Env.run b e l₁).bind fun e' => Env.run b e' l₂ := by
  induction l₁ generalizing e with
  | nil => rfl
  | cons i l₁ ih =>
    simp only [List.cons_append, Env.run, Option.bind_assoc]
    exact congrArg _ (funext fun _ => ih)

/-- A response moves lang forward and nothing else. -/
theorem Env.step_response_eq {resp : UpdateResponse}
    (h : e.step b (.handleResponse resp) = some e') :
    e' = { e with lang := e'.lang } ∧ e.lang.issued ≤ e'.lang.issued := by
  obtain ⟨lang, acks, a, c⟩ := e
  cases hr : resp.response with
  | none => simp only [Env.step, hr] at h; cases h
  | some body =>
    cases body <;> cases lang <;>
      simp only [Env.step, hr, reduceCtorEq, Option.some.injEq] at h <;>
      subst h <;> simp [LangStage.issued]

/-- Lang's responses of one completion, whatever the flag: they move lang forward only. -/
theorem Env.run_responses {rs : List UpdateResponse}
    (h : Env.run b e (rs.map .handleResponse) = some e') (b' : Bool) :
    Env.run b' e (rs.map .handleResponse) = some e' ∧ e' = { e with lang := e'.lang } ∧
      e.lang.issued ≤ e'.lang.issued := by
  induction rs generalizing e with
  | nil =>
    cases h
    exact ⟨rfl, rfl, le_refl _⟩
  | cons r rs ih =>
    obtain ⟨e₁, he₁, hrest⟩ := Option.bind_eq_some_iff.1 h
    -- the flag only bears on events, so the first response is taken either way
    have he₁' : e.step b' (.handleResponse r) = some e₁ := he₁
    obtain ⟨heq₁, hle₁⟩ := Env.step_response_eq he₁
    obtain ⟨hrun, heq, hle⟩ := ih hrest
    refine ⟨by simp only [List.map_cons, Env.run, he₁', Option.bind_some, hrun], ?_, hle₁.trans hle⟩
    rw [heq, heq₁]

/-- `prepare_commands` acknowledges every command issued. -/
theorem Env.run_prepareCommands (h : e.acks ≤ e.lang.issued) :
    Env.run b e e.prepareCommands = some { e with acks := e.lang.issued } := by
  obtain ⟨lang, acks, a, c⟩ := e
  simp only at h
  unfold Env.prepareCommands
  dsimp only
  -- by induction on the number of commands still unacknowledged
  induction hk : lang.issued - acks generalizing acks with
  | zero =>
    obtain rfl : acks = lang.issued := by omega
    rfl
  | succ k ih =>
    have hstep : Env.step b ⟨lang, acks, a, c⟩ (.handleCommand .protocolMessage) =
        some ⟨lang, acks + 1, a, c⟩ := by
      simp only [Env.step, true_and, if_pos (show acks < lang.issued by omega)]
    simp only [List.replicate_succ, Env.run, hstep, Option.bind_some]
    exact ih (acks + 1) (by omega) (by omega)

/-- Between two `iterate_machines`, every issued command is acknowledged, so an event the
environment may deliver is admitted. -/
theorem Env.step_event_of_acked {eventDat : HistEventData} (hacked : e.acks = e.lang.issued)
    (h : e.step false (.handleEvent eventDat) = some e') :
    e.step true (.handleEvent eventDat) = some e' ∧ e'.acks = e'.lang.issued := by
  obtain ⟨lang, acks, a, c⟩ := e
  simp only [Env.step] at h ⊢
  split at h
  · split at h
    · rename_i hguard
      cases h
      exact ⟨by rw [if_pos ⟨hguard.1, hguard.2.1, fun _ => hacked⟩], hacked⟩
    · cases h
  · split at h
    · cases h
      rename_i hguard
      exact ⟨by rw [if_pos hguard], hacked⟩
    · cases h
  · cases h

/-- Every run `WorkflowMachines` delivers is an admitted interleaving. -/
theorem deliver_admitted {ms : List MachinesInput} {is : List UpdateInput}
    (hacked : e.acks = e.lang.issued) (h : e.deliver ms = some (e', is)) :
    Env.run true e is = some e' := by
  induction ms generalizing e is with
  | nil =>
    cases h
    rfl
  | cons m ms ih =>
    cases m with
    | iterate rs =>
      simp only [Env.deliver, Option.bind_eq_bind] at h
      obtain ⟨e₁, he₁, h⟩ := Option.bind_eq_some_iff.1 h
      obtain ⟨e₂, he₂, h⟩ := Option.bind_eq_some_iff.1 h
      obtain ⟨⟨e₃, is'⟩, he₃, h⟩ := Option.bind_eq_some_iff.1 h
      cases h
      obtain ⟨hrun₁, heq₁, hle₁⟩ := Env.run_responses he₁ true
      -- the responses leave the acknowledgements where they were
      have hacks₁ : e₁.acks ≤ e₁.lang.issued := by
        rw [heq₁]
        exact hacked ▸ hle₁
      have he₂' : e₂ = { e₁ with acks := e₁.lang.issued } := by
        rw [Env.run_prepareCommands hacks₁] at he₂
        exact (Option.some.inj he₂).symm
      have hrun₃ : Env.run true e₂ is' = some e₃ := ih (by rw [he₂']) he₃
      rw [Env.run_append, Env.run_append, hrun₁, Option.bind_some,
        Env.run_prepareCommands hacks₁, Option.bind_some, ← he₂', hrun₃]
    | event eventDat =>
      simp only [Env.deliver, Option.bind_eq_bind] at h
      obtain ⟨e₁, he₁, h⟩ := Option.bind_eq_some_iff.1 h
      obtain ⟨⟨e₂, is'⟩, he₂, h⟩ := Option.bind_eq_some_iff.1 h
      cases h
      obtain ⟨hstep, hacked₁⟩ := Env.step_event_of_acked hacked he₁
      simp only [Env.run, hstep, Option.bind_some]
      exact ih hacked₁ he₂

end Delivery

/-- Over every run `WorkflowMachines` delivers to one update machine, where `prepare_commands`
follows lang's responses at once, the machine takes every input; it is in `stateOf` what was
delivered, has sent the messages and commands of lang's answers, and ends in
`CompletedCommandRecorded` or `Rejected` once the completion event, or the rejection, is
delivered. -/
theorem run_delivered (messageId instanceId : String) (eventSeqId : Int) (request : UpdateRequest)
    (replaying : Bool) (ms : List MachinesInput) {e : Env} {is : List UpdateInput}
    (h : Env.initial.deliver ms = some (e, is)) :
    ∃ m r, Steps.run step (UpdateMachine.init messageId instanceId eventSeqId request replaying).1
        is = .ok (m, r) ∧
      m.state = some (stateOf request.original e) ∧
      r.filterMap outgoing = e.lang.expected messageId ∧
      (e.completedSeen = true ∨ e.lang = .rejected →
        m.state = some .completedCommandRecorded ∨ m.state = some .rejected) := by
  -- a delivered run is an admitted interleaving, which the machine takes
  obtain ⟨hv, r, hrun, hexp⟩ := run_admitted_from is Env.initial_valid (deliver_admitted rfl h)
  refine ⟨_, r, hrun, rfl, by simpa [Env.initial, LangStage.expected] using hexp.symm, fun hfin => ?_⟩
  rcases stateOf_finished request.original hv hfin with hs | hs
  · exact .inl (congrArg some hs)
  · exact .inr (congrArg some hs)

/-! ## An update on fixed inputs -/

/-- An update named `"greet"`, with its input and meta. -/
def greetRequest : UpdateRequest :=
  ⟨{ updateMeta := some { updateId := "update-1", identity := "client" },
     input := some { header := none, name := "greet", args := none } }, rfl, rfl⟩

/-- The machine the server's request for `greetRequest` creates. -/
def greetUpdate : UpdateMachine := (UpdateMachine.init "request-1" "update-1" 3 greetRequest false).1

/-- Lang's answer to the update. -/
def langAnswer (body : UpdateResponseBody) : UpdateInput :=
  .handleResponse { protocolInstanceId := "update-1", response := some body }

/-- An update event of the history, in its last task. -/
def updateEvent (eventId : Int) (eventType : EventType) : UpdateInput :=
  .handleEvent
    { event := { eventId, eventType, attributes := none }, replaying := false,
      currentTaskIsLastInHistory := true }

/-- Lang accepts and completes, both commands are acknowledged, and the history records both. -/
def acceptThenCompleteInputs : List UpdateInput :=
  [langAnswer .accepted, .handleCommand .protocolMessage,
   langAnswer (.completed { metadata := [], data := [] }), .handleCommand .protocolMessage,
   updateEvent 5 .workflowExecutionUpdateAccepted, updateEvent 6 .workflowExecutionUpdateCompleted]

/-- That interleaving ends recorded, with the acceptance and the response sent. -/
theorem run_admitted_acceptThenComplete :
    ∃ m r, Steps.run step greetUpdate acceptThenCompleteInputs = .ok (m, r) ∧
      m.state = some .completedCommandRecorded ∧
      r.filterMap outgoing = LangStage.done.expected "request-1" := by
  obtain ⟨m, r, hrun, hstate, hout, -⟩ :=
    run_admitted "request-1" "update-1" 3 greetRequest false acceptThenCompleteInputs
      (show Env.run true Env.initial acceptThenCompleteInputs = some ⟨.done, 2, true, true⟩ from rfl)
  exact ⟨m, r, hrun, hstate, hout⟩

/-- Lang's response to the update, as an activation completion carries it. -/
def greetResponse (body : UpdateResponseBody) : UpdateResponse :=
  { protocolInstanceId := "update-1", response := some body }

/-- An update event of the history, as `handle_event` receives it. -/
def updateEventData (eventId : Int) (eventType : EventType) : HistEventData :=
  { event := { eventId, eventType, attributes := none }, replaying := false,
    currentTaskIsLastInHistory := true }

/-- The same run as `WorkflowMachines` delivers it: two activation completions, each answering the
update once, then the two events. -/
def acceptThenCompleteDeliveries : List MachinesInput :=
  [.iterate [greetResponse .accepted],
   .iterate [greetResponse (.completed { metadata := [], data := [] })],
   .event (updateEventData 5 .workflowExecutionUpdateAccepted),
   .event (updateEventData 6 .workflowExecutionUpdateCompleted)]

theorem run_delivered_acceptThenComplete :
    Env.initial.deliver acceptThenCompleteDeliveries =
        some (⟨.done, 2, true, true⟩, acceptThenCompleteInputs) ∧
      ∃ m r, Steps.run step greetUpdate acceptThenCompleteInputs = .ok (m, r) ∧
        m.state = some (stateOf greetRequest.original ⟨.done, 2, true, true⟩) ∧
        r.filterMap outgoing = LangStage.done.expected "request-1" ∧
        ((true : Bool) = true ∨ LangStage.done = .rejected →
          m.state = some .completedCommandRecorded ∨ m.state = some .rejected) :=
  ⟨rfl, run_delivered "request-1" "update-1" 3 greetRequest false acceptThenCompleteDeliveries rfl⟩

/-- The acceptance command is acknowledged, lang completes, and the acceptance event comes
before the response command is acknowledged. -/
def acceptedBeforeResponseAckInputs : List UpdateInput :=
  [langAnswer .accepted, .handleCommand .protocolMessage,
   langAnswer (.completed { metadata := [], data := [] }),
   updateEvent 5 .workflowExecutionUpdateAccepted]

/-- Each event of that interleaving comes after the acknowledgement of its command, but
`CompletedImmediatelyAcceptCreated` has no arm for the acceptance event. -/
theorem run_acceptedBeforeResponseAck :
    Env.run false Env.initial acceptedBeforeResponseAckInputs = some ⟨.done, 1, true, false⟩ ∧
      Steps.run step greetUpdate acceptedBeforeResponseAckInputs =
        .error (.fatal ("UpdateMachine in state CompletedImmediatelyAcceptCreated says the " ++
          "transition is invalid during event EventInfo \x7b event_id: 5, event_type: " ++
          "WorkflowExecutionUpdateAccepted \x7d")) :=
  ⟨rfl, rfl⟩

/-- No run `WorkflowMachines` delivers is that interleaving: `prepare_commands` acknowledges the
response command before any event can come. -/
theorem acceptedBeforeResponseAck_not_delivered (ms : List MachinesInput) (e : Env) :
    Env.initial.deliver ms ≠ some (e, acceptedBeforeResponseAckInputs) := by
  intro h
  have hrun := deliver_admitted rfl h
  -- the acceptance event is not admitted while the response command waits
  have hnone : Env.run true Env.initial acceptedBeforeResponseAckInputs = none := rfl
  rw [hnone] at hrun
  cases hrun

end SdkCore.Update
