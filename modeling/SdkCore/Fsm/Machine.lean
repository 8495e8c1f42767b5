import Mathlib.Logic.Basic

/-!
# The state machines generated by `fsm!`

The `fsm!` macro (`crates/macros/src/fsm_impl.rs`) turns a list of transitions into a machine
struct holding `state : Option State` and the shared state, and an `on_event` that

1. takes the state out of its option (`self.state.take()`),
2. matches the pair of state and event against the transitions leaving that state,
3. on a matching arm runs the handler (or the default `From` conversion) and feeds its
   `TransitionResult` through `transition_result_transform`, which stores the new state on
   success and returns the error otherwise,
4. on no matching arm puts the state back and returns `InvalidTransition`.

Every generated machine is `onEvent` applied to its own transition table. A table is a
function of the current state, the event and the shared state: `none` where the macro writes
no arm, otherwise the shared state after the handler ran (a `shared` handler may write it
before it fails) and the handler's result.

`onEvent_invalidTransition` and `onEvent_underlying` say what is left of the machine on each
error path: the state is restored only when no arm matched.
-/

namespace SdkCore.Fsm

/-- `fsm_trait::MachineError`. -/
inductive MachineError (ε : Type) where
  | invalidTransition
  | underlying (e : ε)
  deriving Repr, DecidableEq

/-- `fsm_trait::TransitionResult`, with the destination already converted into the machine's
state enum (`into_general`). -/
inductive TransitionResult (σ κ ε : Type) where
  | ok (commands : List κ) (newState : σ)
  | err (e : ε)
  deriving Repr, DecidableEq

namespace TransitionResult

variable {σ κ ε : Type}

/-- `TransitionResult::default` and `TransitionResult::from`: no commands, to `s`. -/
def default (s : σ) : TransitionResult σ κ ε := .ok [] s

/-- `into_cmd_result`. -/
def intoCmdResult : TransitionResult σ κ ε → Except (MachineError ε) (List κ × σ)
  | .ok commands newState => .ok (commands, newState)
  | .err e => .error (.underlying e)

end TransitionResult

/-- The struct generated for a machine: the taken-out-able state and the shared state. -/
structure StateMachine (σ η : Type) where
  state : Option σ
  sharedState : η
  deriving Repr, DecidableEq

/-- A transition table as the generated `on_event` matches it. -/
abbrev Transitions (σ ε η κ err : Type) := σ → ε → η → Option (η × TransitionResult σ κ err)

variable {σ ε η κ err : Type}

/-- `StateMachine::from_parts`. -/
def StateMachine.fromParts (state : σ) (shared : η) : StateMachine σ η :=
  { state := some state, sharedState := shared }

/-- The generated `on_event`: the machine afterwards, and what the call returns. -/
def onEvent (t : Transitions σ ε η κ err) (m : StateMachine σ η) (event : ε) :
    StateMachine σ η × Except (MachineError err) (List κ) :=
  -- `let taken_state = self.state.take()`: from here on the machine holds `None`.
  match m.state with
  | none => ({ m with state := none }, .error .invalidTransition)
  | some s =>
    match t s event m.sharedState with
    -- the `_` arm: "Restore state in event the transition doesn't match"
    | none => ({ m with state := some s }, .error .invalidTransition)
    -- `transition_result_transform`
    | some (shared, res) =>
      match res.intoCmdResult with
      | .ok (cmds, state) => ({ state := some state, sharedState := shared }, .ok cmds)
      | .error e => ({ state := none, sharedState := shared }, .error e)

/-- The panic of `self.state.as_ref().unwrap()` in `state()` and `has_reached_final_state()`. -/
def unwrapNonePanic : String := "called `Option::unwrap()` on a `None` value"

/-- `StateMachine::state`. -/
def StateMachine.getState (m : StateMachine σ η) : Except String σ :=
  match m.state with
  | some s => .ok s
  | none => .error unwrapNonePanic

/-- `StateMachine::has_reached_final_state`, for the generated `is_final` of the state enum. -/
def StateMachine.hasReachedFinalState (isFinal : σ → Bool) (m : StateMachine σ η) :
    Except String Bool :=
  (m.getState).map isFinal

/-! ## What each call leaves behind -/

section OnEvent

variable (t : Transitions σ ε η κ err)

theorem onEvent_none (m : StateMachine σ η) (e : ε) (hm : m.state = none) :
    onEvent t m e = ({ m with state := none }, .error .invalidTransition) := by
  unfold onEvent; rw [hm]

theorem onEvent_no_arm {s : σ} {sh : η} {e : ε} (h : t s e sh = none) :
    onEvent t ⟨some s, sh⟩ e = (⟨some s, sh⟩, .error .invalidTransition) := by
  unfold onEvent; simp only [h]

theorem onEvent_ok {s s' : σ} {sh sh' : η} {e : ε} {cmds : List κ}
    (h : t s e sh = some (sh', .ok cmds s')) :
    onEvent t ⟨some s, sh⟩ e = (⟨some s', sh'⟩, .ok cmds) := by
  unfold onEvent; simp only [h, TransitionResult.intoCmdResult]

theorem onEvent_err {s : σ} {sh sh' : η} {e : ε} {x : err}
    (h : t s e sh = some (sh', .err x)) :
    onEvent t ⟨some s, sh⟩ e = (⟨none, sh'⟩, .error (.underlying x)) := by
  unfold onEvent; simp only [h, TransitionResult.intoCmdResult]

/-- Every call ends in exactly one of the four outcomes of the generated match. -/
theorem onEvent_cases (m : StateMachine σ η) (e : ε) :
    (m.state = none ∧ onEvent t m e = (m, .error .invalidTransition)) ∨
    (∃ s, m.state = some s ∧ t s e m.sharedState = none ∧
      onEvent t m e = (m, .error .invalidTransition)) ∨
    (∃ s s' sh' cmds, m.state = some s ∧ t s e m.sharedState = some (sh', .ok cmds s') ∧
      onEvent t m e = (⟨some s', sh'⟩, .ok cmds)) ∨
    (∃ s sh' x, m.state = some s ∧ t s e m.sharedState = some (sh', .err x) ∧
      onEvent t m e = (⟨none, sh'⟩, .error (.underlying x))) := by
  obtain ⟨state, sh⟩ := m
  cases state with
  | none => exact .inl ⟨rfl, onEvent_none t _ e rfl⟩
  | some s =>
    rcases ht : t s e sh with _ | ⟨sh', ⟨cmds, s'⟩ | x⟩
    · exact .inr (.inl ⟨s, rfl, ht, onEvent_no_arm t ht⟩)
    · exact .inr (.inr (.inl ⟨s, s', sh', cmds, rfl, ht, onEvent_ok t ht⟩))
    · exact .inr (.inr (.inr ⟨s, sh', x, rfl, ht, onEvent_err t ht⟩))

/-- A successful call went through an arm that returned its commands. -/
theorem onEvent_eq_ok {m m' : StateMachine σ η} {e : ε} {cmds : List κ}
    (h : onEvent t m e = (m', .ok cmds)) :
    ∃ s s' sh', m.state = some s ∧ t s e m.sharedState = some (sh', .ok cmds s') ∧
      m' = ⟨some s', sh'⟩ := by
  rcases onEvent_cases t m e with ⟨-, h'⟩ | ⟨s, -, -, h'⟩ | ⟨s, s', sh', cmds', hs, ht, h'⟩ |
      ⟨s, sh', x, -, -, h'⟩
  · rw [h'] at h; cases h
  · rw [h'] at h; cases h
  · rw [h'] at h
    simp only [Prod.mk.injEq, Except.ok.injEq] at h
    obtain ⟨rfl, rfl⟩ := h
    exact ⟨s, s', sh', hs, ht, rfl⟩
  · rw [h'] at h; cases h

/-- An `InvalidTransition` from a machine holding a state leaves the machine as it was. -/
theorem onEvent_invalidTransition {s : σ} {sh : η} {e : ε}
    (h : (onEvent t ⟨some s, sh⟩ e).2 = .error .invalidTransition) :
    (onEvent t ⟨some s, sh⟩ e).1 = ⟨some s, sh⟩ := by
  rcases ht : t s e sh with _ | ⟨sh', ⟨cmds, s'⟩ | x⟩
  · rw [onEvent_no_arm t ht]
  · rw [onEvent_ok t ht] at h; cases h
  · rw [onEvent_err t ht] at h; cases h

/-- An `Underlying` error leaves the machine without a state: the handler consumed it. -/
theorem onEvent_underlying {s : σ} {sh : η} {e : ε} {x : err}
    (h : (onEvent t ⟨some s, sh⟩ e).2 = .error (.underlying x)) :
    (onEvent t ⟨some s, sh⟩ e).1.state = none := by
  rcases ht : t s e sh with _ | ⟨sh', ⟨cmds, s'⟩ | x'⟩
  · rw [onEvent_no_arm t ht] at h; cases h
  · rw [onEvent_ok t ht] at h; cases h
  · rw [onEvent_err t ht]

/-- A machine without a state answers every event with `InvalidTransition` and stays so. -/
theorem onEvent_of_state_none {m : StateMachine σ η} (hm : m.state = none) (e : ε) :
    onEvent t m e = (m, .error .invalidTransition) := by
  obtain ⟨state, sh⟩ := m
  cases hm
  exact onEvent_none t _ e rfl

theorem getState_of_state_none {m : StateMachine σ η} (hm : m.state = none) :
    m.getState = .error unwrapNonePanic := by
  unfold StateMachine.getState; rw [hm]

/-- The two error paths of `on_event` from a machine holding `s`. After `InvalidTransition`
the machine is as it was. After `Underlying` it holds no state: `state()` (and so
`has_reached_final_state()`) panics, and every later event is an `InvalidTransition` that
leaves it so. -/
theorem onEvent_error_path (s : σ) (sh : η) (e : ε) :
    ((onEvent t ⟨some s, sh⟩ e).2 = .error .invalidTransition →
      (onEvent t ⟨some s, sh⟩ e).1 = ⟨some s, sh⟩) ∧
    ∀ x, (onEvent t ⟨some s, sh⟩ e).2 = .error (.underlying x) →
      (onEvent t ⟨some s, sh⟩ e).1.state = none ∧
      (onEvent t ⟨some s, sh⟩ e).1.getState = .error unwrapNonePanic ∧
      ∀ e', onEvent t (onEvent t ⟨some s, sh⟩ e).1 e' =
        ((onEvent t ⟨some s, sh⟩ e).1, .error .invalidTransition) := by
  refine ⟨onEvent_invalidTransition t, fun x h => ?_⟩
  have hnone := onEvent_underlying t h
  exact ⟨hnone, getState_of_state_none hnone, onEvent_of_state_none t hnone⟩

end OnEvent

end SdkCore.Fsm
