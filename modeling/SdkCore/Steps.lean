import Mathlib.Data.List.Basic
import Mathlib.Data.List.Induction

/-!
# Runs of a step that may fail

A step takes a state and an input to a new state and the outputs it emits, or fails. `run`
feeds a list of inputs one after another, concatenates the outputs and stops at the first
failure. The run rule `run_rel` carries a relation between first state, outputs and last
state from one step to a whole run. The totality rules `run_ok_of_forall` and `run_ok_of_step`
give a run that succeeds where every step does, and the trace rule `run_trace_inv` carries an
invariant that also reads the inputs and outputs so far. The run rule's instances are the invariant rule
`run_inv` and the
potential rules: where every successful step from a state satisfying an invariant emits as many
outputs of a kind as a potential drops (`run_countP_add`), or at most as many
(`run_countP_le`), a whole run emits as many, or at most as many, as the potential drops from
its first state to its last.

`run_cons_eq_ok` and `run_append_of_ok` join runs, so that a run over a given input list is
computed phase by phase, and `run_append_ok` splits one. A failed run failed at one of its inputs
(`run_eq_error`), and where each step's outputs are determined by its input, a run's are those of
its inputs in turn (`run_map_outputs`).
-/

namespace Steps

variable {σ ι ο ε : Type} (step : σ → ι → Except ε (σ × List ο))

/-- Feeds the inputs to `step` in order; the outputs of all steps, or the first error. -/
def run : σ → List ι → Except ε (σ × List ο)
  | s, [] => .ok (s, [])
  | s, i :: is =>
    match step s i with
    | .error e => .error e
    | .ok (t, o) =>
      match run t is with
      | .error e => .error e
      | .ok (u, os) => .ok (u, o ++ os)

/-- A bind that succeeded ran both parts successfully. -/
theorem bind_eq_ok {α β : Type} {x : Except ε α} {f : α → Except ε β} {b : β}
    (h : (x >>= f) = .ok b) : ∃ a, x = .ok a ∧ f a = .ok b := by
  cases x with
  | error e => cases h
  | ok a => exact ⟨a, rfl, h⟩

/-- A result that maps to a success came from a success. -/
theorem map_eq_ok {α β : Type} {x : Except ε α} {f : α → β} {b : β} (h : x.map f = .ok b) :
    ∃ a, x = .ok a ∧ f a = b := by
  cases x with
  | error e => cases h
  | ok a => exact ⟨a, rfl, Except.ok.inj h⟩

/-- A result whose error was mapped and that succeeded succeeded before. -/
theorem mapError_eq_ok {ε' α : Type} {x : Except ε α} {f : ε → ε'} {a : α}
    (h : x.mapError f = .ok a) : x = .ok a := by
  cases x with
  | error e => cases h
  | ok b => simpa [Except.mapError] using h

@[simp] theorem run_nil (s : σ) : run step s [] = .ok (s, []) := rfl

theorem run_cons_of_ok {s t : σ} {i : ι} {o : List ο} (is : List ι) (h : step s i = .ok (t, o)) :
    run step s (i :: is) = (run step t is).map fun r => (r.1, o ++ r.2) := by
  simp only [run, h]
  cases run step t is <;> rfl

/-- A successful step followed by a successful run is a successful run. -/
theorem run_cons_eq_ok {s t u : σ} {i : ι} {is : List ι} {o os : List ο}
    (hi : step s i = .ok (t, o)) (hrest : run step t is = .ok (u, os)) :
    run step s (i :: is) = .ok (u, o ++ os) := by
  rw [run_cons_of_ok step is hi, hrest]
  rfl

/-- A successful run of `i :: is` is a successful step followed by a successful run. -/
theorem run_cons_ok {s u : σ} {i : ι} {is : List ι} {os : List ο}
    (h : run step s (i :: is) = .ok (u, os)) :
    ∃ t o os', step s i = .ok (t, o) ∧ run step t is = .ok (u, os') ∧ os = o ++ os' := by
  unfold run at h
  split at h
  · cases h
  · rename_i t o hstep
    split at h
    · cases h
    · rename_i u' os' hrun
      simp only [Except.ok.injEq, Prod.mk.injEq] at h
      obtain ⟨rfl, rfl⟩ := h
      exact ⟨t, o, os', hstep, hrun, rfl⟩

/-- Two successful runs in a row are a successful run of the joined inputs. -/
theorem run_append_of_ok {is js : List ι} :
    ∀ {s t u : σ} {os₁ os₂ : List ο}, run step s is = .ok (t, os₁) →
      run step t js = .ok (u, os₂) → run step s (is ++ js) = .ok (u, os₁ ++ os₂) := by
  induction is with
  | nil =>
    intro s t u os₁ os₂ h₁ h₂
    simp only [run_nil, Except.ok.injEq, Prod.mk.injEq] at h₁
    obtain ⟨rfl, rfl⟩ := h₁
    exact h₂
  | cons i is ih =>
    intro s t u os₁ os₂ h₁ h₂
    obtain ⟨t', o, os', hi, hrun, rfl⟩ := run_cons_ok step h₁
    rw [List.cons_append, run_cons_of_ok step _ hi, ih hrun h₂]
    simp [Except.map]

/-- A successful run of joined inputs is a successful run of the first part followed by one of the
second. -/
theorem run_append_ok {is js : List ι} :
    ∀ {s u : σ} {os : List ο}, run step s (is ++ js) = .ok (u, os) →
      ∃ t os₁ os₂, run step s is = .ok (t, os₁) ∧ run step t js = .ok (u, os₂) ∧
        os = os₁ ++ os₂ := by
  induction is with
  | nil => exact fun h => ⟨_, [], _, rfl, h, rfl⟩
  | cons i is ih =>
    intro s u os h
    obtain ⟨t, o, os', hi, hrun, rfl⟩ := run_cons_ok step h
    obtain ⟨t', os₁, os₂, h₁, h₂, rfl⟩ := ih hrun
    exact ⟨t', o ++ os₁, os₂, run_cons_eq_ok step hi h₁, h₂, (List.append_assoc _ _ _).symm⟩

/-- A failed run failed at one of its inputs. -/
theorem run_eq_error {is : List ι} :
    ∀ {s : σ} {e : ε}, run step s is = .error e → ∃ i ∈ is, ∃ t, step t i = .error e := by
  induction is with
  | nil => intro s e h; cases h
  | cons i is ih =>
    intro s e h
    unfold run at h
    split at h
    · cases h
      exact ⟨i, List.mem_cons_self, s, ‹_›⟩
    · split at h
      · cases h
        obtain ⟨j, hj, t, ht⟩ := ih ‹_›
        exact ⟨j, List.mem_cons_of_mem i hj, t, ht⟩
      · cases h

/-- The output rule: where every successful step emits, seen through `f`, what its input
determines, a whole run emits that for each of its inputs in turn. -/
theorem run_map_outputs {κ : Type} (f : ο → κ) (g : ι → List κ)
    (hstep : ∀ s i t o, step s i = .ok (t, o) → o.map f = g i) :
    ∀ (is : List ι) (s u : σ) (os : List ο), run step s is = .ok (u, os) →
      os.map f = is.flatMap g := by
  intro is
  induction is with
  | nil =>
    intro s u os h
    simp only [run_nil, Except.ok.injEq, Prod.mk.injEq] at h
    obtain ⟨rfl, rfl⟩ := h
    rfl
  | cons i is ih =>
    intro s u os h
    obtain ⟨t, o, os', hi, hrun, rfl⟩ := run_cons_ok step h
    rw [List.map_append, hstep s i t o hi, ih t u os' hrun, List.flatMap_cons]

section Invariant

variable (P : σ → Prop)

/-- The run rule: a relation between a run's first state, its outputs and its last state that
holds of the empty run, composes along two runs and holds of every successful step from an
invariant state holds of every successful run. -/
theorem run_rel (R : σ → List ο → σ → Prop) (hnil : ∀ s, R s [] s)
    (htrans : ∀ s t u o os, R s o t → R t os u → R s (o ++ os) u)
    (hstep : ∀ s i t o, P s → step s i = .ok (t, o) → P t ∧ R s o t) :
    ∀ (is : List ι) (s u : σ) (os : List ο), P s → run step s is = .ok (u, os) →
      P u ∧ R s os u := by
  intro is
  induction is with
  | nil =>
    intro s u os hs h
    simp only [run_nil, Except.ok.injEq, Prod.mk.injEq] at h
    obtain ⟨rfl, rfl⟩ := h
    exact ⟨hs, hnil s⟩
  | cons i is ih =>
    intro s u os hs h
    obtain ⟨t, o, os', hi, hrun, rfl⟩ := run_cons_ok step h
    obtain ⟨ht, hst⟩ := hstep s i t o hs hi
    obtain ⟨hu, htu⟩ := ih t u os' ht hrun
    exact ⟨hu, htrans s t u o os' hst htu⟩

/-- The invariant rule: what every successful step keeps, every successful run keeps. -/
theorem run_inv (hstep : ∀ s i t o, P s → step s i = .ok (t, o) → P t) :
    ∀ (is : List ι) (s u : σ) (os : List ο), P s → run step s is = .ok (u, os) → P u := by
  intro is s u os hs h
  refine (run_rel step P (fun _ _ _ => True) (fun _ => trivial) (fun _ _ _ _ _ _ _ => trivial)
    ?_ is s u os hs h).1
  intro s i t o hs hi
  exact ⟨hstep s i t o hs hi, trivial⟩

/-- The invariant rule for runs whose inputs all satisfy `Q`. -/
theorem run_inv_of_forall (Q : ι → Prop)
    (hstep : ∀ s i t o, P s → Q i → step s i = .ok (t, o) → P t) :
    ∀ (is : List ι) (s u : σ) (os : List ο), (∀ i ∈ is, Q i) → P s →
      run step s is = .ok (u, os) → P u := by
  intro is
  induction is with
  | nil =>
    intro s u os _ hs h
    simp only [run_nil, Except.ok.injEq, Prod.mk.injEq] at h
    rw [← h.1]
    exact hs
  | cons i is ih =>
    intro s u os hQ hs h
    obtain ⟨t, o, os', hi, hrun, -⟩ := run_cons_ok step h
    have hQi : Q i := hQ i List.mem_cons_self
    exact ih t u os' (fun j hj => hQ j (List.mem_cons_of_mem i hj)) (hstep s i t o hs hQi hi) hrun

/-- The totality rule for runs whose inputs all satisfy `Q`: where every such step from an
invariant state succeeds and keeps the invariant, every such run does. -/
theorem run_ok_of_forall (Q : ι → Prop)
    (hstep : ∀ s i, P s → Q i → ∃ t o, step s i = .ok (t, o) ∧ P t) :
    ∀ (is : List ι) (s : σ), (∀ i ∈ is, Q i) → P s →
      ∃ u os, run step s is = .ok (u, os) ∧ P u := by
  intro is
  induction is with
  | nil => exact fun s _ hs => ⟨s, [], rfl, hs⟩
  | cons i is ih =>
    intro s hQ hs
    obtain ⟨t, o, hi, ht⟩ := hstep s i hs (hQ i List.mem_cons_self)
    obtain ⟨u, os, hrun, hu⟩ := ih t (fun j hj => hQ j (List.mem_cons_of_mem i hj)) ht
    exact ⟨u, o ++ os, run_cons_eq_ok step hi hrun, hu⟩

/-- The totality rule: where every step from an invariant state succeeds and keeps the
invariant, every run does. -/
theorem run_ok_of_step (hstep : ∀ s i, P s → ∃ t o, step s i = .ok (t, o) ∧ P t) :
    ∀ (is : List ι) (s : σ), P s → ∃ u os, run step s is = .ok (u, os) ∧ P u :=
  fun is s hs =>
    run_ok_of_forall step P (fun _ => True) (fun s i hs _ => hstep s i hs) is s
      (fun _ _ => trivial) hs

/-- The trace rule: an invariant of the inputs fed so far, the state reached and the outputs
emitted so far, that holds of the empty run, under which every step succeeds, and that every
step keeps, holds of every run, which succeeds. -/
theorem run_trace_inv (Inv : List ι → σ → List ο → Prop) (s : σ) (h₀ : Inv [] s [])
    (hstep : ∀ is t os i, Inv is t os → ∃ u o, step t i = .ok (u, o) ∧ Inv (is ++ [i]) u (os ++ o)) :
    ∀ is, ∃ u os, run step s is = .ok (u, os) ∧ Inv is u os := by
  intro is
  induction is using List.reverseRec with
  | nil => exact ⟨s, [], rfl, h₀⟩
  | append_singleton is i ih =>
    obtain ⟨t, os, hrun, ht⟩ := ih
    obtain ⟨u, o, hi, hu⟩ := hstep is t os i ht
    have hone : run step t [i] = .ok (u, o) := by
      simpa using run_cons_eq_ok step hi (run_nil step u)
    exact ⟨u, os ++ o, run_append_of_ok step hrun hone, hu⟩

/-- The potential rule: if every successful step from an invariant state emits as many outputs
satisfying `p` as the potential `Φ` drops, so does every successful run. -/
theorem run_countP_add (Φ : σ → Nat) (p : ο → Bool)
    (hstep : ∀ s i t o, P s → step s i = .ok (t, o) → P t ∧ o.countP p + Φ t = Φ s) :
    ∀ (is : List ι) (s u : σ) (os : List ο), P s → run step s is = .ok (u, os) →
      P u ∧ os.countP p + Φ u = Φ s := by
  refine run_rel step P (fun s os u => os.countP p + Φ u = Φ s) (fun _ => by simp) ?_ hstep
  intro s t u o os hst htu
  rw [List.countP_append]
  omega

/-- The potential rule for a bound: where every step emits at most the drop of `Φ`, a whole
run emits at most the drop from its first state to its last. -/
theorem run_countP_le (Φ : σ → Nat) (p : ο → Bool)
    (hstep : ∀ s i t o, P s → step s i = .ok (t, o) → P t ∧ o.countP p + Φ t ≤ Φ s) :
    ∀ (is : List ι) (s u : σ) (os : List ο), P s → run step s is = .ok (u, os) →
      P u ∧ os.countP p + Φ u ≤ Φ s := by
  refine run_rel step P (fun s os u => os.countP p + Φ u ≤ Φ s) (fun _ => by simp) ?_ hstep
  intro s t u o os hst htu
  rw [List.countP_append]
  omega

end Invariant

end Steps
