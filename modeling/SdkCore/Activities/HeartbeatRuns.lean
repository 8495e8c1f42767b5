import Mathlib.Data.List.Perm.Basic
import SdkCore.Activities.Heartbeat

/-!
# Heartbeats are coalesced

Without evictions the stream state and its executor agree on every task token (`Coalesced`): a
token with a record in flight has one report in flight and no throttle sleep, a throttled token
has one sleep and no report, and a token with no state has neither. The handlers a step runs
change one token's state and the executor's lists only at that token, and keep the agreement
there (`step_coalesced`). So over every run without `evict`, at most one report of a token is in
flight, exactly while its state says so (`run_coalesced`); `run_evictWhileInFlight` is a run with
an eviction where two are.
-/

namespace SdkCore.Heartbeat

open Maps

/-- The reports a token's state expects in flight. -/
def expectedReports : Option ActivityHeartbeatState → Nat
  | some st => if st.isRecordInFlight then 1 else 0
  | none => 0

/-- The throttle sleeps a token's state expects. -/
def expectedSleeps : Option ActivityHeartbeatState → Nat
  | some st => if st.isRecordInFlight then 0 else 1
  | none => 0

/-- The executor runs, token by token, what the stream state expects. -/
structure Coalesced (sys : HeartbeatSystem) : Prop where
  reports : ∀ tt, sys.reports.countP (·.1 == tt) = expectedReports (sys.stream.ttToState.lookup tt)
  sleeps : ∀ tt, sys.sleeps.countP (·.1 == tt) = expectedSleeps (sys.stream.ttToState.lookup tt)

theorem new_coalesced : Coalesced HeartbeatSystem.new :=
  ⟨fun _ => rfl, fun _ => rfl⟩

/-- A message that is not an eviction. -/
def HeartbeatInput.isEvict : HeartbeatInput → Bool
  | .evict _ _ _ => true
  | .record _ | .reportCompleted _ | .sleepElapsed _ => false

/-! ## The executor's lists, token by token -/

section Counts

variable {β : Type} (l : List (TaskToken × β))

theorem countP_append_self (t : TaskToken) (x : β) :
    (l ++ [(t, x)]).countP (·.1 == t) = l.countP (·.1 == t) + 1 := by
  simp [List.countP_append]

theorem countP_append_ne {t tt : TaskToken} (x : β) (h : tt ≠ t) :
    (l ++ [(t, x)]).countP (·.1 == tt) = l.countP (·.1 == tt) := by
  simp [List.countP_append, Ne.symm h]

theorem countP_eraseIdx_add {i : Nat} {t : TaskToken} {x : β} (hi : l[i]? = some (t, x))
    (tt : TaskToken) :
    (l.eraseIdx i).countP (·.1 == tt) + (if t == tt then 1 else 0) = l.countP (·.1 == tt) := by
  obtain ⟨hlt, heq⟩ := List.getElem?_eq_some_iff.1 hi
  have hperm := List.getElem_cons_eraseIdx_perm hlt
  rw [← List.Perm.countP_eq (fun r => r.1 == tt) hperm, List.countP_cons, heq, Nat.add_comm]

theorem countP_eraseIdx_self {i : Nat} {t : TaskToken} {x : β} (hi : l[i]? = some (t, x)) :
    (l.eraseIdx i).countP (·.1 == t) + 1 = l.countP (·.1 == t) := by
  simpa using countP_eraseIdx_add l hi t

theorem countP_eraseIdx_ne {i : Nat} {t tt : TaskToken} {x : β} (hi : l[i]? = some (t, x))
    (h : tt ≠ t) : (l.eraseIdx i).countP (·.1 == tt) = l.countP (·.1 == tt) := by
  simpa [Ne.symm h] using countP_eraseIdx_add l hi tt

theorem countP_pos_of_getElem? {i : Nat} {t : TaskToken} {x : β} (hi : l[i]? = some (t, x)) :
    0 < l.countP (·.1 == t) :=
  List.countP_pos_iff.2 ⟨(t, x), List.mem_of_getElem? hi, by simp⟩

end Counts

/-- With no cancellation among its signals, the executor keeps its sleeps and starts the
action. -/
theorem apply_report (sys : HeartbeatSystem) (stream : HeartbeatStreamState) (tt : TaskToken)
    (details : List Payload) {signals : List Signal} (h : cancelledTokens signals = []) :
    (sys.apply (stream, some (.report tt details), signals)).1 =
      { stream, reports := sys.reports ++ [(tt, details)], sleeps := sys.sleeps } := by
  simp [HeartbeatSystem.apply, h]

theorem apply_sleep (sys : HeartbeatSystem) (stream : HeartbeatStreamState) (tt : TaskToken)
    (token : CancellationTokenId) {signals : List Signal} (h : cancelledTokens signals = []) :
    (sys.apply (stream, some (.sleep tt token), signals)).1 =
      { stream, reports := sys.reports, sleeps := sys.sleeps ++ [(tt, token)] } := by
  simp [HeartbeatSystem.apply, h]

theorem apply_none (sys : HeartbeatSystem) (stream : HeartbeatStreamState)
    {signals : List Signal} (h : cancelledTokens signals = []) :
    (sys.apply (stream, none, signals)).1 =
      { stream, reports := sys.reports, sleeps := sys.sleeps } := by
  simp [HeartbeatSystem.apply, h]

@[simp] theorem cancelledTokens_append (a b : List Signal) :
    cancelledTokens (a ++ b) = cancelledTokens a ++ cancelledTokens b :=
  List.filterMap_append

@[simp] theorem cancelledTokens_map_notify (ns : List NotifyId) :
    cancelledTokens (ns.map Signal.notify) = [] := by
  induction ns with
  | nil => rfl
  | cons n ns ih => exact ih

/-! ## One token at a time -/

/-- A step that changes the state of the token `t` only, and the executor's lists only at `t`,
keeps the agreement once it holds at `t`. -/
theorem Coalesced.of_token {sys sys' : HeartbeatSystem} (h : Coalesced sys) (t : TaskToken)
    (hL : ∀ tt, tt ≠ t → sys'.stream.ttToState.lookup tt = sys.stream.ttToState.lookup tt)
    (hR : ∀ tt, tt ≠ t → sys'.reports.countP (·.1 == tt) = sys.reports.countP (·.1 == tt))
    (hS : ∀ tt, tt ≠ t → sys'.sleeps.countP (·.1 == tt) = sys.sleeps.countP (·.1 == tt))
    (hR₀ : sys'.reports.countP (·.1 == t) = expectedReports (sys'.stream.ttToState.lookup t))
    (hS₀ : sys'.sleeps.countP (·.1 == t) = expectedSleeps (sys'.stream.ttToState.lookup t)) :
    Coalesced sys' := by
  constructor
  · intro tt
    by_cases htt : tt = t
    · subst htt
      exact hR₀
    · rw [hR tt htt, hL tt htt]
      exact h.reports tt
  · intro tt
    by_cases htt : tt = t
    · subst htt
      exact hS₀
    · rw [hS tt htt, hL tt htt]
      exact h.sleeps tt

theorem lookup_insert_of_ne {ν : Type} (m : Map TaskToken ν) {t tt : TaskToken} (v : ν)
    (h : tt ≠ t) : (m.insert t v).lookup tt = m.lookup tt := by
  rw [lookup_insert_eq_ite, if_neg h]

theorem lookup_erase_of_ne {ν : Type} (m : Map TaskToken ν) {t tt : TaskToken} (h : tt ≠ t) :
    (m.erase t).lookup tt = m.lookup tt := by
  rw [lookup_erase_eq_ite, if_neg h]

/-- A report in flight is of a token whose record is in flight. -/
theorem Coalesced.inFlight_of_report {sys : HeartbeatSystem} (h : Coalesced sys) {i : Nat}
    {tt : TaskToken} {details : List Payload} (hi : sys.reports[i]? = some (tt, details)) :
    ∃ st, sys.stream.ttToState.lookup tt = some st ∧ st.isRecordInFlight = true := by
  have hpos := countP_pos_of_getElem? sys.reports hi
  rw [h.reports tt] at hpos
  cases hl : sys.stream.ttToState.lookup tt with
  | none => rw [hl] at hpos; cases hpos
  | some st =>
    rw [hl] at hpos
    cases hf : st.isRecordInFlight
    · simp [expectedReports, hf] at hpos
    · exact ⟨st, rfl, hf⟩

/-- A sleep not yet ended is of a throttled token. -/
theorem Coalesced.throttled_of_sleep {sys : HeartbeatSystem} (h : Coalesced sys) {i : Nat}
    {tt : TaskToken} {token : CancellationTokenId} (hi : sys.sleeps[i]? = some (tt, token)) :
    ∃ st, sys.stream.ttToState.lookup tt = some st ∧ st.isRecordInFlight = false := by
  have hpos := countP_pos_of_getElem? sys.sleeps hi
  rw [h.sleeps tt] at hpos
  cases hl : sys.stream.ttToState.lookup tt with
  | none => rw [hl] at hpos; cases hpos
  | some st =>
    rw [hl] at hpos
    cases hf : st.isRecordInFlight
    · exact ⟨st, rfl, hf⟩
    · simp [expectedSleeps, hf] at hpos

/-! ## The handlers -/

section Handlers

variable {sys : HeartbeatSystem} (h : Coalesced sys)
include h

theorem record_coalesced (hb : ValidActivityHeartbeat) :
    Coalesced (sys.apply (sys.stream.record hb)).1 := by
  unfold HeartbeatStreamState.record
  cases hl : sys.stream.ttToState.lookup hb.taskToken with
  | none =>
    -- the first heartbeat of a token is reported at once
    dsimp only
    rw [apply_report _ _ _ _ rfl]
    refine h.of_token hb.taskToken (fun _ htt => lookup_insert_of_ne _ _ htt)
      (fun _ htt => countP_append_ne _ _ htt) (fun _ _ => rfl) ?_ ?_
    · dsimp only
      rw [countP_append_self, h.reports, hl, AList.lookup_insert]
      rfl
    · dsimp only
      rw [h.sleeps, hl, AList.lookup_insert]
      rfl
  | some st =>
    dsimp only
    rw [apply_none _ _ rfl]
    refine h.of_token hb.taskToken (fun _ htt => lookup_insert_of_ne _ _ htt)
      (fun _ _ => rfl) (fun _ _ => rfl) ?_ ?_
    · dsimp only
      rw [h.reports, hl, AList.lookup_insert]
      rfl
    · dsimp only
      rw [h.sleeps, hl, AList.lookup_insert]
      rfl

theorem reportCompleted_coalesced {i : Nat} {tt : TaskToken} {details : List Payload}
    (hi : sys.reports[i]? = some (tt, details)) :
    Coalesced (HeartbeatSystem.apply { sys with reports := sys.reports.eraseIdx i }
      (sys.stream.handleReportCompleted tt)).1 := by
  obtain ⟨st, hl, hf⟩ := h.inFlight_of_report hi
  have hsleeps : sys.sleeps.countP (·.1 == tt) = 0 := by
    rw [h.sleeps, hl]
    simp [expectedSleeps, hf]
  have hreports : (sys.reports.eraseIdx i).countP (·.1 == tt) = 0 := by
    have := countP_eraseIdx_self sys.reports hi
    rw [h.reports, hl] at this
    simp only [expectedReports, hf, ↓reduceIte] at this
    omega
  unfold HeartbeatStreamState.handleReportCompleted
  dsimp only
  rw [hl]
  dsimp only
  rw [apply_sleep _ _ _ _ (by simp)]
  -- the report ends and the throttle sleep starts
  refine h.of_token tt (fun _ htt => lookup_insert_of_ne _ _ htt)
    (fun _ htt => countP_eraseIdx_ne _ hi htt) (fun _ htt => countP_append_ne _ _ htt) ?_ ?_
  · dsimp only
    rw [hreports, AList.lookup_insert]
    rfl
  · dsimp only
    rw [countP_append_self, hsleeps, AList.lookup_insert]
    rfl

theorem throttleCompleted_coalesced {i : Nat} {tt : TaskToken} {token : CancellationTokenId}
    (hi : sys.sleeps[i]? = some (tt, token)) :
    Coalesced (HeartbeatSystem.apply { sys with sleeps := sys.sleeps.eraseIdx i }
      (sys.stream.handleThrottleCompleted tt)).1 := by
  obtain ⟨st, hl, hf⟩ := h.throttled_of_sleep hi
  have hreports : sys.reports.countP (·.1 == tt) = 0 := by
    rw [h.reports, hl]
    simp [expectedReports, hf]
  have hsleeps : (sys.sleeps.eraseIdx i).countP (·.1 == tt) = 0 := by
    have := countP_eraseIdx_self sys.sleeps hi
    rw [h.sleeps, hl] at this
    simp only [expectedSleeps, hf, Bool.false_eq_true, ↓reduceIte] at this
    omega
  unfold HeartbeatStreamState.handleThrottleCompleted
  rw [hl]
  dsimp only
  cases hd : st.lastRecordedDetails with
  | some details =>
    -- the details recorded while throttled are reported
    dsimp only
    rw [apply_report _ _ _ _ rfl]
    refine h.of_token tt (fun _ htt => lookup_insert_of_ne _ _ htt)
      (fun _ htt => countP_append_ne _ _ htt) (fun _ htt => countP_eraseIdx_ne _ hi htt) ?_ ?_
    · dsimp only
      rw [countP_append_self, hreports, AList.lookup_insert]
      rfl
    · dsimp only
      rw [hsleeps, AList.lookup_insert]
      rfl
  | none =>
    -- nothing was recorded while throttled: the token's state goes
    dsimp only
    rw [apply_none _ _ rfl]
    refine h.of_token tt (fun _ htt => lookup_erase_of_ne _ htt)
      (fun _ _ => rfl) (fun _ htt => countP_eraseIdx_ne _ hi htt) ?_ ?_
    · dsimp only
      rw [hreports, AList.lookup_erase]
      rfl
    · dsimp only
      rw [hsleeps, AList.lookup_erase]
      rfl

end Handlers

/-! ## Runs -/

theorem step_coalesced {sys : HeartbeatSystem} (h : Coalesced sys) {i : HeartbeatInput}
    (hi : i.isEvict = false) : ∃ t o, step sys i = .ok (t, o) ∧ Coalesced t := by
  cases i with
  | record hb => exact ⟨_, _, rfl, record_coalesced h hb⟩
  | evict => cases hi
  | reportCompleted j =>
    cases hr : sys.reports[j]? with
    | none => exact ⟨sys, [], by simp [step, hr], h⟩
    | some r =>
      obtain ⟨tt, details⟩ := r
      have hstep : step sys (.reportCompleted j) = .ok (HeartbeatSystem.apply
          { sys with reports := sys.reports.eraseIdx j } (sys.stream.handleReportCompleted tt)) := by
        simp only [step, hr]
      exact ⟨_, _, hstep, reportCompleted_coalesced h hr⟩
  | sleepElapsed j =>
    cases hs : sys.sleeps[j]? with
    | none => exact ⟨sys, [], by simp [step, hs], h⟩
    | some r =>
      obtain ⟨tt, token⟩ := r
      have hstep : step sys (.sleepElapsed j) = .ok (HeartbeatSystem.apply
          { sys with sleeps := sys.sleeps.eraseIdx j } (sys.stream.handleThrottleCompleted tt)) := by
        simp only [step, hs]
      exact ⟨_, _, hstep, throttleCompleted_coalesced h hs⟩

/-- Over every run without evictions, which succeeds, at most one report of a task token is in
flight, and one is exactly while the token's state has its record in flight. -/
theorem run_coalesced (inputs : List HeartbeatInput) (hno : ∀ i ∈ inputs, i.isEvict = false) :
    ∃ sys outs, Steps.run step HeartbeatSystem.new inputs = .ok (sys, outs) ∧
      ∀ tt, sys.reports.countP (·.1 == tt) ≤ 1 ∧
        (sys.reports.countP (·.1 == tt) = 1 ↔
          ∃ st, sys.stream.ttToState.lookup tt = some st ∧ st.isRecordInFlight = true) := by
  obtain ⟨sys, outs, hrun, hc⟩ := Steps.run_ok_of_forall step Coalesced
    (fun i => i.isEvict = false) (fun _ _ hs hi => step_coalesced hs hi) inputs _ hno
    new_coalesced
  refine ⟨sys, outs, hrun, fun tt => ?_⟩
  rw [hc.reports tt]
  cases sys.stream.ttToState.lookup tt with
  | none => simp [expectedReports]
  | some st => cases hf : st.isRecordInFlight <;> simp [expectedReports, hf]

/-- Two heartbeats of token 7, the end of the first report, the end of its throttle sleep,
which reports the second heartbeat, and a third heartbeat. -/
def throttledInputs : List HeartbeatInput :=
  [.record ⟨7, detailsOf 0, none⟩, .record ⟨7, detailsOf 1, none⟩, .reportCompleted 0,
   .sleepElapsed 0, .record ⟨7, detailsOf 2, none⟩]

theorem run_coalesced_throttled :
    (∀ i ∈ throttledInputs, i.isEvict = false) ∧
      ∃ sys outs, Steps.run step HeartbeatSystem.new throttledInputs = .ok (sys, outs) ∧
        ∀ tt, sys.reports.countP (·.1 == tt) ≤ 1 ∧
          (sys.reports.countP (·.1 == tt) = 1 ↔
            ∃ st, sys.stream.ttToState.lookup tt = some st ∧ st.isRecordInFlight = true) :=
  ⟨by decide, run_coalesced throttledInputs (by decide)⟩

end SdkCore.Heartbeat
