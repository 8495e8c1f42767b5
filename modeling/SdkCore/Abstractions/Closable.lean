import SdkCore.Steps

/-!
# The closable permit dealer

`crates/sdk-core/src/abstractions.rs`. `ClosableMeteredPermitDealer` wraps a dealer with a count
of the permits it has handed out and not had back (`outstanding_permits`), a flag set by `close`
(`close_requested`) and a token cancelled when close completes (`close_complete_token`).

The model is the interleaving of one closing thread with any number of acquiring threads, one
atomic load, store or read-modify-write per step. An acquiring thread calls `try_acquire_owned`
once and, if it gets a permit, drops it later; the inner dealer's answer is the scheduler's
choice. `close` and the acquire path each read the other's flag or counter in a separate step,
so a close that runs between the check of `close_requested` and the increment misses the permit
about to be handed out, and a close that runs between the increment and the decrement of a
failed acquire waits for a permit that never comes (`run_closeRaces`). An acquire that begins
once close has returned is refused (`run_refusedAfterClose`).
-/

namespace SdkCore.Closable

/-- The three atomics of `ClosableMeteredPermitDealer`. -/
structure ClosableShared where
  outstandingPermits : Nat
  closeRequested : Bool
  closeCompleteCancelled : Bool
  deriving Repr, DecidableEq

/-- Where the closing thread is in `close`. -/
inductive CloserPhase where
  | ready
  | stored
  | sawZero
  | returned
  deriving Repr, DecidableEq

/-- Where an acquiring thread is: in `try_acquire_owned`, holding its permit, or in the
`on_permit_dropped` of its permit's drop. -/
inductive AcquirerPhase where
  | ready
  | checked
  | added
  | failed
  | refused
  | holding
  | subtracted
  | sawClose
  | sawZero
  | dropped
  deriving Repr, DecidableEq

/-- The dealer and its threads. -/
structure ClosableSystem where
  shared : ClosableShared
  closer : CloserPhase
  acquirers : List AcquirerPhase
  deriving Repr, DecidableEq

/-- `new_arc`, with `n` threads about to acquire. -/
def ClosableSystem.new (n : Nat) : ClosableSystem :=
  { shared := { outstandingPermits := 0, closeRequested := false, closeCompleteCancelled := false },
    closer := .ready, acquirers := List.replicate n .ready }

/-- The scheduler's choice: the closing thread, or an acquiring thread with the inner dealer's
answer should its next step ask it. -/
inductive ClosableSched where
  | closer
  | acquirer (i : Nat) (innerOk : Bool)
  deriving Repr, DecidableEq

/-- What the callers see. -/
inductive ClosableEvent where
  | cancelled
  | acquired (i : Nat)
  | refused (i : Nat)
  deriving Repr, DecidableEq

/-- One step of `close`: the store of `close_requested`, the load of `outstanding_permits`, and
the cancel if it was zero. -/
def closerStep (sh : ClosableShared) :
    CloserPhase → ClosableShared × CloserPhase × List ClosableEvent
  | .ready => ({ sh with closeRequested := true }, .stored, [])
  | .stored => (sh, if sh.outstandingPermits = 0 then .sawZero else .returned, [])
  | .sawZero => ({ sh with closeCompleteCancelled := true }, .returned, [.cancelled])
  | .returned => (sh, .returned, [])

/-- One step of acquiring thread `i`: `try_acquire_owned` loads `close_requested`, increments,
asks the inner dealer and on failure decrements; the drop's `on_permit_dropped` decrements,
loads `close_requested`, loads `outstanding_permits` and cancels if it was zero. -/
def acquirerStep (sh : ClosableShared) (i : Nat) (innerOk : Bool) :
    AcquirerPhase → ClosableShared × AcquirerPhase × List ClosableEvent
  | .ready => if sh.closeRequested then (sh, .refused, [.refused i]) else (sh, .checked, [])
  | .checked => ({ sh with outstandingPermits := sh.outstandingPermits + 1 }, .added, [])
  | .added => if innerOk then (sh, .holding, [.acquired i]) else (sh, .failed, [])
  | .failed =>
    ({ sh with outstandingPermits := sh.outstandingPermits - 1 }, .refused, [.refused i])
  | .refused => (sh, .refused, [])
  | .holding => ({ sh with outstandingPermits := sh.outstandingPermits - 1 }, .subtracted, [])
  | .subtracted => (sh, if sh.closeRequested then .sawClose else .dropped, [])
  | .sawClose => (sh, if sh.outstandingPermits = 0 then .sawZero else .dropped, [])
  | .sawZero => ({ sh with closeCompleteCancelled := true }, .dropped, [.cancelled])
  | .dropped => (sh, .dropped, [])

/-- One step of the thread the scheduler picks; a thread that is not there does nothing. -/
def step (s : ClosableSystem) :
    ClosableSched → Except String (ClosableSystem × List ClosableEvent)
  | .closer =>
    let (shared, closer, out) := closerStep s.shared s.closer
    .ok ({ s with shared, closer }, out)
  | .acquirer i innerOk =>
    match s.acquirers[i]? with
    | some ph =>
      let (shared, ph, out) := acquirerStep s.shared i innerOk ph
      .ok ({ s with shared, acquirers := s.acquirers.set i ph }, out)
    | none => .ok (s, [])

/-! ## Two races with `close` -/

/-- A failed acquire increments before close loads the count and decrements after. -/
def lostWakeupSchedule : List ClosableSched :=
  [.acquirer 0 true, .acquirer 0 true, .closer, .closer, .acquirer 0 false, .acquirer 0 false]

/-- An acquire checks the flag before close stores it and increments after close completed. -/
def lateAcquireSchedule : List ClosableSched :=
  [.acquirer 0 true, .closer, .closer, .closer, .acquirer 0 true, .acquirer 0 true]

/-- On the first schedule close has returned, no permit was handed out, every thread is done and
the token is not cancelled; on the second the token is cancelled while the permit handed out is
held. -/
theorem run_closeRaces :
    (∃ s, Steps.run step (ClosableSystem.new 1) lostWakeupSchedule = .ok (s, [.refused 0]) ∧
      s.closer = .returned ∧ s.acquirers = [.refused] ∧
      s.shared.closeCompleteCancelled = false) ∧
    (∃ s, Steps.run step (ClosableSystem.new 1) lateAcquireSchedule =
        .ok (s, [.cancelled, .acquired 0]) ∧
      s.acquirers = [.holding] ∧ s.shared.closeCompleteCancelled = true) :=
  ⟨⟨_, rfl, rfl, rfl, rfl⟩, ⟨_, rfl, rfl, rfl⟩⟩

/-! ## What each step does to the flags -/

/-- The phases of a thread whose increment of `outstanding_permits` is not yet undone. -/
def AcquirerPhase.counted : AcquirerPhase → Bool
  | .added | .failed | .holding => true
  | .ready | .checked | .refused | .subtracted | .sawClose | .sawZero | .dropped => false

/-- The phases of a thread that will still load `outstanding_permits`, or cancel. -/
def AcquirerPhase.obliged : AcquirerPhase → Bool
  | .checked | .added | .holding | .subtracted | .sawClose | .sawZero => true
  | .ready | .failed | .refused | .dropped => false

@[simp] theorem closerStep_outstandingPermits (sh : ClosableShared) (ph : CloserPhase) :
    (closerStep sh ph).1.outstandingPermits = sh.outstandingPermits := by
  cases ph <;> rfl

@[simp] theorem acquirerStep_closeRequested (sh : ClosableShared) (i : Nat) (b : Bool)
    (ph : AcquirerPhase) : (acquirerStep sh i b ph).1.closeRequested = sh.closeRequested := by
  cases ph <;> simp only [acquirerStep] <;> split <;> rfl

theorem closerStep_closeRequested (sh : ClosableShared) (ph : CloserPhase)
    (h : sh.closeRequested = true ↔ ph ≠ .ready) :
    (closerStep sh ph).1.closeRequested = true ↔ (closerStep sh ph).2.1 ≠ .ready := by
  cases ph <;> simp only [closerStep] at h ⊢
  case stored => split <;> simpa using h
  all_goals simp_all

theorem closerStep_cancelled (sh : ClosableShared) (ph : CloserPhase)
    (h : sh.closeCompleteCancelled = true) : (closerStep sh ph).1.closeCompleteCancelled = true := by
  cases ph <;> simp [closerStep, h]

theorem acquirerStep_cancelled (sh : ClosableShared) (i : Nat) (b : Bool) (ph : AcquirerPhase)
    (h : sh.closeCompleteCancelled = true) :
    (acquirerStep sh i b ph).1.closeCompleteCancelled = true := by
  cases ph <;> simp only [acquirerStep] <;> (try split) <;> simp [h]

/-- The threads other than the one stepping keep their phases: the counts over the list change
by the stepping thread alone. -/
theorem countP_set_add {α : Type} (p : α → Bool) {l : List α} {j : Nat} {a : α} (b : α)
    (h : l[j]? = some a) :
    (l.set j b).countP p + (if p a then 1 else 0) = l.countP p + (if p b then 1 else 0) := by
  obtain ⟨hj, rfl⟩ := List.getElem?_eq_some_iff.1 h
  have hpos : p l[j] = true → 0 < l.countP p :=
    fun hp => List.countP_pos_iff.2 ⟨l[j], List.getElem_mem hj, hp⟩
  rw [List.countP_set hj]
  split <;> split <;> simp_all

/-! ## Once close has returned, acquires are refused -/

/-- `close_requested` is set exactly when the closing thread has begun. -/
def Requested (s : ClosableSystem) : Prop :=
  s.shared.closeRequested = true ↔ s.closer ≠ .ready

theorem step_requested {s t : ClosableSystem} {x : ClosableSched} {o : List ClosableEvent}
    (hs : Requested s) (h : step s x = .ok (t, o)) : Requested t := by
  cases x with
  | closer =>
    simp only [step, Except.ok.injEq, Prod.mk.injEq] at h
    rw [← h.1]
    exact closerStep_closeRequested s.shared s.closer hs
  | acquirer j b =>
    simp only [step] at h
    split at h
    · simp only [Except.ok.injEq, Prod.mk.injEq] at h
      rw [← h.1]
      simpa [Requested] using hs
    · simp only [Except.ok.injEq, Prod.mk.injEq] at h
      rw [← h.1]
      exact hs

theorem new_requested (n : Nat) : Requested (ClosableSystem.new n) := by
  simp [Requested, ClosableSystem.new]

/-- While `close_requested` is set, thread `i` stays ready or refused, and never acquires. -/
def StaysRefused (i : Nat) (s : ClosableSystem) : Prop :=
  s.shared.closeRequested = true ∧
    (s.acquirers[i]? = some .ready ∨ s.acquirers[i]? = some .refused)

theorem acquirerStep_acquired {sh : ClosableShared} {i j : Nat} {b : Bool} {ph : AcquirerPhase}
    (h : ClosableEvent.acquired i ∈ (acquirerStep sh j b ph).2.2) : i = j ∧ ph = .added := by
  cases ph <;> simp only [acquirerStep] at h <;> (try split at h) <;> simp_all

theorem step_staysRefused {i : Nat} {s t : ClosableSystem} {x : ClosableSched}
    {o : List ClosableEvent} (hs : StaysRefused i s) (h : step s x = .ok (t, o)) :
    StaysRefused i t ∧ ClosableEvent.acquired i ∉ o := by
  obtain ⟨hreq, hi⟩ := hs
  cases x with
  | closer =>
    simp only [step, Except.ok.injEq, Prod.mk.injEq] at h
    obtain ⟨rfl, rfl⟩ := h
    refine ⟨⟨?_, hi⟩, ?_⟩
    · cases hc : s.closer <;> simp [closerStep, hreq]
    · cases s.closer <;> simp [closerStep]
  | acquirer j b =>
    simp only [step] at h
    split at h
    · rename_i ph hph
      simp only [Except.ok.injEq, Prod.mk.injEq] at h
      obtain ⟨rfl, rfl⟩ := h
      by_cases hij : j = i
      · subst hij
        have hlt : j < s.acquirers.length := (List.getElem?_eq_some_iff.1 hph).1
        have hph' : ph = .ready ∨ ph = .refused := by
          rcases hi with hi | hi <;> rw [hph] at hi <;> simp_all
        rcases hph' with rfl | rfl <;>
          simp [StaysRefused, acquirerStep, hreq, List.getElem?_set_self hlt]
      · refine ⟨⟨by simpa using hreq, by rwa [List.getElem?_set_ne hij]⟩, ?_⟩
        intro hacq
        exact hij (acquirerStep_acquired hacq).1.symm
    · simp only [Except.ok.injEq, Prod.mk.injEq] at h
      obtain ⟨rfl, rfl⟩ := h
      exact ⟨⟨hreq, hi⟩, by simp⟩

/-- An acquire that begins once close has returned is refused, whatever the schedule after. -/
theorem run_refusedAfterClose (n : Nat) (is js : List ClosableSched) {s u : ClosableSystem}
    {os os' : List ClosableEvent} (i : Nat)
    (hs : Steps.run step (ClosableSystem.new n) is = .ok (s, os)) (hclosed : s.closer = .returned)
    (hready : s.acquirers[i]? = some .ready) (hu : Steps.run step s js = .ok (u, os')) :
    ClosableEvent.acquired i ∉ os' ∧
      (u.acquirers[i]? = some .ready ∨ u.acquirers[i]? = some .refused) := by
  have hreq : Requested s :=
    Steps.run_inv step Requested (fun _ _ _ _ hs h => step_requested hs h) is _ s os
      (new_requested n) hs
  have hflag : s.shared.closeRequested = true := hreq.2 (by rw [hclosed]; nofun)
  obtain ⟨⟨-, hphase⟩, hout⟩ := Steps.run_rel step (StaysRefused i)
    (fun _ os _ => ClosableEvent.acquired i ∉ os) (fun _ => by simp)
    (fun _ _ _ _ _ h₁ h₂ => by simp [h₁, h₂]) (fun _ _ _ _ hs h => step_staysRefused hs h)
    js s u os' ⟨hflag, .inl hready⟩ hu
  exact ⟨hout, hphase⟩

/-- Close returns before the second of two threads begins, which is then refused. -/
theorem run_refusedAfterClose_closedFirst :
    ∃ s u os os', Steps.run step (ClosableSystem.new 2) [.closer, .closer, .closer] = .ok (s, os) ∧
      Steps.run step s [.acquirer 1 true, .acquirer 1 true] = .ok (u, os') ∧
      ClosableEvent.acquired 1 ∉ os' :=
  ⟨_, _, _, _, rfl, rfl, (run_refusedAfterClose 2 [.closer, .closer, .closer]
    [.acquirer 1 true, .acquirer 1 true] 1 rfl rfl rfl rfl).1⟩

/-! ## Close completes when no acquire fails -/

/-- What holds on every schedule on which the inner dealer never refuses: the count is the
number of increments not undone, no thread has a failed acquire, and once close is requested
the token is cancelled or some thread will still load the count or cancel. -/
structure Completes (s : ClosableSystem) : Prop where
  counted : s.shared.outstandingPermits = s.acquirers.countP AcquirerPhase.counted
  requested : Requested s
  noFailed : AcquirerPhase.failed ∉ s.acquirers
  obliged : s.shared.closeRequested = true → s.shared.closeCompleteCancelled = true ∨
    s.closer = .stored ∨ s.closer = .sawZero ∨ 0 < s.acquirers.countP AcquirerPhase.obliged

theorem countP_counted_le_obliged {l : List AcquirerPhase} (h : AcquirerPhase.failed ∉ l) :
    l.countP AcquirerPhase.counted ≤ l.countP AcquirerPhase.obliged := by
  apply List.countP_mono_left
  intro ph hph hc
  cases ph <;> simp_all [AcquirerPhase.counted, AcquirerPhase.obliged]

/-- One step of a thread moves the count by its own increment or decrement. -/
theorem acquirerStep_outstandingPermits (sh : ClosableShared) (j : Nat) (b : Bool)
    (ph : AcquirerPhase) (hpos : ph.counted = true → 0 < sh.outstandingPermits) :
    (acquirerStep sh j b ph).1.outstandingPermits + (if ph.counted then 1 else 0) =
      sh.outstandingPermits + (if (acquirerStep sh j b ph).2.1.counted then 1 else 0) := by
  cases ph
  case ready => by_cases h : sh.closeRequested <;> simp [acquirerStep, h, AcquirerPhase.counted]
  case added => cases b <;> simp [acquirerStep, AcquirerPhase.counted]
  case subtracted =>
    by_cases h : sh.closeRequested <;> simp [acquirerStep, h, AcquirerPhase.counted]
  case sawClose =>
    by_cases h : sh.outstandingPermits = 0 <;> simp [acquirerStep, h, AcquirerPhase.counted]
  case failed | holding =>
    simp only [AcquirerPhase.counted, forall_const] at hpos
    simp [acquirerStep, AcquirerPhase.counted]
    omega
  all_goals simp [acquirerStep, AcquirerPhase.counted]

theorem acquirerStep_ne_failed (sh : ClosableShared) (j : Nat) (ph : AcquirerPhase) :
    (acquirerStep sh j true ph).2.1 ≠ .failed := by
  cases ph
  case ready => by_cases h : sh.closeRequested <;> simp [acquirerStep, h]
  case subtracted => by_cases h : sh.closeRequested <;> simp [acquirerStep, h]
  case sawClose => by_cases h : sh.outstandingPermits = 0 <;> simp [acquirerStep, h]
  all_goals simp [acquirerStep]

/-- A thread that stops being obliged has cancelled, or has seen a count that is not zero. -/
theorem acquirerStep_discharged (sh : ClosableShared) (j : Nat) (ph : AcquirerPhase)
    (hflag : sh.closeRequested = true) (hob : ph.obliged = true)
    (hob' : (acquirerStep sh j true ph).2.1.obliged = false) :
    (acquirerStep sh j true ph).1.closeCompleteCancelled = true ∨
      (ph = .sawClose ∧ (acquirerStep sh j true ph).2.1 = .dropped ∧
        sh.outstandingPermits ≠ 0) := by
  cases ph
  case subtracted => simp [acquirerStep, hflag, AcquirerPhase.obliged] at hob'
  case sawClose =>
    by_cases h : sh.outstandingPermits = 0
    · simp [acquirerStep, h, AcquirerPhase.obliged] at hob'
    · simp [acquirerStep, h]
  case sawZero => simp [acquirerStep]
  all_goals simp [acquirerStep, AcquirerPhase.obliged] at hob hob'

theorem completes_closer {s : ClosableSystem} (hI : Completes s) :
    Completes { s with shared := (closerStep s.shared s.closer).1,
                       closer := (closerStep s.shared s.closer).2.1 } := by
  refine ⟨by simpa using hI.counted, closerStep_closeRequested _ _ hI.requested, hI.noFailed, ?_⟩
  intro hflag
  have hle := countP_counted_le_obliged hI.noFailed
  cases hc : s.closer with
  | ready => simp [closerStep]
  | stored =>
    simp only [closerStep]
    by_cases h0 : s.shared.outstandingPermits = 0
    · simp [h0]
    · simp only [h0, ↓reduceIte]
      have := hI.counted
      omega
  | sawZero => simp [closerStep]
  | returned =>
    simp only [hc, closerStep] at hflag ⊢
    rcases hI.obliged hflag with h | h | h | h
    · exact .inl h
    · rw [hc] at h; cases h
    · rw [hc] at h; cases h
    · exact .inr (.inr (.inr h))

theorem completes_acquirer {s : ClosableSystem} {j : Nat} {ph : AcquirerPhase}
    (hI : Completes s) (hj : s.acquirers[j]? = some ph) :
    Completes { s with shared := (acquirerStep s.shared j true ph).1,
                       acquirers := s.acquirers.set j (acquirerStep s.shared j true ph).2.1 } := by
  have hmem : ph ∈ s.acquirers := List.mem_of_getElem? hj
  have hpos : ph.counted = true → 0 < s.shared.outstandingPermits := fun hc => by
    rw [hI.counted]
    exact List.countP_pos_iff.2 ⟨ph, hmem, hc⟩
  have hcount := countP_set_add AcquirerPhase.counted (acquirerStep s.shared j true ph).2.1 hj
  have hstep := acquirerStep_outstandingPermits s.shared j true ph hpos
  have hnf : AcquirerPhase.failed ∉ s.acquirers.set j (acquirerStep s.shared j true ph).2.1 := by
    intro h
    rcases List.mem_or_eq_of_mem_set h with h | h
    · exact hI.noFailed h
    · exact acquirerStep_ne_failed s.shared j ph h.symm
  refine ⟨?_, by simpa [Requested] using hI.requested, hnf, ?_⟩
  · have := hI.counted
    simp only
    omega
  · intro hflag
    simp only [acquirerStep_closeRequested] at hflag
    have hob := countP_set_add AcquirerPhase.obliged (acquirerStep s.shared j true ph).2.1 hj
    have hle := countP_counted_le_obliged hnf
    rcases hI.obliged hflag with h | h | h | h
    · exact .inl (acquirerStep_cancelled _ _ _ _ h)
    · exact .inr (.inl h)
    · exact .inr (.inr (.inl h))
    -- the thread stepping is the only one whose obligation can lapse
    refine (em ((acquirerStep s.shared j true ph).1.closeCompleteCancelled = true)).elim
      .inl fun hnc => .inr (.inr (.inr ?_))
    show 0 < (s.acquirers.set j (acquirerStep s.shared j true ph).2.1).countP
      AcquirerPhase.obliged
    by_cases hph : ph.obliged = true
    · by_cases hph' : (acquirerStep s.shared j true ph).2.1.obliged = true
      · simp only [hph, hph', ↓reduceIte] at hob
        omega
      · rcases acquirerStep_discharged s.shared j ph hflag hph (by simpa using hph') with
          hc | ⟨rfl, hd, h0⟩
        · exact absurd hc hnc
        · simp only [hd, AcquirerPhase.counted, Bool.false_eq_true, ↓reduceIte] at hcount hle ⊢
          have := hI.counted
          omega
    · simp only [hph, Bool.false_eq_true, ↓reduceIte] at hob
      split at hob <;> omega

theorem new_completes (n : Nat) : Completes (ClosableSystem.new n) := by
  refine ⟨?_, new_requested n, ?_, ?_⟩
  · simp [ClosableSystem.new, List.countP_replicate, AcquirerPhase.counted]
  · simp [ClosableSystem.new]
  · simp [ClosableSystem.new]

theorem step_completes {s t : ClosableSystem} {x : ClosableSched} {o : List ClosableEvent}
    (hI : Completes s) (hx : ∀ j b, x = .acquirer j b → b = true)
    (h : step s x = .ok (t, o)) : Completes t := by
  cases x with
  | closer =>
    simp only [step, Except.ok.injEq, Prod.mk.injEq] at h
    rw [← h.1]
    exact completes_closer hI
  | acquirer j b =>
    obtain rfl := hx j b rfl
    simp only [step] at h
    split at h
    · rename_i ph hph
      simp only [Except.ok.injEq, Prod.mk.injEq] at h
      rw [← h.1]
      exact completes_acquirer hI hph
    · simp only [Except.ok.injEq, Prod.mk.injEq] at h
      rw [← h.1]
      exact hI

/-- On a schedule on which the inner dealer never refuses, close completes: once it has
returned and no thread is in a call or a drop, the token is cancelled. -/
theorem run_closeCompletes (n : Nat) (is : List ClosableSched) {u : ClosableSystem}
    {os : List ClosableEvent} (hok : ∀ j b, ClosableSched.acquirer j b ∈ is → b = true)
    (h : Steps.run step (ClosableSystem.new n) is = .ok (u, os)) (hclosed : u.closer = .returned)
    (hdone : ∀ ph ∈ u.acquirers, ph = .ready ∨ ph = .refused ∨ ph = .dropped) :
    u.shared.closeCompleteCancelled = true := by
  have hI : Completes u :=
    Steps.run_inv_of_forall step Completes (fun x => ∀ j b, x = .acquirer j b → b = true)
      (fun _ _ _ _ hs hx h => step_completes hs hx h) is _ u os
      (fun x hx j b hxj => hok j b (hxj ▸ hx)) (new_completes n) h
  have hflag : u.shared.closeRequested = true := hI.requested.2 (by rw [hclosed]; nofun)
  rcases hI.obliged hflag with hc | hc | hc | hc
  · exact hc
  · rw [hclosed] at hc; cases hc
  · rw [hclosed] at hc; cases hc
  · obtain ⟨ph, hph, hob⟩ := List.countP_pos_iff.1 hc
    rcases hdone ph hph with rfl | rfl | rfl <;> simp [AcquirerPhase.obliged] at hob

/-- A thread acquires, close runs while it holds the permit, and the thread drops it. -/
def dropAfterCloseSchedule : List ClosableSched :=
  [.acquirer 0 true, .acquirer 0 true, .acquirer 0 true, .closer, .closer,
   .acquirer 0 true, .acquirer 0 true, .acquirer 0 true, .acquirer 0 true]

theorem run_closeCompletes_dropAfterClose :
    ∃ u os, Steps.run step (ClosableSystem.new 1) dropAfterCloseSchedule = .ok (u, os) ∧
      u.shared.closeCompleteCancelled = true :=
  ⟨_, _, rfl, run_closeCompletes 1 dropAfterCloseSchedule (by simp [dropAfterCloseSchedule]) rfl
    rfl (by decide)⟩

end SdkCore.Closable
