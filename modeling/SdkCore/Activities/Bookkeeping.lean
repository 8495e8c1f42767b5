import SdkCore.Activities.LocalActivities

/-!
# The bookkeeping of the local activity manager

What every run of the manager's operations keeps, from a new manager on (`run_tracked`):

* every outstanding task token is the token of the entry of its activity (`tracked`);
* every queued request has an entry, is not in flight, and no two queued requests are for one
  activity (`queued`, `queuedIdle`, `queueNodup`);
* a sleeping backoff task will send a retry for its own activity, which is then neither in
  flight nor queued (`sleeping`);
* tokens come from the counter and are distinct (`fresh`, `distinct`).

The second point is what makes `next_pending` total: the request it receives always finds its
entry, so the panic of `expect("Activity must exist")` is never reached. The operations that only
change an entry's timers, flags or backoff keep its token; `SameTokens` states that once, and
`Bookkeeping.of_sameTokens` carries the invariant over them.
-/

namespace SdkCore.LocalActivities

open Maps

/-- The activity a request is for. -/
def NewOrRetry.id : NewOrRetry → ExecutingLAId
  | .new act => act.id
  | .retry inFlight _ => inFlight.id

/-- The invariant of the manager's maps and request channel. -/
structure Bookkeeping (s : LocalActivityManager) : Prop where
  tracked : ∀ tt info, s.dat.outstandingActivityTasks.lookup tt = some info →
    ∃ lai, s.dat.laInfo.lookup info.laInfo.id = some lai ∧ lai.taskToken = tt
  queued : ∀ r ∈ s.actReqs, ∃ lai, s.dat.laInfo.lookup r.id = some lai
  queuedIdle : ∀ r ∈ s.actReqs, ∀ tt info, s.dat.outstandingActivityTasks.lookup tt = some info →
    info.laInfo.id ≠ r.id
  queueNodup : (s.actReqs.map NewOrRetry.id).Nodup
  sleeping : ∀ id lai r, s.dat.laInfo.lookup id = some lai →
    lai.backingOffTask = some (.sleeping r) →
    r.id = id ∧ (∀ tt info, s.dat.outstandingActivityTasks.lookup tt = some info →
      info.laInfo.id ≠ id) ∧ id ∉ s.actReqs.map NewOrRetry.id
  fresh : ∀ id lai, s.dat.laInfo.lookup id = some lai → lai.taskToken ≤ s.dat.nextTtNum
  distinct : ∀ id₁ id₂ lai₁ lai₂, s.dat.laInfo.lookup id₁ = some lai₁ →
    s.dat.laInfo.lookup id₂ = some lai₂ → lai₁.taskToken = lai₂.taskToken → id₁ = id₂

theorem new_bookkeeping : Bookkeeping LocalActivityManager.new := by
  refine ⟨?_, ?_, ?_, ?_, ?_, ?_, ?_⟩ <;> simp [LocalActivityManager.new, AList.lookup_empty]

/-! ## Entries that keep their tokens -/

/-- `L'` has the keys and tokens of `L`, and a backoff task sleeping in `L'` sleeps in `L`. -/
def SameTokens (L L' : Map ExecutingLAId LocalActivityInfo) : Prop :=
  ∀ id, (L'.lookup id).map LocalActivityInfo.taskToken =
      (L.lookup id).map LocalActivityInfo.taskToken ∧
    ∀ lai' r, L'.lookup id = some lai' → lai'.backingOffTask = some (.sleeping r) →
      ∃ lai, L.lookup id = some lai ∧ lai.backingOffTask = some (.sleeping r)

theorem SameTokens.refl (L : Map ExecutingLAId LocalActivityInfo) : SameTokens L L :=
  fun _ => ⟨rfl, fun lai' _ hl hr => ⟨lai', hl, hr⟩⟩

theorem SameTokens.lookup_some {L L' : Map ExecutingLAId LocalActivityInfo} (h : SameTokens L L')
    {id : ExecutingLAId} {lai : LocalActivityInfo} (hl : L.lookup id = some lai) :
    ∃ lai', L'.lookup id = some lai' ∧ lai'.taskToken = lai.taskToken := by
  have := (h id).1
  rw [hl, Option.map_some] at this
  exact Option.map_eq_some_iff.1 this

theorem SameTokens.lookup_some' {L L' : Map ExecutingLAId LocalActivityInfo} (h : SameTokens L L')
    {id : ExecutingLAId} {lai' : LocalActivityInfo} (hl : L'.lookup id = some lai') :
    ∃ lai, L.lookup id = some lai ∧ lai'.taskToken = lai.taskToken := by
  have := (h id).1
  rw [hl, Option.map_some] at this
  obtain ⟨lai, hl₀, ht⟩ := Option.map_eq_some_iff.1 this.symm
  exact ⟨lai, hl₀, ht.symm⟩

theorem sameTokens_insert {L : Map ExecutingLAId LocalActivityInfo} {id : ExecutingLAId}
    {lai lai' : LocalActivityInfo} (hl : L.lookup id = some lai)
    (ht : lai'.taskToken = lai.taskToken)
    (hb : ∀ r, lai'.backingOffTask = some (.sleeping r) → lai.backingOffTask = some (.sleeping r)) :
    SameTokens L (L.insert id lai') := by
  intro id'
  rw [lookup_insert_eq_ite]
  by_cases h : id' = id
  · subst h
    simp only [↓reduceIte, Option.map_some, hl, ht, Option.some.injEq, true_and]
    rintro _ r rfl hr
    exact ⟨lai, rfl, hb r hr⟩
  · simp only [h, ↓reduceIte, true_and]
    exact fun lai' r hl' hr => ⟨lai', hl', hr⟩

theorem sameTokens_mapVal (L : Map ExecutingLAId LocalActivityInfo)
    (f : ExecutingLAId → LocalActivityInfo → LocalActivityInfo)
    (ht : ∀ id lai, (f id lai).taskToken = lai.taskToken)
    (hb : ∀ id lai r, (f id lai).backingOffTask = some (.sleeping r) →
      lai.backingOffTask = some (.sleeping r)) :
    SameTokens L (mapVal f L) := by
  intro id
  rw [lookup_mapVal]
  refine ⟨by cases L.lookup id <;> simp [ht], ?_⟩
  intro lai' r hl' hr
  cases hl : L.lookup id with
  | none => rw [hl] at hl'; cases hl'
  | some lai =>
    rw [hl] at hl'
    obtain rfl := Option.some.inj hl'
    exact ⟨lai, rfl, hb id lai r hr⟩

/-- An operation that keeps every token and puts no new backoff task to sleep, and leaves the
queue and the tasks in flight as they are, keeps the bookkeeping. -/
theorem Bookkeeping.of_sameTokens {s t : LocalActivityManager} (h : Bookkeeping s)
    (hL : SameTokens s.dat.laInfo t.dat.laInfo)
    (hO : t.dat.outstandingActivityTasks = s.dat.outstandingActivityTasks)
    (hQ : t.actReqs = s.actReqs) (hN : s.dat.nextTtNum ≤ t.dat.nextTtNum) : Bookkeeping t := by
  refine ⟨?_, ?_, ?_, by rw [hQ]; exact h.queueNodup, ?_, ?_, ?_⟩
  · intro tt info hi
    rw [hO] at hi
    obtain ⟨lai, hl, rfl⟩ := h.tracked tt info hi
    obtain ⟨lai', hl', ht⟩ := hL.lookup_some hl
    exact ⟨lai', hl', ht⟩
  · intro r hr
    rw [hQ] at hr
    obtain ⟨lai, hl⟩ := h.queued r hr
    obtain ⟨lai', hl', -⟩ := hL.lookup_some hl
    exact ⟨lai', hl'⟩
  · intro r hr tt info hi
    rw [hQ] at hr
    rw [hO] at hi
    exact h.queuedIdle r hr tt info hi
  · intro id lai' r hl' hr
    obtain ⟨lai, hl, hr0⟩ := (hL id).2 lai' r hl' hr
    rw [hO, hQ]
    exact h.sleeping id lai r hl hr0
  · intro id lai' hl'
    obtain ⟨lai, hl, ht⟩ := hL.lookup_some' hl'
    rw [ht]
    exact Nat.le_trans (h.fresh id lai hl) hN
  · intro id₁ id₂ lai₁' lai₂' h₁ h₂ heq
    obtain ⟨lai₁, hl₁, ht₁⟩ := hL.lookup_some' h₁
    obtain ⟨lai₂, hl₂, ht₂⟩ := hL.lookup_some' h₂
    exact h.distinct id₁ id₂ lai₁ lai₂ hl₁ hl₂ (by rw [← ht₁, ← ht₂, heq])

/-! ## `enqueue` -/

/-- A new entry, with a token just taken from the counter and no backoff task, for an activity
that had none, queued or not. -/
theorem Bookkeeping.insert_new {s t : LocalActivityManager} (h : Bookkeeping s) {act : NewLocalAct}
    {lai : LocalActivityInfo} (hnone : s.dat.laInfo.lookup act.id = none)
    (htok : lai.taskToken = s.dat.nextTtNum + 1) (hbo : lai.backingOffTask = none)
    (hL : t.dat.laInfo = s.dat.laInfo.insert act.id lai)
    (hO : t.dat.outstandingActivityTasks = s.dat.outstandingActivityTasks)
    (hN : t.dat.nextTtNum = s.dat.nextTtNum + 1)
    (hQ : t.actReqs = s.actReqs ∨ t.actReqs = s.actReqs ++ [.new act]) : Bookkeeping t := by
  -- every activity with an entry or in flight is another activity than the new one
  have hne : ∀ {id lai'}, s.dat.laInfo.lookup id = some lai' → id ≠ act.id := by
    rintro id lai' hl rfl
    rw [hnone] at hl
    cases hl
  have hold : ∀ {id}, id ≠ act.id → t.dat.laInfo.lookup id = s.dat.laInfo.lookup id := by
    intro id hid
    rw [hL, lookup_insert_eq_ite, if_neg hid]
  have hnew : t.dat.laInfo.lookup act.id = some lai := by
    rw [hL, lookup_insert_eq_ite, if_pos rfl]
  have hQmem : ∀ r ∈ t.actReqs, r ∈ s.actReqs ∨ r = .new act := by
    intro r hr
    rcases hQ with hQ | hQ <;> rw [hQ] at hr
    · exact .inl hr
    · simpa using hr
  have hfresh : act.id ∉ s.actReqs.map NewOrRetry.id := by
    intro hmem
    obtain ⟨r, hr, hrid⟩ := List.mem_map.1 hmem
    obtain ⟨lai', hl⟩ := h.queued r hr
    exact hne hl hrid
  refine ⟨?_, ?_, ?_, ?_, ?_, ?_, ?_⟩
  · intro tt info hi
    rw [hO] at hi
    obtain ⟨lai', hl, rfl⟩ := h.tracked tt info hi
    exact ⟨lai', by rw [hold (hne hl)]; exact hl, rfl⟩
  · intro r hr
    rcases hQmem r hr with hr | rfl
    · obtain ⟨lai', hl⟩ := h.queued r hr
      exact ⟨lai', by rw [hold (hne hl)]; exact hl⟩
    · exact ⟨lai, hnew⟩
  · intro r hr tt info hi
    rw [hO] at hi
    rcases hQmem r hr with hr | rfl
    · exact h.queuedIdle r hr tt info hi
    · obtain ⟨lai', hl, -⟩ := h.tracked tt info hi
      exact hne hl
  · rcases hQ with hQ | hQ <;> rw [hQ]
    · exact h.queueNodup
    · rw [List.map_append, List.nodup_append]
      exact ⟨h.queueNodup, by simp, by simpa [NewOrRetry.id] using hfresh⟩
  · intro id lai' r hl' hr
    by_cases hid : id = act.id
    · subst hid
      rw [hnew] at hl'
      obtain rfl := Option.some.inj hl'
      rw [hbo] at hr
      cases hr
    · rw [hold hid] at hl'
      obtain ⟨h₁, h₂, h₃⟩ := h.sleeping id lai' r hl' hr
      refine ⟨h₁, by rw [hO]; exact h₂, ?_⟩
      rcases hQ with hQ | hQ <;> rw [hQ]
      · exact h₃
      · simpa [NewOrRetry.id, hid] using h₃
  · intro id lai' hl'
    rw [hN]
    by_cases hid : id = act.id
    · subst hid
      rw [hnew] at hl'
      obtain rfl := Option.some.inj hl'
      exact Nat.le_of_eq htok
    · rw [hold hid] at hl'
      exact Nat.le_succ_of_le (h.fresh id lai' hl')
  · -- the new token is above every other
    have hbelow : ∀ {id lai'}, id ≠ act.id → t.dat.laInfo.lookup id = some lai' →
        lai.taskToken ≠ lai'.taskToken := by
      intro id lai' hid hl' heq
      rw [hold hid] at hl'
      have := h.fresh id lai' hl'
      rw [← heq, htok] at this
      exact Nat.not_succ_le_self _ this
    intro id₁ id₂ lai₁ lai₂ h₁ h₂ heq
    by_cases hid₁ : id₁ = act.id <;> by_cases hid₂ : id₂ = act.id
    · rw [hid₁, hid₂]
    · rw [hid₁, hnew] at h₁
      obtain rfl := Option.some.inj h₁
      exact absurd heq (hbelow hid₂ h₂)
    · rw [hid₂, hnew] at h₂
      obtain rfl := Option.some.inj h₂
      exact absurd heq.symm (hbelow hid₁ h₁)
    · rw [hold hid₁] at h₁
      rw [hold hid₂] at h₂
      exact h.distinct id₁ id₂ lai₁ lai₂ h₁ h₂ heq

@[simp] theorem cancelOneLa_taskToken (seq : Nat) (lai : LocalActivityInfo) :
    (cancelOneLa seq lai).1.taskToken = lai.taskToken := by
  unfold cancelOneLa
  split <;> rfl

theorem cancelOneLa_sleeping (seq : Nat) (lai : LocalActivityInfo) (r : NewOrRetry)
    (h : (cancelOneLa seq lai).1.backingOffTask = some (.sleeping r)) :
    lai.backingOffTask = some (.sleeping r) := by
  unfold cancelOneLa at h
  split at h
  · cases h
  · exact h

theorem enqueueOne_bookkeeping {s : LocalActivityManager} (h : Bookkeeping s)
    (req : LocalActRequest) : Bookkeeping (enqueueOne s req).1 := by
  cases req with
  | new act timeouts =>
    simp only [enqueueOne, LAMData.genNextToken]
    cases hl : s.dat.laInfo.lookup act.id with
    | some lai =>
      exact h.of_sameTokens (SameTokens.refl _) rfl rfl (Nat.le_succ _)
    | none =>
      cases timeouts with
      | alreadyTimedOut => exact h.insert_new hl rfl rfl rfl rfl rfl (.inl rfl)
      | timers scheduleToClose startToClose =>
        exact h.insert_new hl rfl rfl rfl rfl rfl (.inr rfl)
  | cancel id =>
    simp only [enqueueOne]
    cases hl : s.dat.laInfo.lookup id with
    | some lai =>
      exact h.of_sameTokens (sameTokens_insert hl (cancelOneLa_taskToken _ _)
        (cancelOneLa_sleeping _ _)) rfl rfl (Nat.le_refl _)
    | none => exact h
  | cancelAllInRun runId =>
    refine h.of_sameTokens (sameTokens_mapVal _ _ ?_ ?_) rfl rfl (Nat.le_refl _)
    · intro id lai
      split <;> simp
    · intro id lai r hr
      split at hr
      · exact cancelOneLa_sleeping _ _ r hr
      · exact hr
  | indicateWorkflowTaskCompleted runId =>
    refine h.of_sameTokens (sameTokens_mapVal _ _ ?_ ?_) rfl rfl (Nat.le_refl _)
    · intro id lai
      split <;> rfl
    · intro id lai r hr
      split at hr <;> exact hr

theorem enqueue_bookkeeping {s : LocalActivityManager} (h : Bookkeeping s)
    (reqs : List LocalActRequest) : Bookkeeping (enqueue s reqs).1 := by
  unfold enqueue
  split
  · exact h
  · suffices ∀ (reqs : List LocalActRequest) (acc : LocalActivityManager × List LocalActivityResolution),
        Bookkeeping acc.1 → Bookkeeping (reqs.foldl (fun acc req =>
          ((enqueueOne acc.1 req).1, acc.2 ++ (enqueueOne acc.1 req).2)) acc).1 from
      this reqs (s, []) h
    intro reqs
    induction reqs with
    | nil => exact fun _ hacc => hacc
    | cons req reqs ih => exact fun acc hacc => ih _ (enqueueOne_bookkeeping hacc req)

/-! ## `complete` -/

/-- A token taken from the counter is above every token of an entry. -/
theorem Bookkeeping.token_ne_next {s : LocalActivityManager} (h : Bookkeeping s)
    {id : ExecutingLAId} {lai : LocalActivityInfo} (hl : s.dat.laInfo.lookup id = some lai) :
    lai.taskToken ≠ s.dat.nextTtNum + 1 := fun heq =>
  Nat.not_succ_le_self _ (heq ▸ h.fresh id lai hl)

/-- What the completion of a task in flight knows: its entry has its token, no other task in
flight is for its activity, and no request for it is queued. -/
theorem Bookkeeping.completed_facts {s : LocalActivityManager} (h : Bookkeeping s)
    {tt : TaskToken} {info : LocalInFlightActInfo}
    (hinfo : s.dat.outstandingActivityTasks.lookup tt = some info) :
    (∀ k info', s.dat.outstandingActivityTasks.lookup k = some info' → k ≠ tt →
      info'.laInfo.id ≠ info.laInfo.id) ∧
    (∀ r ∈ s.actReqs, r.id ≠ info.laInfo.id) := by
  obtain ⟨lai, hl, htt⟩ := h.tracked tt info hinfo
  refine ⟨?_, fun r hr => (h.queuedIdle r hr tt info hinfo).symm⟩
  intro k info' hk hne heq
  obtain ⟨lai', hl', hk'⟩ := h.tracked k info' hk
  rw [heq, hl] at hl'
  obtain rfl := Option.some.inj hl'
  exact hne (hk'.symm.trans htt)

/-- `complete` reports: the task and the entry of its activity go. -/
theorem Bookkeeping.remove_completed {s t : LocalActivityManager} (h : Bookkeeping s)
    {tt : TaskToken} {info : LocalInFlightActInfo}
    (hinfo : s.dat.outstandingActivityTasks.lookup tt = some info)
    (hL : t.dat.laInfo = s.dat.laInfo.erase info.laInfo.id)
    (hO : t.dat.outstandingActivityTasks = s.dat.outstandingActivityTasks.erase tt)
    (hQ : t.actReqs = s.actReqs) (hN : t.dat.nextTtNum = s.dat.nextTtNum) : Bookkeeping t := by
  obtain ⟨hother, hqueued⟩ := h.completed_facts hinfo
  have hlook : ∀ id, t.dat.laInfo.lookup id =
      if id = info.laInfo.id then none else s.dat.laInfo.lookup id := by
    intro id
    rw [hL, lookup_erase_eq_ite]
  have hsub : ∀ k info', t.dat.outstandingActivityTasks.lookup k = some info' →
      k ≠ tt ∧ s.dat.outstandingActivityTasks.lookup k = some info' := by
    intro k info' hk
    rw [hO, lookup_erase_eq_ite] at hk
    split at hk
    · cases hk
    · exact ⟨‹_›, hk⟩
  have hback : ∀ {id lai}, t.dat.laInfo.lookup id = some lai →
      id ≠ info.laInfo.id ∧ s.dat.laInfo.lookup id = some lai := by
    intro id lai hl
    rw [hlook] at hl
    split at hl
    · cases hl
    · exact ⟨‹_›, hl⟩
  rw [← hQ] at hqueued
  refine ⟨?_, ?_, ?_, by rw [hQ]; exact h.queueNodup, ?_, ?_, ?_⟩
  · intro k info' hk
    obtain ⟨hne, hk⟩ := hsub k info' hk
    have hid := hother k info' hk hne
    obtain ⟨lai, hl, rfl⟩ := h.tracked k info' hk
    exact ⟨lai, by rw [hlook, if_neg hid]; exact hl, rfl⟩
  · intro r hr
    obtain ⟨lai, hl⟩ := h.queued r (hQ ▸ hr)
    exact ⟨lai, by rw [hlook, if_neg (hqueued r hr)]; exact hl⟩
  · intro r hr k info' hk
    exact h.queuedIdle r (hQ ▸ hr) k info' (hsub k info' hk).2
  · intro id lai r hl hr
    obtain ⟨-, hl⟩ := hback hl
    obtain ⟨h₁, h₂, h₃⟩ := h.sleeping id lai r hl hr
    exact ⟨h₁, fun k info' hk => h₂ k info' (hsub k info' hk).2, hQ ▸ h₃⟩
  · intro id lai hl
    rw [hN]
    exact h.fresh id lai (hback hl).2
  · intro id₁ id₂ lai₁ lai₂ h₁ h₂ heq
    exact h.distinct id₁ id₂ lai₁ lai₂ (hback h₁).2 (hback h₂).2 heq

/-- `complete` retries after a backoff: the task goes, and the entry of its activity gets a new
token and a backoff task that will send the retry. -/
theorem Bookkeeping.retry_completed {s t : LocalActivityManager} (h : Bookkeeping s)
    {tt : TaskToken} {info : LocalInFlightActInfo} {lai : LocalActivityInfo} {attempt : Nat}
    (hinfo : s.dat.outstandingActivityTasks.lookup tt = some info)
    (hL : t.dat.laInfo = (s.dat.laInfo.erase info.laInfo.id).insert info.laInfo.id lai)
    (htok : lai.taskToken = s.dat.nextTtNum + 1)
    (hbo : lai.backingOffTask = some (.sleeping (.retry info.laInfo attempt)))
    (hO : t.dat.outstandingActivityTasks = s.dat.outstandingActivityTasks.erase tt)
    (hQ : t.actReqs = s.actReqs) (hN : t.dat.nextTtNum = s.dat.nextTtNum + 1) :
    Bookkeeping t := by
  obtain ⟨hother, hqueued⟩ := h.completed_facts hinfo
  have hlook : ∀ id, t.dat.laInfo.lookup id =
      if id = info.laInfo.id then some lai else s.dat.laInfo.lookup id := by
    intro id
    rw [hL, lookup_insert_eq_ite, lookup_erase_eq_ite]
    split <;> rfl
  have hnew : t.dat.laInfo.lookup info.laInfo.id = some lai := by rw [hlook, if_pos rfl]
  have hold : ∀ {id}, id ≠ info.laInfo.id → t.dat.laInfo.lookup id = s.dat.laInfo.lookup id :=
    fun hid => by rw [hlook, if_neg hid]
  have hsub : ∀ k info', t.dat.outstandingActivityTasks.lookup k = some info' →
      k ≠ tt ∧ s.dat.outstandingActivityTasks.lookup k = some info' := by
    intro k info' hk
    rw [hO, lookup_erase_eq_ite] at hk
    split at hk
    · cases hk
    · exact ⟨‹_›, hk⟩
  refine ⟨?_, ?_, ?_, by rw [hQ]; exact h.queueNodup, ?_, ?_, ?_⟩
  · intro k info' hk
    obtain ⟨hne, hk⟩ := hsub k info' hk
    have hid := hother k info' hk hne
    obtain ⟨lai', hl, rfl⟩ := h.tracked k info' hk
    exact ⟨lai', by rw [hold hid]; exact hl, rfl⟩
  · intro r hr
    rw [hQ] at hr
    obtain ⟨lai', hl⟩ := h.queued r hr
    exact ⟨lai', by rw [hold (hqueued r hr)]; exact hl⟩
  · intro r hr k info' hk
    rw [hQ] at hr
    exact h.queuedIdle r hr k info' (hsub k info' hk).2
  · intro id lai' r hl hr
    by_cases hid : id = info.laInfo.id
    · -- the new backoff task: its retry is for this activity, which nothing else holds
      subst hid
      rw [hnew] at hl
      obtain rfl := Option.some.inj hl
      rw [hbo] at hr
      obtain rfl : NewOrRetry.retry info.laInfo attempt = r :=
        BackoffTask.sleeping.inj (Option.some.inj hr)
      refine ⟨rfl, ?_, ?_⟩
      · intro k info' hk heq
        obtain ⟨hne, hk⟩ := hsub k info' hk
        exact hother k info' hk hne heq
      · rw [hQ]
        intro hmem
        obtain ⟨r', hr', hrid⟩ := List.mem_map.1 hmem
        exact hqueued r' hr' hrid
    · rw [hold hid] at hl
      obtain ⟨h₁, h₂, h₃⟩ := h.sleeping id lai' r hl hr
      exact ⟨h₁, fun k info' hk => h₂ k info' (hsub k info' hk).2, hQ ▸ h₃⟩
  · intro id lai' hl
    rw [hN]
    by_cases hid : id = info.laInfo.id
    · subst hid
      rw [hnew] at hl
      obtain rfl := Option.some.inj hl
      exact Nat.le_of_eq htok
    · rw [hold hid] at hl
      exact Nat.le_succ_of_le (h.fresh id lai' hl)
  · intro id₁ id₂ lai₁ lai₂ h₁ h₂ heq
    by_cases hid₁ : id₁ = info.laInfo.id <;> by_cases hid₂ : id₂ = info.laInfo.id
    · rw [hid₁, hid₂]
    · rw [hid₁, hnew] at h₁
      rw [hold hid₂] at h₂
      obtain rfl := Option.some.inj h₁
      exact absurd (heq.symm.trans htok) (h.token_ne_next h₂)
    · rw [hid₂, hnew] at h₂
      rw [hold hid₁] at h₁
      obtain rfl := Option.some.inj h₂
      exact absurd (heq.trans htok) (h.token_ne_next h₁)
    · rw [hold hid₁] at h₁
      rw [hold hid₂] at h₂
      exact h.distinct id₁ id₂ lai₁ lai₂ h₁ h₂ heq

theorem complete_bookkeeping {s : LocalActivityManager} (h : Bookkeeping s) (tt : TaskToken)
    (status : LocalActivity.LocalActivityExecutionResult) (decision : RetryDecision) :
    Bookkeeping (complete s tt status decision).1 := by
  unfold complete
  cases hinfo : s.dat.outstandingActivityTasks.lookup tt with
  | none => exact h
  | some info =>
    simp only
    split
    · split
      · exact h.remove_completed hinfo rfl rfl rfl rfl
      · exact h.retry_completed hinfo rfl rfl rfl rfl rfl rfl
    · exact h.remove_completed hinfo rfl rfl rfl rfl

/-! ## `next_pending` -/

/-- The request at the head of the queue is taken. -/
theorem Bookkeeping.pop {s : LocalActivityManager} (h : Bookkeeping s) {req : NewOrRetry}
    {rest : List NewOrRetry} (hq : s.actReqs = req :: rest) :
    Bookkeeping { s with actReqs := rest } := by
  have hsub : ∀ r ∈ rest, r ∈ s.actReqs := fun r hr => by rw [hq]; exact List.mem_cons_of_mem _ hr
  refine ⟨h.tracked, fun r hr => h.queued r (hsub r hr),
    fun r hr => h.queuedIdle r (hsub r hr), ?_, ?_, h.fresh, h.distinct⟩
  · have := h.queueNodup
    rw [hq, List.map_cons, List.nodup_cons] at this
    exact this.2
  · intro id lai r hl hr
    obtain ⟨h₁, h₂, h₃⟩ := h.sleeping id lai r hl hr
    refine ⟨h₁, h₂, fun hmem => h₃ ?_⟩
    rw [hq, List.map_cons]
    exact List.mem_cons_of_mem _ hmem

/-- A task is put in flight under the token of its activity's entry, which has no backoff task,
no task in flight and no request queued. -/
theorem Bookkeeping.addInFlight {s t : LocalActivityManager} (h : Bookkeeping s)
    {id : ExecutingLAId} {lai : LocalActivityInfo} {newLa : NewLocalAct} {attempt : Nat}
    (hl : s.dat.laInfo.lookup id = some lai) (hbo : lai.backingOffTask = none)
    (hidle : ∀ tt info, s.dat.outstandingActivityTasks.lookup tt = some info →
      info.laInfo.id ≠ id)
    (hq : id ∉ s.actReqs.map NewOrRetry.id) (hid : newLa.id = id)
    (hL : t.dat.laInfo = s.dat.laInfo)
    (hO : t.dat.outstandingActivityTasks =
      s.dat.outstandingActivityTasks.insert lai.taskToken { laInfo := newLa, attempt })
    (hQ : t.actReqs = s.actReqs) (hN : t.dat.nextTtNum = s.dat.nextTtNum) : Bookkeeping t := by
  have hlook : ∀ k, t.dat.outstandingActivityTasks.lookup k = if k = lai.taskToken then
      some { laInfo := newLa, attempt } else s.dat.outstandingActivityTasks.lookup k := by
    intro k
    rw [hO, lookup_insert_eq_ite]
  refine ⟨?_, ?_, ?_, by rw [hQ]; exact h.queueNodup, ?_, ?_, ?_⟩
  · intro k info hk
    rw [hlook] at hk
    split at hk
    · rename_i hk'
      obtain rfl := Option.some.inj hk
      exact ⟨lai, by rw [hL, hid]; exact hl, hk'.symm⟩
    · obtain ⟨lai', hl', rfl⟩ := h.tracked k info hk
      exact ⟨lai', by rw [hL]; exact hl', rfl⟩
  · intro r hr
    rw [hL]
    exact h.queued r (hQ ▸ hr)
  · intro r hr k info hk
    rw [hQ] at hr
    rw [hlook] at hk
    split at hk
    · obtain rfl := Option.some.inj hk
      rintro heq
      exact hq (List.mem_map.2 ⟨r, hr, by rw [← heq, hid]⟩)
    · exact h.queuedIdle r hr k info hk
  · intro id' lai' r hl' hr
    rw [hL] at hl'
    obtain ⟨h₁, h₂, h₃⟩ := h.sleeping id' lai' r hl' hr
    refine ⟨h₁, ?_, hQ ▸ h₃⟩
    intro k info hk
    rw [hlook] at hk
    split at hk
    · obtain rfl := Option.some.inj hk
      rintro heq
      have hsame : id' = id := heq.symm.trans hid
      subst hsame
      rw [hl] at hl'
      obtain rfl := Option.some.inj hl'
      rw [hbo] at hr
      cases hr
    · exact h₂ k info hk
  · intro id' lai' hl'
    rw [hN]
    rw [hL] at hl'
    exact h.fresh id' lai' hl'
  · intro id₁ id₂ lai₁ lai₂ h₁ h₂ heq
    rw [hL] at h₁ h₂
    exact h.distinct id₁ id₂ lai₁ lai₂ h₁ h₂ heq

/-- The dispatch of `next_pending`: the entry's timeout bag is started and its task put in
flight under its token. -/
theorem Bookkeeping.dispatch {s : LocalActivityManager} (h : Bookkeeping s)
    {id : ExecutingLAId} {lai : LocalActivityInfo}
    (hl : s.dat.laInfo.lookup id = some lai) (hbo : lai.backingOffTask = none)
    (hidle : ∀ tt info, s.dat.outstandingActivityTasks.lookup tt = some info →
      info.laInfo.id ≠ id)
    (hq : id ∉ s.actReqs.map NewOrRetry.id) (newLa : NewLocalAct) (attempt : Nat)
    (hid : newLa.id = id) :
    Bookkeeping { s with dat := { s.dat with
      laInfo := s.dat.laInfo.insert id
        { lai with timeoutBag := lai.timeoutBag.map TimeoutBag.markStarted },
      outstandingActivityTasks :=
        s.dat.outstandingActivityTasks.insert lai.taskToken { laInfo := newLa, attempt } } } := by
  have h₁ : Bookkeeping { s with dat := { s.dat with
      laInfo := s.dat.laInfo.insert id
        { lai with timeoutBag := lai.timeoutBag.map TimeoutBag.markStarted } } } :=
    h.of_sameTokens (sameTokens_insert hl rfl (fun _ hr => hr)) rfl rfl (Nat.le_refl _)
  exact h₁.addInFlight (AList.lookup_insert _) hbo hidle hq hid rfl rfl rfl rfl

theorem nextPending_bookkeeping {s : LocalActivityManager} (h : Bookkeeping s) (from_ : Received)
    (clock : PendingClock) :
    ∀ r, nextPending s from_ clock = some r → ∃ t a, r = .ok (t, a) ∧ Bookkeeping t := by
  intro r hr
  cases from_ with
  | cancel =>
    cases hc : s.cancelReqs with
    | nil => simp [nextPending, hc] at hr
    | cons c rest =>
      have h₁ : Bookkeeping { s with cancelReqs := rest } :=
        h.of_sameTokens (SameTokens.refl _) rfl rfl (Nat.le_refl _)
      cases c with
      | cancel tt reason =>
        simp only [nextPending, hc, Option.some.injEq] at hr
        split at hr <;> exact ⟨_, _, hr.symm, h₁⟩
      | timeout runId resolution =>
        simp only [nextPending, hc, Option.some.injEq] at hr
        subst hr
        refine ⟨_, _, rfl, ?_⟩
        split
        · exact complete_bookkeeping h₁ _ _ _
        · exact h₁
  | newOrRetry =>
    cases hq : s.actReqs with
    | nil => simp [nextPending, hq] at hr
    | cons req rest =>
      have hmem : req ∈ s.actReqs := by rw [hq]; exact List.mem_cons_self
      obtain ⟨lai, hl⟩ := h.queued req hmem
      have hidle := h.queuedIdle req hmem
      have hnotin : req.id ∉ rest.map NewOrRetry.id := by
        have := h.queueNodup
        rw [hq, List.map_cons, List.nodup_cons] at this
        exact this.1
      have h₁ := h.pop hq
      -- the entry loses its backoff task, and keeps its token
      have h₂ : Bookkeeping { { s with actReqs := rest } with dat := { s.dat with
          laInfo := s.dat.laInfo.insert req.id { lai with backingOffTask := none } } } :=
        h₁.of_sameTokens (sameTokens_insert hl rfl (by simp)) rfl rfl (Nat.le_refl _)
      cases req <;> simp only [nextPending, hq, NewOrRetry.id] at hr hl h₂ hidle hnotin <;>
        simp only [hl] at hr <;> split at hr <;>
        simp only [Option.some.injEq, AList.lookup_insert] at hr <;> subst hr
      all_goals refine ⟨_, _, rfl, ?_⟩
      -- under the schedule-to-start timeout nothing is dispatched
      case new.isTrue | retry.isTrue => exact h₂
      all_goals exact h₂.dispatch (AList.lookup_insert _) rfl hidle hnotin _ _ rfl

/-! ## Spawned tasks -/

/-- A request is sent for an activity with an entry and no sleeping backoff task, with no task
in flight and no request queued. -/
theorem Bookkeeping.push {s t : LocalActivityManager} (h : Bookkeeping s) {r : NewOrRetry}
    {lai : LocalActivityInfo} (hl : s.dat.laInfo.lookup r.id = some lai)
    (hbo : ∀ rr, lai.backingOffTask ≠ some (.sleeping rr))
    (hidle : ∀ tt info, s.dat.outstandingActivityTasks.lookup tt = some info →
      info.laInfo.id ≠ r.id)
    (hq : r.id ∉ s.actReqs.map NewOrRetry.id)
    (hL : t.dat.laInfo = s.dat.laInfo)
    (hO : t.dat.outstandingActivityTasks = s.dat.outstandingActivityTasks)
    (hQ : t.actReqs = s.actReqs ++ [r]) (hN : t.dat.nextTtNum = s.dat.nextTtNum) :
    Bookkeeping t := by
  have hmem : ∀ r' ∈ t.actReqs, r' ∈ s.actReqs ∨ r' = r := by
    intro r' hr'
    rw [hQ] at hr'
    simpa using hr'
  refine ⟨?_, ?_, ?_, ?_, ?_, ?_, ?_⟩
  · rw [hL, hO]
    exact h.tracked
  · intro r' hr'
    rw [hL]
    rcases hmem r' hr' with hr' | rfl
    · exact h.queued r' hr'
    · exact ⟨lai, hl⟩
  · intro r' hr' k info hk
    rw [hO] at hk
    rcases hmem r' hr' with hr' | rfl
    · exact h.queuedIdle r' hr' k info hk
    · exact hidle k info hk
  · rw [hQ, List.map_append, List.nodup_append]
    exact ⟨h.queueNodup, by simp, by simpa using hq⟩
  · intro id lai' rr hl' hr
    rw [hL] at hl'
    obtain ⟨h₁, h₂, h₃⟩ := h.sleeping id lai' rr hl' hr
    refine ⟨h₁, by rw [hO]; exact h₂, ?_⟩
    have hne : id ≠ r.id := by
      rintro rfl
      rw [hl] at hl'
      obtain rfl := Option.some.inj hl'
      exact hbo rr hr
    rw [hQ, List.map_append]
    simpa [hne] using h₃
  · rw [hL, hN]
    exact h.fresh
  · rw [hL]
    exact h.distinct

theorem elapseBackoff_bookkeeping {s : LocalActivityManager} (h : Bookkeeping s)
    (id : ExecutingLAId) : ∀ t, elapseBackoff s id = some t → Bookkeeping t := by
  intro t ht
  unfold elapseBackoff at ht
  cases hl : s.dat.laInfo.lookup id with
  | none => simp [hl] at ht
  | some lai =>
    simp only [hl] at ht
    cases hb : lai.backingOffTask with
    | none => simp [hb] at ht
    | some task =>
      cases task with
      | fired => simp [hb] at ht
      | sleeping retry =>
        simp only [hb, Option.some.injEq] at ht
        subst ht
        obtain ⟨hid, hidle, hq⟩ := h.sleeping id lai retry hl hb
        have h₁ : Bookkeeping { s with dat := { s.dat with
            laInfo := s.dat.laInfo.insert id { lai with backingOffTask := some .fired } } } :=
          h.of_sameTokens (sameTokens_insert hl rfl (by simp)) rfl rfl (Nat.le_refl _)
        have hl₁ : (s.dat.laInfo.insert id { lai with backingOffTask := some .fired }).lookup
            retry.id = some { lai with backingOffTask := some .fired } := by
          rw [hid]
          exact AList.lookup_insert _
        refine h₁.push hl₁ (by simp) ?_ ?_ rfl rfl rfl rfl
        · rw [hid]
          exact hidle
        · rw [hid]
          exact hq

/-- A timer of the timeout bag fires: the entry keeps its token and its backoff task. -/
theorem Bookkeeping.setTimeoutBag {s : LocalActivityManager} (h : Bookkeeping s)
    {id : ExecutingLAId} {lai : LocalActivityInfo} (hl : s.dat.laInfo.lookup id = some lai)
    (bag : Option TimeoutBag) (cancelReqs : List CancelOrTimeout) :
    Bookkeeping { s with
      dat := { s.dat with laInfo := s.dat.laInfo.insert id { lai with timeoutBag := bag } },
      cancelReqs } :=
  h.of_sameTokens (sameTokens_insert hl rfl (fun _ hr => hr)) rfl rfl (Nat.le_refl _)

theorem elapseTimeout_bookkeeping {s : LocalActivityManager} (h : Bookkeeping s)
    (id : ExecutingLAId) (tt : TimeoutType) :
    ∀ t, elapseTimeout s id tt = some t → Bookkeeping t := by
  intro t ht
  unfold elapseTimeout at ht
  cases hl : s.dat.laInfo.lookup id with
  | none => simp [hl] at ht
  | some lai =>
    simp only [hl] at ht
    split at ht
    case h_3 => cases ht
    -- either timer, while pending, clears its flag and sends its timeout
    all_goals
      split at ht
      · cases ht
        exact h.setTimeoutBag hl _ _
      · cases ht

/-! ## Runs -/

theorem step_bookkeeping {s : LocalActivityManager} (h : Bookkeeping s) (op : LocalActivityOp) :
    ∃ t o, step s op = .ok (t, o) ∧ Bookkeeping t := by
  cases op with
  | enqueue reqs => exact ⟨_, _, rfl, enqueue_bookkeeping h reqs⟩
  | nextPending from_ clock =>
    cases hn : nextPending s from_ clock with
    | none => exact ⟨s, [], by simp [step, hn], h⟩
    | some r =>
      obtain ⟨t, a, rfl, ht⟩ := nextPending_bookkeeping h from_ clock r hn
      exact ⟨t, a.toList.map .pending, by simp [step, hn], ht⟩
  | complete tt status decision => exact ⟨_, _, rfl, complete_bookkeeping h tt status decision⟩
  | elapseBackoff id =>
    cases he : elapseBackoff s id with
    | none => exact ⟨s, [], by simp [step, he], h⟩
    | some t => exact ⟨t, [], by simp [step, he], elapseBackoff_bookkeeping h id t he⟩
  | elapseTimeout id tt =>
    cases he : elapseTimeout s id tt with
    | none => exact ⟨s, [], by simp [step, he], h⟩
    | some t => exact ⟨t, [], by simp [step, he], elapseTimeout_bookkeeping h id tt t he⟩

/-- Every run of the manager's operations from a new manager succeeds, so `next_pending` never
panics, and in the state it ends in every outstanding task token is the token of the entry of
its activity. -/
theorem run_tracked (ops : List LocalActivityOp) :
    ∃ s outs, Steps.run step LocalActivityManager.new ops = .ok (s, outs) ∧
      ∀ tt info, s.dat.outstandingActivityTasks.lookup tt = some info →
        ∃ lai, s.dat.laInfo.lookup info.laInfo.id = some lai ∧ lai.taskToken = tt := by
  obtain ⟨s, outs, hrun, hs⟩ := Steps.run_ok_of_step step Bookkeeping
    (fun _ op h => step_bookkeeping h op) ops _ new_bookkeeping
  exact ⟨s, outs, hrun, hs.tracked⟩

end SdkCore.LocalActivities
