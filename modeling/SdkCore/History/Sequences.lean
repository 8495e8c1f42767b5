import SdkCore.History.Chunking
import SdkCore.Steps

/-!
# Where a WFT sequence ends, and what peeking and taking see

`find_end_index_of_next_wft_seq` is one loop over the events with a one- and two-event
lookahead. `scanStep` is one round of it: the round either goes on with a new scan state or
returns an index (`wftScanLoop_cons`). What one round can do (`scanStep_eq_inr`,
`scanStep_eq_inl`) carries the invariant that every pushed WFT started event ends a sequence
(`StackOk`) through the loop, so a complete index is always at a final workflow-execution event
or at a WFT started event not followed by an abrupt end (`wftSequence_shape`).

A round reads indices only to store them, so a scan of a slice after skipped events is the scan
of the whole events with its indices moved (`wftScanLoop_shift`, `wftScanLoop_skip`). That is
why `can_take_next_wft_sequence`, which scans all events, agrees with the take, which scans
after the skipped ones, except that a take panics where the update ends inside a sequence
(`peekNextWftSequence_agrees`, `canTakeNextWftSequence_signalThenTimer`).

The scan reports `Incomplete(0)` both for no event and for one event left; a take of an update
with the last WFT reads it as `ReplayOver`, so a lone trailing event is never returned
(`takeAllWftSequences_idle`).
-/

namespace SdkCore

/-- One round of the loop of `find_end_index_of_next_wft_seq` at index `ix` on the event `e`
followed by `tail`: the scan state the loop goes on with, or the index it returns. -/
def scanStep (fromEventId : Int) (hasLastWft : Bool) (ix : Nat) (e : HistoryEvent)
    (tail : List HistoryEvent) (st : WftScan) : WftScan ⊕ NextWFTSeqEndIndex :=
  let st := { st with lastIndex := ix }
  if e.eventId ≤ fromEventId then .inl st
  else
    let st := { st with
      sawCommand := st.sawCommand || e.isCommandEvent
      sawCommandOrStarted := st.sawCommandOrStarted || e.isCommandEvent ||
        e.eventType == .workflowExecutionStarted }
    if e.isFinalWfExecutionEvent then .inr (.complete ix)
    else if e.eventType == .workflowTaskStarted then
      let pushed := { st with
        wftStartedEventIdToIndex := st.wftStartedEventIdToIndex ++ [(e.eventId, ix)] }
      let fallThrough : WftScan ⊕ NextWFTSeqEndIndex :=
        if pushed.sawCommandOrStarted then .inr (.complete ix) else .inl pushed
      match tail with
      | nextEvent :: tail₂ =>
        if nextEvent.eventType.endsWftAbruptly then .inl st
        else if nextEvent.eventType == .workflowTaskCompleted then
          match tail₂ with
          | nextNext :: _ =>
            if !pushed.sawCommand && nextNext.eventType == .workflowTaskScheduled then .inl pushed
            else
              match nextNext.attributes with
              | some (.workflowExecutionUpdateAcceptedEventAttributes _ seqId) =>
                .inr (.complete
                  ((closestWftStartedBefore pushed.wftStartedEventIdToIndex seqId).getD ix))
              | _ => .inr (.complete ix)
          | [] => if !hasLastWft && !pushed.sawCommandOrStarted then .inl pushed else fallThrough
        else fallThrough
      | [] => if !hasLastWft && !pushed.sawCommandOrStarted then .inl pushed else fallThrough
    else .inl st

theorem wftScanLoop_cons (p : Int) (hl : Bool) (ix : Nat) (e : HistoryEvent)
    (tail : List HistoryEvent) (st : WftScan) :
    wftScanLoop p hl ix (e :: tail) st =
      (scanStep p hl ix e tail st).elim (wftScanLoop p hl (ix + 1) tail) id := by
  rw [wftScanLoop, scanStep]
  -- the rounds that skip the event, end the scan, or see no WFT started event
  by_cases hp : e.eventId ≤ p
  · simp only [hp, ↓reduceIte, Sum.elim_inl]
  simp only [hp, ↓reduceIte]
  cases hf : e.isFinalWfExecutionEvent
  case true => rfl
  cases hs : e.eventType == .workflowTaskStarted
  case false => simp only [Bool.false_eq_true, ↓reduceIte, Sum.elim_inl]
  simp only [Bool.false_eq_true, ↓reduceIte]
  -- the lookahead: every arm but the update-accepted rule is the same on both sides
  rcases tail with _ | ⟨n, _ | ⟨nn, t⟩⟩ <;>
    simp only [apply_ite (Sum.elim _ id), Sum.elim_inl, Sum.elim_inr, id]
  congr 1
  congr 1
  congr 1
  cases nn.attributes with
  | none => rfl
  | some a =>
    cases a
    case workflowExecutionUpdateAcceptedEventAttributes _ seqId =>
      dsimp only
      cases closestWftStartedBefore _ _ <;> rfl
    all_goals rfl

/-! ## What one round can do -/

/-- The pushed started events are looked up by the update-accepted rule only among themselves. -/
theorem closestWftStartedBefore_mem {stack : List (Int × Nat)} {seqId : Int} {j : Nat}
    (h : closestWftStartedBefore stack seqId = some j) : ∃ eid, (eid, j) ∈ stack := by
  unfold closestWftStartedBefore at h
  obtain ⟨q, hq, rfl⟩ := Option.map_eq_some_iff.mp h
  exact ⟨q.1, List.mem_reverse.mp (List.mem_of_find?_eq_some hq)⟩

/-- A round returns only at an event after `fromEventId`: a final event, where it returns its own
index, or a started event not followed by an abrupt end, where it returns its own index or that of
a started event pushed before. -/
theorem scanStep_eq_inr {p : Int} {hl : Bool} {ix : Nat} {e : HistoryEvent}
    {tail : List HistoryEvent} {st : WftScan} {r : NextWFTSeqEndIndex}
    (h : scanStep p hl ix e tail st = .inr r) :
    p < e.eventId ∧
      ((e.isFinalWfExecutionEvent = true ∧ r = .complete ix) ∨
        (e.eventType = .workflowTaskStarted ∧
          (∀ n, tail.head? = some n → n.eventType.endsWftAbruptly = false) ∧
          ∃ j, r = .complete j ∧ (j = ix ∨ ∃ eid, (eid, j) ∈ st.wftStartedEventIdToIndex))) := by
  unfold scanStep at h
  split at h
  · cases h
  rename_i hp
  refine ⟨by omega, ?_⟩
  split at h
  · exact .inl ⟨‹_›, (Sum.inr.inj h).symm⟩
  split at h
  · rename_i hs
    right
    refine ⟨by simpa using hs, ?_⟩
    -- the fall-through arm returns at `ix`
    have fall : ∀ {c : Bool} {s : WftScan},
        (if c = true then Sum.inr (NextWFTSeqEndIndex.complete ix) else Sum.inl s) = .inr r →
          r = .complete ix := by
      intro c s hf
      split at hf
      · exact (Sum.inr.inj hf).symm
      · cases hf
    rcases tail with _ | ⟨n, tail₂⟩
    · refine ⟨by simp, ix, ?_, .inl rfl⟩
      dsimp only at h
      split at h
      · cases h
      · exact fall h
    dsimp only at h
    split at h
    · cases h
    rename_i hab
    refine ⟨by simpa using hab, ?_⟩
    split at h
    · split at h
      · split at h
        · cases h
        split at h
        · -- the update-accepted rule returns a pushed started event
          refine ⟨_, (Sum.inr.inj h).symm, ?_⟩
          rename_i seqId _
          cases hc : closestWftStartedBefore
              (st.wftStartedEventIdToIndex ++ [(e.eventId, ix)]) seqId with
          | none => exact .inl rfl
          | some j =>
            obtain ⟨eid, hm⟩ := closestWftStartedBefore_mem hc
            rcases List.mem_append.mp hm with hm | hm
            · exact .inr ⟨eid, hm⟩
            · simp only [List.mem_singleton, Prod.mk.injEq] at hm
              exact .inl (by simp [hm.2])
        · exact ⟨ix, (Sum.inr.inj h).symm, .inl rfl⟩
      · split at h
        · cases h
        · exact ⟨ix, fall h, .inl rfl⟩
    · exact ⟨ix, fall h, .inl rfl⟩
  · cases h

/-- A round goes on with the stack it had, or with its started event pushed, when that event
is after `fromEventId` and not followed by an abrupt end. -/
theorem scanStep_eq_inl {p : Int} {hl : Bool} {ix : Nat} {e : HistoryEvent}
    {tail : List HistoryEvent} {st st' : WftScan} (h : scanStep p hl ix e tail st = .inl st') :
    st'.wftStartedEventIdToIndex = st.wftStartedEventIdToIndex ∨
      (p < e.eventId ∧ e.eventType = .workflowTaskStarted ∧
        (∀ n, tail.head? = some n → n.eventType.endsWftAbruptly = false) ∧
        st'.wftStartedEventIdToIndex = st.wftStartedEventIdToIndex ++ [(e.eventId, ix)]) := by
  unfold scanStep at h
  split at h
  · exact .inl (by cases h; rfl)
  rename_i hp
  split at h
  · cases h
  split at h
  · rename_i hs
    -- every arm that goes on keeps the stack or pushes this event
    have pushed : (∀ n, tail.head? = some n → n.eventType.endsWftAbruptly = false) →
        st'.wftStartedEventIdToIndex = st.wftStartedEventIdToIndex ++ [(e.eventId, ix)] →
        st'.wftStartedEventIdToIndex = st.wftStartedEventIdToIndex ∨
          (p < e.eventId ∧ e.eventType = .workflowTaskStarted ∧
            (∀ n, tail.head? = some n → n.eventType.endsWftAbruptly = false) ∧
            st'.wftStartedEventIdToIndex = st.wftStartedEventIdToIndex ++ [(e.eventId, ix)]) :=
      fun hn hst => .inr ⟨by omega, by simpa using hs, hn, hst⟩
    have fall : ∀ {c : Bool} {s : WftScan}, (if c = true then
        Sum.inr (NextWFTSeqEndIndex.complete ix) else Sum.inl s) = .inl st' → s = st' := by
      intro c s hf
      split at hf
      · cases hf
      · exact Sum.inl.inj hf
    rcases tail with _ | ⟨n, tail₂⟩
    · dsimp only at h
      split at h
      · exact pushed (by simp) (by cases h; rfl)
      · exact pushed (by simp) (by rw [← fall h])
    dsimp only at h
    split at h
    · exact .inl (by cases h; rfl)
    rename_i hab
    have hn : ∀ m, (n :: tail₂).head? = some m → m.eventType.endsWftAbruptly = false := by
      intro m hm
      simp only [List.head?_cons, Option.some.injEq] at hm
      subst hm
      simpa using hab
    split at h
    · split at h
      · split at h
        · exact pushed hn (by cases h; rfl)
        · split at h <;> cases h
      · split at h
        · exact pushed hn (by cases h; rfl)
        · exact pushed hn (by rw [← fall h])
    · exact pushed hn (by rw [← fall h])
  · exact .inl (by cases h; rfl)

/-! ## Where a sequence ends -/

/-- The shape of the last event of a WFT sequence: a final workflow-execution event, or a WFT
started event that is not followed by a WFT failure, a WFT timeout or an abrupt end of the
execution. -/
def EndsSequence (e : HistoryEvent) (next : Option HistoryEvent) : Prop :=
  e.isFinalWfExecutionEvent = true ∨
    (e.eventType = .workflowTaskStarted ∧ ∀ n, next = some n → n.eventType.endsWftAbruptly = false)

/-- The event at index `i` of `events` is after `fromEventId` and ends a sequence. -/
def EndsSequenceAt (events : List HistoryEvent) (fromEventId : Int) (i : Nat) : Prop :=
  ∃ e, events[i]? = some e ∧ fromEventId < e.eventId ∧ EndsSequence e events[i + 1]?

/-- The invariant of the scan: every pushed started event ends a sequence. -/
def StackOk (events : List HistoryEvent) (fromEventId : Int) (stack : List (Int × Nat)) : Prop :=
  ∀ q ∈ stack, EndsSequenceAt events fromEventId q.2

theorem getElem?_of_drop_eq_cons {events tail : List HistoryEvent} {ix : Nat} {e : HistoryEvent}
    (hd : events.drop ix = e :: tail) :
    events[ix]? = some e ∧ events[ix + 1]? = tail.head? ∧ events.drop (ix + 1) = tail := by
  have h0 := @List.getElem?_drop _ events ix 0
  have h1 := @List.getElem?_drop _ events ix 1
  rw [hd] at h0 h1
  refine ⟨by simpa using h0.symm, by simpa [List.head?_eq_getElem?] using h1.symm, ?_⟩
  rw [← List.drop_drop, hd, List.drop_one, List.tail_cons]

theorem scanStep_inl_stackOk {events tail : List HistoryEvent} {p : Int} {hl : Bool} {ix : Nat}
    {e : HistoryEvent} {st st' : WftScan} (hd : events.drop ix = e :: tail)
    (hs : StackOk events p st.wftStartedEventIdToIndex) (h : scanStep p hl ix e tail st = .inl st') :
    StackOk events p st'.wftStartedEventIdToIndex := by
  obtain ⟨he, hnext, -⟩ := getElem?_of_drop_eq_cons hd
  rcases scanStep_eq_inl h with hst | ⟨hp, hstarted, hn, hst⟩
  · rwa [hst]
  rw [hst]
  intro q hq
  rcases List.mem_append.mp hq with hq | hq
  · exact hs q hq
  · rw [List.mem_singleton.mp hq]
    exact ⟨e, he, hp, .inr ⟨hstarted, by rwa [hnext]⟩⟩

theorem scanStep_inr_endsAt {events tail : List HistoryEvent} {p : Int} {hl : Bool} {ix : Nat}
    {e : HistoryEvent} {st : WftScan} {r : NextWFTSeqEndIndex} (hd : events.drop ix = e :: tail)
    (hs : StackOk events p st.wftStartedEventIdToIndex) (h : scanStep p hl ix e tail st = .inr r) :
    ∃ j, r = .complete j ∧ EndsSequenceAt events p j := by
  obtain ⟨he, hnext, -⟩ := getElem?_of_drop_eq_cons hd
  rcases scanStep_eq_inr h with ⟨hp, ⟨hfinal, rfl⟩ | ⟨hstarted, hn, j, rfl, rfl | ⟨eid, hm⟩⟩⟩
  · exact ⟨ix, rfl, e, he, hp, .inl hfinal⟩
  · exact ⟨_, rfl, e, he, hp, .inr ⟨hstarted, by rwa [hnext]⟩⟩
  · exact ⟨j, rfl, hs _ hm⟩

/-- The loop returns `Complete` only at an event that ends a sequence. The induction is on the
slice still to scan, with the stack invariant carried from round to round. -/
theorem wftScanLoop_endsAt {events : List HistoryEvent} {p : Int} {hl : Bool} {i : Nat} :
    ∀ (rest : List HistoryEvent) (ix : Nat) (st : WftScan), events.drop ix = rest →
      StackOk events p st.wftStartedEventIdToIndex →
      wftScanLoop p hl ix rest st = .complete i → EndsSequenceAt events p i := by
  intro rest
  induction rest with
  | nil => intro ix st _ _ h; cases h
  | cons e tail ih =>
    intro ix st hd hs h
    rw [wftScanLoop_cons] at h
    cases hstep : scanStep p hl ix e tail st with
    | inl st' =>
      rw [hstep] at h
      exact ih (ix + 1) st' (getElem?_of_drop_eq_cons hd).2.2
        (scanStep_inl_stackOk hd hs hstep) h
    | inr r =>
      rw [hstep] at h
      obtain ⟨j, rfl, hj⟩ := scanStep_inr_endsAt hd hs hstep
      cases h
      exact hj

theorem findEndIndexOfNextWftSeq_endsAt {events : List HistoryEvent} {p : Int} {hl : Bool}
    {i : Nat} (h : findEndIndexOfNextWftSeq events p hl = .complete i) :
    EndsSequenceAt events p i := by
  unfold findEndIndexOfNextWftSeq at h
  split at h
  · cases h
  · exact wftScanLoop_endsAt events 0 WftScan.init rfl (by simp [StackOk, WftScan.init]) h

/-- The first index whose event satisfies `P` is at or before any index whose event does. -/
theorem findIdx?_le_of_getElem? {l : List HistoryEvent} {P : HistoryEvent → Bool} {i : Nat}
    {e : HistoryEvent} (h : l[i]? = some e) (hp : P e = true) :
    ∃ j, l.findIdx? P = some j ∧ j ≤ i := by
  obtain ⟨hi, rfl⟩ := List.getElem?_eq_some_iff.mp h
  have hle : l.findIdx P ≤ i := by
    refine Nat.le_of_not_lt fun hlt => ?_
    have := List.not_of_lt_findIdx hlt
    rw [hp] at this
    cases this
  exact ⟨_, List.findIdx?_eq_some_iff_findIdx_eq.mpr ⟨by omega, rfl⟩, hle⟩

namespace HistoryUpdate

@[simp] theorem dropEarlierThan_hasLastWft (u : HistoryUpdate) (f : Int) :
    (u.dropEarlierThan f).hasLastWft = u.hasLastWft := by
  unfold dropEarlierThan
  split <;> rfl

/-- Without the last WFT, a take returns a sequence only where the scan found it complete. -/
theorem takeNextWftSequence_complete {u u' : HistoryUpdate} {f : Int} {seq : List HistoryEvent}
    {b : Bool} (hl : u.hasLastWft = false) (h : u.takeNextWftSequence f = .ok (.wft seq b, u')) :
    ∃ i, findEndIndexOfNextWftSeq (u.dropEarlierThan f).events f false = .complete i ∧
      (u.dropEarlierThan f).buildNextWft i = (.wft seq b, u') := by
  unfold takeNextWftSequence at h
  simp only [dropEarlierThan_hasLastWft, hl] at h
  split at h
  · simp only [Bool.false_eq_true, if_false] at h
    split at h <;> cases h
  · exact ⟨_, ‹_›, Except.ok.inj h⟩

end HistoryUpdate

/-- The events of a sequence and the event after it, read off the scan's end index. -/
theorem buildNextWft_last {u u' : HistoryUpdate} {i : Nat} {seq : List HistoryEvent} {b : Bool}
    {e : HistoryEvent} (h : u.buildNextWft i = (.wft seq b, u')) (he : u.events[i]? = some e) :
    seq.getLast? = some e ∧ u'.events.head? = u.events[i + 1]? := by
  unfold HistoryUpdate.buildNextWft at h
  simp only [Prod.mk.injEq, NextWFT.wft.injEq] at h
  obtain ⟨⟨rfl, -⟩, rfl⟩ := h
  exact ⟨by simp [List.getLast?_take, he], List.head?_drop⟩

/-! ## Scanning from a later index

A scan of the events after a skipped prefix is the scan of the whole slice with its indices
moved by the prefix's length: the skipped events only move the index. -/

/-- The scan state with every index it holds moved by `k`. -/
def WftScan.shift (k : Nat) (st : WftScan) : WftScan :=
  { st with
    lastIndex := st.lastIndex + k
    wftStartedEventIdToIndex := st.wftStartedEventIdToIndex.map fun q => (q.1, q.2 + k) }

@[simp] theorem NextWFTSeqEndIndex.add_zero (r : NextWFTSeqEndIndex) : r.add 0 = r := by
  cases r <;> rfl

@[simp] theorem NextWFTSeqEndIndex.isIncomplete_add (r : NextWFTSeqEndIndex) (k : Nat) :
    (r.add k).isIncomplete = r.isIncomplete := by
  cases r <;> rfl

theorem closestWftStartedBefore_shift (stack : List (Int × Nat)) (seqId : Int) (k : Nat) :
    closestWftStartedBefore (stack.map fun q => (q.1, q.2 + k)) seqId =
      (closestWftStartedBefore stack seqId).map (· + k) := by
  unfold closestWftStartedBefore
  rw [← List.map_reverse, List.find?_map]
  -- moving the indices leaves the event ids the lookup compares untouched
  have hpred : ((fun p : Int × Nat => decide (p.1 < seqId)) ∘ fun q : Int × Nat => (q.1, q.2 + k)) =
      fun p : Int × Nat => decide (p.1 < seqId) := rfl
  rw [hpred]
  cases stack.reverse.find? (fun p => decide (p.1 < seqId)) <;> rfl

/-- The update-accepted lookup after a push, on moved indices. -/
theorem closestWftStartedBefore_shift_push (stack : List (Int × Nat)) (seqId eid : Int)
    (ix k : Nat) :
    (closestWftStartedBefore ((stack.map fun q => (q.1, q.2 + k)) ++ [(eid, ix + k)]) seqId).getD
        (ix + k) =
      (closestWftStartedBefore (stack ++ [(eid, ix)]) seqId).getD ix + k := by
  have hpush : (stack.map fun q => (q.1, q.2 + k)) ++ [(eid, ix + k)] =
      (stack ++ [(eid, ix)]).map fun q => (q.1, q.2 + k) := by simp
  rw [hpush, closestWftStartedBefore_shift]
  cases closestWftStartedBefore (stack ++ [(eid, ix)]) seqId <;> rfl

theorem scanStep_shift (p : Int) (hl : Bool) (ix k : Nat) (e : HistoryEvent)
    (tail : List HistoryEvent) (st : WftScan) :
    scanStep p hl (ix + k) e tail (st.shift k) =
      (scanStep p hl ix e tail st).map (WftScan.shift k) (·.add k) := by
  unfold scanStep WftScan.shift
  -- the conditions read only flags and events, which the move leaves as they are
  by_cases hp : e.eventId ≤ p
  · simp only [hp, ↓reduceIte, Sum.map_inl]
  simp only [hp, ↓reduceIte]
  cases hf : e.isFinalWfExecutionEvent
  case true => rfl
  cases hs : e.eventType == .workflowTaskStarted
  case false => simp only [Bool.false_eq_true, ↓reduceIte, Sum.map_inl]
  simp only [Bool.false_eq_true, ↓reduceIte]
  rcases tail with _ | ⟨n, _ | ⟨nn, t⟩⟩ <;>
    simp only [apply_ite (Sum.map _ _), Sum.map_inl, Sum.map_inr, List.map_append, List.map_cons,
      List.map_nil, NextWFTSeqEndIndex.add]
  congr 1
  congr 1
  congr 1
  cases nn.attributes with
  | none => rfl
  | some a =>
    cases a
    case workflowExecutionUpdateAcceptedEventAttributes _ seqId =>
      simp only [Sum.map_inr, closestWftStartedBefore_shift_push]
    all_goals rfl

theorem wftScanLoop_shift (p : Int) (hl : Bool) (k : Nat) :
    ∀ (rest : List HistoryEvent) (ix : Nat) (st : WftScan),
      wftScanLoop p hl (ix + k) rest (st.shift k) = (wftScanLoop p hl ix rest st).add k := by
  intro rest
  induction rest with
  | nil => intro ix st; rfl
  | cons e tail ih =>
    intro ix st
    rw [wftScanLoop_cons, wftScanLoop_cons, scanStep_shift]
    cases scanStep p hl ix e tail st with
    | inl st' =>
      show wftScanLoop p hl (ix + k + 1) tail (st'.shift k) = _
      rw [Nat.add_right_comm, ih]
      rfl
    | inr r => rfl

/-- A round starts by overwriting the last index. -/
theorem scanStep_lastIndex (p : Int) (hl : Bool) (ix n : Nat) (e : HistoryEvent)
    (tail : List HistoryEvent) (st : WftScan) :
    scanStep p hl ix e tail { st with lastIndex := n } = scanStep p hl ix e tail st := rfl

theorem wftScanLoop_lastIndex (p : Int) (hl : Bool) (ix n : Nat) (e : HistoryEvent)
    (tail : List HistoryEvent) (st : WftScan) :
    wftScanLoop p hl ix (e :: tail) { st with lastIndex := n } =
      wftScanLoop p hl ix (e :: tail) st := by
  rw [wftScanLoop_cons, wftScanLoop_cons, scanStep_lastIndex]

/-- Events at or before `fromEventId` only move the scan's index. -/
theorem wftScanLoop_skip (p : Int) (hl : Bool) (e : HistoryEvent) (tail : List HistoryEvent) :
    ∀ (pre : List HistoryEvent) (ix : Nat) (st : WftScan), (∀ x ∈ pre, x.eventId ≤ p) →
      wftScanLoop p hl ix (pre ++ e :: tail) st = wftScanLoop p hl (ix + pre.length) (e :: tail) st := by
  intro pre
  induction pre with
  | nil => intro ix st _; rfl
  | cons x pre ih =>
    intro ix st hpre
    have hx : scanStep p hl ix x (pre ++ e :: tail) st = .inl { st with lastIndex := ix } := by
      simp [scanStep, hpre x List.mem_cons_self]
    rw [List.cons_append, wftScanLoop_cons, hx, Sum.elim_inl,
      ih _ _ fun y hy => hpre y (List.mem_cons_of_mem x hy), wftScanLoop_lastIndex,
      List.length_cons, Nat.add_assoc, Nat.add_comm 1]

namespace HistoryUpdate

/-- The events a take scans are the update's events from the first one after `f` on. -/
theorem dropEarlierThan_events_eq (u : HistoryUpdate) (f : Int) :
    (u.dropEarlierThan f).events = u.events.drop ((u.startingIndexAfterSkipping f).getD 0) := by
  unfold dropEarlierThan
  cases u.startingIndexAfterSkipping f <;> rfl

/-- `can_take_next_wft_sequence` scans the whole update, a take only what follows the skipped
events; both scans find the same index, moved by the number of skipped events. -/
theorem findEndIndexOfNextWftSeq_dropEarlierThan (u : HistoryUpdate) (f : Int) (hl : Bool) :
    ∃ k, findEndIndexOfNextWftSeq u.events f hl =
      (findEndIndexOfNextWftSeq (u.dropEarlierThan f).events f hl).add k := by
  unfold dropEarlierThan
  cases hk : u.startingIndexAfterSkipping f with
  | none => exact ⟨0, by simp⟩
  | some k =>
    refine ⟨k, ?_⟩
    dsimp only
    unfold startingIndexAfterSkipping at hk
    obtain ⟨hlt, hkeq⟩ := List.findIdx?_eq_some_iff_findIdx_eq.mp hk
    -- the events before the first one after `f` are all skipped
    have hpre : ∀ x ∈ u.events.take k, x.eventId ≤ f := by
      intro x hx
      rw [← hkeq] at hx
      simpa using List.false_of_mem_take_findIdx hx
    obtain ⟨e, tail, hdrop⟩ : ∃ e tail, u.events.drop k = e :: tail :=
      List.exists_cons_of_ne_nil (by simpa using hlt)
    have hlen : (u.events.take k).length = k := by
      simp only [List.length_take]
      omega
    have hsplit : u.events = u.events.take k ++ e :: tail := by
      rw [← hdrop, List.take_append_drop]
    have hne : u.events.isEmpty = false := by
      rw [hsplit]
      simp
    rw [hdrop]
    unfold findEndIndexOfNextWftSeq
    rw [hne, List.isEmpty_cons]
    simp only [Bool.false_eq_true, if_false]
    rw [hsplit, wftScanLoop_skip _ _ _ _ _ _ _ hpre, hlen, ← wftScanLoop_shift]
    exact (wftScanLoop_lastIndex f hl (0 + k) (0 + k) e tail WftScan.init).symm

end HistoryUpdate

/-! ## The shape of a sequence -/

/-- Wherever the scan reports a complete sequence, its last event is after the starting id and
ends a sequence, so the index is at or after the first event after the starting id; a take
without the last WFT therefore returns sequences that end on such an event. -/
theorem wftSequence_shape :
    (∀ (events : List HistoryEvent) (p : Int) (hasLastWft : Bool) (i : Nat),
      findEndIndexOfNextWftSeq events p hasLastWft = .complete i →
        EndsSequenceAt events p i ∧
          ∃ j, events.findIdx? (fun e => decide (p < e.eventId)) = some j ∧ j ≤ i) ∧
    (∀ (u u' : HistoryUpdate) (p : Int) (seq : List HistoryEvent) (b : Bool),
      u.hasLastWft = false → u.takeNextWftSequence p = .ok (.wft seq b, u') →
        ∃ e, seq.getLast? = some e ∧ EndsSequence e u'.events.head?) := by
  refine ⟨fun events p hl i h => ?_, fun u u' p seq b hl h => ?_⟩
  · have hend := findEndIndexOfNextWftSeq_endsAt h
    have ⟨_, he, hp, _⟩ := hend
    exact ⟨hend, findIdx?_le_of_getElem? he (by simpa using hp)⟩
  · obtain ⟨i, hi, hb⟩ := HistoryUpdate.takeNextWftSequence_complete hl h
    obtain ⟨e, he, -, hshape⟩ := findEndIndexOfNextWftSeq_endsAt hi
    obtain ⟨hlast, hnext⟩ := buildNextWft_last hb he
    exact ⟨e, hlast, by rwa [hnext]⟩

/-- The scan of the run that waits for a signal ends its first sequence at the first task's
started event, index 2, which ends a sequence. -/
theorem wftSequence_shape_signalThenTimer :
    findEndIndexOfNextWftSeq signalThenTimerHistory 0 false = .complete 2 ∧
      EndsSequenceAt signalThenTimerHistory 0 2 :=
  ⟨rfl, (wftSequence_shape.1 _ 0 false 2 rfl).1⟩

/-! ## Peeking and taking -/

namespace HistoryUpdate

/-- What a take does with the scan of the events after the skipped ones. -/
theorem takeNextWftSequence_eq (u : HistoryUpdate) (f : Int) :
    u.takeNextWftSequence f =
      match findEndIndexOfNextWftSeq (u.dropEarlierThan f).events f u.hasLastWft with
      | .incomplete siz =>
        if u.hasLastWft then
          if siz = 0 then .ok (.replayOver, u.dropEarlierThan f)
          else .ok ((u.dropEarlierThan f).buildNextWft siz)
        else if siz ≠ 0 then .error incompleteWftPanic
        else .ok (.needFetch, u.dropEarlierThan f)
      | .complete nextWftIx => .ok ((u.dropEarlierThan f).buildNextWft nextWftIx) := by
  unfold takeNextWftSequence
  cases hfind : findEndIndexOfNextWftSeq (u.dropEarlierThan f).events f u.hasLastWft <;>
    simp only [dropEarlierThan_hasLastWft, hfind]

/-- A take that returns a sequence returns the events up to the scan's index. -/
theorem takeNextWftSequence_wft {u u' : HistoryUpdate} {f : Int} {seq : List HistoryEvent}
    {b : Bool} (h : u.takeNextWftSequence f = .ok (.wft seq b, u')) :
    (u.dropEarlierThan f).events ≠ [] ∧
      (u.dropEarlierThan f).buildNextWft
        (findEndIndexOfNextWftSeq (u.dropEarlierThan f).events f u.hasLastWft).index =
        (.wft seq b, u') := by
  rw [takeNextWftSequence_eq] at h
  -- an empty slice scans as `Incomplete(0)`, which is never a sequence
  have hne : (u.dropEarlierThan f).events ≠ [] := by
    intro hnil
    have h0 : findEndIndexOfNextWftSeq [] f u.hasLastWft = .incomplete 0 := rfl
    rw [hnil, h0] at h
    simp only [if_true, ne_eq, not_true_eq_false, if_false] at h
    split at h <;> cases h
  refine ⟨hne, ?_⟩
  split at h
  · rename_i siz hfind
    rw [hfind]
    split at h
    · split at h
      · cases h
      · exact Except.ok.inj h
    · split at h <;> cases h
  · rename_i ix hfind
    rw [hfind]
    exact Except.ok.inj h

/-- A peek returns the sequence a take would return. -/
theorem peekNextWftSequence_of_take {u u' : HistoryUpdate} {f : Int} {seq : List HistoryEvent}
    {b : Bool} (h : u.takeNextWftSequence f = .ok (.wft seq b, u')) :
    u.peekNextWftSequence f = seq := by
  obtain ⟨hne, hb⟩ := takeNextWftSequence_wft h
  unfold buildNextWft at hb
  simp only [Prod.mk.injEq, NextWFT.wft.injEq] at hb
  unfold peekNextWftSequence
  rw [← dropEarlierThan_events_eq]
  simp only [List.isEmpty_eq_false_iff.mpr hne, Bool.false_eq_true, if_false]
  exact hb.1.1

end HistoryUpdate

namespace HistoryUpdate

@[simp] theorem buildNextWft_fst_ne_needFetch (u : HistoryUpdate) (n : Nat) :
    (u.buildNextWft n).1 ≠ .needFetch := by
  simp [buildNextWft]

/-- `can_take_next_wft_sequence` answers from the same scan as the take. -/
theorem canTakeNextWftSequence_eq (u : HistoryUpdate) (f : Int) :
    u.canTakeNextWftSequence f =
      !((findEndIndexOfNextWftSeq (u.dropEarlierThan f).events f u.hasLastWft).isIncomplete &&
        !u.hasLastWft) := by
  obtain ⟨k, hk⟩ := findEndIndexOfNextWftSeq_dropEarlierThan u f u.hasLastWft
  unfold canTakeNextWftSequence
  rw [hk, NextWFTSeqEndIndex.isIncomplete_add]

/-- A peek sees the sequence a take returns, and the update cannot give the next sequence
exactly when the take does not return one or `ReplayOver`: it returns `NeedFetch`, or panics on
an update that ends inside a sequence. -/
theorem peekNextWftSequence_agrees (u : HistoryUpdate) (f : Int) :
    (∀ seq b u', u.takeNextWftSequence f = .ok (.wft seq b, u') → u.peekNextWftSequence f = seq) ∧
    (u.canTakeNextWftSequence f = false ↔
      ∀ r, u.takeNextWftSequence f = .ok r → r.1 = .needFetch) := by
  refine ⟨fun seq b u' h => peekNextWftSequence_of_take h, ?_⟩
  rw [canTakeNextWftSequence_eq, takeNextWftSequence_eq]
  cases hfind : findEndIndexOfNextWftSeq (u.dropEarlierThan f).events f u.hasLastWft with
  | complete i =>
    simp only [NextWFTSeqEndIndex.isIncomplete, Bool.false_and, Bool.not_false,
      Bool.true_eq_false, false_iff, not_forall]
    exact ⟨_, rfl, buildNextWft_fst_ne_needFetch _ _⟩
  | incomplete siz =>
    cases hl : u.hasLastWft
    · -- without the last WFT the take fetches or panics
      simp only [NextWFTSeqEndIndex.isIncomplete, Bool.not_false, Bool.and_self,
        Bool.not_true, Bool.false_eq_true, if_false, true_iff]
      intro r hr
      split at hr
      · cases hr
      · cases hr
        rfl
    · -- with the last WFT the take always answers: `ReplayOver` or the rest of the update
      simp only [NextWFTSeqEndIndex.isIncomplete, Bool.not_true, Bool.and_false,
        Bool.not_false, Bool.true_eq_false, if_true, false_iff]
      intro hall
      split at hall
      · exact absurd (hall _ rfl) (by simp)
      · exact buildNextWft_fst_ne_needFetch _ _ (hall _ rfl)

end HistoryUpdate

/-- The update `from_events` builds for the run that waits for a signal, after its first take:
it ends inside the sequence of events 4 to 7, so it cannot take the next sequence, and the take
panics rather than asking for more history. -/
theorem canTakeNextWftSequence_signalThenTimer :
    ((HistoryUpdate.fromEvents signalThenTimerHistory 0 9 false).1.takeNextWftSequence 0).map
        (fun r => r.2.canTakeNextWftSequence 3) = .ok false ∧
    (((HistoryUpdate.fromEvents signalThenTimerHistory 0 9 false).1.takeNextWftSequence 0) >>=
      fun r => r.2.takeNextWftSequence 3) = .error incompleteWftPanic :=
  ⟨rfl, rfl⟩

-- The first take of that update returns events 1 to 3, and a peek sees them.
example :
    (HistoryUpdate.fromEvents signalThenTimerHistory 0 9 false).1.peekNextWftSequence 0 =
      signalThenTimerHistory.take 3 := by
  obtain ⟨⟨r, u'⟩, htake, hr : r = _⟩ := Steps.map_eq_ok
    (show ((HistoryUpdate.fromEvents signalThenTimerHistory 0 9 false).1.takeNextWftSequence
      0).map Prod.fst = .ok (.wft (signalThenTimerHistory.take 3) false) from rfl)
  subst hr
  exact (HistoryUpdate.peekNextWftSequence_agrees _ 0).1 _ _ u' htake

/-! ## Replaying a final update to its end -/

/-- The loop of a replay over an update that holds the last WFT: take a sequence, go on from the
id of its last event, until the update yields no more sequences. Each round drains at least one
event, so the update's length plus one rounds reach the end. -/
def takeAllWftSequences : Nat → HistoryUpdate → Int →
    Except String (List (List HistoryEvent × Bool))
  | 0, _, _ => .ok []
  | fuel + 1, u, f =>
    match u.takeNextWftSequence f with
    | .error e => .error e
    | .ok (.wft seq b, u') =>
      (takeAllWftSequences fuel u' ((seq.getLast?.map HistoryEvent.eventId).getD f)).map
        ((seq, b) :: ·)
    | .ok _ => .ok []

/-- The history of a run waiting for a signal: its first task completed without commands. -/
def idleHistory : List HistoryEvent :=
  [.plain 1 .workflowExecutionStarted, .plain 2 .workflowTaskScheduled,
   .plain 3 .workflowTaskStarted, .plain 4 .workflowTaskCompleted]

/-- Replaying that whole history, as `HistoryInfo` hands it over with the last WFT: the first
take returns events 1 to 3, flagged as not the last; the one event left, the task's completion,
scans as `Incomplete(0)` like an empty slice, and the next take answers `ReplayOver`. -/
theorem takeAllWftSequences_idle :
    (HistoryUpdate.fromEvents idleHistory 3 3 true).1.events = idleHistory ∧
    takeAllWftSequences (idleHistory.length + 1) (HistoryUpdate.fromEvents idleHistory 3 3 true).1 0 =
      .ok [(idleHistory.take 3, false)] ∧
    idleHistory.filter (fun e => decide (0 < e.eventId)) = idleHistory :=
  ⟨rfl, rfl, rfl⟩

end SdkCore
