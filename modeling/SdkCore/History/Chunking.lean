import SdkCore.History.Update

/-!
# What the chunking keeps and what it loses

`fromEvents_append`: `from_events` splits its input, the update's events followed by the
remainder give back the input. `takeNextWftSequence_append`: a take splits the update's events
after the skipped prefix into the returned sequence and what stays.

`from_events` decides where a sequence ends with the lookahead of `find_end_index_of_next_wft_seq`
over the whole input, and then cuts the remainder off. A sequence ending on a WFT started event
that is followed by a WFT completed event and one more event, with no command and no workflow
start before it, is complete in the input and incomplete in the cut update: its end was seen
only through the events that went into the remainder. `take_next_wft_sequence` then reaches the
panic `"HistoryUpdate was created with an incomplete WFT"` (`takeNextWftSequence_signalThenTimer`).
-/

namespace SdkCore

namespace HistoryUpdate

theorem fromEvents_append (allEvents : List HistoryEvent) (p s : Int) (hasLastWft : Bool) :
    (fromEvents allEvents p s hasLastWft).1.events ++ (fromEvents allEvents p s hasLastWft).2 =
      allEvents := by
  unfold fromEvents
  split
  · split <;> simp
  · split
    split <;> simp

/-- Dropping the handled events removes a prefix. -/
theorem dropEarlierThan_events (u : HistoryUpdate) (f : Int) :
    ∃ pre, u.events = pre ++ (u.dropEarlierThan f).events := by
  unfold dropEarlierThan
  cases u.startingIndexAfterSkipping f with
  | none => exact ⟨[], rfl⟩
  | some ix => exact ⟨u.events.take ix, (List.take_append_drop ix u.events).symm⟩

theorem buildNextWft_append (u : HistoryUpdate) (n : Nat) (es : List HistoryEvent) (b : Bool)
    (u' : HistoryUpdate) (h : u.buildNextWft n = (.wft es b, u')) : es ++ u'.events = u.events := by
  unfold buildNextWft at h
  simp only [Prod.mk.injEq, NextWFT.wft.injEq] at h
  obtain ⟨⟨rfl, -⟩, rfl⟩ := h
  exact List.take_append_drop _ _

/-- A take returns a prefix of the events after the skipped ones, and keeps the rest. -/
theorem takeNextWftSequence_append {u u' : HistoryUpdate} {f : Int} {es : List HistoryEvent}
    {b : Bool} (h : u.takeNextWftSequence f = .ok (.wft es b, u')) :
    ∃ pre, u.events = pre ++ es ++ u'.events := by
  obtain ⟨pre, hpre⟩ := dropEarlierThan_events u f
  refine ⟨pre, ?_⟩
  -- every arm that returns a sequence is a `build_next_wft` on the update after the drop
  have hsplit : es ++ u'.events = (u.dropEarlierThan f).events := by
    unfold takeNextWftSequence at h
    dsimp only at h
    split at h
    · split at h
      · split at h
        · cases h
        · exact buildNextWft_append _ _ es b u' (Except.ok.inj h)
      · split at h <;> cases h
    · exact buildNextWft_append _ _ es b u' (Except.ok.inj h)
  rw [List.append_assoc, hsplit, ← hpre]

end HistoryUpdate

/-! ## The panic at a sequence ended by lookahead -/

/-- A run that waits for a signal and then starts a timer, cut after the timer command: the
second task (events 4 to 7) has no command, and its end is known only from events 8 and 9.
`WorkflowExecutionStarted`, then the tasks 2-3 and 6-7 around a signal, then task 7's
completion and its `TimerStarted`. -/
def signalThenTimerHistory : List HistoryEvent :=
  [.plain 1 .workflowExecutionStarted, .plain 2 .workflowTaskScheduled,
   .plain 3 .workflowTaskStarted, .plain 4 .workflowTaskCompleted,
   .plain 5 .workflowExecutionSignaled, .plain 6 .workflowTaskScheduled,
   .plain 7 .workflowTaskStarted, .plain 8 .workflowTaskCompleted, .plain 9 .timerStarted]

/-- `from_events` counts two complete sequences and hands back events 8 and 9; the first take
returns events 1 to 3, the second panics on the cut sequence 4 to 7. -/
theorem takeNextWftSequence_signalThenTimer :
    (HistoryUpdate.fromEvents signalThenTimerHistory 0 9 false).1.wftCount = 2 ∧
    (HistoryUpdate.fromEvents signalThenTimerHistory 0 9 false).2 =
      [.plain 8 .workflowTaskCompleted, .plain 9 .timerStarted] ∧
    ((HistoryUpdate.fromEvents signalThenTimerHistory 0 9 false).1.takeNextWftSequence 0).map
      Prod.fst = .ok (.wft (signalThenTimerHistory.take 3) false) ∧
    (((HistoryUpdate.fromEvents signalThenTimerHistory 0 9 false).1.takeNextWftSequence 0) >>=
      fun r => r.2.takeNextWftSequence 3) = .error incompleteWftPanic :=
  ⟨by decide, by decide, rfl, rfl⟩

end SdkCore
