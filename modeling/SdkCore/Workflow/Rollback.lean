import SdkCore.InternalFlags

/-!
# Rolling back a speculative workflow task

A workflow task that carries only an update request is speculative: when lang rejects the update,
the server drops the task from history and answers the completion with `reset_history_event_id`,
and `ManagedRun::mark_wft_complete` calls `WorkflowMachines::reset_last_started_id` with it. The
rollback rewinds the started id, steps `last_processed_event` back over the task's two events and
drops the machines created for them (`resetLastStartedId_speculative`).

It does not rewind the internal flags. Answering the speculative task gathered the flags lang used
in it into the known set, and the server never recorded them; the next real task, whose events
reuse the ids the speculative one had, then no longer reports them, where the same task applied
before the speculative one does (`answerWft_after_rollback`).
-/

namespace SdkCore.Workflow

/-- The fields of `WorkflowMachines` that `reset_last_started_id` touches, and the internal flags.
`machines_by_event_id` is kept as its entries and `all_machines` as its keys. -/
structure MachinesState where
  currentStartedEventId : Int
  lastProcessedEvent : Int
  machinesByEventId : List (Int × Nat)
  allMachines : List Nat
  observedInternalFlags : Flags.InternalFlags

namespace MachinesState

/-- `WorkflowMachines::reset_last_started_id`. -/
def resetLastStartedId (m : MachinesState) (id : Int) : MachinesState :=
  let lastProcessedEvent := m.lastProcessedEvent - 2
  let removeThese := m.machinesByEventId.filter fun (mid, _) => decide (mid > lastProcessedEvent)
  { m with
    currentStartedEventId := id
    lastProcessedEvent
    machinesByEventId :=
      m.machinesByEventId.filter fun (mid, _) => !decide (mid > lastProcessedEvent)
    allMachines := m.allMachines.filter fun k => !(removeThese.map Prod.snd).contains k }

/-- The internal-flag part of answering a workflow task that is not replayed: `_process_completion`
adds the flags lang used, and `prepare_complete_resp` takes the commands, whose `get_commands`
notes every known core flag, and then the metadata of `get_metadata_for_wft_complete`. -/
def answerWft (m : MachinesState) (usedFlags : List Nat) :
    Flags.WorkflowTaskCompletedMetadata × MachinesState :=
  let (metadata, flags) :=
    ((m.observedInternalFlags.addLangUsed usedFlags).writeAllKnown).gatherForWftComplete
  (metadata, { m with observedInternalFlags := flags })

theorem answerWft_langUsedFlags (m : MachinesState) (f : Flags.EnabledFlags)
    (hf : m.observedInternalFlags = .enabled f) (usedFlags : List Nat) :
    (m.answerWft usedFlags).1.langUsedFlags =
      (f.langSinceLastComplete ∪ usedFlags.toFinset).filter (· ∉ f.lang) := by
  simp [answerWft, hf, Flags.InternalFlags.addLangUsed, Flags.InternalFlags.writeAllKnown,
    Flags.InternalFlags.gatherForWftComplete]

/-- Every machine is keyed at an event already processed. -/
def KeyedProcessed (m : MachinesState) : Prop :=
  ∀ p ∈ m.machinesByEventId, p.1 ≤ m.lastProcessedEvent

instance (m : MachinesState) : Decidable m.KeyedProcessed :=
  inferInstanceAs (Decidable (∀ p ∈ m.machinesByEventId, p.1 ≤ m.lastProcessedEvent))

/-- Servicing a speculative task from `m` processes its two events, creates the machines `new`
for them, whose keys are fresh, and leaves the flags `flags`; rolling it back to `m`'s started id
gives `m` back, but with the flags `flags`. -/
theorem resetLastStartedId_speculative (m : MachinesState) (hm : m.KeyedProcessed)
    (new : List (Int × Nat)) (hnew : ∀ p ∈ new, m.lastProcessedEvent < p.1)
    (hfresh : ∀ p ∈ new, p.2 ∉ m.allMachines) (flags : Flags.InternalFlags) :
    resetLastStartedId ⟨m.lastProcessedEvent + 2, m.lastProcessedEvent + 2,
        new ++ m.machinesByEventId, new.map Prod.snd ++ m.allMachines, flags⟩
        m.currentStartedEventId =
      { m with observedInternalFlags := flags } := by
  have hlast : m.lastProcessedEvent + 2 - 2 = m.lastProcessedEvent := by omega
  -- the new machines are exactly those keyed after the last event processed before the task
  have hremoved : ((new ++ m.machinesByEventId).filter
      fun p => decide (p.1 > m.lastProcessedEvent)) = new := by
    rw [List.filter_append, List.filter_eq_self.mpr (fun p hp => by simpa using hnew p hp),
      List.filter_eq_nil_iff.mpr (fun p hp => by simpa using hm p hp), List.append_nil]
  have hkept : ((new ++ m.machinesByEventId).filter
      fun p => !decide (p.1 > m.lastProcessedEvent)) = m.machinesByEventId := by
    rw [List.filter_append, List.filter_eq_nil_iff.mpr (fun p hp => by simpa using hnew p hp),
      List.filter_eq_self.mpr (fun p hp => by simpa using hm p hp), List.nil_append]
  have hkeys : ((new.map Prod.snd ++ m.allMachines).filter
      fun k => !(new.map Prod.snd).contains k) = m.allMachines := by
    rw [List.filter_append, List.filter_eq_nil_iff.mpr (fun k hk => by simpa using hk),
      List.filter_eq_self.mpr (fun k hk => ?_), List.nil_append]
    have hnot : k ∉ new.map Prod.snd := fun hmem => by
      obtain ⟨p, hp, rfl⟩ := List.mem_map.mp hmem
      exact hfresh p hp hk
    simpa using hnot
  simp only [resetLastStartedId, hlast, hremoved, hkept, hkeys]

/-! ## Flags after the rollback -/

/-- The first task of a run, answered: events 1 to 3, the task's machine keyed at its scheduled
event, and flags enabled. -/
def firstTaskState : MachinesState :=
  ⟨3, 3, [(2, 0)], [0], Flags.InternalFlags.new true "temporal-core" "1.0"⟩

/-- The state right after the first task's completion, which lang answered using no flag. -/
def afterFirstTask : MachinesState := (firstTaskState.answerWft []).2

/-- A speculative task serviced after it: its events 4 and 5, the task's machine keyed at 4, and
the flags after lang answered it, rejecting the update, with its flag 7. -/
def afterSpeculativeTask : MachinesState :=
  ⟨5, 5, [(4, 1)] ++ afterFirstTask.machinesByEventId, [1] ++ afterFirstTask.allMachines,
    (afterFirstTask.answerWft [7]).2.observedInternalFlags⟩

/-- Rolling the speculative task back restores the ids and machines of the state before it but not
its flags: the next real task, answered by lang with flag 7 again, reports flag 7 when applied
before the speculative one and nothing after the rollback. -/
theorem answerWft_after_rollback :
    afterSpeculativeTask.resetLastStartedId afterFirstTask.currentStartedEventId =
        { afterFirstTask with
          observedInternalFlags := (afterFirstTask.answerWft [7]).2.observedInternalFlags } ∧
      (afterFirstTask.answerWft [7]).1.langUsedFlags = {7} ∧
      ((afterSpeculativeTask.resetLastStartedId afterFirstTask.currentStartedEventId).answerWft
        [7]).1.langUsedFlags = ∅ := by
  refine ⟨resetLastStartedId_speculative afterFirstTask (by decide) [(4, 1)] (by decide)
    (by decide) _, by decide, by decide⟩

end MachinesState

end SdkCore.Workflow
