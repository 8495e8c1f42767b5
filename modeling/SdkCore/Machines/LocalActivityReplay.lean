import SdkCore.Machines.LocalActivity

/-!
# Replaying a local activity from its marker

A local activity resolved outside replay (`try_resolve` on a machine from `new_local_activity`)
gives lang a `ResolveActivity` job and records a `RecordMarker` command. A later replay of the
workflow reads the marker back (`into_local_activity_marker_details`, `ResolveDat::from`),
either when the `MarkerRecorded` event reaches a machine waiting for it or ahead of time as a
pre-resolution, and resolves lang again.

`replay_resolveJobs` says that both replays give lang the same job as the original for the
results that survive the marker: a completion with a payload, a failure that carries no
`CanceledFailureInfo`, a cancellation that does, and any result with a backoff. The proof
reads the marker back once (`intoLocalActivityMarkerDetails_recordMarkerCommand`) and compares
the resolutions (`resolution_replayDat`). A timeout without a backoff does not survive
(`replay_timedOut_resolveJobs`): the original job wraps the timeout failure, the replayed one
does not.
-/

namespace SdkCore.LocalActivity

open Fsm

/-! ## The marker a server records -/

/-- The attributes of the `MarkerRecorded` event a server records for a `RecordMarker`
command: its name, details and failure. -/
def CommandAttributes.markerRecorded : CommandAttributes → Option Attributes
  | .recordMarkerCommandAttributes n d f => some (.markerRecordedEventAttributes n d f)
  | _ => none

/-- The `MarkerRecorded` event of a command, applied during replay. -/
def markerRecordedEvent (cmd : ProtoCommand) (eventId : Int) (currentTaskIsLastInHistory : Bool) :
    HistEventData :=
  { event := { eventId, eventType := .markerRecorded,
               attributes := cmd.attributes.bind CommandAttributes.markerRecorded },
    replaying := true, currentTaskIsLastInHistory }

/-- The `ResolveActivity` jobs among responses. -/
def resolveJobs (r : List MachineResponse) : List ResolveActivity :=
  r.filterMap fun
    | .pushWFJob (.resolveActivity j) => some j
    | _ => none

/-- What `into_local_activity_marker_details` reads back from the marker of a resolution. -/
def markerComplete (shared : SharedState) (dat : ResolveDat) : CompleteLocalActivityData :=
  { markerDat := markerData shared dat,
    result :=
      match dat.result.markerParts.1, dat.result.markerParts.2.1 with
      | some r, none => .ok r
      | _, some f => .error f
      | none, none => .ok default }

theorem intoLocalActivityMarkerDetails_recordMarkerCommand (shared : SharedState) (dat : ResolveDat)
    (eventId : Int) (last : Bool) :
    intoLocalActivityMarkerDetails
        (markerRecordedEvent (recordMarkerCommand shared dat) eventId last).event =
      some (markerComplete shared dat) := by
  obtain ⟨result, completeTime, attempt, backoff, ost⟩ := dat
  -- the result payload goes into the details and comes back as their last payload
  cases result with
  | completed r => cases r <;> rfl
  | failed f => cases f <;> rfl
  | timedOut f => cases f <;> rfl
  | cancelled f => cases f <;> rfl

/-! ## Which resolutions survive the marker -/

/-- A failure that is, or is caused by, a cancellation, as `ResolveDat::from` tests it. -/
def isCancellation (f : Failure) : Bool :=
  FailureInfo.isCanceled f.failureInfo || FailureInfo.isCanceled (f.cause.bind (·.failureInfo))

/-- The results that read back as themselves. -/
def LocalActivityExecutionResult.replayStable : LocalActivityExecutionResult → Bool
  | .completed (some _) => true
  | .failed (some f) => !isCancellation f
  | .cancelled (some f) => isCancellation f
  | _ => false

/-- A resolution survives the marker when it is a backoff or its result reads back as itself. -/
def ResolveDat.replayStable (dat : ResolveDat) : Bool :=
  dat.backoff.isSome || dat.result.replayStable

/-- The resolution read back from the marker. -/
def replayDat (shared : SharedState) (dat : ResolveDat) : ResolveDat :=
  ResolveDat.ofComplete (markerComplete shared dat)

@[simp] theorem replayDat_backoff (shared : SharedState) (dat : ResolveDat) :
    (replayDat shared dat).backoff = dat.backoff := rfl

@[simp] theorem replayDat_attempt (shared : SharedState) (dat : ResolveDat) :
    (replayDat shared dat).attempt = dat.attempt := rfl

@[simp] theorem replayDat_originalScheduleTime (shared : SharedState) (dat : ResolveDat) :
    (replayDat shared dat).originalScheduleTime = dat.originalScheduleTime := rfl

/-- A stable result reads back as itself. -/
theorem replayDat_result {shared : SharedState} {dat : ResolveDat}
    (h : dat.result.replayStable = true) : (replayDat shared dat).result = dat.result := by
  obtain ⟨result, completeTime, attempt, backoff, ost⟩ := dat
  cases result with
  | completed r =>
    cases r with
    | none => simp [LocalActivityExecutionResult.replayStable] at h
    | some p => rfl
  | failed f =>
    cases f with
    | none => simp [LocalActivityExecutionResult.replayStable] at h
    | some f =>
      simp only [LocalActivityExecutionResult.replayStable, isCancellation,
        Bool.not_eq_true'] at h
      simp [replayDat, ResolveDat.ofComplete, markerComplete,
        LocalActivityExecutionResult.markerParts, h]
  | timedOut f => simp [LocalActivityExecutionResult.replayStable] at h
  | cancelled f =>
    cases f with
    | none => simp [LocalActivityExecutionResult.replayStable] at h
    | some f =>
      simp only [LocalActivityExecutionResult.replayStable, isCancellation] at h
      simp [replayDat, ResolveDat.ofComplete, markerComplete,
        LocalActivityExecutionResult.markerParts, h]

/-- The resolution replay gives equals the original one, for a machine of the same activity. -/
theorem resolution_replayDat {shared shared' : SharedState}
    (hid : shared'.attrs.activityId = shared.attrs.activityId)
    (htype : shared'.attrs.activityType = shared.attrs.activityType) {dat : ResolveDat}
    (h : dat.replayStable = true) :
    resolution shared' (replayDat shared dat) = resolution shared dat := by
  cases hb : dat.backoff with
  -- a backoff is rebuilt from the marker's attempt, backoff and schedule time
  | some b => simp [resolution, hb]
  | none =>
    have hr : dat.result.replayStable = true := by
      simpa [ResolveDat.replayStable, hb] using h
    simp only [resolution, replayDat_backoff, hb, replayDat_result hr]
    cases dat.result <;> simp [wrapFail, hid, htype]

/-! ## Both sides of the replay -/

/-- The marker of the commanded activity passes the checks; only the flag's use is recorded. -/
theorem verifyMarkerDataMatches_ok (shared : SharedState) (d : CompleteLocalActivityData)
    (hseq : d.markerDat.seq = shared.attrs.seq)
    (hid : d.markerDat.activityId = shared.attrs.activityId)
    (htype : d.markerDat.activityType = shared.attrs.activityType) :
    verifyMarkerDataMatches shared d =
      ({ shared with
         internalFlags :=
           (shared.internalFlags.tryUse .idAndTypeDeterminismChecks
             (!shared.replayingWhenInvoked)).2 }, .ok ()) := by
  simp [verifyMarkerDataMatches, hseq, hid, htype]

/-- The adapter never fails: `new_local_activity` and `_try_resolve` `expect` its results. -/
theorem adaptResponse_ok (m : LocalActivityMachine) (c : LocalActivityCommand)
    (eventInfo : Option EventInfo) : ∃ r, adaptResponse m c eventInfo = .ok r := by
  cases c <;> exact ⟨_, rfl⟩

theorem adaptAll_singleton {m : LocalActivityMachine} {c : LocalActivityCommand}
    {r : List MachineResponse} (h : adaptResponse m c none = .ok r) : adaptAll m [c] = r := by
  simp [adaptAll, h]

/-- A resolution gives lang exactly one job. -/
theorem resolveJobs_of_adaptResponse {m : LocalActivityMachine} {dat : ResolveDat}
    {eventInfo : Option EventInfo} {r : List MachineResponse}
    (h : adaptResponse m (.resolved dat) eventInfo = .ok r) :
    resolveJobs r =
      [{ seq := m.sharedState.attrs.seq, result := some (resolution m.sharedState dat),
         isLocal := true }] := by
  simp only [adaptResponse, Except.ok.injEq] at h
  subst h
  split <;> split <;> simp [resolveJobs, resolveActivityJob]

/-- A replaying machine waiting for its marker resolves lang from it. -/
theorem handleEvent_markerRecorded (shared shared' : SharedState)
    (hseq : shared'.attrs.seq = shared.attrs.seq)
    (hid : shared'.attrs.activityId = shared.attrs.activityId)
    (htype : shared'.attrs.activityType = shared.attrs.activityType)
    (dat : ResolveDat) (eventId : Int) (last : Bool) :
    ∃ m r, machineDef.handleEvent ⟨some (.waitingMarkerEvent false), shared'⟩
        (markerRecordedEvent (recordMarkerCommand shared dat) eventId last) = (m, .ok r) ∧
      m.sharedState.attrs = shared'.attrs ∧
      resolveJobs r =
        [{ seq := shared'.attrs.seq,
           result := some (resolution m.sharedState (replayDat shared dat)),
           isLocal := true }] := by
  have hconv : ofHistEvent (markerRecordedEvent (recordMarkerCommand shared dat) eventId last) =
      .ok (.markerRecorded (markerComplete shared dat)) := by
    simp only [ofHistEvent, intoLocalActivityMarkerDetails_recordMarkerCommand]
    rfl
  -- the marker passes the checks, which only record the flag's use
  let shared'' : SharedState :=
    { shared' with
      internalFlags :=
        (shared'.internalFlags.tryUse .idAndTypeDeterminismChecks
          (!shared'.replayingWhenInvoked)).2 }
  have ht : transitions (.waitingMarkerEvent false) (.markerRecorded (markerComplete shared dat))
      shared' = some (shared'', .ok [.resolved (replayDat shared dat)] .markerCommandRecorded) := by
    have hverify := verifyMarkerDataMatches_ok shared' (markerComplete shared dat)
      hseq.symm hid.symm htype.symm
    simp only [transitions, WaitingMarkerEvent.onMarkerRecorded, verifyMarkerDat, hverify]
    rfl
  obtain ⟨r, hr⟩ := adaptResponse_ok ⟨some .markerCommandRecorded, shared''⟩
    (.resolved (replayDat shared dat))
    (some { eventId := eventId, eventType := .markerRecorded })
  exact ⟨_, r, machineDef.handleEvent_of_ok hconv (onEvent_ok transitions ht)
    (machineDef.processMachineCommands_singleton hr), rfl, resolveJobs_of_adaptResponse hr⟩

/-! ## New machines -/

/-- The shared state `new_local_activity` starts from. -/
def initialShared (attrs : ValidScheduleLA) (replayingWhenInvoked : Bool)
    (wfTime : Option Timestamp) (internalFlags : InternalFlags) (now : Timestamp) : SharedState :=
  { attrs := { attrs with originalScheduleTime := some (attrs.originalScheduleTime.getD now) },
    replayingWhenInvoked, wfTimeWhenStarted := wfTime, internalFlags }

/-- Outside replay the activity is queued for execution. -/
theorem newLocalActivity_executing (attrs : ValidScheduleLA) (wfTime : Option Timestamp)
    (internalFlags : InternalFlags) (now : Timestamp) :
    newLocalActivity attrs false none wfTime internalFlags now =
      .ok (⟨some .requestSent, initialShared attrs false wfTime internalFlags now⟩,
        [.queueLocalActivity (initialShared attrs false wfTime internalFlags now).attrs]) :=
  rfl

/-- In replay the machine waits for the marker. -/
theorem newLocalActivity_replaying (attrs : ValidScheduleLA) (wfTime : Option Timestamp)
    (internalFlags : InternalFlags) (now : Timestamp) :
    newLocalActivity attrs true none wfTime internalFlags now =
      .ok (⟨some (.waitingMarkerEvent false), initialShared attrs true wfTime internalFlags now⟩,
        []) :=
  rfl

/-- In replay with data found ahead, lang is resolved from it at once. -/
theorem newLocalActivity_preResolved (attrs : ValidScheduleLA) (dat : ResolveDat)
    (wfTime : Option Timestamp) (internalFlags : InternalFlags) (now : Timestamp) :
    ∃ r, newLocalActivity attrs true (some dat) wfTime internalFlags now =
        .ok (⟨some .waitingMarkerEventPreResolved,
          initialShared attrs true wfTime internalFlags now⟩, r) ∧
      resolveJobs r =
        [{ seq := attrs.seq,
           result := some (resolution (initialShared attrs true wfTime internalFlags now) dat),
           isLocal := true }] := by
  obtain ⟨r, hr⟩ := adaptResponse_ok
    ⟨some .waitingMarkerEventPreResolved, initialShared attrs true wfTime internalFlags now⟩
    (.resolved dat) none
  -- only the last command of the schedule, the resolution, is adapted
  have hnew : newLocalActivity attrs true (some dat) wfTime internalFlags now =
      .ok (⟨some .waitingMarkerEventPreResolved, initialShared attrs true wfTime internalFlags now⟩,
        adaptAll
          ⟨some .waitingMarkerEventPreResolved, initialShared attrs true wfTime internalFlags now⟩
          [.resolved dat]) := rfl
  exact ⟨r, by rw [hnew, adaptAll_singleton hr], resolveJobs_of_adaptResponse hr⟩

/-- A requested activity's result resolves lang and is recorded by a marker. -/
theorem tryResolve_requestSent (shared : SharedState) (hrep : shared.replayingWhenInvoked = false)
    (result : LocalActivityExecutionResult) (runtime : Duration) (attempt : Nat)
    (backoff : Option Duration) (originalScheduleTime : Option Timestamp) :
    let dat : ResolveDat :=
      { result, completeTime := shared.wfTimeWhenStarted.map (Timestamp.add · runtime), attempt,
        backoff, originalScheduleTime }
    ∃ m r, LocalActivityMachine.tryResolve ⟨some .requestSent, shared⟩ result runtime attempt
        backoff originalScheduleTime = (m, .ok r) ∧
      .issueNewCommand (recordMarkerCommand shared dat) ∈ r ∧
      resolveJobs r =
        [{ seq := shared.attrs.seq, result := some (resolution shared dat), isLocal := true }] := by
  intro dat
  obtain ⟨r, hr⟩ := adaptResponse_ok ⟨some (.markerCommandCreated result.resultType), shared⟩
    (.resolved dat) none
  have hres : LocalActivityMachine.tryResolve ⟨some .requestSent, shared⟩ result runtime attempt
      backoff originalScheduleTime =
        (⟨some (.markerCommandCreated result.resultType), shared⟩,
          .ok (adaptAll ⟨some (.markerCommandCreated result.resultType), shared⟩
            [.resolved dat])) :=
    rfl
  refine ⟨_, r, by rw [hres, adaptAll_singleton hr], ?_, resolveJobs_of_adaptResponse hr⟩
  -- "Only issue record marker commands if we weren't replaying"
  simp only [adaptResponse, hrep, Except.ok.injEq] at hr
  subst hr
  simp

/-! ## Replay stability -/

/-- An `echo` local activity, scheduled as sequence number 1. -/
def echoAttrs : ValidScheduleLA :=
  { seq := 1, activityId := "1", activityType := "echo", attempt := 1,
    originalScheduleTime := some ⟨0, 0⟩, cancellationType := .tryCancel }

/-- For the results that survive their marker, both replays (from the `MarkerRecorded` event,
and from the marker found ahead) give lang the job the original execution gave it. -/
theorem replay_resolveJobs (attrs : ValidScheduleLA) (flags flags' : InternalFlags)
    (wfTime wfTime' : Option Timestamp) (now now' : Timestamp)
    (result : LocalActivityExecutionResult) (runtime : Duration) (attempt : Nat)
    (backoff : Option Duration) (originalScheduleTime : Option Timestamp) (eventId : Int)
    (last : Bool) (hstable : backoff.isSome = true ∨ result.replayStable = true) :
    ∃ (m₀ m₁ : LocalActivityMachine) (r₁ : List MachineResponse) (cmd : ProtoCommand),
      newLocalActivity attrs false none wfTime flags now =
        .ok (m₀, [.queueLocalActivity m₀.sharedState.attrs]) ∧
      LocalActivityMachine.tryResolve m₀ result runtime attempt backoff originalScheduleTime =
        (m₁, .ok r₁) ∧
      .issueNewCommand cmd ∈ r₁ ∧ cmd.commandType = .recordMarker ∧ (resolveJobs r₁).length = 1 ∧
      (∃ m₂ m₃ r₃, newLocalActivity attrs true none wfTime' flags' now' = .ok (m₂, []) ∧
        machineDef.handleEvent m₂ (markerRecordedEvent cmd eventId last) = (m₃, .ok r₃) ∧
        resolveJobs r₃ = resolveJobs r₁) ∧
      (∃ d m₂ r₂, intoLocalActivityMarkerDetails (markerRecordedEvent cmd eventId last).event = some d ∧
        newLocalActivity attrs true (some (ResolveDat.ofComplete d)) wfTime' flags' now' = .ok (m₂, r₂) ∧
        resolveJobs r₂ = resolveJobs r₁) := by
  let sh := initialShared attrs false wfTime flags now
  let sh' := initialShared attrs true wfTime' flags' now'
  let dat : ResolveDat :=
    { result, completeTime := sh.wfTimeWhenStarted.map (Timestamp.add · runtime), attempt,
      backoff, originalScheduleTime }
  have hdat : dat.replayStable = true := by
    rcases hstable with h | h <;> simp [ResolveDat.replayStable, dat, h]
  obtain ⟨m₁, r₁, htry, hmem, hjobs₁⟩ :=
    tryResolve_requestSent sh rfl result runtime attempt backoff originalScheduleTime
  -- the replayed resolution is the original one
  have hsame : ∀ shared : SharedState, shared.attrs.activityId = attrs.activityId →
      shared.attrs.activityType = attrs.activityType →
      resolution shared (replayDat sh dat) = resolution sh dat :=
    fun shared hid htype => resolution_replayDat hid htype hdat
  refine ⟨_, m₁, r₁, recordMarkerCommand sh dat, newLocalActivity_executing attrs wfTime flags now,
    htry, hmem, rfl, by simp [hjobs₁], ?_, ?_⟩
  · obtain ⟨m₃, r₃, hev, hattrs, hjobs₃⟩ :=
      handleEvent_markerRecorded sh sh' rfl rfl rfl dat eventId last
    refine ⟨_, m₃, r₃, newLocalActivity_replaying attrs wfTime' flags' now', hev, ?_⟩
    rw [hjobs₃, hjobs₁, hsame _ (by rw [hattrs]; rfl) (by rw [hattrs]; rfl)]
    rfl
  · obtain ⟨r₂, hnew, hjobs₂⟩ :=
      newLocalActivity_preResolved attrs (replayDat sh dat) wfTime' flags' now'
    refine ⟨markerComplete sh dat, _, r₂,
      intoLocalActivityMarkerDetails_recordMarkerCommand sh dat eventId last, hnew, ?_⟩
    rw [hjobs₂, hjobs₁, hsame _ rfl rfl]
    rfl

/-- The `echo` activity completing with a payload after one second replays as it ran. -/
theorem replay_resolveJobs_echoCompleted :
    ((none : Option Duration).isSome = true ∨
        (LocalActivityExecutionResult.completed (some default)).replayStable = true) ∧
    ∃ (m₀ m₁ : LocalActivityMachine) (r₁ : List MachineResponse) (cmd : ProtoCommand),
      newLocalActivity echoAttrs false none (some ⟨0, 0⟩) (.enabled [] []) ⟨0, 0⟩ =
        .ok (m₀, [.queueLocalActivity m₀.sharedState.attrs]) ∧
      LocalActivityMachine.tryResolve m₀ (.completed (some default)) ⟨1, 0⟩ 1 none (some ⟨0, 0⟩) =
        (m₁, .ok r₁) ∧
      .issueNewCommand cmd ∈ r₁ ∧ cmd.commandType = .recordMarker ∧ (resolveJobs r₁).length = 1 ∧
      (∃ m₂ m₃ r₃,
        newLocalActivity echoAttrs true none (some ⟨0, 0⟩) (.enabled [] []) ⟨0, 0⟩ = .ok (m₂, []) ∧
        machineDef.handleEvent m₂ (markerRecordedEvent cmd 5 true) = (m₃, .ok r₃) ∧
        resolveJobs r₃ = resolveJobs r₁) ∧
      (∃ d m₂ r₂, intoLocalActivityMarkerDetails (markerRecordedEvent cmd 5 true).event = some d ∧
        newLocalActivity echoAttrs true (some (ResolveDat.ofComplete d)) (some ⟨0, 0⟩)
          (.enabled [] []) ⟨0, 0⟩ = .ok (m₂, r₂) ∧
        resolveJobs r₂ = resolveJobs r₁) :=
  ⟨.inr rfl, replay_resolveJobs echoAttrs (.enabled [] []) (.enabled [] []) (some ⟨0, 0⟩)
    (some ⟨0, 0⟩) ⟨0, 0⟩ ⟨0, 0⟩ (.completed (some default)) ⟨1, 0⟩ 1 none (some ⟨0, 0⟩) 5 true
    (.inr rfl)⟩


/-- The failure of a schedule-to-close timeout, as the worker reports it. -/
def scheduleToCloseFailure : Failure :=
  { message := "Activity timed out", cause := none,
    failureInfo := some (.timeoutFailureInfo .scheduleToClose none) }

/-- A timeout without a backoff does not survive its marker: executed, lang is given the timeout
wrapped in an `ActivityFailureInfo`; replayed from the marker, the bare timeout failure. -/
theorem replay_timedOut_resolveJobs :
    ∃ (m₀ m₁ m₂ m₃ : LocalActivityMachine) (r₁ r₃ : List MachineResponse) (cmd : ProtoCommand),
      newLocalActivity echoAttrs false none (some ⟨0, 0⟩) (.enabled [] []) ⟨0, 0⟩ =
        .ok (m₀, [.queueLocalActivity m₀.sharedState.attrs]) ∧
      LocalActivityMachine.tryResolve m₀ (.timeout .scheduleToClose) ⟨1, 0⟩ 1 none (some ⟨0, 0⟩) =
        (m₁, .ok r₁) ∧
      .issueNewCommand cmd ∈ r₁ ∧
      newLocalActivity echoAttrs true none (some ⟨0, 0⟩) (.enabled [] []) ⟨0, 0⟩ = .ok (m₂, []) ∧
      machineDef.handleEvent m₂ (markerRecordedEvent cmd 5 true) = (m₃, .ok r₃) ∧
      resolveJobs r₁ =
        [{ seq := 1, isLocal := true,
           result := some { status := some (.failed (some
             { message := "Local Activity timed out", cause := some scheduleToCloseFailure,
               failureInfo := some (Activity.activityFailInfo "echo" "1" none .cancelRequested 0 0) })) } }] ∧
      resolveJobs r₃ =
        [{ seq := 1, isLocal := true,
           result := some { status := some (.failed (some scheduleToCloseFailure)) } }] := by
  let sh := initialShared echoAttrs false (some ⟨0, 0⟩) (.enabled [] []) ⟨0, 0⟩
  let sh' := initialShared echoAttrs true (some ⟨0, 0⟩) (.enabled [] []) ⟨0, 0⟩
  obtain ⟨m₁, r₁, htry, hmem, hjobs₁⟩ :=
    tryResolve_requestSent sh rfl (.timeout .scheduleToClose) ⟨1, 0⟩ 1 none (some ⟨0, 0⟩)
  obtain ⟨m₃, r₃, hev, -, hjobs₃⟩ := handleEvent_markerRecorded sh sh' rfl rfl rfl _ 5 true
  refine ⟨_, m₁, _, m₃, r₁, r₃, _, newLocalActivity_executing _ _ _ _, htry, hmem,
    newLocalActivity_replaying _ _ _ _, hev, ?_, ?_⟩
  · rw [hjobs₁]; rfl
  -- the marker's failure reads back as a plain failure, which no machine state wraps
  · rw [hjobs₃]; rfl

end SdkCore.LocalActivity
