import SdkCore.Machines.LocalActivity
import SdkCore.Maps
import SdkCore.Steps

/-!
# The local activity manager

`crates/sdk-core/src/worker/activities/local_activities.rs`. The manager keeps, for every local
activity it was asked to run, an entry in `la_info` keyed by run id and sequence number, and for
every attempt dispatched to lang an entry in `outstanding_activity_tasks` keyed by its task
token. New activities and retries wait in the request channel, cancels and timeouts in the
cancel channel; `next_pending` takes the next message of either.

The model is the state of the manager with its two channels. What the code reads off the clock
or the retry policy is an input: whether `TimeoutBag::new` finds the activity already timed out,
whether a request sat in the queue past its schedule-to-start timeout, the backoff the retry
policy gives a failure, and whether that backoff is long enough for a timer. Spawned tasks are
kept as data: a backoff task sends its retry when it elapses (`elapseBackoff`), and a timeout
timer sends its resolution to the cancel channel (`elapseTimeout`).

`enqueue` inserts the entry before it sets up the timeouts. When `TimeoutBag::new` reports the
activity already timed out, the resolution is returned at once and the entry stays; as no
attempt will ever complete, nothing removes it, and a later request for the same activity is
taken for one already executing and dropped (`enqueue_timedOut_thenDropped`).
-/

namespace SdkCore.LocalActivities

open LocalActivity Maps

/-! ## Identifiers and requests -/

/-- `ExecutingLAId`. -/
structure ExecutingLAId where
  runId : String
  seqNum : Nat
  deriving Repr, DecidableEq

/-- `NewLocalAct`; `workflow_exec_info` is kept as its run id. -/
structure NewLocalAct where
  scheduleCmd : ValidScheduleLA
  workflowType : String
  runId : String
  deriving Repr, DecidableEq

/-- The id of the activity a request is for. -/
def NewLocalAct.id (act : NewLocalAct) : ExecutingLAId := ⟨act.runId, act.scheduleCmd.seq⟩

/-- A local activity task token, by the counter it is made from. -/
abbrev TaskToken := Nat

/-- `LocalActivityResolution`; the runtime, read off the clock, is not kept. -/
structure LocalActivityResolution where
  seq : Nat
  result : LocalActivityExecutionResult
  attempt : Nat
  backoff : Option Duration
  originalScheduleTime : Option Timestamp
  deriving Repr, DecidableEq

/-- `NewOrRetry`. -/
inductive NewOrRetry where
  | new (act : NewLocalAct)
  | retry (inFlight : NewLocalAct) (attempt : Nat)
  deriving Repr, DecidableEq

/-- `ActivityCancelReason`, the reasons the manager gives. -/
inductive ActivityCancelReason where
  | cancelled | timedOut
  deriving Repr, DecidableEq

/-- `CancelOrTimeout`; a cancel task is kept as its token and reason. -/
inductive CancelOrTimeout where
  | cancel (taskToken : TaskToken) (reason : ActivityCancelReason)
  | timeout (runId : String) (resolution : LocalActivityResolution)
  deriving Repr, DecidableEq

/-- The backoff task spawned for a retry: sleeping with the retry it will send, or done. -/
inductive BackoffTask where
  | sleeping (retry : NewOrRetry)
  | fired
  deriving Repr, DecidableEq

/-- `TimeoutBag`: the run id and the resolution its timers send, whether its schedule-to-close
timer is still to fire, whether the activity has a start-to-close timeout, and how many
start-to-close timers spawned by `mark_started` are still to fire. Each `mark_started` spawns one
and replaces the handle of the last, which is detached, not aborted; the timers of a bag whose
entry is gone find no entry when they fire, and `next_pending` ignores them. -/
structure TimeoutBag where
  runId : String
  resolution : LocalActivityResolution
  scheduleToClosePending : Bool
  hasStartToClose : Bool
  startToClosePending : Nat
  deriving Repr, DecidableEq

/-- `LocalActivityInfo`. -/
structure LocalActivityInfo where
  taskToken : TaskToken
  backingOffTask : Option BackoffTask
  timeoutBag : Option TimeoutBag
  firstWftHasEnded : Bool
  attemptsInWft : Nat
  deriving Repr, DecidableEq

/-- `LocalInFlightActInfo`; the dispatch time and the permit are not kept. -/
structure LocalInFlightActInfo where
  laInfo : NewLocalAct
  attempt : Nat
  deriving Repr, DecidableEq

/-- What `TimeoutBag::new` finds: the schedule-to-close timeout already passed, or the timers
the activity's close timeouts give it. -/
inductive TimeoutSetup where
  | alreadyTimedOut
  | timers (scheduleToClose startToClose : Bool)
  deriving Repr, DecidableEq

/-- `LocalActRequest`. `New` carries what `TimeoutBag::new` reads off the activity's timeouts
and the clock. -/
inductive LocalActRequest where
  | new (act : NewLocalAct) (timeouts : TimeoutSetup)
  | cancel (id : ExecutingLAId)
  | cancelAllInRun (runId : String)
  | indicateWorkflowTaskCompleted (runId : String)
  deriving Repr, DecidableEq

/-! ## The manager -/

/-- `LAMData`. -/
structure LAMData where
  laInfo : Map ExecutingLAId LocalActivityInfo
  outstandingActivityTasks : Map TaskToken LocalInFlightActInfo
  nextTtNum : Nat
  deriving DecidableEq

/-- The manager's state: its data, the request channel and the cancel channel, oldest first. -/
structure LocalActivityManager where
  dat : LAMData
  actReqs : List NewOrRetry
  cancelReqs : List CancelOrTimeout
  workflowsHaveShutDown : Bool
  deriving DecidableEq

/-- A new manager. -/
def LocalActivityManager.new : LocalActivityManager :=
  { dat := { laInfo := ∅, outstandingActivityTasks := ∅, nextTtNum := 0 }, actReqs := [],
    cancelReqs := [], workflowsHaveShutDown := false }

/-- `LAMData::gen_next_token`. -/
def LAMData.genNextToken (d : LAMData) : TaskToken × LAMData :=
  (d.nextTtNum + 1, { d with nextTtNum := d.nextTtNum + 1 })

/-- `LocalActivityExecutionResult::get_timeout_type`. -/
def getTimeoutType : LocalActivityExecutionResult → Option TimeoutType
  | .timedOut (some { failureInfo := some (.timeoutFailureInfo tt _), .. }) => some tt
  | _ => none

/-- The resolution `TimeoutBag::new` builds: a schedule-to-close timeout. -/
def TimeoutBag.newResolution (act : NewLocalAct) : LocalActivityResolution :=
  { seq := act.scheduleCmd.seq, result := LocalActivityExecutionResult.timeout .scheduleToClose,
    attempt := act.scheduleCmd.attempt, backoff := none,
    originalScheduleTime := act.scheduleCmd.originalScheduleTime }

/-- `TimeoutBag::mark_started`: a start-to-close timer, if the activity has a start-to-close
timeout, is spawned. -/
def TimeoutBag.markStarted (bag : TimeoutBag) : TimeoutBag :=
  if bag.hasStartToClose then { bag with startToClosePending := bag.startToClosePending + 1 }
  else bag

/-! ## `enqueue` -/

/-- `cancel_one_la`: the entry afterwards, the immediate resolution and the cancel sent to the
cancel channel. A backing-off activity is resolved as cancelled at once; any other gets a
cancel task. -/
def cancelOneLa (seq : Nat) (lai : LocalActivityInfo) :
    LocalActivityInfo × Option LocalActivityResolution × Option CancelOrTimeout :=
  match lai.backingOffTask with
  | some _ =>
    ({ lai with backingOffTask := none },
      some { seq, result := .cancelled (some cancellationFromNoDetails), attempt := 0,
             backoff := none, originalScheduleTime := none }, none)
  | none => (lai, none, some (.cancel lai.taskToken .cancelled))

/-- The entries of a run, as `iter_mut().filter` visits them. -/
def entriesOfRun (m : Map ExecutingLAId LocalActivityInfo) (runId : String) :
    List (ExecutingLAId × LocalActivityInfo) :=
  (m.entries.filter fun p => p.1.runId = runId).map fun p => (p.1, p.2)

/-- One request of `enqueue`. -/
def enqueueOne (s : LocalActivityManager) : LocalActRequest →
    LocalActivityManager × List LocalActivityResolution
  | .new act timeouts =>
    let (tt, dat) := s.dat.genNextToken
    let s := { s with dat }
    match s.dat.laInfo.lookup act.id with
    -- "Do not queue local activities which are in fact already executing."
    | some _ => (s, [])
    | none =>
      let lai : LocalActivityInfo :=
        { taskToken := tt, backingOffTask := none, timeoutBag := none, firstWftHasEnded := false,
          attemptsInWft := 0 }
      match timeouts with
      | .alreadyTimedOut =>
        ({ s with dat := { s.dat with laInfo := s.dat.laInfo.insert act.id lai } },
          [TimeoutBag.newResolution act])
      | .timers scheduleToClose startToClose =>
        let bag : TimeoutBag :=
          { runId := act.runId, resolution := TimeoutBag.newResolution act,
            scheduleToClosePending := scheduleToClose, hasStartToClose := startToClose,
            startToClosePending := 0 }
        let lai := { lai with timeoutBag := some bag }
        ({ s with dat := { s.dat with laInfo := s.dat.laInfo.insert act.id lai },
                  actReqs := s.actReqs ++ [.new act] }, [])
  | .cancel id =>
    match s.dat.laInfo.lookup id with
    | some lai =>
      let (lai, res, cancel) := cancelOneLa id.seqNum lai
      ({ s with dat := { s.dat with laInfo := s.dat.laInfo.insert id lai },
                cancelReqs := s.cancelReqs ++ cancel.toList }, res.toList)
    | none => (s, [])
  | .cancelAllInRun runId =>
    let cancelled := (entriesOfRun s.dat.laInfo runId).map fun p => cancelOneLa p.1.seqNum p.2
    let laInfo := mapVal (fun id lai =>
      if id.runId = runId then (cancelOneLa id.seqNum lai).1 else lai) s.dat.laInfo
    ({ s with dat := { s.dat with laInfo },
              cancelReqs := s.cancelReqs ++ cancelled.filterMap fun c => c.2.2 },
      cancelled.filterMap fun c => c.2.1)
  | .indicateWorkflowTaskCompleted runId =>
    let laInfo := mapVal (fun id lai =>
      if id.runId = runId then { lai with firstWftHasEnded := true, attemptsInWft := 0 }
      else lai) s.dat.laInfo
    ({ s with dat := { s.dat with laInfo } }, [])

/-- `LocalActivityManager::enqueue`; after workflows have shut down it does nothing, as
`dbg_panic!` does outside debug builds. -/
def enqueue (s : LocalActivityManager) (reqs : List LocalActRequest) :
    LocalActivityManager × List LocalActivityResolution :=
  if s.workflowsHaveShutDown then (s, [])
  else reqs.foldl (fun (acc : LocalActivityManager × List LocalActivityResolution) req =>
    let (s, out) := enqueueOne acc.1 req
    (s, acc.2 ++ out)) (s, [])

/-! ## `complete` -/

/-- `LACompleteAction`; a cancel task is kept as its token and reason. -/
inductive LACompleteAction where
  | report (runId : String) (resolution : LocalActivityResolution)
      (task : Option (TaskToken × ActivityCancelReason))
  | willBeRetried (task : Option (TaskToken × ActivityCancelReason))
  | untracked
  deriving Repr, DecidableEq

/-- What the retry policy says about a failed attempt: the backoff, if it retries, and whether
that backoff exceeds the local retry threshold, so that lang schedules a timer. -/
structure RetryDecision where
  backoff : Option Duration
  willUseTimer : Bool
  deriving Repr, DecidableEq

/-- `LocalActivityManager::complete`. -/
def complete (s : LocalActivityManager) (taskToken : TaskToken)
    (status : LocalActivityExecutionResult) (decision : RetryDecision) :
    LocalActivityManager × LACompleteAction :=
  match s.dat.outstandingActivityTasks.lookup taskToken with
  | none => (s, .untracked)
  | some info =>
    let dat := { s.dat with
      outstandingActivityTasks := s.dat.outstandingActivityTasks.erase taskToken }
    let execId := info.laInfo.id
    let maybeOldLai := dat.laInfo.lookup execId
    let dat := { dat with laInfo := dat.laInfo.erase execId }
    let isTimeout := match status with
      | .timedOut _ => true
      | _ => false
    -- "Start to close timeouts are retryable, other timeout types aren't."
    let failurePath := match status with
      | .failed _ => true
      | .timedOut _ => getTimeoutType status = some TimeoutType.startToClose
      | _ => false
    let resolution : LocalActivityResolution :=
      { seq := info.laInfo.scheduleCmd.seq, result := status, attempt := info.attempt,
        backoff := none, originalScheduleTime := info.laInfo.scheduleCmd.originalScheduleTime }
    let task := if isTimeout then some (taskToken, ActivityCancelReason.timedOut) else none
    let report := LACompleteAction.report info.laInfo.runId resolution task
    match failurePath, decision.backoff with
    | true, some backoffDur =>
      if decision.willUseTimer then
        ({ s with dat },
          .report info.laInfo.runId { resolution with backoff := some backoffDur } task)
      else
        -- "Immediately create a new task token for the to-be-retried LA"
        let (tt, dat) := dat.genNextToken
        let lai : LocalActivityInfo :=
          { taskToken := tt,
            backingOffTask := some (.sleeping (.retry info.laInfo (info.attempt + 1))),
            firstWftHasEnded := (maybeOldLai.map LocalActivityInfo.firstWftHasEnded).getD false,
            attemptsInWft :=
              (maybeOldLai.map fun (old : LocalActivityInfo) => old.attemptsInWft + 1).getD 1,
            timeoutBag := maybeOldLai.bind (·.timeoutBag) }
        ({ s with dat := { dat with laInfo := dat.laInfo.insert execId lai } }, .willBeRetried task)
    | _, _ => ({ s with dat }, report)

/-! ## `next_pending` -/

/-- `NextPendingLAAction`; a start task is kept as its token, the request and the attempt. -/
inductive NextPendingLAAction where
  | dispatchStart (taskToken : TaskToken) (act : NewLocalAct) (attempt : Nat)
  | dispatchCancel (taskToken : TaskToken) (reason : ActivityCancelReason)
  | autocomplete (action : LACompleteAction)
  deriving Repr, DecidableEq

/-- What `next_pending` receives: the head of the cancel channel or of the request channel,
which the merged stream may yield in either order. -/
inductive Received where
  | cancel | newOrRetry
  deriving Repr, DecidableEq

/-- The clock and retry policy `next_pending` consults: whether the request sat past its
schedule-to-start timeout, and the retry policy for an autocompleted timeout. -/
structure PendingClock where
  satPastScheduleToStart : Bool
  decision : RetryDecision
  deriving Repr, DecidableEq

/-- `LocalActivityManager::next_pending` on the message it receives, `none` when that channel
is empty; the panic of `expect("Activity must exist")` is an error. -/
def nextPending (s : LocalActivityManager) (from_ : Received) (clock : PendingClock) :
    Option (Except String (LocalActivityManager × Option NextPendingLAAction)) :=
  match from_ with
  | .cancel =>
    match s.cancelReqs with
    | [] => none
    | c :: rest =>
      let s := { s with cancelReqs := rest }
      some <| .ok <| match c with
        | .cancel tt reason =>
          if (s.dat.outstandingActivityTasks.lookup tt).isSome then
            (s, some (.dispatchCancel tt reason))
          -- "Don't dispatch cancels for things we've already stopped tracking"
          else (s, none)
        | .timeout runId resolution =>
          match s.dat.laInfo.lookup ⟨runId, resolution.seq⟩ with
          | some lai =>
            let (s, action) := complete s lai.taskToken resolution.result clock.decision
            (s, some (.autocomplete action))
          | none => (s, none)
  | .newOrRetry =>
    match s.actReqs with
    | [] => none
    | req :: rest =>
      let s := { s with actReqs := rest }
      let (newLa, attempt) := match req with
        | .new n => (n, max n.scheduleCmd.attempt 1)
        | .retry inFlight attempt => (inFlight, attempt)
      let id := newLa.id
      -- the backoff task, if this is its retry, is done
      let laInfo := match s.dat.laInfo.lookup id with
        | some lai => s.dat.laInfo.insert id { lai with backingOffTask := none }
        | none => s.dat.laInfo
      let s := { s with dat := { s.dat with laInfo } }
      -- "If this task sat in the queue for too long, return a timeout for it instead"
      if clock.satPastScheduleToStart then
        let resolution : LocalActivityResolution :=
          { seq := newLa.scheduleCmd.seq,
            result := LocalActivityExecutionResult.timeout .scheduleToStart, attempt,
            backoff := none, originalScheduleTime := newLa.scheduleCmd.originalScheduleTime }
        some <| .ok (s, some (.autocomplete (.report newLa.runId resolution none)))
      else
        match s.dat.laInfo.lookup id with
        | none => some (.error "Activity must exist")
        | some lai =>
          let tt := lai.taskToken
          let lai := { lai with timeoutBag := lai.timeoutBag.map TimeoutBag.markStarted }
          let inFlight : LocalInFlightActInfo := { laInfo := newLa, attempt }
          let dat := { s.dat with
            laInfo := s.dat.laInfo.insert id lai,
            outstandingActivityTasks := s.dat.outstandingActivityTasks.insert tt inFlight }
          some <| .ok ({ s with dat }, some (.dispatchStart tt newLa attempt))

/-! ## Spawned tasks -/

/-- A backoff task elapses: it sends its retry to the request channel. -/
def elapseBackoff (s : LocalActivityManager) (id : ExecutingLAId) : Option LocalActivityManager :=
  match s.dat.laInfo.lookup id with
  | some lai =>
    match lai.backingOffTask with
    | some (.sleeping retry) =>
      let lai := { lai with backingOffTask := some .fired }
      some { s with dat := { s.dat with laInfo := s.dat.laInfo.insert id lai },
                    actReqs := s.actReqs ++ [retry] }
    | _ => none
  | none => none

/-- A timer of a timeout bag elapses: it sends the bag's resolution, with the timeout type of
the timer, to the cancel channel. The schedule-to-close timer fires once; each start-to-close
timer `mark_started` spawned fires once, the detached ones too. -/
def elapseTimeout (s : LocalActivityManager) (id : ExecutingLAId) (tt : TimeoutType) :
    Option LocalActivityManager :=
  match s.dat.laInfo.lookup id with
  | some lai =>
    match lai.timeoutBag, tt with
    | some bag, .scheduleToClose =>
      if bag.scheduleToClosePending then
        let lai := { lai with timeoutBag := some { bag with scheduleToClosePending := false } }
        some { s with dat := { s.dat with laInfo := s.dat.laInfo.insert id lai },
                      cancelReqs := s.cancelReqs ++ [.timeout bag.runId bag.resolution] }
      else none
    | some bag, .startToClose =>
      if 0 < bag.startToClosePending then
        let lai := { lai with
          timeoutBag := some { bag with startToClosePending := bag.startToClosePending - 1 } }
        let resolution :=
          { bag.resolution with result := LocalActivityExecutionResult.timeout .startToClose }
        some { s with dat := { s.dat with laInfo := s.dat.laInfo.insert id lai },
                      cancelReqs := s.cancelReqs ++ [.timeout bag.runId resolution] }
      else none
    | _, _ => none
  | none => none

/-! ## Runs -/

/-- One operation on the manager: a call of lang or of the workflows, or a spawned task. -/
inductive LocalActivityOp where
  | enqueue (reqs : List LocalActRequest)
  | nextPending (from_ : Received) (clock : PendingClock)
  | complete (taskToken : TaskToken) (status : LocalActivityExecutionResult)
      (decision : RetryDecision)
  | elapseBackoff (id : ExecutingLAId)
  | elapseTimeout (id : ExecutingLAId) (timeoutType : TimeoutType)
  deriving Repr, DecidableEq

/-- What an operation returns. -/
inductive LocalActivityOutput where
  | immediate (resolution : LocalActivityResolution)
  | pending (action : NextPendingLAAction)
  | completed (action : LACompleteAction)
  deriving Repr, DecidableEq

/-- One operation. A channel with nothing to receive and a task that is not running leave the
manager as it is; the panic of `next_pending` is the error. -/
def step (s : LocalActivityManager) :
    LocalActivityOp → Except String (LocalActivityManager × List LocalActivityOutput)
  | .enqueue reqs =>
    let (s, ress) := enqueue s reqs
    .ok (s, ress.map .immediate)
  | .nextPending from_ clock =>
    match nextPending s from_ clock with
    | none => .ok (s, [])
    | some (.error e) => .error e
    | some (.ok (s, action)) => .ok (s, action.toList.map .pending)
  | .complete taskToken status decision =>
    let (s, action) := complete s taskToken status decision
    .ok (s, [.completed action])
  | .elapseBackoff id => .ok ((elapseBackoff s id).getD s, [])
  | .elapseTimeout id timeoutType => .ok ((elapseTimeout s id timeoutType).getD s, [])

/-! ## An activity that timed out before it was queued -/

/-- An `echo` activity of run `run-1`. -/
def echoLa : NewLocalAct :=
  { scheduleCmd := { seq := 1, activityId := "1", activityType := "echo", attempt := 1,
                     originalScheduleTime := some ⟨0, 0⟩, cancellationType := .tryCancel },
    workflowType := "wf", runId := "run-1" }

/-- The activity is enqueued after its schedule-to-close timeout passed, then enqueued again with
its timers, and the manager is asked for the next request. -/
def timedOutThenReenqueuedOps : List LocalActivityOp :=
  [.enqueue [.new echoLa .alreadyTimedOut], .enqueue [.new echoLa (.timers true false)],
   .nextPending .newOrRetry ⟨false, ⟨none, false⟩⟩]

/-- The immediate resolution is all the run returns: the entry it left is neither queued, in
flight nor backing off, and the second request is dropped, not dispatched. -/
theorem run_timedOutThenReenqueued :
    ∃ s, Steps.run step LocalActivityManager.new timedOutThenReenqueuedOps =
        .ok (s, [.immediate (TimeoutBag.newResolution echoLa)]) ∧
      s.actReqs = [] ∧ s.dat.outstandingActivityTasks = ∅ ∧
      (s.dat.laInfo.lookup echoLa.id).map LocalActivityInfo.backingOffTask = some none :=
  ⟨_, rfl, rfl, rfl, rfl⟩

end SdkCore.LocalActivities


