import SdkCore.History.Event

/-!
# Workflow task sequences and history updates

The chunking of `crates/sdk-core/src/worker/workflow/history_update.rs`:

1. `findEndIndexOfNextWftSeq` scans a slice of events for the end of the next workflow task
   (WFT) sequence after `from_event_id`, with the one- and two-event lookahead of the source
   (failed or timed-out tasks, heartbeats, update-accepted sequencing);
2. `HistoryUpdate.fromEvents` cuts a list of events into complete sequences and a remainder;
3. `takeNextWftSequence` drains the next sequence from an update, `peekNextWftSequence` and
   `canTakeNextWftSequence` look at it without draining.

A Rust panic is an `Except.error` carrying its message.
-/

namespace SdkCore

/-- `NextWFTSeqEndIndex`. -/
inductive NextWFTSeqEndIndex where
  | complete (ix : Nat)
  | incomplete (ix : Nat)
  deriving Repr, DecidableEq

namespace NextWFTSeqEndIndex

/-- `NextWFTSeqEndIndex::index`. -/
def index : NextWFTSeqEndIndex → Nat
  | .complete ix | .incomplete ix => ix

/-- `NextWFTSeqEndIndex::add`. -/
def add : NextWFTSeqEndIndex → Nat → NextWFTSeqEndIndex
  | .complete ix, val => .complete (ix + val)
  | .incomplete ix, val => .incomplete (ix + val)

/-- `matches!(x, NextWFTSeqEndIndex::Incomplete(_))`. -/
def isIncomplete : NextWFTSeqEndIndex → Bool
  | .incomplete _ => true
  | .complete _ => false

end NextWFTSeqEndIndex

/-- The event types after a WFT started event that do not conclude its sequence. -/
def EventType.endsWftAbruptly : EventType → Bool
  | .workflowTaskFailed | .workflowTaskTimedOut | .workflowExecutionTimedOut
  | .workflowExecutionTerminated | .workflowExecutionCanceled => true
  | _ => false

/-- The locals of the loop of `find_end_index_of_next_wft_seq`. -/
structure WftScan where
  lastIndex : Nat
  sawCommandOrStarted : Bool
  sawCommand : Bool
  wftStartedEventIdToIndex : List (Int × Nat)
  deriving Repr, DecidableEq

/-- The start of the scan. -/
def WftScan.init : WftScan :=
  { lastIndex := 0, sawCommandOrStarted := false, sawCommand := false,
    wftStartedEventIdToIndex := [] }

/-- "Find index of closest unskipped WFT started before sequencing id": the last recorded WFT
started event with an id below `seqId`. -/
def closestWftStartedBefore (stack : List (Int × Nat)) (seqId : Int) : Option Nat :=
  (stack.reverse.find? fun p => decide (p.1 < seqId)).map Prod.snd

/-- The loop of `find_end_index_of_next_wft_seq` from index `ix`, where `rest` is the slice
from `ix` on; its second and third events are the one- and two-event lookahead. -/
def wftScanLoop (fromEventId : Int) (hasLastWft : Bool) :
    Nat → List HistoryEvent → WftScan → NextWFTSeqEndIndex
  | _, [], st => .incomplete st.lastIndex
  | ix, e :: tail, st =>
    let st := { st with lastIndex := ix }
    -- events already handled are skipped without touching the flags
    if e.eventId ≤ fromEventId then wftScanLoop fromEventId hasLastWft (ix + 1) tail st
    else
      let st := { st with
        sawCommand := st.sawCommand || e.isCommandEvent
        sawCommandOrStarted := st.sawCommandOrStarted || e.isCommandEvent ||
          e.eventType == .workflowExecutionStarted }
      if e.isFinalWfExecutionEvent then .complete ix
      else if e.eventType == .workflowTaskStarted then
        let pushed := { st with
          wftStartedEventIdToIndex := st.wftStartedEventIdToIndex ++ [(e.eventId, ix)] }
        -- the arms that `continue` and the one that falls through to the final check
        let next := wftScanLoop fromEventId hasLastWft (ix + 1) tail pushed
        let fallThrough := if pushed.sawCommandOrStarted then .complete ix else next
        match tail with
        | nextEvent :: tail₂ =>
          if nextEvent.eventType.endsWftAbruptly then
            -- the skipped task is popped from the update-accepted lookup
            wftScanLoop fromEventId hasLastWft (ix + 1) tail st
          else if nextEvent.eventType == .workflowTaskCompleted then
            match tail₂ with
            | nextNext :: _ =>
              if !pushed.sawCommand && nextNext.eventType == .workflowTaskScheduled then
                -- a WFT heartbeat
                next
              else
                match nextNext.attributes with
                | some (.workflowExecutionUpdateAcceptedEventAttributes _ seqId) =>
                  match closestWftStartedBefore pushed.wftStartedEventIdToIndex seqId with
                  | some retIx => .complete retIx
                  | none => .complete ix
                | _ => .complete ix
            | [] => if !hasLastWft && !pushed.sawCommandOrStarted then next else fallThrough
          else fallThrough
        | [] => if !hasLastWft && !pushed.sawCommandOrStarted then next else fallThrough
      else wftScanLoop fromEventId hasLastWft (ix + 1) tail st

/-- `find_end_index_of_next_wft_seq`. -/
def findEndIndexOfNextWftSeq (events : List HistoryEvent) (fromEventId : Int)
    (hasLastWft : Bool) : NextWFTSeqEndIndex :=
  if events.isEmpty then .incomplete 0
  else wftScanLoop fromEventId hasLastWft 0 events WftScan.init

/-- `NextWFT`. -/
inductive NextWFT where
  | replayOver
  | wft (events : List HistoryEvent) (hasFinalEvent : Bool)
  | needFetch
  deriving Repr, DecidableEq

/-- `HistoryUpdate`. -/
structure HistoryUpdate where
  events : List HistoryEvent
  previousWftStartedId : Int
  wftStartedId : Int
  hasLastWft : Bool
  wftCount : Nat
  deriving Repr, DecidableEq

/-- The panic of `take_next_wft_sequence` on an update that ends inside a sequence. -/
def incompleteWftPanic : String :=
  "HistoryUpdate was created with an incomplete WFT. This is an SDK bug."

namespace HistoryUpdate

/-- The `while let Complete(..)` loop of `from_events`: counts complete sequences, re-running
the scan on the slice starting at the last end found, with the index offset added back. Each
round moves the end strictly forward (`fromEventsLoop` is given the length as fuel). -/
def fromEventsLoop (allEvents : List HistoryEvent) (hasLastWft : Bool) :
    Nat → Nat → Nat → Nat × Nat
  | 0, wftCount, lastEnd => (wftCount, lastEnd)
  | fuel + 1, wftCount, nextEndIx =>
    let wftCount := wftCount + 1
    let nextEndEid := (allEvents[nextEndIx]?.map HistoryEvent.eventId).getD 0
    match (findEndIndexOfNextWftSeq (allEvents.drop nextEndIx) nextEndEid hasLastWft).add
        nextEndIx with
    | .incomplete _ => (wftCount, nextEndIx)
    | .complete ix => fromEventsLoop allEvents hasLastWft fuel wftCount ix

/-- `HistoryUpdate::from_events`: the update of the complete sequences and the events after
the last one. -/
def fromEvents (allEvents : List HistoryEvent) (previousWftStartedId wftStartedId : Int)
    (hasLastWft : Bool) : HistoryUpdate × List HistoryEvent :=
  match findEndIndexOfNextWftSeq allEvents previousWftStartedId hasLastWft with
  | .incomplete _ =>
    if hasLastWft then
      ({ events := allEvents, previousWftStartedId, wftStartedId, hasLastWft, wftCount := 1 }, [])
    else
      ({ events := [], previousWftStartedId, wftStartedId, hasLastWft, wftCount := 0 },
        allEvents)
  | .complete firstEnd =>
    let (wftCount, lastEnd) := fromEventsLoop allEvents hasLastWft allEvents.length 0 firstEnd
    -- "If we have the last WFT, there's no point in there being remaining events"
    if allEvents.isEmpty || hasLastWft then
      ({ events := allEvents, previousWftStartedId, wftStartedId, hasLastWft, wftCount }, [])
    else
      ({ events := allEvents.take (lastEnd + 1), previousWftStartedId, wftStartedId,
          hasLastWft, wftCount }, allEvents.drop (lastEnd + 1))

/-- `starting_index_after_skipping`: the position of the first event after `fromWftStartedId`. -/
def startingIndexAfterSkipping (u : HistoryUpdate) (fromWftStartedId : Int) : Option Nat :=
  u.events.findIdx? fun e => decide (fromWftStartedId < e.eventId)

/-- `build_next_wft`: drains the events up to and including `drainThisMuch`. -/
def buildNextWft (u : HistoryUpdate) (drainThisMuch : Nat) : NextWFT × HistoryUpdate :=
  let rest := u.events.drop (drainThisMuch + 1)
  (.wft (u.events.take (drainThisMuch + 1)) (rest.isEmpty && u.hasLastWft),
    { u with events := rest })

/-- The first step of `take_next_wft_sequence`: "drop any events from the queue which are
earlier than the passed-in id". -/
def dropEarlierThan (u : HistoryUpdate) (fromWftStartedId : Int) : HistoryUpdate :=
  match u.startingIndexAfterSkipping fromWftStartedId with
  | some ix => { u with events := u.events.drop ix }
  | none => u

/-- `HistoryUpdate::take_next_wft_sequence`. -/
def takeNextWftSequence (u : HistoryUpdate) (fromWftStartedId : Int) :
    Except String (NextWFT × HistoryUpdate) :=
  let u := u.dropEarlierThan fromWftStartedId
  match findEndIndexOfNextWftSeq u.events fromWftStartedId u.hasLastWft with
  | .incomplete siz =>
    if u.hasLastWft then
      if siz = 0 then .ok (.replayOver, u) else .ok (u.buildNextWft siz)
    else if siz ≠ 0 then .error incompleteWftPanic
    else .ok (.needFetch, u)
  | .complete nextWftIx => .ok (u.buildNextWft nextWftIx)

/-- `HistoryUpdate::peek_next_wft_sequence`. -/
def peekNextWftSequence (u : HistoryUpdate) (fromWftStartedId : Int) : List HistoryEvent :=
  let relevantEvents := u.events.drop ((u.startingIndexAfterSkipping fromWftStartedId).getD 0)
  if relevantEvents.isEmpty then []
  else
    let ixEnd := (findEndIndexOfNextWftSeq relevantEvents fromWftStartedId u.hasLastWft).index
    relevantEvents.take (ixEnd + 1)

/-- `HistoryUpdate::can_take_next_wft_sequence`. -/
def canTakeNextWftSequence (u : HistoryUpdate) (fromWftStartedId : Int) : Bool :=
  !((findEndIndexOfNextWftSeq u.events fromWftStartedId u.hasLastWft).isIncomplete &&
    !u.hasLastWft)

end HistoryUpdate

end SdkCore
