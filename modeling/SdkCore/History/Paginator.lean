import SdkCore.History.Chunking

/-!
# The history paginator

`HistoryPaginator` of `crates/sdk-core/src/worker/workflow/history_update.rs`: `get_next_page`
fetches a page into the event queue (skipping events already queued, and appending the poll's
`final_events` once the token is `Done`); `extract_next_update` fetches until the queue holds
two complete WFT sequences or the end of history, and cuts it with `from_events`.

The client is the list of answers the server gives to the paginator's successive
`get_workflow_execution_history` calls. The paginator sends the token of the previous answer
each time, so a server that answers by token is such a list. A call with no answer left never
returns: both loops then give `none`. `extract_next_update` loops again only after a fetch that
took an answer, and runs with the number of answers plus one as its fuel.
-/

namespace SdkCore

/-- `NextPageToken`. -/
inductive NextPageToken where
  | fetchFromStart
  | next (token : List UInt8)
  | done
  deriving Repr, DecidableEq

namespace NextPageToken

/-- `From<Vec<u8>> for NextPageToken`: an empty token from the server means the end. -/
def ofPageToken (pageToken : List UInt8) : NextPageToken :=
  if pageToken.isEmpty then .done else .next pageToken

/-- `matches!(t, NextPageToken::Done)`. -/
def isDone : NextPageToken → Bool
  | .done => true
  | _ => false

/-- `matches!(t, NextPageToken::Next(_))`. -/
def isNext : NextPageToken → Bool
  | .next _ => true
  | _ => false

end NextPageToken

/-- `EMPTY_FETCH_ERR`. -/
def emptyFetchErr : String := "Fetched empty history page"

/-- `EMPTY_TASK_ERR`. -/
def emptyTaskErr : String := "Received an empty workflow task with no queries or history"

/-- `GetWorkflowExecutionHistoryResponse`, the fields the paginator reads. -/
structure HistoryPage where
  history : Option (List HistoryEvent)
  nextPageToken : List UInt8
  deriving Repr, DecidableEq

/-- The server's answers to successive history fetches; an error is a failed call. -/
abbrev HistoryServer := List (Except String HistoryPage)

/-- `HistoryPaginator`, without the identifiers and the client handle. -/
structure HistoryPaginator where
  previousWftStartedId : Int
  wftStartedEventId : Int
  idOfLastEventInLastExtractedUpdate : Option Int
  eventQueue : List HistoryEvent
  nextPageToken : NextPageToken
  finalEvents : List HistoryEvent
  deriving Repr, DecidableEq

/-- The id of the last event of a list, `0` when it is empty (`.map(|e| e.event_id)
.unwrap_or_default()` on `back()` or `last()`). -/
def lastEventId (events : List HistoryEvent) : Int :=
  (events.getLast?.map HistoryEvent.eventId).getD 0

/-- The events of `events` after its prefix with ids up to `id` (`skip_while`). -/
def skipUpTo (id : Int) (events : List HistoryEvent) : List HistoryEvent :=
  events.dropWhile fun e => decide (e.eventId ≤ id)

namespace HistoryPaginator

/-- `HistoryPaginator::new`: a paginator that must fetch from the start keeps the initial events
as final events. -/
def new (initialHistory : List HistoryEvent) (previousWftStartedId wftStartedEventId : Int)
    (nextPageToken : NextPageToken) : HistoryPaginator :=
  if nextPageToken = .fetchFromStart then
    { previousWftStartedId, wftStartedEventId, idOfLastEventInLastExtractedUpdate := none,
      eventQueue := [], nextPageToken, finalEvents := initialHistory }
  else
    { previousWftStartedId, wftStartedEventId, idOfLastEventInLastExtractedUpdate := none,
      eventQueue := initialHistory, nextPageToken, finalEvents := [] }

/-- The fetch loop of `get_next_page`: the history of the first answer that is not an empty page
carrying a token (`none` when the token was already `Done`), the new token and the answers left.
The token is replaced by `Done` before each call, so a failed call leaves it `Done`. -/
def fetchLoop : NextPageToken → HistoryServer →
    Option (Except String (Option (List HistoryEvent) × NextPageToken × HistoryServer))
  | .done, server => some (.ok (none, .done, server))
  | _, [] => none
  | _, .error e :: _ => some (.error e)
  | _, .ok page :: server =>
    let npt := NextPageToken.ofPageToken page.nextPageToken
    let historyIsEmpty := (page.history.map List.isEmpty).getD true
    -- "If the fetch returned an empty history, but there *was* a next page token, immediately
    -- try to get that."
    if historyIsEmpty && npt.isNext then fetchLoop npt server
    else some (.ok (page.history, npt, server))

/-- Appends a fetched history to the queue, skipping what is already queued; once the token is
`Done`, appends the final events after the queue's last event. -/
def enqueueFetched (p : HistoryPaginator) (history : Option (List HistoryEvent))
    (npt : NextPageToken) : HistoryPaginator :=
  let queue := p.eventQueue ++ skipUpTo (lastEventId p.eventQueue) (history.getD [])
  if npt.isDone then
    match queue.getLast? with
    | some last =>
      { p with eventQueue := queue ++ skipUpTo last.eventId p.finalEvents, nextPageToken := npt,
               finalEvents := [] }
    | none => { p with eventQueue := queue, nextPageToken := npt }
  else { p with eventQueue := queue, nextPageToken := npt }

/-- `HistoryPaginator::get_next_page`: whether a token is left after the fetch. -/
def getNextPage (p : HistoryPaginator) (server : HistoryServer) :
    Option (Except String (Bool × HistoryPaginator × HistoryServer)) :=
  (fetchLoop p.nextPageToken server).map fun r => r.map fun (history, npt, server) =>
    (!npt.isDone, p.enqueueFetched history npt, server)

/-- The loop of `extract_next_update`. -/
def extractNextUpdateLoop : Nat → HistoryPaginator → HistoryServer →
    Option (Except String (HistoryUpdate × HistoryPaginator × HistoryServer))
  | 0, _, _ => none
  | fuel + 1, p, server =>
    match p.getNextPage server with
    | none => none
    | some (.error e) => some (.error e)
    | some (.ok (hasNextPage, p, server)) =>
      let noNextPage := !hasNextPage
      let currentEvents := p.eventQueue
      let p := { p with eventQueue := [] }
      let seenEnoughEvents := decide (p.wftStartedEventId ≤ lastEventId currentEvents)
      let alreadySentUpdateWithEnoughEvents :=
        decide (p.wftStartedEventId ≤ p.idOfLastEventInLastExtractedUpdate.getD 0)
      if currentEvents.isEmpty && noNextPage && alreadySentUpdateWithEnoughEvents then
        -- the empty update that says it holds the final WFT
        some (.ok ((HistoryUpdate.fromEvents [] p.previousWftStartedId p.wftStartedEventId
          true).1, p, server))
      else if currentEvents.isEmpty || (noNextPage && !seenEnoughEvents) then
        some (.error emptyFetchErr)
      else
        let firstEventId := (currentEvents.head?.map HistoryEvent.eventId).getD 0
        let noMore := p.nextPageToken.isDone && seenEnoughEvents
        let (update, extra) := HistoryUpdate.fromEvents currentEvents p.previousWftStartedId
          p.wftStartedEventId noMore
        if !p.nextPageToken.isDone && update.wftCount < 2 then
          -- fewer than two sequences and more pages: everything goes back into the queue
          extractNextUpdateLoop fuel { p with eventQueue := update.events ++ extra } server
        else
          let extraEidSame := (extra.head?.map fun e => e.eventId == firstEventId).getD false
          let p := { p with eventQueue := extra }
          if !noMore && extraEidSame then extractNextUpdateLoop fuel p server
          else
            some (.ok (update, { p with idOfLastEventInLastExtractedUpdate :=
              update.events.getLast?.map HistoryEvent.eventId }, server))

/-- `HistoryPaginator::extract_next_update`. -/
def extractNextUpdate (p : HistoryPaginator) (server : HistoryServer) :
    Option (Except String (HistoryUpdate × HistoryPaginator × HistoryServer)) :=
  extractNextUpdateLoop (server.length + 1) p server

/-- `HistoryPaginator::from_poll`, for a poll with the given history, page token and started
ids; `hasQueries` is whether it carries a legacy query or query requests. -/
def fromPoll (history : List HistoryEvent) (nextPageToken : List UInt8)
    (previousStartedEventId startedEventId : Int) (hasQueries : Bool) (server : HistoryServer) :
    Option (Except String (HistoryPaginator × HistoryUpdate × HistoryServer)) :=
  let emptyHist := history.isEmpty
  let npt := if emptyHist then .fetchFromStart else NextPageToken.ofPageToken nextPageToken
  let p := new history previousStartedEventId startedEventId npt
  if emptyHist && !hasQueries then some (.error emptyTaskErr)
  else if emptyHist then
    some (.ok (p, (HistoryUpdate.fromEvents [] previousStartedEventId startedEventId true).1,
      server))
  else (p.extractNextUpdate server).map fun r => r.map fun (u, p, server) => (p, u, server)

/-- `HistoryPaginator::from_fetchreq`: the paginator of a cache miss fetches from the start and
keeps the events of the task's update as final events. -/
def fromFetchreq (update : HistoryUpdate) (idOfLastEventInLastExtractedUpdate : Option Int)
    (server : HistoryServer) :
    Option (Except String (HistoryUpdate × HistoryPaginator × HistoryServer)) :=
  extractNextUpdate
    { previousWftStartedId := update.previousWftStartedId,
      wftStartedEventId := update.wftStartedId, idOfLastEventInLastExtractedUpdate,
      eventQueue := [], nextPageToken := .fetchFromStart, finalEvents := update.events }
    server

end HistoryPaginator

/-! ## An update cut by a page boundary -/

/-- The run of `signalThenTimerHistory` continued by the timer firing and a new task: the
signal's task is started at 7 and its completion is event 8. -/
def signalThenTimerFiredHistory : List HistoryEvent :=
  signalThenTimerHistory ++
    [.plain 10 .timerFired, .plain 11 .workflowTaskScheduled, .plain 12 .workflowTaskStarted]

/-- The server pages of `signalThenTimerFiredHistory` after a poll carrying events 1 to 5: events
6 to 9, then 10 to 12 as the last page. -/
def signalThenTimerFiredPages : HistoryServer :=
  [.ok ⟨some ((signalThenTimerFiredHistory.drop 5).take 4), [2]⟩,
   .ok ⟨some (signalThenTimerFiredHistory.drop 9), []⟩]

/-- The first update of the poll holds events 1 to 7 and keeps 8 and 9 queued; taking its
sequences from the start, as the pages are consumed, returns events 1 to 3 and then panics. -/
theorem extractNextUpdate_signalThenTimerFired :
    ((HistoryPaginator.fromPoll (signalThenTimerFiredHistory.take 5) [1] 0 12 false
        signalThenTimerFiredPages).map fun r => r.map fun x =>
      (x.2.1.events, x.1.eventQueue,
        (x.2.1.takeNextWftSequence 0).map Prod.fst,
        (x.2.1.takeNextWftSequence 0 >>= fun t => t.2.takeNextWftSequence 3).map Prod.fst)) =
      some (.ok (signalThenTimerFiredHistory.take 7, (signalThenTimerFiredHistory.drop 7).take 2,
        .ok (.wft (signalThenTimerFiredHistory.take 3) false), .error incompleteWftPanic)) :=
  rfl

end SdkCore
