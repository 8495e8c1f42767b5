import SdkCore.History.Paginator
import Mathlib.Tactic.SplitIfs

/-!
# The paginator returns

`extract_next_update` loops on two paths: when fewer than two complete sequences are queued while
pages remain, and when the queue left over starts with the event the update started with. Both
come only after a fetch that leaves a token, so each round either returns or has consumed an
answer of the server; and `get_next_page` itself skips empty pages that carry a token, which
consumes answers too.

For every paginator and every list of pages of which the last carries no token, or with the token
already `Done`, `extract_next_update` returns an update or an error
(`extractNextUpdate_returns`): within the number of pages plus one rounds of its loop, and
fetching each page at most once.
-/

namespace SdkCore.HistoryPaginator

/-! ## One fetch -/

@[simp] theorem enqueueFetched_nextPageToken (p : HistoryPaginator)
    (history : Option (List HistoryEvent)) (npt : NextPageToken) :
    (p.enqueueFetched history npt).nextPageToken = npt := by
  unfold enqueueFetched
  cases npt.isDone
  · rfl
  · simp only [if_true]
    cases (p.eventQueue ++ skipUpTo (lastEventId p.eventQueue) (history.getD [])).getLast? <;> rfl

theorem fetchLoop_done (server : HistoryServer) :
    fetchLoop .done server = some (.ok (none, .done, server)) := by
  unfold fetchLoop
  rfl

theorem fetchLoop_ok_cons {npt : NextPageToken} (hnpt : npt ≠ .done) (page : HistoryPage)
    (server : HistoryServer) :
    fetchLoop npt (.ok page :: server) =
      if (page.history.map List.isEmpty).getD true &&
          (NextPageToken.ofPageToken page.nextPageToken).isNext then
        fetchLoop (NextPageToken.ofPageToken page.nextPageToken) server
      else some (.ok (page.history, NextPageToken.ofPageToken page.nextPageToken, server)) := by
  cases npt with
  | done => exact absurd rfl hnpt
  | fetchFromStart => rfl
  | next t => rfl

/-- A page whose token is empty ends the history. -/
theorem ofPageToken_eq_done_of_nil {page : HistoryPage} (h : page.nextPageToken = []) :
    NextPageToken.ofPageToken page.nextPageToken = .done := by
  simp [NextPageToken.ofPageToken, h]

/-- Fetching with a token left, from pages of which the last carries none, takes at least one page
and returns; the token it leaves is `Done`, or the pages left still end with the last one. -/
theorem fetchLoop_pages {npt : NextPageToken} (hnpt : npt ≠ .done) (pages : List HistoryPage)
    (hlast : pages.getLast?.map HistoryPage.nextPageToken = some []) :
    ∃ (history : Option (List HistoryEvent)) (npt' : NextPageToken) (rest : List HistoryPage),
      fetchLoop npt (pages.map .ok) = some (.ok (history, npt', rest.map .ok)) ∧
      rest.length < pages.length ∧
      (npt' = .done ∨ rest.getLast?.map HistoryPage.nextPageToken = some []) := by
  induction pages generalizing npt with
  | nil => simp at hlast
  | cons page pages ih =>
    -- the pages after this one still end with the last page, unless this one is the last
    have hend : pages = [] → NextPageToken.ofPageToken page.nextPageToken = .done := by
      rintro rfl
      exact ofPageToken_eq_done_of_nil (by simpa using hlast)
    have hrest : pages ≠ [] → pages.getLast?.map HistoryPage.nextPageToken = some [] := by
      intro hne
      simpa [List.getLast?_cons, List.getLast?_eq_some_getLast hne] using hlast
    rw [List.map_cons, fetchLoop_ok_cons hnpt]
    split_ifs with hskip
    · -- an empty page with a token: fetch again with it
      have hnext : (NextPageToken.ofPageToken page.nextPageToken).isNext = true := by
        simp only [Bool.and_eq_true] at hskip
        exact hskip.2
      have hne : pages ≠ [] := fun h => by simp [hend h, NextPageToken.isNext] at hnext
      have hnd : NextPageToken.ofPageToken page.nextPageToken ≠ .done := by
        intro h
        simp [h, NextPageToken.isNext] at hnext
      obtain ⟨history, npt', rest, hfetch, hlen, hdone⟩ := ih hnd (hrest hne)
      exact ⟨history, npt', rest, hfetch, by simp; omega, hdone⟩
    · refine ⟨page.history, _, pages, rfl, by simp, ?_⟩
      by_cases hne : pages = []
      · exact .inl (hend hne)
      · exact .inr (hrest hne)

theorem getNextPage_eq_of_fetchLoop {p : HistoryPaginator} {server rest : HistoryServer}
    {history : Option (List HistoryEvent)} {npt : NextPageToken}
    (h : fetchLoop p.nextPageToken server = some (.ok (history, npt, rest))) :
    p.getNextPage server = some (.ok (!npt.isDone, p.enqueueFetched history npt, rest)) := by
  simp [getNextPage, h, Except.map]

/-! ## One round of the loop -/

/-- A round of the loop after a fetch either returns, or loops again on the answers left with a
paginator holding the token of the fetch, which is not `Done`. -/
theorem extractNextUpdateLoop_succ_cases (fuel : Nat) (p : HistoryPaginator)
    (server : HistoryServer) {hasNext : Bool} {p1 : HistoryPaginator} {server' : HistoryServer}
    (h : p.getNextPage server = some (.ok (hasNext, p1, server')))
    (hn : hasNext = !p1.nextPageToken.isDone) :
    (∃ r, extractNextUpdateLoop (fuel + 1) p server = some r) ∨
      ∃ q, q.nextPageToken = p1.nextPageToken ∧ p1.nextPageToken.isDone = false ∧
        extractNextUpdateLoop (fuel + 1) p server = extractNextUpdateLoop fuel q server' := by
  simp only [extractNextUpdateLoop, h]
  split_ifs with c1 c2 c3 c4
  · exact .inl ⟨_, rfl⟩
  · exact .inl ⟨_, rfl⟩
  · simp only [Bool.and_eq_true, Bool.not_eq_true'] at c3
    refine .inr ⟨_, ?_, c3.1, rfl⟩
    rfl
  · -- the second re-entry needs more pages: with the token done, the fetch already saw enough
    refine .inr ⟨_, ?_, ?_, rfl⟩
    · rfl
    subst hn
    cases hd : p1.nextPageToken.isDone
    · rfl
    · simp_all
  · exact .inl ⟨_, rfl⟩

/-- The loop returns within more rounds than there are pages, from a token that is `Done` or pages
of which the last carries no token. -/
theorem extractNextUpdateLoop_returns (fuel : Nat) :
    ∀ (p : HistoryPaginator) (pages : List HistoryPage), pages.length < fuel →
      (p.nextPageToken = .done ∨ pages.getLast?.map HistoryPage.nextPageToken = some []) →
      ∃ r, extractNextUpdateLoop fuel p (pages.map .ok) = some r := by
  induction fuel with
  | zero => intro p pages hlen; omega
  | succ fuel ih =>
    intro p pages hlen hend
    by_cases hdone : p.nextPageToken = .done
    · -- with the token done nothing is fetched, and the round cannot loop again
      have hfetch : fetchLoop p.nextPageToken (pages.map .ok) =
          some (.ok (none, .done, pages.map .ok)) := by
        rw [hdone, fetchLoop_done]
      rcases extractNextUpdateLoop_succ_cases fuel p _ (getNextPage_eq_of_fetchLoop hfetch)
          (by simp) with hret | ⟨q, -, hloop, -⟩
      · exact hret
      · simp [NextPageToken.isDone] at hloop
    · -- a fetch with a token left takes a page
      obtain ⟨history, npt, rest, hfetch, hlt, hend'⟩ :=
        fetchLoop_pages hdone pages (hend.resolve_left hdone)
      rcases extractNextUpdateLoop_succ_cases fuel p _ (getNextPage_eq_of_fetchLoop hfetch)
          (by simp) with hret | ⟨q, hq, -, hloop⟩
      · exact hret
      · rw [hloop]
        exact ih q rest (by omega) (by simpa [hq] using hend')

/-! ## `extract_next_update` -/

theorem extractNextUpdate_returns (p : HistoryPaginator) (pages : List HistoryPage)
    (hend : p.nextPageToken = .done ∨
      pages.getLast?.map HistoryPage.nextPageToken = some []) :
    ∃ r, p.extractNextUpdate (pages.map .ok) = some r :=
  extractNextUpdateLoop_returns _ p pages (by simp) hend

/-- A paginator fetching from the start, over the two pages of `signalThenTimerFiredPages`. -/
theorem extractNextUpdate_returns_fetchFromStart :
    ((HistoryPaginator.new [] 0 12 .fetchFromStart).nextPageToken = .done ∨
      [HistoryPage.mk (some ((signalThenTimerFiredHistory.drop 5).take 4)) [2],
        HistoryPage.mk (some (signalThenTimerFiredHistory.drop 9)) []].getLast?.map
          HistoryPage.nextPageToken = some []) ∧
      ∃ r, (HistoryPaginator.new [] 0 12 .fetchFromStart).extractNextUpdate
        ([HistoryPage.mk (some ((signalThenTimerFiredHistory.drop 5).take 4)) [2],
          HistoryPage.mk (some (signalThenTimerFiredHistory.drop 9)) []].map .ok) = some r :=
  ⟨.inr rfl, extractNextUpdate_returns _ _ (.inr rfl)⟩

end SdkCore.HistoryPaginator
