import SdkCore.Steps

/-!
# The task buffer of a run

`BufferedTasks` of `crates/sdk-core/src/worker/workflow/mod.rs` holds the tasks a run receives
while it still has work outstanding: at most one real task, which advances history, the
query-only tasks that arrived while none was buffered, and those that arrived after it. A new real
task supersedes the buffered one, dropping it and the queries that arrived after it;
`get_next_wft` hands out the queries first, then the real task.

Over every run of `buffer` and `get_next_wft` calls from an empty buffer (`run_bufferedTasks`),
queries for a buffered task are held only while one is buffered; `has_tasks` says whether
`get_next_wft` hands out a task; every query that arrived is handed out, dropped at a
supersession or still held, and those handed out come in the order they arrived; the dropped ones
are the queries that arrived after the superseded task; and a real task is handed out only as the
last real task that arrived, once no query is held. The invariant carrying this (`BufferInv`)
reads the calls made so far, and is carried by the trace rule `Steps.run_trace_inv`.
-/

namespace SdkCore.Workflow

/-- `BufferedTasks`, over tasks `τ` (`PermittedWFT`). -/
structure BufferedTasks (τ : Type) where
  wft : Option τ
  queryOnlyTasks : List τ
  queryOnlyTasksForBuffered : List τ
  deriving Repr, DecidableEq

namespace BufferedTasks

variable {τ : Type} (isQueryOnly : τ → Bool)

/-- `BufferedTasks::default`. -/
def empty : BufferedTasks τ :=
  { wft := none, queryOnlyTasks := [], queryOnlyTasksForBuffered := [] }

/-- `BufferedTasks::buffer`; `isQueryOnly` is `task.work.is_query_only()`. -/
def buffer (b : BufferedTasks τ) (task : τ) : BufferedTasks τ :=
  if isQueryOnly task then
    if b.wft.isNone then { b with queryOnlyTasks := b.queryOnlyTasks ++ [task] }
    else { b with queryOnlyTasksForBuffered := b.queryOnlyTasksForBuffered ++ [task] }
  else
    let b := if b.wft.isSome then { b with queryOnlyTasksForBuffered := [] } else b
    { b with wft := some task }

/-- What `buffer` drops: a real task arriving while one is buffered clears the queries for the
buffered one, and `insert` replaces the buffered one. -/
def droppedBy (b : BufferedTasks τ) (task : τ) : List τ :=
  if isQueryOnly task then []
  else if b.wft.isSome then b.queryOnlyTasksForBuffered ++ b.wft.toList else []

/-- `BufferedTasks::has_tasks`. -/
def hasTasks (b : BufferedTasks τ) : Bool :=
  b.wft.isSome || !b.queryOnlyTasks.isEmpty

/-- `BufferedTasks::get_next_wft`: the task handed out, and the buffer after it. -/
def getNextWft (b : BufferedTasks τ) : Option τ × BufferedTasks τ :=
  match b.queryOnlyTasks with
  | q :: rest => (some q, { b with queryOnlyTasks := rest })
  | [] =>
    if b.wft.isSome then
      match b.queryOnlyTasksForBuffered with
      | q :: rest => (some q, { b with queryOnlyTasksForBuffered := rest })
      | [] =>
        match b.wft with
        | some t => (some t, { b with wft := none })
        | none => (none, b)
    else (none, b)

end BufferedTasks

/-- A call on the buffer. -/
inductive BufferOp (τ : Type) where
  | buffer (task : τ)
  | getNextWft
  deriving Repr, DecidableEq

/-- What a call does with a task: hands it out, or drops it. -/
inductive BufferEvent (τ : Type) where
  | returned (task : τ)
  | dropped (task : τ)
  deriving Repr, DecidableEq

section Runs

variable {τ : Type} (isQueryOnly : τ → Bool)

open BufferedTasks

/-- One call. -/
def bufferStep (b : BufferedTasks τ) :
    BufferOp τ → Except String (BufferedTasks τ × List (BufferEvent τ))
  | .buffer task => .ok (b.buffer isQueryOnly task, (b.droppedBy isQueryOnly task).map .dropped)
  | .getNextWft => .ok (b.getNextWft.2, b.getNextWft.1.toList.map .returned)

/-- The tasks buffered by a list of calls, in order. -/
def arrivals : List (BufferOp τ) → List τ :=
  List.filterMap fun
    | .buffer task => some task
    | .getNextWft => none

/-- The tasks handed out. -/
def returnedTasks : List (BufferEvent τ) → List τ :=
  List.filterMap fun
    | .returned task => some task
    | .dropped _ => none

/-- The tasks dropped. -/
def droppedTasks : List (BufferEvent τ) → List τ :=
  List.filterMap fun
    | .dropped task => some task
    | .returned _ => none

/-- The last real task buffered. -/
def lastReal (ops : List (BufferOp τ)) : Option τ :=
  ((arrivals ops).filter (!isQueryOnly ·)).getLast?

/-- The queries buffered after the last real task. -/
def queriesSinceLastReal (ops : List (BufferOp τ)) : List τ :=
  ((arrivals ops).reverse.takeWhile isQueryOnly).reverse

end Runs

/-! ## What the calls so far give -/

section Ghost

variable {τ : Type} (isQueryOnly : τ → Bool)

@[simp] theorem arrivals_append_buffer (ops : List (BufferOp τ)) (task : τ) :
    arrivals (ops ++ [.buffer task]) = arrivals ops ++ [task] := by
  simp [arrivals]

@[simp] theorem arrivals_append_getNextWft (ops : List (BufferOp τ)) :
    arrivals (ops ++ [.getNextWft]) = arrivals ops := by
  simp [arrivals]

@[simp] theorem returnedTasks_append (a b : List (BufferEvent τ)) :
    returnedTasks (a ++ b) = returnedTasks a ++ returnedTasks b :=
  List.filterMap_append

@[simp] theorem droppedTasks_append (a b : List (BufferEvent τ)) :
    droppedTasks (a ++ b) = droppedTasks a ++ droppedTasks b :=
  List.filterMap_append

@[simp] theorem returnedTasks_nil : returnedTasks ([] : List (BufferEvent τ)) = [] := rfl

@[simp] theorem droppedTasks_nil : droppedTasks ([] : List (BufferEvent τ)) = [] := rfl

@[simp] theorem returnedTasks_cons_returned (t : τ) (l : List (BufferEvent τ)) :
    returnedTasks (.returned t :: l) = t :: returnedTasks l := rfl

@[simp] theorem droppedTasks_cons_returned (t : τ) (l : List (BufferEvent τ)) :
    droppedTasks (.returned t :: l) = droppedTasks l := rfl

@[simp] theorem returnedTasks_cons_dropped (t : τ) (l : List (BufferEvent τ)) :
    returnedTasks (.dropped t :: l) = returnedTasks l := rfl

@[simp] theorem droppedTasks_cons_dropped (t : τ) (l : List (BufferEvent τ)) :
    droppedTasks (.dropped t :: l) = t :: droppedTasks l := rfl

@[simp] theorem returnedTasks_map_dropped (l : List τ) :
    returnedTasks (l.map BufferEvent.dropped) = [] := by
  simp [returnedTasks]

@[simp] theorem droppedTasks_map_dropped (l : List τ) :
    droppedTasks (l.map BufferEvent.dropped) = l := by
  simp [droppedTasks]

@[simp] theorem returnedTasks_map_returned (l : List τ) :
    returnedTasks (l.map BufferEvent.returned) = l := by
  simp [returnedTasks]

@[simp] theorem droppedTasks_map_returned (l : List τ) :
    droppedTasks (l.map BufferEvent.returned) = [] := by
  simp [droppedTasks]

theorem lastReal_append_query (ops : List (BufferOp τ)) {task : τ}
    (h : isQueryOnly task = true) :
    lastReal isQueryOnly (ops ++ [.buffer task]) = lastReal isQueryOnly ops := by
  simp [lastReal, h]

theorem lastReal_append_real (ops : List (BufferOp τ)) {task : τ}
    (h : isQueryOnly task = false) :
    lastReal isQueryOnly (ops ++ [.buffer task]) = some task := by
  simp [lastReal, h]

theorem queriesSinceLastReal_append_query (ops : List (BufferOp τ)) {task : τ}
    (h : isQueryOnly task = true) :
    queriesSinceLastReal isQueryOnly (ops ++ [.buffer task]) =
      queriesSinceLastReal isQueryOnly ops ++ [task] := by
  simp [queriesSinceLastReal, h]

theorem queriesSinceLastReal_append_real (ops : List (BufferOp τ)) {task : τ}
    (h : isQueryOnly task = false) :
    queriesSinceLastReal isQueryOnly (ops ++ [.buffer task]) = [] := by
  simp [queriesSinceLastReal, h]

end Ghost

/-! ## The invariant -/

section Invariant

variable {τ : Type} (isQueryOnly : τ → Bool)

open BufferedTasks

/-- What the buffer holds after the calls `ops`, which emitted `outs`. -/
structure BufferInv (ops : List (BufferOp τ)) (b : BufferedTasks τ) (outs : List (BufferEvent τ)) :
    Prop where
  onlyQueries : ∀ x ∈ b.queryOnlyTasks ++ b.queryOnlyTasksForBuffered, isQueryOnly x = true
  wftReal : ∀ w, b.wft = some w → isQueryOnly w = false
  forBufferedEmpty : b.wft = none → b.queryOnlyTasksForBuffered = []
  wftLast : ∀ w, b.wft = some w → lastReal isQueryOnly ops = some w
  forBufferedSince : b.queryOnlyTasksForBuffered <:+ queriesSinceLastReal isQueryOnly ops
  conserved : ((returnedTasks outs).filter isQueryOnly ++ (droppedTasks outs).filter isQueryOnly ++
    b.queryOnlyTasks ++ b.queryOnlyTasksForBuffered).Perm ((arrivals ops).filter isQueryOnly)
  ordered : ((returnedTasks outs).filter isQueryOnly ++ b.queryOnlyTasks ++
    b.queryOnlyTasksForBuffered).Sublist ((arrivals ops).filter isQueryOnly)

theorem empty_bufferInv : BufferInv isQueryOnly [] (empty : BufferedTasks τ) [] := by
  refine ⟨?_, ?_, ?_, ?_, ?_, ?_, ?_⟩ <;> simp [empty, arrivals, returnedTasks, droppedTasks]

variable {isQueryOnly}
variable {ops : List (BufferOp τ)} {b : BufferedTasks τ} {outs : List (BufferEvent τ)}

theorem BufferInv.pushQuery (h : BufferInv isQueryOnly ops b outs) {task : τ}
    (hq : isQueryOnly task = true) (hw : b.wft = none) :
    BufferInv isQueryOnly (ops ++ [.buffer task])
      { b with queryOnlyTasks := b.queryOnlyTasks ++ [task] } outs := by
  have hfb := h.forBufferedEmpty hw
  have hc := h.conserved
  have ho := h.ordered
  rw [hfb] at hc ho
  refine ⟨?_, h.wftReal, h.forBufferedEmpty, fun w hw' => ?_, ?_, ?_, ?_⟩
  · intro x hx
    simp only [List.mem_append, List.mem_singleton] at hx
    rcases hx with (hx | rfl) | hx
    · exact h.onlyQueries x (List.mem_append_left _ hx)
    · exact hq
    · exact h.onlyQueries x (List.mem_append_right _ hx)
  · rw [hw] at hw'
    cases hw'
  · simp [hfb]
  · simpa [hq, hfb] using hc.append_right [task]
  · simpa [hq, hfb] using ho.append_right [task]

theorem BufferInv.pushForBuffered (h : BufferInv isQueryOnly ops b outs) {task : τ}
    (hq : isQueryOnly task = true) (hw : b.wft ≠ none) :
    BufferInv isQueryOnly (ops ++ [.buffer task])
      { b with queryOnlyTasksForBuffered := b.queryOnlyTasksForBuffered ++ [task] } outs := by
  refine ⟨?_, h.wftReal, fun hw' => absurd hw' hw, fun w hw' => ?_, ?_, ?_, ?_⟩
  · intro x hx
    simp only [List.mem_append, List.mem_singleton] at hx
    rcases hx with hx | hx | rfl
    · exact h.onlyQueries x (List.mem_append_left _ hx)
    · exact h.onlyQueries x (List.mem_append_right _ hx)
    · exact hq
  · rw [lastReal_append_query _ _ hq]
    exact h.wftLast w hw'
  · rw [queriesSinceLastReal_append_query _ _ hq]
    obtain ⟨t, ht⟩ := h.forBufferedSince
    exact ⟨t, by rw [← ht, List.append_assoc]⟩
  · simpa [hq, List.append_assoc] using h.conserved.append_right [task]
  · simpa [hq, List.append_assoc] using h.ordered.append_right [task]

theorem BufferInv.firstReal (h : BufferInv isQueryOnly ops b outs) {task : τ}
    (hq : isQueryOnly task = false) (hw : b.wft = none) :
    BufferInv isQueryOnly (ops ++ [.buffer task]) { b with wft := some task } outs := by
  have hfb := h.forBufferedEmpty hw
  refine ⟨h.onlyQueries, ?_, (fun hw' => by cases hw'), ?_, ?_, ?_, ?_⟩
  · rintro w ⟨⟩
    exact hq
  · rintro w ⟨⟩
    exact lastReal_append_real _ _ hq
  · simp [hfb]
  · simpa [hq] using h.conserved
  · simpa [hq] using h.ordered

/-- A real task arriving while one is buffered drops the buffered one and the queries held for
it. -/
theorem BufferInv.supersede (h : BufferInv isQueryOnly ops b outs) {task w : τ}
    (hq : isQueryOnly task = false) (hw : b.wft = some w) :
    BufferInv isQueryOnly (ops ++ [.buffer task])
      { b with queryOnlyTasksForBuffered := [], wft := some task }
      (outs ++ (b.queryOnlyTasksForBuffered ++ [w]).map .dropped) := by
  have hfbq : b.queryOnlyTasksForBuffered.filter isQueryOnly = b.queryOnlyTasksForBuffered :=
    List.filter_eq_self.mpr fun x hx => h.onlyQueries x (List.mem_append_right _ hx)
  have hwq := h.wftReal w hw
  refine ⟨?_, ?_, (fun hw' => by cases hw'), ?_, by simp, ?_, ?_⟩
  · simpa using fun x hx => h.onlyQueries x (List.mem_append_left _ hx)
  · rintro w' ⟨⟩
    exact hq
  · rintro w' ⟨⟩
    exact lastReal_append_real _ _ hq
  · -- the held queries move from the buffer to the dropped ones
    have hperm : (b.queryOnlyTasksForBuffered ++ b.queryOnlyTasks).Perm
        (b.queryOnlyTasks ++ b.queryOnlyTasksForBuffered) := List.perm_append_comm
    rw [show (arrivals (ops ++ [.buffer task])).filter isQueryOnly =
      (arrivals ops).filter isQueryOnly by simp [hq]]
    refine List.Perm.trans ?_ h.conserved
    simpa [hq, hwq, hfbq] using (hperm.append_left _).append_left _
  · have hsub : ((returnedTasks outs).filter isQueryOnly ++ b.queryOnlyTasks).Sublist
        ((arrivals ops).filter isQueryOnly) :=
      (List.sublist_append_left _ _).trans h.ordered
    simpa [hq] using hsub

/-- A query handed out moves from the held ones to the returned ones. -/
theorem perm_returned_middle (returned dropped held : List τ) (q : τ) :
    (returned ++ q :: (dropped ++ held)).Perm (returned ++ (dropped ++ q :: held)) :=
  List.perm_middle.symm.append_left returned

/-- Handing out the first query that arrived while no real task was buffered. -/
theorem BufferInv.popQuery (h : BufferInv isQueryOnly ops b outs) {q : τ} {rest : List τ}
    (hq : b.queryOnlyTasks = q :: rest) :
    BufferInv isQueryOnly ops { b with queryOnlyTasks := rest } (outs ++ [.returned q]) := by
  have hqq : isQueryOnly q = true := h.onlyQueries q (by simp [hq])
  refine ⟨fun x hx => h.onlyQueries x ?_, h.wftReal, h.forBufferedEmpty, h.wftLast,
    h.forBufferedSince, ?_, ?_⟩
  · simp only [List.mem_append] at hx ⊢
    rcases hx with hx | hx
    · exact .inl (by simp [hq, hx])
    · exact .inr hx
  · have hc := h.conserved
    rw [hq] at hc
    refine List.Perm.trans ?_ hc
    simpa [hqq] using perm_returned_middle ((returnedTasks outs).filter isQueryOnly)
      ((droppedTasks outs).filter isQueryOnly) (rest ++ b.queryOnlyTasksForBuffered) q
  · simpa [hq, hqq] using h.ordered

/-- Handing out the first query held for the buffered real task. -/
theorem BufferInv.popForBuffered (h : BufferInv isQueryOnly ops b outs) {q : τ} {rest : List τ}
    (hq : b.queryOnlyTasks = []) (hfb : b.queryOnlyTasksForBuffered = q :: rest) :
    BufferInv isQueryOnly ops { b with queryOnlyTasksForBuffered := rest }
      (outs ++ [.returned q]) := by
  have hqq : isQueryOnly q = true := h.onlyQueries q (by simp [hfb])
  have hsuf : rest <:+ queriesSinceLastReal isQueryOnly ops :=
    (List.suffix_cons q rest).trans (hfb ▸ h.forBufferedSince)
  refine ⟨fun x hx => h.onlyQueries x ?_, h.wftReal, fun hw => ?_, h.wftLast, hsuf, ?_, ?_⟩
  · simp only [List.mem_append] at hx ⊢
    rcases hx with hx | hx
    · exact .inl hx
    · exact .inr (by simp [hfb, hx])
  · have := h.forBufferedEmpty hw
    rw [hfb] at this
    cases this
  · have hc := h.conserved
    rw [hq, hfb] at hc
    refine List.Perm.trans ?_ hc
    simpa [hqq, hq] using perm_returned_middle ((returnedTasks outs).filter isQueryOnly)
      ((droppedTasks outs).filter isQueryOnly) rest q
  · simpa [hq, hfb, hqq] using h.ordered

/-- Handing out the buffered real task once no query is held. -/
theorem BufferInv.takeWft (h : BufferInv isQueryOnly ops b outs) {w : τ}
    (hw : b.wft = some w) (hfb : b.queryOnlyTasksForBuffered = []) :
    BufferInv isQueryOnly ops { b with wft := none } (outs ++ [.returned w]) := by
  have hwq := h.wftReal w hw
  refine ⟨h.onlyQueries, (fun w' hw' => by cases hw'), fun _ => hfb, (fun w' hw' => by cases hw'),
    h.forBufferedSince, ?_, ?_⟩
  · simpa [hwq] using h.conserved
  · simpa [hwq] using h.ordered

/-- A call to `get_next_wft` buffers nothing, so the ghost state is read as before it. -/
theorem BufferInv.appendGetNextWft {b' : BufferedTasks τ} {outs' : List (BufferEvent τ)}
    (h : BufferInv isQueryOnly ops b' outs') :
    BufferInv isQueryOnly (ops ++ [.getNextWft]) b' outs' := by
  have hl : lastReal isQueryOnly (ops ++ [.getNextWft]) = lastReal isQueryOnly ops := by
    simp [lastReal]
  have hs : queriesSinceLastReal isQueryOnly (ops ++ [.getNextWft]) =
      queriesSinceLastReal isQueryOnly ops := by
    simp [queriesSinceLastReal]
  exact ⟨h.onlyQueries, h.wftReal, h.forBufferedEmpty, by simpa [hl] using h.wftLast,
    by simpa [hs] using h.forBufferedSince, by simpa using h.conserved, by simpa using h.ordered⟩

/-- Every call keeps the invariant. -/
theorem BufferInv.bufferStep (h : BufferInv isQueryOnly ops b outs) (op : BufferOp τ) :
    ∃ u o, bufferStep isQueryOnly b op = .ok (u, o) ∧
      BufferInv isQueryOnly (ops ++ [op]) u (outs ++ o) := by
  cases op with
  | buffer task =>
    refine ⟨_, _, rfl, ?_⟩
    cases hq : isQueryOnly task with
    | true =>
      cases hw : b.wft with
      | none => simpa [BufferedTasks.buffer, droppedBy, hq, hw] using h.pushQuery hq hw
      | some w =>
        simpa [BufferedTasks.buffer, droppedBy, hq, hw] using h.pushForBuffered hq (by simp [hw])
    | false =>
      cases hw : b.wft with
      | none => simpa [BufferedTasks.buffer, droppedBy, hq, hw] using h.firstReal hq hw
      | some w => simpa [BufferedTasks.buffer, droppedBy, hq, hw] using h.supersede hq hw
  | getNextWft =>
    refine ⟨_, _, rfl, ?_⟩
    apply BufferInv.appendGetNextWft
    -- the branches of get_next_wft: the first queue, then the second, then the real task
    cases hq : b.queryOnlyTasks with
    | cons q rest => simpa [BufferedTasks.getNextWft, hq] using h.popQuery hq
    | nil =>
      cases hw : b.wft with
      | none => simpa [BufferedTasks.getNextWft, hq, hw] using h
      | some w =>
        cases hfb : b.queryOnlyTasksForBuffered with
        | cons q rest =>
          simpa [BufferedTasks.getNextWft, hq, hw, hfb] using h.popForBuffered hq hfb
        | nil => simpa [BufferedTasks.getNextWft, hq, hw, hfb] using h.takeWft hw hfb

/-- What the next call drops: queries only when a real task arrives, and then exactly those held
for the buffered one. -/
theorem BufferInv.droppedBy_filter (h : BufferInv isQueryOnly ops b outs) (task : τ) :
    (b.droppedBy isQueryOnly task).filter isQueryOnly =
      if isQueryOnly task then [] else b.queryOnlyTasksForBuffered := by
  cases hq : isQueryOnly task with
  | true => simp [droppedBy, hq]
  | false =>
    have hfbq : b.queryOnlyTasksForBuffered.filter isQueryOnly = b.queryOnlyTasksForBuffered :=
      List.filter_eq_self.mpr fun x hx => h.onlyQueries x (List.mem_append_right _ hx)
    cases hw : b.wft with
    | none => simp [droppedBy, hq, hw, h.forBufferedEmpty hw]
    | some w => simp [droppedBy, hq, hw, hfbq, h.wftReal w hw]

/-- A real task handed out is the last real task buffered, and no query is held then. -/
theorem BufferInv.getNextWft_real (h : BufferInv isQueryOnly ops b outs) {t : τ}
    (ht : b.getNextWft.1 = some t) (hq : isQueryOnly t = false) :
    b.queryOnlyTasks = [] ∧ b.queryOnlyTasksForBuffered = [] ∧
      lastReal isQueryOnly ops = some t := by
  have hquery : ∀ x ∈ b.queryOnlyTasks ++ b.queryOnlyTasksForBuffered, x ≠ t := by
    rintro x hx rfl
    simp [h.onlyQueries x hx] at hq
  cases hqot : b.queryOnlyTasks with
  | cons q rest =>
    simp only [BufferedTasks.getNextWft, hqot, Option.some.injEq] at ht
    exact absurd ht (hquery q (by simp [hqot]))
  | nil =>
    cases hw : b.wft with
    | none => simp [BufferedTasks.getNextWft, hqot, hw] at ht
    | some w =>
      cases hfb : b.queryOnlyTasksForBuffered with
      | cons q rest =>
        simp only [BufferedTasks.getNextWft, hqot, hw, hfb, Option.isSome_some, if_true,
          Option.some.injEq] at ht
        exact absurd ht (hquery q (by simp [hfb]))
      | nil =>
        simp only [BufferedTasks.getNextWft, hqot, hw, hfb, Option.isSome_some, if_true,
          Option.some.injEq] at ht
        exact ⟨rfl, rfl, ht ▸ h.wftLast w hw⟩

end Invariant

/-! ## Runs from the empty buffer -/

section FromEmpty

variable {τ : Type} (isQueryOnly : τ → Bool)

open BufferedTasks

/-- `has_tasks` reads only the first queue and the real task, which is what `get_next_wft`
looks at before it hands anything out. -/
theorem hasTasks_eq_getNextWft_isSome (b : BufferedTasks τ) :
    b.hasTasks = b.getNextWft.1.isSome := by
  cases hq : b.queryOnlyTasks with
  | cons q rest => simp [hasTasks, BufferedTasks.getNextWft, hq]
  | nil =>
    cases hw : b.wft with
    | none => simp [hasTasks, BufferedTasks.getNextWft, hq, hw]
    | some w =>
      cases hfb : b.queryOnlyTasksForBuffered <;>
        simp [hasTasks, BufferedTasks.getNextWft, hq, hw, hfb]

theorem run_bufferInv (ops : List (BufferOp τ)) :
    ∃ b outs, Steps.run (bufferStep isQueryOnly) BufferedTasks.empty ops = .ok (b, outs) ∧
      BufferInv isQueryOnly ops b outs :=
  Steps.run_trace_inv (bufferStep isQueryOnly) (BufferInv isQueryOnly) _
    (empty_bufferInv isQueryOnly) (fun _ _ _ op h => h.bufferStep op) ops

/-- Every run of calls from an empty buffer: queries for a buffered task are held only while one
is buffered; `has_tasks` is whether `get_next_wft` hands a task out; each query that arrived is
handed out, dropped or held, exactly once, and those handed out or held keep their arrival order;
queries are dropped only by a real task's arrival, and they are then the ones held since the last
real task; and a real task handed out is the last one that arrived, with no query held. -/
theorem run_bufferedTasks (ops : List (BufferOp τ)) :
    ∃ b outs, Steps.run (bufferStep isQueryOnly) BufferedTasks.empty ops = .ok (b, outs) ∧
      (b.wft = none → b.queryOnlyTasksForBuffered = []) ∧
      b.hasTasks = b.getNextWft.1.isSome ∧
      ((returnedTasks outs).filter isQueryOnly ++ (droppedTasks outs).filter isQueryOnly ++
        b.queryOnlyTasks ++ b.queryOnlyTasksForBuffered).Perm
        ((arrivals ops).filter isQueryOnly) ∧
      ((returnedTasks outs).filter isQueryOnly ++ b.queryOnlyTasks ++
        b.queryOnlyTasksForBuffered).Sublist ((arrivals ops).filter isQueryOnly) ∧
      (∀ task, (b.droppedBy isQueryOnly task).filter isQueryOnly =
        if isQueryOnly task then [] else b.queryOnlyTasksForBuffered) ∧
      b.queryOnlyTasksForBuffered <:+ queriesSinceLastReal isQueryOnly ops ∧
      (∀ t, b.getNextWft.1 = some t → isQueryOnly t = false →
        b.queryOnlyTasks = [] ∧ b.queryOnlyTasksForBuffered = [] ∧
          lastReal isQueryOnly ops = some t) := by
  obtain ⟨b, outs, hrun, h⟩ := run_bufferInv isQueryOnly ops
  exact ⟨b, outs, hrun, h.forBufferedEmpty, hasTasks_eq_getNextWft_isSome b, h.conserved,
    h.ordered, h.droppedBy_filter, h.forBufferedSince, fun _ ht hq => h.getNextWft_real ht hq⟩

-- A query held for a real task is dropped with it when a newer real task arrives.
example : Steps.run (bufferStep (fun n : Nat => n % 2 == 0)) BufferedTasks.empty
    [.buffer 1, .buffer 2, .buffer 3, .getNextWft] =
      .ok (⟨none, [], []⟩, [.dropped 2, .dropped 1, .returned 3]) := rfl

end FromEmpty

end SdkCore.Workflow
