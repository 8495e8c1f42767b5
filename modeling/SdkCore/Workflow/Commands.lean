import Mathlib.Data.List.Basic

/-!
# The commands of a completion, before they are handled

`crates/sdk-core/src/worker/workflow/managed_run.rs`. Lang may send, after a workflow-terminating
command, more commands generated by other coroutines, and query responses anywhere among them.
`preprocess_command_sequence` takes out the query responses, keeps the other non-terminal
commands in order and puts the first terminal command last; the behaviour before the
`MoveTerminalCommands` flag, `preprocess_command_sequence_old_behavior`, cuts the commands after
the first terminal one.

Both are one pass that sorts each command into the vectors it captures (`newBehaviourFold`,
`oldBehaviourFold`); what each vector ends up holding is a filter of the input
(`preprocessCommandSequence_fst`, `preprocessCommandSequenceOldBehavior_fst`), and the two orders
agree exactly when nothing but terminal commands and queries follows the first terminal one
(`preprocessCommandSequence_spec`).
-/

namespace SdkCore.Workflow

/-- `WFCommandVariant`: `α` is the body a command carries, which the passes here never read,
and `ρ` a `QueryResult`. -/
inductive WFCommandVariant (α ρ : Type) where
  | noCommandsFromLang
  | addActivity (a : α)
  | addLocalActivity (a : α)
  | requestCancelActivity (a : α)
  | requestCancelLocalActivity (a : α)
  | addTimer (a : α)
  | cancelTimer (a : α)
  | completeWorkflow (a : α)
  | failWorkflow (a : α)
  | queryResponse (qr : ρ)
  | continueAsNew (a : α)
  | cancelWorkflow (a : α)
  | setPatchMarker (a : α)
  | addChildWorkflow (a : α)
  | cancelChild (a : α)
  | requestCancelExternalWorkflow (a : α)
  | signalExternalWorkflow (a : α)
  | cancelSignalWorkflow (a : α)
  | upsertSearchAttributes (a : α)
  | modifyWorkflowProperties (a : α)
  | updateResponse (a : α)
  | scheduleNexusOperation (a : α)
  | requestCancelNexusOperation (a : α)
  deriving Repr, DecidableEq

namespace WFCommandVariant

variable {α ρ : Type}

/-- `WFCommandVariant::is_terminal`: complete, fail, cancel and continue-as-new. -/
def isTerminal : WFCommandVariant α ρ → Bool
  | completeWorkflow _ | failWorkflow _ | cancelWorkflow _ | continueAsNew _ => true
  | noCommandsFromLang | addActivity _ | addLocalActivity _ | requestCancelActivity _
  | requestCancelLocalActivity _ | addTimer _ | cancelTimer _ | queryResponse _
  | setPatchMarker _ | addChildWorkflow _ | cancelChild _ | requestCancelExternalWorkflow _
  | signalExternalWorkflow _ | cancelSignalWorkflow _ | upsertSearchAttributes _
  | modifyWorkflowProperties _ | updateResponse _ | scheduleNexusOperation _
  | requestCancelNexusOperation _ => false

/-- The query result of a `QueryResponse`, `if let WFCommandVariant::QueryResponse(qr)`. -/
def queryResult? : WFCommandVariant α ρ → Option ρ
  | queryResponse qr => some qr
  | _ => none

theorem queryResult?_eq_none_of_isTerminal {v : WFCommandVariant α ρ}
    (h : v.isTerminal = true) : v.queryResult? = none := by
  cases v <;> first | rfl | cases h

end WFCommandVariant

/-- `WFCommand`: `μ` is its `UserMetadata`, which travels with it. -/
structure WFCommand (α ρ μ : Type) where
  variant : WFCommandVariant α ρ
  metadata : Option μ
  deriving Repr, DecidableEq

section Preprocess

variable {α ρ μ : Type}

/-- Neither a query response nor a terminal command. -/
def WFCommand.isPlain (c : WFCommand α ρ μ) : Bool :=
  c.variant.queryResult?.isNone && !c.variant.isTerminal

/-- Not a query response. -/
def WFCommand.isNonQuery (c : WFCommand α ρ μ) : Bool :=
  c.variant.queryResult?.isNone

/-- The closure of `preprocess_command_sequence`'s `filter_map`, with what it captures: the kept
commands, the terminal ones and the query results. -/
def newBehaviourFold (acc : List (WFCommand α ρ μ) × List (WFCommand α ρ μ) × List ρ)
    (c : WFCommand α ρ μ) : List (WFCommand α ρ μ) × List (WFCommand α ρ μ) × List ρ :=
  let (commands, terminals, queryResults) := acc
  match c.variant.queryResult? with
  | some qr => (commands, terminals, queryResults ++ [qr])
  | none =>
    if c.variant.isTerminal then (commands, terminals ++ [c], queryResults)
    else (commands ++ [c], terminals, queryResults)

/-- `preprocess_command_sequence`: the non-terminal commands, then the first terminal one. -/
def preprocessCommandSequence (commands : List (WFCommand α ρ μ)) :
    List (WFCommand α ρ μ) × List ρ :=
  let (commands, terminals, queryResults) := commands.foldl newBehaviourFold ([], [], [])
  (commands ++ terminals.head?.toList, queryResults)

/-- The closure of `preprocess_command_sequence_old_behavior`'s `filter_map`, with the kept
commands, `seen_terminal` and the query results. -/
def oldBehaviourFold (acc : List (WFCommand α ρ μ) × Bool × List ρ) (c : WFCommand α ρ μ) :
    List (WFCommand α ρ μ) × Bool × List ρ :=
  let (commands, seenTerminal, queryResults) := acc
  match c.variant.queryResult? with
  | some qr => (commands, seenTerminal, queryResults ++ [qr])
  | none =>
    if seenTerminal then (commands, seenTerminal, queryResults)
    else (commands ++ [c], c.variant.isTerminal, queryResults)

/-- `preprocess_command_sequence_old_behavior`: the commands up to the first terminal one. -/
def preprocessCommandSequenceOldBehavior (commands : List (WFCommand α ρ μ)) :
    List (WFCommand α ρ μ) × List ρ :=
  let (commands, _, queryResults) := commands.foldl oldBehaviourFold ([], false, [])
  (commands, queryResults)

end Preprocess

/-! ## What the passes keep -/

section Spec

variable {α ρ μ : Type}

theorem isTerminal_eq_false_of_queryResult? {v : WFCommandVariant α ρ} {qr : ρ}
    (h : v.queryResult? = some qr) : v.isTerminal = false := by
  cases ht : v.isTerminal
  · rfl
  · rw [WFCommandVariant.queryResult?_eq_none_of_isTerminal ht] at h
    cases h

theorem foldl_newBehaviourFold (cs : List (WFCommand α ρ μ))
    (commands terminals : List (WFCommand α ρ μ)) (queryResults : List ρ) :
    cs.foldl newBehaviourFold (commands, terminals, queryResults) =
      (commands ++ cs.filter WFCommand.isPlain, terminals ++ cs.filter (·.variant.isTerminal),
        queryResults ++ cs.filterMap (·.variant.queryResult?)) := by
  induction cs generalizing commands terminals queryResults with
  | nil => simp
  | cons c cs ih =>
    rw [List.foldl_cons]
    cases hq : c.variant.queryResult? with
    | some qr =>
      have ht := isTerminal_eq_false_of_queryResult? hq
      simp [newBehaviourFold, hq, ht, ih, WFCommand.isPlain]
    | none =>
      cases ht : c.variant.isTerminal <;> simp [newBehaviourFold, hq, ht, ih, WFCommand.isPlain]

theorem foldl_oldBehaviourFold_seen (cs : List (WFCommand α ρ μ))
    (commands : List (WFCommand α ρ μ)) (queryResults : List ρ) :
    cs.foldl oldBehaviourFold (commands, true, queryResults) =
      (commands, true, queryResults ++ cs.filterMap (·.variant.queryResult?)) := by
  induction cs generalizing queryResults with
  | nil => simp
  | cons c cs ih =>
    rw [List.foldl_cons]
    cases hq : c.variant.queryResult? <;> simp [oldBehaviourFold, hq, ih]

/-- Before a terminal command is seen, the pass keeps the non-query commands up to and
including the first terminal one. -/
theorem foldl_oldBehaviourFold (cs : List (WFCommand α ρ μ)) (commands : List (WFCommand α ρ μ))
    (queryResults : List ρ) :
    cs.foldl oldBehaviourFold (commands, false, queryResults) =
      (commands ++ (cs.filter WFCommand.isNonQuery).takeWhile (!·.variant.isTerminal) ++
          ((cs.filter WFCommand.isNonQuery).dropWhile (!·.variant.isTerminal)).take 1,
        cs.any (·.variant.isTerminal), queryResults ++ cs.filterMap (·.variant.queryResult?)) := by
  induction cs generalizing commands queryResults with
  | nil => simp
  | cons c cs ih =>
    rw [List.foldl_cons]
    cases hq : c.variant.queryResult? with
    | some qr =>
      have ht := isTerminal_eq_false_of_queryResult? hq
      simp [oldBehaviourFold, hq, ht, ih, WFCommand.isNonQuery]
    | none =>
      cases ht : c.variant.isTerminal
      · simp [oldBehaviourFold, hq, ht, ih, WFCommand.isNonQuery]
      · -- the first terminal command: the rest only gives its query results
        simp [oldBehaviourFold, hq, ht, foldl_oldBehaviourFold_seen, WFCommand.isNonQuery]

theorem preprocessCommandSequence_fst (cs : List (WFCommand α ρ μ)) :
    (preprocessCommandSequence cs).1 =
      cs.filter WFCommand.isPlain ++ (cs.find? (·.variant.isTerminal)).toList := by
  simp [preprocessCommandSequence, foldl_newBehaviourFold, List.head?_filter]

theorem preprocessCommandSequence_snd (cs : List (WFCommand α ρ μ)) :
    (preprocessCommandSequence cs).2 = cs.filterMap (·.variant.queryResult?) := by
  simp [preprocessCommandSequence, foldl_newBehaviourFold]

theorem preprocessCommandSequenceOldBehavior_fst (cs : List (WFCommand α ρ μ)) :
    (preprocessCommandSequenceOldBehavior cs).1 =
      (cs.filter WFCommand.isNonQuery).takeWhile (!·.variant.isTerminal) ++
        ((cs.filter WFCommand.isNonQuery).dropWhile (!·.variant.isTerminal)).take 1 := by
  simp [preprocessCommandSequenceOldBehavior, foldl_oldBehaviourFold]

theorem preprocessCommandSequenceOldBehavior_snd (cs : List (WFCommand α ρ μ)) :
    (preprocessCommandSequenceOldBehavior cs).2 = cs.filterMap (·.variant.queryResult?) := by
  simp [preprocessCommandSequenceOldBehavior, foldl_oldBehaviourFold]

/-- The two orders of the kept commands agree exactly when every non-query command after the
first terminal one is terminal too. The induction is on the commands, split by the kind of the
first one. -/
theorem filter_find?_eq_iff (cs : List (WFCommand α ρ μ)) :
    cs.filter WFCommand.isPlain ++ (cs.find? (·.variant.isTerminal)).toList =
        (cs.filter WFCommand.isNonQuery).takeWhile (!·.variant.isTerminal) ++
          ((cs.filter WFCommand.isNonQuery).dropWhile (!·.variant.isTerminal)).take 1 ↔
      ∀ c ∈ (cs.dropWhile (!·.variant.isTerminal)).drop 1,
        c.variant.queryResult? = none → c.variant.isTerminal = true := by
  induction cs with
  | nil => simp
  | cons c cs ih =>
    cases hq : c.variant.queryResult? with
    | some qr =>
      have ht := isTerminal_eq_false_of_queryResult? hq
      simpa [WFCommand.isPlain, WFCommand.isNonQuery, hq, ht] using ih
    | none =>
      cases ht : c.variant.isTerminal
      · simpa [WFCommand.isPlain, WFCommand.isNonQuery, hq, ht] using ih
      · -- `c` is the first terminal command: the plain commands after it must be none
        simp [WFCommand.isPlain, WFCommand.isNonQuery, hq, ht, List.filter_eq_nil_iff]

/-- `preprocess_command_sequence` keeps the plain commands in order and then the first terminal
one, the old behaviour keeps the non-query commands up to and including the first terminal one,
both return the query results in order, and their commands agree exactly when no plain command
follows the first terminal one. -/
theorem preprocessCommandSequence_spec (cs : List (WFCommand α ρ μ)) :
    (preprocessCommandSequence cs).1 =
        cs.filter WFCommand.isPlain ++ (cs.find? (·.variant.isTerminal)).toList ∧
      (preprocessCommandSequenceOldBehavior cs).1 =
        (cs.filter WFCommand.isNonQuery).takeWhile (!·.variant.isTerminal) ++
          ((cs.filter WFCommand.isNonQuery).dropWhile (!·.variant.isTerminal)).take 1 ∧
      (preprocessCommandSequence cs).2 = cs.filterMap (·.variant.queryResult?) ∧
      (preprocessCommandSequenceOldBehavior cs).2 = cs.filterMap (·.variant.queryResult?) ∧
      ((preprocessCommandSequence cs).1 = (preprocessCommandSequenceOldBehavior cs).1 ↔
        ∀ c ∈ (cs.dropWhile (!·.variant.isTerminal)).drop 1,
          c.variant.queryResult? = none → c.variant.isTerminal = true) := by
  refine ⟨preprocessCommandSequence_fst cs, preprocessCommandSequenceOldBehavior_fst cs,
    preprocessCommandSequence_snd cs, preprocessCommandSequenceOldBehavior_snd cs, ?_⟩
  rw [preprocessCommandSequence_fst, preprocessCommandSequenceOldBehavior_fst]
  exact filter_find?_eq_iff cs

end Spec

end SdkCore.Workflow
