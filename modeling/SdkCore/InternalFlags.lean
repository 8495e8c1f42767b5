import SdkCore.Machines.Basic
import Mathlib.Data.Finset.Image

/-!
# Internal flags

`crates/sdk-core/src/internal_flags.rs`. Flags record which incompatible code paths a workflow's
history was written with. While a task is not replayed, `try_use` with `should_record` answers yes
and notes the flag; `get_commands` notes every known core flag (`write_all_known`); and
`gather_for_wft_complete` reports what was noted and is not yet known, for the server to store in
the task's `WorkflowTaskCompleted` event, and makes it known. On replay, `add_from_complete` learns
the flags of each such event, and `try_use` without recording answers whether the flag is known.

The known and noted sets only grow (`Grows`). Hence, from the first answered task on, every core
flag but `TooHigh` is known for good: on every run of calls from an enabled state that writes all
known flags and later gathers, `try_use` answers yes for each of them without recording, and a
gather reports no core flag but `TooHigh` (`run_knowsAllCore`).

The sets are hash and B-tree sets, kept as `Finset`s; the flag lists of the metadata are collected
from hash sets in no fixed order, and are kept as sets too.
-/

namespace SdkCore

namespace CoreInternalFlags

/-- The `#[repr(u32)]` value. -/
def toU32 : CoreInternalFlags → Nat
  | idAndTypeDeterminismChecks => 1
  | upsertSearchAttributeOnPatch => 2
  | moveTerminalCommands => 3
  | tooHigh => 2 ^ 32 - 1

/-- `CoreInternalFlags::from_u32`. -/
def fromU32 : Nat → CoreInternalFlags
  | 1 => idAndTypeDeterminismChecks
  | 2 => upsertSearchAttributeOnPatch
  | 3 => moveTerminalCommands
  | _ => tooHigh

/-- `CoreInternalFlags::all_except_too_high`. -/
def allExceptTooHigh : Finset CoreInternalFlags :=
  {idAndTypeDeterminismChecks, upsertSearchAttributeOnPatch, moveTerminalCommands}

theorem mem_allExceptTooHigh {f : CoreInternalFlags} : f ∈ allExceptTooHigh ↔ f ≠ tooHigh := by
  cases f <;> decide

end CoreInternalFlags

open CoreInternalFlags

namespace Flags

/-- `WorkflowTaskCompletedMetadata`. -/
structure WorkflowTaskCompletedMetadata where
  coreUsedFlags : Finset Nat
  langUsedFlags : Finset Nat
  sdkName : String
  sdkVersion : String
  deriving DecidableEq

instance : Inhabited WorkflowTaskCompletedMetadata := ⟨⟨∅, ∅, "", ""⟩⟩

/-- The fields of `InternalFlags::Enabled`. -/
structure EnabledFlags where
  core : Finset CoreInternalFlags
  lang : Finset Nat
  coreSinceLastComplete : Finset CoreInternalFlags
  langSinceLastComplete : Finset Nat
  lastSdkName : String
  lastSdkVersion : String
  sdkName : String
  sdkVersion : String
  deriving DecidableEq

/-- `InternalFlags`. -/
inductive InternalFlags where
  | enabled (flags : EnabledFlags)
  | disabled
  deriving DecidableEq

namespace InternalFlags

/-- `InternalFlags::new`, from `server_capabilities.sdk_metadata`. -/
def new (sdkMetadata : Bool) (sdkName sdkVersion : String) : InternalFlags :=
  if sdkMetadata then .enabled ⟨∅, ∅, ∅, ∅, "", "", sdkName, sdkVersion⟩ else .disabled

/-- `InternalFlags::add_from_complete`, given the event's `sdk_metadata`. -/
def addFromComplete : InternalFlags → Option WorkflowTaskCompletedMetadata → InternalFlags
  | .enabled f, some metadata =>
    .enabled { f with
      core := f.core ∪ metadata.coreUsedFlags.image fromU32
      lang := f.lang ∪ metadata.langUsedFlags
      lastSdkName := if metadata.sdkName.isEmpty then f.lastSdkName else metadata.sdkName
      lastSdkVersion :=
        if metadata.sdkVersion.isEmpty then f.lastSdkVersion else metadata.sdkVersion }
  | flags, _ => flags

/-- `InternalFlags::add_lang_used`. -/
def addLangUsed : InternalFlags → List Nat → InternalFlags
  | .enabled f, flags =>
    .enabled { f with langSinceLastComplete := f.langSinceLastComplete ∪ flags.toFinset }
  | .disabled, _ => .disabled

/-- `InternalFlags::try_use`: whether the flag may be used, and the flags afterwards. -/
def tryUse : InternalFlags → CoreInternalFlags → Bool → Bool × InternalFlags
  | .enabled f, flag, shouldRecord =>
    if shouldRecord then
      (true, .enabled { f with coreSinceLastComplete := insert flag f.coreSinceLastComplete })
    else (decide (flag ∈ f.core), .enabled f)
  -- the server cannot record flags, so none may ever be used
  | .disabled, _, _ => (false, .disabled)

/-- `InternalFlags::write_all_known`. -/
def writeAllKnown : InternalFlags → InternalFlags
  | .enabled f =>
    .enabled { f with coreSinceLastComplete := f.coreSinceLastComplete ∪ allExceptTooHigh }
  | .disabled => .disabled

/-- `InternalFlags::gather_for_wft_complete`: the metadata, and the flags afterwards. -/
def gatherForWftComplete : InternalFlags → WorkflowTaskCompletedMetadata × InternalFlags
  | .enabled f =>
    (⟨(f.coreSinceLastComplete.filter (· ∉ f.core)).image toU32,
        f.langSinceLastComplete.filter (· ∉ f.lang),
        if f.lastSdkName ≠ f.sdkName then f.sdkName else "",
        if f.lastSdkVersion ≠ f.sdkVersion then f.sdkVersion else ""⟩,
      .enabled { f with
        core := f.core ∪ f.coreSinceLastComplete
        lang := f.lang ∪ f.langSinceLastComplete })
  | .disabled => (default, .disabled)

/-! ## Runs of calls -/

/-- A call on the flags. -/
inductive Call where
  | addFromComplete (metadata : Option WorkflowTaskCompletedMetadata)
  | addLangUsed (flags : List Nat)
  | tryUse (flag : CoreInternalFlags) (shouldRecord : Bool)
  | writeAllKnown
  | gatherForWftComplete

/-- What a call returns. -/
inductive Answer where
  | used (answer : Bool)
  | metadata (metadata : WorkflowTaskCompletedMetadata)

/-- One call, which never fails. -/
def step (flags : InternalFlags) : Call → Except Empty (InternalFlags × List Answer)
  | .addFromComplete metadata => .ok (flags.addFromComplete metadata, [])
  | .addLangUsed fs => .ok (flags.addLangUsed fs, [])
  | .tryUse flag shouldRecord =>
    let (answer, flags) := flags.tryUse flag shouldRecord
    .ok (flags, [.used answer])
  | .writeAllKnown => .ok (flags.writeAllKnown, [])
  | .gatherForWftComplete =>
    let (metadata, flags) := flags.gatherForWftComplete
    .ok (flags, [.metadata metadata])

/-- Each set of `t` contains that of `s`, and `t` is enabled exactly when `s` is. -/
def Grows : InternalFlags → InternalFlags → Prop
  | .enabled f, .enabled g =>
    f.core ⊆ g.core ∧ f.lang ⊆ g.lang ∧ f.coreSinceLastComplete ⊆ g.coreSinceLastComplete ∧
      f.langSinceLastComplete ⊆ g.langSinceLastComplete
  | .disabled, .disabled => True
  | _, _ => False

theorem Grows.refl : ∀ s, Grows s s
  | .enabled _ => ⟨subset_rfl, subset_rfl, subset_rfl, subset_rfl⟩
  | .disabled => trivial

theorem Grows.trans : ∀ {s t u}, Grows s t → Grows t u → Grows s u
  | .enabled _, .enabled _, .enabled _, ⟨h1, h2, h3, h4⟩, ⟨k1, k2, k3, k4⟩ =>
    ⟨h1.trans k1, h2.trans k2, h3.trans k3, h4.trans k4⟩
  | .disabled, .disabled, .disabled, _, _ => trivial

theorem grows_step (s : InternalFlags) (c : Call) {t : InternalFlags} {o : List Answer}
    (h : step s c = .ok (t, o)) : Grows s t := by
  cases s with
  | disabled => cases c <;> cases h <;> trivial
  | enabled f =>
    cases c with
    | addFromComplete metadata =>
      cases h
      cases metadata with
      | none => exact Grows.refl _
      | some m => exact ⟨Finset.subset_union_left, Finset.subset_union_left, subset_rfl, subset_rfl⟩
    | addLangUsed fs =>
      cases h
      exact ⟨subset_rfl, subset_rfl, subset_rfl, Finset.subset_union_left⟩
    | tryUse flag shouldRecord =>
      cases shouldRecord <;> cases h
      · exact Grows.refl _
      · exact ⟨subset_rfl, subset_rfl, Finset.subset_insert _ _, subset_rfl⟩
    | writeAllKnown =>
      cases h
      exact ⟨subset_rfl, subset_rfl, Finset.subset_union_left, subset_rfl⟩
    | gatherForWftComplete =>
      cases h
      exact ⟨Finset.subset_union_left, Finset.subset_union_left, subset_rfl, subset_rfl⟩

theorem grows_run (calls : List Call) {s u : InternalFlags} {os : List Answer}
    (h : Steps.run step s calls = .ok (u, os)) : Grows s u :=
  (Steps.run_rel step (fun _ => True) (fun s _ u => Grows s u) Grows.refl
    (fun _ _ _ _ _ h₁ h₂ => h₁.trans h₂) (fun s c _ _ _ h => ⟨trivial, grows_step s c h⟩)
    calls s u os trivial h).2

/-! ## Every core flag known -/

/-- Every core flag but `TooHigh` is known. -/
def KnowsAllCore : InternalFlags → Prop
  | .enabled f => allExceptTooHigh ⊆ f.core
  | .disabled => False

/-- Every core flag but `TooHigh` is noted, to be made known by the next gather. -/
def NotesAllCore : InternalFlags → Prop
  | .enabled f => allExceptTooHigh ⊆ f.coreSinceLastComplete
  | .disabled => False

theorem KnowsAllCore.of_grows {s t : InternalFlags} (hs : s.KnowsAllCore) (h : Grows s t) :
    t.KnowsAllCore := by
  cases s <;> cases t
  · exact hs.trans h.1
  all_goals simp_all [Grows, KnowsAllCore]

theorem NotesAllCore.of_grows {s t : InternalFlags} (hs : s.NotesAllCore) (h : Grows s t) :
    t.NotesAllCore := by
  cases s <;> cases t
  · exact hs.trans h.2.2.1
  all_goals simp_all [Grows, NotesAllCore]

theorem notesAllCore_writeAllKnown {s : InternalFlags} (hs : s ≠ .disabled) :
    s.writeAllKnown.NotesAllCore := by
  cases s with
  | enabled f => exact Finset.subset_union_right
  | disabled => exact absurd rfl hs

theorem knowsAllCore_gatherForWftComplete {s : InternalFlags} (hs : s.NotesAllCore) :
    s.gatherForWftComplete.2.KnowsAllCore := by
  cases s with
  | enabled f => exact hs.trans Finset.subset_union_right
  | disabled => exact hs.elim

/-- Once every core flag is known, `try_use` answers yes without recording. -/
theorem KnowsAllCore.tryUse {s : InternalFlags} (hs : s.KnowsAllCore) {flag : CoreInternalFlags}
    (hflag : flag ≠ tooHigh) : (s.tryUse flag false).1 = true := by
  cases s with
  | enabled f => simpa [InternalFlags.tryUse] using hs (mem_allExceptTooHigh.mpr hflag)
  | disabled => exact hs.elim

/-- Once every core flag is known, a gather reports no core flag but `TooHigh`. -/
theorem KnowsAllCore.gatherForWftComplete {s : InternalFlags} (hs : s.KnowsAllCore) :
    s.gatherForWftComplete.1.coreUsedFlags ⊆ {toU32 tooHigh} := by
  cases s with
  | disabled => exact hs.elim
  | enabled f =>
    intro n hn
    simp only [InternalFlags.gatherForWftComplete, Finset.mem_image, Finset.mem_filter] at hn
    obtain ⟨flag, ⟨-, hunknown⟩, rfl⟩ := hn
    -- an unknown noted flag is not among those known, so it is `TooHigh`
    have htoo : flag = tooHigh := by
      by_contra hne
      exact hunknown (hs (mem_allExceptTooHigh.mpr hne))
    simp [htoo]

/-- On every run of calls from an enabled state that writes all known flags and later gathers,
every core flag but `TooHigh` is known at the end: `try_use` then answers yes for each without
recording, and a gather reports no core flag but `TooHigh`. -/
theorem run_knowsAllCore (f : EnabledFlags) (pre mid post : List Call)
    {u : InternalFlags} {os : List Answer}
    (h : Steps.run step (.enabled f)
      (pre ++ .writeAllKnown :: mid ++ .gatherForWftComplete :: post) = .ok (u, os)) :
    u.KnowsAllCore ∧ (∀ flag, flag ≠ tooHigh → (u.tryUse flag false).1 = true) ∧
      u.gatherForWftComplete.1.coreUsedFlags ⊆ {toU32 tooHigh} := by
  -- split the run at the write and at the gather
  rw [List.append_assoc, List.cons_append] at h
  obtain ⟨s₁, _, _, hpre, h₁, _⟩ := Steps.run_append_ok step h
  obtain ⟨s₂, _, _, hwrite, h₂, _⟩ := Steps.run_cons_ok step h₁
  obtain ⟨s₃, _, _, hmid, h₃, _⟩ := Steps.run_append_ok step h₂
  obtain ⟨s₄, _, _, hgather, hpost, _⟩ := Steps.run_cons_ok step h₃
  have henabled : s₁ ≠ .disabled := by
    intro hd
    have := grows_run pre hpre
    rw [hd] at this
    exact this
  have hs₂ : s₂ = s₁.writeAllKnown := by
    cases hwrite
    rfl
  have hs₄ : s₄ = s₃.gatherForWftComplete.2 := by
    cases hgather
    rfl
  have hnotes : s₃.NotesAllCore :=
    (hs₂ ▸ notesAllCore_writeAllKnown henabled).of_grows (grows_run mid hmid)
  have hknows : u.KnowsAllCore :=
    (hs₄ ▸ knowsAllCore_gatherForWftComplete hnotes).of_grows (grows_run post hpost)
  exact ⟨hknows, fun _ hflag => hknows.tryUse hflag, hknows.gatherForWftComplete⟩

/-- A first task that uses a flag while not replaying, then a later call adding a lang flag. -/
theorem run_knowsAllCore_firstTask :
    ∃ u os, Steps.run step (.enabled ⟨∅, ∅, ∅, ∅, "", "", "temporal-core", "1.0"⟩)
        ([] ++ .writeAllKnown :: [.tryUse .moveTerminalCommands true] ++
          .gatherForWftComplete :: [.addLangUsed [7]]) = .ok (u, os) ∧
      u.KnowsAllCore ∧ (∀ flag, flag ≠ tooHigh → (u.tryUse flag false).1 = true) ∧
        u.gatherForWftComplete.1.coreUsedFlags ⊆ {toU32 tooHigh} :=
  ⟨_, _, rfl, run_knowsAllCore ⟨∅, ∅, ∅, ∅, "", "", "temporal-core", "1.0"⟩ []
    [.tryUse .moveTerminalCommands true] [.addLangUsed [7]] rfl⟩

/-! ## The machines' view -/

/-- The machines keep only the two core sets, as lists (`SdkCore.InternalFlags`): `m` holds those
of `s`. -/
def CoreView : SdkCore.InternalFlags → InternalFlags → Prop
  | .enabled core since, .enabled f =>
    core.toFinset = f.core ∧ since.toFinset = f.coreSinceLastComplete
  | .disabled, .disabled => True
  | _, _ => False

/-- The machines' `try_use` answers as the full one does, and keeps the view. -/
theorem CoreView.tryUse {m : SdkCore.InternalFlags} {s : InternalFlags} (h : CoreView m s)
    (flag : CoreInternalFlags) (shouldRecord : Bool) :
    (m.tryUse flag shouldRecord).1 = (s.tryUse flag shouldRecord).1 ∧
      CoreView (m.tryUse flag shouldRecord).2 (s.tryUse flag shouldRecord).2 := by
  cases m with
  | disabled =>
    cases s with
    | enabled f => exact h.elim
    | disabled => exact ⟨rfl, trivial⟩
  | enabled core since =>
    cases s with
    | disabled => exact h.elim
    | enabled f =>
      obtain ⟨hcore, hsince⟩ := h
      cases shouldRecord
      · simp [SdkCore.InternalFlags.tryUse, InternalFlags.tryUse, CoreView, ← hcore, hsince]
      · simp [SdkCore.InternalFlags.tryUse, InternalFlags.tryUse, CoreView, hcore, ← hsince]

end InternalFlags

end Flags

end SdkCore
