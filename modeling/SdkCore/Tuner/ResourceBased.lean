import SdkCore.Abstractions.Permits

/-!
# Resource-based slots

`crates/sdk-core/src/worker/tuner/resource_based.rs`. `ResourceBasedSlotsForType` issues a slot
when fewer than `min_slots` are extant, and, for workflow slots, when none is issued for the
kind of poller asking (sticky or not), so that neither poller starves; otherwise only when the
ramp throttle has passed, fewer than `max_slots` are extant and the resource controller agrees.
For workflow slots it counts the slots issued to each kind of poller, adding on issue by the
kind of the reservation context and subtracting on release by the `is_sticky` of the slot's
information, if the slot has any.

A permit dropped without being used has no information, so its release subtracts nothing. After
a non-sticky permit comes back unused, `issued_nonsticky` stays at one with no non-sticky permit
extant, and once `min_slots` permits of the sticky poller are extant the non-sticky poller gets no
slot while resources are short (`run_droppedUnused`).
-/

namespace SdkCore.ResourceBased

open Permits

/-- `ResourceSlotOptions`; the ramp throttle is read as whether it has passed. -/
structure ResourceSlotOptions where
  minSlots : Nat
  maxSlots : Nat
  deriving Repr, DecidableEq

/-- `DEFAULT_WF_SLOT_OPTS`. -/
def defaultWfSlotOpts : ResourceSlotOptions := { minSlots := 2, maxSlots := 10000 }

/-- What `try_reserve_slot` reads off the clock and the `ResourceController`: whether the ramp
throttle has passed since the last slot was issued, `pid_decision` and `can_reserve`. -/
structure ResourceReadings where
  rampThrottlePassed : Bool
  pidDecision : Bool
  canReserve : Bool
  deriving Repr, DecidableEq

/-- `ResourceBasedSlotsForType`; the two counters are `AtomicUsize`s. -/
structure ResourceBasedSlotsForType where
  kind : SlotKindType
  opts : ResourceSlotOptions
  issuedNonsticky : UInt64
  issuedSticky : UInt64
  deriving Repr, DecidableEq

namespace ResourceBasedSlotsForType

/-- `ResourceBasedSlotsForType::new`. -/
def new (kind : SlotKindType) (opts : ResourceSlotOptions) : ResourceBasedSlotsForType :=
  { kind, opts, issuedNonsticky := 0, issuedSticky := 0 }

/-- `issue_slot`. -/
def issueSlot (S : ResourceBasedSlotsForType) (ctx : SlotReservationContext) :
    ResourceBasedSlotsForType :=
  if S.kind = .workflow then
    if ctx.isSticky then { S with issuedSticky := S.issuedSticky + 1 }
    else { S with issuedNonsticky := S.issuedNonsticky + 1 }
  else S

/-- `issue_if_below_minimums`. -/
def issueIfBelowMinimums (S : ResourceBasedSlotsForType) (ctx : SlotReservationContext) :
    Option ResourceBasedSlotsForType :=
  if ctx.numIssuedSlots < S.opts.minSlots then some (S.issueSlot ctx)
  else if S.kind = .workflow ∧
      (ctx.isSticky ∧ S.issuedSticky = 0 ∨ ¬ctx.isSticky ∧ S.issuedNonsticky = 0) then
    some (S.issueSlot ctx)
  else none

/-- `try_reserve_slot`. -/
def tryReserveSlot (S : ResourceBasedSlotsForType) (ctx : SlotReservationContext)
    (r : ResourceReadings) : Option ResourceBasedSlotsForType :=
  match S.issueIfBelowMinimums ctx with
  | some S' => some S'
  | none =>
    if r.rampThrottlePassed ∧ ctx.numIssuedSlots < S.opts.maxSlots ∧ r.pidDecision ∧
        r.canReserve then
      some (S.issueSlot ctx)
    else none

/-- One pass of the loop of `reserve_slot`: the minimums, then, after waiting out the ramp
throttle, `try_reserve_slot`. -/
def reserveSlot (S : ResourceBasedSlotsForType) (ctx : SlotReservationContext)
    (r : ResourceReadings) : Option ResourceBasedSlotsForType :=
  match S.issueIfBelowMinimums ctx with
  | some S' => some S'
  | none => S.tryReserveSlot ctx r

/-- `release_slot`: only a workflow slot with information is counted back. -/
def releaseSlot (S : ResourceBasedSlotsForType) : Option SlotInfo → ResourceBasedSlotsForType
  | some (.workflow info) =>
    if info.isSticky then { S with issuedSticky := S.issuedSticky - 1 }
    else { S with issuedNonsticky := S.issuedNonsticky - 1 }
  | _ => S

/-- The supplier; `mark_slot_used` does nothing. -/
def supplier : SlotSupplier ResourceBasedSlotsForType ResourceReadings :=
  { tryReserveSlot, reserveSlot, markSlotUsed := fun S _ => S, releaseSlot }

end ResourceBasedSlotsForType

/-- The `WorkflowSlotInfo` that `WFTExtractor` builds for a polled task: `is_sticky` is whether the
history it prepared is incremental. -/
def wftSlotInfo (workflowType : String) (isIncremental : Bool) : SlotInfo :=
  .workflow { workflowType, isSticky := isIncremental }

/-! ## A permit dropped unused -/

open ResourceBasedSlotsForType

/-- Memory over target: the controller gives no slot beyond the minimums. -/
def overTarget : ResourceReadings :=
  { rampThrottlePassed := true, pidDecision := false, canReserve := false }

/-- The workflow slot dealer of a worker caching ten workflows, before any poll. -/
def wftSlots : MeteredPermitDealer ResourceBasedSlotsForType :=
  .new (.new .workflow defaultWfSlotOpts) (some 10)

/-- The non-sticky poller's permit comes back from an empty poll, the sticky poller takes two
permits, and the non-sticky poller asks again. -/
def droppedUnusedInputs : List (PermitOp ResourceReadings) :=
  [.tryAcquireOwned false overTarget, .drop 0, .tryAcquireOwned true overTarget,
   .tryAcquireOwned true overTarget, .tryAcquireOwned false overTarget]

/-- With no non-sticky permit extant, `issued_nonsticky` is one, and the non-sticky poller is
refused a slot. -/
theorem run_droppedUnused :
    ∃ d, Steps.run (step supplier) wftSlots droppedUnusedInputs =
        .ok (d, [.acquired false, .dropped, .acquired true, .acquired true, .refused false]) ∧
      d.supplier.issuedNonsticky = 1 ∧ d.permits.filter (fun p => !p.viaSticky) = [] ∧
      d.supplier.tryReserveSlot (d.ctx false) overTarget = none :=
  ⟨_, rfl, rfl, rfl, rfl⟩

end SdkCore.ResourceBased
