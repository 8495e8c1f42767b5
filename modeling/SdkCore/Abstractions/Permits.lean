import SdkCore.Steps

/-!
# Metered permit dealers

`crates/sdk-core/src/abstractions.rs`. A `MeteredPermitDealer` hands out permits from a slot
supplier. It counts the permits it has handed out and not yet had back (`extant_permits`), and
among them those not yet used (`unused_claimants`). A permit is used at most once, with the
information of the task it was used for (`into_used`); when it is dropped, used or not, the
supplier releases its slot with that information, if there is any.

The supplier is a parameter: its state, and what it does when asked for a slot, when a slot is
used and when one is released. The clones of a dealer share its counters and its supplier and
differ only in `is_sticky_poller`, which the reservation context reports; the model is the
shared state, and each call says which clone it is made on.
-/

namespace SdkCore.Permits

/-- `SlotKindType`. -/
inductive SlotKindType where
  | workflow | activity | localActivity | nexus
  deriving Repr, DecidableEq

/-- `WorkflowSlotInfo`. -/
structure WorkflowSlotInfo where
  workflowType : String
  isSticky : Bool
  deriving Repr, DecidableEq

/-- `SlotInfo`, with the fields of each kind's information. -/
inductive SlotInfo where
  | workflow (info : WorkflowSlotInfo)
  | activity (activityType : String)
  | localActivity (activityType : String)
  | nexus (service operation : String)
  deriving Repr, DecidableEq

/-- What a `SlotReservationContext` tells the supplier. -/
structure SlotReservationContext where
  numIssuedSlots : Nat
  isSticky : Bool
  deriving Repr, DecidableEq

/-- A `SlotSupplier` with state `σ`, under readings `ρ` of what it consults: `try_reserve_slot`,
one pass of the loop of `reserve_slot` (which waits until a pass issues), `mark_slot_used` and
`release_slot`. -/
structure SlotSupplier (σ ρ : Type) where
  tryReserveSlot : σ → SlotReservationContext → ρ → Option σ
  reserveSlot : σ → SlotReservationContext → ρ → Option σ
  markSlotUsed : σ → SlotInfo → σ
  releaseSlot : σ → Option SlotInfo → σ

/-- An `OwnedMeteredSemPermit`: whether it still holds its claim on `unused_claimants`, and the
information it was used with. `viaSticky` records the clone it was acquired through; no code
reads it. -/
structure OwnedMeteredSemPermit where
  unusedClaimant : Bool
  storedInfo : Option SlotInfo
  viaSticky : Bool
  deriving Repr, DecidableEq

/-- What the clones of one dealer share: the supplier's state, the bound on extant permits, the
two counters, and the permits handed out and not yet dropped, in order. -/
structure MeteredPermitDealer (σ : Type) where
  supplier : σ
  maxPermits : Option Nat
  extantPermits : Nat
  unusedClaimants : Nat
  permits : List OwnedMeteredSemPermit
  deriving Repr, DecidableEq

namespace MeteredPermitDealer

variable {σ ρ : Type} (sup : SlotSupplier σ ρ)

/-- `MeteredPermitDealer::new`, with no permit handed out. -/
def new (supplier : σ) (maxPermits : Option Nat) : MeteredPermitDealer σ :=
  { supplier, maxPermits, extantPermits := 0, unusedClaimants := 0, permits := [] }

/-- The reservation context of the clone with `is_sticky_poller = sticky`. -/
def ctx (d : MeteredPermitDealer σ) (sticky : Bool) : SlotReservationContext :=
  { numIssuedSlots := d.extantPermits, isSticky := sticky }

/-- `build_owned`: the supplier has issued the slot. -/
def buildOwned (d : MeteredPermitDealer σ) (supplier : σ) (sticky : Bool) :
    MeteredPermitDealer σ :=
  { d with supplier, extantPermits := d.extantPermits + 1,
           unusedClaimants := d.unusedClaimants + 1,
           permits := d.permits ++ [{ unusedClaimant := true, storedInfo := none,
                                      viaSticky := sticky }] }

/-- `try_acquire_owned` on the clone with `is_sticky_poller = sticky`; `none` is `Err(())`. -/
def tryAcquireOwned (d : MeteredPermitDealer σ) (sticky : Bool) (r : ρ) :
    Option (MeteredPermitDealer σ) :=
  if d.maxPermits.any (· ≤ d.extantPermits) then none
  else (sup.tryReserveSlot d.supplier (d.ctx sticky) r).map (d.buildOwned · sticky)

/-- `acquire_owned`, at the readings under which it returns: the bound has room and a pass of
`reserve_slot` issues; `none` is a call still waiting. -/
def acquireOwned (d : MeteredPermitDealer σ) (sticky : Bool) (r : ρ) :
    Option (MeteredPermitDealer σ) :=
  if d.maxPermits.all (d.extantPermits < ·) then
    (sup.reserveSlot d.supplier (d.ctx sticky) r).map (d.buildOwned · sticky)
  else none

/-- `OwnedMeteredSemPermit::into_used` on the `i`-th permit, which is not yet used. -/
def intoUsed (d : MeteredPermitDealer σ) (i : Nat) (info : SlotInfo) :
    Option (MeteredPermitDealer σ) :=
  match d.permits[i]? with
  | some p =>
    if p.unusedClaimant then
      some { d with supplier := sup.markSlotUsed d.supplier info,
                    unusedClaimants := d.unusedClaimants - 1,
                    permits := d.permits.set i
                      { p with unusedClaimant := false, storedInfo := some info } }
    else none
  | none => none

/-- `Drop for OwnedMeteredSemPermit` on the `i`-th permit: its claim on `unused_claimants` goes,
and `release_fn` releases its slot with its information and decrements `extant_permits`. -/
def dropPermit (d : MeteredPermitDealer σ) (i : Nat) : Option (MeteredPermitDealer σ) :=
  match d.permits[i]? with
  | some p =>
    some { d with supplier := sup.releaseSlot d.supplier p.storedInfo,
                  unusedClaimants :=
                    if p.unusedClaimant then d.unusedClaimants - 1 else d.unusedClaimants,
                  extantPermits := d.extantPermits - 1,
                  permits := d.permits.eraseIdx i }
  | none => none

end MeteredPermitDealer

/-! ## Runs -/

/-- One call on the dealer or on one of its permits, by the permit's place in the list. -/
inductive PermitOp (ρ : Type) where
  | tryAcquireOwned (sticky : Bool) (readings : ρ)
  | acquireOwned (sticky : Bool) (readings : ρ)
  | intoUsed (i : Nat) (info : SlotInfo)
  | drop (i : Nat)
  deriving Repr, DecidableEq

/-- What a call returns that its caller sees. -/
inductive PermitEvent where
  | acquired (sticky : Bool)
  | refused (sticky : Bool)
  | used
  | dropped
  deriving Repr, DecidableEq

open MeteredPermitDealer in
/-- One call. A call of `acquire_owned` that would wait, and a call on a permit that is not
there or is used already, leave the dealer as it is. -/
def step {σ ρ : Type} (sup : SlotSupplier σ ρ) (d : MeteredPermitDealer σ) :
    PermitOp ρ → Except String (MeteredPermitDealer σ × List PermitEvent)
  | .tryAcquireOwned sticky r =>
    match d.tryAcquireOwned sup sticky r with
    | some d => .ok (d, [.acquired sticky])
    | none => .ok (d, [.refused sticky])
  | .acquireOwned sticky r =>
    match d.acquireOwned sup sticky r with
    | some d => .ok (d, [.acquired sticky])
    | none => .ok (d, [])
  | .intoUsed i info =>
    match d.intoUsed sup i info with
    | some d => .ok (d, [.used])
    | none => .ok (d, [])
  | .drop i =>
    match d.dropPermit sup i with
    | some d => .ok (d, [.dropped])
    | none => .ok (d, [])

end SdkCore.Permits
