import CandyRuntime.Lib.Arena
import CandyRuntime.Lib.Proc

/-!
# The pending-control budget

`ControlBudget`, `ControlPermit` and `ControlLease` of `v2/domains.rs`: the admission of control
requests by their number and their bytes, shared by all threads of the daemon.

* The leases live in an arena beside the counters. A lease counts the permits that share it; when
  the last one is dropped, `ControlLease::drop` is still to run.
* A section under the lock is one step. A panic inside a section would poison the lock; a poisoned
  lock refuses every admission, and drops no longer give anything back.
-/

namespace CandyRuntime.NetdV2

open Lib Lib.Proc

/-- The errors of the budget. -/
inductive BudgetError where
  | rejected (code reason : String)
  | resourceBudget (resource : String) (required allowed : ℕ)
deriving DecidableEq, Repr

/-- `DomainBudgets`, as far as the admission of requests reads it. -/
structure DomainBudgets where
  maxPendingControlRequests : ℕ
  maxPendingControlBytes : ℕ
deriving DecidableEq, Repr

/-- `PendingBudget`. -/
structure PendingBudget where
  requests : ℕ
  bytes : ℕ
deriving DecidableEq, Repr

/-- `ControlLease`, with the number of permits that share it. -/
structure ControlLease where
  bytes : ℕ
  permits : ℕ
deriving DecidableEq, Repr

/-- `ControlBudget`, its lock and its leases. -/
structure ControlBudget where
  limits : DomainBudgets
  pending : PendingBudget
  poisoned : Bool
  leases : Arena ControlLease
deriving DecidableEq, Repr

/-- A budget nobody has asked yet. -/
def ControlBudget.new (limits : DomainBudgets) : ControlBudget where
  limits
  pending := { requests := 0, bytes := 0 }
  poisoned := false
  leases := []

/-- A section under the lock, or what leads to one. -/
abbrev Ctl := Proc ControlBudget BudgetError

-- the largest `usize`
variable (usizeMax : ℕ)

/-- `usize::checked_add`. -/
def usizeAdd (a b : ℕ) : Option ℕ := if a + b ≤ usizeMax then some (a + b) else none

/-- `checked_sub`. -/
def checkedSub (a b : ℕ) : Option ℕ := if b ≤ a then some (a - b) else none

/-- `budget`. -/
def budget (resource : String) (required allowed : ℕ) : Ctl Unit :=
  ensure (required ≤ allowed) (.resourceBudget resource required allowed)

/-- `self.pending.lock()`. -/
def lockPending : Ctl ControlBudget := do
  let g ← get
  ensure (g.poisoned = false)
    (.rejected "domain_control_budget_unavailable" "control admission state is unavailable")
  return g

def bytesOverflow : BudgetError :=
  .rejected "domain_control_budget_invalid" "control bytes overflow"

/-- `ControlBudget::reserve`. The value is the cell of the new lease. -/
def ControlBudget.reserve (bytes : ℕ) : Ctl ℕ := do
  let g ← lockPending
  let requests ← okOr (usizeAdd usizeMax g.pending.requests 1)
    (.rejected "domain_control_budget_invalid" "control count overflow")
  let totalBytes ← okOr (usizeAdd usizeMax g.pending.bytes bytes) bytesOverflow
  budget "pending_control_requests" requests g.limits.maxPendingControlRequests
  budget "pending_control_bytes" totalBytes g.limits.maxPendingControlBytes
  modify fun g => { g with
    pending := { requests, bytes := totalBytes }
    leases := g.leases.alloc { bytes, permits := 1 } }
  return g.leases.length

/-- `ControlPermit::resize`, by a permit of the lease. -/
def ControlPermit.resize (i : ℕ) (lease : ControlLease) (bytes : ℕ) : Ctl Unit := do
  let g ← lockPending
  let total ← okOr ((checkedSub g.pending.bytes lease.bytes).bind (usizeAdd usizeMax · bytes))
    bytesOverflow
  budget "pending_control_bytes" total g.limits.maxPendingControlBytes
  modify fun g => { g with
    pending := { g.pending with bytes := total }
    leases := g.leases.write i { lease with bytes } }

/-- `ControlPermit::clone`. -/
def ControlPermit.clone (i : ℕ) (lease : ControlLease) : Ctl Unit :=
  modify fun g => { g with leases := g.leases.write i { lease with permits := lease.permits + 1 } }

/-- A permit goes out of scope. -/
def ControlPermit.drop (i : ℕ) (lease : ControlLease) : Ctl Unit :=
  modify fun g => { g with leases := g.leases.write i { lease with permits := lease.permits - 1 } }

/-- A subtraction in place; on underflow the thread panics and the lock is poisoned. -/
def subtract (b : ℕ) (a : ControlBudget → ℕ) (f : ℕ → ControlBudget → ControlBudget) : Ctl Unit :=
  fun g =>
    match checkedSub (a g) b with
    | some rest => (.ok (), f rest g)
    | none => (.crash, { g with poisoned := true })

/-- `ControlLease::drop`, when no permit shares the lease any more. -/
def ControlLease.drop (i : ℕ) (lease : ControlLease) : Ctl Unit := do
  modify fun g => { g with leases := g.leases.free i }
  when ((← get).poisoned = false) do
    subtract 1 (·.pending.requests) fun requests g =>
      { g with pending := { g.pending with requests } }
    subtract lease.bytes (·.pending.bytes) fun bytes g =>
      { g with pending := { g.pending with bytes } }

/-! ## Interleavings -/

/-- What a thread does next. -/
inductive ControlStep where
  | reserve (bytes : ℕ)
  | clone (i : ℕ)
  | resize (i bytes : ℕ)
  | drop (i : ℕ)
  | release (i : ℕ)
deriving DecidableEq, Repr

/-- The lease in the cell, while a permit shares it. -/
def ControlBudget.held (g : ControlBudget) (i : ℕ) : Option ControlLease :=
  (g.leases.get i).filter fun lease => decide (0 < lease.permits)

/-- The lease in the cell, when no permit shares it. -/
def ControlBudget.abandoned (g : ControlBudget) (i : ℕ) : Option ControlLease :=
  (g.leases.get i).filter fun lease => decide (lease.permits = 0)

/-- Only a thread that holds a permit clones, resizes or drops it, and a lease is dropped once,
after its last permit. Other steps are not possible, and change nothing here. -/
def ControlBudget.step (g : ControlBudget) : ControlStep → ControlBudget
  | .reserve bytes => (reserve usizeMax bytes g).2
  | .clone i => match g.held i with
    | some lease => (ControlPermit.clone i lease g).2
    | none => g
  | .resize i bytes => match g.held i with
    | some lease => (ControlPermit.resize usizeMax i lease bytes g).2
    | none => g
  | .drop i => match g.held i with
    | some lease => (ControlPermit.drop i lease g).2
    | none => g
  | .release i => match g.abandoned i with
    | some lease => (ControlLease.drop i lease g).2
    | none => g

end CandyRuntime.NetdV2
