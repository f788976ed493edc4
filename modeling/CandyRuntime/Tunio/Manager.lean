import CandyRuntime.NetdProto.Types

/-!
# The packet-port manager

`run_managed_packet_port_bridge` keeps one physical packet device and at most one owner of it.
An owner transaction is prepared beside the owner, and its commit replaces the owner at one
point. This module has the state of that loop, the changes it takes from its queue, the receipt
it answers with, and what happens to the state without any request. The packets themselves are
not modelled; that some are still queued is read from the circumstances of a change.
-/

namespace CandyRuntime.Tunio

open NetdProto

/-! ## Bindings and clocks -/

/-- `PacketPortBinding`. -/
structure PacketPortBinding where
  infrastructureId : InstanceId
  routingDomainId : InstanceId
  infrastructureGeneration : ℕ
  ioEpoch : ℕ
  ownerEpoch : ℕ
  policyGeneration : ℕ
deriving DecidableEq, Repr

/-- `infrastructure_matches`, and `matches_infrastructure` of a port in its infrastructure
role. -/
def infrastructureMatches (a b : PacketPortBinding) : Bool :=
  a.infrastructureId = b.infrastructureId && a.routingDomainId = b.routingDomainId
    && a.infrastructureGeneration = b.infrastructureGeneration && a.ioEpoch = b.ioEpoch

/-- What the clocks show: the `Instant` of the process in nanoseconds, `CLOCK_BOOTTIME` in
milliseconds and the wall clock in nanoseconds since the epoch. The last two can be
unreadable. -/
structure Clock where
  instant : ℕ
  monotonicMs : Option ℕ
  wall : Option ℕ
deriving DecidableEq, Repr

/-- One `deadline_check`. -/
structure DeadlineCheck where
  cap : ℕ
  wallCap : ℕ
deriving DecidableEq, Repr

def DeadlineCheck.passes (d : DeadlineCheck) (clock : Clock) : Bool :=
  clock.monotonicMs.any (· < d.cap) && clock.wall.any (· < d.wallCap)

/-- `AuthorizationCheck`: the deadline checks a closure runs, one after the other. -/
abbrev AuthorizationCheck := List DeadlineCheck

def authorized (check : AuthorizationCheck) (clock : Clock) : Bool := check.all (·.passes clock)

/-! ## Transactions -/

/-- `OwnerTransaction`. -/
structure OwnerTransaction where
  transactionId : InstanceId
  revision : ℕ
  expectedActiveEpoch : Option ℕ
  binding : PacketPortBinding
  authDeadline : ℕ
  prepareDeadline : ℕ
deriving DecidableEq, Repr

/-- `OwnerTransactionPhase`. -/
inductive OwnerTransactionPhase where
  | prepared
  | committed
  | aborted
  | expired
deriving DecidableEq, Repr

/-- `OwnerTransactionReceipt`. -/
structure OwnerTransactionReceipt where
  transaction : OwnerTransaction
  phase : OwnerTransactionPhase
deriving DecidableEq, Repr

/-- The owner of the packet device, as far as decisions depend on it. -/
structure Owner where
  binding : PacketPortBinding
  authDeadline : ℕ
deriving DecidableEq, Repr

/-- `PendingOwner`. -/
structure PendingOwner where
  transaction : OwnerTransaction
  authorization : AuthorizationCheck
deriving DecidableEq, Repr

/-- The local variables of `run_packet_port_bridge_inner`. -/
structure Bridge where
  infrastructure : PacketPortBinding
  owner : Option Owner
  retained : Option Owner
  oldOwnerDrained : Bool
  forcedRetirement : Bool
  pending : Option PendingOwner
  lastTransaction : Option OwnerTransactionReceipt
  highestTransactionRevision : ℕ
  highestOwnerEpoch : ℕ
  highestPolicyGeneration : ℕ
deriving DecidableEq, Repr

/-- `PacketPortReceipt`. -/
structure PacketPortReceipt where
  binding : Option PacketPortBinding
  authDeadline : Option ℕ
  ownerEpoch : ℕ
  policyGeneration : ℕ
  pending : Option OwnerTransactionReceipt
  lastTransaction : Option OwnerTransactionReceipt
  highestTransactionRevision : ℕ
  retainedOwnerBinding : Option PacketPortBinding
  oldOwnerDrained : Bool
  forcedRetirement : Bool
deriving DecidableEq, Repr

namespace Bridge

/-- `receipt`. -/
def receipt (b : Bridge) : PacketPortReceipt where
  binding := b.owner.map (·.binding)
  authDeadline := b.owner.map (·.authDeadline)
  ownerEpoch := b.highestOwnerEpoch
  policyGeneration := b.highestPolicyGeneration
  pending := b.pending.map fun p => ⟨p.transaction, .prepared⟩
  lastTransaction := b.lastTransaction
  highestTransactionRevision := b.highestTransactionRevision
  retainedOwnerBinding := b.retained.map (·.binding)
  oldOwnerDrained := b.oldOwnerDrained
  forcedRetirement := b.forcedRetirement

/-- `active_epoch`. -/
def activeEpoch (b : Bridge) : Option ℕ := b.owner.map (·.binding.ownerEpoch)

/-- The manager holds this transaction as its candidate. -/
def isPending (b : Bridge) (t : OwnerTransaction) : Bool := b.pending.any (·.transaction = t)

/-- The last transaction that ended is this one, and it ended so. -/
def endedAs (b : Bridge) (t : OwnerTransaction) (phase : OwnerTransactionPhase) : Bool :=
  b.lastTransaction.any fun last => last.transaction = t && last.phase = phase

end Bridge

/-! ## Changes -/

/-- `PacketPortOwnerChange`, less the renewal nobody asks for. A port is its binding. -/
inductive OwnerChange where
  | prepareOwner (transaction : OwnerTransaction) (port : PacketPortBinding)
      (authorization : AuthorizationCheck)
  | commitOwner (transaction : OwnerTransaction)
  | finishOwnerDrain (transaction : OwnerTransaction)
  | retireOwnerAfterFailure (transaction : OwnerTransaction)
  | abortOwner (transaction : OwnerTransaction)
  | probeTransaction (transactionId : InstanceId) (revision : ℕ)
  | attach (port : PacketPortBinding) (authDeadline : ℕ) (authorization : AuthorizationCheck)
  | revoke (ownerEpoch : ℕ)
  | probe
deriving DecidableEq, Repr

/-- What a change meets besides the state of the loop: the clocks, eight or more writers still
being stopped, packets still queued for the worker of the owner, and the answer of the drain
probe. -/
structure Circumstance where
  clock : Clock
  cleanupBusy : Bool
  outboundPending : Bool
  drained : Option Bool
deriving DecidableEq, Repr

/-- What a change is answered with, and the state it leaves. -/
abbrev Applied := Except String Unit × Bridge

/-- The longest time a candidate stays prepared, in nanoseconds. -/
def prepareLimit : ℕ := 30000000000

namespace Bridge

variable (c : Circumstance) (b : Bridge)

/-- `PrepareOwner`. -/
def prepareOwner (t : OwnerTransaction) (port : PacketPortBinding)
    (authorization : AuthorizationCheck) : Applied :=
  let now := c.clock.instant
  let duplicate := b.isPending t || b.endedAs t .committed
  let identityConflict :=
    b.pending.any (fun p => p.transaction.transactionId = t.transactionId && p.transaction ≠ t)
      || b.lastTransaction.any fun last =>
        last.transaction.transactionId = t.transactionId && last.transaction ≠ t
  if !infrastructureMatches port b.infrastructure || port ≠ t.binding || identityConflict then
    (.error "code=owner_prepare_identity_mismatch", b)
  else if duplicate then (.ok (), b)
  else if t.transactionId = InstanceId.zero ∨ t.revision = 0 then
    (.error "code=owner_prepare_invalid_identity", b)
  else if t.revision ≤ b.highestTransactionRevision then
    (.error "code=owner_prepare_stale_revision", b)
  else if c.cleanupBusy then (.error "code=owner_prepare_cleanup_busy", b)
  else if b.pending.isSome then (.error "code=owner_prepare_capacity", b)
  else if b.retained.isSome then (.error "code=owner_prepare_drain_pending", b)
  else if b.activeEpoch ≠ t.expectedActiveEpoch then
    (.error "code=owner_prepare_active_changed", b)
  else if t.binding.ownerEpoch ≤ b.highestOwnerEpoch
      ∨ t.binding.policyGeneration < b.highestPolicyGeneration then
    (.error "code=owner_prepare_stale_epoch", b)
  else if t.prepareDeadline ≤ now ∨ t.authDeadline ≤ now ∨ t.authDeadline < t.prepareDeadline
      ∨ prepareLimit < t.prepareDeadline - now then
    (.error "code=owner_prepare_invalid_deadline", b)
  else if !authorized authorization c.clock then (.error "code=owner_prepare_unauthorized", b)
  else
    (.ok (), { b with
      highestTransactionRevision := t.revision
      pending := some ⟨t, authorization⟩ })

/-- `CommitOwner`. The swap of the owners is one step of the loop. -/
def commitOwner (t : OwnerTransaction) : Applied :=
  let now := c.clock.instant
  if b.endedAs t .committed then (.ok (), b)
  else match b.pending.filter (·.transaction = t) with
  | none => (.error "code=owner_commit_not_prepared", b)
  | some candidate =>
    if c.cleanupBusy then (.error "code=owner_commit_cleanup_busy", b)
    else if b.activeEpoch ≠ t.expectedActiveEpoch ∨ t.binding.ownerEpoch ≤ b.highestOwnerEpoch
        ∨ t.binding.policyGeneration < b.highestPolicyGeneration then
      (.error "code=owner_commit_active_changed", b)
    else if t.authDeadline ≤ now ∨ t.prepareDeadline ≤ now then
      (.error "code=owner_commit_expired", b)
    else if !authorized candidate.authorization c.clock then
      (.error "code=owner_commit_unauthorized", b)
    else if b.owner.isSome && c.outboundPending then
      (.error "code=owner_commit_queue_pending", b)
    else
      (.ok (), { b with
        pending := none
        forcedRetirement := false
        -- Without an owner before, there is nothing to drain.
        oldOwnerDrained := b.owner.isNone
        retained := b.owner.or b.retained
        highestOwnerEpoch := t.binding.ownerEpoch
        highestPolicyGeneration := t.binding.policyGeneration
        owner := some ⟨t.binding, t.authDeadline⟩
        lastTransaction := some ⟨t, .committed⟩ })

/-- `FinishOwnerDrain`. -/
def finishOwnerDrain (t : OwnerTransaction) : Applied :=
  if !b.endedAs t .committed then (.error "code=owner_drain_not_committed", b)
  else if b.forcedRetirement then (.error "code=owner_drain_forced_retirement", b)
  else if b.retained.isSome then
    match c.drained with
    | some true => (.ok (), { b with retained := none, oldOwnerDrained := true })
    | some false => (.error "code=owner_drain_queue_pending", b)
    | none => (.error "code=owner_drain_probe_failed", b)
  else (.ok (), { b with oldOwnerDrained := true })

/-- `RetireOwnerAfterFailure`. -/
def retireOwnerAfterFailure (t : OwnerTransaction) : Applied :=
  if !b.endedAs t .committed || b.owner.all (·.binding ≠ t.binding) then
    (.error "code=owner_failure_retirement_not_committed", b)
  else if c.clock.instant < t.prepareDeadline then
    (.error "code=owner_failure_retirement_unexpired", b)
  else if b.oldOwnerDrained && b.retained.isNone && !b.forcedRetirement then
    (.error "code=owner_failure_retirement_already_drained", b)
  else (.ok (), { b with retained := none, forcedRetirement := true, oldOwnerDrained := false })

/-- `AbortOwner`. -/
def abortOwner (t : OwnerTransaction) : Applied :=
  if b.isPending t then
    (.ok (), { b with pending := none, lastTransaction := some ⟨t, .aborted⟩ })
  else if b.endedAs t .aborted || b.endedAs t .expired then (.ok (), b)
  else if b.endedAs t .committed then (.error "code=owner_transaction_committed", b)
  else (.error "code=owner_abort_not_prepared", b)

/-- `ProbeTransaction`. -/
def probeTransaction (transactionId : InstanceId) (revision : ℕ) : Applied :=
  let named (t : OwnerTransaction) : Bool :=
    t.transactionId = transactionId && t.revision = revision
  if b.pending.any (fun p => named p.transaction)
      || b.lastTransaction.any fun last => named last.transaction then (.ok (), b)
  else (.error "code=owner_transaction_unknown", b)

/-- `Attach` and `AttachAuthorized`; without an authorization there is nothing to check. -/
def attach (port : PacketPortBinding) (authDeadline : ℕ) (authorization : AuthorizationCheck) :
    Applied :=
  if !infrastructureMatches port b.infrastructure then
    (.error "packet port infrastructure or domain identity mismatch", b)
  else if c.cleanupBusy then (.error "code=owner_attach_cleanup_busy", b)
  else if b.retained.isSome then (.error "code=owner_attach_drain_pending", b)
  else if !authorized authorization c.clock || authDeadline ≤ c.clock.instant
      || port.ownerEpoch ≤ b.highestOwnerEpoch
      || port.policyGeneration < b.highestPolicyGeneration then
    (.error "expired authorization or stale owner/policy epoch", b)
  else
    (.ok (), { b with
      highestOwnerEpoch := port.ownerEpoch
      highestPolicyGeneration := port.policyGeneration
      owner := some ⟨port, authDeadline⟩ })

/-- `retained.take()` with its forced retirement. -/
def forceRetained : Bridge :=
  { b with retained := none, forcedRetirement := true, oldOwnerDrained := false }

/-- `Revoke`. -/
def revoke (ownerEpoch : ℕ) : Applied :=
  if ownerEpoch ≠ b.highestOwnerEpoch then (.error "revocation refers to stale owner epoch", b)
  else if b.retained.isSome then (.ok (), { b.forceRetained with owner := none })
  else (.ok (), { b with owner := none })

/-- One change taken from the queue. -/
def apply : OwnerChange → Applied
  | .prepareOwner t port authorization => b.prepareOwner c t port authorization
  | .commitOwner t => b.commitOwner c t
  | .finishOwnerDrain t => b.finishOwnerDrain c t
  | .retireOwnerAfterFailure t => b.retireOwnerAfterFailure c t
  | .abortOwner t => b.abortOwner t
  | .probeTransaction transactionId revision => b.probeTransaction transactionId revision
  | .attach port authDeadline authorization => b.attach c port authDeadline authorization
  | .revoke ownerEpoch => b.revoke ownerEpoch
  | .probe => (.ok (), b)

end Bridge

/-! ## What happens without a request -/

/-- The arms of the loop that need no request: deadlines that pass at an instant, and writers,
readers or peers that fail. -/
inductive Happening where
  | ownerExpired (now : ℕ)
  | ownerFailed
  | retainedExpired (now : ℕ)
  | retainedFailed
  | pendingExpired (now : ℕ)
  | pendingFailed
deriving DecidableEq, Repr

namespace Bridge

/-- The candidate ends in a phase of its own. -/
def endPending (b : Bridge) (phase : OwnerTransactionPhase) : Bridge :=
  match b.pending with
  | none => b
  | some p => { b with pending := none, lastTransaction := some ⟨p.transaction, phase⟩ }

/-- One arm of the loop; a deadline that has not passed changes nothing. -/
def happens (b : Bridge) : Happening → Bridge
  | .ownerExpired now =>
    if b.owner.any (·.authDeadline ≤ now) then { b with owner := none } else b
  | .ownerFailed => { b with owner := none }
  | .retainedExpired now =>
    if b.retained.any (·.authDeadline ≤ now) then b.forceRetained else b
  | .retainedFailed => if b.retained.isSome then b.forceRetained else b
  | .pendingExpired now =>
    if b.pending.any fun p => min p.transaction.prepareDeadline p.transaction.authDeadline ≤ now
    then b.endPending .expired else b
  | .pendingFailed => b.endPending .aborted

/-- The bridge before its first change. -/
def fresh (infrastructure : PacketPortBinding) : Bridge where
  infrastructure
  owner := none
  retained := none
  oldOwnerDrained := true
  forcedRetirement := false
  pending := none
  lastTransaction := none
  highestTransactionRevision := 0
  highestOwnerEpoch := 0
  highestPolicyGeneration := 0

end Bridge

end CandyRuntime.Tunio
