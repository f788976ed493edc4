import CandyRuntime.Lib.Proc
import CandyRuntime.NetdV2.Protocol
import CandyRuntime.Tunio.Manager

/-!
# The state of the authority server

The records `authority_control.rs` and `control.rs` keep, the requests of the authority
endpoint and its replies, and the calls a request makes: readings of clocks and processes,
files that may not be writable, and exchanges with the manager. What such a call meets is a
`Moment`, and the server works through a fixed stream of them.
-/

namespace CandyRuntime.Tunio

open Lib Lib.Proc NetdProto NetdV2

/-! ## Records -/

/-- `ProcessIdentity`. -/
structure ProcessIdentity where
  pid : UInt32
  startTicks : ℕ
deriving DecidableEq, Repr

/-- `AuthorityEnvelope`. -/
structure AuthorityEnvelope where
  transactionId : String
  authorityRevision : ℕ
  binding : PacketPortBinding
  candidate : ProcessIdentity
  controller : ProcessIdentity
  controllerEpoch : ℕ
  signedControlHash : String
  declarationHash : String
  verificationReportHash : String
  snapshotClosureHash : String
  signedMinExpiryUnix : ℕ
  effectiveExpiryUnix : ℕ
  verifiedAtUnix : ℕ
  verifiedAtMonoMs : ℕ
  effectiveDeadlineMonoMs : ℕ
  bootId : String
deriving DecidableEq, Repr

/-- `OwnerAuthority`. -/
structure OwnerAuthority where
  envelope : AuthorityEnvelope
  transaction : OwnerTransaction
  expectedActiveBinding : Option PacketPortBinding
  requestedPrepareDeadlineMonoMs : ℕ
  prepared : Bool
deriving DecidableEq, Repr

/-- `AuthorityOwnerReceipt`; the phase is not spelled out as a text. -/
structure AuthorityOwnerReceipt where
  transactionId : String
  authorityRevision : ℕ
  phase : OwnerTransactionPhase
  binding : PacketPortBinding
  expectedActiveEpoch : Option ℕ
  authorizationCapMonoMs : ℕ
  requestedPrepareDeadlineMonoMs : ℕ
deriving DecidableEq, Repr

/-- `OwnerAuthority::receipt`. -/
def OwnerAuthority.receipt (r : OwnerAuthority) (phase : OwnerTransactionPhase) :
    AuthorityOwnerReceipt where
  transactionId := r.envelope.transactionId
  authorityRevision := r.transaction.revision
  phase
  binding := r.transaction.binding
  expectedActiveEpoch := r.transaction.expectedActiveEpoch
  authorizationCapMonoMs := r.envelope.effectiveDeadlineMonoMs
  requestedPrepareDeadlineMonoMs := r.requestedPrepareDeadlineMonoMs

/-- `AuthorityState`. -/
structure AuthorityState where
  highestRevision : ℕ
  highestPolicyGeneration : ℕ
  highestOwnerEpoch : ℕ
  pending : Option AuthorityEnvelope
  active : Option AuthorityEnvelope
  actualDeadlineMonoMs : Option ℕ
  actualOwnerBinding : Option PacketPortBinding
  ownerHighestRevision : ℕ
  ownerPending : Option AuthorityOwnerReceipt
  ownerLastTransaction : Option AuthorityOwnerReceipt
  ownerCandidate : Option OwnerAuthority
  ownerTerminal : Option (OwnerAuthority × OwnerTransactionPhase)
  retainedOwnerBinding : Option PacketPortBinding
  oldOwnerDrained : Bool
  forcedRetirement : Bool
  precommitCancelled : Option AuthorityEnvelope
  isolatedCommitted : Option AuthorityEnvelope
  retiredExpiredCommit : Option AuthorityEnvelope
deriving DecidableEq, Repr

/-- `AuthorityState::default`. -/
def AuthorityState.default : AuthorityState where
  highestRevision := 0
  highestPolicyGeneration := 0
  highestOwnerEpoch := 0
  pending := none
  active := none
  actualDeadlineMonoMs := none
  actualOwnerBinding := none
  ownerHighestRevision := 0
  ownerPending := none
  ownerLastTransaction := none
  ownerCandidate := none
  ownerTerminal := none
  retainedOwnerBinding := none
  oldOwnerDrained := false
  forcedRetirement := false
  precommitCancelled := none
  isolatedCommitted := none
  retiredExpiredCommit := none

/-- `Controller`, with the digest of its token. -/
structure Controller where
  process : ProcessIdentity
  controller : ProcessIdentity
  epoch : ℕ
  tokenSha256 : String
  authDeadlineUnix : ℕ
  binding : PacketPortBinding
  ownerActive : Bool
  registered : Bool
  authority : AuthorityState
deriving DecidableEq, Repr

/-! ## Requests and replies -/

/-- `AuthorityOperation`. -/
inductive AuthorityOperation where
  | stageAuthority
  | probeTransaction
  | attachAuthorized
  | revokeExact
  | discardAuthority
  | prepareOwner (expectedActiveEpoch : Option ℕ) (prepareDeadlineMonoMs : ℕ)
  | commitOwner
  | finishOwnerDrain
  | retireOwnerAfterFailure
  | abortOwner
  | recoverPrecommit (expectedActive : PacketPortBinding)
  | isolateCommittedOwner (expectedActive : PacketPortBinding)
  | retireExpiredCommit (expectedActive : PacketPortBinding)
deriving DecidableEq, Repr

/-- `needs_descriptor`. -/
def AuthorityOperation.needsDescriptor : AuthorityOperation → Bool
  | .attachAuthorized | .prepareOwner .. => true
  | _ => false

/-- The operations of owner transactions, which only schema 3 has. -/
def AuthorityOperation.isOwnerTransaction : AuthorityOperation → Bool
  | .prepareOwner .. | .commitOwner | .finishOwnerDrain | .retireOwnerAfterFailure | .abortOwner
  | .recoverPrecommit _ | .isolateCommittedOwner _ | .retireExpiredCommit _ => true
  | _ => false

/-- The operations whose status has to reach the disk. -/
def AuthorityOperation.needsSync : AuthorityOperation → Bool
  | .recoverPrecommit _ | .isolateCommittedOwner _ | .retireExpiredCommit _ => true
  | _ => false

/-- `AuthorityControlRequest`. -/
structure AuthorityControlRequest where
  schemaVersion : ℕ
  process : ProcessIdentity
  controller : ProcessIdentity
  controllerEpoch : ℕ
  tokenSha256 : String
  nonce : String
  operation : AuthorityOperation
  envelope : Option AuthorityEnvelope
  transactionId : String
deriving DecidableEq, Repr

/-- `AuthorityControlResponse`, less its texts. -/
structure AuthorityControlResponse where
  schemaVersion : ℕ
  process : ProcessIdentity
  controller : ProcessIdentity
  controllerEpoch : ℕ
  nonce : String
  accepted : Bool
  active : Option AuthorityEnvelope
  pending : Option AuthorityEnvelope
  highestRevision : ℕ
  highestOwnerEpoch : ℕ
  highestPolicyGeneration : ℕ
  appliedTransactionId : Option String
  authorityRevision : Option ℕ
  currentBinding : PacketPortBinding
  authDeadlineUnix : ℕ
  ownerActive : Bool
  actualDeadlineMonoMs : Option ℕ
  ownerTransaction : Option AuthorityOwnerReceipt
  actualOwnerBinding : Option PacketPortBinding
  ownerHighestRevision : Option ℕ
  retainedOwnerBinding : Option PacketPortBinding
  oldOwnerDrained : Bool
  forcedRetirement : Bool
  precommitCancelled : Option AuthorityEnvelope
  isolatedCommitted : Option AuthorityEnvelope
  retiredExpiredCommit : Option AuthorityEnvelope
deriving DecidableEq, Repr

/-- `owner_receipt`. -/
def ownerReceipt (s : AuthorityState) (transactionId : String) : Option AuthorityOwnerReceipt :=
  match s.ownerCandidate.filter
    fun r => r.prepared && r.envelope.transactionId = transactionId with
  | some r => some (r.receipt .prepared)
  | none => (s.ownerTerminal.filter (·.1.envelope.transactionId = transactionId)).map
      fun (r, phase) => r.receipt phase

/-- `owner_record`. -/
def ownerRecord (s : AuthorityState) (transactionId : String) : Option OwnerAuthority :=
  (s.ownerCandidate.filter (·.envelope.transactionId = transactionId)).or
    ((s.ownerTerminal.map (·.1)).filter (·.envelope.transactionId = transactionId))

/-- The reply `start` builds after `apply_request`. -/
def responseOf (c : Controller) (request : AuthorityControlRequest) (accepted : Bool) :
    AuthorityControlResponse :=
  let s := c.authority
  let three := request.schemaVersion = 3
  let own (e : Option AuthorityEnvelope) : Option AuthorityEnvelope :=
    if three then e.filter (·.transactionId = request.transactionId) else none
  { schemaVersion := request.schemaVersion
    process := c.process
    controller := c.controller
    controllerEpoch := c.epoch
    nonce := request.nonce
    accepted
    active := s.active
    pending := s.pending
    highestRevision := s.highestRevision
    highestOwnerEpoch := s.highestOwnerEpoch
    highestPolicyGeneration := s.highestPolicyGeneration
    appliedTransactionId := s.active.map (·.transactionId)
    authorityRevision := s.active.map (·.authorityRevision)
    currentBinding := c.binding
    authDeadlineUnix := c.authDeadlineUnix
    ownerActive := c.ownerActive
    actualDeadlineMonoMs := s.actualDeadlineMonoMs
    ownerTransaction := if three then ownerReceipt s request.transactionId else none
    actualOwnerBinding := if three then s.actualOwnerBinding else none
    ownerHighestRevision := if three then some s.ownerHighestRevision else none
    retainedOwnerBinding := if three then s.retainedOwnerBinding else none
    oldOwnerDrained := three && s.oldOwnerDrained
    forcedRetirement := three && s.forcedRetirement
    precommitCancelled := own s.precommitCancelled
    isolatedCommitted := own s.isolatedCommitted
    retiredExpiredCommit := own s.retiredExpiredCommit }

/-! ## The world of a request -/

/-- What `boot_deadline_guard` has read of the state before it asks for a revocation. -/
structure Snapshot where
  active : Option AuthorityEnvelope
  binding : PacketPortBinding
deriving DecidableEq, Repr

/-- Where `boot_deadline_guard` stands: between two ticks, with a revocation in the queue, or
with an acknowledged one. -/
inductive Guard where
  | idle
  | asked (seen : Snapshot)
  | acknowledged (seen : Snapshot)
deriving DecidableEq, Repr

/-- What the bootstrap left to the endpoints: the first binding, its deadlines and its cap. -/
structure Origin where
  binding : PacketPortBinding
  deadlineUnix : ℕ
  deadline : ℕ
  authorization : AuthorizationCheck
  bootstrapCap : Option ℕ
deriving DecidableEq, Repr

/-- The server, the manager, the guard, and the number of the next moment. -/
structure World where
  origin : Origin
  controller : Controller
  bridge : Bridge
  guard : Guard
  clock : ℕ
deriving DecidableEq, Repr

/-- What changes the bridge while a request is at work elsewhere. `lost` of the guard's
revocation is one it no longer waits for. -/
inductive Background where
  | happening (h : Happening)
  | guardRevokes (lost : Bool)
deriving DecidableEq, Repr

/-- The guard's revocation is taken from the queue. -/
def World.guardRevokes (w : World) (lost : Bool) : World :=
  match w.guard with
  | .asked seen =>
    match w.bridge.revoke seen.binding.ownerEpoch with
    | (.ok _, bridge) =>
      { w with bridge, guard := if lost then .idle else .acknowledged seen }
    | (.error _, bridge) => { w with bridge, guard := .idle }
  | _ => w

def World.background (w : World) : Background → World
  | .happening h => { w with bridge := w.bridge.happens h }
  | .guardRevokes lost => w.guardRevokes lost

/-- How an exchange with the manager ends: the queue takes nothing, the manager finds the
request abandoned, it applies the change and nobody waits for the answer, or it answers. -/
inductive Fate where
  | unavailable
  | abandoned
  | lost
  | answered
deriving DecidableEq, Repr

/-- What one call of a request meets. -/
structure Moment where
  clock : Clock
  bootId : Option String
  current : ProcessIdentity → Bool
  confirmed : ProcessIdentity → Option Bool
  works : Bool
  before : List Background
  fate : Fate
  circumstance : Circumstance

/-- A step of the server, with the text of its error. -/
abbrev Srv := Proc World String

variable (E : ℕ → Moment)

/-- Read the host; `e` is the error when the reading fails. -/
def reading {α : Type} (f : Moment → Option α) (e : String) : Srv α := fun w =>
  let w' := { w with clock := w.clock + 1 }
  match f (E w.clock) with
  | some a => (.ok a, w')
  | none => (.err e, w')

def instantNow : Srv ℕ := reading E (fun m => some m.clock.instant) ""

/-- `monotonic_ms`. -/
def monotonicMs : Srv ℕ := reading E (·.clock.monotonicMs) "authorization clock"

/-- The wall clock since the epoch. -/
def wallNow : Srv ℕ := reading E (·.clock.wall) "system time before the epoch"

/-- `unix_time`. -/
def unixTime : Srv ℕ := do return (← wallNow E) / 1000000000

/-- `boot_id`. -/
def bootId : Srv String := reading E (·.bootId) "invalid boot identity"

/-- `process_is_current`. -/
def processIsCurrent (p : ProcessIdentity) : Srv Bool := reading E (fun m => some (m.current p)) ""

/-- `process_is_current_confirmed`. -/
def processIsCurrentConfirmed (p : ProcessIdentity) : Srv Bool :=
  reading E (·.confirmed p) "code=process_liveness_unconfirmed"

/-- `Controller::publish`, and the other calls that write or inspect a file. -/
def fileWorks (e : String) : Srv Unit := reading E (fun m => if m.works then some () else none) e

def publish : Srv Unit := fileWorks E "status publication"

def controllerState : Srv Controller := fun w => (.ok w.controller, w)

def modifyController (f : Controller → Controller) : Srv Unit :=
  modify fun w => { w with controller := f w.controller }

def modifyAuthority (f : AuthorityState → AuthorityState) : Srv Unit :=
  modifyController fun c => { c with authority := f c.authority }

/-- `manager_outcome`. The queue is in order: what the manager does before it reaches this
change comes first. -/
def managerOutcome (change : OwnerChange) : Srv (Except String Unit × PacketPortReceipt) :=
  fun w =>
    let m := E w.clock
    let w₁ := m.before.foldl World.background { w with clock := w.clock + 1 }
    match m.fate with
    | .unavailable => (.err "PacketPort owner queue unavailable", w₁)
    | .abandoned => (.err "absolute request deadline elapsed", w₁)
    | .lost =>
      (.err "absolute request deadline elapsed",
        { w₁ with bridge := (w₁.bridge.apply m.circumstance change).2 })
    | .answered =>
      let (result, bridge) := w₁.bridge.apply m.circumstance change
      (.ok (result, bridge.receipt), { w₁ with bridge })

/-- `manager_change`. -/
def managerChange (change : OwnerChange) : Srv PacketPortReceipt := do
  match ← managerOutcome E change with
  | (.ok _, actual) => return actual
  | (.error e, _) => fail ("actual PacketPort change rejected: " ++ e)

end CandyRuntime.Tunio
