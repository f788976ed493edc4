import CandyRuntime.NetdV2.Recovery

/-!
# The requests of the v2 infrastructure service

One definition for each operation of `InfrastructureService::process`, and `process` itself.
An operation that only computes the next state ends in `Flow.store`, and `process` persists it
with the failure handling they share; the others end in `Flow.reply`.
-/

namespace CandyRuntime.NetdV2

open Lib Lib.Proc NetdProto NetdV1

variable (E : Surroundings)

/-- How an operation leaves the `match` of `process`. -/
inductive Flow where
  | reply (body : Body) (descriptor : Bool)
  | store (next : State)
deriving DecidableEq, Repr

def ack : Flow := .reply .ack false

/-! ## Infrastructure -/

/-- The status of the infrastructure, as three operations report it. -/
def infraStatusOf (s : State) : Body :=
  .infraStatus s.spec s.ifindex (s.ioOwner.map (·.ioEpoch))

/-- The routes of the retained declaration reject, and its firewall is gone. -/
def fenceForward : Option ForwardRecord → Svc Unit
  | none => pure ()
  | some forward => do
    call E (.rejectForwarding forward.declaration)
    call E (.removeFirewall forward.declaration)

/-- The branch of `InfraEnsure` in which the device of the retained spec is gone. -/
def repairMissingDevice : Svc Flow := do
  let s ← currentState
  ensure ((← heldAlive E s.ioOwner) = false)
    (.rejected "io_owner_alive" "missing interface repair requires the old I/O owner to exit")
  fenceForward E s.forward
  let marker ← newOwnershipMarker E
  let bootId ← currentBootId E
  persist E { s.mapForward (fun r => { r with phase := .revoked }) with
    candidate := none
    creationPending := true
    ownershipMarker := some marker
    ifindex := none
    ioOwner := none
    bootId }
  completeCreation E
  let s ← currentState
  let _ ← unwrap s.ifindex
  return .reply (.infraStatus s.spec s.ifindex none) false

/-- `InfraEnsure`. -/
def infraEnsure (request : Request) (spec : InfraSpec) : Svc Flow := do
  ensureNamespace E spec "request namespace differs from the netd network namespace"
  let s ← currentState
  match s.spec with
  | some existing =>
    administrator request
    ensure (existing = spec) (.rejected "infra_generation_conflict"
      "immutable infrastructure requires explicit retirement before replacement")
    if (← interfaceIdentity E).isNone then repairMissingDevice E
    else
      let _ ← identity E spec.infraId spec.generation
      return .reply (infraStatusOf s) false
  | none =>
    ensure ((← interfaceIdentity E) = none) (.rejected "infra_unowned_interface"
      "refusing an existing interface without owned journal")
    let marker ← newOwnershipMarker E
    let bootId ← currentBootId E
    persist E { s with
      spec := some spec
      ownershipMarker := some marker
      creationPending := true
      administrator := some request.callerInstanceId
      bootId }
    completeCreation E
    let s ← currentState
    return .reply (.infraStatus s.spec s.ifindex none) false

/-- `InfraAcquireIoFd`. -/
def infraAcquireIoFd (request : Request) (infraId : InstanceId) (generation ioEpoch : ℕ) :
    Svc Flow := do
  let spec ← identity E infraId generation
  let s ← currentState
  ensure ((← heldAlive E s.ioOwner) = false) (.rejected "io_owner_alive"
    "an existing I/O owner may still hold the queue; no second descriptor is issued")
  ensure (s.lastIoEpoch < ioEpoch) (.rejected "stale_io_epoch" "I/O epoch must advance")
  when ((← get).lifecycleFd = false) do
    read E (fun _ => ()) .platform
    setLifecycleFd true
  read E (fun _ => ()) .journal
  let bootId ← currentBootId E
  let startTicks ← processStartTicks E request.callerPid
  persist E { s with
    ioOwner := some
      { instanceId := request.callerInstanceId, pid := request.callerPid, ioEpoch, bootId,
        startTicks }
    lastIoEpoch := ioEpoch }
  let ifindex ← unwrap (← currentState).ifindex
  return .reply (.ioFd spec ifindex ioEpoch) true

/-- `InfraReleaseIo`. -/
def infraReleaseIo (request : Request) (infraId : InstanceId) (generation ioEpoch : ℕ) :
    Svc Flow := do
  let _ ← identity E infraId generation
  administrator request
  let s ← currentState
  let alive : InfrastructureError := .rejected "io_owner_alive"
    "release requires proof the I/O process exited; caller cannot revoke its duplicate fd"
  let owner ← okOr s.ioOwner alive
  ensure (owner.ioEpoch = ioEpoch) alive
  ensure ((← ioOwnerAlive E owner) = false) alive
  return .store { s with ioOwner := none }

/-- The forwarding of an infrastructure that is retired. -/
def retireForward (sysctls : List SysctlChange) : Option ForwardRecord → Svc Unit
  | none => pure ()
  | some forward => do
    ensure (forward.phase = .revoked) (.rejected "forwarding_active"
      "revoke forwarding before infrastructure retirement")
    call E (.retireForwarding forward.declaration)
    call E (.restoreSysctls forward.declaration sysctls)

/-- `InfraRetire`. -/
def infraRetire (request : Request) (infraId : InstanceId) (generation : ℕ) : Svc Flow := do
  administrator request
  let _ ← identity E infraId generation
  let s ← currentState
  ensure ((← heldAlive E s.ioOwner) = false) (.rejected "io_owner_alive"
    "stop the I/O owner before explicit infrastructure retirement")
  retireForward E s.sysctls s.forward
  call E .retireInfrastructure
  setLifecycleFd false
  persist E .default
  return ack

/-! ## Preparation and authorization -/

/-- The tests of `ForwardPrepare` against the record it would replace. -/
def admitReplacement (s : State) (previous : ForwardRecord) (owner : ForwardOwner)
    (declaration : PrepareDeclaration) (retryPreparation : Bool) : Svc Unit := do
  ensure (previous.owner.domainId = owner.domainId) (.rejected "unsupported_multi_domain"
    "this backend has one routing domain; another domain cannot preempt it")
  ensure (¬ (owner.signedGeneration < previous.owner.signedGeneration
      ∨ (owner.signedGeneration = previous.owner.signedGeneration
        ∧ declaration ≠ previous.declaration)
      ∨ owner.workerEpoch < previous.owner.workerEpoch
      ∨ (owner.fencingToken ≤ max previous.owner.fencingToken s.lastFencingToken
        ∧ retryPreparation = false)))
    (.rejected "stale_forward_owner" "generation or fencing token does not advance")
  ensure (previous.phase = .active ∨ previous.phase = .guarded ∨ previous.phase = .revoked
      ∨ retryPreparation = true)
    (.rejected "forward_preparation_pending"
      "finish or revoke initial preparation before replacing it")
  ensure (previous.declaration.tableId = declaration.tableId
      ∧ previous.declaration.firewall.requireIpv4Forwarding
        = declaration.firewall.requireIpv4Forwarding
      ∧ previous.declaration.firewall.manageRpFilter = declaration.firewall.manageRpFilter)
    (.rejected "infra_policy_attribute_conflict"
      "routing table and shared sysctl requirements belong to retained infrastructure")

/-- The first preparation of a domain, or the retry of one that did not finish. -/
def prepareFirst (s : State) (owner : ForwardOwner) (declaration : PrepareDeclaration)
    (sysctls : List SysctlChange) : Svc Flow := do
  let next := { s with
    sysctls
    forward := some (.accepted owner declaration .preparing)
    lastFencingToken := owner.fencingToken }
  persist E next
  inBackendStage .sysctlPrepare (call E (.prepareSysctls declaration sysctls))
  inBackendStage .routePrepare (call E (.rejectForwarding declaration))
  call E (.removeFirewall declaration)
  inBackendStage .firewallPrepare (call E (.prepareFirewall declaration))
  return .store (next.mapForward fun r => { r with phase := .prepared })

/-- `validate_forwarding_replacement`: the kernel holds nothing foreign. -/
def validateForwardingReplacement : Svc Unit := read E (fun _ => ()) (.backend .backend)

/-- `ForwardPrepare`. -/
def forwardPrepare (request : Request) (now : ℕ) (infraId : InstanceId) (infraGeneration : ℕ)
    (owner : ForwardOwner) (declaration : PrepareDeclaration) : Svc Flow := do
  administrator request
  let spec ← identity E infraId infraGeneration
  ensureLive owner now
  ensure (declaration.overlayRouterIpv4 = spec.overlayRouterIpv4
      ∧ declaration.effectiveMtu = spec.mtu)
    (.rejected "infra_config_conflict" "forwarding cannot change interface address or MTU")
  let s ← currentState
  match s.candidate, s.forward with
  | some candidate, _ =>
    ensure (candidate.owner = owner ∧ candidate.declaration = declaration)
      (.rejected "forward_candidate_pending"
        "commit or revoke the retained candidate before preparing another")
    return ack
  | none, some previous =>
    if previous.owner = owner ∧ previous.declaration = declaration
        ∧ previous.phase = .prepared then
      return ack
    else
      let retryPreparation := decide (previous.owner = owner ∧ previous.phase = .preparing)
      admitReplacement s previous owner declaration retryPreparation
      if retryPreparation then prepareFirst E s owner declaration s.sysctls
      else
        validateForwardingReplacement E
        persist E { s with
          candidate := some (.accepted owner declaration .prepared)
          lastFencingToken := owner.fencingToken }
        return ack
  | none, none =>
    let sysctls ← inBackendStage .preflight (read E (·.sysctls) (.backend .backend))
    prepareFirst E s owner declaration sysctls

/-- `same_owner`. -/
def sameOwner (record : Option ForwardRecord) (owner : ForwardOwner) : Svc ForwardRecord := do
  let current ← okOr record (.rejected "forward_missing" "no forwarding owner")
  ensure (current.owner = owner) (.rejected "stale_forward_owner"
    "request does not match committed generation, epoch, fence and deadlines")
  return current

/-- The candidate is the owner's. -/
def State.candidateOf (s : State) (owner : ForwardOwner) : Option ForwardRecord :=
  s.candidate.filter fun r => decide (r.owner = owner)

/-- The forward record is the owner's. -/
def State.forwardOf (s : State) (owner : ForwardOwner) : Option ForwardRecord :=
  s.forward.filter fun r => decide (r.owner = owner)

/-- The candidate of the owner, or its forward record. -/
def ownedRecord (s : State) (owner : ForwardOwner) : Svc ForwardRecord :=
  match s.candidateOf owner with
  | some candidate => pure candidate
  | none => sameOwner s.forward owner

/-- `ForwardAuthorize`. -/
def forwardAuthorize (request : Request) (now : ℕ) (owner : ForwardOwner)
    (authority : ForwardAuthority) : Svc Flow := do
  administrator request
  ensureLive owner now
  let s ← currentState
  let io ← okOr s.ioOwner (.rejected "io_owner_missing" "authority requires actual IO holder")
  let mismatch : InfrastructureError := .rejected "forward_authority_io_mismatch"
    "authority does not belong to actual IO holder"
  ensure (authority.ioPid = io.pid ∧ authority.ioEpoch = io.ioEpoch
    ∧ some authority.ioStartTicks = io.startTicks) mismatch
  ensure ((← ioOwnerAlive E io) = true) mismatch
  let current ← ownedRecord s owner
  ensure (current.phase = .prepared
      ∧ authority.declarationHash = E.declarationHash current.declaration
      ∧ current.authority.all (fun old => decide (old = authority)) = true)
    (.rejected "forward_authority_conflict"
      "authority only binds an exact prepared declaration once")
  if (s.candidateOf owner).isSome then
    return .store (s.mapCandidate fun r => { r with authority := some authority })
  else return .store (s.mapForward fun r => { r with authority := some authority })

/-- The normalization of `ForwardCommitAuthorized`: the receipt is compared with the actual
I/O holder, the candidate process and the clock. -/
def checkReceipt (request : Request) (now : ℕ) (owner : ForwardOwner)
    (receipt : ForwardAuthorityReceipt) : Svc Unit := do
  administrator request
  let s ← currentState
  let current ← okOr ((s.candidateOf owner).or (s.forwardOf owner))
    (.rejected "forward_authority_missing" "authorized commit has no exact prepared owner")
  let io ← okOr s.ioOwner
    (.rejected "io_owner_missing" "authorized commit requires actual IO holder")
  let mismatch : InfrastructureError := .rejected "forward_authority_receipt_mismatch"
    "actual IO/candidate/transaction/authority/cap/fresh packet proof differs"
  ensure (current.authority = some receipt.authority ∧ receipt.authority.ioEpoch = io.ioEpoch
    ∧ receipt.authority.ioPid = io.pid
    ∧ some receipt.authority.ioStartTicks = io.startTicks) mismatch
  ensure ((← ioOwnerAlive E io) = true) mismatch
  ensure (receipt.ownerActive = true
    ∧ receipt.authorizationDeadlineMonoMs = owner.authDeadlineMonoMs
    ∧ proofIsFresh now receipt.packetProofReportedMonoMs = true) mismatch
  ensure ((← businessProcessEpochAlive E receipt.authority.candidatePid
    receipt.authority.candidateStartTicks) = true) mismatch

/-! ## Commit -/

/-- The failure of a commit after its intent was stored: the previous policy is restored. -/
def abandonCommit {α : Type} (previous candidate : ForwardRecord) (now : ℕ)
    (e : InfrastructureError) : Svc α := do
  match ← attempt (rollbackReplacement E previous candidate now) with
  | .error recovery => fail (.repairPending e recovery)
  | .ok _ => fail e

/-- A candidate that keeps the declaration of an active record, failures included. -/
def ownerOnly (previous candidate : ForwardRecord) : Prop :=
  previous.phase = .active ∧ candidate.declaration = previous.declaration
    ∧ candidate.failedPrefixes = previous.failedPrefixes
    ∧ previous.pendingFailedPrefixes = none ∧ candidate.pendingFailedPrefixes = none

instance (previous candidate : ForwardRecord) : Decidable (ownerOnly previous candidate) := by
  unfold ownerOnly
  infer_instance

/-- `ForwardCommit` of a candidate. -/
def commitCandidate (now : ℕ) (s : State) (candidate : ForwardRecord) : Svc Flow := do
  let previous ← okOr s.forward
    (.rejected "forward_missing" "candidate has no retained policy")
  let intent := { candidate with phase := .preparing }
  let committed := { s with
    forward := some { candidate with phase := .active }
    candidate := none }
  validateForwardingReplacement E
  if ownerOnly previous intent then
    persist E committed
    return ack
  else
    persist E { s with candidate := some intent }
    handle (installReplacement E previous intent s.sysctls) (abandonCommit E previous intent now)
    handle (persist E committed)
      (abandonCommit E previous { candidate with phase := .active } now)
    return ack

/-- `ForwardCommit`. -/
def forwardCommit (request : Request) (now : ℕ) (owner : ForwardOwner) (authenticated : Bool) :
    Svc Flow := do
  administrator request
  ensureLive owner now
  ownIdentity E
  let s ← currentState
  ensure (¬ (((s.candidateOf owner).or (s.forwardOf owner)).any (·.authority.isSome) = true
      ∧ authenticated = false))
    (.rejected "forward_authority_receipt_required"
      "signed authority candidate requires exact applied IO and fresh Core proof")
  match s.candidateOf owner with
  | some candidate => commitCandidate E now s candidate
  | none =>
    let current ← sameOwner s.forward owner
    if current.phase = .active then return ack
    else
      ensure (current.phase = .prepared)
        (.rejected "invalid_forward_phase" "only prepared forwarding may commit")
      handle (call E
          (.restoreForwardingWithFailures current.declaration current.failedPrefixes)) fun e => do
        call E (.rejectForwarding current.declaration)
        fail e
      return .store (s.mapForward fun r => { r with phase := .active })

/-! ## Guard, revocation and renewal -/

/-- `ForwardGuard`. -/
def forwardGuard (request : Request) (now : ℕ) (owner : ForwardOwner) : Svc Flow := do
  administrator request
  ensureLive owner now
  let s ← currentState
  let current ← sameOwner s.forward owner
  if current.phase = .guarded then return ack
  else
    ensure (current.phase = .active)
      (.rejected "invalid_forward_phase" "only active forwarding may be guarded")
    persist E (s.mapForward fun r => { r with phase := .guarded })
    call E (.guardForwarding current.declaration)
    return ack

/-- The candidate of a revoked owner is rolled back or dropped. -/
def revokeCandidate (now : ℕ) (s : State) (candidate : ForwardRecord) : Svc Flow := do
  if candidate.phase = .preparing then
    let previous ← unwrap s.forward
    rollbackReplacement E previous candidate now
    return ack
  else
    persist E { s with candidate := none }
    return ack

/-- `ForwardRevoke`. -/
def forwardRevoke (request : Request) (now : ℕ) (owner : ForwardOwner) : Svc Flow := do
  administrator request
  let s ← currentState
  match s.candidateOf owner with
  | some candidate => revokeCandidate E now s candidate
  | none =>
    let current ← sameOwner s.forward owner
    let cancelled := { current with
      pendingPolicy := current.pendingPolicy.map fun p => { p with cancelled := true } }
    when (current.pendingPolicy.isSome) (persist E { s with forward := some cancelled })
    fencePolicyIntent E cancelled
    return .store { s with forward := some cancelled.revoke, candidate := none }

/-- `ForwardLeaseRenew`. -/
def forwardLeaseRenew (request : Request) (now : ℕ) (owner : ForwardOwner) : Svc Flow := do
  administrator request
  ensureLive owner now
  let s ← currentState
  let current ← okOr s.forward (.rejected "forward_missing" "no forwarding owner")
  ensure (current.owner.domainId = owner.domainId
      ∧ current.owner.signedGeneration = owner.signedGeneration
      ∧ current.owner.workerEpoch = owner.workerEpoch
      ∧ current.owner.fencingToken = owner.fencingToken
      ∧ current.owner.authDeadlineMonoMs = owner.authDeadlineMonoMs
      ∧ owner.leaseDeadlineMonoMs ≤ current.owner.authDeadlineMonoMs
      ∧ current.owner.leaseDeadlineMonoMs ≤ owner.leaseDeadlineMonoMs
      ∧ current.phase ≠ .revoked)
    (.rejected "stale_forward_owner"
      "renewal must retain the unrevoked owner's authorization cap and advance its lease within that cap")
  return .store (s.mapForward fun r => { r with owner })

/-! ## Failed prefixes and live policies -/

/-- `target.sort_unstable()`. -/
def sortPrefixes (prefixes : List Ipv4Prefix) : List Ipv4Prefix :=
  prefixes.insertionSort fun p q => p.rank ≤ q.rank

/-- The state with a record of the owner changed: its candidate, or its forward record. -/
def State.mapRecord (s : State) (isCandidate : Bool) (f : ForwardRecord → ForwardRecord) :
    State :=
  if isCandidate then s.mapCandidate f else s.mapForward f

/-- `ForwardFailedPrefixes`. -/
def forwardFailedPrefixes (request : Request) (now : ℕ) (owner : ForwardOwner)
    (failureRevision : ℕ) (failedPrefixes : List Ipv4Prefix) : Svc Flow := do
  administrator request
  ensureLive owner now
  ownIdentity E
  let s ← currentState
  let isCandidate := (s.candidateOf owner).isSome
  let current ← sameOwner (if isCandidate then s.candidate else s.forward) owner
  lift (validateFailedPrefixes current.declaration failedPrefixes)
  let target := sortPrefixes failedPrefixes
  let latestRevision := current.pendingFailureRevision.getD current.failureRevision
  let latestPrefixes := current.pendingFailedPrefixes.getD current.failedPrefixes
  ensure (¬ (failureRevision < latestRevision
      ∨ (failureRevision = latestRevision ∧ target ≠ latestPrefixes)))
    (.rejected "stale_failure_revision"
      "failure snapshot must advance revision or repeat its exact contents")
  ensure (current.pendingFailedPrefixes = none) (.rejected "forward_prefix_repair_pending"
    "retained failure snapshot must finish before another snapshot")
  if failureRevision = latestRevision then return ack
  else if current.phase = .prepared then
    persist E (s.mapRecord isCandidate
      fun r => { r with failureRevision, failedPrefixes := target })
    return ack
  else
    ensure (current.phase = .active) (.rejected "forward_not_active"
      "failed-prefix update requires active or prepared forwarding")
    if current.failedPrefixes = target then
      persist E (s.mapRecord isCandidate fun r => { r with failureRevision })
      return ack
    else
      let intent := s.mapRecord isCandidate fun r => { r with
        pendingFailedPrefixes := some target
        pendingFailureRevision := some failureRevision }
      persist E intent
      inStage "failed_prefix_routes" (call E
        (.updateFailedForwardPrefixes current.declaration current.failedPrefixes target))
      let _ ← unwrap intent.forward
      persist E (intent.mapForward (·.settleFailures target failureRevision))
      return ack

/-- `ForwardPolicyUpdate`. -/
def forwardPolicyUpdate (request : Request) (now : ℕ) (owner : ForwardOwner)
    (policyRevision policyGeneration : ℕ) (authorizationSnapshotSha256 : String)
    (declaration : PrepareDeclaration) : Svc Flow := do
  administrator request
  ensureLive owner now
  ownIdentity E
  let s ← currentState
  ensure (s.candidate = none)
    (.rejected "forward_candidate_pending" "policy update requires no candidate")
  let current ← sameOwner s.forward owner
  ensure (current.phase = .active)
    (.rejected "forward_not_active" "policy update requires exact live active owner")
  ensure (current.pendingFailedPrefixes = none) (.rejected "forward_prefix_repair_pending"
    "finish failed-prefix repair before policy publication")
  ensure (current.pendingPolicy = none) (.rejected "forward_policy_repair_pending"
    "retry retained policy intent before another publication")
  lift (validateLivePolicyIdentity current.declaration declaration)
  ensure (¬ (policyRevision < current.policyRevision
      ∨ policyGeneration < current.generation
      ∨ (policyRevision = current.policyRevision
        ∧ (current.declaration ≠ declaration
          ∨ current.policyGeneration ≠ some policyGeneration
          ∨ current.policyHash ≠ some authorizationSnapshotSha256))))
    (.rejected "stale_policy_revision"
      "policy revision must advance or replay exact metadata and declaration")
  if policyRevision = current.policyRevision then return ack
  else if current.declaration = declaration then
    persist E (s.mapForward fun r => { r with
      policyRevision
      policyGeneration := some policyGeneration
      policyHash := some authorizationSnapshotSha256 })
    return ack
  else
    validateForwardingReplacement E
    persist E (s.mapForward fun r => { r with
      pendingPolicy := some
        { cancelled := false, revision := policyRevision, generation := policyGeneration,
          authorizationSnapshotSha256, declaration } })
    reconcileLivePolicy E now
    return ack

/-- `ForwardStatus`. -/
def forwardStatus : Svc Flow := do
  let s ← currentState
  return .reply (.forwardStatus (s.forward.map (·.owner)) (s.forward.map (·.phase))
    (s.candidate.map (·.owner)) s.lastFencingToken
    ((s.forward.map (·.failureRevision)).getD 0) ((s.forward.map (·.failedPrefixes)).getD [])
    (s.forward.bind (·.pendingFailureRevision)) (s.forward.bind (·.pendingFailedPrefixes))
    ((s.forward.map (·.policyRevision)).getD 0) (s.forward.bind (·.policyGeneration))
    (s.forward.bind (·.policyHash))
    (s.forward.bind fun f => f.pendingPolicy.map (·.revision))) false

/-! ## `process` -/

/-- Prepare and commit wait for a pending route update. -/
def Operation.replaces : Operation → Bool
  | .forwardPrepare .. | .forwardCommit _ | .forwardCommitAuthorized .. => true
  | _ => false

/-- The operations that wait for a pending policy. -/
def Operation.transacts : Operation → Bool
  | .forwardGuard _ | .forwardFailedPrefixes .. => true
  | operation => operation.replaces

/-- The `match` of `process` on the operation. -/
def dispatch (request : Request) (now : ℕ) : Svc Flow := do
  match request.operation with
  | .inDomain .. =>
    reject "domain_router_required" "scoped requests require configured namespace domain routing"
  | .capabilities => return .reply (.capabilities 2 true false) false
  | .infraStatus => return .reply (infraStatusOf (← currentState)) false
  | .infraEnsure spec => infraEnsure E request spec
  | .infraAcquireIoFd infraId generation ioEpoch =>
    infraAcquireIoFd E request infraId generation ioEpoch
  | .infraReleaseIo infraId generation ioEpoch =>
    infraReleaseIo E request infraId generation ioEpoch
  | .infraRetire infraId generation => infraRetire E request infraId generation
  | .forwardPrepare infraId infraGeneration owner declaration =>
    forwardPrepare E request now infraId infraGeneration owner declaration
  | .forwardAuthorize owner authority => forwardAuthorize E request now owner authority
  | .forwardCommit owner => forwardCommit E request now owner false
  | .forwardCommitAuthorized owner _ => forwardCommit E request now owner true
  | .forwardGuard owner => forwardGuard E request now owner
  | .forwardRevoke owner => forwardRevoke E request now owner
  | .forwardLeaseRenew owner => forwardLeaseRenew request now owner
  | .forwardFailedPrefixes owner failureRevision failedPrefixes =>
    forwardFailedPrefixes E request now owner failureRevision failedPrefixes
  | .forwardPolicyUpdate owner revision generation hash declaration =>
    forwardPolicyUpdate E request now owner revision generation hash declaration
  | .forwardStatus => forwardStatus

/-- Guard or reject the forwarding whose successor could not be stored. -/
def fenceUnstored : Option ForwardRecord → Svc Unit
  | none => pure ()
  | some forward =>
    if forward.phase = .guarded then ignore (call E (.guardForwarding forward.declaration))
    else ignore (call E (.rejectForwarding forward.declaration))

/-- The persist at the end of `process`. -/
def epilogue (next : State) : Svc Unit :=
  handle (persist E next) fun e => do
    fenceUnstored E (← currentState).forward
    fail e

/-- The receipt of an authorized commit is checked. -/
def authenticate (request : Request) (now : ℕ) : Svc Unit :=
  match request.operation with
  | .forwardCommitAuthorized owner receipt => checkReceipt E request now owner receipt
  | _ => pure ()

/-- The checks of `process` in front of the operation. -/
def admission (request : Request) (now : ℕ) : Svc Unit := do
  authenticate E request now
  let s ← currentState
  ensure (¬ (s.forward.any (·.pendingFailedPrefixes.isSome) = true
      ∧ request.operation.replaces = true))
    (.rejected "forward_prefix_repair_pending"
      "retry the pending scoped route update before replacing forwarding")
  ensure (¬ (s.forward.any (·.pendingPolicy.isSome) = true
      ∧ request.operation.transacts = true))
    (.rejected "forward_policy_repair_pending"
      "retained policy publication must complete before another route transaction")

/-- `process`. The value says whether a descriptor goes with the reply. -/
def process (request : Request) (peer : PeerCredentials) (now : ℕ) : Svc (Body × Bool) := do
  ensure (request.validate.isOk = true) (.rejected "invalid_request" "invalid v2 request")
  let w ← get
  ensure (peer.uid = w.allowedUid ∧ peer.gid = w.allowedGid ∧ peer.pid = request.callerPid)
    (.rejected "unauthorized_peer" "socket credentials do not match request")
  if request.operation = .capabilities then return (.capabilities 2 true false, false)
  else
    let _ ← recoverExpired E now
    admission E request now
    match ← dispatch E request now with
    | .reply body descriptor => return (body, descriptor)
    | .store next =>
      epilogue E next
      return (.ack, false)

end CandyRuntime.NetdV2
