import CandyRuntime.NetdProto.Types

/-!
# The v2 protocol: requests and their validation

The value types of `candy-netd-proto/src/v2.rs` and the checks `Request::validate` makes. The
64-bit counters and the boot-time milliseconds are natural numbers: the service compares and
stores them, and never computes with them in a way that could wrap.
-/

namespace CandyRuntime.NetdV2

open NetdProto

/-! ## Specifications, owners and authorities -/

/-- `InfraSpec`. -/
structure InfraSpec where
  infraId : InstanceId
  generation : ℕ
  netnsDevice : ℕ
  netnsInode : ℕ
  overlayRouterIpv4 : UInt32
  mtu : UInt16
deriving DecidableEq, Repr

/-- `InfraSpec::validate`. -/
def InfraSpec.validate (s : InfraSpec) : Except NetdProtocolError Unit :=
  refuseIf (s.infraId == InstanceId.zero || s.generation == 0 || s.netnsInode == 0
    || decide (¬ (576 ≤ s.mtu ∧ s.mtu ≤ 1400)) || s.overlayRouterIpv4 == 0
    || decide ((224 : UInt32) ≤ s.overlayRouterIpv4 >>> 24)) .invalidDeclaration

/-- `ForwardOwner`. -/
structure ForwardOwner where
  domainId : InstanceId
  signedGeneration : ℕ
  workerEpoch : ℕ
  fencingToken : ℕ
  authDeadlineMonoMs : ℕ
  leaseDeadlineMonoMs : ℕ
deriving DecidableEq, Repr

/-- `ForwardOwner::validate`. -/
def ForwardOwner.validate (o : ForwardOwner) : Except NetdProtocolError Unit :=
  refuseIf (o.domainId == InstanceId.zero || o.signedGeneration == 0 || o.workerEpoch == 0
    || o.fencingToken == 0 || o.authDeadlineMonoMs == 0 || o.leaseDeadlineMonoMs == 0
    || decide (o.authDeadlineMonoMs < o.leaseDeadlineMonoMs)) .invalidOwner

/-- The digits `0`–`9` and `a`–`f`. -/
def isLowerHex (c : Char) : Bool := ('0' ≤ c && c ≤ '9') || ('a' ≤ c && c ≤ 'f')

/-- A text of exactly `length` lower-case hexadecimal digits. -/
def isHex (value : String) (length : ℕ) : Bool :=
  value.length == length && value.toList.all isLowerHex

/-- `ForwardAuthority`. -/
structure ForwardAuthority where
  transactionId : String
  authorityRevision : ℕ
  signedControlHash : String
  declarationHash : String
  snapshotClosureHash : String
  ioEpoch : ℕ
  ioPid : UInt32
  ioStartTicks : ℕ
  candidatePid : UInt32
  candidateStartTicks : ℕ
deriving DecidableEq, Repr

/-- `ForwardAuthority::validate`. -/
def ForwardAuthority.validate (a : ForwardAuthority) : Except NetdProtocolError Unit :=
  refuseIf (!isHex a.transactionId 32 || a.authorityRevision == 0
    || !isHex a.signedControlHash 64 || !isHex a.declarationHash 64
    || !isHex a.snapshotClosureHash 64 || a.ioEpoch == 0 || a.ioPid == 0
    || a.ioStartTicks == 0 || a.candidatePid == 0 || a.candidateStartTicks == 0) .invalidOwner

/-- `ForwardAuthorityReceipt`. -/
structure ForwardAuthorityReceipt where
  authority : ForwardAuthority
  ownerActive : Bool
  authorizationDeadlineMonoMs : ℕ
  packetProofReportedMonoMs : ℕ
deriving DecidableEq, Repr

/-! ## Requests -/

/-- `Operation`. -/
inductive Operation where
  | capabilities
  | inDomain (domainId infraId : InstanceId) (operation : Operation)
  | infraEnsure (spec : InfraSpec)
  | infraStatus
  | infraAcquireIoFd (infraId : InstanceId) (generation ioEpoch : ℕ)
  | infraReleaseIo (infraId : InstanceId) (generation ioEpoch : ℕ)
  | infraRetire (infraId : InstanceId) (generation : ℕ)
  | forwardPrepare (infraId : InstanceId) (infraGeneration : ℕ) (owner : ForwardOwner)
      (declaration : PrepareDeclaration)
  | forwardCommit (owner : ForwardOwner)
  | forwardAuthorize (owner : ForwardOwner) (authority : ForwardAuthority)
  | forwardCommitAuthorized (owner : ForwardOwner) (receipt : ForwardAuthorityReceipt)
  | forwardRevoke (owner : ForwardOwner)
  | forwardGuard (owner : ForwardOwner)
  | forwardLeaseRenew (owner : ForwardOwner)
  | forwardFailedPrefixes (owner : ForwardOwner) (failureRevision : ℕ)
      (failedPrefixes : List Ipv4Prefix)
  | forwardPolicyUpdate (owner : ForwardOwner) (policyRevision policyGeneration : ℕ)
      (authorizationSnapshotSha256 : String) (declaration : PrepareDeclaration)
  | forwardStatus
deriving DecidableEq, Repr

/-- `Request`. -/
structure Request where
  requestId : ℕ
  callerInstanceId : InstanceId
  callerPid : UInt32
  operation : Operation
deriving DecidableEq, Repr

/-- `Ipv4Prefix::new` on every prefix of the declaration. -/
def checkPrefixes (d : PrepareDeclaration) : Except NetdProtocolError Unit :=
  refuseIf ((d.routes.map (·.ipv4Prefix) ++ d.exclusions.map (·.ipv4Prefix)).any
    fun p => decide (¬ p.Canonical)) .invalidDeclaration

/-- The checks `Request::validate` makes on the operation itself. -/
def Operation.validate : Operation → Except NetdProtocolError Unit
  | .inDomain domainId infraId operation => do
    refuseIf (domainId == InstanceId.zero || infraId == InstanceId.zero
      || match operation with
        | .inDomain .. => true
        | _ => false) .invalidRequest
    operation.validate
  | .infraEnsure spec => spec.validate
  | .infraAcquireIoFd infraId generation ioEpoch | .infraReleaseIo infraId generation ioEpoch =>
    refuseIf (infraId == InstanceId.zero || generation == 0 || ioEpoch == 0) .invalidRequest
  | .infraRetire infraId generation =>
    refuseIf (infraId == InstanceId.zero || generation == 0) .invalidRequest
  | .forwardPrepare infraId infraGeneration owner declaration => do
    refuseIf (infraId == InstanceId.zero || infraGeneration == 0) .invalidRequest
    owner.validate
    declaration.validate
    checkPrefixes declaration
  | .forwardPolicyUpdate owner policyRevision policyGeneration hash declaration => do
    owner.validate
    refuseIf (policyRevision == 0 || policyGeneration == 0 || !isHex hash 64) .invalidDeclaration
    declaration.validate
    checkPrefixes declaration
  | .forwardCommit owner | .forwardRevoke owner | .forwardGuard owner
  | .forwardLeaseRenew owner => owner.validate
  | .forwardAuthorize owner authority => do
    owner.validate
    authority.validate
  | .forwardCommitAuthorized owner receipt => do
    owner.validate
    receipt.authority.validate
    refuseIf (!receipt.ownerActive
      || receipt.authorizationDeadlineMonoMs != owner.authDeadlineMonoMs
      || receipt.packetProofReportedMonoMs == 0) .invalidOwner
  | .forwardFailedPrefixes owner failureRevision failedPrefixes => do
    owner.validate
    refuseIf (failureRevision == 0 || decide (maxRoutes < failedPrefixes.length))
      .invalidDeclaration
    refuseIf (failedPrefixes.any (fun p => decide (¬ p.Canonical))
      || decide (¬ failedPrefixes.Nodup)) .invalidDeclaration
  | .capabilities | .infraStatus | .forwardStatus => .ok ()

/-- `Request::validate`. -/
def Request.validate (r : Request) : Except NetdProtocolError Unit := do
  refuseIf (r.requestId == 0 || r.callerInstanceId == InstanceId.zero || r.callerPid == 0)
    .invalidRequest
  r.operation.validate

/-! ## Responses -/

/-- `Phase`. -/
inductive Phase where
  | preparing
  | prepared
  | active
  | guarded
  | revoked
deriving DecidableEq, Repr

/-- `Body`, without the error body, which is the error of a request here. -/
inductive Body where
  | capabilities (version : ℕ) (independentInfrastructure multiDomain : Bool)
  | infraStatus (spec : Option InfraSpec) (ifindex : Option UInt32) (ioEpoch : Option ℕ)
  | ioFd (spec : InfraSpec) (ifindex : UInt32) (ioEpoch : ℕ)
  | forwardStatus (owner : Option ForwardOwner) (phase : Option Phase)
      (candidateOwner : Option ForwardOwner) (lastFencingToken failureRevision : ℕ)
      (failedPrefixes : List Ipv4Prefix) (pendingFailureRevision : Option ℕ)
      (pendingFailedPrefixes : Option (List Ipv4Prefix)) (activePolicyRevision : ℕ)
      (activePolicyGeneration : Option ℕ) (activePolicyHash : Option String)
      (pendingPolicyRevision : Option ℕ)
  | ack
deriving DecidableEq, Repr

end CandyRuntime.NetdV2
