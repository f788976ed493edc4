import CandyRuntime.NetdV1.Record
import CandyRuntime.NetdV2.Protocol

/-!
# The durable state of the v2 infrastructure service

`State` and the records inside it, as `v2.rs` declares them, and the checks
`InfrastructureJournal::load` makes on a state it reads. The file itself is not modelled: a
state is stored and read back as it is, which is what the round trip of `serde_json` and the
checksum of the envelope are there for.
-/

namespace CandyRuntime.NetdV2

open NetdProto NetdV1

/-! ## Errors -/

/-- `InfrastructureError`, as far as a single service raises it. -/
inductive InfrastructureError where
  | rejected (code reason : String)
  | journal
  | backend (cause : NetworkError)
  | platform
  | transition (stage : String) (cause : NetworkError)
  | repairPending (commit recovery : InfrastructureError)
deriving DecidableEq, Repr

/-! ## Records -/

/-- `PendingPolicy`. -/
structure PendingPolicy where
  cancelled : Bool
  revision : ℕ
  generation : ℕ
  authorizationSnapshotSha256 : String
  declaration : PrepareDeclaration
deriving DecidableEq, Repr

/-- `ForwardRecord`. -/
structure ForwardRecord where
  owner : ForwardOwner
  declaration : PrepareDeclaration
  phase : Phase
  failureRevision : ℕ
  failedPrefixes : List Ipv4Prefix
  pendingFailedPrefixes : Option (List Ipv4Prefix)
  pendingFailureRevision : Option ℕ
  authority : Option ForwardAuthority
  policyRevision : ℕ
  policyGeneration : Option ℕ
  policyHash : Option String
  pendingPolicy : Option PendingPolicy
deriving DecidableEq, Repr

namespace ForwardRecord

/-- The record of a declaration that has just been accepted. -/
def accepted (owner : ForwardOwner) (declaration : PrepareDeclaration) (phase : Phase) :
    ForwardRecord where
  owner
  declaration
  phase
  failureRevision := 0
  failedPrefixes := []
  pendingFailedPrefixes := none
  pendingFailureRevision := none
  authority := none
  policyRevision := 0
  policyGeneration := none
  policyHash := none
  pendingPolicy := none

/-- `policy_generation.unwrap_or(owner.signed_generation)`. -/
def generation (r : ForwardRecord) : ℕ := r.policyGeneration.getD r.owner.signedGeneration

end ForwardRecord

/-- `IoOwner`. -/
structure IoOwner where
  instanceId : InstanceId
  pid : UInt32
  ioEpoch : ℕ
  bootId : String
  startTicks : Option ℕ
deriving DecidableEq, Repr

/-- `State`. -/
structure State where
  bootId : String
  spec : Option InfraSpec
  ifindex : Option UInt32
  ownershipMarker : Option String
  creationPending : Bool
  administrator : Option InstanceId
  ioOwner : Option IoOwner
  lastIoEpoch : ℕ
  forward : Option ForwardRecord
  candidate : Option ForwardRecord
  lastFencingToken : ℕ
  sysctls : List SysctlChange
deriving DecidableEq, Repr

namespace State

/-- `State::default`. -/
def default : State where
  bootId := ""
  spec := none
  ifindex := none
  ownershipMarker := none
  creationPending := false
  administrator := none
  ioOwner := none
  lastIoEpoch := 0
  forward := none
  candidate := none
  lastFencingToken := 0
  sysctls := []

/-- The state with its forward record changed, where there is one. -/
def mapForward (s : State) (f : ForwardRecord → ForwardRecord) : State :=
  { s with forward := s.forward.map f }

/-- The state with its candidate changed, where there is one. -/
def mapCandidate (s : State) (f : ForwardRecord → ForwardRecord) : State :=
  { s with candidate := s.candidate.map f }

end State

/-! ## The checks of the loader -/

/-- `validate_failed_prefixes`: unique prefixes, each of a remote route. -/
def validateFailedPrefixes (declaration : PrepareDeclaration) (failed : List Ipv4Prefix) :
    Except InfrastructureError Unit :=
  if failed.Nodup ∧ ∀ p ∈ failed, ∃ r ∈ declaration.routes, r.kind = .remote ∧ r.ipv4Prefix = p
  then .ok ()
  else .error (.rejected "invalid_failed_prefix"
    "failures must be unique exact signed remote prefixes")

/-- `validate_live_policy_identity`. -/
def validateLivePolicyIdentity (previous target : PrepareDeclaration) :
    Except InfrastructureError Unit :=
  if previous.tableId ≠ target.tableId ∨ previous.overlayRouterIpv4 ≠ target.overlayRouterIpv4
      ∨ previous.effectiveMtu ≠ target.effectiveMtu ∨ previous.exclusions ≠ target.exclusions
      ∨ previous.firewall ≠ target.firewall then
    .error (.rejected "infra_policy_attribute_conflict"
      "live policy may change routes only; TUN, exclusions, firewall flags and sysctls are immutable")
  else .ok ()

/-- `valid_policy_hash`. -/
def validPolicyHash (value : String) : Bool := isHex value 64

/-- The shape of the policy fields of a record. -/
def metadataValid (r : ForwardRecord) : Bool :=
  match r.policyRevision, r.policyGeneration, r.policyHash with
  | 0, none, none => true
  | revision, some generation, some hash =>
    decide (0 < revision) && decide (r.owner.signedGeneration ≤ generation)
      && validPolicyHash hash
  | _, _, _ => false

/-- The checks on a retained policy intent. -/
def pendingPolicyValid (s : State) (r : ForwardRecord) (p : PendingPolicy) : Bool :=
  p.declaration.validate.isOk
    && (validateLivePolicyIdentity r.declaration p.declaration).isOk
    && !(decide (p.revision ≤ r.policyRevision) || decide (p.generation < r.generation)
      || !validPolicyHash p.authorizationSnapshotSha256 || r.pendingFailedPrefixes.isSome
      || s.candidate.isSome || r.phase != .active)

/-- The checks of `InfrastructureJournal::load` on one of the two records of a state. -/
def recordLoadable (s : State) (r : ForwardRecord) : Bool :=
  r.owner.validate.isOk && r.declaration.validate.isOk
    && (validateFailedPrefixes r.declaration r.failedPrefixes).isOk
    && r.pendingFailedPrefixes.all (fun p => (validateFailedPrefixes r.declaration p).isOk)
    && metadataValid r && r.pendingPolicy.all (pendingPolicyValid s r)
    && !((r.pendingFailedPrefixes.isSome != r.pendingFailureRevision.isSome)
      || r.pendingFailureRevision.any fun revision => decide (revision ≤ r.failureRevision))

/-- The checks of `InfrastructureJournal::load` on the state of an intact file. -/
def State.loadable (s : State) : Bool :=
  s.spec.all (fun spec => spec.validate.isOk) && s.forward.all (recordLoadable s)
    && s.candidate.all (recordLoadable s)

end CandyRuntime.NetdV2
