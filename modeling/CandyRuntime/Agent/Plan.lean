import CandyRuntime.Tunio.State

/-!
# The records of the agent

The plan of a forwarding domain, the record of a managed worker with the status file the worker
keeps, and the report of a verified compilation, as far as the policy publication reads them.
Paths and opaque texts are strings.
-/

namespace CandyRuntime.Agent

open NetdProto NetdV2 Tunio

/-- `AuthorityProof`. -/
structure AuthorityProof where
  revision : ℕ
  sha256 : String
  transactionId : String
deriving DecidableEq, Repr

/-- `WorkerPlacement`; a shared worker is its text. -/
structure WorkerPlacement where
  revision : ℕ
  targetWorkerId : ℕ
  poolDirectory : String
  shared : Option String
deriving DecidableEq, Repr

/-- `Plan`. Of `PairRecovery` only the original I/O epoch is read, and of `IndependentWorker`
the path of its record. -/
structure Plan where
  tunio : String
  core : String
  coreConfig : String
  infrastructure : InfraSpec
  domainId : InstanceId
  ioEpoch : ℕ
  workerEpoch : ℕ
  fencingToken : ℕ
  signedGeneration : ℕ
  bindingPolicyGeneration : Option ℕ
  policyRevision : ℕ
  authDeadlineUnix : ℕ
  declaration : PrepareDeclaration
  routingNamespace : Option String
  independentWorker : Option String
  authority : Option AuthorityProof
  effectivePlanFile : Option String
  authorizationSnapshotSha256 : Option String
  pairRecovery : Option ℕ
  placement : Option WorkerPlacement
  sharedListener : Option String
deriving DecidableEq, Repr

/-- `binding_policy_generation`. -/
def bindingPolicyGeneration (plan : Plan) : ℕ :=
  plan.bindingPolicyGeneration.getD plan.signedGeneration

/-- `same_io_lineage`. -/
def sameIoLineage (current desired : Plan) : Bool :=
  match current.pairRecovery with
  | some original =>
    let expected := desired.pairRecovery.getD desired.ioEpoch
    original = expected && expected < current.ioEpoch
      && (desired.pairRecovery = none || current.ioEpoch = desired.ioEpoch)
  | none => current.ioEpoch = desired.ioEpoch

/-- `ManagedProcessRecord`, less what identifies the executable and the shared host. -/
structure ManagedProcessRecord where
  pid : UInt32
  processStartTicks : ℕ
  readinessTokenSha256 : String
  policyGeneration : ℕ
  statusGeneration : Option ℕ
  effectivePlanFile : Option String
  authorizationSnapshotSha256 : Option String
  authDeadlineUnix : ℕ
deriving DecidableEq, Repr

/-- The identity of the recorded process. -/
def ManagedProcessRecord.identity (r : ManagedProcessRecord) : ProcessIdentity :=
  ⟨r.pid, r.processStartTicks⟩

/-- The private status of a worker: the members of its JSON object that are read, each missing
or with a value of its type. The readiness token is known by its digest. -/
structure WorkerStatus where
  schemaVersion : Option ℕ
  pid : Option UInt32
  generation : Option ℕ
  authDeadlineUnix : Option ℕ
  packetBinding : Option PacketPortBinding
  readinessTokenSha256 : Option String
  workerAuthorityRevision : Option ℕ
  workerAuthoritySha256 : Option String
  workerTransactionId : Option String
  policyGeneration : Option ℕ
  policyRevision : Option ℕ
  authorizationSnapshotSha256 : Option String
deriving DecidableEq, Repr

/-- The report of `compile-control`. -/
structure Report where
  transportFingerprint : Option String
  trustSha256 : Option String
  resourceContractSha256 : Option String
  tenantId : Option String
  segmentId : Option String
  siteId : Option String
  attachmentId : Option String
  deviceId : Option String
  deviceKeyId : Option String
  authorizationSnapshotSha256 : Option String
deriving DecidableEq, Repr

end CandyRuntime.Agent
