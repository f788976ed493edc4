import CandyRuntime.Agent.Plan
import CandyRuntime.Lib.Proc

/-!
# The registration of a worker with the shared listener

`publish_registration` of `listener_registration.rs`: one file for each domain, replaced under the
domain's lock by a rename, and the three predicates that decide whether a publication may replace
what the file holds. What a publication finds around it (the master's record, the worker's record
and status, the files it reads and writes) is given by `Surroundings`.
-/

namespace CandyRuntime.Agent

open Lib Lib.Proc NetdProto Tunio

/-! ## Paths -/

/-- `Path::is_absolute`. -/
def isAbsolute (path : String) : Bool := path.toList.head? = some '/'

/-- `file_stem`: the name up to its last dot, unless the name begins with it. -/
def fileStem (name : List Char) : List Char :=
  match name.reverse.dropWhile (· ≠ '.') with
  | '.' :: stem => if stem.isEmpty then name else stem.reverse
  | _ => name

/-- A path from its end on, without the slashes and the `.` components there. -/
def dropTrailing : List Char → List Char
  | '/' :: rest => dropTrailing rest
  | '.' :: '/' :: rest => dropTrailing rest
  | rest => rest

/-- `Path::with_extension`; a path without a file name stays as it is. -/
def withExtension (path extension : String) : String :=
  let text := (dropTrailing path.toList.reverse).reverse
  let name := (text.reverse.takeWhile (· ≠ '/')).reverse
  if name = [] ∨ name = ['.'] ∨ name = ['.', '.'] then path
  else String.ofList
    (text.take (text.length - name.length) ++ fileStem name ++ '.' :: extension.toList)

/-! ## Records -/

/-- `ListenerPlan`. -/
structure ListenerPlan where
  directory : String
  serverConfig : String
  workerId : ℕ
deriving DecidableEq, Repr

/-- `Master`. -/
structure Master where
  schemaVersion : ℕ
  masterInstance : String
  process : ProcessIdentity
  transportId : ℕ
  uid : ℕ
deriving DecidableEq, Repr

/-- `Registration`. -/
structure Registration where
  schemaVersion : ℕ
  masterInstance : String
  routingDomainId : InstanceId
  workerId : ℕ
  workerEpoch : ℕ
  pid : UInt32
  processStartTicks : ℕ
  uid : ℕ
  dispatch : String
  processRecord : String
  effectivePlan : String
  authorizationSha256 : String
  policyGeneration : ℕ
  policyRevision : ℕ
  authDeadlineUnix : ℕ
  preparedIngress : Bool
deriving DecidableEq, Repr

/-- The fields of `Plan` that a publication reads. -/
structure ListeningPlan where
  sharedListener : Option ListenerPlan
  /-- `control_socket` of the independent worker. -/
  independentWorker : Option String
  domainId : InstanceId
  workerEpoch : ℕ
  signedGeneration : ℕ
  policyRevision : ℕ
  authDeadlineUnix : ℕ
  effectivePlanFile : Option String
  authorizationSnapshotSha256 : Option String
deriving DecidableEq, Repr

/-- The fields of `ManagedProcessRecord` that a publication reads. -/
structure OwnerRecord where
  pid : UInt32
  processStartTicks : ℕ
  uid : ℕ
  workerEpoch : Option ℕ
  policyGeneration : ℕ
  authorizationSnapshotSha256 : Option String
  authDeadlineUnix : ℕ
deriving DecidableEq, Repr

/-- The members of the worker's status that a publication reads. -/
structure ListenerStatus where
  lifecycle : Option String
  registeredListenerReady : Option Bool
  authorizationSnapshotSha256 : Option String
  policyRevision : Option ℕ
deriving DecidableEq, Repr

/-- The errors of a publication, by their codes. -/
inductive PublishError where
  | planInvalid
  | registryDirectory
  | masterUnavailable
  | masterLivenessUnconfirmed
  | ownerRecord
  | workerUnavailable
  | ownerMismatch
  | activePolicyUnacknowledged
  | planIncomplete
  | registrationLock
  | registrationBusy
  | epochStale
  | registrationUnconfirmed
  | writeFailed
  | masterStale
  | activationAckPending
  | activationAckMismatch
  | masterChanged
deriving DecidableEq, Repr

/-! ## The predicates -/

/-- `stale_registration`. -/
def staleRegistration (current proposed : Registration) : Bool :=
  let sameOwner := current.workerEpoch == proposed.workerEpoch
    && current.workerId == proposed.workerId
    && current.pid == proposed.pid
    && current.processStartTicks == proposed.processStartTicks
    && current.routingDomainId == proposed.routingDomainId
  decide (proposed.workerEpoch < current.workerEpoch)
    || (current.workerEpoch == proposed.workerEpoch && !sameOwner)
    || decide (proposed.policyGeneration < current.policyGeneration)
    || (sameOwner
      && (decide (proposed.policyRevision < current.policyRevision)
        || (current.policyRevision == proposed.policyRevision
          && (current.policyGeneration != proposed.policyGeneration
            || current.authorizationSha256 != proposed.authorizationSha256))))

/-- `is_committed_equivalent`. -/
def isCommittedEquivalent (current proposed : Registration) : Bool :=
  if !proposed.preparedIngress || current.preparedIngress then false
  else current == { proposed with preparedIngress := false }

/-- `listener_available`. -/
def listenerAvailable (status : ListenerStatus) : Bool :=
  status.lifecycle == some "active" || status.lifecycle == some "starting"
    || (status.lifecycle == some "failed" && status.registeredListenerReady == some true)

/-! ## A publication -/

/-- The master's record as it is read, and whether its process is confirmed to be current. -/
structure MasterReading where
  master : Option Master
  confirmed : ProcessIdentity → Option Bool

/-- How the domain's lock is met. -/
inductive Locking where
  | taken
  | busy
  | invalid
deriving DecidableEq, Repr

/-- What a publication finds around it. -/
structure Surroundings where
  /-- Linux with the feature `experimental-tunio-rebind`. -/
  rebindEnabled : Bool
  /-- The registry is a directory of the service alone. -/
  directoryPrivate : Bool
  uid : ℕ
  first : MasterReading
  record : Option OwnerRecord
  /-- What `validate_bound_status` of the record returns. -/
  status : Option ListenerStatus
  locking : Locking
  /-- The registration file can be read, or is known to be absent. -/
  readable : Bool
  write : Write
  /-- The readings of `verify_activation`, around that of the activation file. -/
  second : MasterReading
  activation : Option Registration
  third : MasterReading

/-- One call of `publish_registration`. -/
structure Publication where
  plan : ListeningPlan
  ownerPath : String
  preparedIngress : Bool
  around : Surroundings

/-- A step of a publication; the state is what the domain's file holds. -/
abbrev Publish := Proc (Option Registration) PublishError

/-- `validate`. -/
def ListeningPlan.valid (plan : ListeningPlan) (listener : ListenerPlan) (rebindEnabled : Bool) :
    Bool :=
  rebindEnabled && plan.independentWorker.isSome && isAbsolute listener.directory
    && isAbsolute listener.serverConfig && listener.workerId != 0

/-- `verify_activation`. -/
def verifyActivation (around : Surroundings) (expected : Registration) : Publish Unit := do
  let master ← okOr around.second.master .masterUnavailable
  ensure (master.schemaVersion = 1 ∧ master.masterInstance = expected.masterInstance
    ∧ master.transportId ≠ 0 ∧ master.uid = expected.uid) .masterStale
  let confirmed ← okOr (around.second.confirmed master.process) .masterLivenessUnconfirmed
  ensure (confirmed = true) .masterStale
  let active ← okOr around.activation .activationAckPending
  ensure (active = expected) .activationAckMismatch
  let current ← okOr around.third.master .masterUnavailable
  ensure (current = master) .masterChanged
  let confirmed ← okOr (around.third.confirmed current.process) .masterLivenessUnconfirmed
  ensure (confirmed = true) .masterChanged

/-- The registration a publication proposes, once the worker is known to serve its plan. -/
def proposedRegistration (publication : Publication) (listener : ListenerPlan) :
    Publish Registration := do
  let plan := publication.plan
  let around := publication.around
  let master ← okOr around.first.master .masterUnavailable
  ensure (master.schemaVersion = 1 ∧ master.transportId ≠ 0 ∧ master.uid = around.uid)
    .masterUnavailable
  let confirmed ← okOr (around.first.confirmed master.process) .masterLivenessUnconfirmed
  ensure (confirmed = true) .masterUnavailable
  let record ← okOr around.record .ownerRecord
  let status ← okOr around.status .ownerRecord
  ensure (listenerAvailable status = true) .workerUnavailable
  ensure (record.workerEpoch = some plan.workerEpoch
    ∧ record.policyGeneration = plan.signedGeneration
    ∧ record.authorizationSnapshotSha256 = plan.authorizationSnapshotSha256
    ∧ record.authDeadlineUnix = plan.authDeadlineUnix) .ownerMismatch
  ensure (¬ (plan.policyRevision ≠ 0
    ∧ (status.authorizationSnapshotSha256 ≠ plan.authorizationSnapshotSha256
      ∨ status.policyRevision ≠ some plan.policyRevision))) .activePolicyUnacknowledged
  let controlSocket ← okOr plan.independentWorker .planIncomplete
  let effectivePlan ← okOr plan.effectivePlanFile .planIncomplete
  let authorizationSha256 ← okOr plan.authorizationSnapshotSha256 .planIncomplete
  return { schemaVersion := 1, masterInstance := master.masterInstance,
           routingDomainId := plan.domainId, workerId := listener.workerId,
           workerEpoch := plan.workerEpoch, pid := record.pid,
           processStartTicks := record.processStartTicks, uid := record.uid,
           dispatch := withExtension controlSocket "transport.sock",
           processRecord := publication.ownerPath, effectivePlan, authorizationSha256,
           policyGeneration := plan.signedGeneration, policyRevision := plan.policyRevision,
           authDeadlineUnix := plan.authDeadlineUnix,
           preparedIngress := publication.preparedIngress }

/-- The replacement of the domain's file by a rename, which either happens or does not. -/
def replaceFile (around : Surroundings) (registration : Registration) : Publish Unit := do
  durable around.write .writeFailed fun _ => some registration
  verifyActivation around registration

/-- `publish_registration` once the lock is held. -/
def publishLocked (around : Surroundings) (registration : Registration) : Publish Unit := do
  ensure (around.readable = true) .registrationUnconfirmed
  match ← get with
  | some current =>
    if current = registration then verifyActivation around registration
    else if isCommittedEquivalent current registration then verifyActivation around current
    else
      ensure (staleRegistration current registration = false) .epochStale
      replaceFile around registration
  | none => replaceFile around registration

/-- `publish_registration`. -/
def publishRegistration (publication : Publication) : Publish Unit := do
  let around := publication.around
  match publication.plan.sharedListener with
  | none => pure ()
  | some listener =>
    ensure (publication.plan.valid listener around.rebindEnabled = true) .planInvalid
    ensure (around.directoryPrivate = true) .registryDirectory
    let registration ← proposedRegistration publication listener
    match around.locking with
    | .invalid => fail .registrationLock
    | .busy => fail .registrationBusy
    | .taken => publishLocked around registration

end CandyRuntime.Agent
