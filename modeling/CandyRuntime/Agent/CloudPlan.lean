import CandyRuntime.Agent.Plan
import CandyRuntime.CloudSync.Declaration
import CandyRuntime.Lib.Json

/-!
# The plan of a Cloud activation

`read_plan`, and `cloud_activation_plan`, which makes the plan that the bridge publishes from a local
template and a declaration of Cloud. The exclusions of the template are added to those of Cloud unless
their prefix is there already.

The format of a plan file, the directories of worker pools and the compiler of Core are parameters.
Paths are strings.
-/

namespace CandyRuntime.Agent.CloudPlan

open Lib NetdProto NetdV2
open CloudSync.Declaration (orFail hexPair parsePrefix)

/-- `PairRecovery`. -/
structure PairRecovery where
  originalIoEpoch : ℕ
  bootId : String
  authDeadlineMonoMs : ℕ
  retiredRenewalJournal : Option String
  authorizationSnapshotSha256 : Option String
deriving DecidableEq, Repr

/-- `IndependentSupervision`. -/
structure IndependentSupervision where
  controlSocket : String
  status : String
  processRecord : String
deriving DecidableEq, Repr

/-- `IndependentWorker`. -/
structure IndependentWorker where
  controlSocket : String
  processRecord : String
deriving DecidableEq, Repr

/-- `ListenerPlan`. -/
structure ListenerPlan where
  directory : String
  serverConfig : String
  workerId : ℕ
deriving DecidableEq, Repr

/-- `Plan`, with all its fields. -/
structure DomainPlan where
  schemaVersion : UInt8
  netdSocket : String
  tunio : String
  core : String
  coreConfig : String
  coreStatus : String
  bindingFile : String
  instanceId : InstanceId
  infrastructure : InfraSpec
  domainId : InstanceId
  ioEpoch : ℕ
  workerEpoch : ℕ
  fencingToken : ℕ
  signedGeneration : ℕ
  bindingPolicyGeneration : Option ℕ
  policyRevision : ℕ
  authDeadlineUnix : ℕ
  declaration : PrepareDeclaration
  routingNamespace : Option String
  independentSupervision : Option IndependentSupervision
  independentWorker : Option IndependentWorker
  authority : Option AuthorityProof
  effectivePlanFile : Option String
  authorizationSnapshotSha256 : Option String
  pairRecovery : Option PairRecovery
  placement : Option WorkerPlacement
  sharedListener : Option ListenerPlan
  workerCandidatePlan : Option String
deriving DecidableEq, Repr

/-- How a plan is written as JSON, and read. -/
structure PlanFormat where
  encode : DomainPlan → Except String Bytes
  decode : Bytes → Except String DomainPlan

/-- A file and what is asked of its metadata. -/
structure PlanFile where
  regular : Bool
  mode : ℕ
  uid : UInt32
  bytes : Bytes
deriving DecidableEq, Repr

/-- The process and its file system. -/
structure Surroundings where
  euid : UInt32
  privateDirectory : String → Bool

/-- `MAX_SIGNED_CONFIG_BYTES`. -/
def maxSignedConfigBytes : ℕ := 8 * 1024 * 1024

/-- `Path::is_absolute`. -/
def isAbsolute (path : String) : Bool := path.toList.head? = some '/'

/-! ## `read_plan` -/

/-- What is asked of the identity of a plan. -/
def identityInvalid (plan : DomainPlan) : Bool :=
  plan.schemaVersion != 1 || plan.instanceId == InstanceId.zero || plan.domainId == InstanceId.zero
    || plan.ioEpoch == 0 || plan.workerEpoch == 0 || plan.signedGeneration == 0
    || plan.bindingPolicyGeneration.any fun generation =>
      generation == 0 || decide (plan.signedGeneration < generation)

/-- `listener_registration::validate`. -/
def listenerInvalid (plan : DomainPlan) : Bool :=
  plan.sharedListener.any fun listener =>
    plan.independentWorker.isNone || !isAbsolute listener.directory
      || !isAbsolute listener.serverConfig || listener.workerId == 0

def supervisionInvalid (plan : DomainPlan) : Bool :=
  plan.independentSupervision.any fun supervision =>
    !isAbsolute supervision.controlSocket || !isAbsolute supervision.status
      || !isAbsolute supervision.processRecord

def workerInvalid (plan : DomainPlan) : Bool :=
  plan.independentWorker.any fun worker =>
    plan.independentSupervision.isNone || !isAbsolute worker.controlSocket
      || !isAbsolute worker.processRecord

def placementInvalid (plan : DomainPlan) : Bool :=
  plan.placement.any fun placement =>
    plan.independentWorker.isNone || placement.revision == 0 || placement.targetWorkerId == 0
      || !isAbsolute placement.poolDirectory

/-- The checks of `read_plan` behind the decoding. -/
def checkPlan (env : Surroundings) (plan : DomainPlan) : Except String Unit := do
  refuseIf (identityInvalid plan) "experimental plan identity invalid"
  refuseIf (!([plan.netdSocket, plan.tunio, plan.core, plan.coreConfig, plan.coreStatus,
    plan.bindingFile].all isAbsolute)) "experimental paths must be absolute"
  plan.infrastructure.validate.mapError fun _ => "invalid infrastructure"
  plan.declaration.validate.mapError fun _ => "invalid declaration"
  refuseIf (supervisionInvalid plan) "independent supervision paths must be absolute"
  refuseIf (workerInvalid plan)
    "independent worker requires independent TUN I/O and absolute private paths"
  refuseIf (listenerInvalid plan) "code=listener_plan_invalid"
  refuseIf (placementInvalid plan) "code=worker_placement_invalid"
  refuseIf (plan.placement.any fun placement => !env.privateDirectory placement.poolDirectory)
    "code=worker_pool_directory_invalid"
  refuseIf (plan.infrastructure.overlayRouterIpv4 != plan.declaration.overlayRouterIpv4
      || plan.infrastructure.mtu != plan.declaration.effectiveMtu)
    "infrastructure and forwarding declaration disagree"

/-- `read_plan`. -/
def readPlan (F : PlanFormat) (env : Surroundings) (file : PlanFile) :
    Except String DomainPlan := do
  refuseIf (!file.regular || file.mode != 0o600 || file.uid != env.euid
      || decide (maxSignedConfigBytes < file.bytes.length))
    "experimental plan requires private bounded 0600 regular file"
  let plan ← F.decode file.bytes
  checkPlan env plan
  return plan

/-! ## The verification by Core -/

def domainHex (id : InstanceId) : String :=
  String.ofList (id.toList.flatMap fun b => hexPair b.toNat)

def asText : Json → Option String
  | .str text => some text
  | _ => none

/-- A signed local prefix. -/
def signedLocal (value : Json) : Except String RouteDeclaration := do
  let text ← orFail (asText value) "invalid signed prefix"
  return ⟨← parsePrefix text, .localSite⟩

def signedKind (value : Json) : Except String RouteKind :=
  if value.isText "remote" then .ok .remote
  else if value.isText "remote-egress" then .ok .remoteEgress
  else if value.isText "remote-egress-gateway" then .ok .remoteEgressGateway
  else .error "unknown signed route kind"

/-- A signed remote route. -/
def signedRemote (value : Json) : Except String RouteDeclaration := do
  let kind ← signedKind (value.field "kind")
  let text ← orFail (asText (value.field "destination")) "invalid signed remote prefix"
  return ⟨← parsePrefix text, kind⟩

def routeKey (r : RouteDeclaration) : ℕ := r.ipv4Prefix.rank * 8 + r.kind.code

def exclusionKey (e : UnderlayExclusion) : ℕ := e.ipv4Prefix.rank * 8 + e.kind.code

/-- One signed exclusion, which the plan must have. -/
def checkExclusion (plan : DomainPlan) (value : Json) : Except String Unit := do
  let text ← orFail (asText value) "invalid signed exclusion"
  let p ← parsePrefix text
  refuseIf (!plan.declaration.exclusions.any (·.ipv4Prefix == p))
    "experimental plan omits a signed underlay exclusion"

/-- `validate_compiled_declaration`. -/
def validateCompiledDeclaration (report : Json) (plan : DomainPlan) : Except String Unit := do
  refuseIf (!(report.field "segment_id").isText (domainHex plan.domainId))
    "experimental routing domain differs from verified signed control"
  let netd := report.field "netd"
  refuseIf (!(netd.field "table_id").isNat plan.declaration.tableId.toNat
      || !(netd.field "max_inner_mtu").isNat plan.declaration.effectiveMtu.toNat
      || !(netd.field "overlay_router_ipv4").isText
        (String.ofList (addressText plan.declaration.overlayRouterIpv4)))
    "experimental declaration identity differs from verified signed control"
  let localValues ← orFail (netd.field "local_prefixes").asArray "signed local prefixes absent"
  let localRoutes ← localValues.mapM signedLocal
  let remoteValues ← orFail (netd.field "remote_routes").asArray "signed remote routes absent"
  let remoteRoutes ← remoteValues.mapM signedRemote
  let routes := (localRoutes ++ remoteRoutes).insertionSort fun a b => routeKey a ≤ routeKey b
  refuseIf (routes != plan.declaration.routes) "experimental routes differ from verified signed control"
  let exclusionValues ← orFail (netd.field "underlay_ipv4_exclusions").asArray
    "signed underlay exclusions absent"
  exclusionValues.forM (checkExclusion plan)

/-- `compile_verified_plan_bounded`, with what Core's compiler reports for a plan. -/
def compileVerifiedPlan (compile : DomainPlan → Except String Json) (plan : DomainPlan) :
    Except String DomainPlan := do
  let report ← compile plan
  validateCompiledDeclaration report plan
  let verifiedDeadline ← orFail
    ((report.field "authorization_expires_at_unix").asU64.filter (0 < ·))
    "Core compile report lacks verified authorization expiry"
  refuseIf (!(report.field "projection_generation").isNat plan.signedGeneration)
    "experimental plan policy generation differs from verified signed control"
  return { plan with authDeadlineUnix := min plan.authDeadlineUnix verifiedDeadline }

/-! ## `cloud_activation_plan` -/

/-- The template has independent processes and nothing of a former activation. -/
def templateRejected (plan : DomainPlan) : Bool :=
  plan.independentWorker.isNone || plan.independentSupervision.isNone || plan.authority.isSome
    || plan.workerCandidatePlan.isSome || plan.pairRecovery.isSome || plan.effectivePlanFile.isSome
    || plan.authorizationSnapshotSha256.isSome || plan.bindingPolicyGeneration.isSome

/-- One exclusion of the template, added when its prefix is not there. -/
def addExclusion (exclusions : List UnderlayExclusion) (entry : UnderlayExclusion) :
    List UnderlayExclusion :=
  if exclusions.any (·.ipv4Prefix == entry.ipv4Prefix) then exclusions else exclusions ++ [entry]

/-- The exclusions of Cloud with those of the template. -/
def mergeExclusions (cloud template : List UnderlayExclusion) : List UnderlayExclusion :=
  (template.foldl addExclusion cloud).insertionSort fun a b => exclusionKey a ≤ exclusionKey b

/-- What happens while the bridge makes a plan: the snapshot of the configuration, the time that is
left, Core's compiler and the clock. -/
structure Activation where
  snapshot : Option String
  inTime : Bool
  compile : DomainPlan → Except String Json
  now : ℕ

/-- The plan that Core verifies. -/
def candidatePlan (template : DomainPlan) (declaration : PrepareDeclaration) (generation : ℕ)
    (coreConfig : String) : DomainPlan :=
  { template with
    declaration := { declaration with
      exclusions := mergeExclusions declaration.exclusions template.declaration.exclusions }
    signedGeneration := generation
    coreConfig
    authDeadlineUnix := 2 ^ 64 - 1 }

/-- `cloud_activation_plan`. -/
def cloudActivationPlan (F : PlanFormat) (env : Surroundings) (a : Activation) (template : PlanFile)
    (coreConfig : String) (declaration : PrepareDeclaration) (generation : ℕ) :
    Except String Bytes := do
  let plan ← readPlan F env template
  refuseIf (templateRejected plan) "code=cloud_plan_template_rejected"
  refuseIf (declaration.tableId != plan.declaration.tableId
      || declaration.overlayRouterIpv4 != plan.infrastructure.overlayRouterIpv4
      || declaration.effectiveMtu != plan.infrastructure.mtu
      || declaration.firewall != plan.declaration.firewall)
    "code=cloud_plan_infrastructure_mismatch"
  let snapshot ← orFail a.snapshot "signed snapshot rejected"
  refuseIf (!a.inTime) "Cloud plan iteration deadline reached"
  let verified ← compileVerifiedPlan a.compile (candidatePlan plan declaration generation snapshot)
  refuseIf (decide (verified.authDeadlineUnix ≤ a.now)) "code=cloud_plan_authority_expired"
  F.encode { verified with coreConfig }

/-- What `atomic_private` leaves in place of the published plan. -/
def publishedFile (env : Surroundings) (bytes : Bytes) : PlanFile where
  regular := true
  mode := 0o600
  uid := env.euid
  bytes

end CandyRuntime.Agent.CloudPlan
