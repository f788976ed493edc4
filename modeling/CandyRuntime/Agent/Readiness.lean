import CandyRuntime.Agent.Loop
import CandyRuntime.CloudSync.Declaration

/-!
# The readiness reports of Core

The status file that Core writes for the agent: which reports `read_core_status` takes, how
`classify_core_readiness` classifies them, and the failed prefixes that are read from them.
-/

namespace CandyRuntime.Agent.V1

open Lib NetdProto CloudSync.Declaration

/-- `ReadinessPolicy`. -/
inductive ReadinessPolicy where
  | strict
  | committed
  | committedServer
deriving DecidableEq, Repr

/-- `CoreReadinessPath`, as far as the classification reads it. -/
structure CoreReadinessPath where
  rttSampleCount : ℕ
  probeMisses : ℕ
deriving DecidableEq, Repr

/-- `CoreReadinessStatus`. -/
structure CoreReadinessStatus where
  schemaVersion : ℕ
  generation : ℕ
  policyGeneration : ℕ
  pid : ℕ
  readinessToken : String
  lifecycle : String
  configuredPeers : ℕ
  activePeers : ℕ
  requiredRouteOwners : ℕ
  readyRouteOwners : ℕ
  failedPrefixes : Option (List String)
  inboundListenerConfigured : Bool
  inboundListenerReady : Bool
  inboundListenerEndpoints : List String
  failOpenRequired : Bool
  lastErrorCode : Option String
  lastErrorDetail : Option String
  paths : Option (List CoreReadinessPath)
deriving DecidableEq, Repr

/-- `CoreReadinessFailure`. -/
structure CoreReadinessFailure where
  code : String
  lifecycle : String
  detail : Option String
deriving DecidableEq, Repr

/-- The errors of reading a report. -/
inductive ReadinessError where
  | rejected (text : String)
  /-- `ReadinessBindingFailure`. -/
  | binding (code : String)
  | core (failure : CoreReadinessFailure)
deriving DecidableEq, Repr

/-! ## Reading -/

/-- `read_core_status`, of a file with this report. -/
def readCoreStatus (file : Option CoreReadinessStatus) (generation pid : ℕ)
    (readinessToken : String) : Except ReadinessError (Option CoreReadinessStatus) :=
  match file with
  | none => .ok none
  | some status =>
    if status.schemaVersion ≠ 3 ∨ status.pid ≠ pid ∨ status.readinessToken ≠ readinessToken then
      .error (.binding
        (if status.schemaVersion ≠ 3 then "readiness_schema_mismatch"
        else if status.pid ≠ pid then "readiness_pid_mismatch"
        else "readiness_token_mismatch"))
    else if status.generation < generation then .ok none
    else if generation < status.generation then
      .error (.rejected "SD-WAN Core readiness generation is newer than the requested activation")
    else if status.policyGeneration ≠ 0 ∧ status.policyGeneration < status.generation then
      .error (.rejected "SD-WAN Core readiness policy generation precedes tunnel generation")
    else if status.configuredPeers < status.activePeers
        ∨ status.activePeers < status.readyRouteOwners
        ∨ status.requiredRouteOwners < status.readyRouteOwners then
      .error (.rejected "SD-WAN Core readiness status has impossible peer counters")
    else .ok (some status)

/-! ## Classification -/

namespace CoreReadinessStatus

/-- A path with a sample of its round trip that still answers. -/
def usable (path : CoreReadinessPath) : Bool :=
  0 < path.rttSampleCount && path.probeMisses < 3

/-- `has_authenticated_path_evidence`. -/
def hasAuthenticatedPathEvidence (status : CoreReadinessStatus) : Bool :=
  status.paths.any fun paths => status.readyRouteOwners ≤ (paths.filter usable).length

/-- `listener_ready`. -/
def listenerReady (status : CoreReadinessStatus) : Bool :=
  status.inboundListenerConfigured && status.inboundListenerReady
    && !status.inboundListenerEndpoints.isEmpty

/-- `recoverable_peer_loss_code`. -/
def recoverablePeerLossCode (status : CoreReadinessStatus) : Bool :=
  status.lastErrorCode.any fun code =>
    ["all_peer_reads_failed", "all_peer_writes_failed", "route_has_no_active_peer",
      "route_peer_missing", "peer_barrier_failed", "tun_route_probe_timeout",
      "tun_route_probe_no_reply"].contains code

/-- `recoverable_stream_not_ready`. -/
def recoverableStreamNotReady (status : CoreReadinessStatus) : Bool :=
  status.lastErrorCode == some "stream_not_ready" && status.failOpenRequired

/-- The loss of peers that this report is about can be recovered from. -/
def recoverable (status : CoreReadinessStatus) : Bool :=
  status.recoverablePeerLossCode || status.recoverableStreamNotReady

/-- The steering is committed, on a server with its listener. -/
def committedUnder (status : CoreReadinessStatus) (policy : ReadinessPolicy) : Bool :=
  policy == .committed || policy == .committedServer && status.listenerReady

/-- The lifecycles in which peers can be lost. -/
def running (status : CoreReadinessStatus) : Bool :=
  status.lifecycle == "active" || status.lifecycle == "failed" || status.lifecycle == "starting"

/-- `recoverable_committed_peer_loss`. -/
def recoverableCommittedPeerLoss (status : CoreReadinessStatus) (policy : ReadinessPolicy) : Bool :=
  status.running && status.failOpenRequired && status.committedUnder policy
    && 0 < status.configuredPeers && 0 < status.requiredRouteOwners
    && status.readyRouteOwners == 0 && status.recoverable

/-- `recoverable_committed_partial_loss`. -/
def recoverableCommittedPartialLoss (status : CoreReadinessStatus) (policy : ReadinessPolicy) :
    Bool :=
  status.running && status.committedUnder policy
    && 1 < status.requiredRouteOwners && 0 < status.readyRouteOwners
    && status.readyRouteOwners < status.requiredRouteOwners
    && status.hasAuthenticatedPathEvidence
    && (!status.failOpenRequired || status.recoverable)

/-- The healthy part of the route owners carries traffic. -/
def partlyReady (status : CoreReadinessStatus) : Bool :=
  !status.failOpenRequired && 0 < status.requiredRouteOwners && 0 < status.readyRouteOwners
    && status.readyRouteOwners < status.requiredRouteOwners
    && status.hasAuthenticatedPathEvidence

/-- The error of a state that is `Failed`. -/
def failed (status : CoreReadinessStatus) : ReadinessError :=
  .core {
    code := status.lastErrorCode.getD "core_readiness_reason_missing"
    lifecycle := status.lifecycle
    detail := status.lastErrorDetail }

end CoreReadinessStatus

def invalidLifecycle : ReadinessError :=
  .rejected "SD-WAN Core readiness status has an invalid lifecycle"

/-- `classify_core_readiness`, arm by arm. -/
def classifyCoreReadiness (status : CoreReadinessStatus) (policy : ReadinessPolicy) :
    Except ReadinessError ReadinessState :=
  if (status.lifecycle == "active" || status.lifecycle == "starting")
      && !status.failOpenRequired && 0 < status.requiredRouteOwners
      && status.readyRouteOwners == 0 && status.lastErrorCode == some "stream_not_ready" then
    if status.listenerReady then .ok .listenerReady else .ok .waiting
  else if status.lifecycle == "starting" && !status.failOpenRequired && status.listenerReady then
    .ok .listenerReady
  else if status.lifecycle == "starting" && !status.failOpenRequired then .ok .waiting
  else if status.lifecycle == "active" && !status.failOpenRequired
      && 0 < status.requiredRouteOwners && status.readyRouteOwners == status.requiredRouteOwners
      && status.hasAuthenticatedPathEvidence then
    .ok .ready
  else if status.running && status.recoverableCommittedPartialLoss policy then .ok .degraded
  else if status.lifecycle == "active" && status.partlyReady && status.listenerReady then
    .ok .degraded
  else if status.lifecycle == "active" && status.partlyReady then .ok .waiting
  else if status.running && status.recoverableCommittedPeerLoss policy then
    .ok .recoverablePeerLoss
  else if status.running && policy == .strict && status.recoverable
      && 0 < status.configuredPeers && 0 < status.requiredRouteOwners then
    .ok .waiting
  else if status.lifecycle == "failed" || status.lifecycle == "stopping"
      || status.lifecycle == "stopped" then
    .error status.failed
  else if status.lifecycle == "active" && (status.failOpenRequired
      || status.requiredRouteOwners == 0 || status.readyRouteOwners == 0) then
    .error status.failed
  else .error invalidLifecycle

/-! ## Failed prefixes -/

/-- The routes that `parse_failed_prefixes` admits. -/
def RouteDeclaration.remote (route : RouteDeclaration) : Bool :=
  route.kind == .remote || route.kind == .remoteEgress || route.kind == .remoteEgressGateway

/-- One round of the loop of `parse_failed_prefixes`. -/
def collectFailedPrefix (declaration : PrepareDeclaration) (prefixes : List Ipv4Prefix)
    (value : String) : Except String (List Ipv4Prefix) :=
  match parsePrefix value with
  | .error _ => .error ("Core reported invalid failed prefix " ++ value)
  | .ok p =>
    if declaration.routes.any (fun route => route.ipv4Prefix == p && RouteDeclaration.remote route)
    then if prefixes.contains p then .ok prefixes else .ok (prefixes ++ [p])
    else .error ("Core reported failed prefix " ++ value ++ " outside remote route declaration")

/-- `parse_failed_prefixes`. -/
def parseFailedPrefixes (status : CoreReadinessStatus) (declaration : PrepareDeclaration) :
    Except String (Option (List Ipv4Prefix)) :=
  match status.failedPrefixes with
  | none => .ok none
  | some values => (values.foldlM (collectFailedPrefix declaration) []).map some

/-- `desired_failed_prefixes`. -/
def desiredFailedPrefixes (status : CoreReadinessStatus) (declaration : PrepareDeclaration) :
    Except String (Option (List Ipv4Prefix)) :=
  parseFailedPrefixes status declaration

end CandyRuntime.Agent.V1
