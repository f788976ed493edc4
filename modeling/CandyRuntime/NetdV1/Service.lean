import CandyRuntime.NetdProto.Session
import CandyRuntime.NetdV1.Runs

/-!
# The v1 service

`NetdService::process`: one request of one peer, answered from the session and the network
transaction. The session is advanced on a copy, which is kept only when the transaction
accepts the request as well.

The tunnel descriptor is kept as whether it exists; `Surroundings` says how the three calls
outside the network backend end. The pidfd of the owner only serves liveness checks and is
left out.
-/

namespace CandyRuntime.NetdV1

open Lib Lib.Proc NetdProto

/-- `PeerCredentials`. -/
structure PeerCredentials where
  pid : UInt32
  uid : UInt32
  gid : UInt32
deriving DecidableEq, Repr

/-- What `tun_factory.create`, `fcntl` and `monotonic_ms` answer during a request. -/
structure Surroundings where
  tunCreated : Bool
  duplicated : Bool
  nowMonoMs : UInt64

/-- `NetdService`. -/
structure NetdService (β : Type) where
  allowedUid : UInt32
  allowedGid : UInt32
  session : NetdSession
  tun : Bool
  network : NetworkTransaction β

/-- A step of the service. It never fails: refusals are responses. -/
abbrev Svc (β : Type) := Proc (NetdService β) NetworkError

variable {β : Type}

def defaultDrainTimeoutMs : UInt64 := 2000
def maxDrainTimeoutMs : UInt64 := 30000

/-- `session_error_code`. -/
def sessionErrorCode : NetdSessionError → ErrorCode
  | .generationConflict | .ownerMismatch => .generationConflict
  | .invalidTransition | .invalidDeclaration => .invalidRequest

/-- `network_error_code`. -/
def networkErrorCode : NetworkError → ErrorCode
  | .conflict => .generationConflict
  | .invalidTransition => .invalidRequest
  | .backend => .systemFailure
  | .backendStage .preflight => .preflightFailed
  | .backendStage .linkPrepare => .linkPrepareFailed
  | .backendStage .routePrepare => .routePrepareFailed
  | .backendStage .firewallPrepare => .firewallPrepareFailed
  | .backendStage .sysctlPrepare => .sysctlPrepareFailed
  | .backendStage .linkActivate => .linkActivateFailed
  | .backendStage .policyActivate => .policyActivateFailed
  | .journal => .systemFailure
  | .drainPending => .drainPending

/-- Run an operation of the network transaction; its error is a value. -/
def network {α : Type} (m : Tx β α) : Svc β (Except NetworkError α) := fun s =>
  match m s.network with
  | (.ok a, n) => (.ok (.ok a), { s with network := n })
  | (.err e, n) => (.ok (.error e), { s with network := n })
  | (.crash, n) => (.crash, { s with network := n })

/-- An operation that answers with `body` when the transaction accepts it. -/
def carryOut (m : Tx β Unit) (body : ResponseBody) : Svc β (Except ErrorCode ResponseBody) := do
  match ← network m with
  | .error e => return .error (networkErrorCode e)
  | .ok () => return .ok body

/-- `Prepare`: the tunnel is created on demand, and its descriptor handed out last. -/
def servePrepare (J : JournalFormat β) (env : Surroundings) (owner : LeaseOwner)
    (declaration : PrepareDeclaration) : Svc β (Except ErrorCode ResponseBody) := do
  if (← get).tun = false ∧ env.tunCreated = false then return .error .systemFailure
  else
    modify fun s => { s with tun := true }
    match ← network (prepare J owner declaration) with
    | .error e =>
      modify fun s => { s with tun := false }
      return .error (networkErrorCode e)
    | .ok () =>
      if env.duplicated then return .ok (.prepared owner.generation true)
      else return .error .systemFailure

/-- The operations of the service, by request. -/
def serve (J : JournalFormat β) (env : Surroundings) (request : NetdRequest) :
    Svc β (Except ErrorCode ResponseBody) :=
  let owner := request.owner
  let generation := owner.generation
  match request.operation with
  | .prepare declaration => servePrepare J env owner declaration
  | .commit => do
    match ← carryOut (commitWithDrain J owner env.nowMonoMs
        (min defaultDrainTimeoutMs maxDrainTimeoutMs))
        (.committed generation) with
    | .error code =>
      modify fun s => { s with tun := false }
      return .error code
    | .ok body => return .ok body
  | .rollback => do
    match ← carryOut (rollback J owner) (.rolledBack generation) with
    | .error code => return .error code
    | .ok body =>
      modify fun s => { s with tun := false }
      return .ok body
  -- answered before the session is asked
  | .status => do return .ok (.status (← get).session.phase generation)
  | .leaseRenew => carryOut (renewLease J owner) (.leaseRenewed generation)
  | .mtuUpdate mtu => carryOut (updateMtu J owner mtu) (.mtuUpdated generation mtu)
  | .suspend => carryOut (suspend J owner) (.suspended generation)
  | .reconfigure declaration => carryOut (reconfigure J owner declaration) (.reconfigured generation)
  | .policyUpdate declaration =>
    carryOut (updatePolicy J owner declaration) (.policyUpdated generation)
  | .resume => carryOut (resume J owner) (.resumed generation)
  | .drain now => carryOut (drainOld J owner now) (.drained generation)
  | .withdrawPrefixes prefixes =>
    carryOut (setFailedPrefixes J owner prefixes)
      (.prefixesWithdrawn generation (UInt64.ofNat prefixes.length))

/-- The peer may use the service, and speaks for itself. -/
def NetdService.authorises (s : NetdService β) (request : NetdRequest) (peer : PeerCredentials) :
    Bool :=
  peer.uid == s.allowedUid && peer.gid == s.allowedGid && request.owner.pid == peer.pid

/-- `NetdService::process`. The descriptor in the answer is the one `Prepared` announces. -/
def process (J : JournalFormat β) (env : Surroundings) (request : NetdRequest)
    (peer : PeerCredentials) : Svc β NetdResponse := do
  let s ← get
  if !s.authorises request peer then
    return { requestId := request.requestId, body := .error .unauthorizedPeer }
  else if request.operation = .status then
    return { requestId := request.requestId
             body := .status s.session.phase request.owner.generation }
  else
    match s.session.apply request with
    | .error e => return { requestId := request.requestId, body := .error (sessionErrorCode e) }
    | .ok next =>
      match ← serve J env request with
      | .error code => return { requestId := request.requestId, body := .error code }
      | .ok body =>
        modify fun s => { s with session := next }
        return { requestId := request.requestId, body }

end CandyRuntime.NetdV1
