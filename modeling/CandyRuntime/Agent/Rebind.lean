import CandyRuntime.NetdV2.FencingTheorems

/-!
# The rebinding of a Core

When a Core has died, `rebind_core` asks netd for a new owner of the same signed generation: it takes the
retained owner and the candidate from the status, revokes both, and prepares its own. An attempt can stop
after any of its requests, so the next one meets what several of them have left.
-/

namespace CandyRuntime.Agent.Rebind

open Lib Lib.Proc NetdProto NetdV2

/-! ## The plan -/

/-- The fields of `Plan` that `rebind_core` sends to netd. -/
structure Plan where
  instanceId : InstanceId
  infrastructure : InfraSpec
  domainId : InstanceId
  signedGeneration : ℕ
  declaration : PrepareDeclaration
deriving DecidableEq, Repr

/-- The checks of `read_plan` on these fields; a prefix is canonical when it has been parsed. -/
structure Plan.Valid (plan : Plan) : Prop where
  instanceId : plan.instanceId ≠ InstanceId.zero
  domainId : plan.domainId ≠ InstanceId.zero
  signedGeneration : plan.signedGeneration ≠ 0
  infrastructure : plan.infrastructure.validate = .ok ()
  declaration : plan.declaration.validate = .ok ()
  canonical : checkPrefixes plan.declaration = .ok ()
  agrees : plan.declaration.overlayRouterIpv4 = plan.infrastructure.overlayRouterIpv4
    ∧ plan.declaration.effectiveMtu = plan.infrastructure.mtu

/-! ## An attempt -/

/-- What one attempt meets: the number of its requests, the process it runs in, the epoch of the packet
port, its own clocks, and the clock of netd at each request. -/
structure Attempt where
  requestId : ℕ
  pid : UInt32
  peer : PeerCredentials
  /-- `probe.current_binding.owner_epoch` -/
  portEpoch : ℕ
  /-- `monotonic_ms` -/
  now : ℕ
  /-- what is left of the authorization, in milliseconds -/
  remaining : ℕ
  statusAt : ℕ
  revokeAt : ℕ
  retireAt : ℕ
  prepareAt : ℕ
deriving DecidableEq, Repr

variable (E : Surroundings) (plan : Plan) (a : Attempt)

/-- A request of the attempt. -/
def Attempt.request (operation : Operation) : Request :=
  { requestId := a.requestId, callerInstanceId := plan.instanceId, callerPid := a.pid, operation }

/-- `NetdControl::exchange`. -/
def exchange (operation : Operation) (now : ℕ) : Svc (Body × Bool) :=
  process E (a.request plan operation) a.peer now

/-- An error of the agent itself. -/
def bail {α : Type} (reason : String) : Svc α := reject "" reason

/-- `expect_ack`. -/
def expectAck (operation : Operation) (now : ℕ) : Svc Unit := do
  let reply ← exchange E plan a operation now
  ensure (reply.2 = false) (.rejected "" "Agent must never receive the TUN fd in packet-port mode")
  match reply.1 with
  | .ack => return ()
  | .infraStatus (some _) _ _ => return ()
  | _ => bail "unexpected netd control reply"

/-- The greater of the value of the retained owner and of the candidate. -/
def greatest (f : ForwardOwner → ℕ) (previous : ForwardOwner) (candidate : Option ForwardOwner) : ℕ :=
  candidate.elim (f previous) fun candidate => max (f candidate) (f previous)

/-- The owner that the attempt prepares. -/
def newOwner (previous : ForwardOwner) (candidate : Option ForwardOwner) (lastFencingToken : ℕ) :
    ForwardOwner :=
  let authDeadline := min (a.now + a.remaining) previous.authDeadlineMonoMs
  { domainId := plan.domainId
    signedGeneration := plan.signedGeneration
    workerEpoch := max (greatest (·.workerEpoch) previous candidate) a.portEpoch + 1
    fencingToken := max (greatest (·.fencingToken) previous candidate) lastFencingToken + 1
    authDeadlineMonoMs := authDeadline
    leaseDeadlineMonoMs := min (a.now + 30000) authDeadline }

/-- `ForwardRevoke` of the candidate that the status has reported. -/
def revokeReported : Option ForwardOwner → Svc Unit
  | some candidate => expectAck E plan a (.forwardRevoke candidate) a.retireAt
  | none => pure ()

/-- The requests after the status: both owners are revoked, the retained one first. -/
def replaceOwner (previous : ForwardOwner) (candidate : Option ForwardOwner) (lastFencingToken : ℕ) :
    Svc ForwardOwner := do
  ensure (previous.domainId = plan.domainId ∧ previous.signedGeneration = plan.signedGeneration)
    (.rejected "" "Core recovery forwarding ownership differs from verified signed domain")
  let owner := newOwner plan a previous candidate lastFencingToken
  ensure (owner.workerEpoch < 2 ^ 64) (.rejected "" "worker epoch exhausted")
  ensure (0 < a.remaining) (.rejected "" "Core recovery authorization expired")
  -- the sum is checked before the deadline of the retained owner bounds it
  ensure (a.now + a.remaining < 2 ^ 64) (.rejected "" "Core recovery deadline overflow")
  ensure (owner.fencingToken < 2 ^ 64) (.rejected "" "owner fencing exhausted")
  expectAck E plan a (.forwardRevoke previous) a.revokeAt
  revokeReported E plan a candidate
  expectAck E plan a (.forwardPrepare plan.infrastructure.infraId plan.infrastructure.generation owner
    plan.declaration) a.prepareAt
  return owner

/-- What follows the status. -/
def followStatus : Body → Svc ForwardOwner
  | .forwardStatus (some previous) _ candidate lastFencingToken _ _ _ _ _ _ _ _ =>
    replaceOwner E plan a previous candidate lastFencingToken
  | _ => bail "original forwarding record absent during Core recovery"

/-- `rebind_core` up to the preparation of its owner. -/
def rebindCore : Svc ForwardOwner := do
  let reply ← exchange E plan a .forwardStatus a.statusAt
  ensure (reply.2 = false) (.rejected "" "unexpected packet fd during Core recovery")
  followStatus E plan a reply.1

/-! ## What the attempts before have left -/

/-- The requests of an attempt: up to the preparation, and then the failure snapshots, the commit, the
renewals and the revocation of the owner it has prepared. -/
inductive Sends : Operation → Prop where
  | status : Sends .forwardStatus
  | revoke (owner : ForwardOwner) : Sends (.forwardRevoke owner)
  | prepare (owner : ForwardOwner) (hdomain : owner.domainId = plan.domainId)
      (hgeneration : owner.signedGeneration = plan.signedGeneration) :
      Sends (.forwardPrepare plan.infrastructure.infraId plan.infrastructure.generation owner
        plan.declaration)
  | failures (owner : ForwardOwner) (revision : ℕ) (failed : List Ipv4Prefix) :
      Sends (.forwardFailedPrefixes owner revision failed)
  | commit (owner : ForwardOwner) : Sends (.forwardCommit owner)
  | renew (owner : ForwardOwner) : Sends (.forwardLeaseRenew owner)

/-- netd carries out such a request, or recovers, or is killed or restarted. -/
def Rebinding (event : Event) (_ _ : InfrastructureService) : Prop :=
  ∀ operation, event.operation = some operation → Sends plan operation

/-- The record is one of the plan, and has no policy to publish. -/
structure OfPlan (r : ForwardRecord) : Prop where
  declaration : r.declaration = plan.declaration
  domainId : r.owner.domainId = plan.domainId
  signedGeneration : r.owner.signedGeneration = plan.signedGeneration
  valid : r.owner.validate = .ok ()
  policy : r.pendingPolicy = none
  failures : r.pendingFailedPrefixes ≠ none → r.pendingFailureRevision ≠ none
  paired : r.pendingFailedPrefixes = none → r.pendingFailureRevision = none

/-- The owner of the plan forwards, and nothing else is retained. -/
structure Committed (w : InfrastructureService) : Prop where
  administrator : w.state.administrator = some plan.instanceId
  spec : w.state.spec = some plan.infrastructure
  created : w.state.creationPending = false
  forward : ∃ r, w.state.forward = some r ∧ OfPlan plan r ∧ r.phase = .active
  candidate : w.state.candidate = none
  stored : w.stored = some w.state

/-- Any number of attempts, each of them stopped anywhere, in any surroundings. -/
def Reaches (w : InfrastructureService) : Prop :=
  ∃ w₀, Committed plan w₀ ∧ Relation.ReflTransGen (StepWhen E (Rebinding plan)) w₀ w

/-! ## What the next attempt needs -/

/-- netd answers the requests of the attempt, and acknowledges each of them. -/
def Acknowledged (w : InfrastructureService) : Prop := ∃ owner w', rebindCore E plan a w = (.ok owner, w')

/-- The requests come from an administrator of the plan, and netd sees the process that they name. -/
structure Attempt.Authentic (a : Attempt) (w : InfrastructureService) : Prop where
  requestId : a.requestId ≠ 0
  pid : a.pid ≠ 0
  peer : a.peer.uid = w.allowedUid ∧ a.peer.gid = w.allowedGid ∧ a.peer.pid = a.pid

/-- A candidate that is waiting for its commit, and that netd still keeps at the time. -/
def Waits (recovering : Bool) (now : ℕ) (s : State) : Prop :=
  recovering = false ∧ ∃ candidate, s.candidate = some candidate ∧ candidate.phase = .prepared
    ∧ ownerIsLive candidate.owner now = true

/-- The status reports a candidate. -/
def ReportsCandidate (w : InfrastructureService) : Prop :=
  Waits w.restartRecoveryPending a.statusAt w.state

/-- The preparation arrives while its owner is alive: within the authorization of the plan and of the
retained owner, and within the lease. -/
structure InTime (a : Attempt) (w : InfrastructureService) : Prop where
  remaining : 0 < a.remaining
  lease : a.prepareAt < a.now + min a.remaining 30000
  authorized : ∀ r, w.state.forward = some r → a.prepareAt < r.owner.authDeadlineMonoMs

/-- The epoch, the token and the deadline that follow those so far fit into `u64`. -/
structure Countable (a : Attempt) (w : InfrastructureService) : Prop where
  epoch : ∀ r, w.state.forward = some r → max r.owner.workerEpoch a.portEpoch + 1 < 2 ^ 64
  deadline : a.now + a.remaining < 2 ^ 64
  token : ∀ r, w.state.forward = some r →
    max r.owner.fencingToken w.state.lastFencingToken + 1 < 2 ^ 64

end CandyRuntime.Agent.Rebind
