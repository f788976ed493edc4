import CandyRuntime.Tunio.Runs

/-!
# The owner transaction of the agent

`candidate_ownership.rs`: the durable record `CandidateOwner` of a make-before-break handoff,
the checks it makes of installation proofs and of TUNIO's replies, and the operations that send
requests and persist the record. Agent and TUNIO are two parties: between any two calls of the
agent TUNIO may take any steps, a request or its reply can be lost, a write can fail before or
after it has replaced the file, and the agent can be killed at every call.
-/

namespace CandyRuntime.Agent

open Lib Lib.Proc NetdProto NetdV2
  Tunio

/-! ## Proofs of installation -/

/-- A digest or a barrier identity, 32 bytes. -/
abbrev Bytes32 := Vector UInt8 32

def Bytes32.zero : Bytes32 := Vector.replicate 32 0

/-- `RoutingCandidate`. -/
structure RoutingCandidate where
  transactionId : Bytes32
  ownerEpoch : ℕ
  policyGeneration : ℕ
  authorizationSha256 : Bytes32
  candidateId : InstanceId
  localAttachmentEpoch : ℕ
  peerAttachmentEpoch : ℕ
  tunnelId : ℕ
deriving DecidableEq, Repr

/-- `BarrierIdentity`. -/
structure BarrierIdentity where
  id : Bytes32
  generation : ℕ
  fence : ℕ
  hash : Bytes32
deriving DecidableEq, Repr

/-- `PeerExpectation`. -/
structure PeerExpectation where
  attachmentId : InstanceId
  selector : RoutingCandidate
  barrier : BarrierIdentity
deriving DecidableEq, Repr

/-- `PeerProof`, as far as an installation is proved by it. -/
structure PeerProof where
  attachmentId : InstanceId
  selector : RoutingCandidate
  barrier : BarrierIdentity
  prepared : Bool
  installed : Bool
  probeSent : Bool
  probeReceived : Bool
  drainFailed : Bool
deriving DecidableEq, Repr

/-- `LocalProof`. -/
structure LocalProof where
  domain : InstanceId
  ownerEpoch : ℕ
  authorizationSha256 : String
  packetSlot : PacketPortBinding
deriving DecidableEq, Repr

/-- `CandidateProof`. -/
structure CandidateProof where
  schemaVersion : ℕ
  transactionId : String
  phase : String
  localProof : LocalProof
  peers : List PeerProof
  forcedRetirement : Bool
deriving DecidableEq, Repr

/-- The identities of an expected peer are filled in. -/
def PeerExpectation.complete (peer : PeerExpectation) : Bool :=
  peer.attachmentId ≠ InstanceId.zero
    && peer.selector.transactionId = peer.barrier.id
    && peer.selector.transactionId ≠ Bytes32.zero
    && peer.selector.ownerEpoch ≠ 0
    && peer.selector.policyGeneration ≠ 0
    && peer.selector.authorizationSha256 ≠ Bytes32.zero
    && peer.selector.candidateId ≠ InstanceId.zero
    && peer.selector.localAttachmentEpoch ≠ 0
    && peer.selector.peerAttachmentEpoch ≠ 0
    && peer.selector.tunnelId ≠ 0
    && peer.barrier.generation ≠ 0
    && peer.barrier.fence ≠ 0
    && peer.barrier.hash ≠ Bytes32.zero

/-- One round of the loop of `require_identity`; `earlier` are the peers before this one. -/
def CandidateProof.checkPeer (proof : CandidateProof) (earlier : List PeerExpectation)
    (peer : PeerExpectation) : Except String Unit :=
  if earlier.any (·.attachmentId = peer.attachmentId) then
    .error "code=candidate_duplicate_expected_peer"
  else match proof.peers.filter (·.attachmentId = peer.attachmentId) with
    | [found] =>
      if found.selector = peer.selector && found.barrier = peer.barrier && peer.complete
          && found.prepared && found.installed && found.probeSent && found.probeReceived
      then .ok () else .error "code=candidate_peer_installation_unconfirmed"
    | _ => .error "code=candidate_peer_coverage_mismatch"

/-- The loop of `require_identity`. -/
def CandidateProof.checkPeers (proof : CandidateProof) (earlier : List PeerExpectation) :
    List PeerExpectation → Except String Unit
  | [] => .ok ()
  | peer :: rest => do
    proof.checkPeer earlier peer
    proof.checkPeers (earlier ++ [peer]) rest

/-- `require_identity`. -/
def CandidateProof.requireIdentity (proof : CandidateProof) (envelope : AuthorityEnvelope)
    (expected : List PeerExpectation) : Except String Unit :=
  if !(proof.schemaVersion = 1 && proof.transactionId = envelope.transactionId
      && proof.localProof.domain = envelope.binding.routingDomainId
      && proof.localProof.ownerEpoch = envelope.binding.ownerEpoch
      && proof.localProof.authorizationSha256 = envelope.signedControlHash
      && proof.localProof.packetSlot = envelope.binding) then
    .error "code=candidate_local_proof_mismatch"
  else if expected.isEmpty || expected.length ≠ proof.peers.length then
    .error "code=candidate_peer_coverage_mismatch"
  else proof.checkPeers [] expected

/-- `require_installed`. -/
def CandidateProof.requireInstalled (proof : CandidateProof) (envelope : AuthorityEnvelope)
    (expected : List PeerExpectation) : Except String Unit :=
  if proof.phase = "installed" && !proof.forcedRetirement
      && proof.peers.all (!·.drainFailed) then
    proof.requireIdentity envelope expected
  else .error "code=candidate_install_phase_mismatch"

/-! ## The record -/

/-- `OwnerState`. -/
inductive OwnerState where
  | prepared
  | committed
  | aborted
  | expired
  | unknown
  | cancelledBeforePrepare
deriving DecidableEq, Repr

/-- `CandidateOwner`. -/
structure CandidateOwner where
  envelope : AuthorityEnvelope
  expectedActive : Option PacketPortBinding
  prepareDeadlineMonoMs : ℕ
  expectedPeers : List PeerExpectation
  commitIntent : Bool
  precommitCancellation : Option AuthorityControlResponse
  committedFailure : Option AuthorityControlResponse
  committedIsolation : Option AuthorityControlResponse
  expiredCommitRetirement : Option AuthorityControlResponse
deriving DecidableEq, Repr

namespace CandidateOwner

/-- `CandidateOwner::new`. -/
def new (envelope : AuthorityEnvelope) (expectedActive : Option PacketPortBinding)
    (prepareDeadlineMonoMs : ℕ) (expectedPeers : List PeerExpectation) :
    Except String CandidateOwner :=
  if !expectedActive.all (fun old => infrastructureMatches old envelope.binding
      && old.ownerEpoch < envelope.binding.ownerEpoch
      && old.policyGeneration ≤ envelope.binding.policyGeneration) then
    .error "code=candidate_owner_infrastructure_mismatch"
  else if expectedPeers.isEmpty then .error "code=candidate_peer_coverage_missing"
  else .ok {
    envelope
    expectedActive
    prepareDeadlineMonoMs
    expectedPeers
    commitIntent := false
    precommitCancellation := none
    committedFailure := none
    committedIsolation := none
    expiredCommitRetirement := none }

variable (owner : CandidateOwner)

/-- A request for this transaction in schema 3. -/
def request (base : AuthorityControlRequest) (operation : AuthorityOperation)
    (envelope : Option AuthorityEnvelope) : AuthorityControlRequest :=
  { base with
    schemaVersion := 3
    operation
    envelope
    transactionId := owner.envelope.transactionId }

/-- `prepare_request`. -/
def prepareRequest (base : AuthorityControlRequest) (nowMonoMs : ℕ) :
    Except String AuthorityControlRequest :=
  if !owner.commitIntent && owner.precommitCancellation.isNone
      && owner.expiredCommitRetirement.isNone && owner.committedIsolation.isNone
      && nowMonoMs < owner.prepareDeadlineMonoMs
      && owner.prepareDeadlineMonoMs ≤ owner.envelope.effectiveDeadlineMonoMs
      && owner.prepareDeadlineMonoMs - nowMonoMs ≤ 30000 then
    .ok (owner.request base (.prepareOwner (owner.expectedActive.map (·.ownerEpoch))
      owner.prepareDeadlineMonoMs) (some owner.envelope))
  else .error "code=candidate_owner_prepare_invalid"

/-- `commit_request`. -/
def commitRequest (base : AuthorityControlRequest) (proof : CandidateProof) :
    Except String AuthorityControlRequest := do
  proof.requireInstalled owner.envelope owner.expectedPeers
  if !owner.commitIntent then .error "code=candidate_owner_commit_intent_missing"
  else if owner.expiredCommitRetirement.isSome || owner.committedIsolation.isSome then
    .error "code=candidate_owner_retired"
  else .ok (owner.request base .commitOwner (some owner.envelope))

/-- The receipt is the one of this transaction, with its caps. -/
def receiptMatches (receipt : AuthorityOwnerReceipt) : Bool :=
  receipt.authorityRevision = owner.envelope.authorityRevision
    && receipt.binding = owner.envelope.binding
    && receipt.expectedActiveEpoch = owner.expectedActive.map (·.ownerEpoch)
    && receipt.authorizationCapMonoMs = owner.envelope.effectiveDeadlineMonoMs
    && receipt.requestedPrepareDeadlineMonoMs = owner.prepareDeadlineMonoMs

/-- The `match` of `observe` on the phase of the receipt. -/
def observePhase (reply : AuthorityControlResponse) :
    OwnerTransactionPhase → Except String OwnerState
  | .prepared =>
    if reply.pending = some owner.envelope && reply.actualOwnerBinding = owner.expectedActive
        && (owner.expectedActive.isNone || reply.ownerActive) then .ok .prepared
    else .error "code=candidate_owner_active_changed"
  | .committed =>
    if reply.active = some owner.envelope && reply.ownerActive
        && reply.appliedTransactionId = some owner.envelope.transactionId
        && reply.authorityRevision = some owner.envelope.authorityRevision
        && reply.actualOwnerBinding = some owner.envelope.binding
        && reply.actualDeadlineMonoMs.any (· ≤ owner.envelope.effectiveDeadlineMonoMs) then
      .ok .committed
    else .error "code=candidate_owner_commit_unconfirmed"
  | .aborted =>
    if reply.active ≠ some owner.envelope
        && reply.actualOwnerBinding ≠ some owner.envelope.binding then .ok .aborted
    else .error "code=candidate_owner_terminal_mismatch"
  | .expired =>
    if reply.active ≠ some owner.envelope
        && reply.actualOwnerBinding ≠ some owner.envelope.binding then .ok .expired
    else .error "code=candidate_owner_terminal_mismatch"

/-- `observe`. -/
def observe (reply : AuthorityControlResponse) : Except String OwnerState :=
  match reply.ownerTransaction with
  | none => .ok .unknown
  | some receipt =>
    if receipt.transactionId ≠ owner.envelope.transactionId then .ok .unknown
    else if reply.schemaVersion = 3 && reply.accepted && owner.receiptMatches receipt then
      owner.observePhase reply receipt.phase
    else .error "code=candidate_owner_receipt_mismatch"

/-- `require_committed_outcome`. -/
def requireCommittedOutcome (reply : AuthorityControlResponse) : Except String Unit :=
  match reply.ownerTransaction with
  | none => .error "code=candidate_committed_receipt_missing"
  | some receipt =>
    if owner.commitIntent && reply.schemaVersion = 3 && reply.accepted
        && receipt.transactionId = owner.envelope.transactionId
        && receipt.phase = .committed && owner.receiptMatches receipt
        && reply.ownerHighestRevision = some owner.envelope.authorityRevision
        && reply.pending.isNone
        && reply.actualOwnerBinding.all (· = owner.envelope.binding)
        && reply.retainedOwnerBinding.all (some · = owner.expectedActive) then .ok ()
    else .error "code=candidate_committed_recovery_mismatch"

/-- `committed_isolation_needed`; an unknown state of the worker is an error. -/
def committedIsolationNeeded (reply : AuthorityControlResponse) (businessCurrent : Option Bool) :
    Except String Bool := do
  owner.requireCommittedOutcome reply
  if !reply.ownerActive then .ok true
  else match businessCurrent with
    | some current => .ok (!current)
    | none => .error "process liveness"

/-- The reply confirms that the transaction was cancelled before its commit. -/
def cancellationConfirmed (expected : PacketPortBinding) (reply : AuthorityControlResponse) :
    Bool :=
  reply.precommitCancelled = some owner.envelope
    && reply.schemaVersion = 3 && reply.accepted && reply.ownerActive
    && reply.actualOwnerBinding = some expected && reply.currentBinding = expected
    && reply.active ≠ some owner.envelope && reply.pending.isNone
    && reply.retainedOwnerBinding.isNone && reply.ownerTransaction.isNone
    && reply.ownerHighestRevision.any (· < owner.envelope.authorityRevision)
    && reply.highestRevision = owner.envelope.authorityRevision
    && reply.highestOwnerEpoch = owner.envelope.binding.ownerEpoch
    && reply.highestPolicyGeneration = owner.envelope.binding.policyGeneration

/-- The reply answers this request. -/
def answers (request : AuthorityControlRequest) (reply : AuthorityControlResponse) : Bool :=
  reply.process = request.process && reply.controller = request.controller
    && reply.controllerEpoch = request.controllerEpoch && reply.nonce = request.nonce

/-- The reply confirms that the expired commit was retired; `state` is what it shows. -/
def retirementConfirmed (request : AuthorityControlRequest) (expected : PacketPortBinding)
    (reply : AuthorityControlResponse) (state : OwnerState) : Bool :=
  answers request reply
    && reply.retiredExpiredCommit = some owner.envelope
    && state = .expired
    && reply.ownerActive && reply.actualOwnerBinding = some expected
    && reply.currentBinding = expected && reply.pending.isNone
    && reply.retainedOwnerBinding.isNone
    && reply.ownerHighestRevision = some owner.envelope.authorityRevision

/-- The reply confirms the isolation of the committed owner. -/
def isolationConfirmed (reply : AuthorityControlResponse) : Bool :=
  owner.committedFailure.isSome
    && reply.isolatedCommitted = some owner.envelope
    && !reply.ownerActive && reply.actualOwnerBinding.isNone && reply.retainedOwnerBinding.isNone

end CandidateOwner

/-! ## Two parties -/

/-- What a run of `run_mbb_transaction` holds in memory: the record as it was journaled, the
state it has observed, and whether it still has the descriptor of a new candidate. -/
structure Activity where
  owner : CandidateOwner
  observed : Option OwnerState
  descriptor : Bool
deriving DecidableEq, Repr

/-- What is seen of a run: the manager after a step of TUNIO, a request as it leaves the agent,
a record as it reaches the journal. -/
inductive Event where
  | manager (b : Bridge)
  | sent (request : AuthorityControlRequest)
  | journaled (owner : CandidateOwner)
deriving DecidableEq, Repr

/-- TUNIO, the journal of the agent, its running activity, the identities it has used, the
number of its next call, and everything seen so far, the latest first. -/
structure Party where
  tunio : World
  journal : Option CandidateOwner
  activity : Option Activity
  registered : List String
  clock : ℕ
  trace : List Event
deriving DecidableEq, Repr

/-- How an exchange goes: the agent is killed before it sends, the request is lost, the reply is
lost, the agent is killed with the request on its way, or the reply arrives. -/
inductive Delivery where
  | killedBefore
  | lost
  | unanswered
  | killedAfter
  | answered
deriving DecidableEq, Repr

/-- What one call of the agent meets: the steps TUNIO takes before it, and how it goes. -/
structure AgentCall where
  before : List Label
  delivery : Delivery
  write : Write
  works : Bool

/-- A step of the agent, with the text of its error. -/
abbrev Agt := Proc Party String

variable (A : ℕ → AgentCall) (E : ℕ → Tunio.Moment)

/-- TUNIO is now in the state `t`. -/
def Party.reaches (w : Party) (t : World) : Party :=
  { w with
    tunio := t
    trace := .manager t.bridge :: w.trace }

/-- A request leaves the agent. -/
def Party.sends (w : Party) (request : AuthorityControlRequest) : Party :=
  { w with trace := .sent request :: w.trace }

/-- A record replaces the journal. -/
def Party.journals (w : Party) (owner : CandidateOwner) : Party :=
  { w with
    journal := some owner
    trace := .journaled owner :: w.trace }

/-- A record has replaced the journal; the manager is seen again as it is then. -/
def Party.writes (w : Party) (owner : CandidateOwner) : Party :=
  (w.journals owner).reaches w.tunio

/-- TUNIO takes steps of its own. -/
def Party.proceeds (labels : List Label) (w : Party) : Party :=
  labels.foldl (fun w l => w.reaches (step E l w.tunio)) w

/-- The party when a call is made: TUNIO has gone on. -/
def Party.called (w : Party) : Party :=
  { w.proceeds E (A w.clock).before with clock := w.clock + 1 }

/-- `exchange_authority`: only an accepted reply that answers the request comes back. -/
def exchangeAuthority (request : AuthorityControlRequest) : Agt AuthorityControlResponse := fun w =>
  let w₁ := w.called A E
  let descriptors := if request.operation.needsDescriptor then 1 else 0
  let served := serve E request request.controller descriptors w₁.tunio
  let reached := (w₁.sends request).reaches served.2
  match (A w.clock).delivery with
  | .killedBefore => (.crash, w₁)
  | .lost => (.err "authority exchange", w₁.sends request)
  | .unanswered => (.err "authority exchange", reached)
  | .killedAfter => (.crash, reached)
  | .answered =>
    match served.1 with
    | .ok reply =>
      if reply.schemaVersion = request.schemaVersion && CandidateOwner.answers request reply
          && reply.accepted then (.ok reply, reached)
      else (.err "authority response", reached)
    | _ => (.err "authority response", reached)

/-- `persist`: the journal with this record is published. -/
def persist (owner : CandidateOwner) : Agt Unit := fun w =>
  durable (A w.clock).write "journal" (·.writes owner) (w.called A E)

/-- Another call of the agent that only works or fails. -/
def agentWorks : Agt Unit := fun w =>
  (if (A w.clock).works then .ok () else .err "agent", w.called A E)

/-- `probe_request`. -/
def probeRequest (request : AuthorityControlRequest) (nonce : String) : AuthorityControlRequest :=
  { request with
    schemaVersion := 3
    nonce
    operation := .probeTransaction
    envelope := none }

/-! ## Operations -/

variable (a : Activity) (base : AuthorityControlRequest)

/-- `StageAuthority` for a new candidate. -/
def stageCandidate : Agt (Option Activity) := do
  let _ ← exchangeAuthority A E (a.owner.request base .stageAuthority (some a.owner.envelope))
  return some a

/-- `prepare_with`. -/
def prepareWith (nonce : String) (nowMonoMs : ℕ) : Agt (Option Activity) := do
  ensure (a.descriptor = true) "MBB candidate descriptor absent"
  let request ← lift (a.owner.prepareRequest base nowMonoMs)
  persist A E a.owner
  let reply ← handle (exchangeAuthority A E request)
    fun _ => exchangeAuthority A E (probeRequest request nonce)
  let state ← lift (a.owner.observe reply)
  return some { a with observed := some state }

/-- A probe of the transaction and what is observed in its reply. -/
def queryOwner : Agt (Option Activity) := do
  let reply ← exchangeAuthority A E (a.owner.request base .probeTransaction none)
  let state ← lift (a.owner.observe reply)
  return some { a with observed := some state }

/-- `recover_precommit_with`. -/
def recoverPrecommitWith : Agt (Option Activity) := do
  ensure (a.owner.commitIntent = false) "code=candidate_owner_commit_unknown"
  let expected ← okOr a.owner.expectedActive "code=candidate_precommit_original_owner_missing"
  let request := a.owner.request base (.recoverPrecommit expected) (some a.owner.envelope)
  let reply ← exchangeAuthority A E request
  ensure (CandidateOwner.answers request reply) "code=candidate_precommit_response_fence_mismatch"
  if reply.precommitCancelled = none then
    let state ← lift (a.owner.observe reply)
    return some { a with observed := some state }
  ensure (a.owner.cancellationConfirmed expected reply)
    "code=candidate_precommit_cancellation_unconfirmed"
  let owner := { a.owner with precommitCancellation := some reply }
  persist A E owner
  return some { a with owner, observed := some .cancelledBeforePrepare }

/-- `begin_commit` and `promote_with`, which follow an observed preparation only. -/
def promoteWith (nonce : String) (proof : CandidateProof) : Agt (Option Activity) := do
  ensure (a.observed = some .prepared) "code=mbb_owner_not_prepared"
  ensure (a.owner.precommitCancellation = none ∧ a.owner.expiredCommitRetirement = none
    ∧ a.owner.committedIsolation = none) "code=candidate_owner_cancelled"
  lift (proof.requireInstalled a.owner.envelope a.owner.expectedPeers)
  let owner := { a.owner with commitIntent := true }
  persist A E owner
  let request ← lift (owner.commitRequest base proof)
  let reply ← handle (exchangeAuthority A E request)
    fun _ => exchangeAuthority A E (probeRequest request nonce)
  let state ← lift (owner.observe reply)
  return some { a with owner, observed := some state }

/-- `retire_expired_commit_with`. -/
def retireExpiredCommitWith : Agt (Option Activity) := do
  ensure (a.owner.commitIntent = true) "code=candidate_commit_intent_missing"
  let expected ← okOr a.owner.expectedActive "expired commit original binding absent"
  let request := a.owner.request base (.retireExpiredCommit expected) (some a.owner.envelope)
  let reply ← exchangeAuthority A E request
  let state ← lift (a.owner.observe reply)
  ensure (a.owner.retirementConfirmed request expected reply state)
    "code=candidate_expired_commit_retirement_unconfirmed"
  let owner := { a.owner with expiredCommitRetirement := some reply }
  persist A E owner
  return some { a with owner }

/-- `mbb_isolate_failed_commit` with the probe before it: `record_committed_failure`, the stop
of the worker, the isolation in TUNIO and `record_committed_isolation`. The run ends here. -/
def isolateFailedCommit (businessCurrent : Option Bool) : Agt (Option Activity) := do
  let actual ← exchangeAuthority A E (a.owner.request base .probeTransaction none)
  if (← lift (a.owner.committedIsolationNeeded actual businessCurrent)) = false then
    return some a
  let failed := { a.owner with committedFailure := a.owner.committedFailure.or (some actual) }
  persist A E failed
  agentWorks A E
  let expected ← okOr failed.expectedActive "committed isolation original binding absent"
  let isolated ← exchangeAuthority A E
    (failed.request base (.isolateCommittedOwner expected) (some failed.envelope))
  lift (failed.requireCommittedOutcome isolated)
  ensure (failed.isolationConfirmed isolated) "code=candidate_committed_isolation_unconfirmed"
  persist A E { failed with committedIsolation := some isolated }
  return none

/-! ## Runs -/

/-- What happens in one step: TUNIO goes on, a new transaction is registered, the agent starts a
run with what it has journaled, or the run takes one of its operations. -/
inductive Move where
  | tunio (l : Label)
  | register (envelope : AuthorityEnvelope) (expectedActive : Option PacketPortBinding)
      (prepareDeadlineMonoMs : ℕ) (expectedPeers : List PeerExpectation)
  | resume
  | stage (base : AuthorityControlRequest)
  | prepare (base : AuthorityControlRequest) (nonce : String) (nowMonoMs : ℕ)
  | query (base : AuthorityControlRequest)
  | recover (base : AuthorityControlRequest)
  | commit (base : AuthorityControlRequest) (nonce : String) (proof : CandidateProof)
  | retire (base : AuthorityControlRequest)
  | isolate (base : AuthorityControlRequest) (businessCurrent : Option Bool)

/-- An operation of the running activity; an error or a kill ends the activity. -/
def Party.acts (w : Party) (m : Activity → Agt (Option Activity)) : Party :=
  match w.activity with
  | none => w
  | some a =>
    match m a w with
    | (.ok a', w') => { w' with activity := a' }
    | (_, w') => { w' with activity := none }

/-- A new transaction is journaled. Its identity is a fresh UUID. -/
def Party.registers (w : Party) (envelope : AuthorityEnvelope)
    (expectedActive : Option PacketPortBinding) (prepareDeadlineMonoMs : ℕ)
    (expectedPeers : List PeerExpectation) : Party :=
  if envelope.transactionId ∈ w.registered then w
  else match CandidateOwner.new envelope expectedActive prepareDeadlineMonoMs expectedPeers with
    | .error _ => { w with activity := none }
    | .ok owner =>
      let w := { w with registered := envelope.transactionId :: w.registered }
      match persist A E owner w with
      | (.ok _, w') => { w' with activity := some ⟨owner, none, true⟩ }
      | (_, w') => { w' with activity := none }

/-- One step. -/
def move (w : Party) : Move → Party
  | .tunio l => w.proceeds E [l]
  | .register envelope expectedActive prepareDeadlineMonoMs expectedPeers =>
    w.registers A E envelope expectedActive prepareDeadlineMonoMs expectedPeers
  | .resume => { w with activity := w.journal.map fun owner => ⟨owner, none, false⟩ }
  | .stage base => w.acts fun a => stageCandidate A E a base
  | .prepare base nonce nowMonoMs => w.acts fun a => prepareWith A E a base nonce nowMonoMs
  | .query base => w.acts fun a => queryOwner A E a base
  | .recover base => w.acts fun a => recoverPrecommitWith A E a base
  | .commit base nonce proof => w.acts fun a => promoteWith A E a base nonce proof
  | .retire base => w.acts fun a => retireExpiredCommitWith A E a base
  | .isolate base businessCurrent => w.acts fun a => isolateFailedCommit A E a base businessCurrent

/-- A sequence of steps. -/
def moves (ms : List Move) (w : Party) : Party := ms.foldl (move A E) w

/-- TUNIO has started, and the agent has journaled nothing. -/
def Party.start (origin : Origin) (process controller : ProcessIdentity) (tokenSha256 : String) :
    Party where
  tunio := .start origin process controller tokenSha256
  journal := none
  activity := none
  registered := []
  clock := 0
  trace := []

end CandyRuntime.Agent
