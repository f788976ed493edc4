import CandyRuntime.CloudSync.Grant

/-!
# The configuration loop of the Cloud synchronizer

`sync_once_with_retry` of the Cloud synchronizer. One invocation consumes the outcome the agent
has left for the published candidate, asks Cloud for the configuration and acts on the answer:
a new delivery is published as a candidate, an unchanged one is reported again. Everything that
survives an invocation is in files, and the other processes of the host work on the same files:
before each look at them, before each write and report, and while an answer is awaited, the host may
have changed in any way. What one look takes in is one instant: the receipt of the agent, the
pointer, the processes and the status file that `read_activation_ready_receipt` opens one after the
other, or the pointer and the descriptor behind it.

The verification of a delivery by Core, the resolution of its grants and the digests are what the
environment says they are.
-/

namespace CandyRuntime.CloudSync.Sync

open Lib Lib.Proc NetdProto NetdV2

/-! ## Data -/

/-- A file as a reader finds it. One that is `irregular` is a link or not a file; one that is
`invalid` has another mode, owner, size or form than it should. -/
inductive File (α : Type) where
  | absent
  | irregular
  | invalid
  | present (value : α)
deriving DecidableEq, Repr

/-- The value of a file that may be missing. -/
def File.read {α : Type} (error : String) : File α → Except String (Option α)
  | .absent => .ok none
  | .irregular | .invalid => .error error
  | .present value => .ok (some value)

/-- `SyncState`. -/
structure SyncState where
  schemaVersion : ℕ
  serverActivationRevision : ℕ
  serverConfigurationSha256 : Option String
  etag : Option String
  configurationSha256 : Option String
  projectionPublicationId : Option Uuid
  projectionContentHash : Option String
  activationPhase : Option String
  activationRequired : Bool
  activationRejectedEtag : Option String
  activationRejectedAtUnix : Option ℕ
deriving DecidableEq, Repr

/-- The state before the first invocation. -/
def SyncState.initial : SyncState where
  schemaVersion := 1
  serverActivationRevision := 0
  serverConfigurationSha256 := none
  etag := none
  configurationSha256 := none
  projectionPublicationId := none
  projectionContentHash := none
  activationPhase := none
  activationRequired := false
  activationRejectedEtag := none
  activationRejectedAtUnix := none

/-- `SyncState::request_policy_resync`. -/
def SyncState.requestPolicyResync (state : SyncState) : SyncState :=
  { state with etag := none, activationRejectedEtag := none, activationRejectedAtUnix := none }

/-- The next request is to be unconditional. -/
def SyncState.unconditional (state : SyncState) : SyncState :=
  { state with etag := none, configurationSha256 := none }

/-- No delivery is recorded as rejected. -/
def SyncState.clearRejection (state : SyncState) : SyncState :=
  { state with activationRejectedEtag := none, activationRejectedAtUnix := none }

/-- `ReceiptCoreProof`. -/
structure ReceiptCoreProof where
  pid : ℕ
  statusPath : String
  readinessTokenSha256 : String
  processStartTicks : Option ℕ
deriving DecidableEq, Repr

/-- `ActivationReadyReceipt`. -/
structure ActivationReadyReceipt where
  schemaVersion : ℕ
  activationId : String
  candidateTarget : String
  generation : ℕ
  agentPid : ℕ
  state : String
  errorCode : Option String
  coreProof : Option ReceiptCoreProof
deriving DecidableEq, Repr

/-- `ActiveActivationProof`. -/
structure ActiveActivationProof where
  schemaVersion : ℕ
  activationId : String
  candidateTarget : String
  projectionGeneration : ℕ
  deliveryEtag : String
  agentPid : ℕ
  state : String
  committedAtUnix : ℕ
deriving DecidableEq, Repr

/-- `ActivationDescriptor`. -/
structure ActivationDescriptor where
  schemaVersion : ℕ
  activationId : String
  deliveryEtag : String
  deliverySha256 : String
  projectionPublicationId : Uuid
  projectionContentHash : String
  segmentGeneration : ℕ
  projectionGeneration : ℕ
  coreRole : String
  coreConfig : String
  netdDeclaration : String
  grantRefreshAfterUnix : ℕ
  grantExpiresAtUnix : ℕ
deriving DecidableEq, Repr

/-- `ActivationOutcome`. -/
structure ActivationOutcome where
  receipt : ActivationReadyReceipt
  descriptor : ActivationDescriptor
deriving DecidableEq, Repr

/-- `ActivationWithdrawalRequest`. -/
structure ActivationWithdrawalRequest where
  schemaVersion : ℕ
  requestedAtUnix : ℕ
  activeTarget : Option String
  candidateTarget : Option String
  reason : String
deriving DecidableEq, Repr

/-- A process that may be a Core: its state letter and the time it was started at. One that is
`foreign` is of another user and cannot be signalled. -/
structure CoreProcess where
  pid : ℕ
  foreign : Bool
  state : String
  startTicks : Option ℕ
deriving DecidableEq, Repr

/-- The status file of a Core process, as far as a receipt is held against it. -/
structure CoreStatus where
  schemaVersion : ℕ
  pid : ℕ
  generation : Option ℕ
  policyGeneration : Option ℕ
  readinessToken : Option String
  lifecycle : String
  inboundListenerReady : Bool
  inboundListenerConfigured : Bool
deriving DecidableEq, Repr

/-- The file with the status of a Core process, if there is one. One that is `unreadable` cannot be
opened or is not JSON; one that is `unfit` has another mode, owner or size than it should. -/
inductive StatusFile where
  | unreadable (error : String)
  | unfit
  | status (value : CoreStatus)
deriving DecidableEq, Repr

/-- The files below the state directory, the processes that receipts name, and the clock. The
pointers hold the name of a directory of `activations`; an agent is there with whether it runs as
the owner of the state directory. -/
structure Host where
  state : File SyncState
  candidate : Option String
  active : Option String
  activations : List (String × ActivationDescriptor)
  receipt : File ActivationReadyReceipt
  proof : File ActiveActivationProof
  withdrawal : File ActivationWithdrawalRequest
  agents : List (ℕ × Bool)
  cores : List CoreProcess
  statuses : List (String × StatusFile)
  now : ℕ
deriving DecidableEq, Repr

/-- Where a pointer to an activation leads. -/
def target (activationId : String) : String := "activations/" ++ activationId

/-- The ETag of a delivery with this digest. -/
def etagOf (digest : String) : String := "\"sha256-" ++ digest ++ "\""

/-- The text between the quotes of an ETag, if it is one of a delivery. -/
def etagDigest (etag : String) : Option String :=
  let inner := String.ofList (etag.toList.drop 8).dropLast
  if etag = etagOf inner then some inner else none

/-- `validate_etag`. -/
def validateEtag (etag : String) : Bool :=
  match etagDigest etag with
  | some digest => isHex digest 64
  | none => false

/-! ## What a look at the files says -/

namespace Host

/-- `candidate_activation_directory` and `candidate_descriptor`. -/
def candidateDescriptor (h : Host) : Except String (Option ActivationDescriptor) :=
  match h.candidate with
  | none => .ok none
  | some id =>
    if !isHex id 64 then .error "Runtime candidate id"
    else
      match h.activations.lookup id with
      | none => .error "inspect Runtime candidate activation"
      | some d =>
        if isHex d.activationId 64 && isHex d.deliverySha256 64 && d.schemaVersion = 1
            && d.activationId = id && d.deliveryEtag = etagOf d.deliverySha256
            && d.segmentGeneration ≠ 0 && d.projectionGeneration ≠ 0
            && d.grantRefreshAfterUnix ≤ d.grantExpiresAtUnix then .ok (some d)
        else .error "Runtime candidate activation descriptor is invalid"

/-- `candidate_matches_delivery`. -/
def candidateMatchesDelivery (h : Host) (etag : String) : Except String Bool := do
  let descriptor ← h.candidateDescriptor
  return descriptor.any (·.deliveryEtag = etag)

/-- `candidate_grant_refresh_due`. -/
def candidateGrantRefreshDue (h : Host) : Except String Bool := do
  match ← h.candidateDescriptor with
  | none => return true
  | some d =>
    if d.grantRefreshAfterUnix = 0 ∧ d.grantExpiresAtUnix = 0 then return false
    else return d.grantRefreshAfterUnix ≤ h.now || d.grantExpiresAtUnix ≤ h.now

/-- `valid_active_descriptor`. -/
def validActiveDescriptor (d : ActivationDescriptor) (id : String) : Bool :=
  isHex d.deliverySha256 64 && isHex d.projectionContentHash 64 && d.schemaVersion = 1
    && d.activationId = id && d.deliveryEtag = etagOf d.deliverySha256
    && 0 < d.segmentGeneration && 0 < d.projectionGeneration
    && (d.coreRole = "client_sdwan" || d.coreRole = "server")
    && d.coreConfig ≠ "" && d.netdDeclaration ≠ ""
    && d.grantRefreshAfterUnix ≤ d.grantExpiresAtUnix

/-- `active_activation_proof`. -/
def activeActivationProof (h : Host) (id : String) (d : ActivationDescriptor) :
    Except String (Option ActiveActivationProof) := do
  match ← h.proof.read "committed activation proof must be a bounded regular file" with
  | none => return none
  | some proof =>
    if proof.schemaVersion = 1 ∧ proof.activationId = d.activationId
        ∧ proof.candidateTarget = target id
        ∧ proof.projectionGeneration = d.projectionGeneration
        ∧ proof.deliveryEtag = d.deliveryEtag ∧ proof.agentPid ≠ 0
        ∧ proof.state = "committed" ∧ proof.committedAtUnix ≠ 0 then return some proof
    else throw "committed activation proof does not match the active Runtime activation"

/-- `read_active_activation`. -/
def readActiveActivation (h : Host) :
    Except String (Option (ActivationDescriptor × ActiveActivationProof)) := do
  match h.active with
  | none => return none
  | some id =>
    if !isHex id 64 then throw "active Runtime activation id"
    else
      match h.activations.lookup id with
      | none => throw "inspect active Runtime activation"
      | some d =>
        if !validActiveDescriptor d id then throw "active Runtime activation descriptor is invalid"
        else return (← h.activeActivationProof id d).map fun proof => (d, proof)

/-- `read_committed_activation_outcome`. -/
def readCommittedActivationOutcome (h : Host) : Except String (Option ActivationOutcome) := do
  match ← h.readActiveActivation with
  | none => return none
  | some (descriptor, proof) =>
    let receipt : ActivationReadyReceipt := {
      schemaVersion := 1
      activationId := proof.activationId
      candidateTarget := proof.candidateTarget
      generation := proof.projectionGeneration
      agentPid := proof.agentPid
      state := "committed"
      errorCode := none
      coreProof := none }
    return some ⟨receipt, descriptor⟩

end Host

section

variable (sha256 : String → String)

/-- The part of `receipt_core_is_current` that looks at the status file. -/
def CoreStatus.proves (status : CoreStatus) (receipt : ActivationReadyReceipt)
    (proof : ReceiptCoreProof) : Bool :=
  let policyGeneration := (status.policyGeneration.filter (· ≠ 0)).or status.generation
  status.schemaVersion = 3 && status.pid = proof.pid
    && policyGeneration = some receipt.generation
    && status.readinessToken.any (fun token => sha256 token = proof.readinessTokenSha256)
    && (status.lifecycle = "active"
      || (status.lifecycle = "starting" && status.inboundListenerReady
        && status.inboundListenerConfigured))

/-- A process that `kill` and `/proc` show as the one that the receipt names. -/
def CoreProcess.isNamed (core : CoreProcess) (proof : ReceiptCoreProof) : Bool :=
  core.pid = proof.pid && core.state ≠ "Z" && core.state ≠ "X" && core.state ≠ "x"
    && proof.processStartTicks ≠ none && proof.processStartTicks = core.startTicks

/-- `receipt_core_is_current`. -/
def Host.receiptCoreIsCurrent (h : Host) (receipt : ActivationReadyReceipt) : Except String Bool :=
  match receipt.coreProof with
  | none => .ok false
  | some proof =>
    if receipt.schemaVersion ≠ 2 ∨ proof.pid = 0 ∨ 2 ^ 31 - 1 < proof.pid
        ∨ !proof.statusPath.startsWith "/" then .ok false
    else if !isHex proof.readinessTokenSha256 64 then .error "Core receipt token digest"
    else if h.cores.any (fun core => core.pid = proof.pid && core.foreign) then
      .error "verify receipt Core process is alive"
    else if !h.cores.any (·.isNamed proof) then .ok false
    else
      match h.statuses.lookup proof.statusPath with
      | none => .ok false
      | some (.unreadable error) => .error error
      | some .unfit => .ok false
      | some (.status status) => .ok (status.proves sha256 receipt proof)

/-- What a look at the receipt of the agent can come to. -/
inductive Look where
  /-- There is none, or it is not accepted now. -/
  | nothing
  /-- It is about another candidate. -/
  | superseded
  | accepted (outcome : ActivationOutcome)
deriving DecidableEq, Repr

/-- What a committed receipt has to pass besides its form. -/
def Host.receiptIsCurrent (h : Host) (receipt : ActivationReadyReceipt)
    (d : ActivationDescriptor) : Except String Bool :=
  if receipt.state = "committed" then do
    if !(← h.receiptCoreIsCurrent sha256 receipt) then return false
    else return !(d.grantExpiresAtUnix ≠ 0 && d.grantExpiresAtUnix ≤ h.now)
  else return true

/-- The metadata of a receipt. -/
def ActivationReadyReceipt.metadataIsValid (receipt : ActivationReadyReceipt) : Bool :=
  isHex receipt.activationId 64
    && (receipt.schemaVersion = 1 || receipt.schemaVersion = 2)
    && (receipt.state = "committed" || receipt.state = "rejected")
    && receipt.candidateTarget = target receipt.activationId
    && receipt.generation ≠ 0 && receipt.agentPid ≠ 0

/-- The result in a receipt: a commit has no error code, a rejection has one. -/
def ActivationReadyReceipt.resultIsValid (receipt : ActivationReadyReceipt) : Bool :=
  if receipt.state = "committed" then receipt.errorCode = none
  else receipt.errorCode.any fun code =>
    code ≠ "" && code.length ≤ 80 && code.toList.all (·.val < 128)

/-- The part of `read_activation_ready_receipt` that does not change anything. -/
def Host.lookAtReceipt (h : Host) : Except String Look := do
  match ← h.receipt.read "SD-WAN activation receipt must be a regular file" with
  | none => return .nothing
  | some receipt =>
    if !receipt.metadataIsValid then throw "SD-WAN activation receipt metadata is invalid"
    else if h.candidate.map target ≠ some receipt.candidateTarget then return .superseded
    else if receipt.state = "committed" ∧ h.agents.lookup receipt.agentPid = none then
      return .nothing
    else if receipt.state = "committed" ∧ h.agents.lookup receipt.agentPid = some false then
      throw "SD-WAN activation receipt process owner does not match the state owner"
    else
      match ← h.candidateDescriptor with
      | none => throw "SD-WAN activation receipt has no matching candidate"
      | some d =>
        if d.activationId ≠ receipt.activationId ∨ d.projectionGeneration ≠ receipt.generation then
          throw "SD-WAN activation receipt does not match the candidate"
        else if !receipt.resultIsValid then throw "SD-WAN activation receipt result is invalid"
        else if ← h.receiptIsCurrent sha256 receipt d then return .accepted ⟨receipt, d⟩
        else return .nothing

end

/-! ## Exchanges -/

/-- The states that Cloud is told. -/
inductive Status where
  | prepared
  | active
  | rejected
deriving DecidableEq, Repr

/-- `ConfigurationStatus`. -/
structure ConfigurationStatus where
  projectionPublicationId : Uuid
  projectionContentHash : String
  state : Status
  errorCode : Option String
deriving DecidableEq, Repr

/-- `RuntimeConfiguration`, as far as the loop looks at it. -/
structure RuntimeConfiguration where
  activationPhase : String
  projectionPublicationId : Uuid
  projectionContentHash : String
  segmentGeneration : ℕ
  projectionGeneration : ℕ
  peerProjectionCatalog : List Uuid
deriving DecidableEq, Repr

/-- `DiscoveredControlReport`, as far as the loop looks at it. -/
structure DiscoveredControlReport where
  inboundExpected : List String
  outboundCandidates : List String
deriving DecidableEq, Repr

/-- How a check of a delivery with Core ends. -/
inductive Check where
  | passed
  | unavailable (error : String)
  | failed (error : String)
deriving DecidableEq, Repr

/-- How `resolve_grants` ends. -/
inductive Grants where
  | resolved
  | failed (code : String) (retryable : Bool)
deriving DecidableEq, Repr

/-- A configuration that Cloud delivers, with what this host makes of it. `wellFormed` is the
media type, the size and the form of the body; `publishable` says that the activation can be
put together. -/
structure Delivery where
  etag : Option String
  wellFormed : Bool
  digest : String
  configuration : RuntimeConfiguration
  verifyControl : Check
  verifyCompatibility : Check
  discoverControl : Check
  discovery : DiscoveredControlReport
  grants : Grants
  publishable : Bool
  activationId : String
  grantRefreshAfterUnix : ℕ
  grantExpiresAtUnix : ℕ
deriving DecidableEq, Repr

/-- How the request for the configuration ends. -/
inductive Answer where
  | noContent
  | notModified (etag : Option String)
  | ok (delivery : Delivery)
  | other
  | lost
  | killed
deriving DecidableEq, Repr

/-- How the report of a status ends. -/
inductive Reply where
  | noContent
  | conflict
  | refused
  | lost
  | killed
deriving DecidableEq, Repr

/-- What is seen of a run. `found` has the outcome that a reader has accepted, `unchanged` the state
in memory when an answer 304 is found to need no revalidation, and `reported` whether the activation
is required. `unchanged` has the host as it was when the answer arrived, the others as it is then. -/
inductive Event where
  | found (outcome : ActivationOutcome) (host : Host)
  | unchanged (etag : String) (state : SyncState) (host : Host)
  | reported (status : ConfigurationStatus) (etag : String) (required : Bool) (host : Host)
deriving DecidableEq, Repr

/-- What happens to the receipt of the agent, to the active pointer and to its proof. The agent
publishes a receipt or withdraws it; the synchronizer begins an invocation, reads the receipt, recalls
the proof, removes the receipt, sets the pointer and writes the proof. A change of the synchronizer is
noted when it takes effect. `published` has the host after it, the others have the host before. -/
inductive FileOp where
  | published (receipt : ActivationReadyReceipt) (host : Host)
  | withdrawn
  | begins
  | reads (host : Host)
  | recalls (host : Host)
  | removes (host : Host)
  | points (id : String) (host : Host)
  | proves (proof : ActiveActivationProof) (host : Host)
deriving DecidableEq, Repr

/-- What the other processes have done to the receipt. -/
def Host.receiptActs (before after : Host) : List FileOp :=
  if after.receipt = before.receipt then []
  else
    match after.receipt with
    | .present receipt => [.published receipt after]
    | _ => [.withdrawn]

/-- What the environment does around one operation. -/
structure Moment where
  others : Host → Host
  ready : Bool
  serverDigest : Option String
  write : Write
  reply : Reply
  answer : Answer

/-- The host, what its environment will do, what was seen, and what has happened to the files, the
latest first. -/
structure World where
  host : Host
  moments : ℕ → Moment
  trace : List Event
  ops : List FileOp

def World.logs (w : World) (event : Event) : World := { w with trace := event :: w.trace }

/-- The world before the first invocation. -/
def World.start (host : Host) (moments : ℕ → Moment) : World :=
  ⟨host, moments, [], []⟩

/-- A step of the synchronizer. -/
abbrev Syn := Proc World String

/-- The other processes have worked, and the next operation meets its circumstances. -/
def moment : Syn Moment := fun w =>
  let host := (w.moments 0).others w.host
  (.ok (w.moments 0),
    { w with
      host
      moments := fun n => w.moments (n + 1)
      ops := w.host.receiptActs host ++ w.ops })

/-- A look at the files. -/
def looks : Syn Host := do
  let _ ← moment
  let w ← get
  return w.host

/-- A durable change of the files. -/
def writes (error : String) (f : Host → Host) : Syn Unit := do
  let m ← moment
  durable m.write error fun w => { w with host := f w.host }

/-- A durable change of the files that is noted. -/
def writesNoted (error : String) (op : Host → FileOp) (f : Host → Host) : Syn Unit := do
  let m ← moment
  durable m.write error fun w => { w with host := f w.host, ops := op w.host :: w.ops }

def note (op : Host → FileOp) : Syn Unit :=
  modify fun w => { w with ops := op w.host :: w.ops }

/-- The process is killed. -/
def killed {α : Type} : Syn α := fun w => (.crash, w)

def log (event : Host → Event) : Syn Unit := modify fun w => w.logs (event w.host)

/-- `atomic_json` of the state. -/
def persist (state : SyncState) : Syn Unit :=
  writes "replace atomic state file" fun h => { h with state := .present state }

/-- `write_local_sync_status`: a file that the loop does not read. -/
def writeLocalSyncStatus : Syn Unit := writes "replace atomic state file" id

/-- The request with a status is sent, and its answer is awaited. -/
def putStatus (status : ConfigurationStatus) (etag : String) (required : Bool) : Syn Reply := do
  let _ ← moment
  log (.reported status etag required)
  let m ← moment
  match m.reply with
  | .killed => killed
  | .lost => fail "report Runtime configuration status"
  | reply => return reply

/-- `report_configuration_status_fields`. -/
def reportConfigurationStatusFields (publicationId : Uuid) (contentHash etag : String)
    (state : Status) (errorCode : Option String) (required : Bool) : Syn Unit := do
  let reply ← putStatus ⟨publicationId, contentHash, state, errorCode⟩ etag required
  ensure (reply = .noContent) "Cloud rejected Runtime configuration status"

/-- `report_configuration_status`. -/
def reportConfigurationStatus (configuration : RuntimeConfiguration) (etag : String)
    (state : Status) (errorCode : Option String) (required : Bool) : Syn Unit :=
  reportConfigurationStatusFields configuration.projectionPublicationId
    configuration.projectionContentHash etag state errorCode required

/-- `report_activation_status`: a conflict is not an error. -/
def reportActivationStatus (outcome : ActivationOutcome) (state : Status)
    (errorCode : Option String) (required : Bool) : Syn Bool := do
  let d := outcome.descriptor
  let reply ← putStatus ⟨d.projectionPublicationId, d.projectionContentHash, state, errorCode⟩
    d.deliveryEtag required
  if reply = .conflict then return false
  else do
    ensure (reply = .noContent) "Cloud rejected SD-WAN activation status"
    return true

/-! ## Changes of the files -/

/-- `clear_activation_ready_receipt`. -/
def clearActivationReadyReceipt : Syn Unit := do
  let h ← looks
  match h.receipt with
  | .absent => return ()
  | .irregular => fail "SD-WAN activation receipt must be a regular file"
  | .invalid | .present _ =>
    writesNoted "remove committed SD-WAN activation receipt" .removes fun h =>
      { h with receipt := .absent }

/-- `read_activation_ready_receipt`. -/
def readActivationReadyReceipt (sha256 : String → String) : Syn (Option ActivationOutcome) := do
  let h ← looks
  note .reads
  match ← lift (h.lookAtReceipt sha256) with
  | .nothing => return none
  | .superseded => do
    clearActivationReadyReceipt
    return none
  | .accepted outcome => return some outcome

/-- `publish_pointer` of the active pointer. -/
def publishActive (id : String) : Syn Unit :=
  writesNoted "publish Runtime activation pointer" (.points id) fun h =>
    { h with active := some id }

/-- `publish_pointer` of the candidate pointer. -/
def publishCandidate (id : String) : Syn Unit :=
  writes "publish Runtime activation pointer" fun h => { h with candidate := some id }

/-- `promote_committed_activation`. -/
def promoteCommittedActivation (outcome : ActivationOutcome) : Syn Unit := do
  let h ← looks
  let id ← okOr h.candidate "read SD-WAN candidate pointer before promotion"
  ensure (target id = outcome.receipt.candidateTarget)
    "SD-WAN candidate changed before activation promotion"
  ensure ((h.activations.lookup id).isSome = true) "inspect committed activation directory"
  let proof : ActiveActivationProof := {
    schemaVersion := 1
    activationId := outcome.receipt.activationId
    candidateTarget := outcome.receipt.candidateTarget
    projectionGeneration := outcome.receipt.generation
    deliveryEtag := outcome.descriptor.deliveryEtag
    agentPid := outcome.receipt.agentPid
    state := "committed"
    committedAtUnix := h.now }
  publishActive id
  writesNoted "replace atomic state file" (.proves proof) fun h =>
    { h with proof := .present proof }

/-- `remove_candidate_if_matches`. -/
def removeCandidateIfMatches (outcome : ActivationOutcome) : Syn Unit := do
  let h ← looks
  if h.candidate.map target = some outcome.receipt.candidateTarget then
    writes "remove rejected SD-WAN candidate" fun h => { h with candidate := none }
  else return ()

/-- `request_local_activation_withdrawal`. -/
def requestLocalActivationWithdrawal : Syn Unit := do
  let h ← looks
  ensure (h.withdrawal ≠ .irregular) "Runtime withdrawal request must be a regular file"
  ensure (h.proof ≠ .irregular) "Runtime active activation proof must be a regular file"
  if h.active = none ∧ h.candidate = none ∧ h.proof = .absent then return ()
  else if h.withdrawal ≠ .absent ∧ h.candidate = none then return ()
  else do
    let request : ActivationWithdrawalRequest := {
      schemaVersion := 1
      requestedAtUnix := h.now
      activeTarget := h.active.map target
      candidateTarget := h.candidate.map target
      reason := "cloud_configuration_withdrawn" }
    writes "replace atomic state file" fun h => { h with withdrawal := .present request }
    writes "withdraw Runtime candidate pointer" fun h => { h with candidate := none }

/-- The descriptor of the activation that is put together for a delivery. -/
def Delivery.descriptor (d : Delivery) (etag role : String) : ActivationDescriptor where
  schemaVersion := 1
  activationId := d.activationId
  deliveryEtag := etag
  deliverySha256 := d.digest
  projectionPublicationId := d.configuration.projectionPublicationId
  projectionContentHash := d.configuration.projectionContentHash
  segmentGeneration := d.configuration.segmentGeneration
  projectionGeneration := d.configuration.projectionGeneration
  coreRole := role
  coreConfig := "core.toml"
  netdDeclaration := "declaration.json"
  grantRefreshAfterUnix := d.grantRefreshAfterUnix
  grantExpiresAtUnix := d.grantExpiresAtUnix

/-- `publish_client_activation` and `publish_server_activation`: an activation that is there
already is used as it is. -/
def publishActivation (d : Delivery) (etag role : String) : Syn Unit := do
  ensure (d.publishable = true) "publish immutable SD-WAN activation"
  let h ← looks
  when (h.activations.lookup d.activationId = none)
    (writes "publish immutable SD-WAN activation" fun h =>
      { h with activations := (d.activationId, d.descriptor etag role) :: h.activations })
  publishCandidate d.activationId

/-! ## One invocation -/

/-- The arguments of the synchronizer that the loop looks at. -/
structure Args where
  serverConfig : Bool
deriving DecidableEq, Repr

/-- `activation_required`. -/
def activationRequired (serverMode : Bool) (configuration : RuntimeConfiguration)
    (discovery : DiscoveredControlReport) : Bool :=
  if serverMode then
    !configuration.peerProjectionCatalog.isEmpty || !discovery.inboundExpected.isEmpty
      || !discovery.outboundCandidates.isEmpty
  else !discovery.outboundCandidates.isEmpty

/-- The state file, or the state of a host that has none. -/
def loadState (h : Host) : Except String SyncState := do
  let state := (← h.state.read "read Cloud synchronization state").getD .initial
  if state.schemaVersion ≠ 1 then throw "unsupported Cloud synchronization state schema"
  else return state

/-- `server_configuration_digest`. -/
def serverConfigurationDigest (args : Args) : Syn (Option String) :=
  if args.serverConfig then do
    let m ← moment
    let digest ← okOr m.serverDigest "read server configuration"
    return some digest
  else return none

/-- Activations of another revision, or of another server configuration, are not reused. -/
def refreshServer (args : Args) (serverDigest : Option String) (state : SyncState) : SyncState :=
  if args.serverConfig ∧ (state.serverActivationRevision ≠ 4
      ∨ state.serverConfigurationSha256 ≠ serverDigest) then state.unconditional
  else state

/-- The outcome of the candidate: the receipt of the agent, or the proof that is left of it. -/
def findOutcome (sha256 : String → String) : Syn (Option ActivationOutcome) := do
  let outcome ← readActivationReadyReceipt sha256
  match outcome with
  | some outcome => do
    log (.found outcome)
    return some outcome
  | none => do
    let h ← looks
    note .recalls
    let outcome ← lift h.readCommittedActivationOutcome
    match outcome with
    | some outcome => do
      log (.found outcome)
      return some outcome
    | none => return none

/-- A committed outcome is promoted, if its receipt is still there, and reported. -/
def reportCommitted (sha256 : String → String) (state : SyncState) (outcome : ActivationOutcome) :
    Syn SyncState := do
  let again ← readActivationReadyReceipt sha256
  when (again.isSome = true) (promoteCommittedActivation outcome)
  let _ ← reportActivationStatus outcome .active none state.activationRequired
  return state.clearRejection

/-- A rejected outcome is reported; only if Cloud takes it, the candidate is removed. -/
def reportRejected (state : SyncState) (outcome : ActivationOutcome) : Syn SyncState := do
  let taken ← reportActivationStatus outcome .rejected outcome.receipt.errorCode
    state.activationRequired
  if taken then do
    removeCandidateIfMatches outcome
    let h ← looks
    return { state with
      activationRejectedEtag := some outcome.descriptor.deliveryEtag
      activationRejectedAtUnix := some h.now }
  else return state

def reportOutcome (sha256 : String → String) (state : SyncState) (outcome : ActivationOutcome) :
    Syn SyncState :=
  if outcome.receipt.state = "committed" then reportCommitted sha256 state outcome
  else reportRejected state outcome

/-- The part of `sync_once_with_retry` that consumes the outcome of the candidate. -/
def consumeOutcome (sha256 : String → String) (state : SyncState) : Syn SyncState :=
  if state.activationRequired then do
    let outcome ← findOutcome sha256
    match outcome with
    | some outcome =>
      if state.etag = some outcome.descriptor.deliveryEtag then do
        let state ← reportOutcome sha256 state outcome
        clearActivationReadyReceipt
        persist state
        return state
      else return state
    | none => return state
  else return state

/-- The request for the configuration. -/
def requestConfiguration (state : SyncState) : Syn Answer := do
  ensure (state.etag.all validateEtag = true) "invalid Runtime configuration ETag"
  let m ← moment
  match m.answer with
  | .killed => killed
  | .lost => fail "request Runtime configuration"
  | answer => return answer

/-- `required_etag`. -/
def requiredEtag (etag : Option String) : Syn String := do
  let etag ← okOr etag "Cloud Runtime response is missing an ETag"
  ensure (validateEtag etag = true) "Runtime configuration ETag"
  return etag

/-- Cloud has no configuration for this host. -/
def handleNoContent (state : SyncState) : Syn Unit := do
  requestLocalActivationWithdrawal
  persist { state with
    etag := none
    configurationSha256 := none
    activationPhase := none
    activationRequired := false
    activationRejectedEtag := none
    activationRejectedAtUnix := none }
  writeLocalSyncStatus

/-- The candidate of a required activation is missing, of another delivery, or has grants that
are due. -/
def needsRevalidation (state : SyncState) (etag : String) : Syn Bool :=
  if state.activationRequired ∧ state.activationRejectedEtag ≠ some etag then do
    let h ← looks
    let matched ← lift (h.candidateMatchesDelivery etag)
    if matched then do
      let h ← looks
      lift h.candidateGrantRefreshDue
    else return true
  else return false

/-- `ACTIVATION_REVALIDATION_SECONDS`. -/
def activationRevalidationSeconds : ℕ := 60

/-- A delivery that is recorded as rejected. `again` is the unconditional retry, if one is
allowed. -/
def handleRejected (again : Option (Syn Unit)) (state : SyncState) (now : ℕ) : Syn Unit := do
  let rejectedAt := state.activationRejectedAtUnix.getD now
  let state := { state with activationRejectedAtUnix := some rejectedAt }
  match again with
  | some retry =>
    if activationRevalidationSeconds ≤ now - rejectedAt then do
      persist state.unconditional.clearRejection
      writeLocalSyncStatus
      retry
    else do
      persist state
      writeLocalSyncStatus
  | none => do
    persist state
    writeLocalSyncStatus

/-- The status of a delivery that is not changed is reported from its recorded phase. -/
def reportUnchanged (again : Option (Syn Unit)) (state : SyncState) (etag : String) :
    Syn Unit :=
  match state.projectionPublicationId, state.projectionContentHash with
  | some publicationId, some contentHash =>
    if state.activationPhase = some "prepare" then do
      reportConfigurationStatusFields publicationId contentHash etag .prepared none
        state.activationRequired
      writeLocalSyncStatus
    else if state.activationPhase = some "commit" then do
      reportConfigurationStatusFields publicationId contentHash etag .active none
        state.activationRequired
      writeLocalSyncStatus
    else
      match again with
      | some retry => do
        persist { state.unconditional with activationPhase := none }
        retry
      | none => fail "Cloud returned 304 without a persisted activation phase"
  | _, _ =>
    match again with
    | some retry => do
      persist state.unconditional
      retry
    | none => writeLocalSyncStatus

/-- The answer 304. -/
def handleNotModified (again : Option (Syn Unit)) (state : SyncState) (header : Option String) :
    Syn Unit := do
  let arrived ← get
  let etag ← requiredEtag header
  ensure (state.etag = some etag) "Cloud returned 304 with an unexpected ETag"
  let needed ← needsRevalidation state etag
  if needed then
    match again with
    | none => fail "Cloud returned 304 but the local activation needs revalidation"
    | some retry => do
      persist state.unconditional
      writeLocalSyncStatus
      retry
  else do
    log fun _ => .unchanged etag state arrived.host
    if state.activationRejectedEtag = some etag then do
      let h ← looks
      handleRejected again state h.now
    else reportUnchanged again state etag

/-- A check of a delivery; what Core refuses is reported with this code. -/
def checked (check : Check) (code : String) (d : Delivery) (etag : String) (state : SyncState) :
    Syn Unit :=
  match check with
  | .passed => return ()
  | .unavailable error => fail error
  | .failed error => do
    reportConfigurationStatus d.configuration etag .rejected (some code) state.activationRequired
    fail error

/-- The grants of a delivery cannot be resolved. -/
def handleUnresolved (again : Option (Syn Unit)) (d : Delivery) (etag : String)
    (state : SyncState) (code : String) (retryable : Bool) : Syn Unit :=
  let refuse (required : Bool) : Syn Unit :=
    if retryable then fail code
    else do
      reportConfigurationStatus d.configuration etag .rejected (some code) required
      fail code
  if code = "route_policy_resync_required" then do
    persist state.requestPolicyResync
    writeLocalSyncStatus
    match again with
    | some retry => retry
    | none => refuse state.activationRequired
  else refuse state.activationRequired

/-- The state once a delivery is published. -/
def SyncState.delivered (state : SyncState) (d : Delivery) (etag : String) (required : Bool) :
    SyncState :=
  { state.clearRejection with
    activationRequired := required
    etag := some etag
    configurationSha256 := some d.digest
    projectionPublicationId := some d.configuration.projectionPublicationId
    projectionContentHash := some d.configuration.projectionContentHash
    activationPhase := some d.configuration.activationPhase }

/-- A delivery that is only to be prepared. -/
def prepareDelivery (d : Delivery) (etag : String) (state : SyncState) : Syn Unit := do
  reportConfigurationStatus d.configuration etag .prepared none state.activationRequired
  persist (state.delivered d etag false)
  writeLocalSyncStatus

/-- The activation of a delivery becomes the candidate, or what there was is withdrawn. -/
def activate (args : Args) (required : Bool) (d : Delivery) (etag : String) : Syn Unit :=
  if required then publishActivation d etag (if args.serverConfig then "server" else "client_sdwan")
  else requestLocalActivationWithdrawal

/-- A delivery that is to be committed. -/
def commitDelivery (args : Args) (serverDigest : Option String) (d : Delivery) (etag : String)
    (state : SyncState) : Syn Unit := do
  let required := activationRequired args.serverConfig d.configuration d.discovery
  activate args required d etag
  persist { state.delivered d etag required with
    serverActivationRevision := if args.serverConfig then 4 else 0
    serverConfigurationSha256 := serverDigest }
  writeLocalSyncStatus

/-- The answer 200. -/
def handleDelivery (args : Args) (again : Option (Syn Unit)) (serverDigest : Option String)
    (state : SyncState) (d : Delivery) : Syn Unit := do
  ensure (d.wellFormed = true) "parse Runtime configuration"
  let etag ← requiredEtag d.etag
  ensure (d.configuration.activationPhase = "prepare" ∨ d.configuration.activationPhase = "commit")
    "Cloud Runtime configuration metadata is invalid"
  ensure (etag = etagOf d.digest) "Runtime configuration body does not match its ETag"
  checked d.verifyControl "core_verification_failed" d etag state
  checked d.verifyCompatibility "core_compatibility_verification_failed" d etag state
  checked d.discoverControl "core_discovery_failed" d etag state
  match d.grants with
  | .failed code retryable => handleUnresolved again d etag state code retryable
  | .resolved => do
    -- `publish_configuration_generation`
    writes "publish Runtime configuration generation" id
    if d.configuration.activationPhase = "prepare" then prepareDelivery d etag state
    else commitDelivery args serverDigest d etag state

/-- The part of `sync_once_with_retry` that asks Cloud. -/
def requestAndHandle (args : Args) (again : Option (Syn Unit)) (serverDigest : Option String)
    (state : SyncState) : Syn Unit := do
  let answer ← requestConfiguration state
  match answer with
  | .noContent => handleNoContent state
  | .notModified etag => handleNotModified again state etag
  | .ok d => handleDelivery args again serverDigest state d
  | _ => fail "Cloud Runtime configuration request failed"

section

variable (sha256 : String → String)

/-- The body of `sync_once_with_retry`; `again` is the unconditional retry, if one is allowed. -/
def syncWith (args : Args) (again : Option (Syn Unit)) : Syn Unit := do
  let m ← moment
  ensure (m.ready = true) "prepare the invocation"
  let h ← looks
  let state ← lift (loadState h)
  let serverDigest ← serverConfigurationDigest args
  let state ← consumeOutcome sha256 (refreshServer args serverDigest state)
  requestAndHandle args again serverDigest state

/-- `sync_once_with_retry`. -/
def syncOnceWithRetry (args : Args) (allowUnconditionalRetry : Bool) : Syn Unit :=
  if allowUnconditionalRetry then syncWith sha256 args (some (syncWith sha256 args none))
  else syncWith sha256 args none

/-- An invocation of the synchronizer, however it ends. -/
def World.invokes (w : World) (args : Args) : World :=
  (syncOnceWithRetry sha256 args true { w with ops := .begins :: w.ops }).2

/-- Invocations with these arguments, one after the other. -/
def World.runs (w : World) (invocations : List Args) : World :=
  invocations.foldl (World.invokes sha256) w

end

end CandyRuntime.CloudSync.Sync
