import CandyRuntime.Tunio.State

/-!
# The requests of the authority endpoint

`apply_request` of `authority_control.rs`: the checks of an envelope, the reconciliation of the
server with a receipt of the manager, and one definition for each operation. A change of the
server's state stays when a later call of the same request fails.
-/

namespace CandyRuntime.Tunio

open Lib Lib.Proc NetdProto NetdV2

variable (E : ℕ → Moment)

/-! ## Reconciliation -/

/-- The owner records after a receipt: a candidate the manager still holds is prepared, one it
has ended becomes the terminal record, and any other is dropped. -/
def resolveCandidate (actual : PacketPortReceipt) (s : AuthorityState) : AuthorityState :=
  match s.ownerCandidate with
  | none => s
  | some record =>
    if actual.pending.any (·.transaction = record.transaction) then
      { s with ownerCandidate := some { record with prepared := true } }
    else match actual.lastTransaction.filter (·.transaction = record.transaction) with
      | none => { s with ownerCandidate := none }
      | some last =>
        { s with
          ownerCandidate := none
          pending := if s.pending = some record.envelope then none else s.pending
          active :=
            if last.phase = .committed then
              if actual.binding = some record.envelope.binding then some record.envelope else none
            else s.active
          ownerTerminal := some (record, last.phase) }

/-- A terminal record whose binding the manager no longer has is not active, and one the
manager has superseded is forgotten. -/
def settleTerminal (actual : PacketPortReceipt) (s : AuthorityState) : AuthorityState :=
  match s.ownerTerminal with
  | none => s
  | some (record, _) =>
    { s with
      active :=
        if actual.binding ≠ some record.envelope.binding ∧ s.active = some record.envelope
        then none else s.active
      ownerTerminal :=
        if actual.lastTransaction.all (·.transaction ≠ record.transaction) then none
        else s.ownerTerminal }

/-- `reconcile_owner`. -/
def reconcileOwner (s : AuthorityState) (actual : PacketPortReceipt) : AuthorityState :=
  let s := { s with
    actualOwnerBinding := actual.binding
    ownerHighestRevision := actual.highestTransactionRevision
    retainedOwnerBinding := actual.retainedOwnerBinding
    oldOwnerDrained := actual.oldOwnerDrained
    forcedRetirement := actual.forcedRetirement }
  let s := settleTerminal actual (resolveCandidate actual s)
  { s with
    ownerPending := (s.ownerCandidate.filter (·.prepared)).map (·.receipt .prepared)
    ownerLastTransaction := s.ownerTerminal.map fun (record, phase) => record.receipt phase }

/-- The staged authority whose epoch and generation the manager has reached is the active
one. -/
def promotePending (actual : PacketPortReceipt) (s : AuthorityState) : AuthorityState :=
  match s.pending with
  | none => s
  | some pending =>
    if pending.binding.ownerEpoch = actual.ownerEpoch
        ∧ pending.binding.policyGeneration = actual.policyGeneration then
      { s with active := some pending, pending := none }
    else s

/-- `reconcile` up to its reading of the boot clock, at an instant. -/
def reconcileBinding (actual : PacketPortReceipt) (now : ℕ) (c : Controller) : Controller :=
  let s := promotePending actual (reconcileOwner c.authority actual)
  let s := { s with
    highestOwnerEpoch := max s.highestOwnerEpoch actual.ownerEpoch
    highestPolicyGeneration := max s.highestPolicyGeneration actual.policyGeneration }
  { c with
    authority := s
    binding := actual.binding.getD <|
      match s.active.filter (·.binding.ownerEpoch = actual.ownerEpoch) with
      | some active => active.binding
      | none => c.binding
    ownerActive := actual.binding.isSome && actual.authDeadline.any (now < ·) }

/-- The end of `reconcile`: the deadline of the owner on the boot clock, capped by the active
authority. -/
def reconcileDeadline (actual : PacketPortReceipt) (monotonic now : ℕ) (c : Controller) :
    Controller :=
  let remaining := (actual.authDeadline.filter (now ≤ ·)).map fun d => (d - now) / 1000000
  let deadline := ((remaining.filter (· < 2 ^ 64)).map (monotonic + ·)).filter (· < 2 ^ 64)
  match c.authority.active.filter (·.binding.ownerEpoch = actual.ownerEpoch) with
  | none => { c with authority := { c.authority with actualDeadlineMonoMs := deadline } }
  | some active =>
    { c with
      authDeadlineUnix := active.effectiveExpiryUnix
      authority := { c.authority with
        actualDeadlineMonoMs := deadline.map (min · active.effectiveDeadlineMonoMs) } }

/-- `reconcile`. -/
def reconcile (actual : PacketPortReceipt) : Srv Unit := do
  let now ← instantNow E
  modifyController (reconcileBinding actual now)
  let monotonic ← monotonicMs E
  let now ← instantNow E
  modifyController (reconcileDeadline actual monotonic now)

/-- `apply_owner_change`. -/
def applyOwnerChange (change : OwnerChange) : Srv Unit := do
  let (result, actual) ← managerOutcome E change
  reconcile E actual
  publish E
  match result with
  | .ok _ => return ()
  | .error e => fail ("actual PacketPort change rejected: " ++ e)

/-- A probe of the manager and the reconciliation with its receipt. -/
def probeAndReconcile : Srv PacketPortReceipt := do
  let actual ← managerChange E .probe
  reconcile E actual
  return actual

/-! ## Envelopes -/

/-- `validate_envelope`. -/
def validateEnvelope (authority : AuthorityEnvelope) : Srv Unit := do
  let state ← controllerState
  let nowUnix ← unixTime E
  let nowMono ← monotonicMs E
  ensure (authority.verifiedAtUnix ≤ authority.effectiveExpiryUnix
      ∧ (authority.effectiveExpiryUnix - authority.verifiedAtUnix) * 1000 < 2 ^ 64)
    "invalid verified authorization duration"
  let verifiedDuration := (authority.effectiveExpiryUnix - authority.verifiedAtUnix) * 1000
  let candidateCurrent ← processIsCurrent E authority.candidate
  let bootMatches := decide (authority.bootId = (← bootId E))
  let checks : List (Bool × String) := [
    (isHex authority.transactionId 32, "transaction_id_invalid"),
    (authority.authorityRevision ≠ 0, "authority_revision_zero"),
    (infrastructureMatches authority.binding state.binding, "infrastructure_binding_mismatch"),
    (authority.binding.policyGeneration ≠ 0, "policy_generation_zero"),
    (authority.binding.ownerEpoch ≠ 0, "owner_epoch_zero"),
    (authority.controller = state.controller, "controller_identity_mismatch"),
    (authority.controllerEpoch = state.epoch, "controller_epoch_mismatch"),
    (candidateCurrent, "candidate_process_not_current"),
    (authority.candidate ≠ state.process && authority.candidate ≠ state.controller,
      "candidate_identity_not_independent"),
    (isHex authority.signedControlHash 64, "signed_control_hash_invalid"),
    (isHex authority.declarationHash 64, "declaration_hash_invalid"),
    (isHex authority.verificationReportHash 64, "verification_report_hash_invalid"),
    (isHex authority.snapshotClosureHash 64, "snapshot_closure_hash_invalid"),
    (authority.effectiveExpiryUnix ≤ authority.signedMinExpiryUnix,
      "wall_cap_exceeds_signed_expiry"),
    (nowUnix < authority.effectiveExpiryUnix, "wall_cap_expired"),
    (authority.verifiedAtUnix ≤ nowUnix, "verified_wall_time_in_future"),
    (authority.verifiedAtMonoMs ≤ nowMono, "verified_monotonic_time_in_future"),
    (nowMono < authority.effectiveDeadlineMonoMs, "monotonic_cap_expired"),
    (authority.verifiedAtMonoMs < authority.effectiveDeadlineMonoMs,
      "monotonic_cap_precedes_verification"),
    (authority.verifiedAtMonoMs ≤ authority.effectiveDeadlineMonoMs
        && authority.effectiveDeadlineMonoMs - authority.verifiedAtMonoMs ≤ verifiedDuration,
      "monotonic_cap_exceeds_verified_wall_duration"),
    (bootMatches, "boot_identity_mismatch")]
  match checks.find? (!·.1) with
  | some (_, reason) => fail ("code=authority_envelope_rejected reason=" ++ reason)
  | none => return ()

/-- `owner_deadline`: the anchor is read before the clocks it is extended by. -/
def ownerDeadline (authority : AuthorityEnvelope) : Srv ℕ := do
  let anchor ← instantNow E
  let mono ← monotonicMs E
  ensure (mono < authority.effectiveDeadlineMonoMs) "authority monotonic deadline expired"
  let wall ← wallNow E
  ensure (wall < authority.effectiveExpiryUnix * 1000000000) "authority wall deadline expired"
  return anchor + min ((authority.effectiveDeadlineMonoMs - mono) * 1000000)
    (authority.effectiveExpiryUnix * 1000000000 - wall)

/-- `authorization_check`. -/
def authorizationCheck (authority : AuthorityEnvelope) : AuthorizationCheck :=
  [⟨authority.effectiveDeadlineMonoMs, authority.effectiveExpiryUnix * 1000000000⟩]

/-- The value of a lower-case hexadecimal digit. -/
def hexDigit (c : Char) : ℕ := if c ≤ '9' then c.toNat - 48 else c.toNat - 87

/-- `transaction_bytes`. -/
def transactionBytes (value : String) : Option InstanceId :=
  if isHex value 32 then
    let digits := value.toList.map hexDigit
    some (Vector.ofFn fun i : Fin 16 =>
      UInt8.ofNat (digits.getD (2 * i) 0 * 16 + digits.getD (2 * i + 1) 0))
  else none

/-- `packet_port`: the descriptor is inspected, and a port has no zero in its binding. -/
def packetPort (binding : PacketPortBinding) : Srv PacketPortBinding := do
  fileWorks E "authorized PacketPort descriptor"
  ensure (binding.infrastructureId ≠ InstanceId.zero ∧ binding.routingDomainId ≠ InstanceId.zero
      ∧ binding.infrastructureGeneration ≠ 0 ∧ binding.ioEpoch ≠ 0 ∧ binding.ownerEpoch ≠ 0
      ∧ binding.policyGeneration ≠ 0) "packet port binding requires nonzero generations"
  return binding

/-- `prepare_record`. -/
def prepareRecord (envelope : AuthorityEnvelope) (expectedActiveEpoch : Option ℕ)
    (prepareDeadlineMonoMs : ℕ) (expectedActiveBinding : Option PacketPortBinding) :
    Srv OwnerAuthority := do
  let anchor ← instantNow E
  let now ← monotonicMs E
  ensure (now < prepareDeadlineMonoMs ∧ prepareDeadlineMonoMs - now ≤ 30000)
    "code=owner_prepare_deadline_rejected reason=prepare_must_be_live_within_30s"
  ensure (prepareDeadlineMonoMs ≤ envelope.effectiveDeadlineMonoMs)
    "code=owner_prepare_deadline_rejected reason=prepare_exceeds_immutable_authorization_cap"
  let authDeadline ← ownerDeadline E envelope
  let transactionId ← okOr (transactionBytes envelope.transactionId)
    "owner transaction ID must be 32 lowercase hex digits"
  return {
    envelope
    expectedActiveBinding
    transaction := {
      transactionId
      revision := envelope.authorityRevision
      expectedActiveEpoch
      binding := envelope.binding
      authDeadline
      prepareDeadline := min (anchor + (prepareDeadlineMonoMs - now) * 1000000) authDeadline }
    requestedPrepareDeadlineMonoMs := prepareDeadlineMonoMs
    prepared := false }

/-! ## Operations -/

variable (request : AuthorityControlRequest)

/-- The transaction was cancelled before its commit. -/
def isCancelled (s : AuthorityState) (transactionId : String) : Bool :=
  s.precommitCancelled.any (·.transactionId = transactionId)

/-- The expired commit of the transaction was retired. -/
def isRetired (s : AuthorityState) (transactionId : String) : Bool :=
  s.retiredExpiredCommit.any (·.transactionId = transactionId)

/-- `RetireExpiredCommit`. -/
def retireExpiredCommit (expectedActive : PacketPortBinding) : Srv Unit := do
  let envelope ← okOr request.envelope "expired retirement requires exact envelope"
  let record ← okOr (ownerRecord (← controllerState).authority request.transactionId)
    "code=owner_expired_context_unknown"
  let actual ← probeAndReconcile E
  let state ← controllerState
  ensure (record.envelope = envelope ∧ envelope.transactionId = request.transactionId
      ∧ record.expectedActiveBinding = some expectedActive
      ∧ record.transaction.expectedActiveEpoch = some expectedActive.ownerEpoch
      ∧ actual.lastTransaction = some ⟨record.transaction, .expired⟩
      ∧ actual.highestTransactionRevision = envelope.authorityRevision
      ∧ state.ownerActive = true ∧ actual.binding = some expectedActive
      ∧ actual.pending = none ∧ actual.retainedOwnerBinding = none
      ∧ state.authority.pending = none) "code=owner_expired_retirement_unconfirmed"
  modifyAuthority fun s => { s with retiredExpiredCommit := some envelope }

/-- `IsolateCommittedOwner`. -/
def isolateCommittedOwner (expectedActive : PacketPortBinding) : Srv Unit := do
  let envelope ← okOr request.envelope "committed isolation requires exact envelope"
  let record ← okOr (ownerRecord (← controllerState).authority request.transactionId)
    "code=owner_isolation_context_unknown"
  let actual ← probeAndReconcile E
  ensure (record.envelope = envelope ∧ envelope.transactionId = request.transactionId
      ∧ record.transaction.expectedActiveEpoch = some expectedActive.ownerEpoch
      ∧ record.expectedActiveBinding = some expectedActive
      ∧ infrastructureMatches expectedActive envelope.binding
      ∧ actual.lastTransaction = some ⟨record.transaction, .committed⟩
      ∧ actual.highestTransactionRevision = envelope.authorityRevision
      ∧ actual.ownerEpoch = envelope.binding.ownerEpoch ∧ actual.pending = none
      ∧ (∀ b ∈ actual.binding, b = envelope.binding)
      ∧ ∀ b ∈ actual.retainedOwnerBinding, b = expectedActive)
    "code=owner_isolation_identity_mismatch"
  if (← controllerState).ownerActive then
    ensure ((← processIsCurrentConfirmed E envelope.candidate) = false)
      "code=owner_isolation_live_candidate"
  applyOwnerChange E (.revoke envelope.binding.ownerEpoch)
  let state ← controllerState
  ensure (state.ownerActive = false ∧ state.authority.actualOwnerBinding = none
      ∧ state.authority.retainedOwnerBinding = none ∧ state.authority.ownerPending = none)
    "code=owner_isolation_unconfirmed"
  modifyAuthority fun s => { s with isolatedCommitted := some envelope }

/-- The receipt of the manager has a transaction with this identity, pending or as its last. -/
def PacketPortReceipt.history (actual : PacketPortReceipt) (transactionId : InstanceId) :
    Option OwnerTransactionReceipt :=
  (actual.pending.filter (·.transaction.transactionId = transactionId)).or
    (actual.lastTransaction.filter (·.transaction.transactionId = transactionId))

/-- The authority state after a confirmed absence of the transaction. -/
def cancelPrecommit (envelope : AuthorityEnvelope) (s : AuthorityState) : AuthorityState :=
  { s with
    pending := none
    precommitCancelled := some envelope
    highestRevision := max s.highestRevision envelope.authorityRevision
    highestOwnerEpoch := max s.highestOwnerEpoch envelope.binding.ownerEpoch
    highestPolicyGeneration := max s.highestPolicyGeneration envelope.binding.policyGeneration }

/-- `RecoverPrecommit`; the answer is whether the request ends here, because the manager has a
history of the transaction. -/
def recoverPrecommit (expectedActive : PacketPortBinding) : Srv Bool := do
  let envelope ← okOr request.envelope "precommit recovery requires exact envelope"
  ensure (envelope.transactionId = request.transactionId
      ∧ infrastructureMatches envelope.binding expectedActive
      ∧ expectedActive.ownerEpoch < envelope.binding.ownerEpoch
      ∧ expectedActive.policyGeneration ≤ envelope.binding.policyGeneration
      ∧ envelope.authorityRevision ≠ 0) "code=owner_precommit_identity_mismatch"
  -- The queue of the manager is in order, so this probe settles what was asked before.
  let actual ← probeAndReconcile E
  let transactionId ← okOr (transactionBytes request.transactionId)
    "owner transaction ID must be 32 lowercase hex digits"
  let state ← controllerState
  match actual.history transactionId with
  | some history =>
    let exact ← okOr (ownerRecord state.authority request.transactionId)
      "code=owner_precommit_context_unknown"
    ensure (exact.envelope = envelope ∧ exact.transaction = history.transaction
        ∧ exact.transaction.expectedActiveEpoch = some expectedActive.ownerEpoch
        ∧ exact.expectedActiveBinding = some expectedActive)
      "code=owner_precommit_context_conflict"
    publish E
    return true
  | none =>
    ensure (state.ownerActive = true ∧ actual.binding = some expectedActive
        ∧ actual.pending = none ∧ actual.retainedOwnerBinding = none
        ∧ actual.highestTransactionRevision < envelope.authorityRevision
        ∧ state.authority.active ≠ some envelope
        ∧ (∀ pending ∈ state.authority.pending, pending = envelope)
        ∧ state.authority.highestRevision ≤ envelope.authorityRevision
        ∧ state.authority.highestOwnerEpoch ≤ envelope.binding.ownerEpoch
        ∧ state.authority.highestPolicyGeneration ≤ envelope.binding.policyGeneration
        ∧ ∀ cancelled ∈ state.authority.precommitCancelled,
            cancelled.transactionId = envelope.transactionId → cancelled = envelope)
      "code=owner_precommit_absence_unconfirmed"
    modifyAuthority (cancelPrecommit envelope)
    return false

/-- `ProbeTransaction`. -/
def probeTransaction : Srv Bool := do
  ensure (request.envelope = none) "Probe cannot supply an authorization envelope"
  if request.schemaVersion = 2 then
    publish E
    return true
  let actual ← probeAndReconcile E
  let id ← okOr (transactionBytes request.transactionId)
    "owner transaction ID must be 32 lowercase hex digits"
  let history ← okOr (actual.history id) "code=owner_transaction_unknown"
  applyOwnerChange E
    (.probeTransaction history.transaction.transactionId history.transaction.revision)
  return false

/-- The record `PrepareOwner` goes on with: the cached one if its payload is the same, else a
new one for the staged authority. -/
def preparationOf (envelope : AuthorityEnvelope) (expectedActiveEpoch : Option ℕ)
    (prepareDeadlineMonoMs : ℕ) (state : Controller) : Srv OwnerAuthority :=
  match ownerRecord state.authority request.transactionId with
  | some record => do
    ensure (record.envelope = envelope
        ∧ record.transaction.expectedActiveEpoch = expectedActiveEpoch
        ∧ record.requestedPrepareDeadlineMonoMs = prepareDeadlineMonoMs)
      "code=owner_prepare_identity_mismatch reason=immutable_transaction_payload_changed"
    return record
  | none => do
    ensure (expectedActiveEpoch = state.authority.actualOwnerBinding.map (·.ownerEpoch))
      "code=owner_prepare_active_mismatch"
    ensure (state.authority.pending = some envelope) "code=authority_stage_mismatch"
    prepareRecord E envelope expectedActiveEpoch prepareDeadlineMonoMs
      state.authority.actualOwnerBinding

/-- `PrepareOwner`. -/
def prepareOwner (expectedActiveEpoch : Option ℕ) (prepareDeadlineMonoMs : ℕ) : Srv Unit := do
  let envelope ← okOr request.envelope "Prepare requires exact verified staged authority"
  ensure (envelope.transactionId = request.transactionId)
    "code=owner_prepare_identity_mismatch reason=request_and_envelope_transaction_differ"
  validateEnvelope E envelope
  let state ← controllerState
  ensure (isCancelled state.authority envelope.transactionId = false)
    "code=owner_precommit_cancelled"
  ensure (isRetired state.authority envelope.transactionId = false)
    "code=owner_expired_commit_retired"
  let record ← preparationOf E request envelope expectedActiveEpoch prepareDeadlineMonoMs state
  let port ← packetPort E envelope.binding
  -- The exact caps are kept before the change is queued, in case its answer is lost.
  when (ownerRecord state.authority request.transactionId = none) do
    modifyAuthority fun s => { s with ownerCandidate := some record }
  applyOwnerChange E (.prepareOwner record.transaction port (authorizationCheck envelope))

/-- `CommitOwner`, `FinishOwnerDrain` and `RetireOwnerAfterFailure`. -/
def ownerTransaction (change : OwnerTransaction → OwnerChange) : Srv Unit := do
  let state ← controllerState
  ensure (isRetired state.authority request.transactionId = false)
    "code=owner_expired_commit_retired"
  let record ← okOr (ownerRecord state.authority request.transactionId)
    "code=owner_transaction_unknown"
  ensure (request.envelope = some record.envelope) "code=owner_commit_identity_mismatch"
  when (state.authority.ownerTerminal.all
      fun (last, phase) => last.transaction ≠ record.transaction || phase ≠ .committed) do
    -- The record outlives a takeover: only the controller of the request is a new one.
    validateEnvelope E
      { record.envelope with controller := state.controller, controllerEpoch := state.epoch }
  applyOwnerChange E (change record.transaction)

/-- `AbortOwner`. -/
def abortOwner : Srv Unit := do
  let record ← okOr (ownerRecord (← controllerState).authority request.transactionId)
    "code=owner_transaction_unknown"
  ensure (∀ envelope ∈ request.envelope, envelope = record.envelope)
    "code=owner_abort_identity_mismatch"
  applyOwnerChange E (.abortOwner record.transaction)

/-- The staged authority. -/
def stage (envelope : AuthorityEnvelope) (s : AuthorityState) : AuthorityState :=
  { s with
    highestRevision := envelope.authorityRevision
    highestPolicyGeneration := max s.highestPolicyGeneration envelope.binding.policyGeneration
    highestOwnerEpoch := max s.highestOwnerEpoch envelope.binding.ownerEpoch
    pending := some envelope }

/-- `StageAuthority`; the answer is whether the request ends here, because it is a repetition. -/
def stageAuthority : Srv Bool := do
  let envelope ← okOr request.envelope "Stage requires verified local authority"
  ensure (envelope.transactionId = request.transactionId) "Stage transaction differs"
  validateEnvelope E envelope
  let state ← controllerState
  let s := state.authority
  ensure (isRetired s envelope.transactionId = false) "code=owner_expired_commit_retired"
  ensure (isCancelled s envelope.transactionId = false) "code=owner_precommit_cancelled"
  if s.pending = some envelope ∨ s.active = some envelope then return true
  ensure (s.pending = none ∧ s.highestRevision < envelope.authorityRevision
      ∧ max state.binding.policyGeneration s.highestPolicyGeneration
        ≤ envelope.binding.policyGeneration
      ∧ max state.binding.ownerEpoch s.highestOwnerEpoch < envelope.binding.ownerEpoch)
    "code=authority_revision_rejected"
  modifyAuthority (stage envelope)
  return false

/-- `AttachAuthorized`. -/
def attachAuthorized : Srv Unit := do
  let state ← controllerState
  ensure (state.authority.ownerCandidate = none) "code=owner_legacy_attach_rejected"
  let envelope ← okOr request.envelope "Attach requires exact staged authority"
  ensure (envelope.transactionId = request.transactionId
      ∧ state.authority.pending = some envelope) "code=authority_stage_mismatch"
  validateEnvelope E envelope
  let authDeadline ← ownerDeadline E envelope
  let port ← packetPort E envelope.binding
  reconcile E (← managerChange E (.attach port authDeadline (authorizationCheck envelope)))
  let state ← controllerState
  ensure (state.authority.active = some envelope ∧ state.binding = envelope.binding)
    "actual PacketPort attachment does not match authority transaction"

/-- `RevokeExact`. -/
def revokeExact : Srv Unit := do
  ensure (request.envelope = none) "Revoke cannot supply an envelope"
  let state ← controllerState
  let active ← okOr state.authority.active "no applied authority transaction"
  ensure (active.transactionId = request.transactionId ∧ state.binding = active.binding)
    "Revoke refers to another applied authority transaction"
  reconcile E (← managerChange E (.revoke active.binding.ownerEpoch))

/-- `DiscardAuthority`. -/
def discardAuthority : Srv Unit := do
  ensure (request.envelope = none) "Discard cannot supply an envelope"
  let s := (← controllerState).authority
  ensure (s.ownerCandidate.all (·.envelope.transactionId ≠ request.transactionId))
    "code=owner_discard_rejected"
  ensure (s.pending.any (·.transactionId = request.transactionId))
    "Discard refers to another pending authority transaction"
  modifyAuthority fun s => { s with pending := none }

/-- The `match` of `apply_request`; the answer is whether the request has already returned. -/
def operate : Srv Bool :=
  match request.operation with
  | .retireExpiredCommit expectedActive => do
    retireExpiredCommit E request expectedActive
    return false
  | .isolateCommittedOwner expectedActive => do
    isolateCommittedOwner E request expectedActive
    return false
  | .recoverPrecommit expectedActive => recoverPrecommit E request expectedActive
  | .probeTransaction => probeTransaction E request
  | .prepareOwner expectedActiveEpoch prepareDeadlineMonoMs => do
    prepareOwner E request expectedActiveEpoch prepareDeadlineMonoMs
    return false
  | .commitOwner => do
    ownerTransaction E request .commitOwner
    return false
  | .finishOwnerDrain => do
    ownerTransaction E request .finishOwnerDrain
    return false
  | .retireOwnerAfterFailure => do
    ownerTransaction E request .retireOwnerAfterFailure
    return false
  | .abortOwner => do
    abortOwner E request
    return false
  | .stageAuthority => stageAuthority E request
  | .attachAuthorized => do
    attachAuthorized E request
    return false
  | .revokeExact => do
    revokeExact E request
    return false
  | .discardAuthority => do
    discardAuthority request
    return false

/-- `apply_request` with the peer of the connection and the number of descriptors it sent. -/
def applyRequest (peer : ProcessIdentity) (descriptors : ℕ) : Srv Unit := do
  let state ← controllerState
  let peerCurrent ← processIsCurrent E peer
  ensure ((request.schemaVersion = 2 ∨ request.schemaVersion = 3)
      ∧ request.process = state.process ∧ request.controller = peer ∧ peer = state.controller
      ∧ request.controllerEpoch = state.epoch ∧ peerCurrent = true
      ∧ request.tokenSha256 = state.tokenSha256 ∧ isHex request.nonce 32
      ∧ isHex request.transactionId 32 ∧ state.registered = true)
    "code=authority_controller_rejected"
  ensure (request.schemaVersion = 3 ∨ request.operation.isOwnerTransaction = false)
    "code=owner_protocol_required"
  ensure (descriptors = if request.operation.needsDescriptor then 1 else 0)
    "authorized Attach and Prepare require one descriptor; other operations require none"
  let _ ← probeAndReconcile E
  if ← operate E request then return ()
  publish E
  when (request.operation.needsSync = true) do
    fileWorks E "code=owner_precommit_publication_unsynced"

/-- One request of the authority endpoint and its reply. -/
def serve (peer : ProcessIdentity) (descriptors : ℕ) : Srv AuthorityControlResponse := do
  let result ← attempt (applyRequest E request peer descriptors)
  return responseOf (← controllerState) request result.isOk

end CandyRuntime.Tunio
