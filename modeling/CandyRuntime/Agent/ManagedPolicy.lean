import CandyRuntime.Agent.Plan

/-!
# Publishing a policy on a live packet owner

`managed_policy.rs`: `try_update` with its checks of the TUNIO authority, of the worker and of
netd. A dispatched policy is a durable intent, the file `policy-update.json`, and later calls go
on with that intent until it is applied or its owner is known to have ended. What a call of the
host returns is a `Call`, and the controller works through a fixed stream of them.
-/

namespace CandyRuntime.Agent

open Lib Lib.Proc NetdProto NetdV2
  Tunio

/-! ## The host -/

/-- `Snapshot`: the captured configuration. -/
structure Snapshot where
  config : String
deriving DecidableEq, Repr

/-- `PolicyJournal`. -/
structure PolicyJournal where
  schemaVersion : ℕ
  snapshot : Snapshot
  plan : Plan
  worker : ManagedProcessRecord
  owner : ForwardOwner
  revision : ℕ
deriving DecidableEq, Repr

/-- The evidence that is kept when an intent ends with its owner. -/
structure PolicyTerminal where
  observedMonoMs : ℕ
  netdStatus : Body
  ioAuthority : AuthorityControlResponse
  intent : PolicyJournal
deriving DecidableEq, Repr

/-- The files: the intent, the evidence, the published plans and the record of the worker. -/
structure Disk where
  policyUpdate : Option PolicyJournal
  terminals : List PolicyTerminal
  plans : List Plan
  record : Option ManagedProcessRecord
deriving DecidableEq, Repr

/-- A call of `try_update` begins, sends a request to netd, finds the worker current, or finds
the owner of TUNIO active and before its deadline. -/
inductive Observation where
  | began
  | sent (operation : Operation)
  | workerCurrent
  | ownerAhead
deriving DecidableEq, Repr

/-- An observation, the number of the call it was made at, and whether there was an intent. -/
structure Seen where
  moment : ℕ
  pending : Bool
  event : Observation
deriving DecidableEq, Repr

/-- The files, the number of the next call, and what was observed so far, the latest first. -/
structure Host where
  disk : Disk
  clock : ℕ
  trace : List Seen
deriving DecidableEq, Repr

/-- What one call of the host returns. A write that fails may already have replaced its file,
`landed`; a reply of netd comes with or without a descriptor; `text` is a fresh name. -/
structure Call where
  works : Bool
  landed : Bool
  unix : Option ℕ
  mono : Option ℕ
  live : Option Bool
  status : Option WorkerStatus
  netd : Option (Body × Bool)
  compiled : Plan → Option (Plan × Report)
  snapshot : Option Snapshot
  text : String

/-- A step of the controller, with the text of its error. -/
abbrev Ctl := Proc Host String

variable (E : ℕ → Call)

/-- Read the host; `e` is the error when the reading fails. -/
def calling {α : Type} (f : Call → Option α) (e : String) : Ctl α := fun h =>
  let h' := { h with clock := h.clock + 1 }
  match f (E h.clock) with
  | some a => (.ok a, h')
  | none => (.err e, h')

/-- A call that is only known to work or not. -/
def works (e : String) : Ctl Unit := calling E (fun c => if c.works then some () else none) e

/-- `unix_time`. -/
def agentUnixTime : Ctl ℕ := calling E (·.unix) "system time before the epoch"

/-- `monotonic_ms`. -/
def agentMonotonicMs : Ctl ℕ := calling E (·.mono) "monotonic clock"

/-- One more observation. -/
def Host.sees (event : Observation) (h : Host) : Host :=
  { h with trace := ⟨h.clock, h.disk.policyUpdate.isSome, event⟩ :: h.trace }

/-- `business_is_current`. -/
def businessIsCurrent : Ctl Bool := do
  let live ← calling E (·.live) "process liveness"
  when (live = true) (modify (Host.sees .workerCurrent))
  return live

/-- `private_status`. -/
def privateStatus : Ctl WorkerStatus := calling E (·.status) "private status"

/-- `NetdControl::exchange`; the request does not decide what the reply is here. -/
def netdExchange (operation : Operation) : Ctl (Body × Bool) := do
  modify (Host.sees (.sent operation))
  calling E (·.netd) "netd exchange"

/-- `expect_ack`. -/
def expectAck (operation : Operation) : Ctl Unit := do
  let (body, fd) ← netdExchange E operation
  ensure (fd = false) "Agent must never receive the TUN fd in packet-port mode"
  match body with
  | .ack => return ()
  | .infraStatus (some _) _ _ => return ()
  | _ => fail "unexpected netd control reply"

/-- `compile_verified_plan`. -/
def compileVerifiedPlan (plan : Plan) : Ctl (Plan × Report) :=
  calling E (·.compiled plan) "code=signed_control_compile_failed"

/-- A write that replaces a file. -/
def writing (f : Disk → Disk) (e : String) : Ctl Unit := fun h =>
  let call := E h.clock
  let disk := if call.works || call.landed then f h.disk else h.disk
  (if call.works then .ok () else .err e, { h with disk, clock := h.clock + 1 })

/-- `publish` of the intent. -/
def publishJournal (journal : PolicyJournal) : Ctl Unit :=
  writing E (fun d => { d with policyUpdate := some journal }) "policy journal"

/-- `read` of the intent, which has to be there. -/
def readJournal : Ctl PolicyJournal := do
  works E "policy journal must be a private bounded regular file"
  let journal ← okOr (← get).disk.policyUpdate "policy journal absent"
  ensure (journal.schemaVersion = 1) "policy journal schema differs"
  return journal

/-- The intent is removed, and the directory is synchronised. -/
def removeJournal : Ctl Unit := do
  writing E (fun d => { d with policyUpdate := none }) "remove policy journal"
  works E "policy journal parent absent"

/-! ## Checks -/

/-- `AUTHORITY_RENEWAL_LEAD_SECS`. -/
def authorityRenewalLeadSecs : ℕ := 120

/-- `authority_renewal_due`. -/
def authorityRenewalDue (deadline now : ℕ) : Bool := deadline - now ≤ authorityRenewalLeadSecs

/-- `authority_refresh_needed`. -/
def authorityRefreshNeeded (current desired : Plan) (now : ℕ) : Bool :=
  current.authDeadlineUnix < desired.authDeadlineUnix
    && authorityRenewalDue current.authDeadlineUnix now

/-- A digest both reports have. -/
def sameVerifiedHash (current desired : Option String) : Bool :=
  current.any fun hash => hash.utf8ByteSize = 64 && desired = some hash

/-- A text both reports have. -/
def sameField (current desired : Option String) : Bool := current.isSome && current = desired

/-- `hot_policy_eligible`. -/
def hotPolicyEligible (current desired : Plan) (report report' : Report) : Bool :=
  current.independentWorker.isSome
    && current.infrastructure = desired.infrastructure
    && current.domainId = desired.domainId
    && sameIoLineage current desired
    && current.core = desired.core
    && current.tunio = desired.tunio
    && current.routingNamespace = desired.routingNamespace
    && current.placement = desired.placement
    && current.sharedListener = desired.sharedListener
    && current.authDeadlineUnix ≤ desired.authDeadlineUnix
    && current.signedGeneration ≤ desired.signedGeneration
    && current.declaration.tableId = desired.declaration.tableId
    && current.declaration.overlayRouterIpv4 = desired.declaration.overlayRouterIpv4
    && current.declaration.effectiveMtu = desired.declaration.effectiveMtu
    && current.declaration.exclusions = desired.declaration.exclusions
    && current.declaration.firewall = desired.declaration.firewall
    && sameVerifiedHash report.transportFingerprint report'.transportFingerprint
    && sameVerifiedHash report.trustSha256 report'.trustSha256
    && sameVerifiedHash report.resourceContractSha256 report'.resourceContractSha256
    && sameField report.tenantId report'.tenantId
    && sameField report.segmentId report'.segmentId
    && sameField report.siteId report'.siteId
    && sameField report.attachmentId report'.attachmentId
    && sameField report.deviceId report'.deviceId
    && sameField report.deviceKeyId report'.deviceKeyId

/-- TUNIO has no authority on its way: nothing staged, prepared or still draining. -/
def noneUnderway (actual : AuthorityControlResponse) : Bool :=
  actual.pending = none
    && actual.ownerTransaction.all (·.phase ≠ .prepared)
    && actual.retainedOwnerBinding = none

/-- The manager has seen no revision past the active one. -/
def revisionKnown (actual : AuthorityControlResponse) : Bool :=
  actual.ownerHighestRevision.all (· ≤ actual.authorityRevision.getD 0)

/-- The binding of TUNIO is the one of the plan. -/
def bindingMatches (plan : Plan) (binding : PacketPortBinding) : Bool :=
  binding.ownerEpoch = plan.workerEpoch
    && binding.policyGeneration = bindingPolicyGeneration plan
    && binding.ioEpoch = plan.ioEpoch
    && binding.routingDomainId = plan.domainId
    && binding.infrastructureId = plan.infrastructure.infraId
    && binding.infrastructureGeneration = plan.infrastructure.generation

/-- The status is the one the worker published for this binding. -/
def statusMatches (plan : Plan) (record : ManagedProcessRecord) (binding : PacketPortBinding)
    (status : WorkerStatus) : Bool :=
  status.schemaVersion = some 3
    && status.pid = some record.pid
    && status.generation = some (bindingPolicyGeneration plan)
    && status.authDeadlineUnix = some plan.authDeadlineUnix
    && status.packetBinding = some binding
    && status.readinessTokenSha256 = some record.readinessTokenSha256

/-- The applied authority is the signed one of the plan, for this worker. -/
def signedOwnerMatches (authority : AuthorityProof) (active : AuthorityEnvelope)
    (record : ManagedProcessRecord) (actual : AuthorityControlResponse) (status : WorkerStatus) :
    Bool :=
  actual.appliedTransactionId = some authority.transactionId
    && actual.authorityRevision = some authority.revision
    && active.signedControlHash = authority.sha256
    && active.candidate = record.identity
    && active.binding = actual.currentBinding
    && status.workerAuthorityRevision = some authority.revision
    && status.workerAuthoritySha256 = some authority.sha256
    && status.workerTransactionId = some authority.transactionId

/-- The `match` of `validate_owner` on the authority of the plan and the active one. -/
def checkAuthority (plan : Plan) (record : ManagedProcessRecord)
    (actual : AuthorityControlResponse) (status : WorkerStatus) : Ctl Unit :=
  match plan.authority, actual.active with
  | some authority, some active =>
    ensure (signedOwnerMatches authority active record actual status)
      "policy publication differs from original signed owner authority"
  | none, none =>
    ensure (actual.highestRevision = 0 ∧ actual.appliedTransactionId = none
      ∧ status.workerAuthorityRevision = none) "bootstrap policy authority is not pristine"
  | _, _ => fail "policy owner authority is inconsistent"

/-- The deadline of the I/O authority has not passed. -/
def capAhead (plan : Plan) (actual : AuthorityControlResponse) : Ctl Bool := fun h =>
  let now := (E h.clock).mono
  (.ok (match actual.actualDeadlineMonoMs with
    | none => plan.authority.isNone
    | some cap => now.any (· < cap)), { h with clock := h.clock + 1 })

/-- `validate_owner`. -/
def validateOwner (plan : Plan) (record : ManagedProcessRecord)
    (actual : AuthorityControlResponse) (live : Bool) : Ctl Unit := do
  ensure (noneUnderway actual) "pending authority prevents policy publication"
  ensure (revisionKnown actual) "unknown prepared owner revision prevents policy publication"
  when (live = true) do
    let now ← agentUnixTime E
    works E "managed process identity or epoch changed"
    ensure (record.authDeadlineUnix ≠ 0 ∧ now < record.authDeadlineUnix)
      "managed record authorization invalid or expired"
    ensure ((← businessIsCurrent E) = true) "policy worker is no longer live"
  let ahead ← if live then capAhead E plan actual else pure true
  ensure ((live = false ∨ actual.ownerActive) ∧ bindingMatches plan actual.currentBinding
    ∧ ahead) "policy publication does not match exact live IO authority"
  when (live = true) (modify (Host.sees .ownerAhead))
  let status ← privateStatus E
  ensure (statusMatches plan record actual.currentBinding status)
    "live policy process status differs from original physical authority"
  checkAuthority plan record actual status
  when (live = true) do works E "worker placement"

/-- `same_physical_owner`: the lease deadline is the only part that may differ. -/
def samePhysicalOwner (left right : ForwardOwner) : Bool :=
  left.domainId = right.domainId
    && left.signedGeneration = right.signedGeneration
    && left.workerEpoch = right.workerEpoch
    && left.fencingToken = right.fencingToken
    && left.authDeadlineMonoMs = right.authDeadlineMonoMs

/-! ## Leases -/

/-- `renew_preflight_lease`. -/
def renewPreflightLease (plan : Plan) : Ctl Bool := do
  match ← netdExchange E .forwardStatus with
  | (.forwardStatus (some owner) (some phase) none _ _ _ none none _ _ _ none, fd) =>
    let now ← agentMonotonicMs E
    ensure (fd = false ∧ owner.domainId = plan.domainId
        ∧ owner.signedGeneration = bindingPolicyGeneration plan
        ∧ owner.workerEpoch = plan.workerEpoch ∧ owner.fencingToken = plan.fencingToken)
      "policy preflight forwarding authority changed physical identity"
    if phase ≠ .active ∨ owner.authDeadlineMonoMs ≤ now ∨ owner.leaseDeadlineMonoMs ≤ now then
      return false
    expectAck E (.forwardLeaseRenew { owner with
      leaseDeadlineMonoMs :=
        max (min (now + 30000) owner.authDeadlineMonoMs) owner.leaseDeadlineMonoMs })
    return true
  | _ => fail "policy preflight requires exact active owner without pending transactions"

/-- `reconcile_lease`: the terminal status of a revoked owner, or the intent with the lease netd
has now. -/
def reconcileLease (journal : PolicyJournal) : Ctl (Option Body × PolicyJournal) := do
  let (status, fd) ← netdExchange E .forwardStatus
  match status with
  | .forwardStatus (some owner) (some phase) none lastFencingToken _ _ none none
      activePolicyRevision activePolicyGeneration activePolicyHash pendingPolicyRevision =>
    ensure (fd = false ∧ samePhysicalOwner journal.owner owner
        ∧ lastFencingToken = owner.fencingToken)
      "pending policy forwarding owner changed physical identity"
    let now ← agentMonotonicMs E
    if phase = .revoked then
      ensure (pendingPolicyRevision = none
          ∧ (owner.leaseDeadlineMonoMs ≤ now ∨ owner.authDeadlineMonoMs ≤ now))
        "revoked policy owner lacks terminal expiry evidence"
      return (some status, journal)
    ensure (phase = .active ∧ now < owner.authDeadlineMonoMs ∧ now < owner.leaseDeadlineMonoMs
        ∧ pendingPolicyRevision.all (· = journal.revision)
        ∧ activePolicyRevision ≤ journal.revision
        ∧ (activePolicyRevision ≠ journal.revision
          ∨ (activePolicyGeneration = some journal.plan.signedGeneration
            ∧ activePolicyHash = journal.plan.authorizationSnapshotSha256)))
      "pending policy requires exact live forwarding owner and revision"
    let due := decide (owner.leaseDeadlineMonoMs - now ≤ 15000)
    let renewed := if due then
      { owner with leaseDeadlineMonoMs := min (now + 30000) owner.authDeadlineMonoMs } else owner
    when (due = true) do expectAck E (.forwardLeaseRenew renewed)
    if journal.owner ≠ renewed then
      publishJournal E { journal with owner := renewed }
    return (none, { journal with owner := renewed })
  | _ => fail "code=managed_policy_owner_unknown"

/-! ## `try_update` -/

/-- The new intent, or nothing when this publication is not for the live owner. -/
def newIntent (desired current : Plan) (record : ManagedProcessRecord)
    (actual : AuthorityControlResponse) : Ctl (Option PolicyJournal) := do
  if authorityRefreshNeeded current desired (← agentUnixTime E) then return none
  if current.authDeadlineUnix ≤ (← agentUnixTime E) then return none
  if actual.ownerActive = false then return none
  if (← businessIsCurrent E) = false then return none
  validateOwner E current record actual true
  if (← renewPreflightLease E current) = false then return none
  let (current, report) ← compileVerifiedPlan E current
  if (← renewPreflightLease E current) = false then return none
  let (desired, report') ← compileVerifiedPlan E desired
  if (← renewPreflightLease E current) = false then return none
  if authorityRefreshNeeded current desired (← agentUnixTime E) then return none
  if hotPolicyEligible current desired report report' = false then return none
  ensure (report.authorizationSnapshotSha256 = record.authorizationSnapshotSha256)
    "recorded active policy differs from verified current snapshot"
  validateOwner E current record actual true
  match ← netdExchange E .forwardStatus with
  | (.forwardStatus (some owner) (some phase) none _ _ _ none none activePolicyRevision
      activePolicyGeneration activePolicyHash none, fd) =>
    if phase ≠ .active then return none
    ensure (fd = false ∧ owner.domainId = current.domainId
        ∧ owner.signedGeneration = bindingPolicyGeneration current
        ∧ owner.workerEpoch = current.workerEpoch
        ∧ activePolicyRevision = current.policyRevision
        ∧ (current.policyRevision = 0
          ∨ (activePolicyGeneration = some current.signedGeneration
            ∧ activePolicyHash = current.authorizationSnapshotSha256)))
      "policy forwarding owner or active revision differs from live packet owner"
    let snapshot ← calling E (·.snapshot) "snapshot"
    let (verified, verifiedReport) ← compileVerifiedPlan E
      { desired with coreConfig := snapshot.config }
    if (← renewPreflightLease E current) = false then return none
    ensure (hotPolicyEligible current verified report verifiedReport)
      "policy snapshot changed transport identity or original authority cap"
    let hash ← okOr verifiedReport.authorizationSnapshotSha256 "verified policy hash absent"
    let file ← calling E (fun c => some c.text) ""
    ensure (activePolicyRevision + 1 < 2 ^ 64) "policy revision exhausted"
    let revision := activePolicyRevision + 1
    let journal : PolicyJournal := {
      schemaVersion := 1
      snapshot
      plan := { current with
        signedGeneration := verified.signedGeneration
        bindingPolicyGeneration := some (Agent.bindingPolicyGeneration current)
        coreConfig := verified.coreConfig
        declaration := verified.declaration
        authorizationSnapshotSha256 := some hash
        effectivePlanFile := some file
        policyRevision := revision }
      worker := record
      owner
      revision }
    publishJournal E journal
    return some journal
  | _ => fail "pending forwarding transaction prevents policy publication"

/-- The intent ends with its owner: the evidence is kept and the intent is removed. -/
def retireIntent (journal : PolicyJournal) (actual : AuthorityControlResponse) (status : Body) :
    Ctl Unit := do
  let observed ← agentMonotonicMs E
  writing E (fun d => { d with terminals := ⟨observed, status, actual, journal⟩ :: d.terminals })
    "policy terminal"
  removeJournal E

/-- The intent is applied: the worker acknowledges it, netd takes its routes, and the record of
the worker follows. -/
def applyIntent (journal : PolicyJournal) (actual : AuthorityControlResponse) : Ctl Unit := do
  validateOwner E journal.plan journal.worker actual true
  ensure (actual.actualDeadlineMonoMs.all (journal.owner.authDeadlineMonoMs ≤ ·))
    "pending policy owner exceeds original IO authority cap"
  works E "code=managed_policy_ack_pending"
  let acknowledged ← privateStatus E
  ensure (acknowledged.policyGeneration = some journal.plan.signedGeneration
      ∧ acknowledged.policyRevision = some journal.revision
      ∧ acknowledged.authorizationSnapshotSha256 = journal.plan.authorizationSnapshotSha256)
    "Core ACK lacks matching durable active policy status"
  let hash ← okOr journal.plan.authorizationSnapshotSha256 "policy hash absent"
  expectAck E (.forwardPolicyUpdate journal.owner journal.revision journal.plan.signedGeneration
    hash journal.plan.declaration)
  ensure (journal.plan.effectivePlanFile.isSome) "effective immutable plan path absent"
  writing E (fun d => { d with plans := journal.plan :: d.plans }) "effective plan"
  writing E (fun d => { d with record := some { journal.worker with
    policyGeneration := journal.plan.signedGeneration
    statusGeneration := some (bindingPolicyGeneration journal.plan)
    effectivePlanFile := journal.plan.effectivePlanFile
    authorizationSnapshotSha256 := journal.plan.authorizationSnapshotSha256 } }) "process record"
  removeJournal E

/-- The second half of `try_update`, with the intent. -/
def resumeIntent (current : Plan) (record : ManagedProcessRecord)
    (actual : AuthorityControlResponse) (journal : PolicyJournal) : Ctl Bool := do
  works E "snapshot differs"
  ensure (record.identity = journal.worker.identity ∧ current.domainId = journal.plan.domainId
      ∧ current.infrastructure = journal.plan.infrastructure)
    "pending policy transaction belongs to a different physical owner"
  ensure (noneUnderway actual ∧ revisionKnown actual
      ∧ actual.currentBinding.ownerEpoch = journal.plan.workerEpoch
      ∧ actual.currentBinding.policyGeneration = bindingPolicyGeneration journal.plan
      ∧ actual.currentBinding.ioEpoch = journal.plan.ioEpoch
      ∧ actual.currentBinding.routingDomainId = journal.plan.domainId)
    "unresolved IO authority prevents policy recovery"
  validateOwner E journal.plan journal.worker actual false
  match ← reconcileLease E journal with
  | (some status, journal) =>
    retireIntent E journal actual status
    return false
  | (none, journal) =>
    applyIntent E journal actual
    return true

/-- `try_update`; the answer is whether the policy is applied. -/
def tryUpdate (desired current : Plan) (record : ManagedProcessRecord)
    (actual : AuthorityControlResponse) : Ctl Bool := do
  ensure (desired.independentWorker.isSome) "policy worker absent"
  works E "open policy transaction lock"
  works E "policy transaction lock is not private"
  works E "policy transaction already has a controller"
  works E "inspect policy journal"
  if (← get).disk.policyUpdate.isSome then
    resumeIntent E current record actual (← readJournal E)
  else
    match ← newIntent E desired current record actual with
    | none => return false
    | some journal => resumeIntent E current record actual journal

end CandyRuntime.Agent
