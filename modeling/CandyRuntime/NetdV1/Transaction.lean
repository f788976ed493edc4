import CandyRuntime.Lib.Proc
import CandyRuntime.NetdV1.Journal
import Mathlib.Data.List.Destutter

/-!
# The v1 network transaction

`NetworkTransaction` of `network.rs`: the operations in the order in which they call the
backend and the journal, and what each leaves in memory when a call fails.

* A backend call is one constructor of `BackendCall`; `calls` logs every call with whether it
  took effect, newest first. What the log means for the kernel is said elsewhere.
* The journal is a `JournalFormat`: how a record becomes the stored content and back.
* `Fate` says what happens to one call. A call can fail after it has taken effect, and the
  process can be killed in front of any call; whatever happens between two calls only
  touches memory.
-/

namespace CandyRuntime.NetdV1

open Lib Lib.Proc NetdProto

/-! ## The process and its surroundings -/

/-- The calls of `NetworkBackend`. -/
inductive BackendCall where
  | preflight (declaration : PrepareDeclaration)
  | prepareLink (declaration : PrepareDeclaration)
  | prepareRoutes (declaration : PrepareDeclaration)
  | reconcileRoutes (declaration : PrepareDeclaration) (failedPrefixes : List Ipv4Prefix)
  | prepareFirewall (declaration : PrepareDeclaration)
  | replaceFirewall (previous replacement : PrepareDeclaration)
  | prepareSysctls (declaration : PrepareDeclaration) (changes : List SysctlChange)
  | activateLink (declaration : PrepareDeclaration)
  | updateLinkMtu (declaration : PrepareDeclaration) (effectiveMtu : UInt16)
  | installPolicyRule (declaration : PrepareDeclaration)
  | removePolicyRule (declaration : PrepareDeclaration)
  | deactivateLink (declaration : PrepareDeclaration)
  | removeFirewall (declaration : PrepareDeclaration)
  | removeRoutes (declaration : PrepareDeclaration)
  | removeLink (declaration : PrepareDeclaration)
  | restoreSysctls (declaration : PrepareDeclaration) (changes : List SysctlChange)
deriving DecidableEq, Repr

/-- What happens to one backend or journal call. -/
inductive Fate where
  | ok
  | fail (applied : Bool)
  | crash
deriving DecidableEq, Repr

/-- The fates of the calls still to come. -/
structure Fates where
  backend : ℕ → Fate
  journal : ℕ → Fate

/-- Every call succeeds. -/
def Fates.allOk : Fates := { backend := fun _ => .ok, journal := fun _ => .ok }

/-- How records are kept on disk. -/
structure JournalFormat (β : Type) where
  encode : TransactionRecord → Except NetworkError β
  decode : β → Except NetworkError TransactionRecord

/-- A journal that gives back exactly what was stored. -/
def exactFormat : JournalFormat TransactionRecord where
  encode := .ok
  decode := .ok

def maxJournalLen : ℕ :=
  headerLen + 3 * 3 + 8 + maxNetdFrameLen + 4 + maxNetdFrameLen + 4 + 2 + 5 * 1024 + checksumLen

/-- `FileNetworkJournal`. A panic while loading leaves the daemon down as an error does. -/
def fileFormat (sha : Bytes → Vector UInt8 32) : JournalFormat Bytes where
  encode := encodeRecord sha
  decode bytes :=
    if headerLen + checksumLen ≤ bytes.length ∧ bytes.length ≤ maxJournalLen then
      ((decodeRecord sha bytes).run).getD (.error .journal)
    else .error .journal

/-- `NetworkTransaction`: the record in memory, the journal file, and the host the backend
works on, of which the calls made so far and the sysctl values it reads are kept. -/
structure NetworkTransaction (β : Type) where
  record : Option TransactionRecord
  stored : Option β
  calls : List (BackendCall × Bool)
  readings : SysctlKey → Option (Fin 3)
  fates : Fates

/-- A step of the transaction. -/
abbrev Tx (β : Type) := Proc (NetworkTransaction β) NetworkError

variable {β : Type}

/-- A call of the backend. -/
def call (c : BackendCall) : Tx β Unit := fun w =>
  let rest := { w with fates := { w.fates with backend := fun n => w.fates.backend (n + 1) } }
  match w.fates.backend 0 with
  | .ok => (.ok (), { rest with calls := (c, true) :: w.calls })
  | .fail applied => (.err .backend, { rest with calls := (c, applied) :: w.calls })
  | .crash => (.crash, rest)

/-- A write of the journal file. -/
def writeJournal (content : Option β) : Tx β Unit := fun w =>
  let rest := { w with fates := { w.fates with journal := fun n => w.fates.journal (n + 1) } }
  match w.fates.journal 0 with
  | .ok => (.ok (), { rest with stored := content })
  | .fail applied =>
    (.err .journal, if applied then { rest with stored := content } else rest)
  | .crash => (.crash, rest)

/-- `NetworkJournal::store`. -/
def store (J : JournalFormat β) (record : TransactionRecord) : Tx β Unit :=
  match J.encode record with
  | .ok content => writeJournal (some content)
  | .error e => fail e

/-- `NetworkJournal::clear`. -/
def clearJournal : Tx β Unit := writeJournal none

/-- `push_change`. -/
def pushChange (readings : SysctlKey → Option (Fin 3)) (key : SysctlKey) (applied : UInt8) :
    Except NetworkError (List SysctlChange) :=
  match readings key with
  | none => .error .backend
  | some original =>
    if UInt8.ofNat original ≠ applied then
      .ok [{ key, original := UInt8.ofNat original, applied }]
    else .ok []

/-- `snapshot_sysctls`: the host-wide keys must be there, those of the interface are taken
when it exists. -/
def snapshotSysctls (readings : SysctlKey → Option (Fin 3)) (declaration : PrepareDeclaration) :
    Except NetworkError (List SysctlChange) := do
  let forward ←
    if declaration.firewall.requireIpv4Forwarding then pushChange readings .ipv4Forward 1
    else .ok []
  let allRp ←
    if declaration.firewall.manageRpFilter then pushChange readings .allRpFilter 0 else .ok []
  let candyRp ←
    if declaration.firewall.manageRpFilter && (readings .candyRpFilter).isSome then
      pushChange readings .candyRpFilter 0
    else .ok []
  let candyIpv6 ←
    if (readings .candyDisableIpv6).isSome then pushChange readings .candyDisableIpv6 1
    else .ok []
  return forward ++ (allRp ++ (candyRp ++ candyIpv6))

/-- `NetworkBackend::preflight`. -/
def preflight (declaration : PrepareDeclaration) : Tx β (List SysctlChange) := do
  call (.preflight declaration)
  lift (snapshotSysctls (← get).readings declaration)

/-- `at_stage`. -/
def atStage {α : Type} (m : Tx β α) (stage : BackendStage) : Tx β α :=
  mapError (fun e => if e = .backend then .backendStage stage else e) m

/-! ## Pure helpers -/

/-- `ensure_owner`. -/
def ensureOwner (retained request : LeaseOwner) : Except NetworkError Unit :=
  refuseIf (!(retained.instanceId == request.instanceId && retained.pid == request.pid
    && retained.generation == request.generation)) .conflict

/-- `ensure_reconfigure_owner`. -/
def ensureReconfigureOwner (retained request : LeaseOwner) : Except NetworkError Unit :=
  refuseIf (!(retained.instanceId == request.instanceId && retained.pid == request.pid)) .conflict

/-- `ensure_reconfigure_owner` when a candidate is staged, `ensure_owner` otherwise. -/
def ensureStagedOwner (record : TransactionRecord) (request : LeaseOwner) :
    Except NetworkError Unit :=
  if record.recoveryCandidate.isSome then ensureReconfigureOwner record.owner request
  else ensureOwner record.owner request

/-- The route kinds whose prefixes can be withdrawn. -/
def withdrawable : RouteKind → Bool
  | .remote | .remoteEgress | .remoteEgressGateway => true
  | .localSite => false

/-- The declaration has a withdrawable route for the prefix. -/
def inScope (declaration : PrepareDeclaration) (p : Ipv4Prefix) : Bool :=
  declaration.routes.any fun route => route.ipv4Prefix == p && withdrawable route.kind

/-- `sort` and `dedup`. -/
def sortDedup (prefixes : List Ipv4Prefix) : List Ipv4Prefix :=
  (prefixes.insertionSort (fun p q => p ≤ q)).destutter (fun p q => p ≠ q)

/-- The sorted prefixes of the local routes. -/
def localPrefixes (declaration : PrepareDeclaration) : List Ipv4Prefix :=
  ((declaration.routes.filter (·.kind == .localSite)).map (·.ipv4Prefix)).insertionSort
    (fun p q => p ≤ q)

/-- Some route leaves through an egress. -/
def hasEgress (declaration : PrepareDeclaration) : Bool :=
  declaration.routes.any fun route =>
    route.kind == .remoteEgress || route.kind == .remoteEgressGateway

/-- `firewall_policy_changed`. -/
def firewallPolicyChanged (current candidate : PrepareDeclaration) : Bool :=
  current.firewall != candidate.firewall
    || localPrefixes current != localPrefixes candidate
    || hasEgress current != hasEgress candidate

/-- `same_tunnel_declaration`. -/
def sameTunnelDeclaration (current candidate : PrepareDeclaration) : Bool :=
  current.tableId == candidate.tableId
    && current.overlayRouterIpv4 == candidate.overlayRouterIpv4
    && current.effectiveMtu == candidate.effectiveMtu
    && current.exclusions == candidate.exclusions

/-- `u64::saturating_add`. -/
def saturatingAdd (a b : UInt64) : UInt64 :=
  if a.toNat + b.toNat < 2 ^ 64 then a + b else UInt64.ofNat (2 ^ 64 - 1)

/-- `declaration.validate().map_err(|_| NetworkError::Backend)`. -/
def validDeclaration (declaration : PrepareDeclaration) : Except NetworkError Unit :=
  declaration.validate.mapError fun _ => .backend

/-- The record without its candidate, active. -/
def discardCandidate (record : TransactionRecord) : TransactionRecord :=
  { record with recoveryCandidate := none, recoveryCandidateOwner := none, phase := .active,
                drainDeadlineMonoMs := 0 }

/-! ## The record in memory -/

/-- `self.record.as_ref().ok_or(NetworkError::InvalidTransition)?`. -/
def current : Tx β TransactionRecord := do
  okOr (← get).record .invalidTransition

def setRecord (record : Option TransactionRecord) : Tx β Unit :=
  modify fun w => { w with record }

/-- Change the record in memory, then store it: memory keeps the change when the store
fails. -/
def amend (J : JournalFormat β) (f : TransactionRecord → TransactionRecord) : Tx β Unit := do
  let record ← current
  setRecord (some (f record))
  store J (f record)

/-- Store a new record, then keep it in memory: memory keeps the old one when the store
fails. -/
def replaceRecord (J : JournalFormat β) (record : TransactionRecord) : Tx β Unit := do
  store J record
  setRecord (some record)

/-- `complete_step`. -/
def completeStep (J : JournalFormat β) (step : UInt16) : Tx β Unit :=
  amend J fun record => { record with completedSteps := record.completedSteps ||| step }

/-- `clear_step`. -/
def clearStep (J : JournalFormat β) (step : UInt16) : Tx β Unit :=
  amend J fun record => { record with completedSteps := record.completedSteps &&& ~~~ step }

/-- `set_phase`. -/
def setPhase (J : JournalFormat β) (phase : TransactionPhase) : Tx β Unit :=
  amend J fun record => { record with phase }

/-! ## Clean-up -/

/-- `cleanup_step!`: undo one step and clear its bit; the first error is kept. -/
def cleanupStep (J : JournalFormat β) (needed : Bool) (operation : BackendCall) (step : UInt16)
    (first : Option NetworkError) : Tx β (Option NetworkError) :=
  if needed then do
    let failed ← errorOf (do call operation; clearStep J step)
    return first <|> failed
  else pure first

/-- The candidate's part of `cleanup_record`. -/
def cleanupCandidate (J : JournalFormat β) : Option PrepareDeclaration → Tx β (Option NetworkError)
  | none => pure none
  | some candidate => do
    let firewall ← errorOf (call (.removeFirewall candidate))
    let routes ← errorOf (call (.removeRoutes candidate))
    match firewall <|> routes with
    | some e => return some e
    | none => errorOf (amend J fun record =>
        { record with recoveryCandidate := none, recoveryCandidateOwner := none })

/-- The routes to delete: a withdrawn prefix has left a throw route, as a local one does. -/
def routesForCleanup (record : TransactionRecord) : PrepareDeclaration :=
  { record.declaration with
    routes := record.declaration.routes.map fun route =>
      if route.ipv4Prefix ∈ record.failedPrefixes then { route with kind := .localSite }
      else route }

/-- The end of `cleanup_record`: a record with nothing left to undo is cleared. -/
def cleanupFinish (first : Option NetworkError) : Tx β (Option NetworkError) := do
  match (← get).record with
  | none => return first
  | some record =>
    if record.completedSteps = 0 ∧ record.recoveryCandidate = none then
      let failed ← errorOf (do clearJournal; setRecord none)
      return first <|> failed
    else return first

/-- `cleanup_record`. -/
def cleanupRecord (J : JournalFormat β) : Tx β Unit := do
  setPhase J .rollingBack
  let record ← current
  let declaration := record.declaration
  let steps := record.completedSteps
  let first ← cleanupCandidate J record.recoveryCandidate
  let first ← cleanupStep J (stepDone steps stepPolicyRule) (.removePolicyRule declaration)
    stepPolicyRule first
  let first ← cleanupStep J (stepDone steps (stepLink ||| stepLinkActive))
    (.deactivateLink declaration) stepLinkActive first
  let first ← cleanupStep J (stepDone steps stepSysctls)
    (.restoreSysctls declaration record.sysctls) stepSysctls first
  let first ← cleanupStep J (stepDone steps stepFirewall) (.removeFirewall declaration)
    stepFirewall first
  let first ← cleanupStep J (stepDone steps stepRoutes) (.removeRoutes (routesForCleanup record))
    stepRoutes first
  let first ← cleanupStep J (stepDone steps stepLink) (.removeLink declaration) stepLink first
  let first ← cleanupFinish first
  match first with
  | none => pure ()
  | some e => fail e

/-! ## Operations -/

/-- `prepare_steps`. -/
def prepareSteps (J : JournalFormat β) : Tx β Unit := do
  let declaration := (← current).declaration
  let sysctls ← atStage (preflight declaration) .preflight
  amend J fun record => { record with sysctls }
  completeStep J stepSysctls
  let sysctls := (← current).sysctls
  atStage (call (.prepareSysctls declaration sysctls)) .sysctlPrepare
  completeStep J stepLink
  atStage (call (.prepareLink declaration)) .linkPrepare
  completeStep J stepLinkActive
  atStage (call (.activateLink declaration)) .linkActivate
  completeStep J stepRoutes
  atStage (call (.prepareRoutes declaration)) .routePrepare
  completeStep J stepFirewall
  atStage (call (.prepareFirewall declaration)) .firewallPrepare
  setPhase J .prepared

/-- The record `prepare` starts with. -/
def freshRecord (owner : LeaseOwner) (declaration : PrepareDeclaration) : TransactionRecord :=
  { owner, declaration, recoveryCandidate := none, recoveryCandidateOwner := none,
    phase := .preparing, completedSteps := 0, sysctls := [], drainDeadlineMonoMs := 0,
    failedPrefixes := [] }

/-- `prepare`. -/
def prepare (J : JournalFormat β) (owner : LeaseOwner) (declaration : PrepareDeclaration) :
    Tx β Unit := do
  match (← get).record with
  | some record =>
    lift (ensureOwner record.owner owner)
    ensure (record.declaration = declaration) .conflict
    ensure (record.phase = .prepared ∨ record.phase = .active) .invalidTransition
  | none =>
    lift (validDeclaration declaration)
    replaceRecord J (freshRecord owner declaration)
    handle (prepareSteps J) fun e => do
      ignore (cleanupRecord J)
      fail e

/-- The record while the old declaration is drained. -/
def drainingFrom (nowMonoMs drainTimeoutMs : UInt64) (record : TransactionRecord) :
    TransactionRecord :=
  { record with phase := .draining
                drainDeadlineMonoMs := saturatingAdd nowMonoMs drainTimeoutMs }

/-- The clean-up of a replacement that could not be committed. -/
def commitFailed (J : JournalFormat β) (candidate : PrepareDeclaration) (e : NetworkError) :
    Tx β Unit := do
  ignore (call (.removePolicyRule candidate))
  ignore (call (.removeFirewall candidate))
  ignore (call (.removeRoutes candidate))
  ignore (amend J discardCandidate)
  fail e

/-- `commit_with_drain` for a staged replacement. -/
def commitReplacement (J : JournalFormat β) (candidate : PrepareDeclaration)
    (nowMonoMs drainTimeoutMs : UInt64) : Tx β Unit :=
  handle
    (do
      call (.activateLink candidate)
      call (.installPolicyRule candidate)
      amend J (drainingFrom nowMonoMs drainTimeoutMs))
    (commitFailed J candidate)

/-- `commit_with_drain` for the first declaration. -/
def commitInitial (J : JournalFormat β) (declaration : PrepareDeclaration) : Tx β Unit :=
  handle
    (do
      completeStep J stepPolicyRule
      atStage (call (.installPolicyRule declaration)) .policyActivate
      setPhase J .active)
    fun e => do
      ignore (cleanupRecord J)
      fail e

/-- `commit_with_drain`. -/
def commitWithDrain (J : JournalFormat β) (owner : LeaseOwner) (nowMonoMs drainTimeoutMs : UInt64) :
    Tx β Unit := do
  let record ← current
  lift (ensureStagedOwner record owner)
  match record.phase, record.recoveryCandidate with
  | .draining, _ => pure ()
  | .prepared, some candidate => commitReplacement J candidate nowMonoMs drainTimeoutMs
  | .active, _ => pure ()
  | .prepared, none => commitInitial J record.declaration
  | _, _ => fail .invalidTransition

/-- The record after the candidate has taken over. -/
def promoteCandidate (owner : LeaseOwner) (candidate : PrepareDeclaration)
    (record : TransactionRecord) : TransactionRecord :=
  { discardCandidate record with owner, declaration := candidate }

/-- `drain_old`. -/
def drainOld (J : JournalFormat β) (owner : LeaseOwner) (nowMonoMs : UInt64) : Tx β Unit := do
  let record ← current
  lift (ensureStagedOwner record owner)
  if record.phase = .active ∧ record.recoveryCandidate = none then pure ()
  else
    ensure (record.phase = .draining) .invalidTransition
    ensure (record.drainDeadlineMonoMs = 0 ∨ record.drainDeadlineMonoMs ≤ nowMonoMs) .drainPending
    let candidate ← okOr record.recoveryCandidate .invalidTransition
    let candidateOwner := record.recoveryCandidateOwner.getD owner
    call (.removePolicyRule record.declaration)
    call (.removeFirewall record.declaration)
    call (.removeRoutes record.declaration)
    amend J (promoteCandidate candidateOwner candidate)

/-- Remove a staged candidate and go back to the active declaration. -/
def withdrawCandidate (J : JournalFormat β) (candidate : PrepareDeclaration) : Tx β Unit := do
  call (.removeFirewall candidate)
  call (.removeRoutes candidate)
  amend J discardCandidate

/-- A replacement is staged and not committed. -/
def stagedCandidate (record : TransactionRecord) : Option PrepareDeclaration :=
  if record.phase = .preparing ∨ record.phase = .prepared then record.recoveryCandidate else none

/-- `rollback`. -/
def rollback (J : JournalFormat β) (owner : LeaseOwner) : Tx β Unit := do
  let record ← current
  match stagedCandidate record with
  | some candidate =>
    lift (ensureReconfigureOwner record.owner owner)
    withdrawCandidate J candidate
  | none =>
    lift (ensureOwner record.owner owner)
    cleanupRecord J

/-- `set_failed_prefixes`. -/
def setFailedPrefixes (J : JournalFormat β) (owner : LeaseOwner) (prefixes : List Ipv4Prefix) :
    Tx β Unit := do
  let record ← current
  lift (ensureOwner record.owner owner)
  ensure (record.phase = .active ∨ record.phase = .suspended) .invalidTransition
  let declaration := record.declaration
  let desired := sortDedup prefixes
  ensure (desired.all (inScope declaration) = true) .conflict
  call (.reconcileRoutes declaration desired)
  when (record.phase = .active) (call (.installPolicyRule declaration))
  amend J fun record => { record with failedPrefixes := desired }

/-- `renew_lease`. -/
def renewLease (J : JournalFormat β) (owner : LeaseOwner) : Tx β Unit := do
  let record ← current
  lift (ensureStagedOwner record owner)
  amend J fun record =>
    { record with owner := { record.owner with leaseDeadlineMonoMs := owner.leaseDeadlineMonoMs } }

/-- `update_mtu`. -/
def updateMtu (J : JournalFormat β) (owner : LeaseOwner) (effectiveMtu : UInt16) : Tx β Unit := do
  ensure (576 ≤ effectiveMtu ∧ effectiveMtu ≤ 1400) .invalidTransition
  let record ← current
  lift (ensureOwner record.owner owner)
  ensure (record.phase = .active ∧ effectiveMtu < record.declaration.effectiveMtu)
    .invalidTransition
  call (.updateLinkMtu record.declaration effectiveMtu)
  amend J fun record => { record with declaration := { record.declaration with effectiveMtu } }

/-- `suspend`. -/
def suspend (J : JournalFormat β) (owner : LeaseOwner) : Tx β Unit := do
  let record ← current
  lift (ensureOwner record.owner owner)
  if record.phase = .suspended then pure ()
  else
    ensure (record.phase = .active) .invalidTransition
    call (.removePolicyRule record.declaration)
    clearStep J stepPolicyRule
    setPhase J .suspended

/-- `resume`. -/
def resume (J : JournalFormat β) (owner : LeaseOwner) : Tx β Unit := do
  let record ← current
  lift (ensureOwner record.owner owner)
  if record.phase = .active then pure ()
  else
    ensure (record.phase = .suspended) .invalidTransition
    call (.installPolicyRule record.declaration)
    completeStep J stepPolicyRule
    setPhase J .active

/-- The durable intent of `reconfigure` and `update_policy`. -/
def rollingBackTo (owner : LeaseOwner) (declaration : PrepareDeclaration)
    (record : TransactionRecord) : TransactionRecord :=
  { record with phase := .rollingBack, recoveryCandidate := some declaration,
                recoveryCandidateOwner := some owner }

/-- The record with a replacement staged beside its declaration. -/
def stageCandidate (owner : LeaseOwner) (declaration : PrepareDeclaration)
    (record : TransactionRecord) : TransactionRecord :=
  { record with recoveryCandidate := some declaration, recoveryCandidateOwner := some owner,
                phase := .preparing, drainDeadlineMonoMs := 0 }

/-- The clean-up of a replacement that could not be prepared. -/
def unstageCandidate (J : JournalFormat β) (declaration : PrepareDeclaration) (e : NetworkError) :
    Tx β Unit := do
  ignore (call (.removeFirewall declaration))
  ignore (call (.removeRoutes declaration))
  ignore (amend J fun record =>
    { record with recoveryCandidate := none, recoveryCandidateOwner := none, phase := .active })
  fail e

/-- `prepare_replacement` once a distinct table is declared. -/
def stageReplacement (J : JournalFormat β) (owner : LeaseOwner)
    (declaration : PrepareDeclaration) : Tx β Unit := do
  amend J (stageCandidate owner declaration)
  handle
    (do
      lift (validDeclaration declaration)
      let _ ← preflight declaration
      call (.prepareLink declaration)
      call (.prepareRoutes declaration)
      call (.prepareFirewall declaration))
    (unstageCandidate J declaration)
  setPhase J .prepared

/-- `prepare_replacement`. -/
def prepareReplacement (J : JournalFormat β) (owner : LeaseOwner)
    (declaration : PrepareDeclaration) : Tx β Unit := do
  let record ← current
  lift (ensureReconfigureOwner record.owner owner)
  if record.declaration = declaration then
    replaceRecord J { record with owner }
  else
    ensure (record.declaration.tableId ≠ declaration.tableId
      ∧ record.declaration.firewall = declaration.firewall
      ∧ record.declaration.overlayRouterIpv4 = declaration.overlayRouterIpv4
      ∧ record.declaration.effectiveMtu = declaration.effectiveMtu) .invalidTransition
    match record.recoveryCandidate with
    | some candidate => ensure (candidate = declaration) .conflict
    | none => stageReplacement J owner declaration

/-- `restore_suspended_after_reconfigure`: all five calls are made, the first error is
returned. -/
def restoreSuspendedAfterReconfigure (J : JournalFormat β) (previousRecord : TransactionRecord)
    (candidate : PrepareDeclaration) : Tx β Unit := do
  let e1 ← errorOf (call (.removeFirewall candidate))
  let e2 ← errorOf (call (.removeRoutes candidate))
  let e3 ← errorOf (call (.prepareLink previousRecord.declaration))
  let e4 ← errorOf (call (.prepareRoutes previousRecord.declaration))
  let e5 ← errorOf (call (.prepareFirewall previousRecord.declaration))
  match e1 <|> e2 <|> e3 <|> e4 <|> e5 with
  | some e => fail e
  | none => replaceRecord J previousRecord

/-- `reconfigure` of a suspended transaction to another declaration. -/
def reconfigureSuspended (J : JournalFormat β) (owner : LeaseOwner)
    (declaration : PrepareDeclaration) (previousRecord : TransactionRecord) : Tx β Unit := do
  let previous := previousRecord.declaration
  ensure (previous.firewall = declaration.firewall ∧ previous.tableId = declaration.tableId
    ∧ previous.overlayRouterIpv4 = declaration.overlayRouterIpv4
    ∧ previous.effectiveMtu = declaration.effectiveMtu) .invalidTransition
  amend J (rollingBackTo owner declaration)
  let restore : NetworkError → Tx β Unit := fun e => do
    restoreSuspendedAfterReconfigure J previousRecord declaration
    fail e
  handle
    (do
      call (.removeFirewall previous)
      call (.removeRoutes previous)
      call (.prepareLink declaration)
      call (.prepareRoutes declaration)
      call (.prepareFirewall declaration)
      replaceRecord J { previousRecord with
        owner, declaration, failedPrefixes := [], drainDeadlineMonoMs := 0 })
    restore

/-- `reconfigure`. -/
def reconfigure (J : JournalFormat β) (owner : LeaseOwner) (declaration : PrepareDeclaration) :
    Tx β Unit := do
  lift (validDeclaration declaration)
  let record ← current
  lift (ensureReconfigureOwner record.owner owner)
  if record.phase = .active then prepareReplacement J owner declaration
  else
    ensure (record.phase = .suspended) .invalidTransition
    if record.declaration = declaration then replaceRecord J { record with owner }
    else reconfigureSuspended J owner declaration record

/-- `restore_policy_after_update`: routes and firewall are both restored before an error is
looked at. -/
def restorePolicyAfterUpdate (J : JournalFormat β) (previousRecord : TransactionRecord)
    (candidate : PrepareDeclaration) : Tx β Unit := do
  let previous := previousRecord.declaration
  let e1 ← errorOf (when (previous.routes ≠ candidate.routes)
    (call (.reconcileRoutes previous previousRecord.failedPrefixes)))
  let e2 ← errorOf (when (firewallPolicyChanged previous candidate = true)
    (call (.replaceFirewall candidate previous)))
  when (stepDone previousRecord.completedSteps stepPolicyRule = true)
    (call (.installPolicyRule previous))
  match e1 <|> e2 with
  | some e => fail e
  | none => replaceRecord J previousRecord

/-- The backend calls of `update_policy`. -/
def applyPolicy (previousRecord : TransactionRecord) (declaration : PrepareDeclaration)
    (retained : List Ipv4Prefix) : Tx β Unit := do
  let previous := previousRecord.declaration
  when (previous.routes ≠ declaration.routes) (call (.reconcileRoutes declaration retained))
  when (firewallPolicyChanged previous declaration = true)
    (call (.replaceFirewall previous declaration))
  when (previousRecord.phase = .active) (call (.installPolicyRule declaration))

/-- `update_policy` of a changed declaration. -/
def changePolicy (J : JournalFormat β) (owner : LeaseOwner) (declaration : PrepareDeclaration)
    (previousRecord : TransactionRecord) : Tx β Unit := do
  let retained := previousRecord.failedPrefixes.filter (inScope declaration)
  amend J (rollingBackTo owner declaration)
  handle
    (do
      applyPolicy previousRecord declaration retained
      replaceRecord J { previousRecord with
        declaration, failedPrefixes := retained, recoveryCandidate := none,
        recoveryCandidateOwner := none })
    fun e => do
      restorePolicyAfterUpdate J previousRecord declaration
      fail e

/-- `update_policy`. -/
def updatePolicy (J : JournalFormat β) (owner : LeaseOwner) (declaration : PrepareDeclaration) :
    Tx β Unit := do
  lift (validDeclaration declaration)
  let record ← current
  lift (ensureOwner record.owner owner)
  ensure ((record.phase = .active ∨ record.phase = .suspended)
    ∧ record.recoveryCandidate = none
    ∧ sameTunnelDeclaration record.declaration declaration = true) .invalidTransition
  if record.declaration = declaration then
    when (record.phase = .active) (call (.installPolicyRule declaration))
  else changePolicy J owner declaration record

/-! ## Recovery -/

/-- The record is an interrupted policy update. -/
def isPolicyUpdate (record : TransactionRecord) : Bool :=
  record.phase == .rollingBack
    && record.recoveryCandidateOwner == some record.owner
    && record.completedSteps &&& (stepLink ||| stepRoutes ||| stepFirewall)
      == (stepLink ||| stepRoutes ||| stepFirewall)
    && record.recoveryCandidate.any (sameTunnelDeclaration record.declaration)

/-- `recover_policy_update`. -/
def recoverPolicyUpdate (J : JournalFormat β) : Tx β Unit := do
  let record ← current
  let candidate ← okOr record.recoveryCandidate .invalidTransition
  when (record.declaration.routes ≠ candidate.routes)
    (call (.reconcileRoutes record.declaration record.failedPrefixes))
  when (firewallPolicyChanged record.declaration candidate = true)
    (call (.replaceFirewall candidate record.declaration))
  when (stepDone record.completedSteps stepPolicyRule = true)
    (call (.installPolicyRule record.declaration))
  replaceRecord J { record with
    recoveryCandidate := none, recoveryCandidateOwner := none,
    phase := if stepDone record.completedSteps stepPolicyRule then .active else .suspended }

/-- `recover_orphan`; the result says whether something was recovered. -/
def recoverOrphan (J : JournalFormat β) (ownerIsAlive : Bool) (nowMonoMs : UInt64) :
    Tx β Bool := do
  match (← get).record with
  | none => return false
  | some record =>
    if isPolicyUpdate record then
      recoverPolicyUpdate J
      return true
    else
      match stagedCandidate record with
      | some candidate =>
        if ownerIsAlive ∧ nowMonoMs < record.owner.leaseDeadlineMonoMs then return false
        else
          withdrawCandidate J candidate
          return true
      | none =>
        if record.phase = .draining then
          if ownerIsAlive ∧ (record.drainDeadlineMonoMs = 0
              ∨ nowMonoMs < record.drainDeadlineMonoMs) then return false
          else
            drainOld J (record.recoveryCandidateOwner.getD record.owner) nowMonoMs
            return true
        else if record.phase ≠ .rollingBack ∧ ownerIsAlive
            ∧ nowMonoMs < record.owner.leaseDeadlineMonoMs then return false
        else
          cleanupRecord J
          return true

end CandyRuntime.NetdV1
