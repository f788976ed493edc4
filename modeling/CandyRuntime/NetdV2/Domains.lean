import CandyRuntime.Lib.Ledger
import CandyRuntime.NetdV2.Process

/-!
# Many routing domains behind one socket

`MultiDomainService` of `v2/domains.rs`: every request names a domain, and the worker thread of
that domain carries it out. Before a descriptor is asked for, its process is reserved in the
table of I/O bindings; a reservation whose acquisition fails is rolled back by the worker and,
if it still waits, by the caller.

The threads take turns. One step of a thread is everything between two of its accesses to
shared data: a section under the lock of the table, one atomic operation, one channel
operation, one read of `/proc`. What a domain's own service answers is left open here, and so
is the budget of pending requests.
-/

namespace CandyRuntime.NetdV2

open Lib Lib.Proc NetdProto NetdV1

/-! ## Domains -/

/-- `DomainIdentity`: the configuration of a domain and the namespace that was opened for it. -/
structure DomainIdentity where
  domainId : InstanceId
  infraId : InstanceId
  tableId : UInt32
  netnsDevice : ℕ
  netnsInode : ℕ
deriving DecidableEq, Repr

/-- `DomainIdentity::validate_operation`. -/
def DomainIdentity.validateOperation (d : DomainIdentity) (operation : Operation) :
    Except InfrastructureError Unit :=
  let matching : Prop := match operation with
    | .infraEnsure spec => spec.infraId = d.infraId ∧ spec.netnsDevice = d.netnsDevice
        ∧ spec.netnsInode = d.netnsInode
    | .infraAcquireIoFd infraId _ _ | .infraReleaseIo infraId _ _ | .infraRetire infraId _ =>
      infraId = d.infraId
    | .forwardPrepare infraId _ owner declaration => infraId = d.infraId
        ∧ owner.domainId = d.domainId ∧ declaration.tableId = d.tableId
    | .forwardPolicyUpdate owner _ _ _ declaration =>
      owner.domainId = d.domainId ∧ declaration.tableId = d.tableId
    | .forwardCommit owner | .forwardAuthorize owner _ | .forwardCommitAuthorized owner _
    | .forwardRevoke owner | .forwardGuard owner | .forwardLeaseRenew owner
    | .forwardFailedPrefixes owner _ _ => owner.domainId = d.domainId
    | .inDomain .. => False
    | .capabilities | .infraStatus | .forwardStatus => True
  have : Decidable matching := by
    cases operation <;> simp only [matching] <;> infer_instance
  if matching then .ok ()
  else .error (.rejected "domain_identity_conflict"
    "operation must match configured domain, infrastructure, namespace and table")

/-! ## I/O bindings -/

/-- `IoBinding`. -/
structure IoBinding where
  owner : IoOwner
  token : ℕ
deriving DecidableEq, Repr

/-- The table of bindings. -/
abbrev Bindings := InstanceId → Option IoBinding

/-- `IoRollback`. -/
structure IoRollback where
  domainId : InstanceId
  token : ℕ
  previous : Option IoBinding
deriving DecidableEq, Repr

/-- `IoRollback::apply`. -/
def IoRollback.apply (r : IoRollback) (bindings : Bindings) : Bindings :=
  if (bindings r.domainId).any (fun b => decide (b.token = r.token)) then
    Function.update bindings r.domainId r.previous
  else bindings

/-- The reads of `/proc` that fail. -/
structure Reads where
  bootId : Bool
  stat : UInt32 → Bool

/-- `io_owner_alive`, all at one moment. Whatever cannot be read counts as alive; at one moment
`kill` finds every process that has a line in `/proc`. -/
def Moment.ioOwnerAlive (m : Moment) (failing : Reads) (o : IoOwner) : Bool :=
  if failing.bootId = false ∧ m.bootId ≠ o.bootId then false
  else if failing.stat o.pid then true
  else match m.processes o.pid with
    | none => false
    | some stat => !(stat.state = 'Z' || stat.state = 'X' || some stat.startTicks ≠ o.startTicks)

/-- The two owners are one caller or one process. -/
def IoOwner.Shares (o o' : IoOwner) : Prop :=
  o.instanceId = o'.instanceId
    ∨ (o.pid = o'.pid ∧ o.startTicks = o'.startTicks ∧ o.bootId = o'.bootId)

instance (o o' : IoOwner) : Decidable (o.Shares o') := by
  unfold IoOwner.Shares
  infer_instance

/-- `validate_io_binding`. Only configured domains are ever bound. -/
def validateIoBinding (domains : List DomainIdentity) (alive : IoOwner → Bool)
    (bindings : Bindings) (domainId : InstanceId) (owner : IoOwner) :
    Except InfrastructureError Unit :=
  if domains.any (fun d => (bindings d.domainId).any fun b =>
      decide (d.domainId ≠ domainId) && alive b.owner && decide (b.owner.Shares owner)) then
    .error (.rejected "domain_io_owner_conflict"
      "each domain requires its own TUNIO process and caller instance")
  else if (bindings domainId).any (fun b => alive b.owner) then
    .error (.rejected "io_owner_alive"
      "domain already has a live or pending I/O owner; reconcile status before retrying")
  else .ok ()

/-! ## Threads -/

abbrev ProcessResult := Except InfrastructureError (Body × Bool)

/-- `DomainRequest`; the reply goes to the caller with that number. -/
structure DomainRequest where
  caller : ℕ
  request : Request
  rollback : Option IoRollback

/-- Where a caller is in `process_admitted`. -/
inductive Caller where
  | asked (identity : DomainIdentity) (request : Request)
  | booted (identity : DomainIdentity) (request : Request) (ioEpoch : ℕ) (bootId : String)
  | identified (identity : DomainIdentity) (request : Request) (owner : IoOwner)
  | checked (identity : DomainIdentity) (request : Request) (owner : Option IoOwner)
  | permitted (identity : DomainIdentity) (request : Request) (owner : Option IoOwner)
  | admitted (identity : DomainIdentity) (request : Request) (owner : IoOwner)
  | numbered (identity : DomainIdentity) (request : Request) (owner : IoOwner) (token : ℕ)
  | reserved (identity : DomainIdentity) (request : Request) (rollback : Option IoRollback)
  | waiting (rollback : Option IoRollback)
  | failing (rollback : IoRollback) (error : InfrastructureError)
  | returned (result : ProcessResult)

/-- Where the worker of a domain is in `run_domain`. -/
inductive Worker where
  | idle
  | processing (request : DomainRequest)
  | rollingBack (request : DomainRequest) (error : InfrastructureError)
  | releasing (request : DomainRequest) (result : ProcessResult)
  | replying (request : DomainRequest) (result : ProcessResult)

/-- `MultiDomainService` and its threads. The reservations, newest first, and the tokens of the
acquisitions that failed and were rolled back are kept for the record; no thread reads them. -/
structure MultiDomainService where
  allowedUid : ℕ
  allowedGid : ℕ
  domains : List DomainIdentity
  bindings : Bindings
  nextBindingToken : ℕ
  inflight : InstanceId → Bool
  queue : InstanceId → Option DomainRequest
  worker : InstanceId → Worker
  reply : ℕ → Option ProcessResult
  caller : ℕ → Option Caller
  clock : ℕ
  history : List (Reservation InstanceId IoBinding)
  failed : List ℕ

namespace MultiDomainService

variable (s : MultiDomainService)

def setCaller (c : ℕ) (state : Caller) : MultiDomainService :=
  { s with caller := Function.update s.caller c (some state) }

def setWorker (d : InstanceId) (state : Worker) : MultiDomainService :=
  { s with worker := Function.update s.worker d state }

def setInflight (d : InstanceId) (flag : Bool) : MultiDomainService :=
  { s with inflight := Function.update s.inflight d flag }

def setQueue (d : InstanceId) (request : Option DomainRequest) : MultiDomainService :=
  { s with queue := Function.update s.queue d request }

def setReply (c : ℕ) (result : ProcessResult) : MultiDomainService :=
  { s with reply := Function.update s.reply c (some result) }

/-- A rollback takes place. -/
def rollBack (r : IoRollback) : MultiDomainService :=
  { s with bindings := r.apply s.bindings, failed := r.token :: s.failed }

/-- A reservation is made. -/
def reserve (d : InstanceId) (binding : IoBinding) : MultiDomainService :=
  { s with
    bindings := Function.update s.bindings d (some binding)
    history := { key := d, entry := binding, previous := s.bindings d } :: s.history }

end MultiDomainService

/-- What one step of a thread meets. -/
structure Circumstance where
  failing : Reads
  netns : ℕ × ℕ
  budget : Except InfrastructureError Unit
  timeout : Bool
  result : ProcessResult

def busy : InfrastructureError :=
  .rejected "domain_worker_busy" "domain worker queue is occupied or unavailable; retry"

def operationPending : InfrastructureError :=
  .rejected "domain_operation_pending"
    "domain operation has not completed; query scoped status before retrying"

/-- The result keeps the reservation, although it is an error. -/
def InfrastructureError.isPending : InfrastructureError → Bool
  | .rejected code _ => code == "domain_operation_pending"
  | _ => false

/-- The checks of `process_admitted` in front of the first read; `inr` is the answer when there
is nothing left to do. -/
def MultiDomainService.accept (s : MultiDomainService) (request : Request)
    (peer : PeerCredentials) : Except InfrastructureError ((DomainIdentity × Operation) ⊕ Body) := do
  if request.validate.isOk = false then
    .error (.rejected "invalid_request" "invalid v2 request")
  if peer.uid ≠ s.allowedUid ∨ peer.gid ≠ s.allowedGid ∨ peer.pid ≠ request.callerPid then
    .error (.rejected "unauthorized_peer" "socket credentials do not match request")
  match request.operation with
  | .capabilities => return .inr (.capabilities 2 true true)
  | .inDomain domainId infraId operation =>
    match s.domains.find? (fun d => d.domainId == domainId) with
    | none => .error (.rejected "domain_unknown" "domain is not configured")
    | some identity =>
      if infraId ≠ identity.infraId then
        .error (.rejected "domain_identity_conflict"
          "scoped infrastructure does not match configured domain")
      identity.validateOperation operation
      return .inl (identity, operation)
  | _ => .error (.rejected "domain_scope_required"
      "multi-domain requests must specify domain and infrastructure identity")

/-- The next step of a caller at the moment `m`. -/
def MultiDomainService.callerStep (s : MultiDomainService) (m : Moment) (k : Circumstance)
    (c : ℕ) : Caller → MultiDomainService
  | .asked identity request =>
    match request.operation with
    | .infraAcquireIoFd _ _ ioEpoch =>
      if k.failing.bootId then s.setCaller c (.returned (.error .journal))
      else s.setCaller c (.booted identity request ioEpoch m.bootId)
    | _ => s.setCaller c (.checked identity request none)
  | .booted identity request ioEpoch bootId =>
    match if k.failing.stat request.callerPid then none else m.processes request.callerPid with
    | none => s.setCaller c (.returned (.error .journal))
    | some stat => s.setCaller c (.identified identity request
        { instanceId := request.callerInstanceId, pid := request.callerPid, ioEpoch, bootId,
          startTicks := some stat.startTicks })
  | .identified identity request owner =>
    match validateIoBinding s.domains (m.ioOwnerAlive k.failing) s.bindings identity.domainId
        owner with
    | .error e => s.setCaller c (.returned (.error e))
    | .ok _ => s.setCaller c (.checked identity request (some owner))
  | .checked identity request owner =>
    if owner.isSome ∧ k.netns ≠ (identity.netnsDevice, identity.netnsInode) then
      s.setCaller c (.returned (.error (.rejected "domain_io_namespace_conflict"
        "TUNIO process must execute in the configured routing namespace")))
    else if s.inflight identity.domainId then
      s.setCaller c (.returned (.error (.rejected "domain_worker_busy"
        "domain already has an active or pending operation; retry")))
    else (s.setInflight identity.domainId true).setCaller c (.permitted identity request owner)
  | .permitted identity request owner =>
    match k.budget, owner with
    | .error e, _ => (s.setInflight identity.domainId false).setCaller c (.returned (.error e))
    | .ok _, none => s.setCaller c (.reserved identity request none)
    | .ok _, some owner => s.setCaller c (.admitted identity request owner)
  | .admitted identity request owner =>
    if s.nextBindingToken + 1 < 2 ^ 64 then
      { s with nextBindingToken := s.nextBindingToken + 1 }.setCaller c
        (.numbered identity request owner s.nextBindingToken)
    else (s.setInflight identity.domainId false).setCaller c (.returned (.error
      (.rejected "domain_io_binding_unavailable" "reservation token exhausted")))
  | .numbered identity request owner token =>
    match validateIoBinding s.domains (m.ioOwnerAlive k.failing) s.bindings identity.domainId
        owner with
    | .error e => (s.setInflight identity.domainId false).setCaller c (.returned (.error e))
    | .ok _ => (s.reserve identity.domainId { owner, token }).setCaller c
        (.reserved identity request (some
          { domainId := identity.domainId, token, previous := s.bindings identity.domainId }))
  | .reserved identity request rollback =>
    match s.queue identity.domainId, rollback with
    | none, _ => (s.setQueue identity.domainId (some { caller := c, request, rollback })
        ).setCaller c (.waiting rollback)
    | some _, none =>
      (s.setInflight identity.domainId false).setCaller c (.returned (.error busy))
    | some _, some r => (s.setInflight identity.domainId false).setCaller c (.failing r busy)
  | .waiting rollback =>
    if k.timeout then s.setCaller c (.returned (.error operationPending))
    else match s.reply c with
      | none => s
      | some (.ok reply) => s.setCaller c (.returned (.ok reply))
      | some (.error e) =>
        match rollback with
        | none => s.setCaller c (.returned (.error e))
        | some r =>
          if e.isPending then s.setCaller c (.returned (.error e))
          else s.setCaller c (.failing r e)
  | .failing r e => (s.rollBack r).setCaller c (.returned (.error e))
  | .returned _ => s

/-- The next step of the worker of a domain. -/
def MultiDomainService.workerStep (s : MultiDomainService) (k : Circumstance) (d : InstanceId) :
    MultiDomainService :=
  match s.worker d with
  | .idle =>
    match s.queue d with
    | none => s
    | some request => (s.setQueue d none).setWorker d (.processing request)
  | .processing request =>
    match k.result with
    | .ok reply => s.setWorker d (.releasing request (.ok reply))
    | .error e => s.setWorker d (.rollingBack request e)
  | .rollingBack request e =>
    match request.rollback with
    | none => s.setWorker d (.releasing request (.error e))
    | some r => (s.rollBack r).setWorker d (.releasing request (.error e))
  | .releasing request result =>
    (s.setInflight d false).setWorker d (.replying request result)
  | .replying request result => (s.setReply request.caller result).setWorker d .idle

/-- One step of one of the threads. -/
inductive Turn where
  | arrive (c : ℕ) (request : Request) (peer : PeerCredentials)
  | caller (c : ℕ) (k : Circumstance)
  | worker (d : InstanceId) (k : Circumstance)

/-- The service after a step; time has passed. A caller's number is used once. -/
def MultiDomainService.step (E : Surroundings) (s : MultiDomainService) (turn : Turn) :
    MultiDomainService :=
  let next := match turn with
    | .arrive c request peer =>
      if s.caller c ≠ none then s
      else match s.accept request peer with
        | .error e => s.setCaller c (.returned (.error e))
        | .ok (.inr body) => s.setCaller c (.returned (.ok (body, false)))
        | .ok (.inl (identity, operation)) =>
          s.setCaller c (.asked identity { request with operation })
    | .caller c k =>
      match s.caller c with
      | none => s
      | some state => s.callerStep (E.moment s.clock) k c state
    | .worker d k => s.workerStep k d
  { next with clock := s.clock + 1 }

/-! ## Start -/

/-- The loop of `MultiDomainService::new` over the journals: an I/O owner that is still alive
keeps its domain. -/
def bindJournals (E : Surroundings) (domains : List DomainIdentity) :
    List (DomainIdentity × Option IoOwner × Reads) → ℕ → Bindings →
      Except InfrastructureError Bindings
  | [], _, bindings => .ok bindings
  | (identity, owner, failing) :: rest, n, bindings =>
    let alive := (E.moment n).ioOwnerAlive failing
    match owner.filter alive with
    | none => bindJournals E domains rest (n + 1) bindings
    | some o => do
      validateIoBinding domains alive bindings identity.domainId o
      bindJournals E domains rest (n + 1)
        (Function.update bindings identity.domainId (some { owner := o, token := 0 }))

/-- `MultiDomainService::new`, once the journals have been read, at the moment `n`. -/
def MultiDomainService.new (E : Surroundings) (uid gid n : ℕ)
    (journals : List (DomainIdentity × Option IoOwner × Reads)) :
    Except InfrastructureError MultiDomainService := do
  let domains := journals.map (·.1)
  if ¬ ((∀ d ∈ domains, d.domainId ≠ InstanceId.zero ∧ d.infraId ≠ InstanceId.zero
        ∧ candyTableMin ≤ d.tableId.toNat ∧ d.tableId.toNat ≤ candyTableMax)
      ∧ (domains.map (·.domainId)).Nodup ∧ (domains.map (·.infraId)).Nodup) then
    .error (.rejected "domain_configuration_invalid"
      "domain IDs, infra IDs, paths and tables must be explicit and unique")
  if ¬ (domains.map fun d => (d.netnsDevice, d.netnsInode)).Nodup then
    .error (.rejected "domain_namespace_conflict"
      "each domain requires a distinct pinned root-owned namespace, excluding the host namespace")
  let bindings ← bindJournals E domains journals n fun _ => none
  return {
    allowedUid := uid
    allowedGid := gid
    domains
    bindings
    nextBindingToken := 1
    inflight := fun _ => false
    queue := fun _ => none
    worker := fun _ => .idle
    reply := fun _ => none
    caller := fun _ => none
    clock := n + journals.length
    history := []
    failed := [] }

end CandyRuntime.NetdV2
