import CandyRuntime.Lib.Base64
import CandyRuntime.Lib.Proc
import CandyRuntime.NetdV2.Protocol

/-!
# The grant store of the Cloud synchronizer

`grant.rs`: one file per grant subject holds the issuance that is pending, the grant that is
active and whether the authorization was revoked. `refreshWithClock` renews the grant: it makes
the next issuance durable, asks Cloud with its request id, has Core verify the answer and caches
it. The digest and the decoder of base64 are parameters. The size of the file and its JSON form are
not modelled.
-/

namespace CandyRuntime.CloudSync

open Lib Lib.Proc NetdProto NetdV2

abbrev Uuid := InstanceId

/-! ## Errors -/

/-- `GrantFailure`. -/
structure GrantFailure where
  stage : String
  code : String
deriving DecidableEq, Repr

/-- An error: its outermost `GrantFailure`, or its text if it has none. -/
inductive GrantError where
  | classified (f : GrantFailure)
  | other (text : String)
deriving DecidableEq, Repr

/-- `failure`. -/
def failure (stage code : String) : GrantError := .classified ⟨stage, code⟩

/-- The first check that does not hold. -/
def firstFailure : List (Bool × String × String) → Except GrantError Unit
  | [] => .ok ()
  | (valid, stage, code) :: rest =>
    if valid then firstFailure rest else .error (failure stage code)

/-! ## Subjects -/

/-- `GrantSubject`. -/
structure GrantSubject where
  nodePoolId : Uuid
  tenantId : Uuid
  deviceId : Uuid
  deviceKeyId : Uuid
  projectionId : Uuid
  projectionGeneration : UInt64
  projectionContentHash : String
deriving DecidableEq, Repr

/-- The bytes of an ASCII text. -/
def asciiBytes (text : String) : Bytes := text.toList.map fun c => UInt8.ofNat c.toNat

namespace GrantSubject

/-- What `validate` asks for. -/
def isValid (s : GrantSubject) : Bool :=
  s.nodePoolId ≠ InstanceId.zero && s.tenantId ≠ InstanceId.zero && s.deviceId ≠ InstanceId.zero
    && s.deviceKeyId ≠ InstanceId.zero && s.projectionId ≠ InstanceId.zero
    && s.projectionGeneration ≠ 0 && isHex s.projectionContentHash 64

/-- `GrantSubject::validate`. -/
def validate (s : GrantSubject) : Except GrantError Unit :=
  if s.isValid then .ok ()
  else .error (.other "Grant subject contains an invalid signed authorization binding")

/-- The bytes `domain_hash` digests. -/
def domainBytes (domain : String) (s : GrantSubject) (sequence : Option ℕ) : Bytes :=
  asciiBytes domain ++ [0] ++ s.nodePoolId.toList ++ s.tenantId.toList ++ s.deviceId.toList
    ++ s.deviceKeyId.toList ++ s.projectionId.toList ++ toBE 8 s.projectionGeneration.toNat
    ++ asciiBytes s.projectionContentHash ++ (sequence.map (toBE 8)).getD []

variable (sha256 : Bytes → String)

/-- `storage_id`. -/
def storageId (s : GrantSubject) : Except GrantError String := do
  s.validate
  return sha256 (s.domainBytes "candy/sdwan-grant-state-v2" none)

/-- `request_id`. -/
def requestId (s : GrantSubject) (sequence : ℕ) : Except GrantError String := do
  s.validate
  if sequence = 0 then .error (.other "Grant renewal sequence must be non-zero")
  else return "sdwan-v2-" ++ sha256 (s.domainBytes "candy/sdwan-grant-request-v2" (some sequence))

end GrantSubject

/-! ## Requests and responses -/

/-- `GrantIssueRequest`. -/
structure GrantIssueRequest where
  requestId : String
  nodePoolId : Uuid
  serviceClass : String
  servicePermission : String
  policyId : Uuid
  generation : UInt64
  contentHash : String
deriving DecidableEq, Repr

/-- `GrantIssueRequest::new`. -/
def GrantIssueRequest.new (s : GrantSubject) (requestId : String) : GrantIssueRequest where
  requestId
  nodePoolId := s.nodePoolId
  serviceClass := "private"
  servicePermission := "private.tun.connect"
  policyId := s.projectionId
  generation := s.projectionGeneration
  contentHash := s.projectionContentHash

/-- `GrantIssueResponse`. -/
structure GrantIssueResponse where
  grantId : Uuid
  expiresAtUnix : ℕ
  refreshAfterUnix : ℕ
  replayed : Bool
  accessGrant : String
deriving DecidableEq, Repr

/-- `VerifiedGrantReport`. -/
structure VerifiedGrantReport where
  schemaVersion : ℕ
  ok : Bool
  grantId : Uuid
  tenantId : Uuid
  deviceId : Uuid
  deviceKeyId : Uuid
  nodePoolId : Uuid
  servicePermission : String
  routePolicyId : Uuid
  routePolicyGeneration : UInt64
  routePolicyContentHash : String
  notBeforeUnix : ℕ
  refreshAfterUnix : ℕ
  expiresAtUnix : ℕ
deriving DecidableEq, Repr

-- `URL_SAFE_NO_PAD`
variable [Base64]

/-- `valid_access_grant`. -/
def validAccessGrant (value : String) : Bool :=
  value.length ≠ 0 && value.length ≤ 10924
    && (Base64.decode value).any fun bytes => bytes.length ≠ 0 && bytes.length ≤ 8 * 1024

/-- `validate_request_id`. -/
def validateRequestId (value : String) : Except GrantError Unit :=
  if value.length ≠ 0 && value.length ≤ 120
      && value.toList.all fun c => c.isAlphanum || c = '-' || c = '_' || c = '.' then .ok ()
  else .error (.other "Grant request id is invalid")

/-- `validate_cloud_grant_response`. -/
def validateCloudGrantResponse (response : GrantIssueResponse) : Except GrantError Unit :=
  if response.grantId ≠ InstanceId.zero && validAccessGrant response.accessGrant then .ok ()
  else .error (.other "Cloud returned a malformed Grant response")

/-- `validate_verified_grant_binding`. -/
def validateVerifiedGrantBinding (s : GrantSubject) (report : VerifiedGrantReport) :
    Except GrantError Unit :=
  firstFailure [
    (report.schemaVersion = 1, "grant_core_report", "grant_report_schema_unsupported"),
    (report.ok, "grant_core_report", "grant_report_rejected"),
    (report.grantId ≠ InstanceId.zero, "grant_core_report", "grant_report_id_invalid"),
    (report.tenantId = s.tenantId, "grant_candidate_binding", "grant_tenant_mismatch"),
    (report.deviceId = s.deviceId, "grant_candidate_binding", "grant_device_mismatch"),
    (report.deviceKeyId = s.deviceKeyId, "grant_candidate_binding", "grant_device_key_mismatch"),
    (report.nodePoolId = s.nodePoolId, "grant_candidate_binding", "grant_node_pool_mismatch"),
    (report.servicePermission = "private.tun.connect", "grant_candidate_binding",
      "grant_service_permission_mismatch"),
    (report.routePolicyId = s.projectionId, "grant_candidate_binding",
      "grant_route_policy_id_mismatch"),
    (report.routePolicyGeneration = s.projectionGeneration, "grant_candidate_binding",
      "grant_route_policy_generation_mismatch"),
    (report.routePolicyContentHash = s.projectionContentHash, "grant_candidate_binding",
      "grant_route_policy_hash_mismatch"),
    (report.notBeforeUnix ≠ 0, "grant_validity", "grant_not_before_invalid"),
    (report.notBeforeUnix ≤ report.refreshAfterUnix, "grant_validity",
      "grant_refresh_before_validity"),
    (report.refreshAfterUnix < report.expiresAtUnix, "grant_validity",
      "grant_refresh_after_expiry")]

/-- `validate_verified_grant`. -/
def validateVerifiedGrant (s : GrantSubject) (response : GrantIssueResponse)
    (report : VerifiedGrantReport) (now : ℕ) : Except GrantError Unit := do
  validateVerifiedGrantBinding s report
  firstFailure [
    (report.grantId = response.grantId, "grant_response_binding", "grant_response_id_mismatch"),
    (report.expiresAtUnix = response.expiresAtUnix, "grant_response_binding",
      "grant_response_expiry_mismatch"),
    (report.refreshAfterUnix = response.refreshAfterUnix, "grant_response_binding",
      "grant_response_refresh_mismatch"),
    (report.notBeforeUnix ≤ now, "grant_validity", "grant_not_yet_valid"),
    (now < report.expiresAtUnix, "grant_validity", "grant_expired"),
    (report.notBeforeUnix ≤ report.refreshAfterUnix
      && report.refreshAfterUnix < report.expiresAtUnix, "grant_validity",
      "grant_validity_window_invalid")]

/-! ## Cached grants -/

/-- `CachedGrant`. -/
structure CachedGrant where
  sequence : ℕ
  requestId : String
  grantId : Uuid
  fetchedAtUnix : ℕ
  expiresAtUnix : ℕ
  accessGrant : String
  verification : VerifiedGrantReport
deriving DecidableEq, Repr

namespace CachedGrant

variable (sha256 : Bytes → String)

/-- `CachedGrant::from_response`. -/
def fromResponse (s : GrantSubject) (sequence : ℕ) (requestId : String)
    (response : GrantIssueResponse) (verification : VerifiedGrantReport) (now : ℕ) :
    Except GrantError CachedGrant := do
  validateRequestId requestId
  let expected ← s.requestId sha256 sequence
  if requestId ≠ expected then
    .error (.other "Grant response request id is not bound to its renewal transaction")
  else do
    validateCloudGrantResponse response
    validateVerifiedGrant s response verification now
    return {
      sequence
      requestId
      grantId := response.grantId
      fetchedAtUnix := now
      expiresAtUnix := verification.expiresAtUnix
      accessGrant := response.accessGrant
      verification }

/-- `CachedGrant::validate_for`. -/
def validateFor (g : CachedGrant) (s : GrantSubject) : Except GrantError Unit := do
  let mismatch := GrantError.other "cached Grant does not match its renewal transaction"
  if g.sequence = 0 then .error mismatch
  else do
    let expected ← s.requestId sha256 g.sequence
    if g.requestId ≠ expected || g.grantId = InstanceId.zero || g.fetchedAtUnix = 0
        || g.expiresAtUnix ≤ g.fetchedAtUnix || !validAccessGrant g.accessGrant then
      .error mismatch
    else do
      validateVerifiedGrantBinding s g.verification
      if g.verification.grantId ≠ g.grantId || g.verification.expiresAtUnix ≠ g.expiresAtUnix then
        .error (.other "cached Grant metadata does not match its Core verification")
      else .ok ()

/-- `is_usable_at`. -/
def isUsableAt (g : CachedGrant) (now : ℕ) : Bool :=
  g.verification.notBeforeUnix ≤ now && now < g.expiresAtUnix && validAccessGrant g.accessGrant

/-- `should_refresh_at`. -/
def shouldRefreshAt (g : CachedGrant) (now : ℕ) : Bool :=
  g.isUsableAt now && g.verification.refreshAfterUnix ≤ now

end CachedGrant

/-! ## The state of a subject -/

/-- `PendingIssuance`. -/
structure PendingIssuance where
  sequence : ℕ
  requestId : String
  createdAtUnix : ℕ
deriving DecidableEq, Repr

/-- `GrantState`. -/
structure GrantState where
  schemaVersion : ℕ
  nodePoolId : Uuid
  tenantId : Uuid
  deviceId : Uuid
  deviceKeyId : Uuid
  projectionId : Uuid
  projectionGeneration : UInt64
  projectionContentHash : String
  completedSequence : ℕ
  pending : Option PendingIssuance
  active : Option CachedGrant
  revokedAtUnix : Option ℕ
deriving DecidableEq, Repr

/-- `checked_add(1)` of a `u64`. -/
def checkedSucc (n : ℕ) : Option ℕ := if n + 1 < 2 ^ 64 then some (n + 1) else none

/-- The value of an option, or an error with this text. -/
def context {α : Type} (o : Option α) (text : String) : Except GrantError α :=
  match o with
  | some a => .ok a
  | none => .error (.other text)

namespace GrantState

/-- `GrantState::new`. -/
def new (s : GrantSubject) : GrantState where
  schemaVersion := 2
  nodePoolId := s.nodePoolId
  tenantId := s.tenantId
  deviceId := s.deviceId
  deviceKeyId := s.deviceKeyId
  projectionId := s.projectionId
  projectionGeneration := s.projectionGeneration
  projectionContentHash := s.projectionContentHash
  completedSequence := 0
  pending := none
  active := none
  revokedAtUnix := none

variable (sha256 : Bytes → String)

/-- The state is one of this subject. -/
def belongsTo (st : GrantState) (s : GrantSubject) : Bool :=
  st.schemaVersion = 2 && st.nodePoolId = s.nodePoolId && st.tenantId = s.tenantId
    && st.deviceId = s.deviceId && st.deviceKeyId = s.deviceKeyId
    && st.projectionId = s.projectionId && st.projectionGeneration = s.projectionGeneration
    && st.projectionContentHash = s.projectionContentHash

/-- The checks of `validate_for` on the active grant. -/
def checkActive (st : GrantState) (s : GrantSubject) : Except GrantError Unit :=
  match st.active with
  | some active => do
    active.validateFor sha256 s
    if active.sequence ≠ st.completedSequence then
      .error (.other "active Grant sequence does not match committed renewal state")
    else .ok ()
  | none =>
    if st.completedSequence ≠ 0 then
      .error (.other "Grant state has a completed sequence without an active Grant")
    else .ok ()

/-- The checks of `validate_for` on the pending issuance. -/
def checkPending (st : GrantState) (s : GrantSubject) : Except GrantError Unit :=
  match st.pending with
  | none => .ok ()
  | some pending => do
    validateRequestId pending.requestId
    let next ← context (checkedSucc st.completedSequence) "Grant sequence overflow"
    let inconsistent := GrantError.other "pending Grant transaction is inconsistent"
    if pending.sequence ≠ next then .error inconsistent
    else do
      let expected ← s.requestId sha256 pending.sequence
      if pending.requestId ≠ expected || pending.createdAtUnix = 0 then .error inconsistent
      else .ok ()

/-- `GrantState::validate_for`. -/
def validateFor (st : GrantState) (s : GrantSubject) : Except GrantError Unit := do
  s.validate
  if !st.belongsTo s then .error (.other "Grant state does not match its signed candidate")
  else do
    st.checkActive sha256 s
    st.checkPending sha256 s
    if st.revokedAtUnix.isSome && st.active.isSome then
      .error (.other "revoked Grant state still contains an active credential")
    else .ok ()

/-- `usable`. -/
def usable (st : GrantState) (now : ℕ) : Option CachedGrant :=
  if st.revokedAtUnix.isSome then none else st.active.filter (·.isUsableAt now)

end GrantState

/-! ## The store -/

/-- `RefreshOutcome`. -/
inductive RefreshOutcome where
  | current (grant : CachedGrant)
  | refreshed (grant : CachedGrant)
  | retainedAfterTransientFailure (grant : CachedGrant) (error : GrantError)
deriving DecidableEq, Repr

/-- `RefreshOutcome::grant`. -/
def RefreshOutcome.grant : RefreshOutcome → CachedGrant
  | .current grant | .refreshed grant => grant
  | .retainedAfterTransientFailure grant _ => grant

/-- What a fetch ends with: a response, a `FetchFailure`, or the process is killed meanwhile. -/
inductive Fetched where
  | response (response : GrantIssueResponse)
  | transient (error : GrantError)
  | denied (error : GrantError)
  | policyResyncRequired
  | killed
deriving DecidableEq, Repr

/-- What is seen of a run: a state that has reached the disk, a request that leaves for Cloud,
and how a call of `refresh_with_clock` ends. -/
inductive GrantEvent where
  | stored (subject : GrantSubject) (state : GrantState)
  | asked (subject : GrantSubject) (requestId : String)
  | ended (subject : GrantSubject) (result : Except GrantError RefreshOutcome)

/-- The files of the store by their names, and everything seen so far, the latest first. -/
structure GrantStore where
  files : String → Option GrantState
  trace : List GrantEvent

/-- The circumstances of one call: its arguments, whether the file system works, and how the
two writes end. -/
structure RefreshCall where
  subject : GrantSubject
  now : ℕ
  fetch : GrantIssueRequest → Fetched
  verify : String → Except GrantError VerifiedGrantReport
  validationNow : Option ℕ
  reads : Bool
  stages : Bool
  cleansUp : Bool
  firstWrite : Write
  lastWrite : Write

/-- A step of the store. -/
abbrev Grt := Proc GrantStore GrantError

/-- `Context::context` with a classified failure. -/
def withFailure {α : Type} (stage code : String) (m : Grt α) : Grt α :=
  mapError (fun _ => failure stage code) m

variable (sha256 : Bytes → String)

/-- `load_state`. -/
def loadState (call : RefreshCall) : Grt (Option GrantState) := do
  let path ← lift (call.subject.storageId sha256)
  ensure (call.reads = true) (.other "read Grant state")
  match (← get).files path with
  | none => return none
  | some state =>
    lift (state.validateFor sha256 call.subject)
    return some state

/-- A state has replaced the file. -/
def GrantStore.stores (w : GrantStore) (path : String) (subject : GrantSubject)
    (state : GrantState) : GrantStore where
  files := Function.update w.files path (some state)
  trace := .stored subject state :: w.trace

/-- `store_state`. -/
def storeState (subject : GrantSubject) (state : GrantState) (write : Write) : Grt Unit := do
  lift (state.validateFor sha256 subject)
  let path ← lift (subject.storageId sha256)
  durable write (.other "publish Grant state") (·.stores path subject state)

/-- The next issuance, durable before anything is asked. -/
def ensurePending (call : RefreshCall) (state : GrantState) : Grt GrantState :=
  if state.pending.isNone then do
    let sequence ← lift (context (checkedSucc state.completedSequence)
      "Grant renewal sequence overflow")
    let requestId ← lift (call.subject.requestId sha256 sequence)
    let state := { state with
      pending := some ⟨sequence, requestId, max call.now 1⟩ }
    withFailure "grant_pending_persist" "grant_pending_persist_failed"
      (storeState sha256 call.subject state call.firstWrite)
    return state
  else return state

/-- A request leaves for Cloud. -/
def fetchGrant (call : RefreshCall) (requestId : String) : Grt Fetched := fun w =>
  let asked := { w with trace := .asked call.subject requestId :: w.trace }
  match call.fetch (.new call.subject requestId) with
  | .killed => (.crash, asked)
  | fetched => (.ok fetched, asked)

/-- The branch of `refresh_with_clock` for a response. -/
def acceptResponse (call : RefreshCall) (state : GrantState) (pending : PendingIssuance)
    (response : GrantIssueResponse) : Grt RefreshOutcome := do
  withFailure "grant_response_validation" "grant_response_invalid"
    (lift (validateCloudGrantResponse response))
  withFailure "grant_stage" "grant_staging_failed"
    (ensure (call.stages = true) (.other "create staged candidate Grant"))
  let verification ← withFailure "grant_core_verification" "grant_core_verification_failed"
    (lift (call.verify response.accessGrant))
  withFailure "grant_stage_cleanup" "grant_staging_cleanup_failed"
    (ensure (call.cleansUp = true) (.other "remove staged candidate Grant"))
  let now ← okOr call.validationNow (.other "read time after Grant verification")
  let grant ← lift (CachedGrant.fromResponse sha256 call.subject pending.sequence
    pending.requestId response verification now)
  withFailure "grant_active_persist" "grant_active_persist_failed"
    (storeState sha256 call.subject
      { state with
        completedSequence := pending.sequence
        pending := none
        revokedAtUnix := none
        active := some grant } call.lastWrite)
  return .refreshed grant

/-- An error that is not classified yet gets this class. -/
def GrantError.orFailure (stage code : String) : GrantError → GrantError
  | .classified f => .classified f
  | .other _ => failure stage code

/-- The `match` of `refresh_with_clock` on the answer of Cloud. -/
def settleFetch (call : RefreshCall) (state : GrantState) (pending : PendingIssuance) :
    Fetched → Grt RefreshOutcome
  | .response response => acceptResponse sha256 call state pending response
  | .transient error => do
    let grant ← okOr (state.usable call.now)
      (error.orFailure "grant_fetch" "grant_fetch_transient_failed")
    return .retainedAfterTransientFailure grant error
  | .policyResyncRequired =>
    fail (failure "grant_policy_binding" "route_policy_resync_required")
  | .denied error => do
    withFailure "grant_revocation_persist" "grant_revocation_persist_failed"
      (storeState sha256 call.subject
        { state with
          active := none
          completedSequence := 0
          pending := none
          revokedAtUnix := some (max call.now 1) } call.lastWrite)
    fail (error.orFailure "grant_http_response" "grant_authorization_denied")
  | .killed => fail (.other "killed")

/-- The rest of `refresh_with_clock` when the cached grant does not do. -/
def renewGrant (call : RefreshCall) (state : GrantState) : Grt RefreshOutcome := do
  let state ← ensurePending sha256 call state
  let pending ← okOr state.pending (.other "missing pending Grant transaction")
  let fetched ← fetchGrant call pending.requestId
  settleFetch sha256 call state pending fetched

/-- `refresh_with_clock`. -/
def refreshWithClock (call : RefreshCall) : Grt RefreshOutcome := do
  withFailure "grant_subject_validation" "grant_subject_invalid" (lift call.subject.validate)
  let loaded ← withFailure "grant_state_load" "grant_state_load_failed" (loadState sha256 call)
  let state := loaded.getD (.new call.subject)
  ensure (state.revokedAtUnix = none)
    (failure "grant_cached_authorization" "grant_authorization_revoked")
  match (state.usable call.now).filter (!·.shouldRefreshAt call.now) with
  | some grant => return .current grant
  | none => renewGrant sha256 call state

/-- One call; a process that is killed in it does not report anything. -/
def GrantStore.refresh (w : GrantStore) (call : RefreshCall) : GrantStore :=
  match refreshWithClock sha256 call w with
  | (.ok outcome, w') => { w' with trace := .ended call.subject (.ok outcome) :: w'.trace }
  | (.err e, w') => { w' with trace := .ended call.subject (.error e) :: w'.trace }
  | (.crash, w') => w'

/-- The store before its first call. -/
def GrantStore.empty : GrantStore where
  files _ := none
  trace := []

/-- A sequence of calls. -/
def GrantStore.refreshes (calls : List RefreshCall) (w : GrantStore) : GrantStore :=
  calls.foldl (GrantStore.refresh sha256) w

end CandyRuntime.CloudSync
