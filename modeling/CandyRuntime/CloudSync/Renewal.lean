import CandyRuntime.CloudSync.GrantTheorems

/-!
# Renewal against an idempotent Cloud

Cloud remembers the response it first produced for a request id and produces it again. An
attempt of the synchronizer is one call of `refresh_with_clock`: its request or the reply can be
lost, the process can be killed, Cloud can deny. The clock only advances.
-/

namespace CandyRuntime.CloudSync

open Lib Lib.Proc

variable [Base64]

/-- How the fetch of an attempt goes. -/
inductive Way where
  | lost
  | replyLost
  | killed (reached : Bool)
  | answered
  | denied
  | resync
deriving DecidableEq, Repr

/-- The request has made Cloud issue a grant. -/
def Way.reaches : Way → Bool
  | .replyLost | .killed true | .answered => true
  | _ => false

/-- One attempt: the clock before it and after its fetch, what Cloud would issue for a fresh
request id, how the fetch goes, and whether the file system works. -/
structure Attempt where
  now : ℕ
  validationNow : ℕ
  response : GrantIssueResponse
  way : Way
  reads : Bool
  stages : Bool
  cleansUp : Bool
  clockWorks : Bool
  firstWrite : Write
  lastWrite : Write

/-- The store, the responses Cloud has produced, and the clock. -/
structure Renewal where
  store : GrantStore
  cloud : String → Option GrantIssueResponse
  clock : ℕ

variable (sha256 : Bytes → String) (s : GrantSubject)
  (verify : String → Except GrantError VerifiedGrantReport)

/-- What the synchronizer gets for its request. -/
def Attempt.fetch (a : Attempt) (cloud : String → Option GrantIssueResponse)
    (request : GrantIssueRequest) : Fetched :=
  match a.way with
  | .lost | .replyLost => .transient (failure "grant_http_request" "grant_transport_failed")
  | .killed _ => .killed
  | .answered => .response ((cloud request.requestId).getD a.response)
  | .denied => .denied (failure "grant_http_response" "grant_http_request_rejected")
  | .resync => .policyResyncRequired

def Attempt.call (a : Attempt) (cloud : String → Option GrantIssueResponse) : RefreshCall where
  subject := s
  now := a.now
  fetch := a.fetch cloud
  verify
  validationNow := if a.clockWorks then some a.validationNow else none
  reads := a.reads
  stages := a.stages
  cleansUp := a.cleansUp
  firstWrite := a.firstWrite
  lastWrite := a.lastWrite

/-- The ids of the requests that have left between two states of the store. -/
def askedSince (before after : GrantStore) : List String :=
  (after.trace.take (after.trace.length - before.trace.length)).filterMap fun
    | .asked _ id => some id
    | _ => none

/-- The state after an attempt. -/
def Renewal.attempts (x : Renewal) (a : Attempt) : Renewal :=
  let store := x.store.refresh sha256 (a.call s verify x.cloud)
  { store
    cloud := fun id =>
      if a.way.reaches && (askedSince x.store store).contains id then
        some ((x.cloud id).getD a.response)
      else x.cloud id
    clock := a.validationNow }

/-- The response is bound to the subject, and its grant is valid at `t`. -/
def Bound (response : GrantIssueResponse) (t : ℕ) : Prop :=
  validateCloudGrantResponse response = .ok () ∧ ∃ report,
    verify response.accessGrant = .ok report ∧ validateVerifiedGrant s response report t = .ok ()

/-- The states any history leads to. What Cloud issues for a fresh id is bound and valid then. -/
inductive Reached : Renewal → Prop where
  | start : Reached ⟨.empty, fun _ => none, 0⟩
  | attempts {x : Renewal} {a : Attempt} (hx : Reached x) (hnow : x.clock ≤ a.now)
      (hafter : a.now ≤ a.validationNow)
      (hissues : a.way.reaches = true → Bound s verify a.response a.validationNow) :
      Reached (x.attempts sha256 s verify a)

/-- An attempt whose fetch succeeds, with everything around it. -/
def Attempt.succeeds (a : Attempt) : Bool :=
  a.way = .answered && a.reads && a.stages && a.cleansUp && a.clockWorks
    && a.firstWrite = .done && a.lastWrite = .done

/-- Further attempts after the clock `t`, whose fetches all succeed. -/
inductive Further : ℕ → List Attempt → Prop where
  | nil {t : ℕ} : Further t []
  | cons {t : ℕ} {a : Attempt} {as : List Attempt} (hnow : t ≤ a.now)
      (hafter : a.now ≤ a.validationNow) (hsucceeds : a.succeeds = true)
      (hissues : Bound s verify a.response a.validationNow) (has : Further a.validationNow as) :
      Further t (a :: as)

/-- The attempt returns `outcome`. -/
def Renewal.Returns (x : Renewal) (a : Attempt) (outcome : RefreshOutcome) : Prop :=
  ∃ w, refreshWithClock sha256 (a.call s verify x.cloud) x.store = (.ok outcome, w)

/-- The last clock value the call has sampled: a current grant is returned without a fetch. -/
def Attempt.sampled (a : Attempt) : RefreshOutcome → ℕ
  | .current _ => a.now
  | .refreshed _ | .retainedAfterTransientFailure .. => a.validationNow

/-- Of these attempts from `x` on, one returns a grant that is usable at the clock it sampled. -/
def Renewal.Recovers (x : Renewal) : List Attempt → Prop
  | [] => False
  | a :: as => (∃ outcome, x.Returns sha256 s verify a outcome
      ∧ outcome.grant.isUsableAt (a.sampled outcome) = true)
    ∨ Recovers (x.attempts sha256 s verify a) as

end CandyRuntime.CloudSync
