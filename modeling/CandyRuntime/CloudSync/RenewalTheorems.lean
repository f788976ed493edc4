import CandyRuntime.CloudSync.Renewal

/-!
# When a renewal comes through

A response that Cloud has once produced for the pending request id is what every later fetch
gets. If its grant has expired by then, the call fails without changing the pending id, so no
number of further calls helps: `recovers_iff` is exact. What a call returns after a transient
failure was checked against the clock before the fetch only.
-/

namespace CandyRuntime.CloudSync

open Lib Lib.Proc NetdProto NetdV2

variable {response : GrantIssueResponse} {p : PendingIssuance} {id : String}
  {report : VerifiedGrantReport}
variable {sha256 : Bytes → String} {s : GrantSubject}
  {verify : String → Except GrantError VerifiedGrantReport}

/-! ## Validity of responses -/

theorem firstFailure_eq_ok {checks : List (Bool × String × String)} :
    firstFailure checks = .ok () ↔ ∀ check ∈ checks, check.1 = true := by
  induction checks with
  | nil => simp [firstFailure]
  | cons check checks ih =>
    obtain ⟨valid, stage, code⟩ := check
    cases valid with
    | true => simpa [firstFailure] using ih
    | false => simp [firstFailure]

theorem validateVerifiedGrant_eq_ok {t : ℕ} :
    validateVerifiedGrant s response report t = .ok ()
      ↔ validateVerifiedGrantBinding s report = .ok () ∧ report.grantId = response.grantId
        ∧ report.expiresAtUnix = response.expiresAtUnix
        ∧ report.refreshAfterUnix = response.refreshAfterUnix
        ∧ report.notBeforeUnix ≤ t ∧ t < report.expiresAtUnix
        ∧ report.notBeforeUnix ≤ report.refreshAfterUnix
        ∧ report.refreshAfterUnix < report.expiresAtUnix := by
  unfold validateVerifiedGrant
  cases hbinding : validateVerifiedGrantBinding s report with
  | error e =>
    refine ⟨fun h => ?_, fun h => ?_⟩
    · cases h
    · cases h.1
  | ok u =>
    show firstFailure _ = _ ↔ _
    rw [firstFailure_eq_ok]
    simp

theorem validateVerifiedGrantBinding_notBefore
    (h : validateVerifiedGrantBinding s report = .ok ()) : report.notBeforeUnix ≠ 0 := by
  unfold validateVerifiedGrantBinding at h
  rw [firstFailure_eq_ok] at h
  have hcheck := h (decide (report.notBeforeUnix ≠ 0), "grant_validity",
    "grant_not_before_invalid") (by simp)
  simpa using hcheck

section

variable [Base64]

/-- A bound response stays valid until its grant expires. -/
theorem Bound.later {t t' : ℕ} (h : Bound s verify response t) (hle : t ≤ t') :
    Bound s verify response t' ↔ t' < response.expiresAtUnix := by
  obtain ⟨hresponse, report, hverify, hvalid⟩ := h
  rw [validateVerifiedGrant_eq_ok] at hvalid
  obtain ⟨hbinding, hid, hexpires, hrefresh, hbefore, _, hwindow⟩ := hvalid
  constructor
  · rintro ⟨_, report', hverify', hvalid'⟩
    rw [validateVerifiedGrant_eq_ok] at hvalid'
    rw [hverify] at hverify'
    cases hverify'
    rw [← hexpires]
    exact hvalid'.2.2.2.2.2.1
  · intro hlt
    refine ⟨hresponse, report, hverify, validateVerifiedGrant_eq_ok.mpr ?_⟩
    exact ⟨hbinding, hid, hexpires, hrefresh, hbefore.trans hle, by omega, hwindow⟩

/-! ## Validity of states -/

omit [Base64] in
theorem isAlphanum_of_isLowerHex {c : Char} (h : isLowerHex c = true) : c.isAlphanum = true := by
  unfold isLowerHex at h
  simp only [Bool.or_eq_true, Bool.and_eq_true, decide_eq_true_eq] at h
  delta Char.isAlphanum Char.isAlpha Char.isUpper Char.isLower Char.isDigit
  simp only [Bool.or_eq_true, Bool.and_eq_true, decide_eq_true_eq]
  rcases h with ⟨hle, hge⟩ | ⟨hle, hge⟩
  · exact .inr ⟨hle, hge⟩
  · exact .inl (.inr ⟨hle, Char.le_trans hge (by decide : 'f' ≤ 'z')⟩)

/-- The digests of the requests of `s` are written in hexadecimal, as `sha2` does. -/
def HexDigests (sha256 : Bytes → String) (s : GrantSubject) : Prop :=
  ∀ n, isHex (sha256 (s.domainBytes "candy/sdwan-grant-request-v2" (some n))) 64 = true

omit [Base64] in
theorem requestId_valid (hhex : HexDigests sha256 s) {n : ℕ} (h : s.requestId sha256 n = .ok id) :
    validateRequestId id = .ok () := by
  obtain ⟨_, _, rfl⟩ := requestId_eq_ok h
  have hdigest := hhex n
  generalize sha256 (s.domainBytes "candy/sdwan-grant-request-v2" (some n)) = digest at hdigest
  simp only [isHex, Bool.and_eq_true, beq_iff_eq, List.all_eq_true] at hdigest
  unfold validateRequestId
  rw [if_pos]
  have hlength : ("sdwan-v2-" ++ digest).length = 73 := by
    rw [String.length_append, hdigest.1]
    rfl
  simp only [Bool.and_eq_true, decide_eq_true_eq, List.all_eq_true]
  refine ⟨⟨by omega, by omega⟩, fun c hc => ?_⟩
  rw [String.toList_append, List.mem_append] at hc
  rcases hc with hc | hc
  · have hletters : ("sdwan-v2-".toList.all fun c =>
        c.isAlphanum || c = '-' || c = '_' || c = '.') = true := by
      decide
    simpa using List.all_eq_true.mp hletters c hc
  · rw [isAlphanum_of_isLowerHex (hdigest.2 c hc)]
    rfl

omit [Base64] in
theorem requestId_ok (hv : s.isValid = true) {n : ℕ} (hn : n ≠ 0) :
    s.requestId sha256 n
      = .ok ("sdwan-v2-" ++ sha256 (s.domainBytes "candy/sdwan-grant-request-v2" (some n))) := by
  unfold GrantSubject.requestId GrantSubject.validate
  rw [if_pos hv]
  show (if n = 0 then _ else _) = _
  rw [if_neg hn]
  rfl

section Records

variable {st : GrantState} {g : CachedGrant}

theorem validateFor_of (hv : s.isValid = true) (hbelongs : st.belongsTo s = true)
    (hactive : st.checkActive sha256 s = .ok ()) (hpending : st.checkPending sha256 s = .ok ())
    (hrevoked : st.revokedAtUnix = none) : st.validateFor sha256 s = .ok () := by
  unfold GrantState.validateFor GrantSubject.validate
  rw [if_pos hv]
  show (if _ then _ else _) = _
  rw [hbelongs, hactive, hpending, hrevoked]
  rfl

theorem new_valid (hv : s.isValid = true) : (GrantState.new s).validateFor sha256 s = .ok () := by
  apply validateFor_of hv
  · simp [GrantState.belongsTo, GrantState.new]
  · rfl
  · rfl
  · rfl

/-- The state with its next issuance is valid. -/
theorem pending_valid (hhex : HexDigests sha256 s) (hvalid : st.validateFor sha256 s = .ok ())
    (hrevoked : st.revokedAtUnix = none) (hbound : st.completedSequence + 1 < 2 ^ 64)
    (hid : s.requestId sha256 (st.completedSequence + 1) = .ok id) (now : ℕ) :
    GrantState.validateFor sha256
      { st with pending := some ⟨st.completedSequence + 1, id, max now 1⟩ } s = .ok () := by
  obtain ⟨hv, hbelongs, hactive, _, _⟩ := validateFor_eq_ok hvalid
  refine validateFor_of hv ?_ ?_ ?_ ?_
  · exact hbelongs
  · exact hactive
  rotate_left
  · exact hrevoked
  unfold GrantState.checkPending checkedSucc
  dsimp only
  rw [requestId_valid hhex hid, if_pos hbound]
  show (if _ then _ else _) = _
  rw [if_neg (by simp)]
  rw [hid]
  show (if _ then _ else _) = _
  rw [if_neg (by simp)]

/-- What is made of a bound response is a valid grant that is usable now. -/
theorem fromResponse_ok (hhex : HexDigests sha256 s) {n now : ℕ}
    (hid : s.requestId sha256 n = .ok id)
    (hresponse : validateCloudGrantResponse response = .ok ())
    (hvalid : validateVerifiedGrant s response report now = .ok ()) :
    ∃ g, CachedGrant.fromResponse sha256 s n id response report now = .ok g
      ∧ g.sequence = n ∧ g.validateFor sha256 s = .ok () ∧ g.isUsableAt now = true := by
  obtain ⟨_, hn, _⟩ := requestId_eq_ok hid
  refine ⟨⟨n, id, response.grantId, now, report.expiresAtUnix, response.accessGrant, report⟩,
    ?_, rfl, ?_, ?_⟩
  · unfold CachedGrant.fromResponse
    rw [requestId_valid hhex hid, hid, hresponse, hvalid]
    show (if _ then _ else _) = _
    rw [if_neg (by simp)]
    rfl
  all_goals
    rw [validateVerifiedGrant_eq_ok] at hvalid
    obtain ⟨hbinding, hgrant, _, _, hbefore, hexpires, _⟩ := hvalid
    have hzero := validateVerifiedGrantBinding_notBefore hbinding
    have hchecks : response.grantId ≠ InstanceId.zero
        ∧ validAccessGrant response.accessGrant = true := by
      unfold validateCloudGrantResponse at hresponse
      split at hresponse
      · next h => simpa using h
      · cases hresponse
  · unfold CachedGrant.validateFor
    dsimp only
    rw [if_neg hn, hid]
    show (if _ then _ else _) = _
    rw [if_neg]
    · rw [hbinding]
      show (if _ then _ else _) = _
      rw [if_neg (by simp [hgrant])]
    · simp only [Bool.or_eq_true, decide_eq_true_eq, Bool.not_eq_true', not_or]
      refine ⟨⟨⟨⟨by simp, hchecks.1⟩, by omega⟩, by omega⟩, by simp [hchecks.2]⟩
  · simp [CachedGrant.isUsableAt, hbefore, hexpires, hchecks.2]

/-- The state with a new grant is valid. -/
theorem active_valid (hvalid : st.validateFor sha256 s = .ok ())
    (hg : g.validateFor sha256 s = .ok ()) :
    GrantState.validateFor sha256
      { st with
        completedSequence := g.sequence
        pending := none
        revokedAtUnix := none
        active := some g } s = .ok () := by
  obtain ⟨hv, hbelongs, _⟩ := validateFor_eq_ok hvalid
  refine validateFor_of hv ?_ ?_ rfl rfl
  · exact hbelongs
  unfold GrantState.checkActive
  dsimp only
  rw [hg]
  show (if _ then _ else _) = _
  rw [if_neg (by simp)]

end Records

/-! ## One call -/

section Call

variable {call : RefreshCall} {w : GrantStore} {Q : RefreshOutcome → GrantStore → Prop}
  {E : GrantError → GrantStore → Prop} {C : GrantStore → Prop} {st : GrantState}

variable (call) in
/-- A call up to the branch that asks Cloud. -/
theorem refreshWithClock_wp (hv : call.subject.isValid = true) (hreads : call.reads = true)
    (hfile : ∀ st, w.file sha256 call.subject = some st →
      st.validateFor sha256 call.subject = .ok ())
    (hst : (w.file sha256 call.subject).getD (.new call.subject) = st)
    (hrevoked : st.revokedAtUnix = none) :
    wp (refreshWithClock sha256 call) Q E C w
      ↔ match (st.usable call.now).filter (!·.shouldRefreshAt call.now) with
        | some grant => Q (.current grant) w
        | none => wp (renewGrant sha256 call st) Q E C w := by
  have hvalidate : call.subject.validate = .ok () := by
    unfold GrantSubject.validate
    rw [if_pos hv]
  have hchecked : withFailure "grant_subject_validation" "grant_subject_invalid"
      (lift call.subject.validate) w = (.ok (), w) := by
    rw [hvalidate]
    rfl
  have hloaded : withFailure "grant_state_load" "grant_state_load_failed"
      (loadState sha256 call) w = (.ok (w.file sha256 call.subject), w) := by
    unfold withFailure mapError
    rw [loadState_eq hv hreads hfile]
  unfold refreshWithClock
  rw [wp_bind_of_eq hchecked, wp_bind_of_eq hloaded]
  dsimp only
  rw [hst, wp_bind, wp_ensure]
  cases (st.usable call.now).filter (!·.shouldRefreshAt call.now) <;> simp [hrevoked]

omit [Base64] in
theorem storageId_ok (hv : s.isValid = true) :
    s.storageId sha256 = .ok (sha256 (s.domainBytes "candy/sdwan-grant-state-v2" none)) := by
  unfold GrantSubject.storageId GrantSubject.validate
  rw [if_pos hv]
  rfl

/-- A valid state is written. -/
theorem storeState_done (hvalid : st.validateFor sha256 s = .ok ()) :
    storeState sha256 s st .done w
      = (.ok (), w.stores (sha256 (s.domainBytes "candy/sdwan-grant-state-v2" none)) s st) := by
  obtain ⟨hv, _⟩ := validateFor_eq_ok hvalid
  unfold storeState
  rw [hvalid, storageId_ok hv]
  rfl

/-- The state `st'` is `st` with the pending issuance `p`, the next one. -/
structure Prepared (sha256 : Bytes → String) (s : GrantSubject) (st st' : GrantState)
    (p : PendingIssuance) : Prop where
  pending : st'.pending = some p
  sequence : p.sequence = st.completedSequence + 1
  requestId : s.requestId sha256 p.sequence = .ok p.requestId
  valid : st'.validateFor sha256 s = .ok ()
  active : st'.active = st.active
  completed : st'.completedSequence = st.completedSequence
  revoked : st'.revokedAtUnix = none

/-- The next issuance is made durable. -/
theorem ensurePending_stores (hpending : st.pending = none)
    (hbound : st.completedSequence + 1 < 2 ^ 64)
    (hid : call.subject.requestId sha256 (st.completedSequence + 1) = .ok id)
    (hwrite : call.firstWrite = .done)
    (hstored : GrantState.validateFor sha256 { st with pending := some ⟨st.completedSequence
      + 1, id, max call.now 1⟩ } call.subject = .ok ()) :
    ensurePending sha256 call st w
      = (.ok { st with pending := some ⟨st.completedSequence + 1, id, max call.now 1⟩ },
        w.stores (sha256 (call.subject.domainBytes "candy/sdwan-grant-state-v2" none))
          call.subject
          { st with pending := some ⟨st.completedSequence + 1, id, max call.now 1⟩ }) := by
  have hsequence : lift (context (checkedSucc st.completedSequence)
      "Grant renewal sequence overflow") w = (.ok (st.completedSequence + 1), w) := by
    unfold checkedSucc
    rw [if_pos hbound]
    rfl
  have hrequest : (lift (call.subject.requestId sha256 (st.completedSequence + 1)) : Grt String) w
      = (.ok id, w) := by
    rw [hid]
    rfl
  have hwritten : withFailure "grant_pending_persist" "grant_pending_persist_failed"
      (storeState sha256 call.subject
        { st with pending := some ⟨st.completedSequence + 1, id, max call.now 1⟩ }
        call.firstWrite) w
      = (.ok (), w.stores (sha256 (call.subject.domainBytes "candy/sdwan-grant-state-v2" none))
          call.subject
          { st with pending := some ⟨st.completedSequence + 1, id, max call.now 1⟩ }) := by
    unfold withFailure mapError
    rw [hwrite, storeState_done hstored]
  have hsucceeds : Succeeds (ensurePending sha256 call st) (fun st' w' =>
      st' = { st with pending := some ⟨st.completedSequence + 1, id, max call.now 1⟩ }
        ∧ w' = w.stores (sha256 (call.subject.domainBytes "candy/sdwan-grant-state-v2" none))
          call.subject
          { st with pending := some ⟨st.completedSequence + 1, id, max call.now 1⟩ }) w := by
    unfold ensurePending Succeeds
    rw [if_pos (Option.isNone_iff_eq_none.mpr hpending), wp_bind_of_eq hsequence, wp_bind_of_eq hrequest]
    dsimp only
    rw [wp_bind_of_eq hwritten]
    exact ⟨rfl, rfl⟩
  obtain ⟨st', w', heq, hst', hw'⟩ := (succeeds_iff _).mp hsucceeds
  rw [heq, hst', hw']

variable (call) in
theorem ensurePending_eq (hv : call.subject.isValid = true) (hhex : HexDigests sha256 call.subject)
    (hvalid : st.validateFor sha256 call.subject = .ok ()) (hrevoked : st.revokedAtUnix = none)
    (hbound : st.completedSequence + 1 < 2 ^ 64)
    (hfile : (w.file sha256 call.subject).getD (.new call.subject) = st)
    (hwrite : st.pending = none → call.firstWrite = .done) :
    ∃ st' p w', ensurePending sha256 call st w = (.ok st', w')
      ∧ w'.file sha256 call.subject = some st' ∧ Prepared sha256 call.subject st st' p
      ∧ nextRequestId sha256 call.subject (w.file sha256 call.subject) = .ok p.requestId := by
  cases hpending : st.pending with
  | none =>
    have hid : call.subject.requestId sha256 (st.completedSequence + 1) = .ok _ :=
      requestId_ok hv (Nat.succ_ne_zero st.completedSequence)
    have hstored := pending_valid hhex hvalid hrevoked hbound hid call.now
    refine ⟨_, _, _, ensurePending_stores hpending hbound hid (hwrite hpending) hstored, ?_,
      ⟨rfl, rfl, hid, hstored, rfl, rfl, hrevoked⟩, ?_⟩
    · unfold GrantStore.file GrantStore.stores
      dsimp only
      rw [Function.update_self]
    · simpa only [nextRequestId, hfile, hpending] using hid
  | some p =>
    obtain ⟨hsequence, _, hid⟩ := validateFor_pending hvalid hpending
    refine ⟨st, p, w, ?_, ?_, ⟨hpending, hsequence, hid, hvalid, rfl, rfl, hrevoked⟩, ?_⟩
    · unfold ensurePending
      rw [hpending]
      rfl
    · cases hcase : w.file sha256 call.subject with
      | none =>
        rw [hcase] at hfile
        subst hfile
        cases hpending
      | some cur =>
        rw [hcase] at hfile
        exact congrArg some hfile
    · simp only [nextRequestId, hfile, hpending]

omit [Base64] in
theorem succeeds_withFailure {α : Type} {stage code : String} {m : Grt α}
    {R : α → GrantStore → Prop} :
    Succeeds (withFailure stage code m) R w ↔ Succeeds m R w := by
  unfold Succeeds withFailure
  rw [wp_mapError]

variable (call) in
/-- A bound response is accepted. -/
theorem acceptResponse_ok (hhex : HexDigests sha256 call.subject) {now : ℕ}
    (hvalid : st.validateFor sha256 call.subject = .ok ())
    (hid : call.subject.requestId sha256 p.sequence = .ok p.requestId)
    (hbound : Bound call.subject call.verify response now) (hnow : call.validationNow = some now)
    (hstages : call.stages = true) (hcleans : call.cleansUp = true)
    (hwrite : call.lastWrite = .done) :
    Succeeds (acceptResponse sha256 call st p response)
      (fun outcome _ => ∃ g, outcome = .refreshed g ∧ g.isUsableAt now = true) w := by
  obtain ⟨hresponse, report, hverify, hverified⟩ := hbound
  obtain ⟨g, hg, hsequence, hgrant, husable⟩ := fromResponse_ok hhex hid hresponse hverified
  have hstored := active_valid hvalid hgrant
  rw [hsequence] at hstored
  have hwritten := storeState_done (w := w) hstored
  unfold acceptResponse
  rw [succeeds_bind, succeeds_withFailure, succeeds_lift]
  refine ⟨(), hresponse, ?_⟩
  rw [succeeds_bind, succeeds_withFailure, succeeds_ensure]
  refine ⟨hstages, ?_⟩
  rw [succeeds_bind, succeeds_withFailure, succeeds_lift]
  refine ⟨report, hverify, ?_⟩
  rw [succeeds_bind, succeeds_withFailure, succeeds_ensure]
  refine ⟨hcleans, ?_⟩
  rw [succeeds_bind, succeeds_okOr]
  refine ⟨now, hnow, ?_⟩
  rw [succeeds_bind, succeeds_lift]
  refine ⟨g, hg, ?_⟩
  rw [hwrite, succeeds_bind, succeeds_withFailure, succeeds_iff]
  exact ⟨(), _, hwritten, g, rfl, husable⟩

omit [Base64] in
/-- The request for the pending issuance leaves, and `fetch` answers it. -/
theorem fetchGrant_eq {fetched : Fetched} (h : call.fetch (.new call.subject id) = fetched)
    (hkilled : fetched ≠ .killed) :
    fetchGrant call id w = (.ok fetched, { w with trace := .asked call.subject id :: w.trace }) := by
  unfold fetchGrant
  rw [h]
  cases fetched with
  | killed => exact absurd rfl hkilled
  | response response => rfl
  | transient error => rfl
  | denied error => rfl
  | policyResyncRequired => rfl

/-- The branch that asks Cloud, up to the answer. -/
theorem renewGrant_wp {st' : GrantState} {w' : GrantStore} {fetched : Fetched}
    (hprepared : ensurePending sha256 call st w = (.ok st', w')) (hpending : st'.pending = some p)
    (hfetch : call.fetch (.new call.subject p.requestId) = fetched) (hkilled : fetched ≠ .killed) :
    wp (renewGrant sha256 call st) Q E C w
      ↔ wp (settleFetch sha256 call st' p fetched) Q E C
        { w' with trace := .asked call.subject p.requestId :: w'.trace } := by
  have hexpected : (okOr st'.pending (.other "missing pending Grant transaction") :
      Grt PendingIssuance) w' = (.ok p, w') := by
    rw [hpending]
    rfl
  unfold renewGrant
  rw [wp_bind_of_eq hprepared, wp_bind_of_eq hexpected,
    wp_bind_of_eq (fetchGrant_eq hfetch hkilled)]

end Call

/-! ## Attempts -/

theorem usable_isUsableAt {st : GrantState} {now : ℕ} {g : CachedGrant}
    (h : st.usable now = some g) : g.isUsableAt now = true := by
  unfold GrantState.usable at h
  split at h
  · cases h
  · exact (Option.filter_eq_some_iff.mp h).2

/-- What is known of the store and of Cloud in every state a history leads to. -/
structure Sane (sha256 : Bytes → String) (s : GrantSubject)
    (verify : String → Except GrantError VerifiedGrantReport) (x : Renewal) : Prop where
  kept : Kept sha256 {s} x.store
  cloud : ∀ id response, x.cloud id = some response →
    ∃ t, t ≤ x.clock ∧ Bound s verify response t

/-- What Cloud has produced, it produces again. -/
theorem attempts_cloud {x : Renewal} {a : Attempt} (h : x.cloud id = some response) :
    (x.attempts sha256 s verify a).cloud id = some response := by
  show (if a.way.reaches && _ then _ else _) = _
  rw [h]
  split <;> rfl

theorem Sane.attempts {x : Renewal} {a : Attempt} (hx : Sane sha256 s verify x)
    (hnow : x.clock ≤ a.now) (hafter : a.now ≤ a.validationNow)
    (hissues : a.way.reaches = true → Bound s verify a.response a.validationNow) :
    Sane sha256 s verify (x.attempts sha256 s verify a) := by
  have hfiles : OwnFiles sha256 {s} := by
    intro s₁ hs₁ _ s₂ hs₂ _ _
    exact (Set.mem_singleton_iff.mp hs₁).trans (Set.mem_singleton_iff.mp hs₂).symm
  refine ⟨refresh_kept hfiles hx.kept (Set.mem_singleton s), fun id response h => ?_⟩
  have hlater : x.clock ≤ a.validationNow := hnow.trans hafter
  cases hold : x.cloud id with
  | some response' =>
    rw [attempts_cloud hold] at h
    cases h
    obtain ⟨t, ht, hbound⟩ := hx.cloud id response hold
    exact ⟨t, ht.trans hlater, hbound⟩
  | none =>
    change (if a.way.reaches && _ then _ else _) = _ at h
    rw [hold] at h
    split at h
    · next hreaches =>
      simp only [Bool.and_eq_true] at hreaches
      cases h
      exact ⟨a.validationNow, le_rfl, hissues hreaches.1⟩
    · cases h

theorem reached_sane {x : Renewal} (hx : Reached sha256 s verify x) : Sane sha256 s verify x := by
  induction hx with
  | start => exact ⟨empty_kept _, nofun⟩
  | attempts _ hnow hafter hissues ih => exact ih.attempts hnow hafter hissues

section Attempts

variable {x : Renewal} {a : Attempt} {call : RefreshCall} {st : GrantState}
  {Q : RefreshOutcome → GrantStore → Prop}

/-- The state a call starts with. -/
def Renewal.state (sha256 : Bytes → String) (s : GrantSubject) (x : Renewal) : GrantState :=
  (x.store.file sha256 s).getD (.new s)

/-- The cached grant does at the first clock of the attempt, or the next issuance exists and what
Cloud has already produced for its id has not expired at the second. -/
def Renewal.Renewable (sha256 : Bytes → String) (s : GrantSubject) (x : Renewal) (a : Attempt) :
    Prop :=
  (((x.state sha256 s).usable a.now).filter (!·.shouldRefreshAt a.now)).isSome = true
    ∨ ((x.state sha256 s).completedSequence + 1 < 2 ^ 64
      ∧ ∀ id response, nextRequestId sha256 s (x.store.file sha256 s) = .ok id →
        x.cloud id = some response → a.validationNow < response.expiresAtUnix)

theorem Sane.valid (hx : Sane sha256 s verify x) (hv : s.isValid = true) (st : GrantState)
    (hst : x.store.file sha256 s = some st) : st.validateFor sha256 s = .ok () := by
  have hs : s ∈ ({s} : Set GrantSubject) := Set.mem_singleton s
  exact (hx.kept.valid s st (hx.kept.latest s hs hv st hst).1).2.1

theorem Sane.state_valid (hx : Sane sha256 s verify x) (hv : s.isValid = true) :
    (x.state sha256 s).validateFor sha256 s = .ok () := by
  unfold Renewal.state
  cases hfile : x.store.file sha256 s with
  | none => exact new_valid hv
  | some st => exact hx.valid hv st hfile

/-- The store `w'` has the same grant of `s` as `w`, and the same next request. -/
structure Unmoved (sha256 : Bytes → String) (s : GrantSubject) (w w' : GrantStore) : Prop where
  active : ((w'.file sha256 s).getD (.new s)).active = ((w.file sha256 s).getD (.new s)).active
  completed : ((w'.file sha256 s).getD (.new s)).completedSequence
    = ((w.file sha256 s).getD (.new s)).completedSequence
  revoked : ((w'.file sha256 s).getD (.new s)).revokedAtUnix
    = ((w.file sha256 s).getD (.new s)).revokedAtUnix
  next : nextRequestId sha256 s (w'.file sha256 s) = nextRequestId sha256 s (w.file sha256 s)

/-- With the last sequence completed there is no next issuance. -/
theorem ensurePending_overflow {w : GrantStore} (hpending : st.pending = none)
    (hbound : ¬ st.completedSequence + 1 < 2 ^ 64) :
    ensurePending sha256 call st w = (.err (.other "Grant renewal sequence overflow"), w) := by
  unfold ensurePending checkedSucc
  rw [if_pos (Option.isNone_iff_eq_none.mpr hpending), if_neg hbound]
  rfl

/-- Without a cached grant that does, the answer of Cloud decides. -/
theorem renewable_iff
    (hcurrent : ((x.state sha256 s).usable a.now).filter (!·.shouldRefreshAt a.now) = none)
    (hbound : (x.state sha256 s).completedSequence + 1 < 2 ^ 64)
    (hnext : nextRequestId sha256 s (x.store.file sha256 s) = .ok id)
    (hissues : a.validationNow < a.response.expiresAtUnix) :
    x.Renewable sha256 s a
      ↔ a.validationNow < ((x.cloud id).getD a.response).expiresAtUnix := by
  unfold Renewal.Renewable
  rw [hcurrent]
  constructor
  · rintro (hsome | ⟨_, hall⟩)
    · cases hsome
    · cases hold : x.cloud id with
      | none => exact hissues
      | some response => exact hall id response hnext hold
  · intro hlt
    refine .inr ⟨hbound, fun id' response hnext' hold => ?_⟩
    rw [hnext] at hnext'
    cases hnext'
    rw [hold] at hlt
    exact hlt

/-- An old response whose grant has expired is rejected. -/
theorem acceptResponse_expired (call : RefreshCall) {P : GrantStore → Prop} {t now : ℕ}
    (hanswer : Bound call.subject call.verify response t) (ht : t ≤ now)
    (hnow : call.validationNow = some now) (hexpired : ¬ now < response.expiresAtUnix) :
    Triple P (acceptResponse sha256 call st p response) (fun _ _ => False) (fun _ => P) P := by
  have hnot : ¬ Bound call.subject call.verify response now := by
    rw [hanswer.later ht]
    exact hexpired
  obtain ⟨hresponse, report, hverify, _⟩ := hanswer
  refine acceptResponse_rejected (.inr ⟨report, now, ?_⟩)
  cases hverified : validateVerifiedGrant call.subject response report now with
  | ok u => exact absurd ⟨hresponse, report, hverify, hverified⟩ hnot
  | error e => exact ⟨e, hverify, hnow, rfl⟩

/-- A prepared state differs from the one before by its pending issuance only. -/
theorem Prepared.unmoved {st' : GrantState} {w w' : GrantStore}
    (h : Prepared sha256 s ((w.file sha256 s).getD (.new s)) st' p)
    (hrevoked : ((w.file sha256 s).getD (.new s)).revokedAtUnix = none)
    (hfile : w'.file sha256 s = some st')
    (hnext : nextRequestId sha256 s (w.file sha256 s) = .ok p.requestId) :
    Unmoved sha256 s w w' := by
  refine ⟨?_, ?_, ?_, ?_⟩
  · rw [hfile]
    exact h.active
  · rw [hfile]
    exact h.completed
  · rw [hfile, hrevoked]
    exact h.revoked
  · rw [hfile, hnext]
    unfold nextRequestId
    dsimp only [Option.getD_some]
    rw [h.pending]

variable (hx : Sane sha256 s verify x) (hv : s.isValid = true) (hhex : HexDigests sha256 s)
  (hrevoked : (x.state sha256 s).revokedAtUnix = none)

include hx hv hhex hrevoked

/-- One attempt whose fetch succeeds. -/
theorem attempt_wp (hnow : x.clock ≤ a.now) (hafter : a.now ≤ a.validationNow)
    (hsucceeds : a.succeeds = true) (hissues : Bound s verify a.response a.validationNow) :
    wp (refreshWithClock sha256 (a.call s verify x.cloud))
      (fun outcome _ => x.Renewable sha256 s a
        ∧ outcome.grant.isUsableAt (a.sampled outcome) = true)
      (fun _ w => ¬ x.Renewable sha256 s a ∧ Unmoved sha256 s x.store w)
      (fun w => ¬ x.Renewable sha256 s a ∧ Unmoved sha256 s x.store w) x.store := by
  simp only [Attempt.succeeds, Bool.and_eq_true, decide_eq_true_eq] at hsucceeds
  obtain ⟨⟨⟨⟨⟨⟨hway, hreads⟩, hstages⟩, hcleans⟩, hclock⟩, hfirst⟩, hlast⟩ := hsucceeds
  have hvalid := hx.state_valid hv
  have hstate : (x.store.file sha256 s).getD (.new s) = x.state sha256 s := rfl
  rw [refreshWithClock_wp (a.call s verify x.cloud) hv hreads (hx.valid hv) hstate hrevoked]
  show match ((x.state sha256 s).usable a.now).filter (!·.shouldRefreshAt a.now) with
    | some grant => _
    | none => _
  cases hcurrent : ((x.state sha256 s).usable a.now).filter (!·.shouldRefreshAt a.now) with
  | some grant =>
    -- The cached grant does.
    refine ⟨.inl (by rw [hcurrent]; rfl), ?_⟩
    rw [Option.filter_eq_some_iff] at hcurrent
    exact usable_isUsableAt hcurrent.1
  | none =>
    dsimp only
    by_cases hbound : (x.state sha256 s).completedSequence + 1 < 2 ^ 64
    · obtain ⟨st', p, w', hprepared, hfile, hp, hnext⟩ := ensurePending_eq
        (a.call s verify x.cloud) hv hhex hvalid hrevoked hbound hstate fun _ => hfirst
      have hfetch : (a.call s verify x.cloud).fetch (.new s p.requestId)
          = .response ((x.cloud p.requestId).getD a.response) := by
        show a.fetch x.cloud _ = _
        unfold Attempt.fetch
        rw [hway]
        rfl
      have hsampled : (a.call s verify x.cloud).validationNow = some a.validationNow := by
        show (if a.clockWorks then _ else _) = _
        rw [if_pos hclock]
      rw [renewGrant_wp hprepared hp.pending hfetch nofun]
      -- What Cloud answers is an old response, or the one for this moment.
      obtain ⟨t, ht, hanswer⟩ : ∃ t ≤ a.validationNow,
          Bound s verify ((x.cloud p.requestId).getD a.response) t := by
        cases hold : x.cloud p.requestId with
        | none => exact ⟨a.validationNow, le_rfl, hissues⟩
        | some response =>
          obtain ⟨t, ht, hbound⟩ := hx.cloud _ _ hold
          exact ⟨t, (ht.trans hnow).trans hafter, hbound⟩
      have hrenewable : x.Renewable sha256 s a
          ↔ a.validationNow < ((x.cloud p.requestId).getD a.response).expiresAtUnix :=
        renewable_iff hcurrent hbound hnext ((hissues.later le_rfl).mp hissues)
      by_cases hexpires :
          a.validationNow < ((x.cloud p.requestId).getD a.response).expiresAtUnix
      · have haccepted := acceptResponse_ok (a.call s verify x.cloud) (w := { w' with
            trace := .asked s p.requestId :: w'.trace }) hhex hp.valid hp.requestId
          ((hanswer.later ht).mpr hexpires) hsampled hstages hcleans hlast
        refine wp_mono haccepted ?_ (fun _ _ h => h.elim) (fun _ h => h.elim)
        rintro outcome w'' ⟨g, rfl, husable⟩
        exact ⟨hrenewable.mpr hexpires, husable⟩
      · have hnot : ¬ x.Renewable sha256 s a := fun h => hexpires (hrenewable.mp h)
        have hrejected : Triple (Unmoved sha256 s x.store)
            (acceptResponse sha256 (a.call s verify x.cloud) st' p
              ((x.cloud p.requestId).getD a.response)) (fun _ _ => False)
            (fun _ => Unmoved sha256 s x.store) (Unmoved sha256 s x.store) :=
          acceptResponse_expired (a.call s verify x.cloud) hanswer ht hsampled hexpires
        refine (hrejected.conseq (fun _ h => h) (fun _ _ h => h.elim) (fun _ _ h => ⟨hnot, h⟩)
          (fun _ h => ⟨hnot, h⟩)) _ ?_
        exact hp.unmoved hrevoked hfile hnext
    · have hpending : (x.state sha256 s).pending = none := by
        cases hcase : (x.state sha256 s).pending with
        | none => rfl
        | some p =>
          obtain ⟨hsequence, hlt, _⟩ := validateFor_pending hvalid hcase
          omega
      unfold renewGrant
      rw [wp_bind]
      unfold wp
      rw [ensurePending_overflow hpending hbound]
      refine ⟨?_, ⟨rfl, rfl, rfl, rfl⟩⟩
      rintro (hsome | ⟨hlt, _⟩)
      · rw [hcurrent] at hsome
        cases hsome
      · exact hbound hlt

omit hx hv hhex hrevoked

/-- A failed attempt leaves the condition for all later ones as it was. -/
theorem renewable_unmoved {x' : Renewal} (h : Unmoved sha256 s x.store x'.store)
    (hcloud : ∀ id response, x.cloud id = some response → x'.cloud id = some response)
    (hnot : ¬ x.Renewable sha256 s a) (b : Attempt) :
    x'.Renewable sha256 s b ↔ x.Renewable sha256 s b := by
  have husable : (x'.state sha256 s).usable b.now = (x.state sha256 s).usable b.now := by
    unfold GrantState.usable Renewal.state
    rw [h.active, h.revoked]
  have hcompleted : (x'.state sha256 s).completedSequence
      = (x.state sha256 s).completedSequence := h.completed
  unfold Renewal.Renewable
  rw [husable, hcompleted, h.next]
  refine or_congr_right (and_congr_right fun hbound => ?_)
  -- The attempt has failed with what Cloud had produced for the next id.
  obtain ⟨id, response, hnext, hold⟩ : ∃ id response,
      nextRequestId sha256 s (x.store.file sha256 s) = .ok id
        ∧ x.cloud id = some response := by
    by_contra hnone
    refine hnot (.inr ⟨hbound, fun id response hnext hold => ?_⟩)
    exact absurd ⟨id, response, hnext, hold⟩ hnone
  rw [hnext]
  constructor
  · intro hall id' response' hid hold'
    cases hid
    exact hall id response' rfl (hcloud id response' hold')
  · intro hall id' response' hid hold'
    cases hid
    rw [hcloud id response hold] at hold'
    cases hold'
    exact hall id response rfl hold

/-- Of attempts whose fetches all succeed, one returns a usable grant exactly if one of them finds
the cached grant good enough, or no expired response for the pending request id. -/
theorem recovers_iff (hv : s.isValid = true) (hhex : HexDigests sha256 s) {as : List Attempt}
    (hx : Sane sha256 s verify x) (hrevoked : (x.state sha256 s).revokedAtUnix = none)
    (has : Further s verify x.clock as) :
    x.Recovers sha256 s verify as ↔ ∃ a ∈ as, x.Renewable sha256 s a := by
  induction as generalizing x with
  | nil => simp [Renewal.Recovers]
  | cons a as ih =>
    cases has with
    | cons hnow hafter hsucceeds hissues has =>
      have hwp := attempt_wp hx hv hhex hrevoked hnow hafter hsucceeds hissues
      have hrest : ¬ x.Renewable sha256 s a →
          Unmoved sha256 s x.store (x.attempts sha256 s verify a).store →
          (Renewal.Recovers sha256 s verify (x.attempts sha256 s verify a) as
            ↔ ∃ b ∈ a :: as, x.Renewable sha256 s b) := by
        intro hnot hunmoved
        have hrevoked' : ((x.attempts sha256 s verify a).state sha256 s).revokedAtUnix = none :=
          hunmoved.revoked.trans hrevoked
        rw [ih (hx.attempts hnow hafter fun _ => hissues) hrevoked' has]
        simp only [List.mem_cons, exists_eq_or_imp, hnot, false_or]
        refine exists_congr fun b => and_congr_right fun _ => ?_
        exact renewable_unmoved hunmoved (fun id response h => attempts_cloud h) hnot b
      have hreturns (outcome : RefreshOutcome) : x.Returns sha256 s verify a outcome →
          x.Renewable sha256 s a ∧ outcome.grant.isUsableAt (a.sampled outcome) = true := by
        rintro ⟨w, hrun⟩
        unfold wp at hwp
        rw [hrun] at hwp
        exact hwp
      unfold Renewal.Recovers
      by_cases hrenewable : x.Renewable sha256 s a
      · refine ⟨fun _ => ⟨a, List.mem_cons_self, hrenewable⟩, fun _ => .inl ?_⟩
        unfold wp at hwp
        split at hwp
        · next outcome w hrun => exact ⟨outcome, ⟨w, hrun⟩, hwp.2⟩
        · exact absurd hrenewable hwp.1
        · exact absurd hrenewable hwp.1
      · refine Iff.trans (or_iff_right ?_) (hrest hrenewable ?_)
        · rintro ⟨outcome, hrun, _⟩
          exact hrenewable (hreturns outcome hrun).1
        · show Unmoved sha256 s x.store (x.store.refresh sha256 (a.call s verify x.cloud))
          unfold GrantStore.refresh
          unfold wp at hwp
          cases hrun : refreshWithClock sha256 (a.call s verify x.cloud) x.store with
          | mk outcome w =>
            rw [hrun] at hwp
            cases outcome with
            | ok outcome => exact absurd hwp.1 hrenewable
            | err e => exact ⟨hwp.2.active, hwp.2.completed, hwp.2.revoked, hwp.2.next⟩
            | crash => exact hwp.2

/-! ## What is returned -/

/-- The fetch fails, and the cached grant, usable before it and due for renewal, has expired
after it. The rest says that the call gets as far as the fetch. -/
def Renewal.Lapses (sha256 : Bytes → String) (s : GrantSubject) (x : Renewal) (a : Attempt) :
    Prop :=
  (a.way = .lost ∨ a.way = .replyLost) ∧ a.reads = true
    ∧ ((x.state sha256 s).pending.isSome = true
      ∨ ((x.state sha256 s).completedSequence + 1 < 2 ^ 64 ∧ a.firstWrite = .done))
    ∧ ∃ g, (x.state sha256 s).usable a.now = some g ∧ g.shouldRefreshAt a.now = true
      ∧ g.expiresAtUnix ≤ a.validationNow

theorem fromResponse_unexpired {n now : ℕ} {g : CachedGrant}
    (h : CachedGrant.fromResponse sha256 s n id response report now = .ok g) :
    now < g.expiresAtUnix := by
  unfold CachedGrant.fromResponse at h
  obtain ⟨_, _, h⟩ := bind_eq_ok h
  obtain ⟨expected, _, h⟩ := bind_eq_ok h
  split at h
  · cases h
  obtain ⟨_, _, h⟩ := bind_eq_ok h
  obtain ⟨_, hverified, h⟩ := bind_eq_ok h
  cases h
  exact (validateVerifiedGrant_eq_ok.mp hverified).2.2.2.2.2.1

/-- Every accepted grant is unexpired at the clock sampled after the fetch. -/
theorem acceptResponse_unexpired :
    Triple (fun _ => True) (acceptResponse sha256 call st p response)
      (fun outcome _ => ∃ g now, outcome = .refreshed g ∧ call.validationNow = some now
        ∧ now < g.expiresAtUnix) (fun _ _ => True) (fun _ => True) := by
  unfold acceptResponse
  refine withFailure_lift (fun _ _ => ?_) fun _ _ => trivial
  refine withFailure_ensure (fun _ => ?_) fun _ _ => trivial
  refine withFailure_lift (fun verification _ => ?_) fun _ _ => trivial
  refine withFailure_ensure (fun _ => ?_) fun _ _ => trivial
  refine .okOr_bind (fun now hnow => ?_) fun _ _ => trivial
  refine .lift_bind (fun grant hgrant => ?_) fun _ _ _ => trivial
  refine withFailure_bind (Q := fun _ _ => True) ?_ fun _ => ?_
  · unfold storeState
    refine .lift_bind (fun _ _ => ?_) fun _ _ _ => trivial
    refine .lift_bind (fun path _ => ?_) fun _ _ _ => trivial
    exact .durable (fun _ _ => trivial) (fun _ _ => ⟨trivial, trivial⟩)
      fun _ _ => ⟨trivial, trivial⟩
  · exact .pure fun _ _ => ⟨grant, now, rfl, hnow, fromResponse_unexpired hgrant⟩

/-- A pending issuance that is durable was there, or was written. -/
theorem ensurePending_durable :
    Triple (fun _ => True) (ensurePending sha256 call st)
      (fun st' _ => st'.active = st.active ∧ st'.revokedAtUnix = st.revokedAtUnix
        ∧ (st.pending.isSome = true
          ∨ (st.completedSequence + 1 < 2 ^ 64 ∧ call.firstWrite = .done)))
      (fun _ _ => True) (fun _ => True) := by
  unfold ensurePending
  refine .ite (fun _ => ?_) fun hsome => ?_
  · refine .lift_bind (fun sequence hsequence => ?_) fun _ _ _ => trivial
    have hbound : st.completedSequence + 1 < 2 ^ 64 := by
      unfold checkedSucc at hsequence
      split at hsequence
      · assumption
      · cases hsequence
    refine .lift_bind (fun requestId _ => ?_) fun _ _ _ => trivial
    refine withFailure_bind (Q := fun _ _ => call.firstWrite = .done) ?_ fun _ => ?_
    · unfold storeState
      refine .lift_bind (fun _ _ => ?_) fun _ _ _ => trivial
      refine .lift_bind (fun path _ => ?_) fun _ _ _ => trivial
      intro w _
      cases call.firstWrite with
      | done => rfl
      | failed landed => trivial
      | killed landed => trivial
    · exact .pure fun _ hdone => ⟨rfl, rfl, .inr ⟨hbound, hdone⟩⟩
  · refine .pure fun _ _ => ⟨rfl, rfl, .inl ?_⟩
    simpa [Option.isSome_iff_ne_none] using hsome

omit [Base64] in
theorem fetchGrant_answers :
    Triple (fun _ => True) (fetchGrant call id)
      (fun fetched _ => call.fetch (.new call.subject id) = fetched) (fun _ _ => True)
      (fun _ => True) := by
  intro w _
  unfold wp fetchGrant
  cases call.fetch (.new call.subject id) <;> first | rfl | trivial

omit [Base64] in
/-- Only a lost request or a lost reply is a transient failure. -/
theorem fetch_transient {request : GrantIssueRequest} {error : GrantError}
    (h : a.fetch x.cloud request = .transient error) : a.way = .lost ∨ a.way = .replyLost := by
  unfold Attempt.fetch at h
  cases hway : a.way with
  | lost => exact .inl rfl
  | replyLost => exact .inr rfl
  | killed reached =>
    rw [hway] at h
    cases h
  | answered =>
    rw [hway] at h
    cases h
  | denied =>
    rw [hway] at h
    cases h
  | resync =>
    rw [hway] at h
    cases h

/-- A denial returns no grant. -/
theorem settleFetch_denied {error : GrantError} :
    Triple (fun _ => True) (settleFetch sha256 call st p (.denied error)) Q (fun _ _ => True)
      (fun _ => True) := by
  unfold settleFetch
  refine withFailure_bind (Q := fun _ _ => True) ?_ fun _ => .fail fun _ _ => trivial
  unfold storeState
  refine .lift_bind (fun _ _ => ?_) fun _ _ _ => trivial
  refine .lift_bind (fun path _ => ?_) fun _ _ _ => trivial
  exact .durable (fun _ _ => trivial) (fun _ _ => ⟨trivial, trivial⟩) fun _ _ => ⟨trivial, trivial⟩

/-- The branch that asks Cloud, for any attempt. -/
theorem renewGrant_unexpired (hst : x.state sha256 s = st)
    (hcurrent : (st.usable a.now).filter (!·.shouldRefreshAt a.now) = none)
    (hreads : a.reads = true) :
    Triple (fun _ => True) (renewGrant sha256 (a.call s verify x.cloud) st)
      (fun outcome _ => a.sampled outcome < outcome.grant.expiresAtUnix ∨ x.Lapses sha256 s a)
      (fun _ _ => True) (fun _ => True) := by
  unfold renewGrant
  refine ensurePending_durable.bind fun st' => ?_
  intro w ⟨hactive, hrevoked, hdurable⟩
  refine Triple.pre (P := fun _ => True) ?_ (fun _ h => h) w trivial
  refine .okOr_bind (fun p _ => ?_) fun _ _ => trivial
  refine fetchGrant_answers.bind fun fetched => ?_
  intro w hfetch
  refine Triple.pre (P := fun _ => True) ?_ (fun _ h => h) w trivial
  cases fetched with
  | killed => exact .fail fun _ _ => trivial
  | policyResyncRequired => exact .fail fun _ _ => trivial
  | denied error => exact settleFetch_denied
  | response response =>
    refine acceptResponse_unexpired.post ?_
    rintro outcome w' ⟨g, now, rfl, hnow, hlt⟩
    change (if a.clockWorks then some a.validationNow else none) = some now at hnow
    split at hnow
    · cases hnow
      exact .inl hlt
    · cases hnow
  | transient error =>
    refine .okOr_bind (fun g hg => ?_) fun _ _ => trivial
    have husable : st.usable a.now = some g := by
      unfold GrantState.usable at hg ⊢
      rw [← hactive, ← hrevoked]
      exact hg
    refine .pure fun _ _ => ?_
    show a.validationNow < g.expiresAtUnix ∨ _
    by_cases hlt : a.validationNow < g.expiresAtUnix
    · exact .inl hlt
    · right
      refine ⟨fetch_transient hfetch, hreads, ?_, g, ?_, ?_, by omega⟩
      · rw [hst]
        exact hdurable
      · rw [hst]
        exact husable
      · rw [husable] at hcurrent
        simpa [Option.filter] using hcurrent

/-- A call whose file cannot be read returns nothing. -/
theorem refreshWithClock_unread (hreads : call.reads = false) :
    Triple (fun _ => True) (refreshWithClock sha256 call) Q (fun _ _ => True) (fun _ => True) := by
  unfold refreshWithClock
  refine withFailure_lift (fun _ _ => ?_) fun _ _ => trivial
  refine withFailure_bind (Q := fun _ _ => False) ?_ fun _ _ h => h.elim
  unfold loadState
  refine .lift_bind (fun path _ => ?_) fun _ _ _ => trivial
  refine .ensure_bind (fun h => ?_) fun _ _ => trivial
  rw [hreads] at h
  cases h

/-- A call for a revoked subject returns nothing. -/
theorem refreshWithClock_revoked {w : GrantStore}
    (hrevoked : ((w.file sha256 call.subject).getD (.new call.subject)).revokedAtUnix ≠ none) :
    wp (refreshWithClock sha256 call) Q (fun _ _ => True) (fun _ => True) w := by
  refine Triple.pre (P := fun w' => True ∧ w'.file sha256 call.subject
    = w.file sha256 call.subject) ?_ (fun _ h => h) w ⟨trivial, rfl⟩
  unfold refreshWithClock
  refine withFailure_lift (fun _ _ => ?_) fun _ _ => trivial
  refine withFailure_bind loadState_reads fun loaded => ?_
  intro w' ⟨_, hloaded, _⟩
  subst hloaded
  refine Triple.pre (P := fun _ => True) ?_ (fun _ h => h) w' trivial
  refine .ensure_bind (fun h => absurd h hrevoked) fun _ _ => trivial

/-- Without the lapse, what an attempt returns is unexpired. -/
theorem returns_unexpired (hx : Sane sha256 s verify x) (hv : s.isValid = true)
    (hnot : ¬ x.Lapses sha256 s a) {outcome : RefreshOutcome}
    (hreturns : x.Returns sha256 s verify a outcome) :
    a.sampled outcome < outcome.grant.expiresAtUnix := by
  have hwp : wp (refreshWithClock sha256 (a.call s verify x.cloud))
      (fun outcome _ => a.sampled outcome < outcome.grant.expiresAtUnix)
      (fun _ _ => True) (fun _ => True) x.store := by
    by_cases hreads : a.reads = true
    · by_cases hrevoked : (x.state sha256 s).revokedAtUnix = none
      · rw [refreshWithClock_wp (a.call s verify x.cloud) hv hreads (hx.valid hv) rfl hrevoked]
        show match ((x.state sha256 s).usable a.now).filter (!·.shouldRefreshAt a.now) with
          | some grant => _
          | none => _
        cases hcurrent : ((x.state sha256 s).usable a.now).filter (!·.shouldRefreshAt a.now) with
        | some grant =>
          have husable := usable_isUsableAt (Option.filter_eq_some_iff.mp hcurrent).1
          simp only [CachedGrant.isUsableAt, Bool.and_eq_true, decide_eq_true_eq] at husable
          exact husable.1.2
        | none =>
          refine wp_mono (renewGrant_unexpired rfl hcurrent hreads x.store trivial) ?_
            (fun _ _ h => h) (fun _ h => h)
          intro outcome _ h
          exact h.resolve_right hnot
      · exact refreshWithClock_revoked hrevoked
    · have hunread : a.reads = false := by simpa using hreads
      exact refreshWithClock_unread hunread x.store trivial
  obtain ⟨w, hrun⟩ := hreturns
  unfold wp at hwp
  rw [hrun] at hwp
  exact hwp

/-- With the lapse, the attempt returns the grant that has expired. -/
theorem lapses_returns (hx : Sane sha256 s verify x) (hv : s.isValid = true)
    (hhex : HexDigests sha256 s) (h : x.Lapses sha256 s a) :
    ∃ outcome, x.Returns sha256 s verify a outcome
      ∧ ¬ a.sampled outcome < outcome.grant.expiresAtUnix := by
  obtain ⟨hway, hreads, hdurable, g, husable, hrefresh, hexpired⟩ := h
  have hvalid := hx.state_valid hv
  have hrevoked : (x.state sha256 s).revokedAtUnix = none := by
    unfold GrantState.usable at husable
    split at husable
    · cases husable
    · next hnot => simpa using hnot
  have hcurrent : ((x.state sha256 s).usable a.now).filter (!·.shouldRefreshAt a.now) = none := by
    rw [husable]
    simp [Option.filter, hrefresh]
  have hbound : (x.state sha256 s).completedSequence + 1 < 2 ^ 64 := by
    rcases hdurable with hsome | ⟨hbound, _⟩
    · obtain ⟨p, hp⟩ := Option.isSome_iff_exists.mp hsome
      obtain ⟨hsequence, hlt, _⟩ := validateFor_pending hvalid hp
      omega
    · exact hbound
  have hfirst : (x.state sha256 s).pending = none → a.firstWrite = .done := by
    intro hnone
    rcases hdurable with hsome | ⟨_, hdone⟩
    · rw [hnone] at hsome
      cases hsome
    · exact hdone
  obtain ⟨st', p, w', hprepared, _, hp, _⟩ := ensurePending_eq (a.call s verify x.cloud) hv hhex
    hvalid hrevoked hbound rfl hfirst
  have hfetch : (a.call s verify x.cloud).fetch (.new s p.requestId)
      = .transient (failure "grant_http_request" "grant_transport_failed") := by
    show a.fetch x.cloud _ = _
    unfold Attempt.fetch
    rcases hway with hway | hway <;> rw [hway]
  have husable' : st'.usable a.now = some g := by
    unfold GrantState.usable at husable ⊢
    rw [hp.active, hp.revoked]
    rw [hrevoked] at husable
    exact husable
  have hwp : wp (refreshWithClock sha256 (a.call s verify x.cloud))
      (fun outcome _ => ¬ a.sampled outcome < outcome.grant.expiresAtUnix)
      (fun _ _ => False) (fun _ => False) x.store := by
    rw [refreshWithClock_wp (a.call s verify x.cloud) hv hreads (hx.valid hv) rfl hrevoked]
    show match ((x.state sha256 s).usable a.now).filter (!·.shouldRefreshAt a.now) with
      | some grant => _
      | none => _
    rw [hcurrent]
    show wp (renewGrant sha256 _ (x.state sha256 s)) _ _ _ _
    rw [renewGrant_wp hprepared hp.pending hfetch nofun]
    show wp (okOr (st'.usable a.now) _ >>= _) _ _ _ _
    rw [husable']
    show ¬ a.validationNow < g.expiresAtUnix
    omega
  obtain ⟨outcome, w, hrun, hlapsed⟩ := (succeeds_iff _).mp hwp
  exact ⟨outcome, ⟨w, hrun⟩, hlapsed⟩

theorem unexpired_iff (hx : Sane sha256 s verify x) (hv : s.isValid = true)
    (hhex : HexDigests sha256 s) :
    (∀ outcome, x.Returns sha256 s verify a outcome →
        a.sampled outcome < outcome.grant.expiresAtUnix)
      ↔ ¬ x.Lapses sha256 s a := by
  constructor
  · intro hall hlapses
    obtain ⟨outcome, hreturns, hnot⟩ := lapses_returns hx hv hhex hlapses
    exact hnot (hall outcome hreturns)
  · intro hnot outcome
    exact returns_unexpired hx hv hnot

end Attempts

/-! ## The results -/

/-- Renewal over any history of lost requests, lost replies, kills, denials and write errors. In a
state that is not revoked, attempts whose fetches all succeed come to a usable grant exactly if one
of them finds the cached grant good enough, or the next sequence free and no expired response that
Cloud has produced for the request id already. And the grants an attempt returns are unexpired at
the clock sampled last exactly if the cached grant does not lapse in a fetch that fails. -/
theorem renewal_recovers (hv : s.isValid = true) (hhex : HexDigests sha256 s) (x : Renewal)
    (hx : Reached sha256 s verify x) :
    ((x.state sha256 s).revokedAtUnix = none → ∀ as, Further s verify x.clock as →
        (x.Recovers sha256 s verify as ↔ ∃ a ∈ as, x.Renewable sha256 s a))
      ∧ ∀ a, x.clock ≤ a.now → a.now ≤ a.validationNow →
        ((∀ outcome, x.Returns sha256 s verify a outcome →
            a.sampled outcome < outcome.grant.expiresAtUnix)
          ↔ ¬ x.Lapses sha256 s a) := by
  have hsane := reached_sane hx
  refine ⟨fun hrevoked as has => ?_, fun a _ _ => ?_⟩
  · exact recovers_iff hv hhex hsane hrevoked has
  · exact unexpired_iff hsane hv hhex

end

/-- The digests of the first requests of `oneSubject`; any other digest is left at zero. -/
def oneHex : Bytes → String :=
  oneDigestOr "0000000000000000000000000000000000000000000000000000000000000000"

theorem oneHex_hexDigests (s : GrantSubject) : HexDigests oneHex s := by
  intro n
  unfold oneHex oneDigestOr
  split_ifs <;> decide

def oneVerify (_ : String) : Except GrantError VerifiedGrantReport := .ok oneReport

/-- An attempt in which everything but the fetch works. -/
def oneAttempt (now validationNow : ℕ) (way : Way) : Attempt where
  now
  validationNow
  response := oneResponse
  way
  reads := true
  stages := true
  cleansUp := true
  clockWorks := true
  firstWrite := .done
  lastWrite := .done

theorem oneResponse_bound {t : ℕ} (h : 900 ≤ t) (hlt : t < 2000) :
    Bound oneSubject oneVerify oneResponse t := by
  have hfirst : Bound oneSubject oneVerify oneResponse 900 := ⟨rfl, oneReport, rfl, rfl⟩
  exact (hfirst.later h).mpr hlt

/-- The state after one attempt from the start. -/
def oneStart (way : Way) : Renewal :=
  Renewal.attempts oneHex oneSubject oneVerify ⟨.empty, fun _ => none, 0⟩
    (oneAttempt 1000 1000 way)

theorem oneStart_reached (way : Way) : Reached oneHex oneSubject oneVerify (oneStart way) :=
  .attempts .start (Nat.zero_le _) le_rfl fun _ =>
    oneResponse_bound (by decide : 900 ≤ 1000) (by decide : 1000 < 2000)

/-- Cloud has produced one response at most. -/
theorem oneStart_cloud {way : Way} (h : (oneStart way).cloud id = some response) :
    response = oneResponse := by
  change (if way.reaches && _ then some oneResponse else none) = some response at h
  split at h
  · exact (Option.some.inj h).symm
  · cases h

/-- The reply is lost, and the next call gets it again in time. The grant is still good for the
call after that, whose fetch does not lapse either. -/
theorem renewal_recovers_lost_reply :
    Renewal.Recovers oneHex oneSubject oneVerify (oneStart .replyLost)
        [oneAttempt 1200 1200 .answered]
      ∧ ∀ outcome, Renewal.Returns oneHex oneSubject oneVerify (oneStart .answered)
          (oneAttempt 1600 1700 .lost) outcome →
        (oneAttempt 1600 1700 .lost).sampled outcome < outcome.grant.expiresAtUnix := by
  have hlost := renewal_recovers (by decide) (oneHex_hexDigests _) _
    (oneStart_reached .replyLost)
  have hanswered := renewal_recovers (by decide +kernel) (oneHex_hexDigests _) _
    (oneStart_reached .answered)
  constructor
  · refine (hlost.1 (by decide +kernel) _ ?_).mpr ?_
    · exact .cons (by decide) le_rfl (by decide) (oneResponse_bound (by decide) (by decide)) .nil
    · refine ⟨_, List.mem_cons_self, .inr ⟨by decide +kernel, fun id response _ hold => ?_⟩⟩
      rw [oneStart_cloud hold]
      decide
  · refine (hanswered.2 _ (by decide) (by decide)).mpr ?_
    rintro ⟨_, _, _, g, husable, _, hexpired⟩
    have hsome : ((oneStart .answered).state oneHex oneSubject).usable 1600 = some g := husable
    have hexpires : (((oneStart .answered).state oneHex oneSubject).usable 1600).all
        (1700 < ·.expiresAtUnix) = true := by decide +kernel
    rw [hsome] at hexpires
    simp only [Option.all_some, decide_eq_true_eq] at hexpires
    have hle : g.expiresAtUnix ≤ 1700 := hexpired
    omega

/-- The reply is lost and the synchronizer is back after the grant has expired. -/
def oneWedged : Renewal :=
  (oneStart .replyLost).attempts oneHex oneSubject oneVerify (oneAttempt 3000 3000 .lost)

/-- From the wedged state on, no attempt is renewable. -/
theorem oneWedged_not_renewable {a : Attempt} (hafter : 3000 ≤ a.validationNow) :
    ¬ oneWedged.Renewable oneHex oneSubject a := by
  have hactive : (oneWedged.state oneHex oneSubject).active = none := by decide +kernel
  rintro (hcurrent | ⟨_, hall⟩)
  · unfold GrantState.usable at hcurrent
    rw [hactive] at hcurrent
    simp at hcurrent
  · have hlt := hall
      "sdwan-v2-84606c7c9d1c303a9b10e0db2bc22d5790e6bbeea1510cd4d1f45f1186ce82d4" oneResponse
      (by decide +kernel) (by decide +kernel)
    have hexpires : oneResponse.expiresAtUnix = 2000 := rfl
    omega

theorem further_after {t : ℕ} {as : List Attempt} (h : Further s verify t as) {a : Attempt}
    (ha : a ∈ as) : t ≤ a.validationNow := by
  induction h with
  | nil => cases ha
  | cons hnow hafter _ _ _ ih =>
    rcases List.mem_cons.mp ha with rfl | hrest
    · exact hnow.trans hafter
    · exact (hnow.trans hafter).trans (ih hrest)

/-- No number of calls helps once the grant of a lost reply has expired, and a grant that is
retained after a failed fetch may have expired in it. -/
theorem renewal_wedged :
    (Reached oneHex oneSubject oneVerify oneWedged
      ∧ (oneWedged.state oneHex oneSubject).revokedAtUnix = none
      ∧ ∀ as, Further oneSubject oneVerify oneWedged.clock as →
        ¬ oneWedged.Recovers oneHex oneSubject oneVerify as)
    ∧ (Reached oneHex oneSubject oneVerify (oneStart .answered)
      ∧ ∃ outcome, (oneStart .answered).Returns oneHex oneSubject oneVerify
          (oneAttempt 1600 2500 .lost) outcome
        ∧ ¬ (oneAttempt 1600 2500 .lost).sampled outcome < outcome.grant.expiresAtUnix) := by
  have hv : oneSubject.isValid = true := by decide +kernel
  have hreached : Reached oneHex oneSubject oneVerify oneWedged :=
    .attempts (oneStart_reached .replyLost) (by decide) le_rfl nofun
  have hrevoked : (oneWedged.state oneHex oneSubject).revokedAtUnix = none := by decide +kernel
  refine ⟨⟨hreached, hrevoked, fun as has hrecovers => ?_⟩, oneStart_reached .answered, ?_⟩
  · rw [recovers_iff hv (oneHex_hexDigests _) (reached_sane hreached) hrevoked has] at hrecovers
    obtain ⟨a, ha, hrenewable⟩ := hrecovers
    exact oneWedged_not_renewable (further_after has ha) hrenewable
  · refine lapses_returns (reached_sane (oneStart_reached .answered)) hv (oneHex_hexDigests _) ?_
    refine ⟨.inl rfl, rfl, .inr ⟨by decide +kernel, rfl⟩, ?_⟩
    have husable : (((oneStart .answered).state oneHex oneSubject).usable 1600).any
        (fun g => g.shouldRefreshAt 1600 && g.expiresAtUnix ≤ 2500) = true := by decide +kernel
    obtain ⟨g, hg, hchecks⟩ := (Option.any_eq_true _ _).mp husable
    simp only [Bool.and_eq_true, decide_eq_true_eq] at hchecks
    exact ⟨g, hg, hchecks.1, hchecks.2⟩

end CandyRuntime.CloudSync
