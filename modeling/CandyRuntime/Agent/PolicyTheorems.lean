import CandyRuntime.Agent.ManagedPolicy
import CandyRuntime.Lib.Success
import CandyRuntime.Tunio.ReplayTheorems

/-!
# When a policy intent ends with its owner

An intent whose owner netd reports as revoked and past its deadline should be given up: the
evidence is written and `policy-update.json` is removed. The branch that does this stands behind
two checks of the TUNIO authority that were made for a live owner, and `policy_intent_resolves`
says exactly when it is reached.
-/

namespace CandyRuntime.Agent

open Lib Lib.Proc NetdProto NetdV2
  Tunio

variable {E : ℕ → Call} {h : Host}

/-! ## Calls -/

section Calls

variable {α : Type} {Q : α → Host → Prop} {R : Unit → Host → Prop} {e : String}

/-- The host after one more call. -/
def Host.next (h : Host) : Host := { h with clock := h.clock + 1 }

@[simp] theorem Host.next_disk : h.next.disk = h.disk := rfl

@[simp] theorem Host.next_clock : h.next.clock = h.clock + 1 := rfl

@[simp] theorem Host.sees_disk (event : Observation) : (h.sees event).disk = h.disk := rfl

@[simp] theorem Host.sees_clock (event : Observation) : (h.sees event).clock = h.clock := rfl

@[simp] theorem succeeds_calling (f : Call → Option α) :
    Succeeds (calling E f e) Q h ↔ ∃ a, f (E h.clock) = some a ∧ Q a h.next := by
  unfold Succeeds wp calling
  cases hf : f (E h.clock) with
  | none => simp
  | some a => simp [Host.next]

@[simp] theorem succeeds_works :
    Succeeds (works E e) R h ↔ (E h.clock).works = true ∧ R () h.next := by
  unfold works
  rw [succeeds_calling]
  cases (E h.clock).works with
  | false => simp
  | true => exact ⟨fun ⟨_, _, hR⟩ => ⟨rfl, hR⟩, fun ⟨_, hR⟩ => ⟨(), rfl, hR⟩⟩

@[simp] theorem succeeds_writing (f : Disk → Disk) :
    Succeeds (writing E f e) R h
      ↔ (E h.clock).works = true ∧ R () { h with disk := f h.disk, clock := h.clock + 1 } := by
  unfold Succeeds wp writing
  by_cases hw : (E h.clock).works = true
  · simp [hw]
  · simp [hw]

end Calls

/-! ## The intent -/

/-- The call returns `Ok(false)` and the intent is gone. -/
def Resolves (m : Ctl Bool) (h : Host) : Prop :=
  Succeeds m (fun applied h' => applied = false ∧ h'.disk.policyUpdate = none) h

/-- What netd reports of a revoked owner that has no candidate and no pending policy. -/
structure RevokedReport where
  owner : ForwardOwner
  lastFencingToken : ℕ
  failureRevision : ℕ
  failedPrefixes : List Ipv4Prefix
  pendingFailureRevision : Option ℕ
  pendingFailedPrefixes : Option (List Ipv4Prefix)
  activePolicyRevision : ℕ
  activePolicyGeneration : Option ℕ
  activePolicyHash : Option String
deriving DecidableEq, Repr

def RevokedReport.body (r : RevokedReport) : Body :=
  .forwardStatus (some r.owner) (some .revoked) none r.lastFencingToken r.failureRevision
    r.failedPrefixes r.pendingFailureRevision r.pendingFailedPrefixes r.activePolicyRevision
    r.activePolicyGeneration r.activePolicyHash none

/-- The situation: an intent with a signed authority, of the recorded worker, and netd has its
physical owner as revoked and past a deadline. The calls of `try_update` on the way there are
the lock (three), the file and its content, the snapshot, the status of the worker, netd and
the clock. -/
structure RevokedIntent (E : ℕ → Call) (h : Host) (record : ManagedProcessRecord)
    (journal : PolicyJournal) (authority : AuthorityProof) (report : RevokedReport) : Prop where
  intent : h.disk.policyUpdate = some journal
  schema : journal.schemaVersion = 1
  signed : journal.plan.authority = some authority
  worker : record.identity = journal.worker.identity
  physical : samePhysicalOwner journal.owner report.owner = true
  netd : (E (h.clock + 7)).netd = some (report.body, false)
  expired : ∃ now, (E (h.clock + 8)).mono = some now
    ∧ (report.owner.leaseDeadlineMonoMs ≤ now ∨ report.owner.authDeadlineMonoMs ≤ now)

/-- TUNIO still has the signed authority of the intent as the applied one, and nothing newer. -/
structure StillApplied (journal : PolicyJournal) (authority : AuthorityProof)
    (actual : AuthorityControlResponse) : Prop where
  underway : noneUnderway actual = true
  revision : revisionKnown actual = true
  binding : bindingMatches journal.plan actual.currentBinding = true
  applied : actual.appliedTransactionId = some authority.transactionId
    ∧ actual.authorityRevision = some authority.revision
  active : ∃ active, actual.active = some active ∧ active.signedControlHash = authority.sha256
    ∧ active.candidate = journal.worker.identity ∧ active.binding = actual.currentBinding

/-- The status file of the worker is still the one of the intent's owner. -/
def StatusStands (journal : PolicyJournal) (authority : AuthorityProof)
    (binding : PacketPortBinding) (status : WorkerStatus) : Prop :=
  statusMatches journal.plan journal.worker binding status = true
    ∧ status.workerAuthorityRevision = some authority.revision
    ∧ status.workerAuthoritySha256 = some authority.sha256
    ∧ status.workerTransactionId = some authority.transactionId

/-- The lock, the files and the clock work. -/
structure FilesWork (E : ℕ → Call) (n : ℕ) : Prop where
  lock : (E n).works = true ∧ (E (n + 1)).works = true ∧ (E (n + 2)).works = true
  journal : (E (n + 3)).works = true ∧ (E (n + 4)).works = true
  snapshot : (E (n + 5)).works = true
  clock : (E (n + 9)).mono.isSome = true
  terminal : (E (n + 10)).works = true
  removal : (E (n + 11)).works = true ∧ (E (n + 12)).works = true

/-- What the terminal branch asks for besides the situation itself. -/
structure Reached (E : ℕ → Call) (h : Host) (desired current : Plan)
    (actual : AuthorityControlResponse) (journal : PolicyJournal) (authority : AuthorityProof)
    (report : RevokedReport) : Prop where
  files : FilesWork E h.clock
  scope : desired.independentWorker.isSome = true ∧ current.domainId = journal.plan.domainId
    ∧ current.infrastructure = journal.plan.infrastructure
  tunio : StillApplied journal authority actual
  status : ∃ status, (E (h.clock + 6)).status = some status
    ∧ StatusStands journal authority actual.currentBinding status
  fence : report.lastFencingToken = report.owner.fencingToken
  failures : report.pendingFailureRevision = none ∧ report.pendingFailedPrefixes = none

/-! ## The way to the terminal branch -/

section Way

variable {plan : Plan} {record : ManagedProcessRecord} {actual : AuthorityControlResponse}
  {authority : AuthorityProof} {journal : PolicyJournal} {report : RevokedReport}

/-- With a signed plan TUNIO has to have an active authority. -/
theorem checkAuthority_signed {status : WorkerStatus} {Q : Unit → Host → Prop}
    (hs : plan.authority = some authority) :
    Succeeds (checkAuthority plan record actual status) Q h
      ↔ (∃ active, actual.active = some active
          ∧ signedOwnerMatches authority active record actual status = true) ∧ Q () h := by
  unfold checkAuthority
  rw [hs]
  cases actual.active with
  | none => simp
  | some active => simp

theorem validateOwner_ended {Q : Unit → Host → Prop} (hs : plan.authority = some authority) :
    Succeeds (validateOwner E plan record actual false) Q h
      ↔ noneUnderway actual = true ∧ revisionKnown actual = true
        ∧ bindingMatches plan actual.currentBinding = true
        ∧ ∃ status, (E h.clock).status = some status
          ∧ statusMatches plan record actual.currentBinding status = true
          ∧ (∃ active, actual.active = some active
            ∧ signedOwnerMatches authority active record actual status = true) ∧ Q () h.next := by
  unfold validateOwner
  simp [privateStatus, checkAuthority_signed hs]

theorem reconcileLease_revoked {Q : Option Body × PolicyJournal → Host → Prop}
    (hnetd : (E h.clock).netd = some (report.body, false))
    (hphysical : samePhysicalOwner journal.owner report.owner = true)
    (hexpired : ∃ now, (E (h.clock + 1)).mono = some now
      ∧ (report.owner.leaseDeadlineMonoMs ≤ now ∨ report.owner.authDeadlineMonoMs ≤ now)) :
    Succeeds (reconcileLease E journal) Q h
      ↔ report.pendingFailureRevision = none ∧ report.pendingFailedPrefixes = none
        ∧ report.lastFencingToken = report.owner.fencingToken
        ∧ Q (some report.body, journal) (h.sees (.sent .forwardStatus)).next.next := by
  obtain ⟨now, hnow, hlate⟩ := hexpired
  unfold reconcileLease netdExchange
  rw [succeeds_bind, succeeds_bind, succeeds_modify, succeeds_calling]
  simp only [hnetd, Host.sees_clock, Option.some.injEq, exists_eq_left']
  unfold RevokedReport.body
  -- A pending update of failed prefixes is no pattern of the source.
  cases report.pendingFailureRevision with
  | some _ => simp
  | none =>
    cases report.pendingFailedPrefixes with
    | some _ => simp
    | none => simp [agentMonotonicMs, hnow, hphysical, hlate]

/-- The evidence is written and the intent is removed. -/
theorem retireIntent_resolves {status : Body} {Q : Unit → Host → Prop}
    (hQ : ∀ h', Q () h' ↔ h'.disk.policyUpdate = none) :
    Succeeds (retireIntent E journal actual status) Q h
      ↔ (E h.clock).mono.isSome = true ∧ (E (h.clock + 1)).works = true
        ∧ (E (h.clock + 2)).works = true ∧ (E (h.clock + 3)).works = true := by
  unfold retireIntent removeJournal
  simp [agentMonotonicMs, Option.isSome_iff_exists, hQ]

theorem signedOwnerMatches_iff {active : AuthorityEnvelope} {status : WorkerStatus} :
    signedOwnerMatches authority active record actual status = true
      ↔ (actual.appliedTransactionId = some authority.transactionId
          ∧ actual.authorityRevision = some authority.revision)
        ∧ (active.signedControlHash = authority.sha256 ∧ active.candidate = record.identity
          ∧ active.binding = actual.currentBinding)
        ∧ status.workerAuthorityRevision = some authority.revision
        ∧ status.workerAuthoritySha256 = some authority.sha256
        ∧ status.workerTransactionId = some authority.transactionId := by
  unfold signedOwnerMatches
  simp only [Bool.and_eq_true, decide_eq_true_eq]
  tauto

/-- The check of the intent repeats a part of the one of its owner. -/
theorem bindingMatches_fields {binding : PacketPortBinding}
    (hb : bindingMatches plan binding = true) :
    binding.ownerEpoch = plan.workerEpoch
      ∧ binding.policyGeneration = bindingPolicyGeneration plan ∧ binding.ioEpoch = plan.ioEpoch
      ∧ binding.routingDomainId = plan.domainId := by
  unfold bindingMatches at hb
  simp only [Bool.and_eq_true, decide_eq_true_eq] at hb
  tauto

/-- The second half of `try_update`, from a host that has the intent in its hands. -/
theorem resumeIntent_resolves (current : Plan) (actual : AuthorityControlResponse)
    (hsigned : journal.plan.authority = some authority)
    (hworker : record.identity = journal.worker.identity)
    (hnetd : (E (h.clock + 2)).netd = some (report.body, false))
    (hphysical : samePhysicalOwner journal.owner report.owner = true)
    (hexpired : ∃ now, (E (h.clock + 3)).mono = some now
      ∧ (report.owner.leaseDeadlineMonoMs ≤ now ∨ report.owner.authDeadlineMonoMs ≤ now)) :
    Resolves (resumeIntent E current record actual journal) h
      ↔ (E h.clock).works = true
        ∧ (current.domainId = journal.plan.domainId
          ∧ current.infrastructure = journal.plan.infrastructure)
        ∧ StillApplied journal authority actual
        ∧ (∃ status, (E (h.clock + 1)).status = some status
          ∧ StatusStands journal authority actual.currentBinding status)
        ∧ report.lastFencingToken = report.owner.fencingToken
        ∧ (report.pendingFailureRevision = none ∧ report.pendingFailedPrefixes = none)
        ∧ (E (h.clock + 4)).mono.isSome = true ∧ (E (h.clock + 5)).works = true
        ∧ (E (h.clock + 6)).works = true ∧ (E (h.clock + 7)).works = true := by
  have hlease {Q : Option Body × PolicyJournal → Host → Prop} :
      Succeeds (reconcileLease E journal) Q h.next.next
        ↔ report.pendingFailureRevision = none ∧ report.pendingFailedPrefixes = none
          ∧ report.lastFencingToken = report.owner.fencingToken
          ∧ Q (some report.body, journal) (h.next.next.sees (.sent .forwardStatus)).next.next :=
    reconcileLease_revoked hnetd hphysical hexpired
  have hretire : Succeeds (retireIntent E journal actual report.body)
      (fun _ => Succeeds (pure false : Ctl Bool) fun applied h' =>
        applied = false ∧ h'.disk.policyUpdate = none)
      (h.next.next.sees (.sent .forwardStatus)).next.next
      ↔ (E (h.clock + 4)).mono.isSome = true ∧ (E (h.clock + 5)).works = true
        ∧ (E (h.clock + 6)).works = true ∧ (E (h.clock + 7)).works = true :=
    retireIntent_resolves (by simp)
  unfold Resolves resumeIntent
  simp only [succeeds_bind, succeeds_works, succeeds_ensure, validateOwner_ended hsigned, hlease,
    hworker, true_and, hretire, signedOwnerMatches_iff,
    Host.next_clock]
  constructor
  · rintro ⟨hsnapshot, hscope, _, hunderway, hrevision, hbinding, status, hread, hstatus,
      ⟨active, hactive, happlied, hsigned, hworkerStatus⟩, hrevision', hprefixes, hfence, hfiles⟩
    exact ⟨hsnapshot, hscope, ⟨hunderway, hrevision, hbinding, happlied, active, hactive, hsigned⟩,
      ⟨status, hread, hstatus, hworkerStatus⟩, hfence, ⟨hrevision', hprefixes⟩, hfiles⟩
  · rintro ⟨hsnapshot, hscope, ⟨hunderway, hrevision, hbinding, happlied, active, hactive, hsigned⟩,
      ⟨status, hread, hstatus, hworkerStatus⟩, hfence, ⟨hrevision', hprefixes⟩, hfiles⟩
    exact ⟨hsnapshot, hscope, ⟨hunderway, hrevision, bindingMatches_fields hbinding⟩, hunderway,
      hrevision, hbinding, status, hread, hstatus, ⟨active, hactive, happlied, hsigned,
      hworkerStatus⟩, hrevision', hprefixes, hfence, hfiles⟩

end Way

/-- The intent of a revoked owner ends with the next call exactly if TUNIO still has its
authority as the applied one, the status file still stands, netd has seen no later fence and no
pending failure, and the files work. An intent whose authority TUNIO has cleared is kept. -/
theorem policy_intent_resolves (E : ℕ → Call) (h : Host) (desired current : Plan)
    (record : ManagedProcessRecord) (actual : AuthorityControlResponse)
    (journal : PolicyJournal) (authority : AuthorityProof) (report : RevokedReport)
    (hi : RevokedIntent E h record journal authority report) :
    Resolves (tryUpdate E desired current record actual) h
      ↔ Reached E h desired current actual journal authority report := by
  have hresume := resumeIntent_resolves (h := h.next.next.next.next.next) current actual
    hi.signed hi.worker hi.netd hi.physical hi.expired
  unfold Resolves at hresume ⊢
  unfold tryUpdate readJournal
  simp only [succeeds_bind, succeeds_ensure, succeeds_works, succeeds_get, succeeds_okOr,
    succeeds_pure, Host.next_disk, hi.intent, hi.schema, Option.isSome_some, if_true,
    Option.some.injEq, exists_eq_left', true_and, hresume, Host.next_clock]
  constructor
  · rintro ⟨hdesired, hlock, hlock', hlock'', hexists, hread, hsnapshot, ⟨hdomain, hinfra⟩,
      htunio, hstatus, hfence, hfailures, hclock, hterminal, hremoval, hsync⟩
    exact ⟨⟨⟨hlock, hlock', hlock''⟩, ⟨hexists, hread⟩, hsnapshot, hclock, hterminal,
      hremoval, hsync⟩, ⟨hdesired, hdomain, hinfra⟩, htunio, hstatus, hfence, hfailures⟩
  · rintro ⟨⟨⟨hlock, hlock', hlock''⟩, ⟨hexists, hread⟩, hsnapshot, hclock, hterminal,
      hremoval, hsync⟩, ⟨hdesired, hdomain, hinfra⟩, htunio, hstatus, hfence, hfailures⟩
    exact ⟨hdesired, hlock, hlock', hlock'', hexists, hread, hsnapshot, ⟨hdomain, hinfra⟩,
      htunio, hstatus, hfence, hfailures, hclock, hterminal, hremoval, hsync⟩

/-! ## An owner that TUNIO has cleared, and one it keeps -/

/-- The plan of the intent: the second owner of the packet device, with its signed authority. -/
def intentPlan : Plan where
  tunio := "/usr/bin/candy-tunio"
  core := "/usr/bin/candy-core"
  coreConfig := "/run/candy/policy.toml"
  infrastructure := ⟨Vector.replicate 16 1, 1, 1, 1, 167772161, 1400⟩
  domainId := Vector.replicate 16 2
  ioEpoch := 1
  workerEpoch := 2
  fencingToken := 9
  signedGeneration := 4
  bindingPolicyGeneration := some 1
  policyRevision := 1
  authDeadlineUnix := 200
  declaration := ⟨100, 167772161, 1400, [], [], ⟨true, false, true, false⟩⟩
  routingNamespace := none
  independentWorker := some "/run/candy/core-record.json"
  authority := some ⟨1, secondAuthority.signedControlHash, secondAuthority.transactionId⟩
  effectivePlanFile := some "/run/candy/new-plan.json"
  authorizationSnapshotSha256 := some "snapshot"
  pairRecovery := none
  placement := none
  sharedListener := none

def intentWorker : ManagedProcessRecord :=
  ⟨3, 1, "digest", 1, some 1, some "/run/candy/old-plan.json", some "old snapshot", 200⟩

/-- What netd has after the lease of the owner has run out. -/
def lapsedReport : RevokedReport :=
  ⟨⟨Vector.replicate 16 2, 1, 2, 9, 100000, 31000⟩, 9, 0, [], none, none, 0, none, none⟩

def policyIntent : PolicyJournal :=
  ⟨1, ⟨"/run/candy/policy.toml"⟩, intentPlan, intentWorker, lapsedReport.owner, 1⟩

/-- Calls that work, forty seconds after the boot. -/
def lateCall : Call where
  works := true
  landed := true
  unix := some 140
  mono := some 40000
  live := some false
  status := some ⟨some 3, some 3, some 1, some 200, some secondAuthority.binding, some "digest",
    some 1, some secondAuthority.signedControlHash, some secondAuthority.transactionId, some 1,
    some 0, some "old snapshot"⟩
  netd := some (lapsedReport.body, false)
  compiled _ := none
  snapshot := none
  text := ""

def intentHost : Host := ⟨⟨some policyIntent, [], [], some intentWorker⟩, 0, []⟩

theorem policyIntent_revoked :
    RevokedIntent (fun _ => lateCall) intentHost intentWorker policyIntent
      ⟨1, secondAuthority.signedControlHash, secondAuthority.transactionId⟩ lapsedReport where
  intent := rfl
  schema := rfl
  signed := rfl
  worker := rfl
  physical := by decide
  netd := rfl
  expired := ⟨40000, rfl, .inl (by decide)⟩

/-- The reply of TUNIO to a probe of the transaction. -/
def probeReply (schemaVersion : ℕ) (w : World) : Option AuthorityControlResponse :=
  match (serve (fun _ => calm) { secondRequest .probeTransaction none with schemaVersion }
    agentProcess 0 w).1 with
  | .ok reply => some reply
  | _ => none

/-- The second owner has come in by a transaction, and its worker has died. -/
def workerDied : World :=
  run (fun _ => calm) [.register, stageSecond,
      .authority (secondRequest (.prepareOwner (some 1) 20000) (some secondAuthority)) agentProcess 1,
      .authority (secondRequest .commitOwner (some secondAuthority)) agentProcess 0,
      .authority (secondRequest .finishOwnerDrain (some secondAuthority)) agentProcess 0,
      .background (.happening .ownerFailed)]
    (.start firstOrigin tunioProcess agentProcess "token")

/-- When the worker has died TUNIO answers a probe without an active authority, and the intent
of the revoked owner is kept. -/
theorem policy_intent_of_dead_worker_stays :
    RevokedIntent (fun _ => lateCall) intentHost intentWorker policyIntent
        ⟨1, secondAuthority.signedControlHash, secondAuthority.transactionId⟩ lapsedReport
      ∧ ∃ actual, probeReply 3 workerDied = some actual ∧ actual.accepted = true
        ∧ actual.active = none
        ∧ ¬ Resolves (tryUpdate (fun _ => lateCall) intentPlan intentPlan intentWorker actual)
          intentHost := by
  refine ⟨policyIntent_revoked, ?_⟩
  -- One evaluation of the run of TUNIO, and of `try_update` on its reply.
  have hreply : (probeReply 3 workerDied).any (fun actual =>
      actual.accepted && actual.active = none
        && (tryUpdate (fun _ => lateCall) intentPlan intentPlan intentWorker actual intentHost).1
          = .err "unresolved IO authority prevents policy recovery") = true := by decide
  obtain ⟨actual, hactual, hchecks⟩ := (Option.any_eq_true _ _).mp hreply
  simp only [Bool.and_eq_true, decide_eq_true_eq] at hchecks
  obtain ⟨⟨haccepted, hactive⟩, hfails⟩ := hchecks
  refine ⟨actual, hactual, haccepted, hactive, ?_⟩
  intro hresolves
  obtain ⟨_, _, heq, _⟩ := (succeeds_iff _).mp hresolves
  rw [heq] at hfails
  cases hfails

/-- The owner that was attached without a transaction and was revoked. -/
def ownerRevoked : World := step (fun _ => calm) revokeSecond secondServed

/-- An authority that TUNIO keeps as the last applied one lets the intent end. -/
theorem policy_intent_of_revoked_owner_resolves :
    RevokedIntent (fun _ => lateCall) intentHost intentWorker policyIntent
        ⟨1, secondAuthority.signedControlHash, secondAuthority.transactionId⟩ lapsedReport
      ∧ ∃ actual, probeReply 2 ownerRevoked = some actual ∧ actual.ownerActive = false
        ∧ Resolves (tryUpdate (fun _ => lateCall) intentPlan intentPlan intentWorker actual)
          intentHost := by
  refine ⟨policyIntent_revoked, ?_⟩
  have hreply : (probeReply 2 ownerRevoked).any (fun actual =>
      actual.ownerActive = false && actual.active = some secondAuthority && noneUnderway actual
        && revisionKnown actual && actual.currentBinding = secondAuthority.binding
        && actual.appliedTransactionId = some secondAuthority.transactionId
        && actual.authorityRevision = some 1) = true := by decide
  obtain ⟨actual, hactual, hchecks⟩ := (Option.any_eq_true _ _).mp hreply
  simp only [Bool.and_eq_true, decide_eq_true_eq] at hchecks
  obtain ⟨⟨⟨⟨⟨⟨hinactive, hactive⟩, hunderway⟩, hrevision⟩, hbinding⟩, hid⟩, hrevision'⟩ := hchecks
  refine ⟨actual, hactual, hinactive, ?_⟩
  refine (policy_intent_resolves _ _ _ _ _ actual _ _ _ policyIntent_revoked).mpr
    ⟨⟨⟨rfl, rfl, rfl⟩, ⟨rfl, rfl⟩, rfl, rfl, rfl, rfl, rfl⟩, ⟨rfl, rfl, rfl⟩, ?_, ?_, rfl, rfl, rfl⟩
  · refine ⟨hunderway, hrevision, ?_, ⟨hid, hrevision'⟩,
      ⟨secondAuthority, hactive, rfl, rfl, hbinding.symm⟩⟩
    rw [hbinding]
    decide
  · refine ⟨_, rfl, ?_⟩
    rw [hbinding]
    exact ⟨by decide, rfl, rfl, rfl⟩

end CandyRuntime.Agent
