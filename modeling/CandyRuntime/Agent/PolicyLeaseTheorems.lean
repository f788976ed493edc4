import CandyRuntime.Agent.PolicyLease

/-!
# A renewal before its checks

A call that finds an intent reconciles its lease first and checks the worker afterwards. So a
call whose intent has an owner that netd still reports as active, with a lease that is due, renews
this lease for a worker nobody has looked at (`Overlooks`), and does so again with every retry.
`policy_leases_kept_iff` says that these calls are the only ones.
-/

namespace CandyRuntime.Agent

open Lib Lib.Proc NetdProto NetdV2
  Tunio

/-! ## Calls that renew too early -/

/-- What netd reports of an active owner that has no candidate and no pending failures. -/
structure ActiveReport where
  owner : ForwardOwner
  failureRevision : ℕ
  failedPrefixes : List Ipv4Prefix
  activePolicyRevision : ℕ
  activePolicyGeneration : Option ℕ
  activePolicyHash : Option String
  pendingPolicyRevision : Option ℕ
deriving DecidableEq, Repr

def ActiveReport.body (r : ActiveReport) : Body :=
  .forwardStatus (some r.owner) (some .active) none r.owner.fencingToken r.failureRevision
    r.failedPrefixes none none r.activePolicyRevision r.activePolicyGeneration r.activePolicyHash
    r.pendingPolicyRevision

/-- The report is one of the owner of the intent, whose lease is due at `now`. -/
structure ActiveReport.Due (r : ActiveReport) (journal : PolicyJournal) (now : ℕ) : Prop where
  physical : samePhysicalOwner journal.owner r.owner = true
  alive : now < r.owner.authDeadlineMonoMs ∧ now < r.owner.leaseDeadlineMonoMs
  pending : r.pendingPolicyRevision.all (· = journal.revision) = true
  active : r.activePolicyRevision ≤ journal.revision
    ∧ (r.activePolicyRevision ≠ journal.revision
      ∨ (r.activePolicyGeneration = some journal.plan.signedGeneration
        ∧ r.activePolicyHash = journal.plan.authorizationSnapshotSha256))
  due : r.owner.leaseDeadlineMonoMs - now ≤ 15000

/-- The lease of the intent is due, at the call `n`. -/
def LeaseDue (E : ℕ → Call) (n : ℕ) (journal : PolicyJournal) : Prop :=
  ∃ report : ActiveReport, ∃ now, (E n).netd = some (report.body, false)
    ∧ (E (n + 1)).mono = some now ∧ report.Due journal now

/-- The authority of TUNIO is the one of the plan, or both have none. -/
def AuthorityStands (plan : Plan) (record : ManagedProcessRecord)
    (actual : AuthorityControlResponse) (status : WorkerStatus) : Prop :=
  match plan.authority, actual.active with
  | some authority, some active => signedOwnerMatches authority active record actual status = true
  | none, none => actual.highestRevision = 0 ∧ actual.appliedTransactionId = none
      ∧ status.workerAuthorityRevision = none
  | _, _ => False

/-- What the second half asks for, from the call `n`, before it comes to the lease. -/
structure Accepts (E : ℕ → Call) (n : ℕ) (current : Plan) (record : ManagedProcessRecord)
    (actual : AuthorityControlResponse) (journal : PolicyJournal) : Prop where
  snapshot : (E n).works = true
  scope : record.identity = journal.worker.identity ∧ current.domainId = journal.plan.domainId
    ∧ current.infrastructure = journal.plan.infrastructure
  tunio : noneUnderway actual = true ∧ revisionKnown actual = true
    ∧ bindingMatches journal.plan actual.currentBinding = true
  status : ∃ status, (E (n + 1)).status = some status
    ∧ statusMatches journal.plan journal.worker actual.currentBinding status = true
    ∧ AuthorityStands journal.plan journal.worker actual status

/-- From `h` the call finds an intent whose lease it renews before it has checked the worker: the
lock is taken (three calls of the host), the file of the intent is there and is read, its snapshot
verifies, the status of the worker is read, and netd answers. -/
def Overlooks (E : ℕ → Call) (h : Host) (r : Retry) : Prop :=
  r.desired.independentWorker.isSome = true
    ∧ (∀ n < 5, (E (h.clock + n)).works = true)
    ∧ ∃ journal, h.disk.policyUpdate = some journal ∧ journal.schemaVersion = 1
      ∧ Accepts E (h.clock + 5) r.current r.record r.actual journal
      ∧ LeaseDue E (h.clock + 7) journal

/-- No call of the run overlooks its worker. -/
def NeverOverlooks (E : ℕ → Call) : List PolicyStep → Host → Prop
  | [], _ => True
  | .retry r :: steps, h =>
    ¬ Overlooks E h r ∧ NeverOverlooks E steps (PolicyStep.run E (.retry r) h)
  | step :: steps, h => NeverOverlooks E steps (step.run E h)

/-! ## What a call does on the way -/

section Specs

variable {E : ℕ → Call} {h : Host} {P Q : Host → Prop} {journal : PolicyJournal}

theorem netdExchange_spec {operation : Operation} {R : Body × Bool → Host → Prop}
    (hsend : (E h.clock).netd = none → Q (h.sees (.sent operation)).next)
    (hreply : ∀ reply, (E h.clock).netd = some reply
      → R reply (h.sees (.sent operation)).next) :
    wp (netdExchange E operation) R (fun _ => Q) Q h := by
  unfold netdExchange
  rw [wp_bind, wp_modify, wp_calling]
  exact ⟨hreply, hsend⟩

theorem expectAck_spec {operation : Operation} (hsend : Q (h.sees (.sent operation)).next) :
    wp (expectAck E operation) (fun _ => Q) (fun _ => Q) Q h := by
  unfold expectAck
  rw [wp_bind]
  refine netdExchange_spec (fun _ => hsend) fun reply _ => ?_
  rw [wp_bind, wp_ensure]
  refine ⟨fun _ => ?_, fun _ => hsend⟩
  split <;> exact hsend

/-- The lease is reconciled in `P`, and in `Q` once a renewal has been sent. -/
theorem reconcileLease_spec (hP : Kept E KeepsLease P) (hPQ : ∀ h, P h → Q h)
    (hw : WriteKept Q)
    (hrenew : LeaseDue E h.clock journal → ∀ owner h', P h'
      → Q (h'.sees (.sent (.forwardLeaseRenew owner))).next) (hh : P h) :
    wp (reconcileLease E journal) (fun _ => Q) (fun _ => Q) Q h := by
  have hstatus : P (h.sees (.sent .forwardStatus)).next := hP.sent _ h rfl hh
  have htimed : P (h.sees (.sent .forwardStatus)).next.next := hP.next _ hstatus
  unfold reconcileLease
  rw [wp_bind]
  refine netdExchange_spec (fun _ => hPQ _ hstatus) fun reply hreply => ?_
  obtain ⟨status, fd⟩ := reply
  dsimp only
  split
  · next owner phase lastFencingToken failureRevision failedPrefixes activePolicyRevision
      activePolicyGeneration activePolicyHash pendingPolicyRevision =>
    rw [wp_bind, wp_ensure]
    refine ⟨fun hphysical => ?_, fun _ => hPQ _ hstatus⟩
    unfold agentMonotonicMs
    rw [wp_bind, wp_calling]
    refine ⟨fun now hnow => ?_, fun _ => hPQ _ htimed⟩
    rw [wp_ite]
    constructor
    · intro _
      rw [wp_bind, wp_ensure]
      exact ⟨fun _ => hPQ _ htimed, fun _ => hPQ _ htimed⟩
    · intro _
      rw [wp_bind, wp_ensure]
      refine ⟨fun hlive => ?_, fun _ => hPQ _ htimed⟩
      rw [wp_bind, wp_when]
      have hpublish {renewed : ForwardOwner} : Preserves Q (do
          if journal.owner ≠ renewed then
            publishJournal E { journal with owner := renewed }
          return (none, { journal with owner := renewed }) : Ctl (Option Body × PolicyJournal)) :=
        Preserves.ite (Preserves.bind (hw.writing _) fun _ => Preserves.pure _) (Preserves.pure _)
      constructor
      · intro hdue
        refine wp_mono (expectAck_spec (Q := Q) ?_) (fun _ h' hq => hpublish h' hq)
          (fun _ _ hq => hq) fun _ hq => hq
        refine hrenew ⟨⟨owner, failureRevision, failedPrefixes, activePolicyRevision,
          activePolicyGeneration, activePolicyHash, pendingPolicyRevision⟩, now, ?_, hnow, ?_⟩
          _ _ htimed
        · rw [hreply, hphysical.1, hphysical.2.2, hlive.1]
          rfl
        · exact ⟨hphysical.2.1, ⟨hlive.2.1, hlive.2.2.1⟩, hlive.2.2.2.1, hlive.2.2.2.2,
            of_decide_eq_true hdue⟩
      · intro _
        exact hpublish _ (hPQ _ htimed)
  · exact hPQ _ hstatus

/-- What the check without `live` looks at: the worker itself is not part of it. -/
def OwnerStands (E : ℕ → Call) (n : ℕ) (plan : Plan) (record : ManagedProcessRecord)
    (actual : AuthorityControlResponse) : Prop :=
  (noneUnderway actual = true ∧ revisionKnown actual = true
      ∧ bindingMatches plan actual.currentBinding = true)
    ∧ ∃ status, (E n).status = some status
      ∧ statusMatches plan record actual.currentBinding status = true
      ∧ AuthorityStands plan record actual status

theorem wp_checkAuthority {plan : Plan} {record : ManagedProcessRecord}
    {actual : AuthorityControlResponse} {status : WorkerStatus} {R : Unit → Host → Prop} :
    wp (checkAuthority plan record actual status) R (fun _ => Q) Q h
      ↔ (AuthorityStands plan record actual status → R () h)
        ∧ (¬ AuthorityStands plan record actual status → Q h) := by
  unfold checkAuthority AuthorityStands
  cases plan.authority with
  | none =>
    cases actual.active with
    | none => exact wp_ensure _ _
    | some active => simp
  | some authority =>
    cases actual.active with
    | none => simp
    | some active => exact wp_ensure _ _

theorem validateOwner_ended_spec {plan : Plan} {record : ManagedProcessRecord}
    {actual : AuthorityControlResponse} {R : Unit → Host → Prop}
    (hQ : ¬ OwnerStands E h.clock plan record actual → Q h ∧ Q h.next)
    (hstands : OwnerStands E h.clock plan record actual → R () h.next) :
    wp (validateOwner E plan record actual false) R (fun _ => Q) Q h := by
  unfold validateOwner privateStatus
  simp only [wp_bind, wp_ensure, wp_when, wp_calling, wp_pure, Bool.false_eq_true, if_false,
    wp_checkAuthority, true_or, true_and, and_true, false_implies, not_false_eq_true, true_implies]
  by_cases hs : OwnerStands E h.clock plan record actual
  · obtain ⟨⟨hunderway, hrevision, hbinding⟩, status, hstatus, hmatches, hauthority⟩ := hs
    simp only [hunderway, hrevision, hbinding, hstatus, Option.some.injEq, forall_eq', hmatches,
      hauthority, not_true_eq_false, false_implies, and_true, true_implies, reduceCtorEq]
    exact hstands ⟨⟨hunderway, hrevision, hbinding⟩, status, hstatus, hmatches, hauthority⟩
  · obtain ⟨hnow, hlater⟩ := hQ hs
    refine ⟨fun hunderway => ⟨fun hrevision => ⟨fun hbinding => ⟨fun status hstatus =>
      ⟨fun hmatches => ⟨fun hauthority => ?_, fun _ => hlater⟩, fun _ => hlater⟩,
      fun _ => hlater⟩, fun _ => hnow⟩, fun _ => hnow⟩, fun _ => hnow⟩
    exact absurd ⟨⟨hunderway, hrevision, hbinding⟩, status, hstatus, hmatches, hauthority⟩ hs

theorem resumeIntent_spec {current : Plan} {record : ManagedProcessRecord}
    {actual : AuthorityControlResponse} (hP : Kept E KeepsLease P) (hQ : Kept E KeepsLease Q)
    (hPQ : ∀ h, P h → Q h) (hw : WriteKept Q)
    (hrenew : Accepts E h.clock current record actual journal → LeaseDue E (h.clock + 2) journal →
      ∀ owner h', P h' → Q (h'.sees (.sent (.forwardLeaseRenew owner))).next) (hh : P h) :
    wp (resumeIntent E current record actual journal) (fun _ => Q) (fun _ => Q) Q h := by
  have hnext : P h.next := hP.next h hh
  have hnext' : P h.next.next := hP.next h.next hnext
  unfold resumeIntent works
  rw [wp_bind, wp_calling]
  refine ⟨fun _ hworks => ?_, fun _ => hPQ _ hnext⟩
  have hsnapshot : (E h.clock).works = true := by simpa using hworks
  rw [wp_bind, wp_ensure]
  refine ⟨fun hscope => ?_, fun _ => hPQ _ hnext⟩
  rw [wp_bind, wp_ensure]
  refine ⟨fun _ => ?_, fun _ => hPQ _ hnext⟩
  rw [wp_bind]
  refine validateOwner_ended_spec (fun _ => ⟨hPQ _ hnext, hPQ _ hnext'⟩) fun hstands => ?_
  have haccepts : Accepts E h.clock current record actual journal :=
    ⟨hsnapshot, hscope, hstands.1, hstands.2⟩
  rw [wp_bind]
  refine wp_mono (reconcileLease_spec hP hPQ hw (hrenew haccepts) hnext') ?_ (fun _ _ hq => hq)
    fun _ hq => hq
  intro reconciled h' hq
  obtain ⟨terminal, journal'⟩ := reconciled
  -- A revoked owner ends its intent, any other one gets it applied.
  cases terminal with
  | some status =>
    exact Preserves.bind (preserves_retireIntent hQ hw journal' actual status)
      (fun _ => Preserves.pure false) h' hq
  | none =>
    exact Preserves.bind (preserves_applyIntent hQ hw journal' actual)
      (fun _ => Preserves.pure true) h' hq

end Specs

/-! ## The invariant of a run -/

section Invariant

variable {E : ℕ → Call} {h : Host}

/-- A predicate of the trace that only renewals can break. -/
theorem kept_trace {T : List Seen → Prop}
    (hcons : ∀ s trace, s.event.renews = false → s.event ≠ .began → T trace → T (s :: trace)) :
    Kept E KeepsLease fun h => T h.trace where
  next _ hh := hh
  sent _ h hA hh := hcons _ h.trace hA (by simp) hh
  worker h _ hh := hcons _ h.next.trace rfl (by simp) hh
  owner h hh := hcons _ h.trace rfl (by simp) hh

theorem always_cons_of_idle {s : Seen} {trace : List Seen} (hs : s.event.renews = false) :
    (Always Confirmed trace → Always Confirmed (s :: trace))
      ∧ (Always Single trace → Always Single (s :: trace)) := by
  constructor
  · exact fun hh => ⟨fun hrenews => by simp [hs] at hrenews, hh⟩
  · exact fun hh => ⟨fun hrenews => by simp [hs] at hrenews, hh⟩

theorem kept_confirmed : Kept E KeepsLease fun h => Always Confirmed h.trace :=
  kept_trace fun _ _ hs _ => (always_cons_of_idle hs).1

theorem kept_single : Kept E KeepsLease fun h => Always Single h.trace :=
  kept_trace fun _ _ hs _ => (always_cons_of_idle hs).2

theorem quiet_cons {s : Seen} {trace : List Seen}
    (hs : ¬ (s.pending = true ∧ s.event.renews = true)) (hh : Quiet trace) :
    Quiet (s :: trace) := by
  unfold Quiet thisCall
  rw [List.takeWhile_cons]
  split
  · intro e he
    rcases List.mem_cons.mp he with rfl | he
    · exact hs
    · exact hh e he
  · intro e he
    simp at he

theorem kept_quiet : Kept E KeepsLease fun h => Quiet h.trace :=
  kept_trace fun _ _ hs _ => quiet_cons (by simp [hs])

/-- After the checks of the call any request may be sent. -/
theorem kept_confirmed_checked :
    Kept E (fun _ => True) fun h => Always Confirmed h.trace ∧ Checked h.trace where
  next _ hh := hh
  sent operation h _ hh := ⟨⟨fun _ => hh.2, hh.1⟩, (kept_checked (E := E)).sent operation h trivial hh.2⟩
  worker h hlive hh := ⟨kept_confirmed.worker h hlive hh.1, kept_checked.worker h hlive hh.2⟩
  owner h hh := ⟨(kept_confirmed (E := E)).owner h hh.1, (kept_checked (E := E)).owner h hh.2⟩

/-- Without an intent no renewal is one for an intent. -/
theorem kept_unwritten : Kept E (fun _ => True) fun h =>
    (Always Single h.trace ∧ Quiet h.trace) ∧ h.disk.policyUpdate = none where
  next _ hh := hh
  sent operation h _ hh := by
    have hs : ¬ (h.disk.policyUpdate.isSome = true
        ∧ (Observation.sent operation).renews = true) := by simp [hh.2]
    exact ⟨⟨⟨fun hrenews => absurd hrenews hs, hh.1.1⟩, quiet_cons hs hh.1.2⟩, hh.2⟩
  worker h hlive hh :=
    ⟨⟨kept_single.worker h hlive hh.1.1, kept_quiet.worker h hlive hh.1.2⟩, hh.2⟩
  owner h hh :=
    ⟨⟨(kept_single (E := E)).owner h hh.1.1, (kept_quiet (E := E)).owner h hh.1.2⟩, hh.2⟩

theorem onTime_sees {event : Observation} (hh : OnTime E h) (he : event.renews = false)
    (hw : event = .workerCurrent → ∃ n, h.clock = n + 1 ∧ (E n).live = some true) :
    OnTime E (h.sees event) := by
  refine ⟨⟨⟨hh.2, hw⟩, hh.1⟩, ?_⟩
  intro e hmem
  rcases List.mem_cons.mp hmem with rfl | hmem
  · exact ⟨le_rfl, fun hrenews => by simp [he] at hrenews⟩
  · exact hh.2 e hmem

theorem onTime_next (hh : OnTime E h) : OnTime E h.next := by
  refine ⟨hh.1, ?_⟩
  intro e hmem
  obtain ⟨hle, hlt⟩ := hh.2 e hmem
  exact ⟨Nat.le_succ_of_le hle, fun hrenews => Nat.lt_succ_of_lt (hlt hrenews)⟩

theorem kept_onTime : Kept E (fun _ => True) (OnTime E) where
  next _ := onTime_next
  sent operation h _ hh := by
    refine ⟨⟨⟨hh.2, by simp⟩, hh.1⟩, ?_⟩
    intro e hmem
    rcases List.mem_cons.mp hmem with rfl | hmem
    · exact ⟨Nat.le_succ _, fun _ => Nat.lt_succ_self _⟩
    · obtain ⟨hle, hlt⟩ := hh.2 e hmem
      exact ⟨Nat.le_succ_of_le hle, fun hrenews => Nat.lt_succ_of_lt (hlt hrenews)⟩
  worker h hlive hh := onTime_sees (onTime_next hh) rfl fun _ => ⟨h.clock, rfl, hlive⟩
  owner h hh := onTime_sees hh rfl nofun

/-- What every host of a run that overlooks no worker satisfies. -/
def Sound (E : ℕ → Call) (h : Host) : Prop :=
  OnTime E h ∧ Always Confirmed h.trace ∧ Always Single h.trace

/-- The call has sent no renewal for an intent so far. -/
def Fresh (E : ℕ → Call) (h : Host) : Prop := Sound E h ∧ Quiet h.trace

theorem kept_sound : Kept E KeepsLease (Sound E) :=
  (kept_onTime.weaken fun _ _ => trivial).and (kept_confirmed.and kept_single)

theorem written_sound : WriteKept (Sound E) :=
  fun _ _ hh => ⟨onTime_next hh.1, hh.2.1, hh.2.2⟩

theorem kept_fresh : Kept E KeepsLease (Fresh E) := kept_sound.and kept_quiet

theorem written_fresh : WriteKept (Fresh E) := written_sound.and fun _ _ hh => hh

/-- Without an intent, and after the checks, every request leaves the call fresh. -/
theorem kept_fresh_unwritten : Kept E (fun _ => True) fun h =>
    (Fresh E h ∧ h.disk.policyUpdate = none) ∧ Checked h.trace := by
  have hall := (kept_onTime (E := E)).and (kept_confirmed_checked.and kept_unwritten)
  have heq : (fun h => (Fresh E h ∧ h.disk.policyUpdate = none) ∧ Checked h.trace)
      = fun h => OnTime E h ∧ (Always Confirmed h.trace ∧ Checked h.trace)
        ∧ (Always Single h.trace ∧ Quiet h.trace) ∧ h.disk.policyUpdate = none := by
    funext h
    unfold Fresh Sound
    exact propext (by tauto)
  rw [heq]
  exact hall

theorem kept_none : Kept E KeepsLease fun h => h.disk.policyUpdate = none where
  next _ hh := hh
  sent _ _ _ hh := hh
  worker _ _ hh := hh
  owner _ hh := hh

variable {journal : PolicyJournal} {current desired : Plan} {record : ManagedProcessRecord}
  {actual : AuthorityControlResponse}

/-- With the checks made, the renewal of the second half is a confirmed and a single one. -/
theorem resumeIntent_checked (hh : Fresh E h ∧ Checked h.trace) :
    wp (resumeIntent E current record actual journal) (fun _ => Sound E) (fun _ => Sound E)
      (Sound E) h := by
  have hkept : Kept E KeepsLease fun h => Fresh E h ∧ Checked h.trace :=
    kept_fresh.and (kept_checked.weaken fun _ _ => trivial)
  refine resumeIntent_spec hkept kept_sound (fun _ hh => hh.1.1) written_sound ?_ hh
  intro _ _ owner h' hh'
  exact ⟨kept_onTime.sent _ h' trivial hh'.1.1.1, ⟨fun _ => hh'.2, hh'.1.1.2.1⟩,
    fun _ => hh'.1.2, hh'.1.1.2.2⟩

/-- Without the checks, the second half has to keep away from the renewal. -/
theorem resumeIntent_unchecked (hh : Fresh E h)
    (hno : ¬ (Accepts E h.clock current record actual journal ∧ LeaseDue E (h.clock + 2) journal)) :
    wp (resumeIntent E current record actual journal) (fun _ => Sound E) (fun _ => Sound E)
      (Sound E) h := by
  refine resumeIntent_spec kept_fresh kept_sound (fun _ hh => hh.1) written_sound ?_ hh
  intro haccepts hdue
  exact absurd ⟨haccepts, hdue⟩ hno

/-- A call that finds no intent makes its checks before it renews anything. -/
theorem newIntent_resumes (hh : Fresh E h) (hnone : h.disk.policyUpdate = none) :
    wp (newIntent E desired current record actual >>= fun
        | none => pure false
        | some journal => resumeIntent E current record actual journal)
      (fun _ => Sound E) (fun _ => Sound E) (Sound E) h := by
  have hspec := newIntent_spec (kept_fresh.and kept_none) kept_fresh_unwritten
    (fun _ hh => hh.1) written_fresh desired current record actual h ⟨hh, hnone⟩
  rw [wp_bind]
  refine wp_mono hspec (fun intent h' hh' => ?_) (fun _ _ hh' => hh'.1) fun _ hh' => hh'.1
  cases intent with
  | none => exact hh'.1.1
  | some journal => exact resumeIntent_checked ⟨hh'.1, hh'.2 rfl⟩

theorem fresh_began (hh : Sound E h) : Fresh E (h.sees .began) := by
  refine ⟨⟨onTime_sees hh.1 rfl nofun, (always_cons_of_idle rfl).1 hh.2.1,
    (always_cons_of_idle rfl).2 hh.2.2⟩, ?_⟩
  intro e he
  simp [thisCall, Host.sees] at he

theorem wp_works {n : ℕ} {e : String} {R : Unit → Host → Prop} {F : String → Host → Prop}
    {C : Host → Prop} (hn : h.clock = n) :
    wp (works E e) R F C h
      ↔ ((E n).works = true → R () h.next) ∧ ((E n).works ≠ true → F e h.next) := by
  unfold works
  rw [wp_calling, hn]
  by_cases hworks : (E n).works = true
  · simp [hworks, Unique.forall_iff]
  · simp [hworks]

theorem tryUpdate_sound {r : Retry} (hh : Sound E h) (hno : ¬ Overlooks E h r) :
    wp (tryUpdate E r.desired r.current r.record r.actual) (fun _ => Sound E) (fun _ => Sound E)
      (Sound E) (h.sees .began) := by
  have hfresh₀ : Fresh E (h.sees .began) := fresh_began hh
  have hfresh₁ := kept_fresh.next _ hfresh₀
  have hfresh₂ := kept_fresh.next _ hfresh₁
  have hfresh₃ := kept_fresh.next _ hfresh₂
  have hfresh₄ := kept_fresh.next _ hfresh₃
  unfold tryUpdate
  rw [wp_bind, wp_ensure]
  refine ⟨fun hdesired => ?_, fun _ => hfresh₀.1⟩
  rw [wp_bind, wp_works rfl]
  refine ⟨fun hlock => ?_, fun _ => hfresh₁.1⟩
  rw [wp_bind, wp_works rfl]
  refine ⟨fun hlock' => ?_, fun _ => hfresh₂.1⟩
  rw [wp_bind, wp_works rfl]
  refine ⟨fun hlock'' => ?_, fun _ => hfresh₃.1⟩
  rw [wp_bind, wp_works rfl]
  refine ⟨fun hinspect => ?_, fun _ => hfresh₄.1⟩
  rw [wp_bind, wp_get, wp_ite]
  constructor
  · intro _
    unfold readJournal
    have hfresh₅ := kept_fresh.next _ hfresh₄
    simp only [Proc.bind_assoc]
    rw [wp_bind, wp_works rfl]
    refine ⟨fun hread => ?_, fun _ => hfresh₅.1⟩
    rw [wp_bind, wp_get, wp_bind, wp_okOr]
    refine ⟨fun journal hjournal => ?_, fun _ => hfresh₅.1⟩
    rw [wp_bind, wp_ensure]
    refine ⟨fun hschema => ?_, fun _ => hfresh₅.1⟩
    refine resumeIntent_unchecked hfresh₅ fun hover => hno ?_
    refine ⟨hdesired, fun n hn => ?_, journal, hjournal, hschema, hover.1, hover.2⟩
    rcases n with _ | _ | _ | _ | _ | n
    · exact hlock
    · exact hlock'
    · exact hlock''
    · exact hinspect
    · exact hread
    · omega
  · intro hnone
    exact newIntent_resumes hfresh₄ (by simpa using hnone)

end Invariant

/-! ## The renewal nobody confirmed -/

section Overlooked

/-- What holds of every ending holds of the host the program leaves. -/
theorem of_wp_all {α : Type} {m : Ctl α} {P : Host → Prop} {h : Host}
    (hwp : wp m (fun _ => P) (fun _ => P) P h) : P (m h).2 := by
  unfold wp at hwp
  rcases hm : m h with ⟨a | e | _, h'⟩ <;> rw [hm] at hwp <;> exact hwp

variable {E : ℕ → Call} {h : Host} {journal : PolicyJournal} {base : List Seen}

/-- What was observed stays on the trace. -/
def Extends (base : List Seen) (h : Host) : Prop := base <:+ h.trace

theorem kept_extends : Kept E (fun _ => True) (Extends base) where
  next _ hh := hh
  sent _ _ _ hh := List.IsSuffix.trans hh (List.suffix_cons _ _)
  worker _ _ hh := List.IsSuffix.trans hh (List.suffix_cons _ _)
  owner _ hh := List.IsSuffix.trans hh (List.suffix_cons _ _)

theorem written_extends : WriteKept (Extends base) := fun _ _ hh => hh

theorem kept_extends_idle : Kept E KeepsLease (Extends base) :=
  kept_extends.weaken fun _ _ => trivial

/-- A lease that is due is renewed. -/
theorem reconcileLease_due (hdue : LeaseDue E h.clock journal) :
    ∃ s : Seen, s.event.renews = true ∧
      wp (reconcileLease E journal)
        (fun _ => Extends (s :: (h.sees (.sent .forwardStatus)).trace))
        (fun _ => Extends (s :: (h.sees (.sent .forwardStatus)).trace))
        (Extends (s :: (h.sees (.sent .forwardStatus)).trace)) h := by
  obtain ⟨report, now, hreply, hnow, hreport⟩ := hdue
  refine ⟨⟨h.clock + 2, h.disk.policyUpdate.isSome, .sent (.forwardLeaseRenew { report.owner with
    leaseDeadlineMonoMs := min (now + 30000) report.owner.authDeadlineMonoMs })⟩, rfl, ?_⟩
  unfold reconcileLease
  rw [wp_bind]
  refine netdExchange_spec (fun hnone => by simp [hreply] at hnone) fun reply hsame => ?_
  obtain rfl : reply = (report.body, false) := by simpa [hreply] using hsame.symm
  unfold ActiveReport.body agentMonotonicMs
  dsimp only
  rw [wp_bind, wp_ensure]
  refine ⟨fun _ => ?_, fun hno => absurd ⟨rfl, hreport.physical, rfl⟩ hno⟩
  rw [wp_bind, wp_calling]
  refine ⟨fun now' hnow' => ?_, fun hnone => by simp [hnow] at hnone⟩
  obtain rfl : now' = now := by simpa [hnow] using hnow'.symm
  rw [if_neg (by simp), wp_bind, wp_ensure]
  refine ⟨fun _ => ?_, fun hno => absurd ⟨rfl, hreport.alive.1, hreport.alive.2, hreport.pending,
    hreport.active⟩ hno⟩
  rw [wp_bind, wp_when]
  refine ⟨fun _ => ?_, fun hno => absurd (decide_eq_true hreport.due) hno⟩
  simp only [decide_eq_true hreport.due, if_true]
  refine wp_mono (expectAck_spec (Q := Extends _) List.suffix_rfl) (fun _ h' hh => ?_)
    (fun _ _ hh => hh) fun _ hh => hh
  -- Whatever becomes of the intent now, the request has been sent.
  exact Preserves.ite
    (Preserves.bind (written_extends.writing (E := E) _) fun _ => Preserves.pure _)
    (Preserves.pure _) h' hh

theorem resumeIntent_overlooks {current : Plan} {record : ManagedProcessRecord}
    {actual : AuthorityControlResponse}
    (haccepts : Accepts E h.clock current record actual journal)
    (hdue : LeaseDue E (h.clock + 2) journal) :
    ∃ s : Seen, s.event.renews = true ∧ ∃ status : Seen, status.event = .sent .forwardStatus
      ∧ wp (resumeIntent E current record actual journal)
        (fun _ => Extends (s :: status :: h.trace)) (fun _ => Extends (s :: status :: h.trace))
        (Extends (s :: status :: h.trace)) h := by
  have hdue' : LeaseDue E h.next.next.clock journal := hdue
  obtain ⟨s, hs, hwp⟩ := reconcileLease_due hdue'
  refine ⟨s, hs, ⟨h.clock + 2, h.disk.policyUpdate.isSome, .sent .forwardStatus⟩, rfl, ?_⟩
  obtain ⟨hsnapshot, hscope, htunio, hstatus⟩ := haccepts
  have hbinding : bindingMatches journal.plan actual.currentBinding = true := htunio.2.2
  have hstands : OwnerStands E h.next.clock journal.plan journal.worker actual :=
    ⟨htunio, hstatus⟩
  unfold resumeIntent
  rw [wp_bind, wp_works rfl]
  refine ⟨fun _ => ?_, fun hno => absurd hsnapshot hno⟩
  rw [wp_bind, wp_ensure]
  refine ⟨fun _ => ?_, fun hno => absurd hscope hno⟩
  rw [wp_bind, wp_ensure]
  refine ⟨fun _ => ?_, fun hno => absurd ⟨htunio.1, htunio.2.1, bindingMatches_fields hbinding⟩ hno⟩
  rw [wp_bind]
  refine validateOwner_ended_spec (fun hno => absurd hstands hno) fun _ => ?_
  rw [wp_bind]
  refine wp_mono hwp (fun reconciled h' hh => ?_) (fun _ _ hh => hh) fun _ hh => hh
  obtain ⟨terminal, journal'⟩ := reconciled
  cases terminal with
  | some body =>
    exact Preserves.bind
      (preserves_retireIntent kept_extends_idle written_extends journal' actual body)
      (fun _ => Preserves.pure false) h' hh
  | none =>
    exact Preserves.bind (preserves_applyIntent kept_extends_idle written_extends journal' actual)
      (fun _ => Preserves.pure true) h' hh

/-- A call that overlooks its worker sends a renewal that is not confirmed. -/
theorem tryUpdate_overlooks {r : Retry} (ho : Overlooks E h r) :
    ¬ Always Confirmed (PolicyStep.run E (.retry r) h).trace := by
  obtain ⟨hdesired, hworks, journal, hjournal, hschema, haccepts, hdue⟩ := ho
  have hlock : (E h.clock).works = true := hworks 0 (by omega)
  have hlock' : (E (h.clock + 1)).works = true := hworks 1 (by omega)
  have hlock'' : (E (h.clock + 2)).works = true := hworks 2 (by omega)
  have hinspect : (E (h.clock + 3)).works = true := hworks 3 (by omega)
  have hread : (E (h.clock + 4)).works = true := hworks 4 (by omega)
  let h₅ : Host := (h.sees .began).next.next.next.next.next
  have haccepts' : Accepts E h₅.clock r.current r.record r.actual journal := haccepts
  obtain ⟨s, hs, status, hstatus, hwp⟩ := resumeIntent_overlooks (h := h₅) haccepts' hdue
  have hrun : wp (tryUpdate E r.desired r.current r.record r.actual)
      (fun _ => Extends (s :: status :: h₅.trace)) (fun _ => Extends (s :: status :: h₅.trace))
      (Extends (s :: status :: h₅.trace)) (h.sees .began) := by
    unfold tryUpdate readJournal
    rw [wp_bind, wp_ensure]
    refine ⟨fun _ => ?_, fun hno => absurd hdesired hno⟩
    rw [wp_bind, wp_works rfl]
    refine ⟨fun _ => ?_, fun hno => absurd hlock hno⟩
    rw [wp_bind, wp_works rfl]
    refine ⟨fun _ => ?_, fun hno => absurd hlock' hno⟩
    rw [wp_bind, wp_works rfl]
    refine ⟨fun _ => ?_, fun hno => absurd hlock'' hno⟩
    rw [wp_bind, wp_works rfl]
    refine ⟨fun _ => ?_, fun hno => absurd hinspect hno⟩
    rw [wp_bind, wp_get, if_pos (by simp [hjournal])]
    simp only [Proc.bind_assoc]
    rw [wp_bind, wp_works rfl]
    refine ⟨fun _ => ?_, fun hno => absurd hread hno⟩
    rw [wp_bind, wp_get, wp_bind, wp_okOr]
    refine ⟨fun journal' hjournal' => ?_, fun hnone => by simp [hjournal] at hnone⟩
    obtain rfl : journal' = journal := by simpa [hjournal] using hjournal'.symm
    rw [wp_bind, wp_ensure]
    exact ⟨fun _ => hwp, fun hno => absurd hschema hno⟩
  intro halways
  have hsuffix : s :: status :: h₅.trace <:+ (PolicyStep.run E (.retry r) h).trace := of_wp_all hrun
  obtain ⟨new, hnew⟩ := hsuffix
  rw [← hnew] at halways
  obtain ⟨⟨w, hw, hcurrent⟩, _⟩ := halways.of_append.1 hs
  have hthis : thisCall (status :: h₅.trace) = [status] := by
    simp [thisCall, hstatus, h₅, Host.sees, Host.next]
  rw [hthis] at hw
  obtain rfl : w = status := by simpa using hw
  simp [hstatus] at hcurrent

end Overlooked

/-! ## Runs -/

section Runs

variable {E : ℕ → Call}

theorem tryUpdate_extends (h : Host) (r : Retry) :
    h.trace <:+ (PolicyStep.run E (.retry r) h).trace := by
  have hresume (current : Plan) (record : ManagedProcessRecord)
      (actual : AuthorityControlResponse) (journal : PolicyJournal) :
      Preserves (Extends h.trace) (resumeIntent E current record actual journal) := fun h' hh' =>
    resumeIntent_spec kept_extends_idle kept_extends_idle (fun _ hh => hh) written_extends
      (fun _ _ owner h' hh' => (kept_extends (E := E)).sent _ h' trivial hh') hh'
  have hnew : Preserves (Extends h.trace) (newIntent E r.desired r.current r.record r.actual) :=
    Triple.post (newIntent_spec kept_extends_idle (kept_extends.and kept_checked)
      (fun _ hh => hh) written_extends r.desired r.current r.record r.actual) fun _ _ hh => hh.1
  have hworks {e : String} : Preserves (Extends h.trace) (works E e) := kept_extends.works
  have hread : Preserves (Extends h.trace) (readJournal E) :=
    Preserves.bind hworks fun _ => Preserves.bind Preserves.get fun _ =>
      Preserves.bind (Preserves.okOr _ _) fun _ => Preserves.bind (Preserves.ensure _ _) fun _ =>
        Preserves.pure _
  have hall : Preserves (Extends h.trace)
      (tryUpdate E r.desired r.current r.record r.actual) := by
    unfold tryUpdate
    refine Preserves.bind (Preserves.ensure _ _) fun _ => ?_
    refine Preserves.bind hworks fun _ => Preserves.bind hworks fun _ => ?_
    refine Preserves.bind hworks fun _ => Preserves.bind hworks fun _ => ?_
    refine Preserves.bind Preserves.get fun _ => Preserves.ite ?_ ?_
    · exact Preserves.bind hread fun journal => hresume _ _ _ journal
    · refine Preserves.bind hnew fun intent => ?_
      cases intent with
      | none => exact Preserves.pure false
      | some journal => exact hresume _ _ _ journal
  have hbegan : Extends h.trace (h.sees .began) := List.suffix_cons _ _
  exact of_wp_all (P := Extends h.trace) (hall _ hbegan)

theorem policyRun_extends (steps : List PolicyStep) (h : Host) :
    h.trace <:+ (policyRun E steps h).trace := by
  induction steps generalizing h with
  | nil => exact List.suffix_rfl
  | cons step steps ih =>
    have hstep : h.trace <:+ (step.run E h).trace := by
      cases step with
      | retry r => exact tryUpdate_extends h r
      | elsewhere disk => exact List.suffix_rfl
    exact hstep.trans (ih _)

/-- A run that overlooks no worker keeps the invariant. -/
theorem policyRun_sound (steps : List PolicyStep) (h : Host) (hh : Sound E h)
    (hno : NeverOverlooks E steps h) : Sound E (policyRun E steps h) := by
  induction steps generalizing h with
  | nil => exact hh
  | cons step steps ih =>
    cases step with
    | retry r => exact ih _ (of_wp_all (tryUpdate_sound hh hno.1)) hno.2
    | elsewhere disk => exact ih _ hh hno

/-- A run whose renewals are all confirmed overlooks no worker. -/
theorem neverOverlooks_of_confirmed (steps : List PolicyStep) (h : Host)
    (hc : Always Confirmed (policyRun E steps h).trace) : NeverOverlooks E steps h := by
  induction steps generalizing h with
  | nil => trivial
  | cons step steps ih =>
    cases step with
    | retry r =>
      refine ⟨fun ho => tryUpdate_overlooks ho ?_, ih _ hc⟩
      obtain ⟨new, hnew⟩ := policyRun_extends (E := E) steps (PolicyStep.run E (.retry r) h)
      have hc' : Always Confirmed (policyRun E steps (PolicyStep.run E (.retry r) h)).trace := hc
      rw [← hnew] at hc'
      exact hc'.of_append
    | elsewhere disk => exact ih _ hc

end Runs

/-- The leases of a run are kept exactly if no call of it overlooks its worker: no call finds an
intent whose owner netd reports as active with a lease that is due, with every check passed that
is made before the lease is reconciled. -/
theorem policy_leases_kept_iff (E : ℕ → Call) (steps : List PolicyStep) (disk : Disk) (clock : ℕ) :
    LeaseKept E (policyRun E steps ⟨disk, clock, []⟩).trace
      ↔ NeverOverlooks E steps ⟨disk, clock, []⟩ := by
  constructor
  · exact fun hkept => neverOverlooks_of_confirmed steps _ hkept.confirmed
  · intro hno
    have hstart : Sound E ⟨disk, clock, []⟩ := ⟨⟨trivial, nofun⟩, trivial, trivial⟩
    obtain ⟨⟨htimed, _⟩, hconfirmed, hsingle⟩ := policyRun_sound steps _ hstart hno
    exact ⟨hconfirmed, fun k hdead => atMostOnce_of_confirmed hconfirmed htimed hsingle hdead⟩

/-- What netd reports of the owner of the intent while its lease runs until `lease`. -/
def livingReport (lease : ℕ) : ActiveReport :=
  ⟨{ lapsedReport.owner with leaseDeadlineMonoMs := lease }, 0, [], 0, none, none, none⟩

/-- The worker is dead from the start. netd grants every renewal: the first lease runs out five
seconds after it is looked at, and the one of the first renewal ten seconds after. -/
def retryCall (n : ℕ) : Call where
  works := true
  landed := true
  unix := some 140
  mono := some (if n < 14 then 40000 else 60000)
  live := some false
  status := lateCall.status
  netd := some (
    if n = 7 then (livingReport 45000).body
    else if n = 21 then (livingReport 70000).body
    else .ack, false)
  compiled _ := none
  snapshot := none
  text := ""

/-- TUNIO reports the owner of the intent as inactive and the worker is dead, but two retries of
the intent renew its lease twice. -/
theorem not_policy_leases_kept :
    DeadFrom retryCall 0 ∧ ∃ actual, probeReply 2 ownerRevoked = some actual
      ∧ actual.ownerActive = false
      ∧ ¬ LeaseKept retryCall (policyRun retryCall
        (List.replicate 2 (.retry ⟨intentPlan, intentPlan, intentWorker, actual⟩)) intentHost).trace
      ∧ ((policyRun retryCall (List.replicate 2 (.retry ⟨intentPlan, intentPlan, intentWorker,
        actual⟩)) intentHost).trace.filter (·.event.renews)).length = 2 := by
  refine ⟨fun n _ => by simp [retryCall], ?_⟩
  -- One evaluation of the run of TUNIO and of the two calls.
  have hreply : (probeReply 2 ownerRevoked).any (fun actual =>
      let trace := (policyRun retryCall (List.replicate 2 (.retry ⟨intentPlan, intentPlan,
        intentWorker, actual⟩)) intentHost).trace
      actual.ownerActive = false && !decide (Always Confirmed trace)
        && (trace.filter (·.event.renews)).length = 2) = true := by decide
  obtain ⟨actual, hactual, hchecks⟩ := (Option.any_eq_true _ _).mp hreply
  simp only [Bool.and_eq_true, Bool.not_eq_true', decide_eq_true_eq, decide_eq_false_iff_not]
    at hchecks
  obtain ⟨⟨hinactive, hunconfirmed⟩, htwice⟩ := hchecks
  exact ⟨actual, hactual, hinactive, fun hkept => hunconfirmed hkept.confirmed, htwice⟩

end CandyRuntime.Agent
