import CandyRuntime.NetdProto.SessionTheorems
import CandyRuntime.NetdV1.JournalTheorems
import CandyRuntime.NetdV1.OutcomeTheorems
import CandyRuntime.NetdV1.Service

/-!
# The session and the transaction stay in step

`NetdService::process` advances two state machines with one request: the session on a copy,
and the network transaction. `InStep` says that their phases and owners agree. It is kept by
every request except for three kinds, which change the record and then answer with an error,
or answer with success and leave a record the session does not expect:

* `Prepare` whose descriptor cannot be duplicated once the network is prepared;
* `Commit` that fails: the record is gone, or back to active when a replacement was staged;
* `Rollback` of a staged replacement, which makes the old declaration active again, and the
  repeated `Rollback` that reports a deactivation nobody retries.

`Attended` is the condition that a request is none of these. Backend calls succeed or fail at
will; the journal works.
-/

namespace CandyRuntime.NetdV1

open Lib Lib.Proc NetdProto

variable {declaration : PrepareDeclaration} {p : Tx TransactionRecord Unit}

/-! ## The coupling -/

/-- The session phase that goes with a phase of the record. -/
def phaseOf : TransactionPhase → Option SessionPhase
  | .prepared => some .prepared
  | .active => some .active
  | .suspended => some .suspended
  | .draining => some .draining
  | .preparing | .rollingBack => none

/-- The session knows the record: what it holds is the staged replacement, if there is one. -/
structure Following (session : NetdSession) (r : TransactionRecord) : Prop where
  phase : phaseOf r.phase = some session.phase
  staged : r.recoveryCandidate ≠ none → r.phase = .prepared ∨ r.phase = .draining
  settled : r.recoveryCandidate = none → r.phase ≠ .draining
  owners : r.recoveryCandidateOwner.isSome = r.recoveryCandidate.isSome
  pending : session.replacementPending = r.recoveryCandidate.isSome
  declaration : session.declaration = some (r.recoveryCandidate.getD r.declaration)
  generation : ∃ o, session.owner = some o
    ∧ o.generation = (r.recoveryCandidateOwner.getD r.owner).generation

/-- The coupling of the two state machines, also while a record is rolled back. -/
def Coupled (session : NetdSession) : Option TransactionRecord → Prop
  | none => session.phase = .stopped ∧ session.replacementPending = false
  | some r => Known r
    ∧ ((r.phase = .rollingBack ∧ (session.phase = .stopped → session.replacementPending = false))
      ∨ Following session r)

/-- A record that is being rolled back. -/
def Unwinding (m : Option TransactionRecord) : Prop := ∃ r, m = some r ∧ r.phase = .rollingBack

section Coupling

variable {session next : NetdSession} {r r' : TransactionRecord} {m : Option TransactionRecord}

theorem Following.running (h : Following session r) : session.phase ≠ .stopped := by
  intro hstopped
  have hphase := h.phase
  rw [hstopped] at hphase
  cases hr : r.phase <;> simp [hr, phaseOf] at hphase

/-- The record's phase, read off the session's. -/
theorem Following.phase_eq (h : Following session r) {p : SessionPhase} {q : TransactionPhase}
    (hsession : session.phase = p) (hq : phaseOf q = some p) : r.phase = q := by
  have hphase := h.phase
  rw [hsession] at hphase
  cases hr : r.phase <;> cases hp : p <;> cases hq' : q <;> simp_all [phaseOf]

theorem Following.candidate_eq_none (h : Following session r)
    (hphase : r.phase = .active ∨ r.phase = .suspended) : r.recoveryCandidate = none := by
  by_contra hne
  rcases h.staged hne with hp | hp <;> rw [hp] at hphase <;> simp at hphase

theorem Following.candidateOwner_eq_none (h : Following session r)
    (hc : r.recoveryCandidate = none) : r.recoveryCandidateOwner = none := by
  have howners := h.owners
  rw [hc] at howners
  simpa using howners

theorem Following.similar (h : Following session r) (hs : Similar r r') : Following session r' := by
  refine ⟨?_, ?_, ?_, ?_, ?_, ?_, ?_⟩
  · rw [hs.phase]; exact h.phase
  · rw [hs.candidate, hs.phase]; exact h.staged
  · rw [hs.candidate, hs.phase]; exact h.settled
  · rw [hs.candidate, hs.candidateOwner]; exact h.owners
  · rw [hs.candidate]; exact h.pending
  · rw [hs.candidate, hs.declaration]; exact h.declaration
  · rw [hs.candidateOwner, hs.owner]; exact h.generation

/-- A stopped session has no replacement pending. -/
theorem Coupled.idle (h : Coupled session m) (hphase : session.phase = .stopped) :
    session.replacementPending = false := by
  cases m with
  | none => exact h.2
  | some r =>
    rcases h.2 with ⟨-, hidle⟩ | hf
    · exact hidle hphase
    · exact absurd hphase hf.running

theorem coupled_of_rollingBack {before : Option TransactionRecord} (hbefore : Coupled session before)
    (h : RollingBack m) : Coupled session m := by
  obtain ⟨r, rfl, hphase, hknown⟩ := h
  exact ⟨hknown, Or.inl ⟨hphase, hbefore.idle⟩⟩

theorem coupled_of_left (h : Coupled session (some r)) (hl : Left r m) : Coupled session m := by
  rcases hl with hrolling | ⟨r', rfl, hs⟩
  · exact coupled_of_rollingBack h hrolling
  · have hknown : Known r' := by
      unfold Known
      rw [hs.steps]
      exact h.1
    refine ⟨hknown, ?_⟩
    rcases h.2 with ⟨hphase, hidle⟩ | hf
    · exact Or.inl ⟨hs.phase.trans hphase, hidle⟩
    · exact Or.inr (hf.similar hs)

/-- What a request that succeeds leaves. -/
def Succeeds (next : NetdSession) (before m : Option TransactionRecord) : Prop :=
  Coupled next m ∧ (Unwinding m → Unwinding before)

theorem succeeds_of_following {before : Option TransactionRecord} (hknown : Known r)
    (h : Following next r) : Succeeds next before (some r) := by
  refine ⟨⟨hknown, Or.inr h⟩, ?_⟩
  rintro ⟨r', hr', hphase⟩
  cases hr'
  have hp := h.phase
  rw [hphase] at hp
  simp [phaseOf] at hp

theorem succeeds_none (hphase : next.phase = .stopped) (hpending : next.replacementPending = false)
    {before : Option TransactionRecord} : Succeeds next before none := by
  refine ⟨⟨hphase, hpending⟩, ?_⟩
  rintro ⟨r', hr', -⟩
  simp at hr'

end Coupling

/-! ## The requests -/

theorem ensureOwner_generation {retained request : LeaseOwner}
    (h : ensureOwner retained request = .ok ()) : retained.generation = request.generation := by
  rw [ensureOwner, refuseIf_eq_ok] at h
  simp only [Bool.not_eq_false', Bool.and_eq_true, beq_iff_eq] at h
  exact h.2

section Requests

variable {session fenced next : NetdSession} {request : NetdRequest} {r : TransactionRecord}
  {b : ℕ → Fate} {w : NetworkTransaction TransactionRecord}

/-- Following a record without a candidate. -/
theorem following_of_settled (hphase : phaseOf r.phase = some session.phase)
    (hdraining : r.phase ≠ .draining) (hc : r.recoveryCandidate = none)
    (ho : r.recoveryCandidateOwner = none) (hpending : session.replacementPending = false)
    (hd : session.declaration = some r.declaration)
    (hg : ∃ o, session.owner = some o ∧ o.generation = r.owner.generation) :
    Following session r := by
  refine ⟨hphase, fun hne => absurd hc hne, fun _ => hdraining, ?_, ?_, ?_, ?_⟩
  · rw [ho, hc]
    rfl
  · rw [hc]; exact hpending
  · rw [hc]; exact hd
  · rw [ho]; exact hg

/-- What the owner checks leave of a session that follows a record. -/
structure Fenced (session : NetdSession) (request : NetdRequest) (r : TransactionRecord)
    (fenced : NetdSession) (o : LeaseOwner) : Prop where
  eq : fenced = { session with owner := some o }
  generation : o.generation = request.owner.generation
  retained : (r.recoveryCandidateOwner.getD r.owner).generation = request.owner.generation
    ∨ request.operation.isReconfigure = true
    ∨ (r.phase = .active ∧ request.operation.isReplacementStep = true)

theorem fenced_of_following (h : Following session r) (hf : session.fence request = .ok fenced) :
    ∃ o, Fenced session request r fenced o := by
  obtain ⟨owner, howner, hgeneration⟩ := h.generation
  obtain ⟨o, heq, ho, hcase⟩ := fence_running h.running howner hf
  refine ⟨o, heq, ho, ?_⟩
  rw [hgeneration] at hcase
  rcases hcase with hsame | hreconfigure | ⟨hactive, hstep⟩
  · exact Or.inl hsame
  · exact Or.inr (Or.inl hreconfigure)
  · exact Or.inr (Or.inr ⟨h.phase_eq hactive rfl, hstep⟩)

/-- The session and the record when a request that its owner sends finds nothing staged. -/
structure SettledSession (session : NetdSession) (r : TransactionRecord) (fenced : NetdSession)
    (o : LeaseOwner) : Prop where
  eq : fenced = { session with owner := some o }
  generation : o.generation = r.owner.generation
  candidate : r.recoveryCandidate = none
  candidateOwner : r.recoveryCandidateOwner = none
  pending : session.replacementPending = false
  declaration : session.declaration = some r.declaration

theorem settledSession_of_following (h : Following session r)
    (hphase : r.phase = .active ∨ r.phase = .suspended)
    (hf : session.fence request = .ok fenced) (hreconfigure : request.operation.isReconfigure = false)
    (hstep : request.operation.isReplacementStep = false) : ∃ o, SettledSession session r fenced o := by
  have hc := h.candidate_eq_none hphase
  have ho := h.candidateOwner_eq_none hc
  obtain ⟨o, hfenced⟩ := fenced_of_following h hf
  have hretained : r.owner.generation = request.owner.generation := by
    have hcase := hfenced.retained
    simpa [ho, hreconfigure, hstep] using hcase
  refine ⟨o, hfenced.eq, hfenced.generation.trans hretained.symm, hc, ho, ?_, ?_⟩
  · rw [h.pending, hc]
    rfl
  · rw [h.declaration, hc]
    rfl

/-- A request whose operation leaves `Q` or fails with `E`. -/
theorem ends_coupled {Q E : Option TransactionRecord → Prop} (h : Coupled session (some r))
    (hp : Ends p Q E w) (hE : ∀ m, E m → Coupled session m)
    (hrolling : r.phase = .rollingBack → ∀ m, Q m → Succeeds next (some r) m)
    (hfollowing : Following session r → ∀ m, Q m → Succeeds next (some r) m) :
    Ends p (Succeeds next (some r)) (Coupled session) w := by
  rcases h.2 with ⟨hphase, -⟩ | hf
  · exact hp.mono (hrolling hphase) hE
  · exact hp.mono (hfollowing hf) hE

theorem coupled_suspend (h : Coupled session (some r)) (hw : Calm (some r) b w)
    (hf : session.fence request = .ok fenced) (hop : request.operation = .suspend)
    (ha : fenced.advance request = .ok next) :
    Ends (suspend exactFormat request.owner) (Succeeds next (some r)) (Coupled session) w := by
  refine ends_coupled h (ends_suspend hw) (fun m hm => hm ▸ h) (fun hphase m hm => ?_)
    fun hfollow m hm => ?_
  · rw [hphase] at hm
    simp at hm
  · have hcases : r.phase = .suspended ∨ r.phase = .active := hm.imp (·.1) (·.1)
    obtain ⟨o, hs⟩ := settledSession_of_following hfollow hcases.symm hf (by rw [hop]; rfl)
      (by rw [hop]; rfl)
    simp only [NetdSession.advance, hop] at ha
    split at ha
    · simp at ha
    · rename_i hactive
      injection ha with ha
      rw [hs.eq] at ha hactive
      have hactive : r.phase = .active := hfollow.phase_eq (not_not.mp hactive) rfl
      rcases hm with ⟨hp, -⟩ | ⟨-, rfl⟩
      · rw [hp] at hactive
        simp at hactive
      · refine succeeds_of_following (known_and h.1 _) ?_
        rw [← ha]
        exact following_of_settled rfl (by simp) hs.candidate hs.candidateOwner hs.pending
          hs.declaration ⟨o, rfl, hs.generation⟩

theorem coupled_resume (h : Coupled session (some r)) (hw : Calm (some r) b w)
    (hf : session.fence request = .ok fenced) (hop : request.operation = .resume)
    (ha : fenced.advance request = .ok next) :
    Ends (resume exactFormat request.owner) (Succeeds next (some r)) (Coupled session) w := by
  refine ends_coupled h (ends_resume hw) (fun m hm => hm ▸ h) (fun hphase m hm => ?_)
    fun hfollow m hm => ?_
  · rw [hphase] at hm
    simp at hm
  · have hcases : r.phase = .active ∨ r.phase = .suspended := hm.imp (·.1) (·.1)
    obtain ⟨o, hs⟩ := settledSession_of_following hfollow hcases hf (by rw [hop]; rfl) (by rw [hop]; rfl)
    simp only [NetdSession.advance, hop] at ha
    split at ha
    · simp at ha
    · rename_i hsuspended
      injection ha with ha
      rw [hs.eq] at ha hsuspended
      have hsuspended : r.phase = .suspended := hfollow.phase_eq (not_not.mp hsuspended) rfl
      rcases hm with ⟨hp, -⟩ | ⟨-, rfl⟩
      · rw [hp] at hsuspended
        simp at hsuspended
      · refine succeeds_of_following (known_or h.1 (by decide)) ?_
        rw [← ha]
        exact following_of_settled rfl (by simp) hs.candidate hs.candidateOwner hs.pending
          hs.declaration ⟨o, rfl, hs.generation⟩

theorem coupled_updateMtu {mtu : UInt16} (h : Coupled session (some r)) (hw : Calm (some r) b w)
    (hf : session.fence request = .ok fenced) (hop : request.operation = .mtuUpdate mtu)
    (ha : fenced.advance request = .ok next) :
    Ends (updateMtu exactFormat request.owner mtu) (Succeeds next (some r)) (Coupled session)
      w := by
  refine ends_coupled h (ends_updateMtu hw) (fun m hm => hm ▸ h) (fun hphase m hm => ?_)
    fun hfollow m hm => ?_
  · rw [hphase] at hm
    simp at hm
  · obtain ⟨hactive, rfl⟩ := hm
    obtain ⟨o, hs⟩ := settledSession_of_following hfollow (Or.inl hactive) hf (by rw [hop]; rfl)
      (by rw [hop]; rfl)
    have hdeclaration : fenced.declaration = some r.declaration := by
      rw [hs.eq]
      exact hs.declaration
    simp only [NetdSession.advance, hop, hdeclaration] at ha
    split at ha
    · simp at ha
    · injection ha with ha
      rw [hs.eq] at ha
      refine succeeds_of_following h.1 ?_
      rw [← ha]
      refine following_of_settled ?_ ?_ hs.candidate hs.candidateOwner hs.pending rfl
        ⟨o, rfl, hs.generation⟩
      · exact hfollow.phase
      · simp [hactive]

theorem coupled_setFailedPrefixes {prefixes : List Ipv4Prefix} (h : Coupled session (some r))
    (hw : Calm (some r) b w) (hf : session.fence request = .ok fenced)
    (hop : request.operation = .withdrawPrefixes prefixes)
    (ha : fenced.advance request = .ok next) :
    Ends (setFailedPrefixes exactFormat request.owner prefixes) (Succeeds next (some r))
      (Coupled session) w := by
  refine ends_coupled h (ends_setFailedPrefixes hw) (fun m hm => hm ▸ h) (fun hphase m hm => ?_)
    fun hfollow m hm => ?_
  · rw [hphase] at hm
    simp at hm
  · obtain ⟨hcases, rfl⟩ := hm
    obtain ⟨o, hs⟩ := settledSession_of_following hfollow hcases hf (by rw [hop]; rfl) (by rw [hop]; rfl)
    simp only [NetdSession.advance, hop] at ha
    split at ha
    · simp at ha
    · injection ha with ha
      rw [hs.eq] at ha
      refine succeeds_of_following h.1 ?_
      rw [← ha]
      refine following_of_settled hfollow.phase ?_ hs.candidate hs.candidateOwner hs.pending
        hs.declaration ⟨o, rfl, hs.generation⟩
      exact hfollow.settled hs.candidate

theorem coupled_updatePolicy (h : Coupled session (some r)) (hw : Calm (some r) b w)
    (hf : session.fence request = .ok fenced)
    (hop : request.operation = .policyUpdate declaration) (ha : fenced.advance request = .ok next) :
    Ends (updatePolicy exactFormat request.owner declaration) (Succeeds next (some r))
      (Coupled session) w := by
  refine ends_coupled h (ends_updatePolicy h.1 hw) (fun m hm => coupled_of_left h hm)
    (fun hphase m hm => ?_) fun hfollow m hm => ?_
  · have hcases := hm.1
    rw [hphase] at hcases
    simp at hcases
  · obtain ⟨hcases, -, hend⟩ := hm
    obtain ⟨o, hs⟩ := settledSession_of_following hfollow hcases hf (by rw [hop]; rfl) (by rw [hop]; rfl)
    have hdeclaration : fenced.declaration = some r.declaration := by
      rw [hs.eq]
      exact hs.declaration
    simp only [NetdSession.advance, hop, hdeclaration] at ha
    split at ha
    · simp at ha
    split at ha
    · simp at ha
    · injection ha with ha
      rw [hs.eq] at ha
      rcases hend with ⟨heq, rfl⟩ | rfl
      · refine succeeds_of_following h.1 ?_
        rw [← ha]
        exact following_of_settled hfollow.phase (hfollow.settled hs.candidate) hs.candidate
          hs.candidateOwner hs.pending (heq ▸ rfl) ⟨o, rfl, hs.generation⟩
      · refine succeeds_of_following h.1 ?_
        rw [← ha]
        exact following_of_settled hfollow.phase (hfollow.settled hs.candidate) rfl rfl hs.pending
          rfl ⟨o, rfl, hs.generation⟩

/-- `Commit` and `LeaseRenew` pass the owner checks of the record for its own generation. -/
theorem retained_of_ensureStagedOwner {o : LeaseOwner} (h : Following session r)
    (hfenced : Fenced session request r fenced o)
    (hreconfigure : request.operation.isReconfigure = false)
    (howner : ensureStagedOwner r request.owner = .ok ()) :
    (r.recoveryCandidateOwner.getD r.owner).generation = request.owner.generation := by
  rcases hfenced.retained with hsame | hr | ⟨hactive, -⟩
  · exact hsame
  · rw [hreconfigure] at hr
    simp at hr
  · have hc := h.candidate_eq_none (Or.inl hactive)
    rw [ensureStagedOwner, hc] at howner
    rw [h.candidateOwner_eq_none hc]
    exact ensureOwner_generation howner

/-- The session may take over another owner of the same generation. -/
theorem Following.withOwner {o : LeaseOwner} (h : Following session r)
    (ho : o.generation = (r.recoveryCandidateOwner.getD r.owner).generation) :
    Following { session with owner := some o } r :=
  ⟨h.phase, h.staged, h.settled, h.owners, h.pending, h.declaration, o, rfl, ho⟩

theorem coupled_prepare_again (h : Coupled session (some r)) (hw : Calm (some r) b w)
    (hf : session.fence request = .ok fenced) (hop : request.operation = .prepare declaration)
    (ha : fenced.advance request = .ok next) :
    Ends (prepare exactFormat request.owner declaration)
      (fun m => Succeeds next (some r) m ∧ Coupled session m) (Coupled session) w := by
  refine Ends.mono (ends_prepare_again hw) (fun m hm => ?_) (fun m hm => hm ▸ h)
  obtain ⟨hphase, rfl⟩ := hm
  refine ⟨?_, h⟩
  rcases h.2 with ⟨hrolling, -⟩ | hfollow
  · rw [hrolling] at hphase
    simp at hphase
  · obtain ⟨o, hfenced⟩ := fenced_of_following hfollow hf
    have hretained : (r.recoveryCandidateOwner.getD r.owner).generation
        = request.owner.generation := by
      simpa [hop, NetdOperation.isReconfigure, NetdOperation.isReplacementStep]
        using hfenced.retained
    have hrunning : fenced.phase ≠ .stopped := by
      rw [hfenced.eq]
      exact hfollow.running
    have hdeclaration : fenced.declaration = some (r.recoveryCandidate.getD r.declaration) := by
      rw [hfenced.eq]
      exact hfollow.declaration
    simp only [NetdSession.advance, hop, NetdSession.applyPrepare, hdeclaration] at ha
    split at ha
    · simp at ha
    · injection ha with ha
      refine succeeds_of_following h.1 ?_
      rw [← ha, hfenced.eq]
      exact hfollow.withOwner (hfenced.generation.trans hretained.symm)

theorem coupled_commit {now timeout : UInt64} (h : Coupled session (some r))
    (hw : Calm (some r) b w) (hf : session.fence request = .ok fenced)
    (hop : request.operation = .commit) (ha : fenced.advance request = .ok next)
    (hinitial : ensureStagedOwner r request.owner = .ok () → r.phase = .prepared →
      r.recoveryCandidate = none →
      b 0 = .ok ∨ ¬ NothingKept (shift b) (cleanupCalls (committing r)))
    (hreplacement : ensureStagedOwner r request.owner = .ok () → r.phase = .prepared →
      r.recoveryCandidate ≠ none → b 0 = .ok ∧ b 1 = .ok) :
    Ends (commitWithDrain exactFormat request.owner now timeout) (Succeeds next (some r))
      (Coupled session) w := by
  refine ends_coupled h (ends_commitWithDrain h.1 hw hreplacement) (fun m hm => ?_)
    (fun hphase m hm => ?_) fun hfollow m hm => ?_
  · rcases hm with rfl | hrolling | ⟨howner, hphase, hc, hfail, hkept, -⟩
    · exact h
    · exact coupled_of_rollingBack h hrolling
    · rcases hinitial howner hphase hc with hok | hnot
      · exact absurd hok hfail
      · exact absurd hkept hnot
  · rw [hphase] at hm
    simp at hm
  · obtain ⟨howner, hend⟩ := hm
    obtain ⟨o, hfenced⟩ := fenced_of_following hfollow hf
    have hretained := retained_of_ensureStagedOwner hfollow hfenced (by rw [hop]; rfl) howner
    have hgeneration := hfenced.generation.trans hretained.symm
    have hphase : fenced.phase = session.phase := by rw [hfenced.eq]
    simp only [NetdSession.advance, hop] at ha
    rcases hend with ⟨hrunning, rfl⟩ | ⟨hprepared, hc, rfl⟩ | ⟨hprepared, hc, rfl⟩
    · -- a repeated commit
      have hnext : fenced = next := by
        have hp := hfollow.phase
        rcases hrunning with hp' | hp' <;> rw [hp', phaseOf, Option.some_inj, ← hphase] at hp <;>
          rw [← hp] at ha <;> exact Except.ok.inj ha
      rw [← hnext, hfenced.eq]
      exact succeeds_of_following h.1 (hfollow.withOwner hgeneration)
    · -- the replacement is committed and the old declaration drained
      have hp := hfollow.phase
      rw [hprepared, phaseOf, Option.some_inj, ← hphase] at hp
      rw [← hp] at ha
      have hpending : fenced.replacementPending = true := by
        rw [hfenced.eq]
        exact hfollow.pending.trans (Option.isSome_iff_ne_none.mpr hc)
      simp only [hpending, if_true] at ha
      refine succeeds_of_following h.1 ?_
      rw [← Except.ok.inj ha, hfenced.eq]
      exact ⟨rfl, fun _ => Or.inr rfl, fun hnone => absurd hnone hc, hfollow.owners,
        (Option.isSome_iff_ne_none.mpr hc).symm, hfollow.declaration, o, rfl, hgeneration⟩
    · -- the first commit
      have hp := hfollow.phase
      rw [hprepared, phaseOf, Option.some_inj, ← hphase] at hp
      rw [← hp] at ha
      have hpending : fenced.replacementPending = false := by
        rw [hfenced.eq]
        exact hfollow.pending.trans (by rw [hc]; rfl)
      simp only [hpending, Bool.false_eq_true, if_false] at ha
      refine succeeds_of_following (known_or h.1 (by decide)) ?_
      rw [← Except.ok.inj ha, hfenced.eq]
      exact ⟨rfl, fun hne => absurd hc hne, fun _ => by simp, hfollow.owners,
        (Option.isSome_eq_false_iff.mpr (Option.isNone_iff_eq_none.mpr hc)).symm,
        hfollow.declaration, o, rfl, hgeneration⟩

theorem coupled_renewLease (h : Coupled session (some r)) (hw : Calm (some r) b w)
    (hf : session.fence request = .ok fenced) (hop : request.operation = .leaseRenew)
    (ha : fenced.advance request = .ok next) :
    Ends (renewLease exactFormat request.owner) (Succeeds next (some r)) (Coupled session) w := by
  simp only [NetdSession.advance, hop] at ha
  split at ha
  · simp at ha
  injection ha with ha
  refine ends_coupled h (ends_renewLease hw) (fun m hm => hm ▸ h) (fun hphase m hm => ?_)
    fun hfollow m hm => ?_
  · obtain ⟨-, rfl⟩ := hm
    obtain ⟨hkept, hpending⟩ := fence_keeps hf
    refine ⟨⟨h.1, Or.inl ⟨hphase, fun hstopped => ?_⟩⟩, fun _ => ⟨r, rfl, hphase⟩⟩
    rw [← ha] at hstopped ⊢
    exact hpending.trans (h.idle (hkept.symm.trans hstopped))
  · obtain ⟨howner, rfl⟩ := hm
    obtain ⟨o, hfenced⟩ := fenced_of_following hfollow hf
    have hretained := retained_of_ensureStagedOwner hfollow hfenced (by rw [hop]; rfl) howner
    refine succeeds_of_following h.1 ?_
    rw [← ha, hfenced.eq]
    refine ⟨hfollow.phase, hfollow.staged, hfollow.settled, hfollow.owners, hfollow.pending,
      hfollow.declaration, request.owner, rfl, ?_⟩
    rw [← hretained]
    cases r.recoveryCandidateOwner <;> rfl

theorem coupled_drainOld {now : UInt64} (h : Coupled session (some r)) (hw : Calm (some r) b w)
    (hf : session.fence request = .ok fenced) (hop : request.operation = .drain now)
    (ha : fenced.advance request = .ok next) :
    Ends (drainOld exactFormat request.owner now) (Succeeds next (some r)) (Coupled session)
      w := by
  refine ends_coupled h (ends_drainOld hw) (fun m hm => hm ▸ h) (fun hphase m hm => ?_)
    fun hfollow m hm => ?_
  · rw [hphase] at hm
    simp at hm
  · obtain ⟨o, hfenced⟩ := fenced_of_following hfollow hf
    simp only [NetdSession.advance, hop] at ha
    split at ha
    · simp at ha
    · rename_i hdraining
      injection ha with ha
      rw [hfenced.eq] at ha hdraining
      have hdraining : r.phase = .draining := hfollow.phase_eq (not_not.mp hdraining) rfl
      rcases hm with ⟨hactive, -⟩ | ⟨-, c, hc, rfl⟩
      · rw [hactive] at hdraining
        simp at hdraining
      · have hretained : (r.recoveryCandidateOwner.getD r.owner).generation
            = request.owner.generation := by
          simpa [hop, NetdOperation.isReconfigure, NetdOperation.isReplacementStep]
            using hfenced.retained
        have howner : r.recoveryCandidateOwner.isSome = true := by
          rw [hfollow.owners, hc]
          rfl
        obtain ⟨co, hco⟩ := Option.isSome_iff_exists.mp howner
        refine succeeds_of_following h.1 ?_
        rw [← ha]
        refine following_of_settled rfl (by simp [promoteCandidate, discardCandidate]) rfl rfl rfl
          ?_ ⟨o, rfl, ?_⟩
        · exact hfollow.declaration.trans (by rw [hc]; rfl)
        · rw [hco] at hretained ⊢
          exact hfenced.generation.trans hretained.symm

theorem coupled_rollback (h : Coupled session (some r)) (hw : Calm (some r) b w)
    (hop : request.operation = .rollback)
    (ha : fenced.advance request = .ok next)
    (hstaged : stagedCandidate r ≠ none → ensureReconfigureOwner r.owner request.owner = .ok () →
      ¬ (b 0 = .ok ∧ b 1 = .ok))
    (hlost : stagedCandidate r = none → ensureOwner r.owner request.owner = .ok () →
      session.phase ≠ .stopped → NothingKept b (cleanupCalls r) → AllSucceed b (cleanupCalls r)) :
    Ends (rollback exactFormat request.owner) (Succeeds next (some r)) (Coupled session) w := by
  refine Ends.mono (ends_rollback h.1 hw hstaged) (fun m hm => ?_) (fun m hm => ?_)
  · simp only [NetdSession.advance, hop] at ha
    split at ha
    · simp at ha
    · injection ha with ha
      rw [hm, ← ha]
      exact succeeds_none rfl rfl
  · rcases hm with rfl | hrolling | ⟨hs, howner, hkept, hfailed, rfl⟩
    · exact h
    · exact coupled_of_rollingBack h hrolling
    · by_cases hstopped : session.phase = .stopped
      · exact ⟨hstopped, h.idle hstopped⟩
      · exact absurd (hlost hs howner hstopped hkept) hfailed

theorem coupled_reconfigure (h : Coupled session (some r)) (hw : Calm (some r) b w)
    (hf : session.fence request = .ok fenced) (hop : request.operation = .reconfigure declaration)
    (ha : fenced.advance request = .ok next) :
    Ends (reconfigure exactFormat request.owner declaration) (Succeeds next (some r))
      (Coupled session) w := by
  by_cases hphase : r.phase = .active ∨ r.phase = .suspended
  swap
  · obtain ⟨hactive, hsuspended⟩ := not_or.mp hphase
    exact (ends_reconfigure_refused hactive hsuspended hw).mono (fun _ hfalse => hfalse.elim)
      fun m hm => hm ▸ h
  rcases h.2 with ⟨hrolling, -⟩ | hfollow
  · rw [hrolling] at hphase
    simp at hphase
  have hc := hfollow.candidate_eq_none hphase
  have ho := hfollow.candidateOwner_eq_none hc
  obtain ⟨o, hfenced⟩ := fenced_of_following hfollow hf
  have hdeclaration : session.declaration = some r.declaration := by
    rw [hfollow.declaration, hc]
    rfl
  have hpending : session.replacementPending = false := by
    rw [hfollow.pending, hc]
    rfl
  simp only [NetdSession.advance, hop, NetdSession.applyReconfigure, hfenced.eq, hdeclaration,
    hpending] at ha
  refine Ends.mono (ends_reconfigure h.1 hc ho hw) (fun m hm => ?_)
    (fun m hm => coupled_of_left h hm)
  have hsession := hfollow.phase
  rcases hm with ⟨hactive, hne, rfl⟩ | ⟨hrunning, heq, rfl⟩ | ⟨hsuspended, hne, rfl⟩
  · rw [hactive, phaseOf, Option.some_inj] at hsession
    simp only [← hsession, reduceCtorEq, false_and, if_false, if_true, ne_eq, Option.some_inj, hne,
      not_false_eq_true] at ha
    refine succeeds_of_following h.1 ?_
    rw [← Except.ok.inj ha]
    exact ⟨rfl, fun _ => Or.inl rfl, fun hnone => by simp [stageCandidate] at hnone, rfl, rfl, rfl,
      o, rfl, hfenced.generation⟩
  · refine succeeds_of_following h.1 ?_
    rcases hrunning with hp | hp
    · rw [hp, phaseOf, Option.some_inj] at hsession
      simp only [← hsession, reduceCtorEq, false_and, if_false, if_true, ne_eq, heq,
        not_true_eq_false] at ha
      rw [← Except.ok.inj ha]
      refine following_of_settled ?_ (by simp [hp]) hc ho rfl ?_ ⟨o, rfl, hfenced.generation⟩
      · rw [hp]
        rfl
      · rw [heq]
    · rw [hp, phaseOf, Option.some_inj] at hsession
      simp only [← hsession, reduceCtorEq, false_and, if_false, if_true] at ha
      rw [← Except.ok.inj ha]
      refine following_of_settled ?_ (by simp [hp]) hc ho rfl ?_ ⟨o, rfl, hfenced.generation⟩
      · rw [hp]
        rfl
      · rw [heq]
  · rw [hsuspended, phaseOf, Option.some_inj] at hsession
    simp only [← hsession, reduceCtorEq, false_and, if_false, if_true] at ha
    refine succeeds_of_following h.1 ?_
    rw [← Except.ok.inj ha]
    refine following_of_settled ?_ (by simp [hsuspended]) hc ho rfl rfl
      ⟨o, rfl, hfenced.generation⟩
    rw [hsuspended]
    rfl

end Requests

/-! ## The service -/

section Service

variable {s : NetdService TransactionRecord} {next : NetdSession} {request : NetdRequest}
  {peer : PeerCredentials} {env : Surroundings} {before : Option TransactionRecord} {b : ℕ → Fate}

theorem wp_network {β α : Type} {p : Tx β α} {s : NetdService β}
    {Q : Except NetworkError α → NetdService β → Prop}
    {E : NetworkError → NetdService β → Prop} {C : NetdService β → Prop} :
    wp (network p) Q E C s
      ↔ wp p (fun a n => Q (.ok a) { s with network := n })
        (fun e n => Q (.error e) { s with network := n }) (fun n => C { s with network := n })
        s.network := by
  unfold wp network
  split <;> rename_i h <;> split at h <;> simp_all

/-- What is true of the service once an accepted request was carried out, or refused by the
transaction: the new session is not in place yet. -/
def Served (s : NetdService TransactionRecord) (next : NetdSession)
    (before : Option TransactionRecord) :
    Except ErrorCode ResponseBody → NetdService TransactionRecord → Prop
  | .ok _, s' => s'.session = s.session ∧ Succeeds next before s'.network.record
  | .error _, s' => s'.session = s.session ∧ Coupled s.session s'.network.record

theorem served_carryOut {body : ResponseBody}
    (hp : Ends p (Succeeds next before) (Coupled s.session) s.network) :
    wp (carryOut p body) (Served s next before) (fun _ _ => False) (fun _ => False) s := by
  rw [carryOut, wp_bind, wp_network]
  exact wp_mono hp (fun _ _ hm => ⟨rfl, hm⟩) (fun _ _ hm => ⟨rfl, hm⟩) (fun _ hf => hf)

theorem served_of_eq {body : ResponseBody} (heq : serve exactFormat env request = carryOut p body)
    (hp : Ends p (Succeeds next before) (Coupled s.session) s.network) :
    wp (serve exactFormat env request) (Served s next before) (fun _ _ => False)
      (fun _ => False) s := by
  rw [heq]
  exact served_carryOut hp

/-- A request that asks nothing of the session or the transaction that the other would not
grant. -/
def Attended (env : Surroundings) (request : NetdRequest) (peer : PeerCredentials)
    (s : NetdService TransactionRecord) : Prop :=
  s.authorises request peer = true → (∃ next, s.session.apply request = .ok next) →
    match request.operation, s.network.record with
    | .prepare declaration, none =>
      (s.tun = true ∨ env.tunCreated = true) →
        PrepareSucceeds declaration s.network.fates.backend s.network.readings →
        env.duplicated = true
    | .commit, some r =>
      ensureStagedOwner r request.owner = .ok () → r.phase = .prepared →
        if r.recoveryCandidate = none then
          s.network.fates.backend 0 = .ok
            ∨ ¬ NothingKept (shift s.network.fates.backend) (cleanupCalls (committing r))
        else s.network.fates.backend 0 = .ok ∧ s.network.fates.backend 1 = .ok
    | .rollback, some r =>
      if stagedCandidate r = none then
        ensureOwner r.owner request.owner = .ok () → s.session.phase ≠ .stopped →
          NothingKept s.network.fates.backend (cleanupCalls r) →
          AllSucceed s.network.fates.backend (cleanupCalls r)
      else
        ensureReconfigureOwner r.owner request.owner = .ok () →
          ¬ (s.network.fates.backend 0 = .ok ∧ s.network.fates.backend 1 = .ok)
    | _, _ => True

/-- `Prepare` of a stopped session. -/
theorem coupled_prepare {session fenced : NetdSession} {w : NetworkTransaction TransactionRecord}
    (h : Coupled session none) (hw : Calm none b w) (hf : session.fence request = .ok fenced)
    (hop : request.operation = .prepare declaration) (ha : fenced.advance request = .ok next) :
    Ends (prepare exactFormat request.owner declaration)
      (fun m => Succeeds next none m ∧ PrepareSucceeds declaration b w.readings)
      (Coupled session) w := by
  obtain ⟨hphase, hpending⟩ := fence_keeps hf
  rw [h.1] at hphase
  have hnext : next = { fenced with
      owner := some request.owner, declaration := some declaration, phase := .prepared } := by
    simp only [NetdSession.advance, hop, NetdSession.applyPrepare] at ha
    split at ha
    · split at ha
      · simp at ha
      · exact (Except.ok.inj ha).symm
    · rw [if_neg (not_not.mpr hphase)] at ha
      exact (Except.ok.inj ha).symm
  refine Ends.mono (ends_prepare hw) (fun m hm => ⟨?_, hm.2⟩) (fun m hm => ?_)
  · obtain ⟨r, rfl, hprepared, howner, hdeclaration, hc, ho, hknown⟩ := hm.1
    refine succeeds_of_following hknown ?_
    rw [hnext]
    refine following_of_settled ?_ (by simp [hprepared]) hc ho (hpending.trans h.2) ?_ ?_
    · rw [hprepared]
      rfl
    · rw [hdeclaration]
    · exact ⟨request.owner, rfl, by rw [howner]⟩
  · rcases hm with rfl | hrolling
    · exact h
    · exact coupled_of_rollingBack h hrolling

theorem served_servePrepare {m : Option TransactionRecord}
    (hp : Ends (prepare exactFormat request.owner declaration)
      (fun m => Succeeds next before m
        ∧ ((s.tun = true ∨ env.tunCreated = true) → env.duplicated = true
          ∨ Coupled s.session m)) (Coupled s.session) s.network) (hm : s.network.record = m)
    (h : Coupled s.session m) :
    wp (servePrepare exactFormat env request.owner declaration) (Served s next before)
      (fun _ _ => False) (fun _ => False) s := by
  rw [servePrepare, wp_bind, wp_get, wp_ite]
  refine ⟨fun _ => ⟨rfl, hm ▸ h⟩, fun htun => ?_⟩
  have htun : s.tun = true ∨ env.tunCreated = true := by
    rcases Bool.eq_false_or_eq_true s.tun with ht | ht
    · exact Or.inl ht
    · exact Or.inr (by simpa [ht] using htun)
  rw [wp_bind, wp_modify, wp_bind, wp_network]
  refine wp_mono hp ?_ ?_ (fun _ hf => hf)
  · rintro _ n ⟨hsucceeds, hdup⟩
    dsimp only
    rw [wp_ite]
    refine ⟨fun _ => ⟨rfl, hsucceeds⟩, fun hfalse => ?_⟩
    exact ⟨rfl, (hdup htun).resolve_left hfalse⟩
  · intro e n hcoupled
    exact ⟨rfl, hcoupled⟩

/-- `Commit` gives the tunnel up when it fails. -/
theorem served_commit (hop : request.operation = .commit)
    (hp : Ends (commitWithDrain exactFormat request.owner env.nowMonoMs
      (min defaultDrainTimeoutMs maxDrainTimeoutMs)) (Succeeds next before) (Coupled s.session)
      s.network) :
    wp (serve exactFormat env request) (Served s next before) (fun _ _ => False)
      (fun _ => False) s := by
  unfold serve
  simp only [hop]
  rw [wp_bind]
  refine wp_mono (served_carryOut hp) ?_ (fun _ _ hf => hf) (fun _ hf => hf)
  intro result s' hserved
  cases result with
  | error code => exact hserved
  | ok body => exact hserved

/-- `Rollback` gives it up when it succeeds. -/
theorem served_rollback (hop : request.operation = .rollback)
    (hp : Ends (rollback exactFormat request.owner) (Succeeds next before) (Coupled s.session)
      s.network) :
    wp (serve exactFormat env request) (Served s next before) (fun _ _ => False)
      (fun _ => False) s := by
  unfold serve
  simp only [hop]
  rw [wp_bind]
  refine wp_mono (served_carryOut hp) ?_ (fun _ _ hf => hf) (fun _ hf => hf)
  intro result s' hserved
  cases result with
  | error code => exact hserved
  | ok body => exact hserved

/-- Without a record only a `Prepare` can succeed. -/
theorem served_none (h : Coupled s.session none) (hw : Calm none b s.network)
    (hattended : Attended env request peer s) (hauthorised : s.authorises request peer = true)
    (happly : s.session.apply request = .ok next) (hstatus : request.operation ≠ .status) :
    wp (serve exactFormat env request) (Served s next none) (fun _ _ => False) (fun _ => False)
      s := by
  obtain ⟨fenced, hf, ha⟩ := apply_eq_ok happly
  have hstopped : fenced.phase = .stopped := (fence_keeps hf).1.trans h.1
  have hattended := hattended hauthorised ⟨next, happly⟩
  -- a transaction that is refused leaves no record either
  have hrefused : ∀ {p : Tx TransactionRecord Unit}, Ends p (fun _ => False) (fun m => m = none)
      s.network → Ends p (Succeeds next none) (Coupled s.session) s.network := by
    intro p hp
    exact hp.mono (fun _ hfalse => hfalse.elim) fun m hm => hm ▸ h
  cases hop : request.operation with
  | prepare declaration =>
    rw [hop, hw.record] at hattended
    unfold serve
    simp only [hop]
    refine served_servePrepare ?_ hw.record h
    refine Ends.mono (coupled_prepare h hw hf hop ha) (fun m hm => ⟨hm.1, fun htun => ?_⟩)
      (fun _ hm => hm)
    exact Or.inl (hattended htun (hw.backend ▸ hm.2))
  | rollback => exact served_rollback hop (hrefused (ends_rollback_none hw.record))
  | leaseRenew =>
    exact served_of_eq (by simp only [serve, hop]; rfl) (hrefused (ends_renewLease_none hw.record))
  | status => exact absurd hop hstatus
  | commit => simp [NetdSession.advance, hop, hstopped] at ha
  | mtuUpdate mtu =>
    simp only [NetdSession.advance, hop, hstopped] at ha
    split at ha <;> simp at ha
  | suspend => simp [NetdSession.advance, hop, hstopped] at ha
  | reconfigure declaration =>
    simp [NetdSession.advance, hop, NetdSession.applyReconfigure, hstopped] at ha
  | resume => simp [NetdSession.advance, hop, hstopped] at ha
  | drain now => simp [NetdSession.advance, hop, hstopped] at ha
  | withdrawPrefixes prefixes => simp [NetdSession.advance, hop, hstopped] at ha
  | policyUpdate declaration => simp [NetdSession.advance, hop, hstopped] at ha

/-- A request to a service with a record. -/
theorem served_some {r : TransactionRecord} (h : Coupled s.session (some r))
    (hw : Calm (some r) b s.network) (hattended : Attended env request peer s)
    (hauthorised : s.authorises request peer = true)
    (happly : s.session.apply request = .ok next) (hstatus : request.operation ≠ .status) :
    wp (serve exactFormat env request) (Served s next (some r)) (fun _ _ => False)
      (fun _ => False) s := by
  obtain ⟨fenced, hf, ha⟩ := apply_eq_ok happly
  have hattended := hattended hauthorised ⟨next, happly⟩
  rw [hw.record, hw.backend] at hattended
  cases hop : request.operation with
  | prepare declaration =>
    unfold serve
    simp only [hop]
    refine served_servePrepare ?_ hw.record h
    refine Ends.mono (coupled_prepare_again h hw hf hop ha) (fun m hm => ⟨hm.1, fun _ => ?_⟩)
      (fun _ hm => hm)
    exact Or.inr hm.2
  | commit =>
    simp only [hop] at hattended
    refine served_commit hop (coupled_commit h hw hf hop ha ?_ ?_)
    · intro howner hphase hc
      simpa [hc] using hattended howner hphase
    · intro howner hphase hc
      simpa [hc] using hattended howner hphase
  | rollback =>
    simp only [hop] at hattended
    refine served_rollback hop (coupled_rollback h hw hop ha ?_ ?_)
    · intro hstaged howner
      rw [if_neg hstaged] at hattended
      exact hattended howner
    · intro hstaged howner hrunning hkept
      rw [if_pos hstaged] at hattended
      exact hattended howner hrunning hkept
  | status => exact absurd hop hstatus
  | leaseRenew =>
    exact served_of_eq (by simp only [serve, hop]; rfl) (coupled_renewLease h hw hf hop ha)
  | mtuUpdate mtu =>
    exact served_of_eq (by simp only [serve, hop]; rfl) (coupled_updateMtu h hw hf hop ha)
  | suspend =>
    exact served_of_eq (by simp only [serve, hop]; rfl) (coupled_suspend h hw hf hop ha)
  | reconfigure declaration =>
    exact served_of_eq (by simp only [serve, hop]; rfl) (coupled_reconfigure h hw hf hop ha)
  | resume =>
    exact served_of_eq (by simp only [serve, hop]; rfl) (coupled_resume h hw hf hop ha)
  | drain now =>
    exact served_of_eq (by simp only [serve, hop]; rfl) (coupled_drainOld h hw hf hop ha)
  | withdrawPrefixes prefixes =>
    exact served_of_eq (by simp only [serve, hop]; rfl) (coupled_setFailedPrefixes h hw hf hop ha)
  | policyUpdate declaration =>
    exact served_of_eq (by simp only [serve, hop]; rfl) (coupled_updatePolicy h hw hf hop ha)

/-- One request keeps the coupling, and only an error puts a record on its way back. -/
theorem coupled_process {m : Option TransactionRecord} (h : Coupled s.session m)
    (hw : Calm m b s.network) (hattended : Attended env request peer s) :
    wp (process exactFormat env request peer)
      (fun response s' => Coupled s'.session s'.network.record
        ∧ (Unwinding s'.network.record → Unwinding m ∨ response.body.isError = true))
      (fun _ _ => False) (fun _ => False) s := by
  have hsame : Coupled s.session s.network.record
      ∧ (Unwinding s.network.record → Unwinding m) := by
    rw [hw.record]
    exact ⟨h, fun hu => hu⟩
  have hkept : ∀ response : NetdResponse, Coupled s.session s.network.record
      ∧ (Unwinding s.network.record → Unwinding m ∨ response.body.isError = true) :=
    fun _ => ⟨hsame.1, fun hu => Or.inl (hsame.2 hu)⟩
  rw [process, wp_bind, wp_get, wp_ite]
  refine ⟨fun _ => hkept _, fun hauthorised => ?_⟩
  have hauthorised : s.authorises request peer = true := by simpa using hauthorised
  rw [wp_ite]
  refine ⟨fun _ => hkept _, fun hstatus => ?_⟩
  cases happly : s.session.apply request with
  | error e => exact hkept _
  | ok next =>
    have hserved : wp (serve exactFormat env request) (Served s next m) (fun _ _ => False)
        (fun _ => False) s := by
      cases m with
      | none => exact served_none h hw hattended hauthorised happly hstatus
      | some r => exact served_some h hw hattended hauthorised happly hstatus
    dsimp only
    rw [wp_bind]
    refine wp_mono hserved ?_ (fun _ _ hf => hf) (fun _ hf => hf)
    intro result s' hend
    cases result with
    | error code =>
      obtain ⟨hsession, hcoupled⟩ := hend
      rw [wp_pure, hsession]
      exact ⟨hcoupled, fun _ => Or.inr rfl⟩
    | ok body =>
      obtain ⟨-, hcoupled, hunwinding⟩ := hend
      exact ⟨hcoupled, fun hu => Or.inl (hunwinding hu)⟩

end Service

/-! ## Runs -/

/-- The phases and the owner of the session are those of the record. -/
structure InStep (session : NetdSession) (m : Option TransactionRecord) : Prop where
  stopped : session.phase = .stopped ↔ m = none
  prepared : session.phase = .prepared ↔ ∃ r, m = some r ∧ r.phase = .prepared
  active : session.phase = .active ↔ ∃ r, m = some r ∧ r.phase = .active
  suspended : session.phase = .suspended ↔ ∃ r, m = some r ∧ r.phase = .suspended
  draining : session.phase = .draining ↔ ∃ r, m = some r ∧ r.phase = .draining
  generation : ∀ r, m = some r → ∃ o, session.owner = some o
    ∧ (o.generation = r.owner.generation
      ∨ ∃ co, r.recoveryCandidateOwner = some co ∧ o.generation = co.generation)

theorem inStep_of_coupled {session : NetdSession} {m : Option TransactionRecord}
    (h : Coupled session m) : Unwinding m ∨ InStep session m := by
  cases m with
  | none => exact Or.inr ⟨by simp [h.1], by simp [h.1], by simp [h.1], by simp [h.1],
      by simp [h.1], by simp⟩
  | some r =>
    rcases h.2 with ⟨hrolling, -⟩ | hfollow
    · exact Or.inl ⟨r, rfl, hrolling⟩
    · have hphase : ∀ {p : SessionPhase} {q : TransactionPhase}, phaseOf q = some p →
          (session.phase = p ↔ ∃ r', some r = some r' ∧ r'.phase = q) := by
        intro p q hq
        constructor
        · intro hp
          exact ⟨r, rfl, hfollow.phase_eq hp hq⟩
        · rintro ⟨r', hr', rfl⟩
          cases hr'
          exact Option.some_inj.mp (hfollow.phase.symm.trans hq)
      refine Or.inr ⟨?_, hphase rfl, hphase rfl, hphase rfl, hphase rfl, ?_⟩
      · exact ⟨fun hs => absurd hs hfollow.running, fun hnone => by simp at hnone⟩
      · rintro r' hr'
        cases hr'
        obtain ⟨o, ho, hgeneration⟩ := hfollow.generation
        refine ⟨o, ho, ?_⟩
        cases hco : r.recoveryCandidateOwner with
        | none => exact Or.inl (by rw [hgeneration, hco]; rfl)
        | some co => exact Or.inr ⟨co, rfl, by rw [hgeneration, hco]; rfl⟩

/-- A service that was just started over an empty journal. -/
def NetdService.fresh {β : Type} (allowedUid allowedGid : UInt32) : NetdService β :=
  { allowedUid, allowedGid, session := .new, tun := false, network := .fresh }

/-- The service in front of a request whose calls end as given. -/
def NetdService.facing {β : Type} (s : NetdService β) (fates : Fates)
    (readings : SysctlKey → Option (Fin 3)) : NetdService β :=
  { s with network := s.network.facing fates readings }

/-- One request: backend calls succeed or fail, journal writes succeed. -/
inductive Serves
    (permitted : Surroundings → NetdRequest → PeerCredentials → NetdService TransactionRecord → Prop)
    (s : NetdService TransactionRecord) : NetdResponse → NetdService TransactionRecord → Prop where
  | request (env : Surroundings) (request : NetdRequest) (peer : PeerCredentials) (fates : Fates)
      (readings : SysctlKey → Option (Fin 3)) (response : NetdResponse)
      (s' : NetdService TransactionRecord)
      (hpermitted : permitted env request peer (s.facing fates readings))
      (halive : ∀ n, fates.backend n ≠ .crash) (hjournal : ∀ n, fates.journal n = .ok)
      (hprocess : process exactFormat env request peer (s.facing fates readings)
        = (.ok response, s')) : Serves permitted s response s'

/-- The states a fresh service reaches. -/
def ServiceReachable
    (permitted : Surroundings → NetdRequest → PeerCredentials → NetdService TransactionRecord → Prop)
    (s : NetdService TransactionRecord) : Prop :=
  ∃ uid gid, Relation.ReflTransGen (fun s s' => ∃ response, Serves permitted s response s')
    (.fresh uid gid) s

theorem coupled_of_serves {s s' : NetdService TransactionRecord} {response : NetdResponse}
    (h : Coupled s.session s.network.record) (hs : Serves Attended s response s') :
    Coupled s'.session s'.network.record
      ∧ (Unwinding s'.network.record
        → Unwinding s.network.record ∨ response.body.isError = true) := by
  cases hs with
  | request env request peer fates readings _ _ hattended halive hjournal hprocess =>
    have hw : Calm s.network.record fates.backend (s.facing fates readings).network :=
      ⟨rfl, rfl, halive, hjournal⟩
    have hend := coupled_process (s := s.facing fates readings) h hw hattended
    rw [wp, hprocess] at hend
    exact hend

theorem coupled_of_reachable {s : NetdService TransactionRecord}
    (h : ServiceReachable Attended s) : Coupled s.session s.network.record := by
  obtain ⟨uid, gid, hrun⟩ := h
  have hstep : ∀ s s' : NetdService TransactionRecord, Coupled s.session s.network.record →
      (∃ response, Serves Attended s response s') → Coupled s'.session s'.network.record := by
    rintro s s' hcoupled ⟨response, hs⟩
    exact (coupled_of_serves hcoupled hs).1
  have hstart : Coupled NetdSession.new none := ⟨rfl, rfl⟩
  exact reachable_induction (I := fun s => Coupled s.session s.network.record) hrun hstart hstep

/-- After every attended request of a run the session and the record agree, unless the record
is on its way back, and it goes on that way only under an error. -/
theorem inStep_of_reachable {s : NetdService TransactionRecord} (h : ServiceReachable Attended s) :
    (Unwinding s.network.record ∨ InStep s.session s.network.record)
      ∧ ∀ response s', Serves Attended s response s' → Unwinding s'.network.record →
        Unwinding s.network.record ∨ response.body.isError = true := by
  have hcoupled := coupled_of_reachable h
  refine ⟨inStep_of_coupled hcoupled, ?_⟩
  intro response s' hs hunwinding
  exact (coupled_of_serves hcoupled hs).2 hunwinding

namespace Sample

def env : Surroundings := { tunCreated := true, duplicated := true, nowMonoMs := 10 }

def peer : PeerCredentials := { pid := 7, uid := 1000, gid := 1000 }

def request (operation : NetdOperation) : NetdRequest := { requestId := 1, owner, operation }

/-- A request all of whose calls succeed. -/
def serveOnce (s : NetdService TransactionRecord) (operation : NetdOperation) :
    NetdService TransactionRecord :=
  (process exactFormat env (request operation) peer (s.facing .allOk readings)).2

/-- The service after a list of them. -/
def service (operations : List NetdOperation) : NetdService TransactionRecord :=
  operations.foldl serveOnce (.fresh 1000 1000)

theorem reachable_serveOnce
    {permitted : Surroundings → NetdRequest → PeerCredentials → NetdService TransactionRecord → Prop}
    {s : NetdService TransactionRecord} (operation : NetdOperation) (response : NetdResponse)
    (h : ServiceReachable permitted s)
    (hpermitted : permitted env (request operation) peer (s.facing .allOk readings))
    (hprocess : (process exactFormat env (request operation) peer (s.facing .allOk readings)).1
      = .ok response) : ServiceReachable permitted (serveOnce s operation) := by
  obtain ⟨uid, gid, hrun⟩ := h
  refine ⟨uid, gid, hrun.tail ⟨response, ?_⟩⟩
  have halive : ∀ n, Fates.allOk.backend n ≠ .crash := by simp [Fates.allOk]
  exact .request env (request operation) peer .allOk readings response _ hpermitted halive
    (fun _ => rfl) (Prod.ext hprocess rfl)

end Sample

/-- A service that prepares and commits is in step. -/
theorem inStep_of_committed :
    (Sample.service [.prepare Sample.declaration, .commit]).session.phase = .active
      ∧ (Unwinding (Sample.service [.prepare Sample.declaration, .commit]).network.record
        ∨ InStep (Sample.service [.prepare Sample.declaration, .commit]).session
          (Sample.service [.prepare Sample.declaration, .commit]).network.record) := by
  have hfresh : ServiceReachable Attended (Sample.service []) := ⟨1000, 1000, .refl⟩
  have hprepare : ServiceReachable Attended (Sample.service [.prepare Sample.declaration]) :=
    Sample.reachable_serveOnce (.prepare Sample.declaration) ⟨1, .prepared 3 true⟩ hfresh
      (fun _ _ _ _ => rfl) (by decide)
  have hcommit : ServiceReachable Attended
      (Sample.service [.prepare Sample.declaration, .commit]) := by
    refine Sample.reachable_serveOnce .commit ⟨1, .committed 3⟩ hprepare ?_ (by decide)
    intro _ _ _ _
    exact Or.inl rfl
  exact ⟨by decide, (inStep_of_reachable hcommit).1⟩

/-- The roll-back of a staged replacement stops the session and leaves an active record. -/
theorem not_inStep_of_rolledBack :
    ¬ ∀ s, ServiceReachable (fun _ _ _ _ => True) s →
      Unwinding s.network.record ∨ InStep s.session s.network.record := by
  intro hall
  have hreachable : ServiceReachable (fun _ _ _ _ => True)
      (Sample.service [.prepare Sample.declaration, .commit, .reconfigure Sample.replacement,
        .rollback]) := by
    have hfresh : ServiceReachable (fun _ _ _ _ => True) (Sample.service []) :=
      ⟨1000, 1000, .refl⟩
    have hprepare := Sample.reachable_serveOnce (.prepare Sample.declaration)
      ⟨1, .prepared 3 true⟩ hfresh trivial (by decide)
    have hcommit := Sample.reachable_serveOnce .commit ⟨1, .committed 3⟩ hprepare trivial
      (by decide)
    have hreconfigure := Sample.reachable_serveOnce (.reconfigure Sample.replacement)
      ⟨1, .reconfigured 3⟩ hcommit trivial (by decide)
    exact Sample.reachable_serveOnce .rollback ⟨1, .rolledBack 3⟩ hreconfigure trivial
      (by decide)
  have hstopped : (Sample.service [.prepare Sample.declaration, .commit,
      .reconfigure Sample.replacement, .rollback]).session.phase = .stopped := by decide
  have hactive : (Sample.service [.prepare Sample.declaration, .commit,
      .reconfigure Sample.replacement, .rollback]).network.record.map (·.phase)
      = some .active := by decide
  rcases hall _ hreachable with ⟨r, hr, hphase⟩ | hin
  · rw [hr, Option.map_some, hphase] at hactive
    simp at hactive
  · rw [hin.stopped.mp hstopped] at hactive
    simp at hactive

end CandyRuntime.NetdV1
