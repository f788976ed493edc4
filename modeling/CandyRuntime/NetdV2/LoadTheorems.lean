import CandyRuntime.NetdV2.GenerationTheorems

/-!
# What the v2 service stores, it can load

The loader of the journal repeats, as checks, what every operation is meant to keep. Two
operations do not keep it. A live policy is published with the failed prefixes that are still
not local in it, where the loader asks for remote routes; and the repair of a missing device
revokes a forward record without giving up its policy intent, which the loader only accepts
on an active record. In the runs in which neither happens, every state in memory and every
state in the journal can be loaded.
-/

namespace CandyRuntime.NetdV2

open Lib Lib.Proc NetdProto NetdV1

variable {w w' : InfrastructureService}

/-! ## Records -/

/-- The failed prefixes that a live policy retains are remote routes of it. -/
def Retainable (failed : List Ipv4Prefix) (target : PrepareDeclaration) : Prop :=
  ∀ p ∈ failed, (∃ r ∈ target.routes, r.ipv4Prefix = p ∧ r.kind ≠ .localSite) →
    ∃ r ∈ target.routes, r.kind = .remote ∧ r.ipv4Prefix = p

instance (failed : List Ipv4Prefix) (target : PrepareDeclaration) :
    Decidable (Retainable failed target) := by
  unfold Retainable
  infer_instance

/-- What the loader asks of a policy intent, and that its publication will load again. -/
structure IntentLoads (candidate : Bool) (r : ForwardRecord) (p : PendingPolicy) : Prop where
  declaration : p.declaration.validate = .ok ()
  identity : validateLivePolicyIdentity r.declaration p.declaration = .ok ()
  revision : r.policyRevision < p.revision
  generation : r.generation ≤ p.generation
  hash : validPolicyHash p.authorizationSnapshotSha256 = true
  failures : r.pendingFailedPrefixes = none
  candidate : candidate = false
  phase : r.phase = .active
  retainable : Retainable r.failedPrefixes p.declaration

/-- What the loader asks of a record; `candidate` says whether the state has a candidate. -/
structure RecordLoads (candidate : Bool) (r : ForwardRecord) : Prop where
  owner : r.owner.validate = .ok ()
  declaration : r.declaration.validate = .ok ()
  failed : validateFailedPrefixes r.declaration r.failedPrefixes = .ok ()
  pendingFailed : ∀ target, r.pendingFailedPrefixes = some target →
    validateFailedPrefixes r.declaration target = .ok ()
  metadata : metadataValid r = true
  policy : ∀ p, r.pendingPolicy = some p → IntentLoads candidate r p
  paired : r.pendingFailedPrefixes.isSome = r.pendingFailureRevision.isSome
  revision : ∀ revision, r.pendingFailureRevision = some revision → r.failureRevision < revision

theorem RecordLoads.recordLoadable {s : State} (h : RecordLoads s.candidate.isSome r) :
    recordLoadable s r = true := by
  have hpending : r.pendingFailedPrefixes.all
      (fun p => (validateFailedPrefixes r.declaration p).isOk) = true := by
    rw [Option.all_eq_true]
    intro target htarget
    rw [h.pendingFailed target htarget]
    rfl
  have hpolicy : r.pendingPolicy.all (pendingPolicyValid s r) = true := by
    rw [Option.all_eq_true]
    intro p hp
    have hintent := h.policy p hp
    simp [pendingPolicyValid, hintent.declaration, hintent.identity, hintent.hash,
      hintent.failures, hintent.phase, hintent.candidate, hintent.revision, hintent.generation,
      Except.isOk, Except.toBool]
  have hrevision : r.pendingFailureRevision.any
      (fun revision => decide (revision ≤ r.failureRevision)) = false := by
    rw [Option.any_eq_false]
    intro revision hsome
    have hlt := h.revision revision hsome
    rw [decide_eq_false_iff_not]
    omega
  rw [CandyRuntime.NetdV2.recordLoadable, h.owner, h.declaration, h.failed, hpending, h.metadata,
    hpolicy, hrevision, h.paired]
  simp [Except.isOk, Except.toBool]

/-! ## The policy fields -/

theorem metadataValid_iff :
    metadataValid r = true ↔
      (r.policyRevision = 0 ∧ r.policyGeneration = none ∧ r.policyHash = none)
        ∨ ∃ generation hash, 0 < r.policyRevision ∧ r.policyGeneration = some generation
          ∧ r.policyHash = some hash ∧ r.owner.signedGeneration ≤ generation
          ∧ validPolicyHash hash = true := by
  unfold metadataValid
  rcases r.policyRevision with _ | revision <;> rcases r.policyGeneration with _ | generation <;>
    rcases r.policyHash with _ | hash <;> simp

theorem signedGeneration_le (h : metadataValid r = true) :
    r.owner.signedGeneration ≤ r.generation := by
  rw [ForwardRecord.generation]
  rcases metadataValid_iff.mp h with ⟨_, hgeneration, _⟩ | ⟨g, _, _, hgeneration, _, hle, _⟩
  · rw [hgeneration, Option.getD_none]
  · rw [hgeneration, Option.getD_some]
    exact hle

/-- The policy fields that an accepted update leaves behind. -/
theorem metadataValid_updated {generation : ℕ} {hash : String} (h : metadataValid r = true)
    (howner : r'.owner = r.owner) (hrevision : r.policyRevision < r'.policyRevision)
    (hgeneration : r.generation ≤ generation) (hset : r'.policyGeneration = some generation)
    (hhash : r'.policyHash = some hash) (hvalid : validPolicyHash hash = true) :
    metadataValid r' = true := by
  have hsigned := signedGeneration_le h
  refine metadataValid_iff.mpr (Or.inr ⟨generation, hash, ?_, hset, hhash, ?_, hvalid⟩)
  · omega
  · rw [howner]
    omega

/-- A published policy loads with the failed prefixes it retains. -/
theorem validateFailedPrefixes_retained {failed : List Ipv4Prefix} {d target : PrepareDeclaration}
    (h : validateFailedPrefixes d failed = .ok ()) (hretainable : Retainable failed target) :
    validateFailedPrefixes target (retainedFailures failed target) = .ok () := by
  rw [validateFailedPrefixes, ite_eq_left_iff] at h
  have hvalid : failed.Nodup := by
    by_contra hdup
    exact absurd (h fun hboth => hdup hboth.1) (by simp)
  rw [validateFailedPrefixes, if_pos]
  refine ⟨hvalid.filter _, ?_⟩
  intro p hp
  rw [retainedFailures, List.mem_filter] at hp
  apply hretainable p hp.1
  simpa [List.any_eq_true] using hp.2

/-! ## Changes -/

variable {r r' : ForwardRecord} {candidate : Bool}
variable {E : Surroundings} {op : Option Operation} {lo n : ℕ} {s s' : State}

/-- A policy update of the operation can be published over the record. -/
def UpdateRetainable (op : Option Operation) (r : ForwardRecord) : Prop :=
  ∀ owner revision generation hash declaration,
    op = some (.forwardPolicyUpdate owner revision generation hash declaration) →
    r.phase = .active →
    Retainable (r.pendingFailedPrefixes.getD r.failedPrefixes) declaration

/-- No policy intent: the record is not active, or the state has a candidate. -/
theorem RecordLoads.unintended (h : RecordLoads candidate r)
    (hr : r.phase ≠ .active ∨ candidate = true) :
    r.pendingPolicy = none := by
  rw [Option.eq_none_iff_forall_ne_some]
  intro p hp
  have hintent := h.policy p hp
  rcases hr with hphase | hcandidate
  · exact hphase hintent.phase
  · rw [hintent.candidate] at hcandidate
    exact absurd hcandidate (by simp)

/-- A record without policy intent loads in every phase, with or without a candidate. -/
theorem RecordLoads.enter (h : RecordLoads candidate r) (hpolicy : r.pendingPolicy = none)
    (candidate' : Bool) (phase : Phase) :
    RecordLoads candidate' { r with phase } where
  owner := h.owner
  declaration := h.declaration
  failed := h.failed
  pendingFailed := h.pendingFailed
  metadata := h.metadata
  policy := fun p hp => absurd (hpolicy.symm.trans hp) (by simp)
  paired := h.paired
  revision := h.revision

theorem RecordLoads.revoke (h : RecordLoads candidate r) (candidate' : Bool) :
    RecordLoads candidate' r.revoke where
  owner := h.owner
  declaration := h.declaration
  failed := h.failed
  pendingFailed := fun target htarget => absurd htarget (by simp [ForwardRecord.revoke])
  metadata := h.metadata
  policy := fun p hp => absurd hp (by simp [ForwardRecord.revoke])
  paired := rfl
  revision := fun revision hrevision => absurd hrevision (by simp [ForwardRecord.revoke])

theorem recordLoads_accepted {owner : ForwardOwner} {declaration : PrepareDeclaration}
    (howner : owner.validate = .ok ()) (hvalid : declaration.validate = .ok ())
    (candidate : Bool) (phase : Phase) :
    RecordLoads candidate (.accepted owner declaration phase) where
  owner := howner
  declaration := hvalid
  failed := by simp [validateFailedPrefixes, ForwardRecord.accepted]
  pendingFailed := fun target htarget => absurd htarget (by simp [ForwardRecord.accepted])
  metadata := rfl
  policy := fun p hp => absurd hp (by simp [ForwardRecord.accepted])
  paired := rfl
  revision := fun revision hrevision => absurd hrevision (by simp [ForwardRecord.accepted])

/-- A snapshot of failed prefixes settles: no other one is pending. -/
theorem RecordLoads.fail (h : RecordLoads candidate r) (hpolicy : r.pendingPolicy = none)
    {target : List Ipv4Prefix} (htarget : validateFailedPrefixes r.declaration target = .ok ())
    (revision : ℕ) :
    RecordLoads candidate (r.settleFailures target revision) where
  owner := h.owner
  declaration := h.declaration
  failed := htarget
  pendingFailed := fun target htarget => absurd htarget (by simp [ForwardRecord.settleFailures])
  metadata := h.metadata
  policy := fun p hp => absurd (hpolicy.symm.trans hp) (by simp)
  paired := rfl
  revision := fun revision hrevision => absurd hrevision (by simp [ForwardRecord.settleFailures])

/-- Without pending failures there is no pending revision. -/
theorem RecordLoads.unpaired (h : RecordLoads candidate r)
    (hpending : r.pendingFailedPrefixes = none) : r.pendingFailureRevision = none := by
  have hpaired := h.paired
  rw [hpending] at hpaired
  exact Option.isNone_iff_eq_none.mp (by simpa using hpaired.symm)

theorem RecordLoads.preparedChange (h : RecordLoads candidate r) (hchange : PreparedChange r r') :
    RecordLoads candidate r' := by
  cases hchange with
  | authorized authority hphase =>
    have hpolicy := h.unintended (Or.inl (by rw [hphase]; simp))
    exact ⟨h.owner, h.declaration, h.failed, h.pendingFailed, h.metadata,
      fun p hp => absurd (hpolicy.symm.trans hp) (by simp), h.paired, h.revision⟩
  | failures revision target hphase hvalid hpending hrevision =>
    have hpolicy := h.unintended (Or.inl (by rw [hphase]; simp))
    have hsame : { r with failureRevision := revision, failedPrefixes := target }
        = r.settleFailures target revision := by
      rw [ForwardRecord.settleFailures, hpending.symm, (h.unpaired hpending).symm]
    rw [hsame]
    exact h.fail hpolicy hvalid revision

theorem RecordLoads.forwardChange (h : RecordLoads candidate r) (hop : UpdateRetainable op r)
    (hchange : ForwardChange op candidate r r') : RecordLoads candidate r' := by
  cases hchange with
  | whilePrepared r' hprepared => exact h.preparedChange hprepared
  | prepared hphase => exact h.enter (h.unintended (Or.inl (by rw [hphase]; simp))) candidate _
  | activated operation hop' hcommits hphase hpolicy => exact h.enter hpolicy candidate _
  | guarded hphase hpolicy => exact h.enter hpolicy candidate _
  | cancelled p hpolicy =>
    have hintent := h.policy p hpolicy
    refine ⟨h.owner, h.declaration, h.failed, h.pendingFailed, h.metadata, ?_, h.paired,
      h.revision⟩
    intro q hq
    cases hq
    exact ⟨hintent.declaration, hintent.identity, hintent.revision, hintent.generation,
      hintent.hash, hintent.failures, hintent.candidate, hintent.phase, hintent.retainable⟩
  | fenced p hpolicy hcancelled =>
    exact ⟨h.owner, h.declaration, h.failed, h.pendingFailed, h.metadata,
      fun q hq => absurd hq (by simp), h.paired, h.revision⟩
  | revoked => exact h.revoke candidate
  | renewed owner hvalid howner hphase =>
    -- only the lease deadline moves: the generations are those of the record
    have hgeneration : ({ r with owner } : ForwardRecord).generation = r.generation := by
      simp only [ForwardRecord.generation]
      rw [howner.signedGeneration]
    have hmetadata : metadataValid { r with owner } = metadataValid r := by
      simp only [metadataValid, howner.signedGeneration]
    refine ⟨hvalid, h.declaration, h.failed, h.pendingFailed, hmetadata.trans h.metadata, ?_,
      h.paired, h.revision⟩
    intro p hp
    have hintent := h.policy p hp
    exact ⟨hintent.declaration, hintent.identity, hintent.revision,
      hgeneration.le.trans hintent.generation, hintent.hash, hintent.failures, hintent.candidate,
      hintent.phase, hintent.retainable⟩
  | failuresUnchanged revision hphase hpending hrevision =>
    refine ⟨h.owner, h.declaration, h.failed, h.pendingFailed, h.metadata, ?_, h.paired, ?_⟩
    · intro p hp
      have hintent := h.policy p hp
      exact ⟨hintent.declaration, hintent.identity, hintent.revision, hintent.generation,
        hintent.hash, hintent.failures, hintent.candidate, hintent.phase, hintent.retainable⟩
    · intro revision hrevision
      exact absurd ((h.unpaired hpending).symm.trans hrevision) (by simp)
  | failuresIntended owner revision failed target hop' hphase hvalid hpolicy hpending hrevision =>
    refine ⟨h.owner, h.declaration, h.failed, ?_, h.metadata,
      fun q hq => absurd (hpolicy.symm.trans hq) (by simp), rfl, ?_⟩
    · intro target' htarget
      cases htarget
      exact hvalid
    · intro revision' hrevision'
      cases hrevision'
      rw [h.unpaired hpending, Option.getD_none] at hrevision
      exact hrevision
  | failuresSettled revision target hpending hrevision =>
    refine h.fail ?_ (h.pendingFailed target hpending) revision
    rw [Option.eq_none_iff_forall_ne_some]
    intro p hp
    have hnone := (h.policy p hp).failures
    rw [hpending] at hnone
    exact absurd hnone (by simp)
  | policyRecorded revision generation hash hphase hrevision hgeneration hhash hcandidate hpolicy =>
    exact ⟨h.owner, h.declaration, h.failed, h.pendingFailed,
      metadataValid_updated h.metadata rfl hrevision hgeneration rfl rfl hhash,
      fun q hq => absurd (hpolicy.symm.trans hq) (by simp), h.paired, h.revision⟩
  | policyIntended owner p hop' hphase hcandidate hfailures hvalid hidentity hrevision hgeneration
      hhash =>
    refine ⟨h.owner, h.declaration, h.failed, h.pendingFailed, h.metadata, ?_, h.paired,
      h.revision⟩
    intro q hq
    cases hq
    have hretainable := hop _ _ _ _ _ hop' hphase
    rw [hfailures, Option.getD_none] at hretainable
    exact ⟨hvalid, hidentity, hrevision, hgeneration, hhash, hfailures, hcandidate, hphase,
      hretainable⟩
  | policyPublished p hpolicy hphase hcandidate hfailures =>
    have hintent := h.policy p hpolicy
    refine ⟨h.owner, hintent.declaration, ?_, ?_, ?_, ?_, h.paired, h.revision⟩
    · exact validateFailedPrefixes_retained h.failed hintent.retainable
    · intro target htarget
      exact absurd (hfailures.symm.trans htarget) (by simp)
    · exact metadataValid_updated h.metadata rfl hintent.revision hintent.generation rfl rfl
        hintent.hash
    · intro q hq
      exact absurd hq (by simp [ForwardRecord.publish])

/-! ## States -/

/-- Every state that keeps this is accepted by the loader. -/
structure Loads (s : State) : Prop where
  spec : ∀ spec, s.spec = some spec → spec.validate = .ok ()
  forward : ∀ f, s.forward = some f → RecordLoads s.candidate.isSome f
  candidate : ∀ c, s.candidate = some c → RecordLoads true c

theorem Loads.loadable (h : Loads s) : s.loadable = true := by
  have hspec : s.spec.all (fun spec => spec.validate.isOk) = true := by
    rw [Option.all_eq_true]
    intro spec hsome
    rw [h.spec spec hsome]
    rfl
  have hforward : s.forward.all (recordLoadable s) = true := by
    rw [Option.all_eq_true]
    intro f hf
    exact (h.forward f hf).recordLoadable
  have hcandidate : s.candidate.all (recordLoadable s) = true := by
    rw [Option.all_eq_true]
    intro c hc
    apply RecordLoads.recordLoadable
    rw [hc]
    exact h.candidate c hc
  rw [State.loadable, hspec, hforward, hcandidate]
  rfl

theorem loads_default : Loads .default := by
  constructor <;> simp [State.default]

/-- The forward record has no policy intent. -/
def Unintended (s : State) : Prop := ∀ f, s.forward = some f → f.pendingPolicy = none

/-- The forward record of a state with a candidate has no policy intent. -/
theorem Loads.unintended_of_candidate (h : Loads s) {c f : ForwardRecord}
    (hc : s.candidate = some c) (hf : s.forward = some f) : f.pendingPolicy = none :=
  (h.forward f hf).unintended (Or.inr (by rw [hc]; rfl))

theorem Loads.candidate_unintended (h : Loads s) {c : ForwardRecord}
    (hc : s.candidate = some c) : c.pendingPolicy = none :=
  (h.candidate c hc).unintended (Or.inr rfl)

/-- The device was there whenever it was looked for before the moment `n`. -/
def DevicePresent (E : Surroundings) (lo n : ℕ) : Prop :=
  ∀ t, lo ≤ t → t < n → (E.moment t).interface ≠ none

theorem Loads.change (h : Loads s) (hupdate : ∀ f, s.forward = some f → UpdateRetainable op f)
    (hrepair : ∀ spec, op = some (.infraEnsure spec) → Unintended s ∨ DevicePresent E lo n)
    (hchange : Change E op lo n s s') : Loads s' := by
  cases hchange with
  | created => exact ⟨h.spec, h.forward, h.candidate⟩
  | ensured spec marker bootId caller hop hnone hvalid =>
    refine ⟨?_, h.forward, h.candidate⟩
    intro spec' hspec
    cases hspec
    exact hvalid
  | repaired spec marker bootId hop hmissing hunheld =>
    obtain ⟨t, hlo, ht, hnone⟩ := hmissing
    have hunintended : Unintended s := by
      rcases hrepair spec hop with hunintended | hpresent
      · exact hunintended
      · exact absurd hnone (hpresent t hlo ht)
    refine ⟨h.spec, ?_, by simp⟩
    intro f hf
    simp only [State.mapForward, Option.map_eq_some_iff] at hf
    obtain ⟨f₀, hf₀, rfl⟩ := hf
    exact (h.forward f₀ hf₀).enter (hunintended f₀ hf₀) _ _
  | acquired => exact ⟨h.spec, h.forward, h.candidate⟩
  | released => exact ⟨h.spec, h.forward, h.candidate⟩
  | retired => exact loads_default
  | preparing _ _ owner declaration sysctls hop hforward hcandidate howner hvalid =>
    refine ⟨h.spec, ?_, h.candidate⟩
    intro f hf
    cases hf
    exact recordLoads_accepted howner hvalid _ _
  | retried previous hforward hphase hcandidate howner hvalid =>
    refine ⟨h.spec, ?_, h.candidate⟩
    intro f hf
    cases hf
    exact recordLoads_accepted howner hvalid _ _
  | admitted _ _ previous owner declaration hop hforward hcandidate hadmitted hpolicy howner
      hvalid =>
    refine ⟨h.spec, ?_, ?_⟩
    · intro f hf
      rw [hforward, Option.some.injEq] at hf
      rw [← hf]
      exact (h.forward previous hforward).enter hpolicy _ previous.phase
    · intro c hc
      cases hc
      exact recordLoads_accepted howner hvalid _ _
  | dropped =>
    refine ⟨h.spec, ?_, by simp⟩
    intro f hf
    by_cases hcandidate : s.candidate = none
    · have hloads := h.forward f hf
      rw [hcandidate] at hloads
      exact hloads
    · obtain ⟨c, hc⟩ := Option.ne_none_iff_exists'.mp hcandidate
      exact (h.forward f hf).enter (h.unintended_of_candidate hc hf) _ f.phase
  | intended c previous hc hprevious =>
    refine ⟨h.spec, ?_, ?_⟩
    · intro f hf
      have hloads := h.forward f hf
      rw [hc] at hloads
      exact hloads
    · intro c' hc'
      cases hc'
      exact (h.candidate c hc).enter (h.candidate_unintended hc) _ _
  | committed operation c previous hop hcommits hc hprevious =>
    refine ⟨h.spec, ?_, by simp⟩
    intro f hf
    cases hf
    exact (h.candidate c hc).enter (h.candidate_unintended hc) _ _
  | rolledBack c previous kept hc hprevious hkept =>
    have hpolicy := h.unintended_of_candidate hc hprevious
    refine ⟨h.spec, ?_, by simp⟩
    intro f hf
    cases hf
    cases kept with
    | true => exact (h.forward previous hprevious).enter hpolicy _ previous.phase
    | false => exact (h.forward previous hprevious).enter hpolicy _ _
  | withdrawn r hr =>
    refine ⟨h.spec, ?_, by simp⟩
    intro f hf
    cases hf
    exact (h.forward r hr).revoke _
  | forwarding r r' hr hchange =>
    refine ⟨h.spec, ?_, h.candidate⟩
    intro f hf
    cases hf
    exact (h.forward r hr).forwardChange (hupdate r hr) hchange
  | candidacy r r' hr hchange =>
    refine ⟨h.spec, ?_, ?_⟩
    · intro f hf
      have hloads := h.forward f hf
      rw [hr] at hloads
      exact hloads
    · intro c hc
      cases hc
      exact (h.candidate r hr).preparedChange hchange

/-! ## The conditions along a step -/

/-- The operation is not a policy update. -/
theorem not_update_of_commits {operation : Operation} {o owner : ForwardOwner}
    {revision generation : ℕ} {hash : String} {declaration : PrepareDeclaration}
    (hcommits : operation.commits o) (hop : op = some operation) :
    op ≠ some (.forwardPolicyUpdate owner revision generation hash declaration) := by
  intro heq
  rw [hop, Option.some.injEq] at heq
  rw [heq] at hcommits
  exact hcommits

theorem UpdateRetainable.of_not_active (h : r.phase ≠ .active) :
    UpdateRetainable op r :=
  fun _ _ _ _ _ _ hphase => absurd hphase h

theorem UpdateRetainable.forwardChange (h : UpdateRetainable op r)
    (hchange : ForwardChange op candidate r r') :
    UpdateRetainable op r' := by
  cases hchange with
  | whilePrepared r' hprepared =>
    apply UpdateRetainable.of_not_active
    rw [hprepared.phase]
    cases hprepared with
    | authorized authority hphase => rw [hphase]; simp
    | failures revision target hphase => rw [hphase]; simp
  | prepared => exact .of_not_active (by simp)
  | activated operation hop hcommits =>
    intro _ _ _ _ _ hupdate
    exact absurd hupdate (not_update_of_commits hcommits hop)
  | guarded => exact .of_not_active (by simp)
  | fenced => exact .of_not_active (by simp)
  | revoked => exact .of_not_active (by simp [ForwardRecord.revoke])
  | failuresIntended owner revision failed target hop =>
    intro _ _ _ _ _ hupdate
    rw [hop] at hupdate
    exact absurd hupdate (by simp)
  | failuresSettled revision target hpending =>
    intro owner revision' generation hash declaration hupdate hphase
    have hretainable := h owner revision' generation hash declaration hupdate hphase
    rw [hpending, Option.getD_some] at hretainable
    exact hretainable
  | policyPublished p hpolicy hphase hcandidate hfailures =>
    -- the retained failures are among those of before
    intro owner revision generation hash declaration hupdate hactive
    have hretainable := h owner revision generation hash declaration hupdate hphase
    simp only [ForwardRecord.publish, hfailures, Option.getD_none] at hretainable ⊢
    exact fun p hp => hretainable p (List.mem_of_mem_filter hp)
  | _ => exact h

theorem updateRetainable_change {f : ForwardRecord}
    (h : ∀ f, s.forward = some f → UpdateRetainable op f) (hchange : Change E op lo n s s')
    (hf : s'.forward = some f) : UpdateRetainable op f := by
  cases hchange with
  | repaired =>
    simp only [State.mapForward, Option.map_eq_some_iff] at hf
    obtain ⟨f₀, hf₀, rfl⟩ := hf
    exact .of_not_active (by simp)
  | retired => exact absurd hf (by simp [State.default])
  | preparing _ _ owner declaration sysctls hop =>
    intro _ _ _ _ _ hupdate
    rw [hop] at hupdate
    exact absurd hupdate (by simp)
  | retried previous hforward hphase hcandidate howner hvalid =>
    cases hf
    exact .of_not_active (by simp [ForwardRecord.accepted])
  | committed operation c previous hop hcommits =>
    intro _ _ _ _ _ hupdate
    exact absurd hupdate (not_update_of_commits hcommits hop)
  | rolledBack c previous kept hc hprevious hkept =>
    cases hf
    cases kept with
    | true => exact h previous hprevious
    | false => exact .of_not_active (by simp)
  | withdrawn r hr =>
    cases hf
    exact .of_not_active (by simp [ForwardRecord.revoke])
  | forwarding r r' hr hchange =>
    cases hf
    exact (h r hr).forwardChange hchange
  | _ => exact h f hf

theorem ForwardChange.unintended (hchange : ForwardChange op candidate r r')
    (h : r.pendingPolicy = none) (hop : ∃ spec, op = some (.infraEnsure spec)) :
    r'.pendingPolicy = none := by
  obtain ⟨spec, hop⟩ := hop
  cases hchange with
  | whilePrepared r' hprepared => cases hprepared <;> exact h
  | cancelled p hpolicy => exact absurd (h.symm.trans hpolicy) (by simp)
  | policyIntended owner p hupdate =>
    rw [hop] at hupdate
    exact absurd hupdate (by simp)
  | fenced => rfl
  | revoked => rfl
  | policyPublished => rfl
  | _ => exact h

/-- `InfraEnsure` makes no policy intent. -/
theorem Unintended.change (h : Unintended s) (hloads : Loads s)
    (hop : ∃ spec, op = some (.infraEnsure spec)) (hchange : Change E op lo n s s') :
    Unintended s' := by
  intro f hf
  cases hchange with
  | repaired =>
    simp only [State.mapForward, Option.map_eq_some_iff] at hf
    obtain ⟨f₀, hf₀, rfl⟩ := hf
    exact h f₀ hf₀
  | retired => exact absurd hf (by simp [State.default])
  | preparing =>
    cases hf
    rfl
  | retried =>
    cases hf
    rfl
  | committed operation c previous hop' hcommits hc =>
    have hpolicy := hloads.candidate_unintended hc
    cases hf
    exact hpolicy
  | rolledBack c previous kept hc hprevious hkept =>
    cases hf
    cases kept <;> exact h previous hprevious
  | withdrawn r hr =>
    cases hf
    rfl
  | forwarding r r' hr hchange =>
    cases hf
    exact hchange.unintended (h r hr) hop
  | _ => exact h f hf

/-! ## Runs -/

/-- The condition on a step. A policy update turns no failed prefix into a route of another
kind, and `InfraEnsure` finds the device whenever a policy intent is retained. -/
structure Tame (E : Surroundings) (op : Option Operation) (w w' : InfrastructureService) : Prop
    where
  update : ∀ f, w.state.forward = some f → UpdateRetainable op f
  ensure : ∀ spec, op = some (.infraEnsure spec) →
    Unintended w.state ∨ DevicePresent E w.clock w'.clock

/-- The part of the condition that is known at the moment `n`; `unintended` says that the step
started without a policy intent. -/
def TameUntil (E : Surroundings) (op : Option Operation) (lo : ℕ) (unintended : Prop) (n : ℕ) :
    Prop :=
  ∀ spec, op = some (.infraEnsure spec) → unintended ∨ DevicePresent E lo n

theorem TameUntil.mono {unintended : Prop} {m : ℕ} (h : TameUntil E op lo unintended m)
    (hle : n ≤ m) : TameUntil E op lo unintended n := by
  intro spec hop
  rcases h spec hop with hunintended | hpresent
  · exact Or.inl hunintended
  · exact Or.inr fun t hlo ht => hpresent t hlo (Nat.lt_of_lt_of_le ht hle)

/-- What a step keeps of the state in memory. -/
structure Loading (op : Option Operation) (unintended : Prop) (s : State) : Prop where
  loads : Loads s
  update : ∀ f, s.forward = some f → UpdateRetainable op f
  ensure : (∃ spec, op = some (.infraEnsure spec)) → unintended → Unintended s

theorem Loading.change {unintended : Prop} (h : Loading op unintended s)
    (htame : TameUntil E op lo unintended n) (hchange : Change E op lo n s s') :
    Loading op unintended s' where
  loads := by
    refine h.loads.change h.update ?_ hchange
    intro spec hop
    rcases htame spec hop with hunintended | hpresent
    · exact Or.inl (h.ensure ⟨spec, hop⟩ hunintended)
    · exact Or.inr hpresent
  update := fun f hf => updateRetainable_change h.update hchange hf
  ensure := fun hop hunintended => (h.ensure hop hunintended).change h.loads hop hchange

theorem closed_loading (E : Surroundings) (op : Option Operation) (lo : ℕ) (unintended : Prop) :
    Closed E op lo (fun n s => Shaped s ∧ (TameUntil E op lo unintended n → Loading op unintended s))
      (fun n _ d => Shaped d ∧ (TameUntil E op lo unintended n → Loads d)) where
  mono := fun hle hs => ⟨hs.1, fun htame => hs.2 (htame.mono hle)⟩
  monoStored := fun hle hd => ⟨hd.1, fun htame => hd.2 (htame.mono hle)⟩
  change := fun _ hs hchange =>
    ⟨shaped_change hs.1 hchange, fun htame => (hs.2 htame).change htame hchange⟩
  written := fun hs => ⟨hs.1, fun htame => (hs.2 htame).loads⟩
  ahead := fun _ hs hchange =>
    ⟨shaped_change hs.1 hchange, fun htame => ((hs.2 htame).change htame hchange).loads⟩
  shaped := And.left

/-- The state in memory and the state in the journal can be loaded. -/
structure Reloads (w : InfrastructureService) : Prop where
  state : Shaped w.state ∧ Loads w.state
  stored : ∀ d, w.stored = some d → Shaped d ∧ Loads d
  unstored : w.stored = none → w.state = .default

theorem Reloads.keeps {w : InfrastructureService} (h : Reloads w)
    (hupdate : ∀ f, w.state.forward = some f → UpdateRetainable op f) :
    Keeps (fun n s => Shaped s ∧ (TameUntil E op w.clock (Unintended w.state) n →
        Loading op (Unintended w.state) s))
      (fun n _ d => Shaped d ∧ (TameUntil E op w.clock (Unintended w.state) n → Loads d))
      w.clock w where
  start := Nat.le_refl _
  state := ⟨h.state.1, fun _ => ⟨h.state.2, hupdate, fun _ hunintended => hunintended⟩⟩
  stored := fun d hd => ⟨(h.stored d hd).1, fun _ => (h.stored d hd).2⟩
  unstored := h.unstored

theorem Tame.until (h : Tame E op w w') :
    TameUntil E op w.clock (Unintended w.state) w'.clock := h.ensure

theorem Reloads.step {event : Event} (h : Reloads w) (hstep : Step E event w w')
    (htame : Tame E event.operation w w') : Reloads w' := by
  obtain ⟨w₁, hkeeps, hgoes⟩ := Keeps.step (h.keeps htame.update) hstep
    (closed_loading E event.operation w.clock (Unintended w.state))
  obtain ⟨hclock, hstored, hstate⟩ := hgoes.state hkeeps
  have htame' := htame.until
  rw [hclock] at htame'
  have hmemory : Shaped w₁.state ∧ Loads w₁.state :=
    ⟨hkeeps.state.1, (hkeeps.state.2 htame').loads⟩
  have hjournal : ∀ d, w₁.stored = some d → Shaped d ∧ Loads d :=
    fun d hd => ⟨(hkeeps.stored d hd).1, (hkeeps.stored d hd).2 htame'⟩
  refine ⟨?_, ?_, ?_⟩
  · rcases hstate with heq | heq
    · rw [heq]
      exact hmemory
    · exact hjournal _ heq
  · rw [hstored]
    exact hjournal
  · rw [hstored]
    intro hnone
    rcases hstate with heq | heq
    · rw [heq]
      exact hkeeps.unstored hnone
    · exact absurd (hnone.symm.trans heq) (by simp)

theorem reloads_of_reachable {w : InfrastructureService}
    (hw : Reachable E (fun event w w' => Tame E event.operation w w') w) : Reloads w := by
  obtain ⟨uid, gid, hrun⟩ := hw
  induction hrun with
  | refl =>
    refine ⟨⟨by simp [Shaped, InfrastructureService.fresh, State.default], loads_default⟩, ?_, ?_⟩
    · intro d hd
      exact absurd hd (by simp [InfrastructureService.fresh])
    · exact fun _ => rfl
  | tail _ hstep ih =>
    obtain ⟨event, hstep, htame⟩ := hstep
    exact ih.step hstep htame

/-- In every run whose steps are tame, the state in memory and the state in the journal pass
the checks of the loader; so does whatever the next step leaves in the journal, also when it is
killed in the middle. -/
theorem loadable_of_run {w : InfrastructureService}
    (hw : Reachable E (fun event w w' => Tame E event.operation w w') w) :
    w.state.loadable = true ∧ (∀ d, w.stored = some d → d.loadable = true)
      ∧ ∀ action outcome w', exec E action w = (outcome, w') → Tame E action.operation w w' →
        ∀ d, w'.stored = some d → d.loadable = true := by
  have hreloads := reloads_of_reachable hw
  refine ⟨hreloads.state.2.loadable, fun d hd => (hreloads.stored d hd).2.loadable, ?_⟩
  intro action outcome w' hexec htame d hd
  have hkeeps := (hreloads.keeps htame.update).exec hexec
    (closed_loading E action.operation w.clock (Unintended w.state))
  exact ((hkeeps.stored d hd).2 htame.until).loadable

namespace Sample

/-- The route of `declaration b`. -/
def site (b : UInt32) : Ipv4Prefix := { network := 0x0a000000 + b * 0x10000, prefixLen := 16 }

/-- The declaration whose only route is an egress. -/
def egress (b : UInt32) : PrepareDeclaration :=
  { declaration b with routes := [{ ipv4Prefix := site b, kind := .remoteEgress }] }

/-- The declaration with a second remote route. -/
def widened : PrepareDeclaration :=
  { declaration 2 with routes := [{ ipv4Prefix := site 2, kind := .remote },
      { ipv4Prefix := site 3, kind := .remote }] }

/-- The route of the active owner has failed, and then a policy is published. -/
def publication (d : PrepareDeclaration) : List Action :=
  opening ++ [ask (.forwardFailedPrefixes (owner 1) 1 [site 2]),
    ask (.forwardPolicyUpdate (owner 1) 1 20 hash d)]

end Sample

/-- `Tame`, computed for the steps that ensure no device with a policy intent. -/
def tameCheck (op : Option Operation) (s : State) : Bool :=
  match op, s.forward with
  | some (.forwardPolicyUpdate _ _ _ _ d), some f =>
    decide (Retainable (f.pendingFailedPrefixes.getD f.failedPrefixes) d)
  | some (.infraEnsure _), some f => f.pendingPolicy.isNone
  | _, _ => true

theorem tame_of_check {op : Option Operation} (h : tameCheck op w.state = true) :
    Tame E op w w' where
  update := by
    intro f hf owner revision generation hash declaration hop _
    rw [hop] at h
    simp only [tameCheck, hf] at h
    exact of_decide_eq_true h
  ensure := by
    intro spec hop
    refine Or.inl fun f hf => ?_
    rw [hop] at h
    simp only [tameCheck, hf] at h
    exact Option.isNone_iff_eq_none.mp h

open NetdV2.Sample in
theorem loadable_of_publication :
    ((publication widened).foldl (stepOnce surroundings) (.fresh 0 0)).state.forward.map
        (fun f => (f.failedPrefixes, f.declaration)) = some ([site 2], widened)
      ∧ ((publication widened).foldl (stepOnce surroundings) (.fresh 0 0)).state.loadable = true := by
  refine ⟨by decide, ?_⟩
  exact (loadable_of_run ⟨0, 0, steps_along _ tameCheck tame_of_check (by decide)⟩).1

open Sample in
/-- A failed remote prefix that a live policy turns into an egress is stored as failed, and the
loader refuses it. -/
theorem not_loadable_of_publication :
    ¬ ∀ w, Reachable surroundings (fun _ _ _ => True) w →
      ∀ d, w.stored = some d → d.loadable = true := by
  intro h
  have hreach : Reachable surroundings (fun _ _ _ => True)
      ((publication (egress 2)).foldl (stepOnce surroundings) (.fresh 0 0)) :=
    ⟨0, 0, steps_along _ (fun _ _ => true) (fun _ => trivial) (by decide)⟩
  have hstored : (((publication (egress 2)).foldl (stepOnce surroundings) (.fresh 0 0)).stored.map
      State.loadable) = some false := by decide
  obtain ⟨d, hd, hloadable⟩ := Option.map_eq_some_iff.mp hstored
  rw [h _ hreach d hd] at hloadable
  exact absurd hloadable (by simp)

end CandyRuntime.NetdV2
