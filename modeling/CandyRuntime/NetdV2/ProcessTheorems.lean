import CandyRuntime.NetdV2.ChangeTheorems

/-!
# The requests of the v2 service keep what changes keep

Every operation of `process`, from the state it starts in to the states it persists. The
operations that leave the write to the end of `process` hand it a change of the state in
memory; the one that hands out a descriptor has written its holder before.
-/

namespace CandyRuntime.NetdV2

open Lib Lib.Proc NetdProto NetdV1

variable {owner : ForwardOwner} {declaration : PrepareDeclaration} {infraId : InstanceId}
variable {E : Surroundings}

/-! ## What an operation leaves behind -/

/-- A descriptor was issued: the holder before was seen dead, and the new one, the caller, is in the
journal. -/
structure Issued (E : Surroundings) (P : ℕ → State → Prop) (lo n : ℕ) (s : State) (o : IoOwner)
    (request : Request) (w : InfrastructureService) : Prop where
  before : ∃ s₁, P n s₁ ∧ Unheld E lo n s₁.ioOwner ∧ s₁.lastIoEpoch < o.ioEpoch
  holder : s.ioOwner = some o
  epoch : s.lastIoEpoch = o.ioEpoch
  stored : w.stored = some s
  known : KnownBy E n o
  caller : o.instanceId = request.callerInstanceId ∧ o.pid = request.callerPid

/-- The state an operation ends in, with the write or the descriptor it leaves to `process`. -/
def Leaves (E : Surroundings) (op : Option Operation) (request : Request) (lo : ℕ)
    (P : ℕ → State → Prop) (R : ℕ → State → State → Prop) (flow : Flow)
    (w : InfrastructureService) : Prop :=
  ∃ s n, At P R lo s n w ∧ match flow with
    | .store next => Change E op lo n s next
    | .reply body true => ∃ o spec ifindex infraId generation,
        body = .ioFd spec ifindex o.ioEpoch
          ∧ op = some (.infraAcquireIoFd infraId generation o.ioEpoch) ∧ Issued E P lo n s o request w
    | .reply _ false => True

section Operations

variable {op : Option Operation} {lo : ℕ} {P : ℕ → State → Prop} {R : ℕ → State → State → Prop}
  (hP : Closed E op lo P R) {s : State} {n : ℕ} {request : Request} {now : ℕ}

/-- A reply without a descriptor says nothing more about the state. -/
theorem Settles.leaves {w : InfrastructureService} (h : Settles P R lo w) (body : Body) :
    Leaves E op request lo P R (.reply body false) w := by
  obtain ⟨s, n, h⟩ := h
  exact ⟨s, n, h, trivial⟩

/-- Nothing is written in front of such a reply. -/
theorem reply_does {body : Body} :
    Does P R lo s n (return .reply body false) (Leaves E op request lo P R) :=
  Triple.pure fun _ hw => hw.settles.leaves body

/-- The last change is left to the end of `process`. -/
theorem store_does {next : State} (h : Change E op lo n s next) :
    Does P R lo s n (return .store next) (Leaves E op request lo P R) :=
  Triple.pure fun _ hw => ⟨s, n, hw, h⟩

include hP

/-! ## Infrastructure -/

/-- The device may be created again once it was missing. -/
theorem repairMissingDevice_does {spec : InfraSpec} (hop : op = some (.infraEnsure spec))
    (hmissing : ∃ t, lo ≤ t ∧ t < n ∧ (E.moment t).interface = none) :
    Does P R lo s n (repairMissingDevice E) (Leaves E op request lo P R) := by
  unfold repairMissingDevice
  apply currentState_next
  apply heldAlive_next hP
  intro alive m hm hunheld
  apply ensure_next
  intro hdead
  apply (quiet_fenceForward _).next hP
  intro _
  apply (Quiet.read _ _).next hP
  intro marker
  apply (Quiet.read _ _).next hP
  intro bootId
  have hmissing' : ∃ t, lo ≤ t ∧ t < m ∧ (E.moment t).interface = none := by
    obtain ⟨t, hlo, ht, hnone⟩ := hmissing
    exact ⟨t, hlo, by omega, hnone⟩
  apply persist_next hP (.repaired spec marker bootId hop hmissing' (hunheld hdead))
  apply (completeCreation_does hP).bind
  intro _
  apply Triple.of_settles
  intro s n
  apply currentState_next
  apply unwrap_next
  intro _ _
  exact reply_does

/-- The infrastructure is created, or found as it was. -/
theorem infraEnsure_does {spec : InfraSpec} (hop : op = some (.infraEnsure spec))
    (hvalid : spec.validate = .ok ()) :
    Does P R lo s n (infraEnsure E request spec) (Leaves E op request lo P R) := by
  unfold infraEnsure
  apply (quiet_ensureNamespace _ _).next hP
  intro _
  apply currentState_next
  cases hspec : s.spec with
  | some existing =>
    apply (quiet_administrator _).next hP
    intro _
    apply ensure_next
    intro _
    apply Does.of_holds
    intro hlo _
    apply read_next hP
    intro t ht
    apply Triple.ite
    · intro hnone
      apply repairMissingDevice_does hP hop
      exact ⟨t, Nat.le_trans hlo ht, Nat.lt_succ_self t, by simpa using hnone⟩
    · intro _
      exact (quiet_identity _ _).next hP fun _ => reply_does
  | none =>
    apply (Quiet.read _ _).next hP
    intro interface
    apply ensure_next
    intro _
    apply (Quiet.read _ _).next hP
    intro marker
    apply (Quiet.read _ _).next hP
    intro bootId
    apply persist_next hP (.ensured spec marker bootId request.callerInstanceId hop hspec hvalid)
    apply (completeCreation_does hP).bind
    intro _
    apply Triple.of_settles
    intro s n
    apply currentState_next
    exact reply_does

/-- The start time of a process that was found. -/
theorem processStartTicks_does {pid : UInt32} :
    Does P R lo s n (processStartTicks E pid) (fun ticks w => ∃ t, At P R lo s (t + 1) w ∧ (n ≤ t
      ∧ ∃ stat, (E.moment t).processes pid = some stat ∧ ticks = some stat.startTicks)) := by
  unfold processStartTicks linuxProcessIdentity
  apply read_next hP
  intro t ht
  apply okOr_next
  intro stat hstat
  exact Triple.pure fun _ hw => ⟨t, hw, ht, stat, hstat, rfl⟩

/-- The holder is in the journal before the caller has the descriptor. -/
theorem infraAcquireIoFd_does {generation ioEpoch : ℕ}
    (hop : op = some (.infraAcquireIoFd infraId generation ioEpoch)) :
    Does P R lo s n (infraAcquireIoFd E request infraId generation ioEpoch)
      (Leaves E op request lo P R) := by
  unfold infraAcquireIoFd
  apply (quiet_identity _ _).next hP
  intro spec
  apply currentState_next
  apply heldAlive_next hP
  intro alive m hm hunheld
  apply ensure_next
  intro hdead
  apply ensure_next
  intro hepoch
  apply get_next
  intro w₀ _
  apply (Quiet.when _ (.bind (.read _ _) fun _ => .setLifecycleFd _)).next hP
  intro _
  apply (Quiet.read _ _).next hP
  intro _
  apply read_next hP
  intro t₀ ht₀
  apply (processStartTicks_does hP).bind
  intro ticks
  apply Triple.exists_pre
  intro t₁
  apply Triple.and_pre
  rintro ⟨ht₁, stat, hstat, rfl⟩
  have hfree : Unheld E lo (t₁ + 1) s.ioOwner := fun holder h =>
    (hunheld hdead holder h).mono (by omega)
  intro w hw
  have hbefore := hw.holds
  refine (persist_stored hP (.acquired infraId generation _ hop hfree hepoch)).bind ?_ w hw
  rintro _ w' ⟨hw', hstored⟩
  rw [wp_bind]
  change wp (unwrap w'.state.ifindex >>= _) _ _ _ w'
  rw [wp_bind]
  cases w'.state.ifindex with
  | none => exact hw'.keeps
  | some ifindex =>
    let o : IoOwner :=
      { instanceId := request.callerInstanceId, pid := request.callerPid, ioEpoch,
        bootId := (E.moment t₀).bootId, startTicks := some stat.startTicks }
    refine ⟨_, _, hw', o, spec, ifindex, infraId, generation, rfl, hop, ?_⟩
    exact
      { before := ⟨s, hbefore, hfree, hepoch⟩
        holder := rfl
        epoch := rfl
        stored := hstored
        known := ⟨t₀, t₁, by omega, Nat.lt_succ_self t₁, rfl, stat, hstat, rfl⟩
        caller := ⟨rfl, rfl⟩ }

/-- The descriptor is released once its holder is dead. -/
theorem infraReleaseIo_does {generation ioEpoch : ℕ} :
    Does P R lo s n (infraReleaseIo E request infraId generation ioEpoch) (Leaves E op request lo P R) := by
  unfold infraReleaseIo
  apply (quiet_identity _ _).next hP
  intro _
  apply (quiet_administrator _).next hP
  intro _
  apply currentState_next
  apply okOr_next
  intro owner howner
  apply ensure_next
  intro _
  apply (ioOwnerAlive_does hP owner).bind
  intro alive
  apply Triple.exists_pre
  intro m
  apply Triple.and_pre
  rintro ⟨_, hdead⟩
  apply ensure_next
  intro hfalse
  apply store_does
  apply Change.released
  intro holder hholder
  rw [howner, Option.some.injEq] at hholder
  rw [← hholder]
  exact hdead hfalse

/-- Only a revoked record is retired with the infrastructure. -/
theorem retireForward_does {sysctls : List SysctlChange} {forward : Option ForwardRecord} :
    Does P R lo s n (retireForward E sysctls forward) (fun _ w => At P R lo s n w
      ∧ ∀ f, forward = some f → f.phase = .revoked) := by
  cases forward with
  | none => exact Triple.pure fun _ hw => ⟨hw, fun f h => absurd h (by simp)⟩
  | some forward =>
    apply ensure_next
    intro hphase
    apply (Quiet.call _).next hP
    intro _
    refine ((Quiet.call _).does hP).post fun _ _ hw => ⟨hw, ?_⟩
    intro f hf
    rw [Option.some.injEq] at hf
    rw [← hf]
    exact hphase

/-- The infrastructure is retired, with nobody holding its descriptor. -/
theorem infraRetire_does {generation : ℕ} (hop : op = some (.infraRetire infraId generation)) :
    Does P R lo s n (infraRetire E request infraId generation) (Leaves E op request lo P R) := by
  unfold infraRetire
  apply (quiet_administrator _).next hP
  intro _
  apply (quiet_identity _ _).next hP
  intro _
  apply currentState_next
  apply heldAlive_next hP
  intro alive m _ hunheld
  apply ensure_next
  intro hdead
  apply (retireForward_does hP).bind
  intro _
  apply Triple.and_pre
  intro hrevoked
  apply (Quiet.call _).next hP
  intro _
  apply (Quiet.setLifecycleFd _).next hP
  intro _
  apply persist_next hP (.retired infraId generation hop (hunheld hdead) hrevoked)
  exact reply_does

/-! ## Preparation and authorization -/

omit hP in
/-- What a replacement has to agree with. -/
theorem admitReplacement_does {previous : ForwardRecord} {retry : Bool} :
    Does P R lo s n (admitReplacement s previous owner declaration retry) (fun _ w => At P R lo s n w
      ∧ ((retry = false → Admitted s previous owner declaration)
        ∧ (owner.signedGeneration = previous.owner.signedGeneration →
          declaration = previous.declaration))) := by
  unfold admitReplacement
  apply ensure_next
  intro hdomain
  apply ensure_next
  intro hadvance
  apply ensure_next
  intro hphase
  have hsame : owner.signedGeneration = previous.owner.signedGeneration →
      declaration = previous.declaration := by
    intro heq
    by_contra hne
    exact hadvance (Or.inr (Or.inl ⟨heq, hne⟩))
  intro w hw
  rw [wp_ensure]
  refine ⟨fun htable => ⟨hw, ?_, hsame⟩, fun _ => hw.keeps⟩
  intro hretry
  have htoken : ¬ owner.fencingToken ≤ max previous.owner.fencingToken s.lastFencingToken :=
    fun h => hadvance (Or.inr (Or.inr (Or.inr ⟨h, hretry⟩)))
  rw [not_le, max_lt_iff] at htoken
  exact
    { domainId := hdomain
      generation := not_lt.mp fun h => hadvance (Or.inl h)
      sameDeclaration := hsame
      workerEpoch := not_lt.mp fun h => hadvance (Or.inr (Or.inr (Or.inl h)))
      fencingToken := htoken.1
      lastFencingToken := htoken.2
      phase := by simpa [hretry] using hphase
      tableId := htable.1 }

/-- The first record is written before it is prepared. -/
theorem prepareFirst_does {sysctls : List SysctlChange}
    (hchange : Change E op lo n s { s with
      sysctls
      forward := some (.accepted owner declaration .preparing)
      lastFencingToken := owner.fencingToken }) :
    Does P R lo s n (prepareFirst E s owner declaration sysctls) (Leaves E op request lo P R) := by
  unfold prepareFirst
  apply persist_next hP hchange
  apply (Quiet.mapError _ (.call _)).next hP
  intro _
  apply (Quiet.mapError _ (.call _)).next hP
  intro _
  apply (Quiet.call _).next hP
  intro _
  apply (Quiet.mapError _ (.call _)).next hP
  intro _
  exact store_does (.mapForward rfl (.prepared rfl))

/-- A first record, or a candidate beside the record that forwards. -/
theorem forwardPrepare_does {infraGeneration : ℕ}
    (hop : op = some (.forwardPrepare infraId infraGeneration owner declaration))
    (howner : owner.validate = .ok ()) (hvalid : declaration.validate = .ok ())
    (hpolicy : ∀ f, s.forward = some f → f.pendingPolicy = none) :
    Does P R lo s n (forwardPrepare E request now infraId infraGeneration owner declaration)
      (Leaves E op request lo P R) := by
  unfold forwardPrepare
  apply (quiet_administrator _).next hP
  intro _
  apply (quiet_identity _ _).next hP
  intro spec
  apply (quiet_ensureLive _ _).next hP
  intro _
  apply ensure_next
  intro _
  apply currentState_next
  cases hcandidate : s.candidate with
  | some candidate =>
    apply ensure_next
    intro _
    exact reply_does
  | none =>
    cases hforward : s.forward with
    | none =>
      apply (Quiet.mapError _ (.read _ _)).next hP
      intro sysctls
      exact prepareFirst_does hP
        (.preparing infraId infraGeneration owner declaration sysctls hop hforward hcandidate
          howner hvalid)
    | some previous =>
      apply Triple.ite
      · intro _
        exact reply_does
      · intro _
        apply admitReplacement_does.bind
        intro _
        apply Triple.and_pre
        rintro ⟨hadmitted, hsame⟩
        apply Triple.ite
        · intro hretry
          obtain ⟨heq, hphase⟩ := of_decide_eq_true hretry
          have hdeclaration : declaration = previous.declaration := hsame (by rw [heq])
          subst hdeclaration
          subst heq
          exact prepareFirst_does hP
            (.retried previous hforward hphase hcandidate howner hvalid)
        · intro hretry
          apply (Quiet.read _ _).next hP
          intro _
          rw [← hforward]
          apply persist_next hP (.admitted infraId infraGeneration previous owner declaration hop
            hforward hcandidate (hadmitted (by simpa using hretry)) (hpolicy previous hforward)
            howner hvalid)
          exact reply_does

omit hP in
/-- The candidate of an owner is the candidate of the state. -/
theorem candidateOf_eq_some {candidate : ForwardRecord} (h : s.candidateOf owner = some candidate) :
    s.candidate = some candidate ∧ candidate.owner = owner := by
  simpa [State.candidateOf, Option.filter_eq_some_iff] using h

omit hP in
/-- The record is there and has this owner. -/
theorem sameOwner_does {record : Option ForwardRecord} :
    Does P R lo s n (sameOwner record owner) (fun current w => At P R lo s n w
      ∧ (record = some current ∧ current.owner = owner)) := by
  unfold sameOwner
  apply okOr_next
  intro current hcurrent
  apply ensure_next
  intro howner
  exact Triple.pure fun _ hw => ⟨hw, hcurrent, howner⟩

omit hP in
/-- The candidate comes first. -/
theorem ownedRecord_does :
    Does P R lo s n (ownedRecord s owner) (fun current w => At P R lo s n w
      ∧ (current.owner = owner ∧ if (s.candidateOf owner).isSome then s.candidate = some current
        else s.forward = some current)) := by
  unfold ownedRecord
  cases hcandidate : s.candidateOf owner with
  | some candidate =>
    obtain ⟨hsome, howner⟩ := candidateOf_eq_some hcandidate
    exact Triple.pure fun _ hw => ⟨hw, howner, hsome⟩
  | none => exact sameOwner_does.post fun _ _ h => ⟨h.1, h.2.2, h.2.1⟩

/-- A receipt is noted in the record of its owner. -/
theorem forwardAuthorize_does {authority : ForwardAuthority} :
    Does P R lo s n (forwardAuthorize E request now owner authority) (Leaves E op request lo P R) := by
  unfold forwardAuthorize
  apply (quiet_administrator _).next hP
  intro _
  apply (quiet_ensureLive _ _).next hP
  intro _
  apply currentState_next
  apply okOr_next
  intro io _
  apply ensure_next
  intro _
  apply (quiet_ioOwnerAlive _).next hP
  intro _
  apply ensure_next
  intro _
  apply ownedRecord_does.bind
  intro current
  apply Triple.and_pre
  rintro ⟨_, hrecord⟩
  apply ensure_next
  intro hprepared
  apply Triple.ite
  · intro hcandidate
    rw [if_pos hcandidate] at hrecord
    exact store_does (.mapCandidate hrecord (.authorized authority hprepared.1))
  · intro hcandidate
    rw [if_neg hcandidate] at hrecord
    exact store_does (.mapForward hrecord (.whilePrepared _ (.authorized authority hprepared.1)))

/-! ## Commit -/

/-- A commit that has failed is rolled back, and reports its error. -/
theorem abandonCommit_does {α : Type} {previous candidate : ForwardRecord}
    {e : InfrastructureError} {Q : α → InfrastructureService → Prop}
    (hcandidate : s.candidate = some candidate) (hforward : s.forward = some previous)
    (withdrawn : ForwardRecord) :
    Does P R lo s n (abandonCommit E previous withdrawn now e) Q := by
  unfold abandonCommit
  apply Triple.attempt_bind (rollbackReplacement_does hP hcandidate hforward withdrawn)
  · intro _
    exact Triple.fail fun _ ⟨_, _, hw⟩ => hw.keeps
  · intro _
    exact Triple.fail fun _ hw => hw

/-- The candidate is marked before the kernel is touched. -/
theorem commitCandidate_does {operation : Operation} {candidate : ForwardRecord}
    (hop : op = some operation) (hcommits : operation.commits candidate.owner)
    (hcandidate : s.candidate = some candidate) :
    Does P R lo s n (commitCandidate E now s candidate) (Leaves E op request lo P R) := by
  unfold commitCandidate
  apply okOr_next
  intro previous hforward
  apply (Quiet.read _ _).next hP
  intro _
  apply Triple.ite
  · intro _
    apply persist_next hP (.committed operation candidate previous hop hcommits hcandidate hforward)
    exact reply_does
  · intro _
    apply persist_next hP (.intended candidate previous hcandidate hforward)
    let s₁ := { s with candidate := some { candidate with phase := .preparing } }
    -- both failures after the intent was stored end in the rollback of the same state
    have habandon : ∀ e withdrawn, Does P R lo s₁ n
        (abandonCommit E previous withdrawn now e : Svc Unit) (fun _ => At P R lo s₁ n) :=
      fun e withdrawn => abandonCommit_does (s := s₁) hP rfl hforward withdrawn
    have hinstall : Does P R lo s₁ n
        (handle (installReplacement E previous { candidate with phase := .preparing } s.sysctls)
          (abandonCommit E previous { candidate with phase := .preparing } now))
        (fun _ => At P R lo s₁ n) :=
      Triple.handle ((quiet_installReplacement _ _ _).at hP) fun e => habandon e _
    apply hinstall.bind
    intro _
    have hcommit : Change E op lo n s₁
        { s with forward := some { candidate with phase := .active }, candidate := none } :=
      .committed operation { candidate with phase := .preparing } previous hop hcommits rfl hforward
    apply Triple.bind (Triple.handle (persist_at hP hcommit) fun e =>
      abandonCommit_does (s := s₁) hP rfl hforward _)
    intro _
    exact reply_does

/-- The prepared record becomes active, or the candidate takes over. -/
theorem forwardCommit_does {operation : Operation} {authenticated : Bool}
    (hop : op = some operation) (hcommits : operation.commits owner)
    (hpolicy : ∀ f, s.forward = some f → f.pendingPolicy = none) :
    Does P R lo s n (forwardCommit E request now owner authenticated) (Leaves E op request lo P R) := by
  unfold forwardCommit
  apply (quiet_administrator _).next hP
  intro _
  apply (quiet_ensureLive _ _).next hP
  intro _
  apply quiet_ownIdentity.next hP
  intro _
  apply currentState_next
  apply ensure_next
  intro _
  cases hcandidate : s.candidateOf owner with
  | some candidate =>
    obtain ⟨hsome, howner⟩ := candidateOf_eq_some hcandidate
    rw [← howner] at hcommits
    exact commitCandidate_does hP hop hcommits hsome
  | none =>
    apply sameOwner_does.bind
    intro current
    apply Triple.and_pre
    rintro ⟨hforward, howner⟩
    rw [← howner] at hcommits
    apply Triple.ite
    · intro _
      exact reply_does
    · intro _
      apply ensure_next
      intro hphase
      apply (Quiet.handle (.call _) fun _ => .bind (.call _) fun _ => .fail _).next hP
      intro _
      exact store_does (.mapForward hforward
        (.activated operation hop hcommits hphase (hpolicy current hforward)))

/-! ## Guard, revocation and renewal -/

/-- The phase is written before the kernel is guarded. -/
theorem forwardGuard_does (hpolicy : ∀ f, s.forward = some f → f.pendingPolicy = none) :
    Does P R lo s n (forwardGuard E request now owner) (Leaves E op request lo P R) := by
  unfold forwardGuard
  apply (quiet_administrator _).next hP
  intro _
  apply (quiet_ensureLive _ _).next hP
  intro _
  apply currentState_next
  apply sameOwner_does.bind
  intro current
  apply Triple.and_pre
  rintro ⟨hforward, _⟩
  apply Triple.ite
  · intro _
    exact reply_does
  · intro _
    apply ensure_next
    intro hphase
    apply persist_next hP (.mapForward hforward (.guarded hphase (hpolicy current hforward)))
    apply (Quiet.call _).next hP
    intro _
    exact reply_does

/-- The candidate is taken back, or the record is revoked. -/
theorem forwardRevoke_does :
    Does P R lo s n (forwardRevoke E request now owner) (Leaves E op request lo P R) := by
  unfold forwardRevoke
  apply (quiet_administrator _).next hP
  intro _
  apply currentState_next
  cases hcandidate : s.candidateOf owner with
  | some candidate =>
    obtain ⟨hsome, _⟩ := candidateOf_eq_some hcandidate
    unfold revokeCandidate
    apply Triple.ite
    · intro _
      apply unwrap_next
      intro previous hforward
      exact (rollbackReplacement_does hP hsome hforward candidate).bind fun _ =>
        Triple.pure fun _ hw => hw.leaves _
    · intro _
      exact persist_next hP .dropped reply_does
  | none =>
    apply sameOwner_does.bind
    intro current
    apply Triple.and_pre
    rintro ⟨hforward, _⟩
    apply (cancel_does hP hforward rfl).bind
    intro _
    apply (quiet_fencePolicyIntent _).next hP
    intro _
    exact store_does (.withdrawn _ rfl)

/-- Only the deadlines change. -/
theorem forwardLeaseRenew_does (hvalid : owner.validate = .ok ()) :
    Does P R lo s n (forwardLeaseRenew request now owner) (Leaves E op request lo P R) := by
  unfold forwardLeaseRenew
  apply (quiet_administrator _).next hP
  intro _
  apply (quiet_ensureLive _ _).next hP
  intro _
  apply currentState_next
  apply okOr_next
  intro current hforward
  apply ensure_next
  rintro ⟨hdomain, hgeneration, hepoch, htoken, hauth, _, hlease, hphase⟩
  exact store_does (.mapForward hforward (.renewed owner hvalid
    ⟨hdomain, hgeneration, hepoch, htoken, hauth, hlease⟩ hphase))

/-! ## Failed prefixes and live policies -/

omit hP in
/-- Sorting keeps valid prefixes valid. -/
theorem validateFailedPrefixes_sort {failed : List Ipv4Prefix}
    (h : validateFailedPrefixes declaration failed = .ok ()) :
    validateFailedPrefixes declaration (sortPrefixes failed) = .ok () := by
  have hperm : (sortPrefixes failed).Perm failed := List.perm_insertionSort _ failed
  unfold validateFailedPrefixes at h ⊢
  split at h
  · rename_i hvalid
    rw [if_pos]
    refine ⟨hperm.nodup_iff.mpr hvalid.1, ?_⟩
    intro p hp
    exact hvalid.2 p (hperm.mem_iff.mp hp)
  · exact absurd h (by simp)

/-- The intent is written before the prefixes are withdrawn. -/
theorem forwardFailedPrefixes_does {revision : ℕ} {failed : List Ipv4Prefix}
    (hop : op = some (.forwardFailedPrefixes owner revision failed))
    (hpolicy : ∀ f, s.forward = some f → f.pendingPolicy = none) :
    Does P R lo s n (forwardFailedPrefixes E request now owner revision failed)
      (Leaves E op request lo P R) := by
  apply Does.of_holds
  intro _ hholds
  have hshaped := hP.shaped hholds
  unfold forwardFailedPrefixes
  apply (quiet_administrator _).next hP
  intro _
  apply (quiet_ensureLive _ _).next hP
  intro _
  apply quiet_ownIdentity.next hP
  intro _
  apply currentState_next
  apply sameOwner_does.bind
  intro current
  apply Triple.and_pre
  rintro ⟨hrecord, _⟩
  apply Triple.lift_bind _ fun _ _ hw => hw.keeps
  intro _ hvalid
  have htarget := validateFailedPrefixes_sort hvalid
  apply ensure_next
  intro hfresh
  apply ensure_next
  intro hpending
  apply Triple.ite
  · intro _
    exact reply_does
  · intro hnew
    have hrevision : current.pendingFailureRevision.getD current.failureRevision < revision := by
      have hge : ¬ revision < current.pendingFailureRevision.getD current.failureRevision :=
        fun h => hfresh (Or.inl h)
      omega
    by_cases hcandidate : (s.candidateOf owner).isSome = true
    · rw [if_pos hcandidate] at hrecord
      simp only [State.mapRecord, hcandidate, if_true]
      apply Triple.ite
      · intro hphase
        exact persist_next hP (.mapCandidate hrecord
          (.failures revision _ hphase htarget hpending hrevision)) reply_does
      · intro hphase
        apply ensure_next
        intro hactive
        rcases hshaped current hrecord with h | h
        · exact absurd h hphase
        · rw [h] at hactive
          exact absurd hactive (by simp)
    · rw [if_neg hcandidate] at hrecord
      simp only [State.mapRecord, hcandidate]
      apply Triple.ite
      · intro hphase
        exact persist_next hP (.mapForward hrecord (.whilePrepared _
          (.failures revision _ hphase htarget hpending hrevision))) reply_does
      · intro _
        apply ensure_next
        intro hphase
        apply Triple.ite
        · intro _
          exact persist_next hP (.mapForward hrecord
            (.failuresUnchanged revision hphase hpending hrevision)) reply_does
        · intro _
          apply persist_next hP (.mapForward hrecord (.failuresIntended owner revision failed _
            hop hphase htarget (hpolicy current hrecord) hpending hrevision))
          apply (Quiet.inStage _ (.call _)).next hP
          intro _
          apply unwrap_next
          intro intent hintent
          have hfields : intent.pendingFailedPrefixes = some (sortPrefixes failed)
              ∧ intent.pendingFailureRevision = some revision := by
            simp only [State.mapForward, hrecord, Option.map_some, Option.some.injEq,
              Bool.false_eq_true, if_false] at hintent
            rw [← hintent]
            exact ⟨rfl, rfl⟩
          exact persist_next hP (.mapForward hintent
            (.failuresSettled revision _ hfields.1 hfields.2)) reply_does

/-- The intent is written before the policy is published. -/
theorem forwardPolicyUpdate_does {revision generation : ℕ} {hash : String}
    (hop : op = some (.forwardPolicyUpdate owner revision generation hash declaration))
    (hvalid : declaration.validate = .ok ()) (hhash : validPolicyHash hash = true) :
    Does P R lo s n (forwardPolicyUpdate E request now owner revision generation hash declaration)
      (Leaves E op request lo P R) := by
  unfold forwardPolicyUpdate
  apply (quiet_administrator _).next hP
  intro _
  apply (quiet_ensureLive _ _).next hP
  intro _
  apply quiet_ownIdentity.next hP
  intro _
  apply currentState_next
  apply ensure_next
  intro hcandidate
  apply sameOwner_does.bind
  intro current
  apply Triple.and_pre
  rintro ⟨hforward, _⟩
  apply ensure_next
  intro hphase
  apply ensure_next
  intro hfailures
  apply ensure_next
  intro hpolicy
  apply Triple.lift_bind _ fun _ _ hw => hw.keeps
  intro _ hidentity
  apply ensure_next
  intro hfresh
  apply Triple.ite
  · intro _
    exact reply_does
  · intro hnew
    have hrevision : current.policyRevision < revision := by
      have hge : ¬ revision < current.policyRevision := fun h => hfresh (Or.inl h)
      omega
    have hgeneration : current.generation ≤ generation :=
      not_lt.mp fun h => hfresh (Or.inr (Or.inl h))
    have hnone : s.candidate.isSome = false := by
      rw [hcandidate]
      rfl
    apply Triple.ite
    · intro _
      exact persist_next hP (.mapForward hforward (.policyRecorded revision generation hash hphase
        hrevision hgeneration hhash hnone hpolicy)) reply_does
    · intro _
      apply (Quiet.read _ _).next hP
      intro _
      let p : PendingPolicy :=
        { cancelled := false, revision, generation, authorizationSnapshotSha256 := hash,
          declaration }
      have hintent : Change E op lo n s
          (s.mapForward fun r => { r with pendingPolicy := some p }) :=
        .mapForward hforward (.policyIntended owner p hop hphase hnone hfailures hvalid hidentity
          hrevision hgeneration hhash)
      apply persist_next hP hintent
      exact (reconcileLivePolicy_does hP).bind fun _ => Triple.pure fun _ hw => hw.leaves _

/-! ## `process` -/

/-- Every operation does what its request asks for, or keeps what is kept. -/
theorem dispatch_does (hop : op = some request.operation)
    (hvalid : request.operation.validate = .ok ())
    (hpolicy : request.operation.transacts = true →
      ∀ f, s.forward = some f → f.pendingPolicy = none) :
    Does P R lo s n (dispatch E request now) (Leaves E op request lo P R) := by
  unfold dispatch
  cases hoperation : request.operation with
  | capabilities => exact reply_does
  | inDomain domainId infraId operation => exact Triple.fail fun _ hw => hw.keeps
  | infraEnsure spec =>
    rw [hoperation] at hop hvalid
    exact infraEnsure_does hP hop hvalid
  | infraStatus => exact currentState_next reply_does
  | infraAcquireIoFd infraId generation ioEpoch =>
    rw [hoperation] at hop
    exact infraAcquireIoFd_does hP hop
  | infraReleaseIo infraId generation ioEpoch => exact infraReleaseIo_does hP
  | infraRetire infraId generation =>
    rw [hoperation] at hop
    exact infraRetire_does hP hop
  | forwardPrepare infraId infraGeneration owner declaration =>
    rw [hoperation] at hop hvalid hpolicy
    obtain ⟨_, _, hvalid⟩ := bind_eq_ok hvalid
    obtain ⟨⟨⟩, howner, hvalid⟩ := bind_eq_ok hvalid
    obtain ⟨⟨⟩, hdeclaration, _⟩ := bind_eq_ok hvalid
    exact forwardPrepare_does hP hop howner hdeclaration (hpolicy rfl)
  | forwardCommit owner =>
    rw [hoperation] at hop hpolicy
    exact forwardCommit_does hP hop rfl (hpolicy rfl)
  | forwardAuthorize owner authority => exact forwardAuthorize_does hP
  | forwardCommitAuthorized owner receipt =>
    rw [hoperation] at hop hpolicy
    exact forwardCommit_does hP hop rfl (hpolicy rfl)
  | forwardRevoke owner => exact forwardRevoke_does hP
  | forwardGuard owner =>
    rw [hoperation] at hpolicy
    exact forwardGuard_does hP (hpolicy rfl)
  | forwardLeaseRenew owner =>
    rw [hoperation] at hvalid
    exact forwardLeaseRenew_does hP hvalid
  | forwardFailedPrefixes owner failureRevision failedPrefixes =>
    rw [hoperation] at hop hpolicy
    exact forwardFailedPrefixes_does hP hop (hpolicy rfl)
  | forwardPolicyUpdate owner revision generation hash declaration =>
    rw [hoperation] at hop hvalid
    obtain ⟨_, _, hvalid⟩ := bind_eq_ok hvalid
    obtain ⟨⟨⟩, hmetadata, hvalid⟩ := bind_eq_ok hvalid
    obtain ⟨⟨⟩, hdeclaration, _⟩ := bind_eq_ok hvalid
    have hhash : validPolicyHash hash = true := by
      rw [refuseIf_eq_ok] at hmetadata
      simp only [Bool.or_eq_false_iff, Bool.not_eq_false'] at hmetadata
      exact hmetadata.2
    exact forwardPolicyUpdate_does hP hop hdeclaration hhash
  | forwardStatus => exact currentState_next reply_does

/-- The change is written, or the kernel is fenced. -/
theorem epilogue_does {next : State} (h : Change E op lo n s next) :
    Does P R lo s n (epilogue E next) (fun _ => Settles P R lo) := by
  unfold epilogue
  refine Triple.handle ((persist_at hP h).post fun _ _ hw => hw.settles) ?_
  intro e
  apply currentState_next
  apply (quiet_fenceUnstored _).next hP
  intro _
  exact Triple.fail fun _ hw => hw.keeps

/-- What is known of the state once a request has been admitted. -/
theorem admission_does : Does P R lo s n (admission E request now) (fun _ w => At P R lo s n w
    ∧ (request.operation.transacts = true → ∀ f, s.forward = some f → f.pendingPolicy = none)) := by
  unfold admission
  apply (quiet_authenticate _ _).next hP
  intro _
  apply currentState_next
  apply ensure_next
  intro _ w hw
  rw [wp_ensure]
  refine ⟨fun hidle => ⟨hw, ?_⟩, fun _ => hw.keeps⟩
  intro htransacts f hf
  by_contra hne
  apply hidle
  refine ⟨?_, htransacts⟩
  rw [hf, Option.any_some]
  exact Option.isSome_iff_ne_none.mpr hne

/-- `process`, from a state in which `P` holds: what comes back is a reply, or a descriptor
whose holder is in the journal. -/
theorem process_does {peer : PeerCredentials} (hop : op = some request.operation) :
    Does P R lo s n (process E request peer now) (fun reply w => Leaves E op request lo P R
      (.reply reply.1 reply.2) w) := by
  unfold process
  apply ensure_next
  intro hvalid
  have hoperation : request.operation.validate = .ok () := by
    cases hv : request.validate with
    | error e => simp [hv, Except.isOk, Except.toBool] at hvalid
    | ok u =>
      obtain ⟨_, _, h⟩ := bind_eq_ok hv
      exact h
  apply get_next
  intro w₀ _
  apply ensure_next
  intro _
  apply Triple.ite
  · intro _
    exact Triple.pure fun _ hw => hw.settles.leaves _
  · intro _
    apply (recoverExpired_does hP).bind
    intro _
    apply Triple.of_settles
    intro s n
    apply (admission_does hP).bind
    intro _
    apply Triple.and_pre
    intro hpolicy
    apply (dispatch_does hP hop hoperation hpolicy).bind
    intro flow
    apply Triple.exists_pre
    intro s
    apply Triple.exists_pre
    intro n
    cases flow with
    | reply body descriptor =>
      exact Triple.pure fun _ hw => ⟨s, n, hw⟩
    | store next =>
      apply Triple.and_pre
      intro hchange
      exact (epilogue_does hP hchange).bind fun _ => Triple.pure fun _ hw => hw.leaves _

end Operations

end CandyRuntime.NetdV2
