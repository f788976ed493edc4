import CandyRuntime.NetdV2.RestTheorems

/-!
# Forwarding requests whose reply was lost

A forwarding request that was acknowledged is sent again at the same time. Each operation is
taken apart twice: what its first run leaves behind, and that a second run from there finds its
work done. A revoked candidate is gone when it is asked for again, so its revocation is left out here,
and a record has to be prepared or committed under the host's own boot identifier.
-/

namespace CandyRuntime.NetdV2

open Lib Lib.Proc NetdProto NetdV1

variable {C : InfrastructureError → InfrastructureService → Prop}
  {K : InfrastructureService → Prop} {r : ForwardRecord} {β : Type} {b : Bool}

/-! ## A second run -/

/-- The checks of `process` in front of the operation, on the pending work. -/
def Admits (s : State) (operation : Operation) : Prop :=
  ¬ (s.forward.any (·.pendingFailedPrefixes.isSome) = true ∧ operation.replaces = true)
    ∧ ¬ (s.forward.any (·.pendingPolicy.isSome) = true ∧ operation.transacts = true)

variable {f : ForwardRecord}
variable {E : Surroundings} {w : InfrastructureService} {s : State} {request : Request} {now : ℕ}
  {owner : ForwardOwner}

/-- The operation is acknowledged, and `s` is what it leaves. -/
def Acknowledges (w : InfrastructureService) (s : State) (flow : Flow)
    (v : InfrastructureService) : Prop :=
  (flow = ack ∧ Stands w false s v) ∨ (flow = .store s ∧ ∃ s₀, Stands w false s₀ v)

/-- Run from `s`, the operation is acknowledged and leaves `s`. -/
structure Again (E : Surroundings) (w : InfrastructureService) (now : ℕ) (operation : Operation)
    (m : Svc Flow) (s : State) : Prop where
  rested : Rested (E.moment w.clock) now s
  admits : Admits s operation
  repeats : Delivers (Stands w false s) m (Acknowledges w s)

/-- The operation is acknowledged, and would be again. -/
def Repeats (E : Surroundings) (w : InfrastructureService) (now : ℕ) (operation : Operation)
    (m : Svc Flow) (s : State) : Prop :=
  Yields (Stands w false s) m fun flow v =>
    ∃ s', Acknowledges w s' flow v ∧ Again E w now operation m s'

theorem administrator_meets {Q : β → InfrastructureService → Prop} {f : Unit → Svc β}
    (hf : s.administrator = some request.callerInstanceId → Triple (Stands w b s) (f ()) Q C K)
    (he : s.administrator ≠ some request.callerInstanceId → ∀ e v, Stands w b s v → C e v) :
    Triple (Stands w b s) (administrator request >>= f) Q C K := by
  unfold administrator
  simp only [Proc.bind_assoc]
  apply currentState_meets
  exact ensure_meets hf fun h => he h _

/-- The record is there, and it is the owner's. -/
theorem sameOwner_eq {o : Option ForwardRecord} (ho : o = some f) (howner : f.owner = owner) :
    sameOwner o owner = Pure.pure f := by
  subst ho
  funext v
  simp only [sameOwner, okOr, Proc.pure_bind, ensure, howner, if_true]

/-- Only the owner's record passes. -/
theorem sameOwner_yields {P : InfrastructureService → Prop} {o : Option ForwardRecord}
    {f : ForwardRecord → Svc β} {Q : β → InfrastructureService → Prop}
    (hf : ∀ r, o = some r → r.owner = owner → Yields P (f r) Q) :
    Yields P (sameOwner o owner >>= f) Q := by
  unfold sameOwner
  simp only [Proc.bind_assoc, Proc.pure_bind]
  apply Yields.okOr_bind
  intro r hr
  apply Yields.ensure_bind
  intro howner
  exact hf r hr howner

/-- A rested state stays rested when its forward record is exchanged for one without work, whose
owner is live and current. -/
theorem Rested.exchange {m : Moment} {s' : State} (h : Rested m now s)
    (hcreated : s'.creationPending = false)
    (hcandidate : s'.candidate = none ∨ s'.candidate = s.candidate)
    (hforward : s'.forward = some f) (hcurrent : f.phase ≠ .revoked → Current m now s' f)
    (hpolicy : f.pendingPolicy = none)
    (hfailures : f.phase = .active → f.pendingFailedPrefixes = none) : Rested m now s' where
  created := hcreated
  waiting := by
    intro c hc
    rcases hcandidate with hnone | hsame
    · simp [hnone] at hc
    · exact h.waiting c (hsame ▸ hc)
  uncancelled := by
    intro f' p hf' hp
    rw [hforward, Option.some.injEq] at hf'
    rw [← hf', hpolicy] at hp
    exact absurd hp (by simp)
  current := by
    intro f' hf' hphase
    rw [hforward, Option.some.injEq] at hf'
    subst hf'
    exact hcurrent hphase
  idle := by
    intro f' hf' hactive
    rw [hforward, Option.some.injEq] at hf'
    subst hf'
    exact ⟨hfailures hactive, fun hp => absurd hpolicy hp⟩

theorem admits_of_none {operation : Operation} (hforward : s.forward = some f)
    (hpolicy : f.pendingPolicy = none)
    (hfailures : operation.replaces = true → f.pendingFailedPrefixes = none) :
    Admits s operation := by
  rw [Admits, hforward]
  simp only [Option.any_some, hpolicy]
  refine ⟨?_, by simp⟩
  rintro ⟨hsome, hreplaces⟩
  simp [hfailures hreplaces] at hsome

/-! ## Guard -/

theorem forwardGuard_again (hadministrator : s.administrator = some request.callerInstanceId)
    (hlive : ownerIsLive owner now = true) (hforward : s.forward = some f)
    (howner : f.owner = owner) (hphase : f.phase = .guarded) :
    Delivers (Stands w false s) (forwardGuard E request now owner) (Acknowledges w s) := by
  unfold forwardGuard
  apply administrator_meets _ fun h => absurd hadministrator h
  intro _
  apply Delivers.ensure_bind hlive
  apply currentState_meets
  rw [sameOwner_eq hforward howner, Proc.pure_bind, if_pos hphase]
  exact Delivers.pure fun _ hv => Or.inl ⟨rfl, hv⟩

theorem forwardGuard_repeats (hE : Steady E w.clock) (hrested : Rested (E.moment w.clock) now s)
    (hadmits : Admits s (.forwardGuard owner)) :
    Repeats E w now (.forwardGuard owner) (forwardGuard E request now owner) s := by
  unfold Repeats
  conv => arg 2; unfold forwardGuard
  apply administrator_meets _ fun _ _ _ _ => trivial
  intro hadministrator
  apply Yields.ensure_bind
  intro hlive
  apply currentState_meets
  apply sameOwner_yields
  intro f hforward howner
  have hpolicy : f.pendingPolicy = none := by
    have h := hadmits.2
    rw [hforward] at h
    simpa [Operation.transacts] using h
  apply Triple.ite
  · intro hphase
    exact Yields.pure fun v hv => ⟨s, Or.inl ⟨rfl, hv⟩, hrested, hadmits,
      forwardGuard_again hadministrator hlive hforward howner hphase⟩
  · intro _
    apply Yields.ensure_bind
    intro hactive
    apply persist_meets hE
    apply (Works.call hE _).meets
    intro _
    apply Yields.pure
    intro v hv
    have hforward' : (s.mapForward fun r => { r with phase := .guarded }).forward
        = some { f with phase := .guarded } := by
      rw [State.mapForward, hforward, Option.map_some]
    have hcurrent := hrested.current f hforward (by simp [hactive])
    refine ⟨_, Or.inl ⟨rfl, hv⟩, ?_, ?_, ?_⟩
    · exact hrested.exchange hrested.created (Or.inr rfl) hforward' (fun _ => hcurrent) hpolicy
        (fun h => by simp at h)
    · exact admits_of_none hforward' hpolicy (by simp [Operation.replaces])
    · exact forwardGuard_again hadministrator hlive hforward' howner rfl

/-! ## Revocation and renewal -/

theorem candidateOf_none (h : s.candidate = none) : s.candidateOf owner = none := by
  rw [State.candidateOf, h]
  rfl

theorem forwardRevoke_again (hE : Steady E w.clock)
    (hadministrator : s.administrator = some request.callerInstanceId)
    (hcandidate : s.candidate = none) (hforward : s.forward = some f) (howner : f.owner = owner)
    (hrevoked : f.revoke = f) :
    Delivers (Stands w false s) (forwardRevoke E request now owner) (Acknowledges w s) := by
  have hpolicy : f.pendingPolicy = none := by
    rw [← hrevoked]
    rfl
  have hcancelled : { f with
      pendingPolicy := f.pendingPolicy.map fun p => { p with cancelled := true } } = f := by
    rw [hpolicy, Option.map_none, ← hpolicy]
  have hsame : s = { s with forward := some f, candidate := none } := by
    rw [← hforward, ← hcandidate]
  unfold forwardRevoke
  apply administrator_meets _ fun h => absurd hadministrator h
  intro _
  apply currentState_meets
  rw [candidateOf_none hcandidate]
  dsimp only
  rw [sameOwner_eq hforward howner, Proc.pure_bind]
  apply (cancel_works hE hforward rfl).bind
  intro _
  apply (fencePolicyIntent_works hE _).meets
  intro _
  apply Delivers.pure
  intro v hv
  rw [hcancelled, hrevoked, ← hsame]
  exact Or.inr ⟨rfl, _, hv⟩

theorem forwardRevoke_repeats (hE : Steady E w.clock) (hrested : Rested (E.moment w.clock) now s)
    (hcandidate : s.candidateOf owner = none) :
    Repeats E w now (.forwardRevoke owner) (forwardRevoke E request now owner) s := by
  unfold Repeats
  conv => arg 2; unfold forwardRevoke
  apply administrator_meets _ fun _ _ _ _ => trivial
  intro hadministrator
  apply currentState_meets
  rw [hcandidate]
  apply sameOwner_yields
  intro f hforward howner
  apply (cancel_works hE hforward rfl).bind
  intro _
  apply (fencePolicyIntent_works hE _).meets
  intro _
  apply Yields.pure
  intro v hv
  refine ⟨_, Or.inr ⟨rfl, _, hv⟩, ?_, ?_, ?_⟩
  · exact hrested.exchange hrested.created (Or.inl rfl) rfl
      (fun h => absurd rfl h) rfl (fun _ => rfl)
  · simp [Admits, Operation.replaces, Operation.transacts]
  · exact forwardRevoke_again hE hadministrator rfl rfl howner rfl

theorem forwardLeaseRenew_again (hadministrator : s.administrator = some request.callerInstanceId)
    (hlive : ownerIsLive owner now = true) (hforward : s.forward = some f)
    (howner : f.owner = owner) (hlease : owner.leaseDeadlineMonoMs ≤ owner.authDeadlineMonoMs)
    (hphase : f.phase ≠ .revoked) :
    Delivers (Stands w false s) (forwardLeaseRenew request now owner) (Acknowledges w s) := by
  have hsame : s.mapForward (fun r => { r with owner }) = s := by
    rw [State.mapForward, hforward, Option.map_some, ← howner, ← hforward]
  unfold forwardLeaseRenew
  apply administrator_meets _ fun h => absurd hadministrator h
  intro _
  apply Delivers.ensure_bind hlive
  apply currentState_meets
  apply Delivers.okOr_bind hforward
  apply Delivers.ensure_bind
  · rw [howner]
    exact ⟨rfl, rfl, rfl, rfl, rfl, hlease, Nat.le_refl _, hphase⟩
  · apply Delivers.pure
    intro v hv
    rw [hsame]
    exact Or.inr ⟨rfl, s, hv⟩

theorem forwardLeaseRenew_repeats (hrested : Rested (E.moment w.clock) now s) :
    Repeats E w now (.forwardLeaseRenew owner) (forwardLeaseRenew request now owner) s := by
  unfold Repeats
  conv => arg 2; unfold forwardLeaseRenew
  apply administrator_meets _ fun _ _ _ _ => trivial
  intro hadministrator
  apply Yields.ensure_bind
  intro hlive
  apply currentState_meets
  apply Yields.okOr_bind
  intro f hforward
  apply Yields.ensure_bind
  rintro ⟨_, _, _, _, hauth, hlease, _, hphase⟩
  apply Yields.pure
  intro v hv
  have hforward' : (s.mapForward fun r => { r with owner }).forward = some { f with owner } := by
    rw [State.mapForward, hforward, Option.map_some]
  refine ⟨_, Or.inr ⟨rfl, s, hv⟩, ?_, ?_, ?_⟩
  · constructor
    · exact hrested.created
    · exact hrested.waiting
    · intro f' p hf' hp
      rw [hforward', Option.some.injEq] at hf'
      exact hrested.uncancelled f p hforward (by rw [← hf'] at hp; exact hp)
    · intro f' hf' _
      rw [hforward', Option.some.injEq] at hf'
      rw [← hf']
      exact ⟨hlive, (hrested.current f hforward hphase).2⟩
    · -- a renewal leaves the work of the record as it is
      intro f' hf' hactive
      rw [hforward', Option.some.injEq] at hf'
      subst hf'
      obtain ⟨hsettled, hunpublished⟩ := hrested.idle f hforward hactive
      refine ⟨hsettled, fun hp hdevice => hunpublished hp ⟨hdevice.1, ?_⟩⟩
      exact ⟨hdevice.2.interface, hdevice.2.stamped, hdevice.2.marker⟩
  · simp [Admits, Operation.replaces, Operation.transacts]
  · exact forwardLeaseRenew_again hadministrator hlive hforward' rfl (hauth ▸ hlease) hphase

/-! ## Preparation -/

/-- The device is there for the spec the request names, and the configuration is the spec's. -/
structure Prepares (m : Moment) (s : State) (infraId : InstanceId) (infraGeneration : ℕ)
    (declaration : PrepareDeclaration) : Prop where
  identified : ∃ spec, s.spec = some spec
    ∧ (spec.infraId = infraId ∧ spec.generation = infraGeneration) ∧ Recognized m s
  configured : ∀ spec, s.spec = some spec →
    declaration.overlayRouterIpv4 = spec.overlayRouterIpv4 ∧ declaration.effectiveMtu = spec.mtu

/-- The owner's declaration is prepared already. -/
def Prepared (s : State) (owner : ForwardOwner) (declaration : PrepareDeclaration) : Prop :=
  (∃ c, s.candidate = some c ∧ c.owner = owner ∧ c.declaration = declaration)
    ∨ (s.candidate = none ∧ ∃ f, s.forward = some f ∧ f.owner = owner
      ∧ f.declaration = declaration ∧ f.phase = .prepared)

variable {infraId : InstanceId} {infraGeneration : ℕ} {declaration : PrepareDeclaration}

theorem forwardPrepare_again (hE : Steady E w.clock)
    (hadministrator : s.administrator = some request.callerInstanceId)
    (hlive : ownerIsLive owner now = true)
    (hprepares : Prepares (E.moment w.clock) s infraId infraGeneration declaration)
    (hdone : Prepared s owner declaration) :
    Delivers (Stands w false s)
      (forwardPrepare E request now infraId infraGeneration owner declaration)
      (Acknowledges w s) := by
  unfold forwardPrepare
  apply administrator_meets _ fun h => absurd hadministrator h
  intro _
  apply identity_meets hE _ fun _ _ _ => Or.inr hprepares.identified
  intro spec hspec _ _
  apply Delivers.ensure_bind hlive
  apply Delivers.ensure_bind (hprepares.configured spec hspec)
  apply currentState_meets
  rcases hdone with ⟨c, hcandidate, hc⟩ | ⟨hcandidate, f, hforward, hf⟩
  · rw [hcandidate]
    apply Delivers.ensure_bind hc
    exact Delivers.pure fun _ hv => Or.inl ⟨rfl, hv⟩
  · rw [hcandidate, hforward]
    dsimp only
    rw [if_pos hf]
    exact Delivers.pure fun _ hv => Or.inl ⟨rfl, hv⟩

/-- A preparation that was not finished, or is the first: what is left when it is done. -/
theorem prepareFirst_yields (hE : Steady E w.clock) {sysctls : List SysctlChange} :
    Yields (Stands w false s) (prepareFirst E s owner declaration sysctls) (fun flow v =>
      flow = .store { s with
        sysctls
        forward := some (.accepted owner declaration .prepared)
        lastFencingToken := owner.fencingToken } ∧ ∃ s₀, Stands w false s₀ v) := by
  unfold prepareFirst
  apply persist_meets hE
  apply (Works.mapError _ (.call hE _)).meets
  intro _
  apply (Works.mapError _ (.call hE _)).meets
  intro _
  apply (Works.call hE _).meets
  intro _
  apply (Works.mapError _ (.call hE _)).meets
  intro _
  exact Yields.pure fun v hv => ⟨rfl, _, hv⟩

theorem forwardPrepare_repeats (hE : Steady E w.clock) (hrested : Rested (E.moment w.clock) now s)
    (hadmits : Admits s (.forwardPrepare infraId infraGeneration owner declaration))
    (hboot : s.forward = none → s.bootId = (E.moment w.clock).bootId) :
    Repeats E w now (.forwardPrepare infraId infraGeneration owner declaration)
      (forwardPrepare E request now infraId infraGeneration owner declaration) s := by
  unfold Repeats
  conv => arg 2; unfold forwardPrepare
  apply administrator_meets _ fun _ _ _ _ => trivial
  intro hadministrator
  apply identity_meets hE _ fun _ _ _ => Or.inl trivial
  intro spec hspec hids hrecognized
  apply Yields.ensure_bind
  intro hlive
  apply Yields.ensure_bind
  intro hconfigured
  apply currentState_meets
  have hprepares : ∀ s' : State, s'.spec = s.spec → s'.ifindex = s.ifindex →
      s'.ownershipMarker = s.ownershipMarker →
      Prepares (E.moment w.clock) s' infraId infraGeneration declaration := by
    intro s' hs' hi hm
    refine ⟨⟨spec, hs'.trans hspec, hids, ?_⟩, ?_⟩
    · exact ⟨hi ▸ hrecognized.interface, hm ▸ hrecognized.stamped, hm ▸ hrecognized.marker⟩
    · intro spec' hspec'
      rw [hs', hspec, Option.some.injEq] at hspec'
      exact hspec' ▸ hconfigured
  -- nothing was written: the declaration was prepared before
  have hready : Prepared s owner declaration → ∀ v, Stands w false s v → ∃ s',
      Acknowledges w s' ack v ∧ Again E w now
        (.forwardPrepare infraId infraGeneration owner declaration)
        (forwardPrepare E request now infraId infraGeneration owner declaration) s' :=
    fun hdone v hv => ⟨s, Or.inl ⟨rfl, hv⟩, hrested, hadmits,
      forwardPrepare_again hE hadministrator hlive (hprepares s rfl rfl rfl) hdone⟩
  -- the forward record is the one that was prepared
  have hfirst : ∀ sysctls, s.candidate = none → s.bootId = (E.moment w.clock).bootId →
      Yields (Stands w false s) (prepareFirst E s owner declaration sysctls) fun flow v => ∃ s',
        Acknowledges w s' flow v ∧ Again E w now
          (.forwardPrepare infraId infraGeneration owner declaration)
          (forwardPrepare E request now infraId infraGeneration owner declaration) s' := by
    intro sysctls hcandidate hboot'
    refine (prepareFirst_yields hE).post ?_
    rintro _ v ⟨rfl, s₀, hv⟩
    refine ⟨_, Or.inr ⟨rfl, s₀, hv⟩, ?_, ?_, ?_⟩
    · exact hrested.exchange hrested.created (Or.inr rfl) rfl (fun _ => ⟨hlive, hboot'⟩) rfl
        (fun _ => rfl)
    · exact admits_of_none rfl rfl fun _ => rfl
    · exact forwardPrepare_again hE hadministrator hlive (hprepares _ rfl rfl rfl)
        (Or.inr ⟨hcandidate, _, rfl, rfl, rfl, rfl⟩)
  cases hcandidate : s.candidate with
  | some candidate =>
    apply Yields.ensure_bind
    intro hc
    exact Yields.pure (hready (Or.inl ⟨candidate, hcandidate, hc⟩))
  | none =>
    cases hforward : s.forward with
    | none =>
      apply (Works.mapError _ (.read hE _ _)).meets
      intro sysctls
      exact hfirst sysctls hcandidate (hboot hforward)
    | some previous =>
      apply Triple.ite
      · intro hf
        exact Yields.pure (hready (Or.inr ⟨hcandidate, previous, hforward, hf⟩))
      · intro _
        unfold admitReplacement
        simp only [Proc.bind_assoc]
        apply Yields.ensure_bind
        intro _
        apply Yields.ensure_bind
        intro _
        apply Yields.ensure_bind
        intro _
        apply Yields.ensure_bind
        intro _
        apply Triple.ite
        · intro hretry
          obtain ⟨_, hphase⟩ := of_decide_eq_true hretry
          exact hfirst s.sysctls hcandidate (hrested.current previous hforward (by simp [hphase])).2
        · intro _
          apply (validateForwardingReplacement_works hE).meets
          intro _
          apply persist_meets hE
          apply Yields.pure
          intro v hv
          refine ⟨_, Or.inl ⟨rfl, hv⟩, ?_, ?_, ?_⟩
          · constructor
            · exact hrested.created
            · rintro c ⟨rfl⟩
              exact ⟨by simp [ForwardRecord.accepted], hlive⟩
            · exact fun f p hf => hrested.uncancelled f p (hforward.trans hf)
            · exact fun f hf => hrested.current f (hforward.trans hf)
            · intro f hf hactive
              obtain ⟨hsettled, hunpublished⟩ := hrested.idle f (hforward.trans hf) hactive
              refine ⟨hsettled, fun hp hdevice => hunpublished hp ⟨hdevice.1, ?_⟩⟩
              exact ⟨hdevice.2.interface, hdevice.2.stamped, hdevice.2.marker⟩
          · rw [Admits] at hadmits ⊢
            rw [← hforward]
            exact hadmits
          · exact forwardPrepare_again hE hadministrator hlive (hprepares _ rfl rfl rfl)
              (Or.inl ⟨_, rfl, rfl, rfl⟩)

/-! ## Authorization -/

/-- What `io_owner_alive` finds when every read works. -/
def aliveOn (m : Moment) (o : IoOwner) : Bool :=
  if m.bootId ≠ o.bootId then false
  else match m.processes o.pid with
    | none => false
    | some stat =>
      if stat.state = 'Z' ∨ stat.state = 'X' ∨ some stat.startTicks ≠ o.startTicks then false
      else true

theorem attempt_read_meets {α β : Type} {Q : β → InfrastructureService → Prop}
    (hE : Steady E w.clock) {f : Moment → α} {e : InfrastructureError}
    {g : Except InfrastructureError α → Svc β}
    (hg : Triple (Stands w b s) (g (.ok (f (E.moment w.clock)))) Q C K) :
    Triple (Stands w b s) (attempt (read E f e) >>= g) Q C K := by
  have hread : Triple (Stands w b s) (read E f e)
      (fun a v => Stands w b s v ∧ a = f (E.moment w.clock)) (fun _ _ => False) K := by
    intro v hv
    unfold wp read
    rw [hE.same v.clock hv.clock, hE.works]
    exact ⟨⟨hv.state, hv.recovering, Nat.le_succ_of_le hv.clock, hv.uid, hv.gid⟩, rfl⟩
  apply Triple.attempt_bind hread
  · intro a
    apply Triple.and_pre
    rintro rfl
    exact hg
  · intro e v hv
    exact hv.elim

theorem ioOwnerAlive_meets {Q : β → InfrastructureService → Prop} (hE : Steady E w.clock)
    {o : IoOwner} {g : Bool → Svc β}
    (hg : Triple (Stands w b s) (g (aliveOn (E.moment w.clock) o)) Q C K) :
    Triple (Stands w b s) (ioOwnerAlive E o >>= g) Q C K := by
  unfold ioOwnerAlive currentBootId
  simp only [Proc.bind_assoc]
  apply attempt_read_meets hE
  unfold aliveOn at hg
  dsimp only
  by_cases hboot : (E.moment w.clock).bootId = o.bootId
  · rw [if_neg (by simp [hboot])]
    rw [if_neg (by simp [hboot])] at hg
    unfold ioOwnerAlive.examine linuxProcessIdentity
    simp only [Proc.bind_assoc]
    apply attempt_read_meets hE
    cases hstat : (E.moment w.clock).processes o.pid with
    | none =>
      rw [hstat] at hg
      exact hg
    | some stat =>
      rw [hstat] at hg
      dsimp only at hg ⊢
      by_cases hgone : stat.state = 'Z' ∨ stat.state = 'X' ∨ some stat.startTicks ≠ o.startTicks
      · rw [if_pos hgone]
        rw [if_pos hgone] at hg
        exact hg
      · rw [if_neg hgone]
        rw [if_neg hgone] at hg
        unfold killProbe
        simp only [Proc.bind_assoc]
        apply attempt_read_meets hE
        rw [hstat]
        exact hg
  · rw [if_pos (by simpa using hboot)]
    rw [if_pos (by simpa using hboot)] at hg
    exact hg

/-- The record the owner's authority is bound to. -/
def State.owned (s : State) (owner : ForwardOwner) : Option ForwardRecord :=
  if (s.candidateOf owner).isSome then s.candidate else s.forward

theorem ownedRecord_yields {P : InfrastructureService → Prop} {f : ForwardRecord → Svc β}
    {Q : β → InfrastructureService → Prop}
    (hf : ∀ r, s.owned owner = some r → r.owner = owner → Yields P (f r) Q) :
    Yields P (ownedRecord s owner >>= f) Q := by
  unfold ownedRecord
  cases hcandidate : s.candidateOf owner with
  | some candidate =>
    obtain ⟨hsome, howner⟩ := candidateOf_eq_some hcandidate
    exact hf candidate (by rw [State.owned, hcandidate]; exact hsome) howner
  | none =>
    apply sameOwner_yields
    intro r hr howner
    exact hf r (by rw [State.owned, hcandidate]; exact hr) howner

theorem ownedRecord_eq (hr : s.owned owner = some r) (howner : r.owner = owner) :
    ownedRecord s owner = Pure.pure r := by
  unfold ownedRecord
  unfold State.owned at hr
  cases hcandidate : s.candidateOf owner with
  | some candidate =>
    rw [hcandidate] at hr
    obtain ⟨hsome, _⟩ := candidateOf_eq_some hcandidate
    rw [Option.isSome_some, if_pos rfl, hsome, Option.some.injEq] at hr
    rw [hr]
  | none =>
    rw [hcandidate] at hr
    exact sameOwner_eq hr howner

/-- The request's authority is that of the actual, running holder of the descriptor. -/
structure Bound (m : Moment) (s : State) (authority : ForwardAuthority) (io : IoOwner) : Prop where
  holder : s.ioOwner = some io
  process : authority.ioPid = io.pid ∧ authority.ioEpoch = io.ioEpoch
    ∧ some authority.ioStartTicks = io.startTicks
  alive : aliveOn m io = true

variable {authority : ForwardAuthority} {io : IoOwner}

theorem forwardAuthorize_again (hE : Steady E w.clock)
    (hadministrator : s.administrator = some request.callerInstanceId)
    (hlive : ownerIsLive owner now = true) (hbound : Bound (E.moment w.clock) s authority io)
    (hr : s.owned owner = some r) (howner : r.owner = owner)
    (hprepared : r.phase = .prepared ∧ authority.declarationHash = E.declarationHash r.declaration
      ∧ r.authority = some authority) :
    Delivers (Stands w false s) (forwardAuthorize E request now owner authority)
      (Acknowledges w s) := by
  unfold forwardAuthorize
  apply administrator_meets _ fun h => absurd hadministrator h
  intro _
  apply Delivers.ensure_bind hlive
  apply currentState_meets
  apply Delivers.okOr_bind hbound.holder
  apply Delivers.ensure_bind hbound.process
  apply ioOwnerAlive_meets hE
  apply Delivers.ensure_bind hbound.alive
  rw [ownedRecord_eq hr howner, Proc.pure_bind]
  apply Delivers.ensure_bind
  · exact ⟨hprepared.1, hprepared.2.1, by simp [hprepared.2.2]⟩
  · -- the authority is written once more over itself
    have hsame : { r with authority := some authority } = r := by
      rw [← hprepared.2.2]
    unfold State.owned at hr
    by_cases hcandidate : (s.candidateOf owner).isSome = true
    · rw [if_pos hcandidate] at hr ⊢
      apply Delivers.pure
      intro v hv
      rw [State.mapCandidate, hr, Option.map_some, hsame, ← hr]
      exact Or.inr ⟨rfl, s, hv⟩
    · rw [if_neg hcandidate] at hr ⊢
      apply Delivers.pure
      intro v hv
      rw [State.mapForward, hr, Option.map_some, hsame, ← hr]
      exact Or.inr ⟨rfl, s, hv⟩

/-- The candidate is exchanged for one of the same owner, in a phase other than the commit. -/
theorem Rested.exchangeCandidate {m : Moment} {c c' : ForwardRecord} (h : Rested m now s)
    (hcandidate : s.candidate = some c) (howner : c'.owner = c.owner) (hphase : c'.phase = c.phase) :
    Rested m now { s with candidate := some c' } where
  created := h.created
  waiting := by
    rintro _ ⟨rfl⟩
    rw [howner, hphase]
    exact h.waiting c hcandidate
  uncancelled := h.uncancelled
  current := h.current
  idle := by
    intro f hf hactive
    obtain ⟨hsettled, hunpublished⟩ := h.idle f hf hactive
    refine ⟨hsettled, fun hp hdevice => hunpublished hp ⟨hdevice.1, ?_⟩⟩
    exact ⟨hdevice.2.interface, hdevice.2.stamped, hdevice.2.marker⟩

/-- A record in preparation retains no work. -/
theorem Apart.prepared_none (hapart : Apart s) (hrested : Rested (E.moment w.clock) now s) :
    ∀ c, s.candidate = some c → c.phase = .prepared ∧ c.pendingPolicy = none
      ∧ c.pendingFailedPrefixes = none ∧ c.pendingFailureRevision = none := by
  intro c hc
  obtain ⟨hp, hf, hr, _⟩ := hapart.candidate c hc
  exact ⟨(hapart.shaped c hc).resolve_right (hrested.waiting c hc).1, hp, hf, hr⟩

theorem forwardAuthorize_repeats (hE : Steady E w.clock)
    (hrested : Rested (E.moment w.clock) now s)
    (hadmits : Admits s (.forwardAuthorize owner authority)) :
    Repeats E w now (.forwardAuthorize owner authority)
      (forwardAuthorize E request now owner authority) s := by
  unfold Repeats
  conv => arg 2; unfold forwardAuthorize
  apply administrator_meets _ fun _ _ _ _ => trivial
  intro hadministrator
  apply Yields.ensure_bind
  intro hlive
  apply currentState_meets
  apply Yields.okOr_bind
  intro io hio
  apply Yields.ensure_bind
  intro hprocess
  apply ioOwnerAlive_meets hE
  apply Yields.ensure_bind
  intro halive
  apply ownedRecord_yields
  intro r hr howner
  apply Yields.ensure_bind
  rintro ⟨hphase, hhash, _⟩
  have hagain : ∀ s' : State, s'.administrator = s.administrator → s'.ioOwner = s.ioOwner →
      s'.owned owner = some { r with authority := some authority } →
      Delivers (Stands w false s') (forwardAuthorize E request now owner authority)
        (Acknowledges w s') := fun s' ha hi hr' =>
    forwardAuthorize_again hE (ha.trans hadministrator) hlive ⟨hi.trans hio, hprocess, halive⟩ hr'
      howner ⟨hphase, hhash, rfl⟩
  by_cases hcandidate : (s.candidateOf owner).isSome = true
  · rw [State.owned, if_pos hcandidate] at hr
    rw [if_pos hcandidate]
    apply Yields.pure
    intro v hv
    have heq : s.mapCandidate (fun r => { r with authority := some authority })
        = { s with candidate := some { r with authority := some authority } } := by
      rw [State.mapCandidate, hr, Option.map_some]
    rw [heq]
    refine ⟨_, Or.inr ⟨rfl, s, hv⟩, hrested.exchangeCandidate hr rfl rfl, hadmits,
      hagain _ rfl rfl ?_⟩
    simp [State.owned, State.candidateOf, howner]
  · rw [State.owned, if_neg hcandidate] at hr
    rw [if_neg hcandidate]
    apply Yields.pure
    intro v hv
    have heq : s.mapForward (fun r => { r with authority := some authority })
        = { s with forward := some { r with authority := some authority } } := by
      rw [State.mapForward, hr, Option.map_some]
    rw [heq]
    refine ⟨_, Or.inr ⟨rfl, s, hv⟩, ?_, ?_, hagain _ rfl rfl ?_⟩
    · constructor
      · exact hrested.created
      · exact hrested.waiting
      · rintro _ p ⟨rfl⟩ hp
        exact hrested.uncancelled r p hr hp
      · rintro _ ⟨rfl⟩ _
        exact hrested.current r hr (by simp [hphase])
      · rintro _ ⟨rfl⟩ hactive
        simp [hphase] at hactive
    · rw [Admits] at hadmits ⊢
      rw [hr] at hadmits
      exact hadmits
    · have hnot : ¬ (({ s with forward := some { r with authority := some authority } } : State).candidateOf
          owner).isSome = true := hcandidate
      rw [State.owned, if_neg hnot]

/-! ## Commit -/

theorem forwardCommit_again (hE : Steady E w.clock)
    (hadministrator : s.administrator = some request.callerInstanceId)
    (hlive : ownerIsLive owner now = true)
    (hdevice : s.spec.isSome = true ∧ Recognized (E.moment w.clock) s)
    (hcandidate : s.candidateOf owner = none) (hforward : s.forward = some f)
    (howner : f.owner = owner) (hphase : f.phase = .active) (hauthority : f.authority = none) :
    Delivers (Stands w false s) (forwardCommit E request now owner false) (Acknowledges w s) := by
  unfold forwardCommit
  apply administrator_meets _ fun h => absurd hadministrator h
  intro _
  apply Delivers.ensure_bind hlive
  apply ownIdentity_meets hE _ fun _ _ _ => Or.inr hdevice
  intro _ _
  apply currentState_meets
  apply Delivers.ensure_bind
  · rw [hcandidate, Option.none_or, State.forwardOf, hforward]
    simp [howner, hauthority]
  · rw [hcandidate]
    dsimp only
    rw [sameOwner_eq hforward howner, Proc.pure_bind, if_pos hphase]
    exact Delivers.pure fun _ hv => Or.inl ⟨rfl, hv⟩

theorem neverReturns_abandonCommit {α : Type} {previous candidate : ForwardRecord}
    (e : InfrastructureError) : NeverReturns (abandonCommit E previous candidate now e : Svc α) := by
  unfold abandonCommit
  apply neverReturns_bind
  intro result
  cases result with
  | ok _ => exact neverReturns_fail _
  | error _ => exact neverReturns_fail _

/-- What a committed candidate leaves. -/
theorem commitCandidate_yields (hE : Steady E w.clock) {candidate : ForwardRecord} :
    Yields (Stands w false s) (commitCandidate E now s candidate) (fun flow v => flow = ack
      ∧ Stands w false { s with
        forward := some { candidate with phase := .active }
        candidate := none } v) := by
  unfold commitCandidate
  apply Yields.okOr_bind
  intro previous _
  apply (validateForwardingReplacement_works hE).meets
  intro _
  apply Triple.ite
  · intro _
    apply persist_meets hE
    exact Yields.pure fun v hv => ⟨rfl, hv⟩
  · intro _
    apply persist_meets hE
    have hinstall : Works w (handle
        (installReplacement E previous { candidate with phase := .preparing } s.sysctls)
        (abandonCommit E previous { candidate with phase := .preparing } now)) :=
      (installReplacement_works hE _ _ _).handle
    apply hinstall.meets
    intro _
    apply Yields.bind (Yields.handle (persist_works hE) fun e => neverReturns_abandonCommit e)
    intro _
    exact Yields.pure fun v hv => ⟨rfl, hv⟩

theorem forwardCommit_repeats (hE : Steady E w.clock) (hapart : Apart s)
    (hrested : Rested (E.moment w.clock) now s) (hadmits : Admits s (.forwardCommit owner))
    (hboot : s.candidateOf owner ≠ none → s.bootId = (E.moment w.clock).bootId) :
    Repeats E w now (.forwardCommit owner) (forwardCommit E request now owner false) s := by
  have hdone : ∀ {s' : State} {f : ForwardRecord}, s'.forward = some f → f.pendingPolicy = none →
      f.pendingFailedPrefixes = none → Admits s' (.forwardCommit owner) :=
    fun hf hp hfailures => admits_of_none hf hp fun _ => hfailures
  unfold Repeats
  conv => arg 2; unfold forwardCommit
  apply administrator_meets _ fun _ _ _ _ => trivial
  intro hadministrator
  apply Yields.ensure_bind
  intro hlive
  apply ownIdentity_meets hE _ fun _ _ _ => Or.inl trivial
  intro hspec hrecognized
  apply currentState_meets
  apply Yields.ensure_bind
  intro hunauthorized
  have hrecognized' : ∀ s' : State, s'.ifindex = s.ifindex →
      s'.ownershipMarker = s.ownershipMarker → Recognized (E.moment w.clock) s' := fun s' hi hm =>
    ⟨hi ▸ hrecognized.interface, hm ▸ hrecognized.stamped, hm ▸ hrecognized.marker⟩
  cases hcandidate : s.candidateOf owner with
  | some candidate =>
    obtain ⟨hsome, howner⟩ := candidateOf_eq_some hcandidate
    obtain ⟨_, hpolicy, hfailures, _⟩ := hapart.prepared_none hrested candidate hsome
    refine (commitCandidate_yields hE).post ?_
    rintro _ v ⟨rfl, hv⟩
    refine ⟨_, Or.inl ⟨rfl, hv⟩, ?_, ?_, ?_⟩
    · refine hrested.exchange hrested.created (Or.inl rfl) rfl (fun _ => ?_) hpolicy
        (fun _ => hfailures)
      exact ⟨by rw [howner]; exact hlive, hboot (by simp [hcandidate])⟩
    · exact hdone rfl hpolicy hfailures
    · refine forwardCommit_again hE hadministrator hlive ⟨hspec, hrecognized' _ rfl rfl⟩
        (candidateOf_none rfl) rfl howner rfl ?_
      simpa [hcandidate] using hunauthorized
  | none =>
    apply sameOwner_yields
    intro f hforward howner
    have hpending := hadmits
    rw [Admits, hforward] at hpending
    have hpolicy : f.pendingPolicy = none := by
      simpa [Operation.transacts, Operation.replaces] using hpending.2
    have hfailures : f.pendingFailedPrefixes = none := by
      simpa [Operation.replaces] using hpending.1
    have hauthority : f.authority = none := by
      simpa [hcandidate, State.forwardOf, hforward, howner] using hunauthorized
    apply Triple.ite
    · intro hactive
      exact Yields.pure fun v hv => ⟨s, Or.inl ⟨rfl, hv⟩, hrested, hadmits,
        forwardCommit_again hE hadministrator hlive ⟨hspec, hrecognized⟩ hcandidate hforward howner
          hactive hauthority⟩
    · intro _
      apply Yields.ensure_bind
      intro hphase
      apply ((Works.call hE _).handle).meets
      intro _
      apply Yields.pure
      intro v hv
      have hforward' : (s.mapForward fun r => { r with phase := .active }).forward
          = some { f with phase := .active } := by
        rw [State.mapForward, hforward, Option.map_some]
      refine ⟨_, Or.inr ⟨rfl, s, hv⟩, ?_, ?_, ?_⟩
      · exact hrested.exchange hrested.created (Or.inr rfl) hforward'
          (fun _ => hrested.current f hforward (by simp [hphase])) hpolicy (fun _ => hfailures)
      · exact hdone hforward' hpolicy hfailures
      · exact forwardCommit_again hE hadministrator hlive ⟨hspec, hrecognized' _ rfl rfl⟩
          hcandidate hforward' howner rfl hauthority

/-! ## Failed prefixes and live policies -/

variable {revision : ℕ} {failed : List Ipv4Prefix}

theorem forwardFailedPrefixes_again (hE : Steady E w.clock)
    (hadministrator : s.administrator = some request.callerInstanceId)
    (hlive : ownerIsLive owner now = true)
    (hdevice : s.spec.isSome = true ∧ Recognized (E.moment w.clock) s)
    (hr : s.owned owner = some r) (howner : r.owner = owner)
    (hvalid : validateFailedPrefixes r.declaration failed = .ok ())
    (hpending : r.pendingFailedPrefixes = none ∧ r.pendingFailureRevision = none)
    (hrecorded : r.failureRevision = revision ∧ r.failedPrefixes = sortPrefixes failed) :
    Delivers (Stands w false s) (forwardFailedPrefixes E request now owner revision failed)
      (Acknowledges w s) := by
  obtain ⟨hprefixes, hnone⟩ := hpending
  obtain ⟨hrevision, hfailed⟩ := hrecorded
  unfold forwardFailedPrefixes
  apply administrator_meets _ fun h => absurd hadministrator h
  intro _
  apply Delivers.ensure_bind hlive
  apply ownIdentity_meets hE _ fun _ _ _ => Or.inr hdevice
  intro _ _
  apply currentState_meets
  dsimp only
  unfold State.owned at hr
  rw [sameOwner_eq hr howner, Proc.pure_bind]
  apply Delivers.lift_bind hvalid
  rw [hprefixes, hnone, Option.getD_none, Option.getD_none, hrevision, hfailed]
  apply Delivers.ensure_bind (by simp)
  apply Delivers.ensure_bind rfl
  rw [if_pos rfl]
  exact Delivers.pure fun _ hv => Or.inl ⟨rfl, hv⟩

theorem forwardFailedPrefixes_repeats (hE : Steady E w.clock) (hapart : Apart s)
    (hrested : Rested (E.moment w.clock) now s)
    (hadmits : Admits s (.forwardFailedPrefixes owner revision failed)) :
    Repeats E w now (.forwardFailedPrefixes owner revision failed)
      (forwardFailedPrefixes E request now owner revision failed) s := by
  unfold Repeats
  conv => arg 2; unfold forwardFailedPrefixes
  apply administrator_meets _ fun _ _ _ _ => trivial
  intro hadministrator
  apply Yields.ensure_bind
  intro hlive
  apply ownIdentity_meets hE _ fun _ _ _ => Or.inl trivial
  intro hspec hrecognized
  apply currentState_meets
  apply sameOwner_yields
  intro r hr howner
  apply Yields.lift_bind
  intro _ hvalid
  apply Yields.ensure_bind
  intro hfresh
  apply Yields.ensure_bind
  intro hprefixes
  have hnone : r.pendingFailureRevision = none := by
    by_cases hcandidate : (s.candidateOf owner).isSome = true
    · rw [if_pos hcandidate] at hr
      exact (hapart.candidate r hr).2.2.1
    · rw [if_neg hcandidate] at hr
      exact hapart.paired r hr hprefixes
  -- the device and the owner's record after the run, for the second one
  have hagain : ∀ s' : State, s'.administrator = s.administrator → s'.spec = s.spec →
      s'.ifindex = s.ifindex → s'.ownershipMarker = s.ownershipMarker → ∀ r' : ForwardRecord,
      s'.owned owner = some r' → r'.owner = owner → r'.declaration = r.declaration →
      (r'.pendingFailedPrefixes = none ∧ r'.pendingFailureRevision = none) →
      (r'.failureRevision = revision ∧ r'.failedPrefixes = sortPrefixes failed) →
      Delivers (Stands w false s') (forwardFailedPrefixes E request now owner revision failed)
        (Acknowledges w s') := by
    intro s' ha hs hi hm r' hr' howner' hdeclaration hpending hrecorded
    refine forwardFailedPrefixes_again hE (ha.trans hadministrator) hlive
      ⟨hs ▸ hspec, ?_⟩ hr' howner' (hdeclaration ▸ hvalid) hpending hrecorded
    exact ⟨hi ▸ hrecognized.interface, hm ▸ hrecognized.stamped, hm ▸ hrecognized.marker⟩
  apply Triple.ite
  · intro hsame
    apply Yields.pure
    intro v hv
    rw [hprefixes, hnone, Option.getD_none, Option.getD_none] at hfresh
    rw [hnone, Option.getD_none] at hsame
    refine ⟨s, Or.inl ⟨rfl, hv⟩, hrested, hadmits, hagain s rfl rfl rfl rfl r hr howner rfl
      ⟨hprefixes, hnone⟩ ⟨hsame.symm, ?_⟩⟩
    by_contra hne
    exact hfresh (Or.inr ⟨hsame, fun h => hne h.symm⟩)
  · intro hnew
    by_cases hcandidate : (s.candidateOf owner).isSome = true
    · -- a rested candidate is prepared
      rw [if_pos hcandidate] at hr
      obtain ⟨hphase, _⟩ := hapart.prepared_none hrested r hr
      apply Triple.ite
      · intro _
        apply persist_meets hE
        apply Yields.pure
        intro v hv
        have heq : s.mapRecord (s.candidateOf owner).isSome
              (fun r => { r with failureRevision := revision, failedPrefixes := sortPrefixes failed })
            = { s with candidate := some { r with
                failureRevision := revision, failedPrefixes := sortPrefixes failed } } := by
          rw [State.mapRecord, if_pos hcandidate, State.mapCandidate, hr, Option.map_some]
        rw [heq] at hv
        refine ⟨_, Or.inl ⟨rfl, hv⟩, hrested.exchangeCandidate hr rfl rfl, hadmits,
          hagain _ rfl rfl rfl rfl { r with
            failureRevision := revision, failedPrefixes := sortPrefixes failed } ?_ howner rfl
            ⟨hprefixes, hnone⟩ ⟨rfl, rfl⟩⟩
        simp [State.owned, State.candidateOf, howner]
      · intro hnot
        exact absurd hphase hnot
    · rw [if_neg hcandidate] at hr
      have hpolicy : r.pendingPolicy = none := by
        have h := hadmits.2
        rw [hr] at h
        simpa [Operation.transacts] using h
      -- the forward record takes the revision and the prefixes, with nothing left to install
      have hwritten : ∀ f : ForwardRecord, f.owner = r.owner → f.declaration = r.declaration →
          f.phase = r.phase → r.phase ≠ .revoked → f.pendingPolicy = none →
          (f.pendingFailedPrefixes = none ∧ f.pendingFailureRevision = none) →
          (f.failureRevision = revision ∧ f.failedPrefixes = sortPrefixes failed) → ∀ v,
          Stands w false { s with forward := some f } v → ∃ s', Acknowledges w s' ack v ∧ Again E w
            now (.forwardFailedPrefixes owner revision failed)
            (forwardFailedPrefixes E request now owner revision failed) s' := by
        intro f howner' hdeclaration hphase' hphase hpolicy' hpending hrecorded v hv
        have hnot : ¬ (({ s with forward := some f } : State).candidateOf owner).isSome = true :=
          hcandidate
        refine ⟨_, Or.inl ⟨rfl, hv⟩, ?_, ?_, hagain _ rfl rfl rfl rfl f ?_ (howner'.trans howner)
          hdeclaration hpending hrecorded⟩
        · refine hrested.exchange hrested.created (Or.inr rfl) rfl (fun _ => ?_) hpolicy'
            (fun _ => hpending.1)
          obtain ⟨hl, hb⟩ := hrested.current r hr hphase
          exact ⟨howner' ▸ hl, hb⟩
        · exact admits_of_none rfl hpolicy' fun _ => hpending.1
        · rw [State.owned, if_neg hnot]
      have hmap : ∀ g : ForwardRecord → ForwardRecord,
          s.mapRecord (s.candidateOf owner).isSome g = { s with forward := some (g r) } := by
        intro g
        rw [State.mapRecord, if_neg hcandidate, State.mapForward, hr, Option.map_some]
      simp only [hmap]
      apply Triple.ite
      · intro hphase
        apply persist_meets hE
        exact Yields.pure (hwritten _ rfl rfl rfl (by simp [hphase]) hpolicy ⟨hprefixes, hnone⟩
          ⟨rfl, rfl⟩)
      · intro _
        apply Yields.ensure_bind
        intro hactive
        apply Triple.ite
        · intro hsame
          apply persist_meets hE
          exact Yields.pure (hwritten _ rfl rfl rfl (by simp [hactive]) hpolicy ⟨hprefixes, hnone⟩
            ⟨rfl, hsame⟩)
        · intro _
          apply persist_meets hE
          apply (Works.mapError _ (.call hE _)).meets
          intro _
          apply unwrap_meets _ fun h => absurd h (by simp)
          intro _ _
          apply persist_meets hE
          exact Yields.pure (hwritten _ rfl rfl rfl (by simp [hactive]) hpolicy ⟨rfl, rfl⟩
            ⟨rfl, rfl⟩)

variable {generation : ℕ} {hash : String}

/-- The policy of the request is the one the record has. -/
structure Published (r : ForwardRecord) (revision generation : ℕ) (hash : String)
    (declaration : PrepareDeclaration) : Prop where
  declaration : r.declaration = declaration
  revision : r.policyRevision = revision
  generation : r.policyGeneration = some generation
  hash : r.policyHash = some hash

theorem forwardPolicyUpdate_again (hE : Steady E w.clock)
    (hadministrator : s.administrator = some request.callerInstanceId)
    (hlive : ownerIsLive owner now = true)
    (hdevice : s.spec.isSome = true ∧ Recognized (E.moment w.clock) s)
    (hcandidate : s.candidate = none) (hforward : s.forward = some f) (howner : f.owner = owner)
    (hphase : f.phase = .active)
    (hpending : f.pendingFailedPrefixes = none ∧ f.pendingPolicy = none)
    (hpublished : Published f revision generation hash declaration) :
    Delivers (Stands w false s)
      (forwardPolicyUpdate E request now owner revision generation hash declaration)
      (Acknowledges w s) := by
  obtain ⟨hdeclaration, hrevision, hgeneration, hhash⟩ := hpublished
  unfold forwardPolicyUpdate
  apply administrator_meets _ fun h => absurd hadministrator h
  intro _
  apply Delivers.ensure_bind hlive
  apply ownIdentity_meets hE _ fun _ _ _ => Or.inr hdevice
  intro _ _
  apply currentState_meets
  apply Delivers.ensure_bind hcandidate
  rw [sameOwner_eq hforward howner, Proc.pure_bind]
  apply Delivers.ensure_bind hphase
  apply Delivers.ensure_bind hpending.1
  apply Delivers.ensure_bind hpending.2
  have hidentity : validateLivePolicyIdentity f.declaration declaration = .ok () := by
    rw [hdeclaration, validateLivePolicyIdentity, if_neg (by simp)]
  apply Delivers.lift_bind hidentity
  apply Delivers.ensure_bind
  · simp [ForwardRecord.generation, hdeclaration, hrevision, hgeneration, hhash]
  · rw [if_pos hrevision.symm]
    exact Delivers.pure fun _ hv => Or.inl ⟨rfl, hv⟩

theorem forwardPolicyUpdate_repeats (hE : Steady E w.clock)
    (hrested : Rested (E.moment w.clock) now s)
    (hadmits : Admits s (.forwardPolicyUpdate owner revision generation hash declaration)) :
    Repeats E w now (.forwardPolicyUpdate owner revision generation hash declaration)
      (forwardPolicyUpdate E request now owner revision generation hash declaration) s := by
  unfold Repeats
  conv => arg 2; unfold forwardPolicyUpdate
  apply administrator_meets _ fun _ _ _ _ => trivial
  intro hadministrator
  apply Yields.ensure_bind
  intro hlive
  apply ownIdentity_meets hE _ fun _ _ _ => Or.inl trivial
  intro hspec hrecognized
  apply currentState_meets
  apply Yields.ensure_bind
  intro hcandidate
  apply sameOwner_yields
  intro f hforward howner
  apply Yields.ensure_bind
  intro hphase
  apply Yields.ensure_bind
  intro hfailures
  apply Yields.ensure_bind
  intro hpolicy
  apply Yields.lift_bind
  intro _ _
  apply Yields.ensure_bind
  intro hfresh
  have hcurrent := hrested.current f hforward (by simp [hphase])
  -- the record the update ends in, for the second run
  have hwritten : ∀ f' : ForwardRecord, f'.owner = f.owner → f'.phase = f.phase →
      (f'.pendingFailedPrefixes = none ∧ f'.pendingPolicy = none) →
      Published f' revision generation hash declaration → ∀ v,
      Stands w false { s with forward := some f' } v → ∃ s', Acknowledges w s' ack v
        ∧ Again E w now (.forwardPolicyUpdate owner revision generation hash declaration)
          (forwardPolicyUpdate E request now owner revision generation hash declaration) s' := by
    intro f' howner' hphase' hpending hpublished v hv
    refine ⟨_, Or.inl ⟨rfl, hv⟩, ?_, ?_, ?_⟩
    · exact hrested.exchange hrested.created (Or.inr rfl) rfl
        (fun _ => ⟨howner' ▸ hcurrent.1, hcurrent.2⟩) hpending.2 (fun _ => hpending.1)
    · exact admits_of_none rfl hpending.2 fun _ => hpending.1
    · exact forwardPolicyUpdate_again hE hadministrator hlive
        ⟨hspec, hrecognized.interface, hrecognized.stamped, hrecognized.marker⟩ hcandidate rfl
        (howner'.trans howner) (hphase'.trans hphase) hpending hpublished
  have hmap : ∀ g : ForwardRecord → ForwardRecord,
      s.mapForward g = { s with forward := some (g f) } := by
    intro g
    rw [State.mapForward, hforward, Option.map_some]
  apply Triple.ite
  · intro hsame
    apply Yields.pure
    intro v hv
    -- an equal revision passed the test, so everything else is equal too
    have hequal : ¬ (f.declaration ≠ declaration ∨ f.policyGeneration ≠ some generation
        ∨ f.policyHash ≠ some hash) := fun h => hfresh (Or.inr (Or.inr ⟨hsame, h⟩))
    simp only [not_or, not_not] at hequal
    refine ⟨s, Or.inl ⟨rfl, hv⟩, hrested, hadmits, ?_⟩
    exact forwardPolicyUpdate_again hE hadministrator hlive ⟨hspec, hrecognized⟩ hcandidate
      hforward howner hphase ⟨hfailures, hpolicy⟩
      ⟨hequal.1, hsame.symm, hequal.2.1, hequal.2.2⟩
  · intro _
    apply Triple.ite
    · intro hsame
      apply persist_meets hE
      rw [hmap]
      exact Yields.pure (hwritten _ rfl rfl ⟨hfailures, hpolicy⟩ ⟨hsame, rfl, rfl, rfl⟩)
    · intro _
      apply (validateForwardingReplacement_works hE).meets
      intro _
      rw [hmap]
      apply persist_meets hE
      -- the intent is published at once
      let p : PendingPolicy :=
        { cancelled := false, revision, generation, authorizationSnapshotSha256 := hash,
          declaration }
      have hintent := reconcileLivePolicy_meets (b := false) (K := fun _ => True)
        (s := { s with forward := some { f with pendingPolicy := some p } }) hE rfl
        (p := p) rfl hphase hcurrent.1
      apply Yields.bind (hintent.conseq (fun _ h => h) (fun _ _ h => h.1) (fun _ _ _ => trivial)
        (fun _ h => h))
      intro _
      exact Yields.pure (hwritten _ rfl rfl ⟨hfailures, rfl⟩ ⟨rfl, rfl, rfl, rfl⟩)

end CandyRuntime.NetdV2
