import CandyRuntime.NetdV2.RepeatTheorems

/-!
# Acknowledged twice

The whole of `process`, for a forwarding request that was acknowledged and is sent again at the
same time: it is acknowledged again and changes nothing (`acknowledged_again_iff`), except that a
revoked candidate is gone when it is asked for again, and that a record prepared or committed
under an old boot identifier is revoked by the recovery in between.
-/

namespace CandyRuntime.NetdV2

open Lib Lib.Proc NetdProto NetdV1

variable {s₁ : State} {c : ForwardRecord} {m : Moment}

section Requests

variable {E : Surroundings} {w : InfrastructureService} {s : State} {request : Request} {now : ℕ}
  {owner : ForwardOwner} {infraId : InstanceId} {infraGeneration : ℕ}
  {declaration : PrepareDeclaration}

/-! ## The request as a whole -/

/-- The forwarding requests; an authorized commit carries a proof that ages. -/
def Operation.forwards : Operation → Bool
  | .forwardPrepare .. | .forwardAuthorize .. | .forwardCommit _ | .forwardGuard _
  | .forwardRevoke _ | .forwardLeaseRenew _ | .forwardFailedPrefixes ..
  | .forwardPolicyUpdate .. => true
  | _ => false

/-- In this state the operation can be carried out twice: it revokes no candidate, and the boot
identifier of the state is the host's when a record begins to forward under it. -/
def Repeatable (m : Moment) (s : State) : Operation → Prop
  | .forwardRevoke owner => s.candidateOf owner = none
  | .forwardPrepare .. => s.forward = none → s.bootId = m.bootId
  | .forwardCommit owner => s.candidateOf owner ≠ none → s.bootId = m.bootId
  | _ => True

theorem Recovers.candidateOf {s s₁ : State} (h : Recovers s s₁) (owner : ForwardOwner) :
    s₁.candidateOf owner = s.candidateOf owner ∨ s₁.candidate = none := by
  unfold State.candidateOf
  rcases h.candidate with heq | hnone
  · rw [heq]
    exact Or.inl rfl
  · exact Or.inr hnone

theorem Recovers.repeatable {s s₁ : State} {operation : Operation} (h : Recovers s s₁)
    (hs : Repeatable m s operation) : Repeatable m s₁ operation := by
  cases operation with
  | forwardRevoke owner =>
    rcases h.candidateOf owner with heq | hnone
    · exact heq.trans hs
    · exact candidateOf_none hnone
  | forwardPrepare infraId infraGeneration owner declaration =>
    intro hforward
    rw [h.bootId]
    apply hs
    have hrel := h.forward
    rw [hforward] at hrel
    generalize s.forward = o at hrel
    cases hrel
    rfl
  | forwardCommit owner =>
    intro hcandidate
    rw [h.bootId]
    rcases h.candidateOf owner with heq | hnone
    · exact hs (heq ▸ hcandidate)
    · exact absurd (candidateOf_none hnone) hcandidate
  | _ => trivial

theorem dispatch_repeats (hE : Steady E w.clock) (hapart : Apart s)
    (hrested : Rested (E.moment w.clock) now s) (hadmits : Admits s request.operation)
    (hforwards : request.operation.forwards = true)
    (hrepeatable : Repeatable (E.moment w.clock) s request.operation) :
    Repeats E w now request.operation (dispatch E request now) s := by
  unfold dispatch
  cases hoperation : request.operation with
  | forwardPrepare infraId infraGeneration owner declaration =>
    rw [hoperation] at hadmits hrepeatable
    exact forwardPrepare_repeats hE hrested hadmits hrepeatable
  | forwardAuthorize owner authority =>
    rw [hoperation] at hadmits
    exact forwardAuthorize_repeats hE hrested hadmits
  | forwardCommit owner =>
    rw [hoperation] at hadmits hrepeatable
    exact forwardCommit_repeats hE hapart hrested hadmits hrepeatable
  | forwardGuard owner =>
    rw [hoperation] at hadmits
    exact forwardGuard_repeats hE hrested hadmits
  | forwardRevoke owner =>
    rw [hoperation] at hrepeatable
    exact forwardRevoke_repeats hE hrested hrepeatable
  | forwardLeaseRenew owner => exact forwardLeaseRenew_repeats hrested
  | forwardFailedPrefixes owner revision failed =>
    rw [hoperation] at hadmits
    exact forwardFailedPrefixes_repeats hE hapart hrested hadmits
  | forwardPolicyUpdate owner revision generation hash declaration =>
    rw [hoperation] at hadmits
    exact forwardPolicyUpdate_repeats hE hrested hadmits
  | _ =>
    rw [hoperation] at hforwards
    simp [Operation.forwards] at hforwards

/-- The request is valid, and comes from the process it names. -/
structure Authentic (w : InfrastructureService) (request : Request) (peer : PeerCredentials) :
    Prop where
  valid : request.validate.isOk = true
  peer : peer.uid = w.allowedUid ∧ peer.gid = w.allowedGid ∧ peer.pid = request.callerPid

theorem not_capabilities (hforwards : request.operation.forwards = true) :
    request.operation ≠ .capabilities := by
  intro h
  rw [h] at hforwards
  simp [Operation.forwards] at hforwards

theorem authenticate_eq (hforwards : request.operation.forwards = true) :
    authenticate E request now = Pure.pure () := by
  unfold authenticate
  cases hoperation : request.operation with
  | forwardCommitAuthorized owner receipt =>
    rw [hoperation] at hforwards
    simp [Operation.forwards] at hforwards
  | _ => rfl

theorem epilogue_works {b : Bool} {next : State}
    {C : InfrastructureError → InfrastructureService → Prop} {K : InfrastructureService → Prop}
    (hE : Steady E w.clock) :
    Triple (Stands w b s) (epilogue E next) (fun _ => Stands w b next) C K := by
  unfold epilogue
  exact Triple.handle (persist_works hE (C := fun _ _ => False)) fun _ _ hv => hv.elim

variable {peer : PeerCredentials}

/-- What an acknowledged request leaves is what its operation leaves after the recovery. -/
theorem process_yields {b : Bool} {P : State → Prop} (hE : Steady E w.clock) (hapart : Apart s)
    (hforwards : request.operation.forwards = true)
    (hdispatch : ∀ s₁, Recovers (s.completed (E.moment w.clock)) s₁ →
      Rested (E.moment w.clock) now s₁ → Admits s₁ request.operation →
      Yields (Stands w false s₁) (dispatch E request now)
        fun flow v => ∃ s', Acknowledges w s' flow v ∧ P s') :
    Yields (Stands w b s) (process E request peer now) fun reply v =>
      Authentic w request peer ∧ reply = (.ack, false) ∧ ∃ s', Stands w false s' v ∧ P s' := by
  unfold process
  apply Yields.ensure_bind
  intro hvalid
  apply get_meets
  intro v₀ hv₀
  apply Yields.ensure_bind
  intro hpeer
  rw [hv₀.uid, hv₀.gid] at hpeer
  rw [if_neg (not_capabilities hforwards)]
  apply (recoverExpired_rests hE hapart).bind
  intro _
  apply Triple.exists_pre
  intro s₁
  apply Triple.and_pre
  rintro ⟨hrec, hrested⟩
  unfold admission
  rw [authenticate_eq hforwards]
  simp only [Proc.bind_assoc, Proc.pure_bind]
  apply currentState_meets
  apply Yields.ensure_bind
  intro hfailures
  apply Yields.ensure_bind
  intro hpolicy
  apply (hdispatch s₁ hrec hrested ⟨hfailures, hpolicy⟩).bind
  intro flow
  apply Triple.exists_pre
  intro s'
  apply Triple.and_pre
  intro hP
  rintro v (⟨rfl, hv⟩ | ⟨rfl, s₀, hv⟩)
  · exact ⟨⟨hvalid, hpeer⟩, rfl, s', hv, hP⟩
  · -- the state the operation hands over is stored at the end
    rw [wp_bind]
    refine wp_mono (epilogue_works (C := fun _ _ => True) (K := fun _ => True) hE v hv) ?_
      (fun _ _ h => h) (fun _ h => h)
    intro _ v' hv'
    exact ⟨⟨hvalid, hpeer⟩, rfl, s', hv', hP⟩

/-- A second run is acknowledged and changes nothing. -/
theorem process_again (hE : Steady E w.clock) (hforwards : request.operation.forwards = true)
    (hauthentic : Authentic w request peer)
    (hagain : Again E w now request.operation (dispatch E request now) s) :
    Delivers (Stands w false s) (process E request peer now) fun reply v =>
      reply = (.ack, false) ∧ Stands w false s v := by
  unfold process
  apply Delivers.ensure_bind hauthentic.valid
  apply get_meets
  intro v₀ hv₀
  apply Delivers.ensure_bind
  · rw [hv₀.uid, hv₀.gid]
    exact hauthentic.peer
  · rw [if_neg (not_capabilities hforwards)]
    apply (recoverExpired_rested hE hagain.rested).bind
    intro _
    unfold admission
    rw [authenticate_eq hforwards]
    simp only [Proc.bind_assoc, Proc.pure_bind]
    apply currentState_meets
    apply Delivers.ensure_bind hagain.admits.1
    apply Delivers.ensure_bind hagain.admits.2
    apply hagain.repeats.bind
    intro flow
    rintro v (⟨rfl, hv⟩ | ⟨rfl, s₀, hv⟩)
    · exact ⟨rfl, hv⟩
    · rw [wp_bind]
      refine wp_mono (epilogue_works (C := fun _ _ => False) (K := fun _ => False) hE v hv) ?_
        (fun _ _ h => h) (fun _ h => h)
      intro _ v' hv'
      exact ⟨rfl, hv'⟩

/-! ## Requests that are refused the second time -/

/-- Whatever recovery makes of `s`, the operation is not acknowledged from there. -/
structure Refuses (E : Surroundings) (w : InfrastructureService) (now : ℕ) (request : Request)
    (s : State) : Prop where
  created : s.creationPending = false
  refuses : ∀ s₂, Recovers s s₂ → Rested (E.moment w.clock) now s₂ →
    Yields (Stands w false s₂) (dispatch E request now) fun _ _ => False

/-- The candidate of an owner outlives the recovery in front of a request that finds a record of
that owner: the forward record is an older one. -/
theorem Apart.older (hapart : Apart s) (hcandidate : s.candidateOf owner = some c)
    (hrec : Recovers s s₁) :
    ∃ f, s₁.forward = some f ∧ f.owner.fencingToken < owner.fencingToken := by
  obtain ⟨hc, howner⟩ := candidateOf_eq_some hcandidate
  obtain ⟨_, _, _, f, hf, htoken⟩ := hapart.candidate c hc
  obtain ⟨f₁, hf₁, hw⟩ := hrec.successor hf
  exact ⟨f₁, hf₁, by rw [hw.owner, ← howner]; exact htoken⟩

/-- Nothing is found of an owner whose token is above the one of the forward record. -/
theorem sameOwner_refused {β : Type} {P : InfrastructureService → Prop} {f : ForwardRecord}
    {g : ForwardRecord → Svc β} {Q : β → InfrastructureService → Prop}
    (hforward : s.forward = some f) (htoken : f.owner.fencingToken < owner.fencingToken) :
    Yields P (sameOwner s.forward owner >>= g) Q := by
  apply sameOwner_yields
  intro r hr howner
  rw [hforward, Option.some.injEq] at hr
  rw [hr, howner] at htoken
  exact absurd htoken (Nat.lt_irrefl _)

theorem forwardRevoke_spoils (hE : Steady E w.clock) (hapart : Apart s)
    (hcandidate : s.candidateOf owner = some c) (hrec : Recovers s s₁)
    (hrested : Rested (E.moment w.clock) now s₁) (hop : request.operation = .forwardRevoke owner) :
    Yields (Stands w false s₁) (dispatch E request now) fun flow v =>
      ∃ s', Acknowledges w s' flow v ∧ Refuses E w now request s' := by
  have hdispatch : dispatch E request now = forwardRevoke E request now owner := by
    unfold dispatch
    rw [hop]
  obtain ⟨f, hf, htoken⟩ := hapart.older hcandidate hrec
  rw [hdispatch]
  conv => arg 2; unfold forwardRevoke
  apply administrator_meets _ fun _ _ _ _ => trivial
  intro _
  apply currentState_meets
  rcases hrec.candidateOf owner with heq | hnone
  · rw [heq, hcandidate]
    have hc := (candidateOf_eq_some (heq.trans hcandidate)).1
    unfold revokeCandidate
    dsimp only
    rw [if_neg (hrested.waiting c hc).1]
    apply persist_meets hE
    apply Yields.pure
    intro v hv
    refine ⟨_, Or.inl ⟨rfl, hv⟩, hrested.created, ?_⟩
    -- the candidate is gone, and what is left belongs to an older owner
    intro s₂ hrec₂ _
    have hnone : s₂.candidate = none := by
      rcases hrec₂.candidate with h | h <;> exact h
    obtain ⟨f₂, hf₂, hw⟩ := hrec₂.successor (s := { s₁ with candidate := none }) hf
    rw [hdispatch]
    unfold forwardRevoke
    apply administrator_meets _ fun _ _ _ _ => trivial
    intro _
    apply currentState_meets
    rw [candidateOf_none hnone]
    exact sameOwner_refused hf₂ (hw.owner ▸ htoken)
  · rw [candidateOf_none hnone]
    exact sameOwner_refused hf htoken

/-- After the recovery under a new boot identifier the record is revoked. -/
theorem revoked_of_stale {s s₂ : State} {f : ForwardRecord} (hrec : Recovers s s₂)
    (hforward : s.forward = some f) (hstale : s.bootId ≠ m.bootId) (hrested : Rested m now s₂) :
    ∃ f₂, s₂.forward = some f₂ ∧ f₂.owner = f.owner ∧ f₂.phase = .revoked := by
  obtain ⟨f₂, hf₂, hw⟩ := hrec.successor hforward
  refine ⟨f₂, hf₂, hw.owner, ?_⟩
  by_contra hphase
  exact hstale (hrec.bootId ▸ (hrested.current f₂ hf₂ hphase).2)

theorem forwardPrepare_spoils (hE : Steady E w.clock) (hapart : Apart s)
    (hforward : s.forward = none) (hstale : s.bootId ≠ (E.moment w.clock).bootId)
    (hrec : Recovers s s₁) (hrested : Rested (E.moment w.clock) now s₁)
    (hop : request.operation = .forwardPrepare infraId infraGeneration owner declaration) :
    Yields (Stands w false s₁) (dispatch E request now) fun flow v =>
      ∃ s', Acknowledges w s' flow v ∧ Refuses E w now request s' := by
  have hdispatch : dispatch E request now
      = forwardPrepare E request now infraId infraGeneration owner declaration := by
    unfold dispatch
    rw [hop]
  have hnone : s₁.forward = none := by
    have hrel := hrec.forward
    rw [hforward] at hrel
    generalize s₁.forward = o at hrel
    cases hrel
    rfl
  have hcandidate : s₁.candidate = none := by
    by_contra hne
    obtain ⟨c, hc⟩ := Option.ne_none_iff_exists'.mp hne
    obtain ⟨_, _, _, f, hf, _⟩ := (hapart.recovers hrec).candidate c hc
    simp [hnone] at hf
  rw [hdispatch]
  conv => arg 2; unfold forwardPrepare
  apply administrator_meets _ fun _ _ _ _ => trivial
  intro _
  apply identity_meets hE _ fun _ _ _ => Or.inl trivial
  intro _ _ _ _
  apply Yields.ensure_bind
  intro _
  apply Yields.ensure_bind
  intro _
  apply currentState_meets
  rw [hcandidate, hnone]
  apply (Works.mapError _ (.read hE _ _)).meets
  intro sysctls
  refine (prepareFirst_yields hE).post ?_
  rintro _ v ⟨rfl, s₀, hv⟩
  refine ⟨_, Or.inr ⟨rfl, s₀, hv⟩, hrested.created, ?_⟩
  -- the prepared record is revoked before the second run, and its token does not advance
  intro s₂ hrec₂ hrested₂
  have hstale₁ : s₁.bootId ≠ (E.moment w.clock).bootId := hrec.bootId ▸ hstale
  obtain ⟨f₂, hf₂, howner, hphase⟩ := revoked_of_stale hrec₂ rfl hstale₁ hrested₂
  have hnone₂ : s₂.candidate = none := by
    rcases hrec₂.candidate with h | h
    · exact h.trans hcandidate
    · exact h
  rw [hdispatch]
  unfold forwardPrepare
  apply administrator_meets _ fun _ _ _ _ => trivial
  intro _
  apply identity_meets hE _ fun _ _ _ => Or.inl trivial
  intro _ _ _ _
  apply Yields.ensure_bind
  intro _
  apply Yields.ensure_bind
  intro _
  apply currentState_meets
  rw [hnone₂, hf₂]
  dsimp only
  rw [if_neg (by simp [hphase])]
  unfold admitReplacement
  simp only [Proc.bind_assoc]
  apply Yields.ensure_bind
  intro _
  apply Yields.ensure_bind
  intro hadvances
  refine absurd (Or.inr (Or.inr (Or.inr ⟨?_, ?_⟩))) hadvances
  · rw [howner]
    exact Nat.le_max_left _ _
  · simp [hphase]

theorem forwardCommit_spoils (hE : Steady E w.clock) (hapart : Apart s)
    (hcandidate : s.candidateOf owner = some c) (hstale : s.bootId ≠ (E.moment w.clock).bootId)
    (hrec : Recovers s s₁) (hrested : Rested (E.moment w.clock) now s₁)
    (hop : request.operation = .forwardCommit owner) :
    Yields (Stands w false s₁) (dispatch E request now) fun flow v =>
      ∃ s', Acknowledges w s' flow v ∧ Refuses E w now request s' := by
  have hdispatch : dispatch E request now = forwardCommit E request now owner false := by
    unfold dispatch
    rw [hop]
  obtain ⟨f, hf, htoken⟩ := hapart.older hcandidate hrec
  rw [hdispatch]
  conv => arg 2; unfold forwardCommit
  apply administrator_meets _ fun _ _ _ _ => trivial
  intro _
  apply Yields.ensure_bind
  intro _
  apply ownIdentity_meets hE _ fun _ _ _ => Or.inl trivial
  intro _ _
  apply currentState_meets
  apply Yields.ensure_bind
  intro _
  rcases hrec.candidateOf owner with heq | hnone
  · rw [heq, hcandidate]
    have howner := (candidateOf_eq_some hcandidate).2
    refine (commitCandidate_yields hE).post ?_
    rintro _ v ⟨rfl, hv⟩
    refine ⟨_, Or.inl ⟨rfl, hv⟩, hrested.created, ?_⟩
    -- the committed record is revoked before the second run
    intro s₂ hrec₂ hrested₂
    have hstale₁ : s₁.bootId ≠ (E.moment w.clock).bootId := hrec.bootId ▸ hstale
    obtain ⟨f₂, hf₂, howner₂, hphase⟩ := revoked_of_stale hrec₂ rfl hstale₁ hrested₂
    have hnone₂ : s₂.candidate = none := by
      rcases hrec₂.candidate with h | h <;> exact h
    rw [hdispatch]
    unfold forwardCommit
    apply administrator_meets _ fun _ _ _ _ => trivial
    intro _
    apply Yields.ensure_bind
    intro _
    apply ownIdentity_meets hE _ fun _ _ _ => Or.inl trivial
    intro _ _
    apply currentState_meets
    apply Yields.ensure_bind
    intro _
    rw [candidateOf_none hnone₂]
    dsimp only
    rw [sameOwner_eq hf₂ (howner₂.trans howner), Proc.pure_bind, if_neg (by simp [hphase])]
    apply Yields.ensure_bind
    intro hprepared
    simp [hphase] at hprepared
  · rw [candidateOf_none hnone]
    exact sameOwner_refused hf htoken

theorem dispatch_spoils (hE : Steady E w.clock) (hapart : Apart s) (hrec : Recovers s s₁)
    (hrested : Rested (E.moment w.clock) now s₁)
    (hnot : ¬ Repeatable (E.moment w.clock) s request.operation) :
    Yields (Stands w false s₁) (dispatch E request now) fun flow v =>
      ∃ s', Acknowledges w s' flow v ∧ Refuses E w now request s' := by
  cases hoperation : request.operation with
  | forwardRevoke owner =>
    rw [hoperation] at hnot
    obtain ⟨c, hc⟩ := Option.ne_none_iff_exists'.mp hnot
    exact forwardRevoke_spoils hE hapart hc hrec hrested hoperation
  | forwardPrepare infraId infraGeneration owner declaration =>
    rw [hoperation] at hnot
    obtain ⟨hforward, hstale⟩ := Classical.not_imp.mp hnot
    exact forwardPrepare_spoils hE hapart hforward hstale hrec hrested hoperation
  | forwardCommit owner =>
    rw [hoperation] at hnot
    obtain ⟨hcandidate, hstale⟩ := Classical.not_imp.mp hnot
    obtain ⟨c, hc⟩ := Option.ne_none_iff_exists'.mp hcandidate
    exact forwardCommit_spoils hE hapart hc hstale hrec hrested hoperation
  | _ =>
    rw [hoperation] at hnot
    exact absurd trivial hnot

theorem completed_of_created (h : s.creationPending = false) : s.completed m = s := by
  rw [State.completed, h]
  rfl

/-! ## Acknowledged twice -/

/-- An acknowledged forwarding request is acknowledged again, at the same time and on the same
host, and changes nothing then. -/
def AcknowledgedAgain (E : Surroundings) (request : Request) (peer : PeerCredentials) (now : ℕ)
    (w' : InfrastructureService) : Prop :=
  ∃ descriptor w'', process E request peer now w' = (.ok (.ack, descriptor), w'')
    ∧ w''.state = w'.state

/-- It is exactly when the operation can be carried out twice. -/
theorem acknowledged_again_iff (E : Surroundings) (w w' : InfrastructureService)
    (request : Request) (peer : PeerCredentials) (now : ℕ) (descriptor : Bool)
    (hreach : Reachable E (fun _ _ _ => True) w) (hsteady : Steady E w.clock)
    (hforwards : request.operation.forwards = true)
    (hfirst : process E request peer now w = (.ok (.ack, descriptor), w')) :
    AcknowledgedAgain E request peer now w'
      ↔ Repeatable (E.moment w.clock) (w.state.completed (E.moment w.clock)) request.operation := by
  have hapart : Apart w.state := (holds_apart hreach).state
  have hapart₀ := hapart.completed (E.moment w.clock)
  constructor
  · rintro ⟨descriptor', w'', hsecond, -⟩
    by_contra hnot
    obtain ⟨_, _, s', hv, hrefuses⟩ := (process_yields hsteady hapart hforwards
      fun s₁ hrec hrested _ => dispatch_spoils hsteady hapart₀ hrec hrested hnot).of_eq
        (Stands.refl w) hfirst
    -- the state after the first run is reachable, so the second run is of the same kind
    have hreach' : Reachable E (fun _ _ _ => True) w' := by
      obtain ⟨uid, gid, hrun⟩ := hreach
      have hexec : exec E (.process request peer now) w
          = (.ok (some (.ack, descriptor)), w') := bind_of_ok hfirst
      have hattempt : attempt (exec E (.process request peer now)) w
          = (.ok (.ok (some (.ack, descriptor))), w') := by
        unfold attempt
        rw [hexec]
      exact ⟨uid, gid, hrun.tail ⟨_, .returned hattempt, trivial⟩⟩
    have hapart' : Apart s' := hv.state ▸ (holds_apart hreach').state
    obtain ⟨_, _, _, _, hfalse⟩ := (process_yields (P := fun _ => False) hsteady hapart' hforwards
      fun s₂ hrec hrested _ => by
        rw [completed_of_created hrefuses.created] at hrec
        exact (hrefuses.refuses s₂ hrec hrested).post fun _ _ h => h.elim).of_eq hv hsecond
    exact hfalse
  · intro hrepeatable
    obtain ⟨hauthentic, _, s', hv, hagain⟩ := (process_yields hsteady hapart hforwards
      fun s₁ hrec hrested hadmits => dispatch_repeats hsteady (hapart₀.recovers hrec) hrested hadmits
        hforwards (hrec.repeatable hrepeatable)).of_eq (Stands.refl w) hfirst
    obtain ⟨reply, w'', hsecond, hreply, hstands⟩ :=
      (process_again hsteady hforwards hauthentic hagain).eq hv
    rw [hreply] at hsecond
    exact ⟨false, w'', hsecond, hstands.state.trans hv.state.symm⟩

end Requests

namespace Sample

def asked (operation : Operation) : Request :=
  { requestId := 1, callerInstanceId := ident 9, callerPid := 5, operation }

/-- The first owner forwards, and a second one is prepared. -/
def succeeded : InfrastructureService :=
  (opening ++ [ask (.forwardPrepare (ident 1) 1 (owner 2) (declaration 2))]).foldl
    (stepOnce surroundings) (.fresh 0 0)

/-- The second owner is revoked again. -/
def withdrawn : InfrastructureService :=
  (process surroundings (asked (.forwardRevoke (owner 2))) peer 1 succeeded).2

theorem reachable_succeeded : Reachable surroundings (fun _ _ _ => True) succeeded :=
  ⟨0, 0, steps_along _ (fun _ _ => true) (fun _ => trivial) (by decide)⟩

/-- The device is there after the first few calls, and nothing changes from then on. -/
theorem steady_surroundings {n : ℕ} (hn : 5 ≤ n) : Steady surroundings n := by
  have hmoment : ∀ m, 5 ≤ m → surroundings.moment m = moment := by
    intro m hm
    show (if m < 5 then bare else moment) = moment
    rw [if_neg (by omega)]
  constructor
  · rw [hmoment _ hn]
    rfl
  · intro m hm
    rw [hmoment _ hn, hmoment _ (by omega)]

theorem steady_succeeded : Steady surroundings succeeded.clock :=
  steady_surroundings (by decide)

end Sample

open NetdV2.Sample in
/-- A candidate is prepared, and the reply is lost. -/
theorem acknowledged_again_prepared :
    (process surroundings
        (asked (.forwardPrepare (ident 1) 1 (owner 2) (declaration 2))) peer 1 succeeded).1
        = .ok (.ack, false)
      ∧ AcknowledgedAgain surroundings
        (asked (.forwardPrepare (ident 1) 1 (owner 2) (declaration 2))) peer 1
        (process surroundings
          (asked (.forwardPrepare (ident 1) 1 (owner 2) (declaration 2))) peer 1 succeeded).2 := by
  have hfirst : (process surroundings
      (asked (.forwardPrepare (ident 1) 1 (owner 2) (declaration 2))) peer 1 succeeded).1
      = .ok (.ack, false) := by decide
  refine ⟨hfirst, (acknowledged_again_iff surroundings succeeded _ _ peer 1 false reachable_succeeded
    steady_succeeded rfl (Prod.ext hfirst rfl)).mpr ?_⟩
  intro hnone
  exact absurd hnone (by decide)

open NetdV2.Sample in
/-- A candidate is revoked and the reply is lost: the second revocation is refused. -/
theorem not_acknowledged_again_revoked :
    ¬ ∀ (E : Surroundings) (w w' : InfrastructureService) (request : Request)
        (peer : PeerCredentials) (now : ℕ) (descriptor : Bool),
      Reachable E (fun _ _ _ => True) w → Steady E w.clock →
      request.operation.forwards = true →
      process E request peer now w = (.ok (.ack, descriptor), w') →
      AcknowledgedAgain E request peer now w' := by
  intro h
  have hanswer : (process surroundings (asked (.forwardRevoke (owner 2))) peer 1 succeeded).1
      = .ok (.ack, false) := by decide
  have hfirst : process surroundings (asked (.forwardRevoke (owner 2))) peer 1 succeeded
      = (.ok (.ack, false), withdrawn) := Prod.ext hanswer rfl
  obtain ⟨descriptor, w'', hsecond, -⟩ := h surroundings succeeded withdrawn
    (asked (.forwardRevoke (owner 2))) peer 1 false reachable_succeeded steady_succeeded rfl hfirst
  have hrefused : (process surroundings (asked (.forwardRevoke (owner 2))) peer 1 withdrawn).1
      = .err (.rejected "stale_forward_owner"
        "request does not match committed generation, epoch, fence and deadlines") := by
    decide
  rw [hsecond] at hrefused
  exact absurd hrefused (by simp)

end CandyRuntime.NetdV2
