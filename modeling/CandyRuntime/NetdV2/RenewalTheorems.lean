import CandyRuntime.NetdV2.RetryTheorems

/-!
# The owner of the forward record under renewals

Nothing in front of an operation changes whose the forward record is, or is refused for its owner
(`recoverExpired_steers`). So a renewal that is carried out makes its owner the recorded one, a
renewal that is not leaves the recorded one, and a request for the recorded owner itself is never
refused as stale.
-/

namespace CandyRuntime.NetdV2

open Lib Lib.Proc NetdProto NetdV1

variable {s : State} {w : InfrastructureService} {c : Prop}

/-! ## Programs that leave the owner alone -/

/-- The refusal of `same_owner`. -/
def staleOwner : InfrastructureError :=
  .rejected "stale_forward_owner"
    "request does not match committed generation, epoch, fence and deadlines"

/-- The forward record is the owner's, and no candidate has its token. -/
structure Owned (o : ForwardOwner) (administrator : Option InstanceId) (s : State) : Prop where
  forward : s.forward.map (·.owner) = some o
  candidate : ∀ c, s.candidate = some c → c.owner.fencingToken ≠ o.fencingToken
  administrator : s.administrator = administrator

/-- The program keeps the owner, however it ends, and does not refuse it as stale. -/
def Steers (o : ForwardOwner) (a : Option InstanceId) {α : Type} (m : Svc α) : Prop :=
  Triple (fun v => Owned o a v.state) m (fun _ v => Owned o a v.state)
    (fun e v => e ≠ staleOwner ∧ Owned o a v.state) (fun _ => True)

variable {e : InfrastructureError} {owner : ForwardOwner}
variable {E : Surroundings} {α β : Type} {o : ForwardOwner} {a : Option InstanceId}

theorem Owned.record (h : Owned o a s) : ∃ f, s.forward = some f ∧ f.owner = o := by
  simpa using h.forward

/-- A change of the forward record that leaves its owner. -/
theorem Owned.exchange {s s' : State} {f : ForwardRecord} (h : Owned o a s)
    (hforward : s'.forward = some f) (howner : f.owner = o)
    (hcandidate : s'.candidate = s.candidate ∨ s'.candidate = none)
    (hadministrator : s'.administrator = s.administrator) : Owned o a s' where
  forward := by rw [hforward, Option.map_some, howner]
  candidate := by
    intro c hc
    cases hcandidate with
    | inl hsame => exact h.candidate c (hsame ▸ hc)
    | inr hnone => exact absurd (hnone.symm.trans hc) (by simp)
  administrator := hadministrator.trans h.administrator

theorem Owned.mapForward (h : Owned o a s) {g : ForwardRecord → ForwardRecord}
    (hg : ∀ f, (g f).owner = f.owner) : Owned o a (s.mapForward g) := by
  obtain ⟨f, hforward, howner⟩ := h.record
  refine h.exchange (f := g f) ?_ ((hg f).trans howner) (Or.inl rfl) rfl
  rw [State.mapForward, hforward, Option.map_some]

namespace Steers

variable {m : Svc α}

protected theorem pure (x : α) : Steers o a (Pure.pure x : Svc α) := fun _ h => h

protected theorem fail (he : e ≠ staleOwner) :
    Steers o a (fail e : Svc α) := fun _ h => ⟨he, h⟩

protected theorem bind {f : α → Svc β} (hm : Steers o a m) (hf : ∀ x, Steers o a (f x)) :
    Steers o a (m >>= f) := Triple.bind hm hf

protected theorem ite [Decidable c] {n : Svc α} (hm : Steers o a m) (hn : Steers o a n) :
    Steers o a (if c then m else n) :=
  Triple.ite (fun _ => hm) fun _ => hn

protected theorem when [Decidable c] {m : Svc Unit} (hm : Steers o a m) :
    Steers o a (when c m) := Triple.when (fun _ => hm) fun _ _ h => h

protected theorem ensure [Decidable c] (he : e ≠ staleOwner) :
    Steers o a (ensure c e) := .ite (.pure ()) (.fail he)

protected theorem okOr {r : Option α} (he : e ≠ staleOwner) :
    Steers o a (okOr r e) := by
  cases r with
  | none => exact .fail he
  | some x => exact .pure x

/-- What is found may be used. -/
theorem okOr_bind {r : Option α} {f : α → Svc β} (he : e ≠ staleOwner)
    (hf : ∀ x, r = some x → Steers o a (f x)) : Steers o a (okOr r e >>= f) :=
  Triple.okOr_bind hf fun _ h => ⟨he, h⟩

protected theorem attempt (hm : Steers o a m) : Steers o a (attempt m) := by
  intro v hv
  rw [wp_attempt]
  exact wp_mono (hm v hv) (fun _ _ h => h) (fun _ _ h => h.2) (fun _ h => h)

protected theorem handle {h : InfrastructureError → Svc α} (hm : Steers o a m)
    (hh : ∀ e, e ≠ staleOwner → Steers o a (h e)) : Steers o a (handle m h) :=
  Triple.handle hm fun e v hv => hh e hv.1 v hv.2

protected theorem ignore (hm : Steers o a m) : Steers o a (ignore m) := by
  intro v hv
  rw [wp_ignore]
  exact wp_mono (hm v hv) (fun _ _ h => h) (fun _ _ h => h.2) (fun _ h => h)

/-- A failed transition names its stage. -/
protected theorem inStage {stage : String} {m : Svc Unit} (hm : Steers o a m) :
    Steers o a (inStage stage m) := by
  refine Triple.mapError hm fun e v h => ⟨?_, h.2⟩
  cases e with
  | backend cause => exact nofun
  | _ => exact h.1

protected theorem read {f : Moment → α} (he : e ≠ staleOwner) :
    Steers o a (read E f e) := by
  intro v hv
  unfold wp read
  cases (E.moment v.clock).fate with
  | ok => exact hv
  | fail done repaired => exact ⟨he, hv⟩
  | crash done repaired => trivial

protected theorem call (c : BackendCall) : Steers o a (call E c) := by
  intro v hv
  unfold wp call
  cases (E.moment v.clock).fate with
  | ok => exact hv
  | fail done repaired => exact ⟨nofun, hv⟩
  | crash done repaired => trivial

/-- Memory follows the journal only when the write succeeds, also to another owner. -/
theorem persist_owned {o' : ForwardOwner} (hs : Owned o' a s) :
    Triple (fun v => Owned o a v.state) (persist E s) (fun _ v => Owned o' a v.state)
      (fun e v => e ≠ staleOwner ∧ Owned o a v.state) (fun _ => True) := by
  intro v hv
  rw [persist, wp_bind]
  unfold wp store
  cases (E.moment v.clock).fate with
  | ok => exact hs
  | fail done repaired =>
    refine ⟨(fun h => by cases h), ?_⟩
    by_cases hdone : done = 0
    · simpa only [hdone, if_true] using hv
    · simpa only [hdone, if_false] using hv
  | crash done repaired => trivial

protected theorem persist (hs : Owned o a s) : Steers o a (persist E s) :=
  persist_owned hs

theorem currentState_bind {f : State → Svc α} (hf : ∀ s, Owned o a s → Steers o a (f s)) :
    Steers o a (currentState >>= f) := fun v hv => hf v.state hv v hv

theorem get_bind {f : InfrastructureService → Svc α}
    (hf : ∀ w, Owned o a w.state → Steers o a (f w)) : Steers o a (get >>= f) :=
  fun v hv => hf v hv v hv

protected theorem unwrap (r : Option α) : Steers o a (unwrap r) := by
  cases r with
  | none => exact fun _ _ => trivial
  | some x => exact .pure x

protected theorem setLifecycleFd (held : Bool) : Steers o a (setLifecycleFd held) := fun _ h => h

protected theorem setRestartRecoveryPending (pending : Bool) :
    Steers o a (setRestartRecoveryPending pending) := fun _ h => h

end Steers

/-! ## The recovery in front of a request -/

theorem verifyDeviceOwnership_steers : Steers o a (verifyDeviceOwnership E) :=
  Steers.currentState_bind fun _ _ => .bind (.ensure (by decide)) fun _ =>
    .bind (.read nofun) fun _ => .ensure (by decide)

theorem identity_steers (infraId : InstanceId) (generation : ℕ) :
    Steers o a (identity E infraId generation) :=
  Steers.currentState_bind fun _ _ => .bind (.okOr (by decide)) fun _ =>
    .bind (.ensure (by decide)) fun _ => .bind (.read nofun) fun _ =>
      .bind (.ensure (by decide)) fun _ => .bind verifyDeviceOwnership_steers fun _ => .pure _

theorem ownIdentity_steers : Steers o a (ownIdentity E) :=
  Steers.currentState_bind fun _ _ => .bind (.okOr (by decide)) fun _ =>
    .bind (identity_steers _ _) fun _ => .pure _

theorem openDevice_steers (marker : String) : Steers o a (openDevice E marker) := by
  refine .bind (.read nofun) fun _ => .ite ?_ ?_
  · exact .bind (.read nofun) fun _ => .bind (.setLifecycleFd _) fun _ =>
      .handle (.call _) fun _ he => .bind (.setLifecycleFd _) fun _ => .fail he
  · exact .bind verifyDeviceOwnership_steers fun _ => Steers.get_bind fun _ _ =>
      .when (.bind (.read nofun) fun _ => .setLifecycleFd _)

theorem completeCreation_steers : Steers o a (completeCreation E) := by
  unfold completeCreation
  apply Steers.currentState_bind
  intro s hs
  apply Steers.when
  refine .bind (.okOr (by decide)) fun _ => .bind (.okOr (by decide)) fun _ => ?_
  refine .bind (.bind (.read nofun) fun _ => .ensure (by simp [staleOwner])) fun _ => ?_
  refine .bind (openDevice_steers _) fun _ => .bind verifyDeviceOwnership_steers fun _ => ?_
  refine .bind (.read nofun) fun _ => .bind (.read nofun) fun _ => .bind (.read nofun) fun _ => ?_
  exact .persist ⟨hs.forward, hs.candidate, hs.administrator⟩

theorem retains_steers (phases : List Phase) (previous : ForwardRecord) (now : ℕ) :
    Steers o a (retains E phases previous now) :=
  .ite (.ite (Steers.currentState_bind fun _ _ => .bind (.read nofun) fun _ => .pure _) (.pure _))
    (.pure _)

theorem rollbackReplacement_steers {previous candidate : ForwardRecord} {now : ℕ}
    (hprevious : previous.owner = o) :
    Steers o a (rollbackReplacement E previous candidate now) := by
  refine .bind (retains_steers _ _ _) fun _ => .bind ?_ fun _ => .bind (.call _) fun _ => ?_
  · exact .ite (.call _) (.bind (.call _) fun _ => .call _)
  refine .bind (retains_steers _ _ _) fun _ => .bind (.when (.call _)) fun _ => ?_
  refine .bind (.call _) fun _ => .bind (.when (.call _)) fun _ => ?_
  refine Steers.currentState_bind fun s hs => .persist (hs.exchange rfl ?_ (Or.inr rfl) rfl)
  split <;> exact hprevious

theorem recoverCandidate_steers {now : ℕ} : Steers o a (recoverCandidate E now) := by
  refine Steers.currentState_bind fun s hs => ?_
  cases s.candidate with
  | none => exact .pure _
  | some candidate =>
    refine .ite ?_ (Steers.get_bind fun _ _ => .ite ?_ (.pure _))
    · refine Steers.okOr_bind (by decide) fun previous hprevious => ?_
      have howner : previous.owner = o := by
        simpa [hprevious] using hs.forward
      exact .bind (rollbackReplacement_steers howner) fun _ => .pure _
    · refine .bind (.persist ⟨hs.forward, ?_, hs.administrator⟩) fun _ => .pure _
      simp

theorem fencePolicyIntent_steers (forward : ForwardRecord) :
    Steers o a (fencePolicyIntent E forward) := by
  refine .bind (.call _) fun _ => ?_
  cases forward.pendingPolicy with
  | none => exact .call _
  | some pending => exact .bind (.when (.call _)) fun _ => .bind (.call _) fun _ => .call _

theorem recoverCancelledPolicy_steers : Steers o a (recoverCancelledPolicy E) := by
  refine Steers.currentState_bind fun s hs => ?_
  cases s.forward with
  | none => exact .pure _
  | some forward =>
    refine .ite ?_ (.pure _)
    exact .bind (fencePolicyIntent_steers _) fun _ =>
      .bind (.persist (hs.mapForward fun _ => rfl)) fun _ => .pure _

theorem reconcileLivePolicy_steers {now : ℕ} : Steers o a (reconcileLivePolicy E now) := by
  refine Steers.currentState_bind fun s hs => .bind (.okOr (by decide)) fun _ => ?_
  refine .bind (.ensure (by decide)) fun _ => .bind (.ensure (by decide)) fun _ => ?_
  refine .bind (.okOr (by decide)) fun pending => .bind (.ensure (by decide)) fun _ => ?_
  refine .bind ownIdentity_steers fun _ => .bind (.inStage (.call _)) fun _ => ?_
  exact .persist (hs.mapForward fun _ => rfl)

theorem recoverPendingPolicy_steers {now : ℕ} : Steers o a (recoverPendingPolicy E now) := by
  refine Steers.currentState_bind fun s hs => ?_
  cases s.forward with
  | none => exact .pure _
  | some forward =>
    refine .ite (.bind (.read nofun) fun _ => .ite ?_ (.pure _)) (.pure _)
    refine .bind (.attempt reconcileLivePolicy_steers) fun result => ?_
    cases result with
    | ok _ => exact .pure _
    | error _ => exact .pure _

theorem recoverPendingFailures_steers {now : ℕ} : Steers o a (recoverPendingFailures E now) := by
  refine Steers.currentState_bind fun s hs => ?_
  cases s.forward with
  | none => exact .pure _
  | some forward =>
    refine .ite (.bind (.read nofun) fun _ => .ite ?_ (.pure _)) (.pure _)
    cases forward.pendingFailedPrefixes with
    | none => exact .pure _
    | some target =>
      refine .bind (.unwrap _) fun _ => .bind (identity_steers _ _) fun _ => ?_
      refine .bind (.attempt (.call _)) fun result => ?_
      cases result with
      | error _ => exact .pure _
      | ok _ =>
        exact .bind (.unwrap _) fun _ => .bind (.persist (hs.mapForward fun _ => rfl)) fun _ =>
          .pure _

theorem expire_steers {forward : ForwardRecord} (howner : forward.owner = o) :
    Steers o a (expire E forward) := by
  refine Steers.currentState_bind fun s hs => .bind (.when (.persist ?_)) fun _ => ?_
  · exact hs.exchange rfl howner (Or.inl rfl) rfl
  · exact .bind (fencePolicyIntent_steers _) fun _ => Steers.currentState_bind fun s' hs' =>
      .persist (hs'.mapForward fun _ => rfl)

theorem recoverOwner_steers {now : ℕ} {recovered : Bool} :
    Steers o a (recoverOwner E now recovered) := by
  refine Steers.get_bind fun w hw => ?_
  obtain ⟨forward, hforward, howner⟩ := hw.record
  rw [hforward]
  refine .ite (.bind (.setRestartRecoveryPending _) fun _ => .pure _) ?_
  refine .bind (.read nofun) fun _ => .ite ?_ (.ite ?_ ?_)
  · exact .bind (.call _) fun _ => .bind (.setRestartRecoveryPending _) fun _ => .pure _
  · exact .bind (.setRestartRecoveryPending _) fun _ => .pure _
  · exact .bind (expire_steers howner) fun _ => .bind (.setRestartRecoveryPending _) fun _ => .pure _

/-- The recovery keeps the owner of the forward record, whatever becomes of the record. -/
theorem recoverExpired_steers {now : ℕ} : Steers o a (recoverExpired E now) :=
  .bind completeCreation_steers fun _ => .bind recoverCandidate_steers fun _ =>
    .bind recoverCancelledPolicy_steers fun _ => .bind recoverPendingPolicy_steers fun _ =>
      .bind recoverPendingFailures_steers fun _ => recoverOwner_steers

/-! ## Requests -/

variable {request : Request} {now : ℕ} {peer : PeerCredentials}

theorem administrator_steers : Steers o a (administrator request) :=
  Steers.currentState_bind fun _ _ => .ensure (by simp [staleOwner])

theorem admission_steers (hforwards : request.operation.forwards = true) :
    Steers o a (admission E request now) := by
  unfold admission
  rw [authenticate_eq hforwards]
  exact .bind (.pure _) fun _ => Steers.currentState_bind fun _ _ =>
    .bind (.ensure (by decide)) fun _ => .ensure (by decide)

theorem epilogue_owned {o' : ForwardOwner} {next : State} (hnext : Owned o' a next) :
    Triple (fun v => Owned o a v.state) (epilogue E next) (fun _ v => Owned o' a v.state)
      (fun e v => e ≠ staleOwner ∧ Owned o a v.state) (fun _ => True) := by
  refine Triple.handle (Steers.persist_owned hnext) fun e v hv => ?_
  -- The forwarding is fenced, and the error of the write is returned.
  have hfence : Steers o a (currentState >>= fun s => fenceUnstored E s.forward) := by
    refine Steers.currentState_bind fun s _ => ?_
    cases s.forward with
    | none => exact .pure _
    | some forward => exact .ite (.ignore (.call _)) (.ignore (.call _))
  have hfail : Triple (fun v => Owned o a v.state) (fail e : Svc Unit)
      (fun _ v => Owned o' a v.state) (fun e v => e ≠ staleOwner ∧ Owned o a v.state)
      (fun _ => True) := fun _ h => ⟨hv.1, h⟩
  exact Triple.bind (f := fun _ => fail e) hfence (fun _ => hfail) v hv.2

/-- What `process` does with the outcome of the operation. -/
def conclude (E : Surroundings) : Flow → Svc (Body × Bool)
  | .reply body descriptor => return (body, descriptor)
  | .store next => do
    epilogue E next
    return (.ack, false)

/-- A forwarding request is refused at the door, or comes to its operation. -/
theorem process_triple {Q : Body × Bool → InfrastructureService → Prop}
    {C : InfrastructureError → InfrastructureService → Prop}
    (hforwards : request.operation.forwards = true)
    (hrefused : ∀ e v, e ≠ staleOwner ∧ Owned o a v.state → C e v)
    (hdispatch : Triple (fun v => Owned o a v.state) (dispatch E request now >>= conclude E) Q C
      (fun _ => True)) :
    Triple (fun v => Owned o a v.state) (process E request peer now) Q C (fun _ => True) := by
  have hdoor {α : Type} {m : Svc α} (hm : Steers o a m) :
      Triple (fun v => Owned o a v.state) m (fun _ v => Owned o a v.state) C (fun _ => True) :=
    hm.conseq (fun _ h => h) (fun _ _ h => h) hrefused (fun _ h => h)
  unfold process
  refine (hdoor (.ensure (by decide))).bind fun _ => ?_
  refine (hdoor (show Steers o a get from fun _ h => h)).bind fun w => ?_
  refine (hdoor (.ensure (by decide))).bind fun _ => ?_
  rw [if_neg (not_capabilities hforwards)]
  refine (hdoor recoverExpired_steers).bind fun _ => ?_
  refine (hdoor (admission_steers hforwards)).bind fun _ => ?_
  exact hdispatch

/-- A renewal that is carried out gives the record to its owner, which has the same token; one
that is refused leaves the record with its owner. -/
theorem process_renews (hop : request.operation = .forwardLeaseRenew owner) :
    Triple (fun v => Owned o a v.state) (process E request peer now)
      (fun _ v => Owned owner a v.state ∧ owner.fencingToken = o.fencingToken)
      (fun _ v => Owned o a v.state) (fun _ => True) := by
  refine process_triple (by rw [hop]; rfl) (fun _ _ h => h.2) ?_
  have hdispatch : dispatch E request now = forwardLeaseRenew request now owner := by
    unfold dispatch
    rw [hop]
  rw [hdispatch]
  have hquiet {α : Type} {m : Svc α} (hm : Steers o a m) :
      Triple (fun v => Owned o a v.state) m (fun _ v => Owned o a v.state)
        (fun _ v => Owned o a v.state) (fun _ => True) :=
    hm.conseq (fun _ h => h) (fun _ _ h => h) (fun _ _ h => h.2) (fun _ h => h)
  -- The operation hands the epilogue a state in which only the owner is another.
  have hrenew : Triple (fun v => Owned o a v.state) (forwardLeaseRenew request now owner)
      (fun flow v => Owned o a v.state ∧ ∃ next, flow = .store next ∧ Owned owner a next
        ∧ owner.fencingToken = o.fencingToken)
      (fun _ v => Owned o a v.state) (fun _ => True) := by
    unfold forwardLeaseRenew
    refine (hquiet administrator_steers).bind fun _ => ?_
    refine (hquiet (Steers.ensure (by decide))).bind fun _ => ?_
    intro v hv
    obtain ⟨f, hforward, howner⟩ := hv.record
    rw [wp_bind]
    change wp (okOr v.state.forward _ >>= _) _ _ _ v
    rw [hforward]
    refine Triple.ensure_bind (P := fun v' => v' = v) ?_ ?_ v rfl
    · intro hrenews v' hv'
      subst hv'
      have htoken : owner.fencingToken = o.fencingToken := by
        rw [← hrenews.2.2.2.1, howner]
      refine ⟨hv, _, rfl, ⟨?_, ?_, hv.administrator⟩, htoken⟩
      · simp [State.mapForward, hforward]
      · rw [htoken]
        exact hv.candidate
    · intro v' hv'
      rwa [hv']
  refine hrenew.bind fun flow => ?_
  intro v hv
  obtain ⟨hv, next, rfl, hnext, htoken⟩ := hv
  have hstore : Triple (fun v => Owned o a v.state) (epilogue E next)
      (fun _ v => Owned owner a v.state ∧ owner.fencingToken = o.fencingToken)
      (fun _ v => Owned o a v.state) (fun _ => True) :=
    (epilogue_owned hnext).conseq (fun _ h => h) (fun _ _ h => ⟨h, htoken⟩) (fun _ _ h => h.2)
      (fun _ h => h)
  exact (hstore.bind fun _ => Triple.pure fun _ h => h) v hv

/-- The operations with which an agent takes forwarding back from an owner. -/
def Operation.TakesBack (owner : ForwardOwner) : Operation → Prop
  | .forwardRevoke o => o = owner
  | .forwardFailedPrefixes o _ _ => o = owner
  | _ => False

theorem Operation.TakesBack.forwards {operation : Operation} (h : operation.TakesBack owner) :
    operation.forwards = true := by
  cases operation with
  | forwardRevoke o => rfl
  | forwardFailedPrefixes o revision failed => rfl
  | _ => exact h.elim

theorem Owned.candidateOf (h : Owned o a s) (htoken : owner.fencingToken = o.fencingToken) :
    s.candidateOf owner = none := by
  unfold State.candidateOf
  cases hcandidate : s.candidate with
  | none => rfl
  | some c =>
    have hne : c.owner ≠ owner := fun heq => h.candidate c hcandidate (heq ▸ htoken)
    simp [Option.filter, hne]

/-- What an operation leaves to the epilogue is the owner's too. -/
def Leads (o : ForwardOwner) (a : Option InstanceId) (m : Svc Flow) : Prop :=
  Triple (fun v => Owned o a v.state) m
    (fun flow v => Owned o a v.state ∧ ∀ next, flow = .store next → Owned o a next)
    (fun e v => e ≠ staleOwner ∧ Owned o a v.state) (fun _ => True)

namespace Leads

theorem bind {m : Svc α} {f : α → Svc Flow} (hm : Steers o a m) (hf : ∀ x, Leads o a (f x)) :
    Leads o a (m >>= f) := Triple.bind hm hf

protected theorem ite [Decidable c] {m n : Svc Flow} (hm : Leads o a m) (hn : Leads o a n) :
    Leads o a (if c then m else n) :=
  Triple.ite (fun _ => hm) fun _ => hn

protected theorem reply (body : Body) : Leads o a (return .reply body false) :=
  Triple.pure fun _ h => ⟨h, fun _ hnext => absurd hnext (by simp)⟩

protected theorem store (hs : Owned o a s) : Leads o a (return .store s) := by
  refine Triple.pure fun _ h => ⟨h, fun next hnext => ?_⟩
  rw [Flow.store.injEq] at hnext
  exact hnext ▸ hs

theorem currentState_bind {f : State → Svc Flow} (hf : ∀ s, Owned o a s → Leads o a (f s)) :
    Leads o a (currentState >>= f) := fun v hv => hf v.state hv v hv

end Leads

theorem forwardRevoke_leads : Leads o a (forwardRevoke E request now o) := by
  unfold forwardRevoke
  refine .bind administrator_steers fun _ => Leads.currentState_bind fun s hs => ?_
  obtain ⟨f, hforward, howner⟩ := hs.record
  rw [hs.candidateOf rfl]
  dsimp only
  rw [sameOwner_eq hforward howner, Proc.pure_bind]
  refine .bind (.when (.persist ?_)) fun _ => .bind (fencePolicyIntent_steers _) fun _ => .store ?_
  · exact hs.exchange rfl howner (Or.inl rfl) rfl
  · exact hs.exchange rfl howner (Or.inr rfl) rfl

theorem forwardFailedPrefixes_leads {revision : ℕ} {failed : List Ipv4Prefix} :
    Leads o a (forwardFailedPrefixes E request now o revision failed) := by
  unfold forwardFailedPrefixes
  refine .bind administrator_steers fun _ => .bind (Steers.ensure (by decide)) fun _ => ?_
  refine .bind ownIdentity_steers fun _ => Leads.currentState_bind fun s hs => ?_
  obtain ⟨f, hforward, howner⟩ := hs.record
  rw [hs.candidateOf rfl]
  simp only [Option.isSome_none, Bool.false_eq_true, if_false]
  rw [sameOwner_eq hforward howner, Proc.pure_bind]
  refine .bind ?_ fun _ => .bind (Steers.ensure (by decide)) fun _ => ?_
  · unfold validateFailedPrefixes
    split
    · exact .pure ()
    · exact .fail (by decide)
  refine .bind (Steers.ensure (by decide)) fun _ => .ite (.reply _) ?_
  refine .ite (.bind (.persist (hs.mapForward fun _ => rfl)) fun _ => .reply _) ?_
  refine .bind (Steers.ensure (by decide)) fun _ => .ite ?_ ?_
  · exact .bind (.persist (hs.mapForward fun _ => rfl)) fun _ => .reply _
  refine .bind (.persist (hs.mapForward fun _ => rfl)) fun _ => ?_
  refine .bind (.inStage (.call _)) fun _ => .bind (.unwrap _) fun _ => ?_
  refine .bind (.persist (Owned.mapForward ?_ fun _ => rfl)) fun _ => .reply _
  exact Owned.mapForward hs fun _ => rfl

theorem dispatch_leads (hop : request.operation.TakesBack o) :
    Leads o a (dispatch E request now) := by
  unfold dispatch
  cases hoperation : request.operation with
  | forwardRevoke owner =>
    rw [hoperation] at hop
    obtain rfl := hop
    exact forwardRevoke_leads
  | forwardFailedPrefixes owner revision failed =>
    rw [hoperation] at hop
    obtain rfl := hop
    exact forwardFailedPrefixes_leads
  | _ =>
    rw [hoperation] at hop
    exact hop.elim

/-- A request for the recorded owner itself is not refused as stale. -/
theorem process_takesBack (hop : request.operation.TakesBack o) :
    Triple (fun v => Owned o a v.state) (process E request peer now) (fun _ _ => True)
      (fun e _ => e ≠ staleOwner) (fun _ => True) := by
  refine process_triple hop.forwards (fun _ _ h => h.1) ?_
  have hleads : Leads o a (dispatch E request now) := dispatch_leads hop
  have hdispatch := hleads.conseq (fun _ h => h) (fun _ _ h => h) (fun _ _ h => h.1) (fun _ h => h)
  refine Triple.bind hdispatch fun flow v hv => ?_
  cases flow with
  | reply body descriptor => trivial
  | store next =>
    have hstore := (epilogue_owned (E := E) (o := o) (hv.2 next rfl)).conseq (fun _ h => h)
      (fun _ _ h => h) (fun _ _ h => h.1) (fun _ h => h)
    exact (hstore.bind fun _ => Triple.pure fun _ _ => trivial) v hv.1

/-- A request that passes the door of `process`. -/
theorem process_of_authentic (hauthentic : Authentic w request peer)
    (hforwards : request.operation.forwards = true) :
    process E request peer now w = (recoverExpired E now >>= fun _ => admission E request now
      >>= fun _ => dispatch E request now >>= conclude E) w := by
  have hvalid : ensure (request.validate.isOk = true)
      (InfrastructureError.rejected "invalid_request" "invalid v2 request") w = (.ok (), w) := by
    rw [ensure, if_pos hauthentic.valid]
    rfl
  have hpeer : ensure (peer.uid = w.allowedUid ∧ peer.gid = w.allowedGid
        ∧ peer.pid = request.callerPid) (InfrastructureError.rejected "unauthorized_peer"
        "socket credentials do not match request") w = (.ok (), w) := by
    rw [ensure, if_pos hauthentic.peer]
    rfl
  unfold process
  rw [bind_of_ok hvalid, bind_of_ok (show get w = (.ok w, w) from rfl), bind_of_ok hpeer,
    if_neg (not_capabilities hforwards)]
  rfl

/-- A request that does not. -/
theorem process_of_not_authentic (hauthentic : ¬ Authentic w request peer) :
    (process E request peer now w).1 ≠ .err staleOwner := by
  unfold process ensure
  by_cases hvalid : request.validate.isOk = true
  · have hpeer : ¬ (peer.uid = w.allowedUid ∧ peer.gid = w.allowedGid
        ∧ peer.pid = request.callerPid) := fun h => hauthentic ⟨hvalid, h⟩
    rw [if_pos hvalid, Proc.pure_bind, bind_of_ok (show get w = (.ok w, w) from rfl),
      if_neg hpeer]
    show Outcome.err (InfrastructureError.rejected _ _) ≠ Outcome.err staleOwner
    simp [staleOwner]
  · rw [if_neg hvalid]
    show Outcome.err (InfrastructureError.rejected _ _) ≠ Outcome.err staleOwner
    simp [staleOwner]

/-- A recovery that fails is not a stale owner. -/
theorem process_ne_stale_of_unrecovered (hforwards : request.operation.forwards = true)
    (howned : Owned o a w.state) (hrecover : ∀ found v, recoverExpired E now w ≠ (.ok found, v)) :
    (process E request peer now w).1 ≠ .err staleOwner := by
  by_cases hauthentic : Authentic w request peer
  · have hkeeps : Steers o a (recoverExpired E now) := recoverExpired_steers
    have hsteers := hkeeps w howned
    rw [process_of_authentic hauthentic hforwards]
    unfold wp at hsteers
    rcases hresult : recoverExpired E now w with ⟨found | e | _, v⟩
    · exact absurd hresult (hrecover found v)
    · rw [hresult] at hsteers
      rw [bind_of_err hresult]
      simpa using hsteers.1
    · rw [bind_of_crash hresult]
      simp
  · exact process_of_not_authentic hauthentic

/-- A revocation for any other owner of the token is refused as stale, once the recovery in front
of it has worked. -/
theorem forwardRevoke_stale {w v : InfrastructureService} {found : Bool}
    (hop : request.operation = .forwardRevoke owner) (hauthentic : Authentic w request peer)
    (howned : Owned o (some request.callerInstanceId) w.state)
    (htoken : owner.fencingToken = o.fencingToken) (hne : owner ≠ o)
    (hrecover : recoverExpired E now w = (.ok found, v)) :
    (process E request peer now w).1 = .err staleOwner := by
  have howned' : Owned o (some request.callerInstanceId) v.state := by
    have hkeeps : Steers o (some request.callerInstanceId) (recoverExpired E now) :=
      recoverExpired_steers
    have h := hkeeps w howned
    rwa [wp, hrecover] at h
  obtain ⟨f, hforward, howner⟩ := howned'.record
  rw [process_of_authentic hauthentic (by rw [hop]; rfl), bind_of_ok hrecover]
  have hadmission : admission E request now v = (.ok (), v) := by
    have hreplaces : request.operation.replaces = false := by rw [hop]; rfl
    have htransacts : request.operation.transacts = false := by rw [hop]; rfl
    unfold admission
    rw [authenticate_eq (by rw [hop]; rfl), Proc.pure_bind,
      bind_of_ok (show currentState v = (.ok v.state, v) from rfl), ensure, if_pos (by
        simp [hreplaces]), Proc.pure_bind, ensure, if_pos (by simp [htransacts])]
    rfl
  have hdispatch : dispatch E request now v = (.err staleOwner, v) := by
    have hadministrator : administrator request v = (.ok (), v) := by
      rw [administrator, bind_of_ok (show currentState v = (.ok v.state, v) from rfl), ensure,
        if_pos howned'.administrator]
      rfl
    have hsame : sameOwner v.state.forward owner v = (.err staleOwner, v) := by
      rw [hforward, sameOwner, okOr, Proc.pure_bind, ensure,
        if_neg fun h => hne (h.symm.trans howner)]
      rfl
    unfold dispatch
    rw [hop]
    dsimp only
    rw [forwardRevoke, bind_of_ok hadministrator,
      bind_of_ok (show currentState v = (.ok v.state, v) from rfl), howned'.candidateOf htoken]
    exact bind_of_err hsame
  rw [bind_of_ok hadmission, bind_of_err hdispatch]

end CandyRuntime.NetdV2
