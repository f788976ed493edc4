import CandyRuntime.Agent.Rebind
import CandyRuntime.NetdV2.RenewalTheorems

/-!
# Which rebindings are admitted

Attempts of one plan leave records of that plan only. On a host that stays as it is, netd therefore
acknowledges every request of the next attempt, with one exception: the revocation of the retained owner
drops the candidate, so a candidate that the status has reported cannot be revoked after it.
-/

namespace CandyRuntime.Agent.Rebind

open Lib Lib.Proc NetdProto NetdV2

variable {E : Surroundings} {plan : Plan} {a : Attempt}
variable {candidate : Option ForwardOwner} {op : Option Operation} {last : ℕ}

/-! ## Records of the plan -/

/-- What the attempts of a plan leave. -/
structure Rebindable (plan : Plan) (s : State) : Prop where
  administrator : s.administrator = some plan.instanceId
  spec : s.spec = some plan.infrastructure
  created : s.creationPending = false
  forward : ∃ r, s.forward = some r ∧ OfPlan plan r
  candidate : ∀ c, s.candidate = some c → OfPlan plan c
    ∧ (c.phase = .preparing ∨ c.phase = .prepared)
    ∧ ∀ r, s.forward = some r → r.owner.fencingToken < c.owner.fencingToken

/-- The request is one of the plan, if it is a request. -/
def Own (plan : Plan) (op : Option Operation) : Prop :=
  ∀ operation, op = some operation → Sends plan operation

theorem OfPlan.preparedChange {r r' : ForwardRecord} (h : OfPlan plan r) (hchange : PreparedChange r r') :
    OfPlan plan r' := by
  cases hchange with
  | authorized => exact ⟨h.1, h.2, h.3, h.4, h.5, h.6, h.7⟩
  | failures => exact ⟨h.1, h.2, h.3, h.4, h.5, h.6, h.7⟩

theorem OfPlan.revoke {r : ForwardRecord} (h : OfPlan plan r) : OfPlan plan r.revoke :=
  ⟨h.1, h.2, h.3, h.4, rfl, fun hsome => absurd rfl hsome, fun _ => rfl⟩

theorem OfPlan.settleFailures {r : ForwardRecord} (h : OfPlan plan r) (target : List Ipv4Prefix)
    (revision : ℕ) : OfPlan plan (r.settleFailures target revision) :=
  ⟨h.1, h.2, h.3, h.4, h.5, fun hsome => absurd rfl hsome, fun _ => rfl⟩

theorem OfPlan.forwardChange {candidate : Bool} {r r' : ForwardRecord} (h : OfPlan plan r)
    (hop : Own plan op) (hchange : ForwardChange op candidate r r') :
    OfPlan plan r' := by
  have hnone : ∀ p, r.pendingPolicy ≠ some p := fun p hp => by
    rw [h.policy] at hp
    cases hp
  cases hchange with
  | whilePrepared _ hchange => exact h.preparedChange hchange
  | prepared => exact ⟨h.1, h.2, h.3, h.4, h.5, h.6, h.7⟩
  | activated => exact ⟨h.1, h.2, h.3, h.4, h.5, h.6, h.7⟩
  | guarded => exact ⟨h.1, h.2, h.3, h.4, h.5, h.6, h.7⟩
  | cancelled p hpolicy => exact absurd hpolicy (hnone p)
  | fenced p hpolicy => exact absurd hpolicy (hnone p)
  | revoked => exact h.revoke
  | renewed owner hvalid howner =>
    exact ⟨h.1, howner.domainId.symm.trans h.2, howner.signedGeneration.symm.trans h.3, hvalid, h.5, h.6,
      h.7⟩
  | failuresUnchanged => exact ⟨h.1, h.2, h.3, h.4, h.5, h.6, h.7⟩
  | failuresIntended =>
    exact ⟨h.1, h.2, h.3, h.4, h.5, fun _ => Option.some_ne_none _, fun hpending => by cases hpending⟩
  | failuresSettled revision target => exact h.settleFailures target revision
  | policyRecorded => exact ⟨h.1, h.2, h.3, h.4, h.5, h.6, h.7⟩
  | policyIntended owner p hop' =>
    -- no attempt publishes a policy
    cases hop _ hop'
  | policyPublished p hpolicy => exact absurd hpolicy (hnone p)

theorem ofPlan_accepted {owner : ForwardOwner} {phase : Phase} (hdomain : owner.domainId = plan.domainId)
    (hgeneration : owner.signedGeneration = plan.signedGeneration) (hvalid : owner.validate = .ok ()) :
    OfPlan plan (.accepted owner plan.declaration phase) :=
  ⟨rfl, hdomain, hgeneration, hvalid, rfl, fun hsome => absurd rfl hsome, fun _ => rfl⟩

theorem OfPlan.phase {r : ForwardRecord} (h : OfPlan plan r) (phase : Phase) :
    OfPlan plan { r with phase } :=
  ⟨h.1, h.2, h.3, h.4, h.5, h.6, h.7⟩

/-- The forward record alone is left. -/
theorem Rebindable.alone {s : State} (h : Rebindable plan s) {r : ForwardRecord} (hr : OfPlan plan r) :
    Rebindable plan { s with forward := some r, candidate := none } :=
  ⟨h.administrator, h.spec, h.created, ⟨r, rfl, hr⟩, fun _ hc => by cases hc⟩

/-- Whatever netd writes for an attempt is of the plan. -/
theorem Rebindable.change {lo n : ℕ} {s s' : State} (h : Rebindable plan s) (hop : Own plan op)
    (hchange : Change E op lo n s s') : Rebindable plan s' := by
  obtain ⟨f, hf, hplan⟩ := h.forward
  have hrecord : ∀ r, s.forward = some r → OfPlan plan r := fun r hr => by
    obtain rfl := Option.some.inj (hf.symm.trans hr)
    exact hplan
  cases hchange with
  | created _ _ hpending =>
    rw [h.created] at hpending
    cases hpending
  | ensured _ _ _ _ hop' => cases hop _ hop'
  | repaired _ _ _ hop' => cases hop _ hop'
  | acquired _ _ _ hop' => cases hop _ hop'
  | released => exact ⟨h.1, h.2, h.3, h.4, h.5⟩
  | retired _ _ hop' => cases hop _ hop'
  | preparing _ _ _ _ _ _ hforward =>
    rw [hforward] at hf
    cases hf
  | retried previous hforward _ hcandidate howner =>
    have hprevious := hrecord previous hforward
    refine ⟨h.1, h.2, h.3, ⟨_, rfl, ?_⟩, fun c hc => ?_⟩
    · rw [hprevious.declaration]
      exact ofPlan_accepted hprevious.domainId hprevious.signedGeneration howner
    · rw [hcandidate] at hc
      cases hc
  | admitted _ _ previous owner declaration hop' hforward _ hadmitted _ howner =>
    cases hop _ hop' with
    | prepare _ hdomain hgeneration =>
      refine ⟨h.1, h.2, h.3, h.4, fun c hc => ?_⟩
      obtain rfl := Option.some.inj hc
      refine ⟨ofPlan_accepted hdomain hgeneration howner, .inr rfl, fun r hr => ?_⟩
      obtain rfl := Option.some.inj (hforward.symm.trans hr)
      exact hadmitted.fencingToken
  | dropped => exact ⟨h.1, h.2, h.3, h.4, fun _ hc => by cases hc⟩
  | intended candidate previous hcandidate =>
    obtain ⟨hofPlan, _, hyounger⟩ := h.candidate candidate hcandidate
    refine ⟨h.1, h.2, h.3, h.4, fun c hc => ?_⟩
    obtain rfl := Option.some.inj hc
    exact ⟨hofPlan.phase .preparing, .inl rfl, hyounger⟩
  | committed operation candidate previous _ _ hcandidate =>
    exact h.alone ((h.candidate candidate hcandidate).1.phase .active)
  | rolledBack candidate previous kept _ hforward =>
    cases kept with
    | true => exact h.alone (hrecord previous hforward)
    | false => exact h.alone ((hrecord previous hforward).phase .revoked)
  | withdrawn r hforward =>
    exact h.alone (hrecord r hforward).revoke
  | forwarding r r' hforward hchange =>
    refine ⟨h.1, h.2, h.3, ⟨r', rfl, (hrecord r hforward).forwardChange hop hchange⟩, fun c hc => ?_⟩
    obtain ⟨hofPlan, hphase, hyounger⟩ := h.candidate c hc
    refine ⟨hofPlan, hphase, fun r₁ hr₁ => ?_⟩
    obtain rfl := Option.some.inj hr₁
    rw [← hchange.renews.fencingToken]
    exact hyounger r hforward
  | candidacy r r' hcandidate hchange =>
    obtain ⟨hofPlan, hphase, hyounger⟩ := h.candidate r hcandidate
    refine ⟨h.1, h.2, h.3, h.4, fun c hc => ?_⟩
    obtain rfl := Option.some.inj hc
    rw [hchange.phase, hchange.owner]
    exact ⟨hofPlan.preparedChange hchange, hphase, hyounger⟩

theorem stable_rebindable {lo : ℕ} (hop : Own plan op) :
    Stable E op lo (fun _ => Rebindable plan) where
  mono := fun _ h => h
  change := fun _ h hchange => h.change hop hchange
  shaped := fun h c hc => (h.candidate c hc).2.1.symm

/-- In every state that the attempts leave. -/
theorem rebindable_of_reaches {w : InfrastructureService} (h : Reaches E plan w) :
    Rebindable plan w.state := by
  obtain ⟨w₀, hcommitted, hrun⟩ := h
  obtain ⟨r, hr, hplan, _⟩ := hcommitted.forward
  have hfirst : Rebindable plan w₀.state :=
    ⟨hcommitted.administrator, hcommitted.spec, hcommitted.created, ⟨r, hr, hplan⟩, fun c hc => by
      rw [hcommitted.candidate] at hc
      cases hc⟩
  have hholds : Holds (fun _ => Rebindable plan) w₀ :=
    ⟨Nat.zero_le _, hfirst, fun d hd => by
      obtain rfl := Option.some.inj (hcommitted.stored.symm.trans hd)
      exact hfirst, fun hnone => by
      rw [hcommitted.stored] at hnone
      cases hnone⟩
  refine (reachable_induction hrun hholds ?_).state
  rintro v v' hv ⟨event, hstep, hrebinding⟩
  exact hv.step hstep (stable_rebindable hrebinding)

/-! ## Recovery in front of a request -/

/-- Only the records differ, and the forward record has the same owner. -/
structure Follows (plan : Plan) (s s₁ : State) : Prop where
  kept : s₁ = { s with forward := s₁.forward, candidate := s₁.candidate }
  forward : ∃ r r₁, s.forward = some r ∧ s₁.forward = some r₁ ∧ r₁.owner = r.owner ∧ OfPlan plan r₁

theorem Follows.refl {s : State} (h : Rebindable plan s) : Follows plan s s := by
  obtain ⟨r, hr, hplan⟩ := h.forward
  exact ⟨rfl, r, r, hr, hr, rfl, hplan⟩

theorem Follows.trans {s s₁ s₂ : State} (h : Follows plan s s₁) (h' : Follows plan s₁ s₂) :
    Follows plan s s₂ := by
  obtain ⟨r, r₁, hr, hr₁, howner, _⟩ := h.forward
  obtain ⟨r₁', r₂, hr₁', hr₂, howner', hplan⟩ := h'.forward
  obtain rfl := Option.some.inj (hr₁.symm.trans hr₁')
  refine ⟨?_, r, r₂, hr, hr₂, howner'.trans howner, hplan⟩
  rw [h'.kept, h.kept]

/-- The records are of the plan still. -/
theorem Follows.rebindable {s s₁ : State} (h : Follows plan s s₁) (hs : Rebindable plan s)
    (hcandidate : s₁.candidate = s.candidate ∨ s₁.candidate = none) : Rebindable plan s₁ := by
  obtain ⟨r, r₁, hr, hr₁, howner, hplan⟩ := h.forward
  have hkept := h.kept
  refine ⟨?_, ?_, ?_, ⟨r₁, hr₁, hplan⟩, fun c hc => ?_⟩
  · rw [hkept]
    exact hs.administrator
  · rw [hkept]
    exact hs.spec
  · rw [hkept]
    exact hs.created
  · obtain hsame | hnone := hcandidate
    · obtain ⟨hofPlan, hphase, hyounger⟩ := hs.candidate c (hsame ▸ hc)
      refine ⟨hofPlan, hphase, fun r' hr' => ?_⟩
      obtain rfl := Option.some.inj (hr₁.symm.trans hr')
      rw [howner]
      exact hyounger r hr
    · rw [hnone] at hc
      cases hc

theorem Follows.recognized {m : Moment} {s s₁ : State} (h : Follows plan s s₁)
    (hdevice : Recognized m s) : Recognized m s₁ := by
  rw [h.kept]
  exact ⟨hdevice.interface, hdevice.stamped, hdevice.marker⟩

theorem Follows.lastFencingToken {s s₁ : State} (h : Follows plan s s₁) :
    s₁.lastFencingToken = s.lastFencingToken := by
  rw [h.kept]

/-- The forward record is exchanged for one of the plan with the same owner. -/
theorem Follows.exchange {s : State} {r r₁ : ForwardRecord} (hr : s.forward = some r)
    (howner : r₁.owner = r.owner) (hplan : OfPlan plan r₁) :
    Follows plan s { s with forward := some r₁ } :=
  ⟨rfl, r, r₁, hr, rfl, howner, hplan⟩

section Requests

variable {w : InfrastructureService} {b : Bool} {s : State} {now : ℕ}
  (hE : Steady E w.clock)
include hE

/-- Only a candidate that waits for its commit is left. -/
theorem recoverCandidate_follows (hs : Rebindable plan s) :
    Delivers (Stands w b s) (recoverCandidate E now) (fun _ v => ∃ s₁, Stands w b s₁ v
      ∧ (Follows plan s s₁ ∧ (Waits b now s → s₁.candidate = s.candidate)
        ∧ (¬ Waits b now s → s₁.candidate = none))) := by
  obtain ⟨r, hr, hplan⟩ := hs.forward
  unfold recoverCandidate
  apply currentState_meets
  cases hcandidate : s.candidate with
  | none =>
    apply Delivers.pure
    exact fun v hv => ⟨s, hv, .refl hs, fun _ => hcandidate, fun _ => hcandidate⟩
  | some candidate =>
    obtain ⟨_, hphase, _⟩ := hs.candidate candidate hcandidate
    apply Triple.ite
    · intro hpreparing
      apply Delivers.okOr_bind hr
      apply Delivers.bind (rollbackReplacement_works hE)
      intro _
      apply Delivers.pure
      rintro v ⟨kept, hv⟩
      refine ⟨_, hv, ⟨rfl, r, _, hr, rfl, ?_, ?_⟩, ?_, fun _ => rfl⟩
      · cases kept <;> rfl
      · cases kept with
        | true => exact hplan
        | false => exact hplan.phase .revoked
      · rintro ⟨_, c, hc, hprepared, _⟩
        obtain rfl := Option.some.inj (hcandidate.symm.trans hc)
        rw [hpreparing] at hprepared
        cases hprepared
    · intro hpreparing
      apply get_meets
      intro v₀ hv₀
      rw [hv₀.recovering]
      apply Triple.ite
      · intro hdropped
        apply persist_meets hE
        apply Delivers.pure
        refine fun v hv => ⟨_, hv, ⟨rfl, r, r, hr, hr, rfl, hplan⟩, ?_, fun _ => rfl⟩
        rintro ⟨hrecovering, c, hc, _, hlive⟩
        obtain rfl := Option.some.inj (hcandidate.symm.trans hc)
        obtain hpending | hexpired := hdropped
        · rw [hrecovering] at hpending
          cases hpending
        · rw [hlive] at hexpired
          cases hexpired
      · intro hkept
        apply Delivers.pure
        refine fun v hv => ⟨s, hv, .refl hs, fun _ => hcandidate, fun hnot => absurd ?_ hnot⟩
        have hlive : ¬ ownerIsLive candidate.owner now = false := fun h => hkept (.inr h)
        exact ⟨by simpa using fun h => hkept (.inl h), candidate, hcandidate,
          hphase.resolve_left hpreparing, by simpa using hlive⟩

omit hE in
theorem recoverCancelledPolicy_follows (hs : Rebindable plan s) :
    Delivers (Stands w b s) (recoverCancelledPolicy E) (fun _ => Stands w b s) := by
  obtain ⟨r, hr, hplan⟩ := hs.forward
  unfold recoverCancelledPolicy
  apply currentState_meets
  rw [hr]
  dsimp only
  rw [if_neg (by simp [hplan.policy])]
  exact Delivers.pure fun _ hv => hv

omit hE in
theorem recoverPendingPolicy_follows (hs : Rebindable plan s) :
    Delivers (Stands w b s) (recoverPendingPolicy E now) (fun _ => Stands w b s) := by
  obtain ⟨r, hr, hplan⟩ := hs.forward
  unfold recoverPendingPolicy
  apply currentState_meets
  rw [hr]
  dsimp only
  rw [if_neg (by simp [hplan.policy])]
  exact Delivers.pure fun _ hv => hv

theorem recoverPendingFailures_follows (hs : Rebindable plan s)
    (hdevice : Recognized (E.moment w.clock) s) :
    Delivers (Stands w b s) (recoverPendingFailures E now) (fun _ v => ∃ s₁, Stands w b s₁ v
      ∧ (Follows plan s s₁ ∧ s₁.candidate = s.candidate)) := by
  obtain ⟨r, hr, hplan⟩ := hs.forward
  have hsame : ∀ v, Stands w b s v → ∃ s₁, Stands w b s₁ v
      ∧ (Follows plan s s₁ ∧ s₁.candidate = s.candidate) := fun v hv => ⟨s, hv, .refl hs, rfl⟩
  unfold recoverPendingFailures
  apply currentState_meets
  rw [hr]
  apply Triple.ite
  · rintro ⟨hactive, _⟩
    apply read_meets hE
    apply Triple.ite
    · intro _
      cases hpending : r.pendingFailedPrefixes with
      | none => exact Delivers.pure hsame
      | some target =>
        obtain ⟨revision, hrevision⟩ := Option.ne_none_iff_exists'.mp
          (hplan.failures (by rw [hpending]; exact Option.some_ne_none _))
        apply unwrap_meets _ fun hnone _ _ => absurd (hs.spec.symm.trans hnone) (by simp)
        intro spec hspec
        apply identity_meets hE _ fun _ _ _ => .inr ⟨spec, hspec, ⟨rfl, rfl⟩, hdevice⟩
        intro _ _ _ _
        apply Triple.attempt_bind (Works.call hE _ _ _ (fun _ _ => False) _)
        · intro _
          apply unwrap_meets _ fun hnone _ _ => absurd (hrevision.symm.trans hnone) (by simp)
          intro revision' hrevision'
          apply persist_meets hE
          apply Delivers.pure
          intro v hv
          refine ⟨_, hv, ⟨rfl, r, r.settleFailures target revision', hr, ?_, rfl, ?_⟩, rfl⟩
          · rw [State.mapForward, hr, Option.map_some]
          · exact hplan.settleFailures target revision'
        · -- the call works
          exact fun e v hv => hv.elim
    · exact fun _ => Delivers.pure hsame
  · exact fun _ => Delivers.pure hsame

theorem recoverOwner_follows (hs : Rebindable plan s) {recovered : Bool} :
    Delivers (Stands w b s) (recoverOwner E now recovered) (fun _ v => ∃ s₁, Stands w false s₁ v
      ∧ (Follows plan s s₁ ∧ s₁.candidate = s.candidate)) := by
  obtain ⟨r, hr, hplan⟩ := hs.forward
  have hdone : ∀ {s₁ : State} (value : Bool), Follows plan s s₁ → s₁.candidate = s.candidate →
      Delivers (Stands w b s₁) (do
        setRestartRecoveryPending false
        return value) (fun _ v => ∃ s₁, Stands w false s₁ v
          ∧ (Follows plan s s₁ ∧ s₁.candidate = s.candidate)) := by
    intro s₁ value hfollows hcandidate
    apply setRestartRecoveryPending_meets
    exact Delivers.pure fun v hv => ⟨s₁, hv, hfollows, hcandidate⟩
  unfold recoverOwner
  apply get_meets
  intro v₀ hv₀
  rw [hv₀.state, hr]
  apply Triple.ite
  · exact fun _ => hdone _ (.refl hs) rfl
  · intro _
    apply read_meets hE
    apply Triple.ite
    · intro _
      apply (Works.call hE _).meets
      exact fun _ => hdone _ (.refl hs) rfl
    · intro _
      apply Triple.ite
      · exact fun _ => hdone _ (.refl hs) rfl
      · intro _
        apply Delivers.bind (expire_works hE hr)
        intro _
        exact hdone _ (.exchange hr rfl hplan.revoke) rfl

/-- Recovery keeps the owner, and the candidate if it waits for its commit. -/
theorem recoverExpired_follows (hs : Rebindable plan s) (hdevice : Recognized (E.moment w.clock) s) :
    Delivers (Stands w b s) (recoverExpired E now) (fun _ v => ∃ s₁, Stands w false s₁ v
      ∧ (Follows plan s s₁ ∧ (Waits b now s → s₁.candidate = s.candidate)
        ∧ (¬ Waits b now s → s₁.candidate = none))) := by
  unfold recoverExpired
  have hcreated : Delivers (Stands w b s) (completeCreation E) fun _ => Stands w b s := by
    unfold completeCreation
    apply currentState_meets
    exact Delivers.when_false (by simp [hs.created]) fun _ hv => hv
  apply hcreated.bind
  intro _
  apply (recoverCandidate_follows hE hs).bind
  intro _
  apply Triple.exists_pre
  intro s₁
  apply Triple.and_pre
  rintro ⟨hfollows, hwaits, hdropped⟩
  have hcandidate : s₁.candidate = s.candidate ∨ s₁.candidate = none := by
    by_cases hwaiting : Waits b now s
    · exact .inl (hwaits hwaiting)
    · exact .inr (hdropped hwaiting)
  have hs₁ := hfollows.rebindable hs hcandidate
  apply (recoverCancelledPolicy_follows hs₁).bind
  intro _
  apply (recoverPendingPolicy_follows hs₁).bind
  intro _
  apply (recoverPendingFailures_follows hE hs₁ (hfollows.recognized hdevice)).bind
  intro _
  apply Triple.exists_pre
  intro s₂
  apply Triple.and_pre
  rintro ⟨hfollows₂, hcandidate₂⟩
  have hs₂ := hfollows₂.rebindable hs₁ (.inl hcandidate₂)
  apply (recoverOwner_follows hE hs₂).post
  rintro _ v ⟨s₃, hv, hfollows₃, hcandidate₃⟩
  have hsame := hcandidate₃.trans hcandidate₂
  exact ⟨s₃, hv, (hfollows.trans hfollows₂).trans hfollows₃, fun h => hsame.trans (hwaits h),
    fun h => hsame.trans (hdropped h)⟩

/-! ## The requests -/

variable {operation : Operation} {Q : Body × Bool → InfrastructureService → Prop}
  {C : InfrastructureError → InfrastructureService → Prop} {K : InfrastructureService → Prop}

omit hE in
/-- A request that passes the door is answered from the state after the recovery. -/
theorem exchange_meets {P : State → Prop} (ha : a.Authentic w) (hplan : plan.Valid)
    (hvalid : operation.validate = .ok ()) (hcapabilities : operation ≠ .capabilities)
    (hreceipt : authenticate E (a.request plan operation) now = Pure.pure ())
    (hrecover : Delivers (Stands w b s) (recoverExpired E now) fun _ v => ∃ s₁, Stands w false s₁ v
      ∧ P s₁)
    (hnext : ∀ s₁, P s₁ → Admits s₁ operation
      ∧ Triple (Stands w false s₁) (dispatch E (a.request plan operation) now >>= conclude E) Q C K) :
    Triple (Stands w b s) (exchange E plan a operation now) Q C K := by
  have hrequest : (a.request plan operation).validate.isOk = true := by
    have hheader : refuseIf ((a.request plan operation).requestId == 0
        || (a.request plan operation).callerInstanceId == InstanceId.zero
        || (a.request plan operation).callerPid == 0) NetdProtocolError.invalidRequest = .ok () := by
      rw [refuseIf_eq_ok]
      simp [Attempt.request, ha.requestId, hplan.instanceId, ha.pid]
    show ((do
      refuseIf _ _
      operation.validate : Except NetdProtocolError Unit)).isOk = true
    rw [hheader, hvalid]
    rfl
  unfold exchange process
  intro v hv
  rw [wp_bind, wp_ensure]
  refine ⟨fun _ => ?_, fun h => absurd hrequest h⟩
  rw [wp_bind, wp_get, wp_bind, wp_ensure]
  refine ⟨fun _ => ?_, fun h => absurd ?_ h⟩
  · rw [if_neg (show (a.request plan operation).operation ≠ .capabilities from hcapabilities)]
    refine Triple.bind (Triple.conseq hrecover (fun _ h => h) (fun _ _ h => h) (fun _ _ h => h.elim)
      fun _ h => h.elim) (fun _ => ?_) v hv
    rintro v₁ ⟨s₁, hv₁, hP⟩
    obtain ⟨hadmits, hdispatch⟩ := hnext s₁ hP
    unfold admission
    rw [hreceipt]
    simp only [Proc.bind_assoc, Proc.pure_bind]
    refine currentState_meets ?_ v₁ hv₁
    refine ensure_meets (fun _ => ?_) fun h => absurd hadmits.1 h
    refine ensure_meets (fun _ => hdispatch) fun h => absurd hadmits.2 h
  · rw [hv.uid, hv.gid]
    exact ha.peer

omit hE in
/-- Neither revocations nor the status wait for pending work. -/
theorem admits_of_waitless (hreplaces : operation.replaces = false)
    (htransacts : operation.transacts = false) : Admits s operation := by
  rw [Admits, hreplaces, htransacts]
  simp

/-- The body of a status. -/
def statusOf (s : State) : Body :=
  .forwardStatus (s.forward.map (·.owner)) (s.forward.map (·.phase)) (s.candidate.map (·.owner))
    s.lastFencingToken ((s.forward.map (·.failureRevision)).getD 0)
    ((s.forward.map (·.failedPrefixes)).getD []) (s.forward.bind (·.pendingFailureRevision))
    (s.forward.bind (·.pendingFailedPrefixes)) ((s.forward.map (·.policyRevision)).getD 0)
    (s.forward.bind (·.policyGeneration)) (s.forward.bind (·.policyHash))
    (s.forward.bind fun f => f.pendingPolicy.map (·.revision))

/-- The state in which netd answers a request. -/
structure Reported (w : InfrastructureService) (b : Bool) (now : ℕ) (plan : Plan) (s s₁ : State) : Prop where
  rebindable : Rebindable plan s₁
  recognized : Recognized (E.moment w.clock) s₁
  follows : Follows plan s s₁
  waits : Waits b now s → s₁.candidate = s.candidate
  dropped : ¬ Waits b now s → s₁.candidate = none

theorem recoverExpired_reported (hs : Rebindable plan s) (hdevice : Recognized (E.moment w.clock) s) :
    Delivers (Stands w b s) (recoverExpired E now) fun _ v => ∃ s₁, Stands w false s₁ v
      ∧ Reported (E := E) w b now plan s s₁ := by
  refine (recoverExpired_follows hE hs hdevice).post ?_
  rintro _ v ⟨s₁, hv, hfollows, hwaits, hdropped⟩
  have hcandidate : s₁.candidate = s.candidate ∨ s₁.candidate = none := by
    by_cases hwaiting : Waits b now s
    · exact .inl (hwaits hwaiting)
    · exact .inr (hdropped hwaiting)
  exact ⟨s₁, hv, hfollows.rebindable hs hcandidate, hfollows.recognized hdevice, hfollows, hwaits,
    hdropped⟩

theorem status_meets (ha : a.Authentic w) (hplan : plan.Valid) (hs : Rebindable plan s)
    (hdevice : Recognized (E.moment w.clock) s) :
    Delivers (Stands w b s) (exchange E plan a .forwardStatus now) fun reply v => ∃ s₁,
      Stands w false s₁ v ∧ Reported (E := E) w b now plan s s₁ ∧ reply = (statusOf s₁, false) := by
  refine exchange_meets ha hplan rfl (fun h => by cases h) rfl (recoverExpired_reported hE hs hdevice)
    fun s₁ hreported => ⟨admits_of_waitless rfl rfl, ?_⟩
  unfold dispatch
  dsimp only [Attempt.request]
  unfold forwardStatus
  simp only [Proc.bind_assoc, Proc.pure_bind]
  apply currentState_meets
  exact Delivers.pure fun v hv => ⟨s₁, hv, hreported, rfl⟩

/-- What is left when the retained owner is revoked. -/
structure Retired (w : InfrastructureService) (plan : Plan) (owner : ForwardOwner) (last : ℕ) (s : State) :
    Prop where
  rebindable : Rebindable plan s
  recognized : Recognized (E.moment w.clock) s
  candidate : s.candidate = none
  last : s.lastFencingToken = last
  forward : ∃ r, s.forward = some r ∧ r.owner = owner ∧ r.revoke = r

/-- The retained owner can be revoked, and the candidate goes with it. -/
theorem revoke_meets (ha : a.Authentic w) (hplan : plan.Valid) (hs : Rebindable plan s)
    (hdevice : Recognized (E.moment w.clock) s) {r : ForwardRecord} (hr : s.forward = some r) :
    Delivers (Stands w b s) (exchange E plan a (.forwardRevoke r.owner) now) fun reply v => ∃ s₁,
      Stands w false s₁ v ∧ Retired (E := E) w plan r.owner s.lastFencingToken s₁
        ∧ reply = (.ack, false) := by
  obtain ⟨f, hf, hofPlan⟩ := hs.forward
  obtain rfl := Option.some.inj (hf.symm.trans hr)
  refine exchange_meets ha hplan hofPlan.valid (fun h => by cases h) rfl
    (recoverExpired_reported hE hs hdevice) fun s₁ hreported => ⟨admits_of_waitless rfl rfl, ?_⟩
  obtain ⟨f', r₁, hf', hr₁, howner, hofPlan₁⟩ := hreported.follows.forward
  obtain rfl := Option.some.inj (hf.symm.trans hf')
  -- a candidate is younger, so the record is the retained one
  have hcandidate : s₁.candidateOf f.owner = none := by
    cases hc : s₁.candidateOf f.owner with
    | none => rfl
    | some c =>
      obtain ⟨hsome, hsame⟩ := candidateOf_eq_some hc
      have hyounger := (hreported.rebindable.candidate c hsome).2.2 r₁ hr₁
      rw [howner, hsame] at hyounger
      exact absurd hyounger (Nat.lt_irrefl _)
  have hcancelled : { r₁ with
      pendingPolicy := r₁.pendingPolicy.map fun p => { p with cancelled := true } } = r₁ := by
    rw [hofPlan₁.policy, Option.map_none, ← hofPlan₁.policy]
  unfold dispatch
  dsimp only [Attempt.request]
  unfold forwardRevoke
  simp only [Proc.bind_assoc]
  apply administrator_meets _ fun h => absurd hreported.rebindable.administrator h
  intro _
  apply currentState_meets
  rw [hcandidate]
  dsimp only
  rw [sameOwner_eq hr₁ howner, Proc.bind_assoc, Proc.pure_bind]
  simp only [Proc.bind_assoc, Proc.pure_bind]
  apply Delivers.bind (cancel_works hE hr₁ rfl)
  intro _
  apply (fencePolicyIntent_works hE _).meets
  intro _
  rw [hcancelled]
  unfold conclude
  apply Delivers.bind (epilogue_works hE)
  intro _
  apply Delivers.pure
  intro v hv
  refine ⟨_, hv, ⟨hreported.rebindable.alone hofPlan₁.revoke, ?_, rfl, hreported.follows.lastFencingToken,
    r₁.revoke, rfl, howner, rfl⟩, rfl⟩
  exact ⟨hreported.recognized.interface, hreported.recognized.stamped, hreported.recognized.marker⟩

/-- The candidate that the status has reported is gone by then. -/
theorem revoke_refused (ha : a.Authentic w) (hplan : plan.Valid) {owner candidate : ForwardOwner}
    (hs : Retired (E := E) w plan owner last s) (hvalid : candidate.validate = .ok ())
    (hne : owner ≠ candidate) :
    Yields (Stands w b s) (exchange E plan a (.forwardRevoke candidate) now) fun _ _ => False := by
  refine exchange_meets ha hplan hvalid (fun h => by cases h) rfl
    (recoverExpired_reported hE hs.rebindable hs.recognized)
    fun s₁ hreported => ⟨admits_of_waitless rfl rfl, ?_⟩
  have hnone : s₁.candidate = none := by
    refine hreported.dropped fun hwaits => ?_
    obtain ⟨_, c, hc, _⟩ := hwaits
    rw [hs.candidate] at hc
    cases hc
  obtain ⟨r, hr, howner, _⟩ := hs.forward
  obtain ⟨r', r₁, hr', hr₁, hsame, _⟩ := hreported.follows.forward
  obtain rfl := Option.some.inj (hr.symm.trans hr')
  unfold dispatch
  dsimp only [Attempt.request]
  unfold forwardRevoke
  simp only [Proc.bind_assoc]
  apply administrator_meets _ fun h => absurd hreported.rebindable.administrator h
  intro _
  apply currentState_meets
  rw [candidateOf_none hnone]
  dsimp only
  rw [Proc.bind_assoc]
  apply sameOwner_yields
  intro f hf hother
  obtain rfl := Option.some.inj (hr₁.symm.trans hf)
  exact absurd ((hsame.trans howner).symm.trans hother) hne

omit hE in
/-- A revoked record is at rest. -/
theorem Retired.rested {owner : ForwardOwner} (hs : Retired (E := E) w plan owner last s) :
    Rested (E.moment w.clock) now s := by
  obtain ⟨r, hr, _, hrevoked⟩ := hs.forward
  have hphase : r.phase = .revoked := by
    rw [← hrevoked]
    rfl
  refine ⟨hs.rebindable.created, fun c hc => ?_, fun f p hf hp => ?_, fun f hf hlive => ?_,
    fun f hf hactive => ?_⟩
  · rw [hs.candidate] at hc
    cases hc
  · obtain rfl := Option.some.inj (hr.symm.trans hf)
    rw [← hrevoked] at hp
    cases hp
  · obtain rfl := Option.some.inj (hr.symm.trans hf)
    exact absurd hphase hlive
  · obtain rfl := Option.some.inj (hr.symm.trans hf)
    rw [hphase] at hactive
    cases hactive

/-- The preparation of an owner that advances is admitted exactly while that owner is alive. -/
theorem prepare_meets (ha : a.Authentic w) (hplan : plan.Valid) {owner new : ForwardOwner}
    (hs : Retired (E := E) w plan owner last s) (hvalid : new.validate = .ok ())
    (hdomain : new.domainId = plan.domainId)
    (hgeneration : new.signedGeneration = plan.signedGeneration)
    (hepoch : owner.workerEpoch ≤ new.workerEpoch)
    (htoken : owner.fencingToken < new.fencingToken) (hlast : last < new.fencingToken)
    (hlive : ownerIsLive new now = true) :
    Delivers (Stands w false s) (exchange E plan a (.forwardPrepare plan.infrastructure.infraId
      plan.infrastructure.generation new plan.declaration) now) fun reply _ => reply = (.ack, false) := by
  obtain ⟨r, hr, howner, hrevoked⟩ := hs.forward
  have hphase : r.phase = .revoked := by
    rw [← hrevoked]
    rfl
  obtain ⟨f, hf, hofPlan⟩ := hs.rebindable.forward
  obtain rfl := Option.some.inj (hf.symm.trans hr)
  have hids : plan.infrastructure.infraId ≠ InstanceId.zero ∧ plan.infrastructure.generation ≠ 0 := by
    have hspec := hplan.infrastructure
    rw [InfraSpec.validate, refuseIf_eq_ok] at hspec
    simp only [Bool.or_eq_false_iff, beq_eq_false_iff_ne] at hspec
    exact ⟨hspec.1.1.1.1.1, hspec.1.1.1.1.2⟩
  refine exchange_meets (P := fun s₁ => s₁ = s) ha hplan ?_ (fun h => by cases h) rfl
    ((recoverExpired_rested hE hs.rested).post fun _ v hv => ⟨s, hv, rfl⟩) ?_
  · show (do
      refuseIf (plan.infrastructure.infraId == InstanceId.zero || plan.infrastructure.generation == 0)
        NetdProtocolError.invalidRequest
      new.validate
      plan.declaration.validate
      checkPrefixes plan.declaration) = Except.ok ()
    have hheader : refuseIf (plan.infrastructure.infraId == InstanceId.zero
        || plan.infrastructure.generation == 0) NetdProtocolError.invalidRequest = .ok () := by
      rw [refuseIf_eq_ok]
      simp [hids]
    rw [hheader, hvalid, hplan.declaration, hplan.canonical]
    rfl
  rintro s₁ rfl
  refine ⟨admits_of_none hr hofPlan.policy fun _ => ?_, ?_⟩
  · rw [← hrevoked]
    rfl
  unfold dispatch
  dsimp only [Attempt.request]
  unfold forwardPrepare
  simp only [Proc.bind_assoc]
  apply administrator_meets _ fun h => absurd hs.rebindable.administrator h
  intro _
  apply identity_meets hE _ fun _ _ _ => .inr ⟨plan.infrastructure, hs.rebindable.spec, ⟨rfl, rfl⟩,
    hs.recognized⟩
  intro spec hspec _ _
  obtain rfl := Option.some.inj (hs.rebindable.spec.symm.trans hspec)
  apply Delivers.ensure_bind hlive
  apply Delivers.ensure_bind hplan.agrees
  apply currentState_meets
  rw [hs.candidate, hr]
  dsimp only
  have hretry : decide (f.owner = new ∧ f.phase = .preparing) = false := by simp [hphase]
  rw [if_neg (by simp [hphase]), hretry]
  unfold admitReplacement
  simp only [Proc.bind_assoc]
  have hadmitted : f.owner.domainId = new.domainId := hofPlan.domainId.trans hdomain.symm
  apply Delivers.ensure_bind hadmitted
  apply Delivers.ensure_bind
  · rintro (hlt | ⟨_, hne⟩ | hlt | ⟨hle, _⟩)
    · rw [hgeneration, hofPlan.signedGeneration] at hlt
      exact Nat.lt_irrefl _ hlt
    · exact hne hofPlan.declaration.symm
    · rw [howner] at hlt
      exact absurd hlt (Nat.not_lt.mpr hepoch)
    · rw [howner, hs.last] at hle
      exact absurd hle (Nat.not_le.mpr (max_lt htoken hlast))
  apply Delivers.ensure_bind (.inr (.inr (.inl hphase)))
  apply Delivers.ensure_bind ⟨by rw [hofPlan.declaration], by rw [hofPlan.declaration],
    by rw [hofPlan.declaration]⟩
  rw [if_neg (by simp), Proc.bind_assoc]
  apply (validateForwardingReplacement_works hE).meets
  intro _
  rw [Proc.bind_assoc]
  apply persist_meets hE
  exact Delivers.pure fun _ _ => rfl

omit hE in
/-- An owner that is not alive any more is not prepared. -/
theorem prepare_refused {new : ForwardOwner} (hlive : ownerIsLive new now = false) :
    NeverReturns (exchange E plan a (.forwardPrepare plan.infrastructure.infraId
      plan.infrastructure.generation new plan.declaration) now) := by
  have hnever : NeverReturns (ensureLive new now) := by
    apply neverReturns_ensure
    rw [hlive]
    exact Bool.false_ne_true
  unfold exchange process
  refine neverReturns_bind fun _ => neverReturns_bind fun _ => neverReturns_bind fun _ => ?_
  rw [if_neg (fun h => by cases h)]
  refine neverReturns_bind fun _ => neverReturns_bind fun _ => neverReturns_of_first ?_
  unfold dispatch
  dsimp only [Attempt.request]
  unfold forwardPrepare
  exact neverReturns_bind fun _ => neverReturns_bind fun _ => neverReturns_of_first hnever

end Requests

/-! ## The whole attempt -/

theorem greatest_le {f : ForwardOwner → ℕ} {previous : ForwardOwner} :
    f previous ≤ greatest f previous candidate := by
  cases candidate with
  | none => exact Nat.le_refl _
  | some candidate => exact Nat.le_max_right _ _

/-- The new owner is ahead of the retained one, of the reported candidate and of every token so far. -/
theorem newOwner_advances (plan : Plan) (a : Attempt) (previous : ForwardOwner)
    (candidate : Option ForwardOwner) (last : ℕ) :
    previous.workerEpoch ≤ (newOwner plan a previous candidate last).workerEpoch
      ∧ previous.fencingToken < (newOwner plan a previous candidate last).fencingToken
      ∧ last < (newOwner plan a previous candidate last).fencingToken := by
  have hepoch : previous.workerEpoch ≤ greatest (·.workerEpoch) previous candidate :=
    greatest_le (f := (·.workerEpoch))
  have htoken : previous.fencingToken ≤ greatest (·.fencingToken) previous candidate :=
    greatest_le (f := (·.fencingToken))
  simp only [newOwner]
  omega

/-- The new owner is alive when the preparation arrives in time. -/
theorem newOwner_live_iff (plan : Plan) (previous : ForwardOwner) (candidate : Option ForwardOwner)
    (last now : ℕ) :
    ownerIsLive (newOwner plan a previous candidate last) now = true
      ↔ now < a.now + min a.remaining 30000 ∧ now < previous.authDeadlineMonoMs := by
  unfold ownerIsLive
  rw [decide_eq_true_iff]
  simp only [newOwner]
  omega

theorem newOwner_valid (hplan : plan.Valid) {previous : ForwardOwner} {last now : ℕ}
    (hlive : ownerIsLive (newOwner plan a previous candidate last) now = true) :
    (newOwner plan a previous candidate last).validate = .ok () := by
  rw [newOwner_live_iff] at hlive
  rw [ForwardOwner.validate, refuseIf_eq_ok]
  have hsome : ¬ (a.now = 0 ∧ a.remaining = 0) ∧ previous.authDeadlineMonoMs ≠ 0 := by
    omega
  simpa [newOwner, hplan.domainId, hplan.signedGeneration] using hsome

/-- The sums behind the new owner do not overflow. -/
structure Fits (a : Attempt) (owner : ForwardOwner) : Prop where
  epoch : owner.workerEpoch < 2 ^ 64
  deadline : a.now + a.remaining < 2 ^ 64
  token : owner.fencingToken < 2 ^ 64

/-- Without a candidate the sums are those of the retained owner, which recovery leaves as it is. -/
theorem fits_iff {w : InfrastructureService} {s₁ : State} {r r₁ : ForwardRecord}
    (hr : w.state.forward = some r) (howner : r₁.owner = r.owner)
    (hlast : s₁.lastFencingToken = w.state.lastFencingToken) :
    Fits a (newOwner plan a r₁.owner none s₁.lastFencingToken) ↔ Countable a w := by
  rw [howner, hlast]
  constructor
  · intro h
    refine ⟨fun f hf => ?_, h.deadline, fun f hf => ?_⟩ <;>
      obtain rfl := Option.some.inj (hr.symm.trans hf)
    · exact h.epoch
    · exact h.token
  · exact fun h => ⟨h.epoch r hr, h.deadline, h.token r hr⟩

/-- An acknowledgement, as the agent reads it. -/
theorem expectAck_meets {operation : Operation} {now : ℕ} {P R : InfrastructureService → Prop}
    (h : Delivers P (exchange E plan a operation now) fun reply v => R v ∧ reply = (.ack, false)) :
    Delivers P (expectAck E plan a operation now) fun _ => R := by
  refine Delivers.bind h fun reply => ?_
  rintro v ⟨hR, rfl⟩
  exact hR

theorem expectAck_refused {operation : Operation} {now : ℕ} {P R : InfrastructureService → Prop}
    (h : Yields P (exchange E plan a operation now) fun _ _ => False) :
    Yields P (expectAck E plan a operation now) fun _ => R :=
  Yields.bind h fun _ _ hfalse => hfalse.elim

section Attempts

variable {w : InfrastructureService} {b : Bool} {s : State} {r : ForwardRecord}
  (hE : Steady E w.clock) (ha : a.Authentic w) (hplan : plan.Valid) (hs : Rebindable plan s)
  (hdevice : Recognized (E.moment w.clock) s) (hr : s.forward = some r)
include hE ha hplan hs hdevice hr

/-- Without a candidate all requests are acknowledged, if the last one is in time. -/
theorem replaceOwner_meets (hfits : Fits a (newOwner plan a r.owner none s.lastFencingToken))
    (hremaining : 0 < a.remaining)
    (hlease : a.prepareAt < a.now + min a.remaining 30000)
    (hauthorized : a.prepareAt < r.owner.authDeadlineMonoMs) :
    Delivers (Stands w b s) (replaceOwner E plan a r.owner none s.lastFencingToken)
      fun _ _ => True := by
  obtain ⟨f, hf, hofPlan⟩ := hs.forward
  obtain rfl := Option.some.inj (hf.symm.trans hr)
  have hlive := (newOwner_live_iff plan f.owner none s.lastFencingToken a.prepareAt).mpr
    ⟨hlease, hauthorized⟩
  obtain ⟨hepoch, htoken, hlast⟩ := newOwner_advances plan a f.owner none
    s.lastFencingToken
  unfold replaceOwner
  apply Delivers.ensure_bind ⟨hofPlan.domainId, hofPlan.signedGeneration⟩
  apply Delivers.ensure_bind hfits.epoch
  apply Delivers.ensure_bind hremaining
  apply Delivers.ensure_bind hfits.deadline
  apply Delivers.ensure_bind hfits.token
  refine Delivers.bind (expectAck_meets (R := fun v => ∃ s₁, Stands w false s₁ v
    ∧ Retired (E := E) w plan f.owner s.lastFencingToken s₁)
    ((revoke_meets hE ha hplan hs hdevice hr).post ?_)) fun _ => ?_
  · rintro reply v ⟨s₁, hv, hretired, hreply⟩
    exact ⟨⟨s₁, hv, hretired⟩, hreply⟩
  · apply Triple.exists_pre
    intro s₁
    rintro v ⟨hv, hretired⟩
    refine Delivers.bind (P := Stands w false s₁) (expectAck_meets (R := fun _ => True)
      ((prepare_meets hE ha hplan hretired (newOwner_valid hplan hlive) rfl rfl hepoch htoken hlast
        hlive).post fun _ _ hreply => ⟨trivial, hreply⟩))
      (fun _ => Delivers.pure fun _ _ => trivial) v hv

/-- With a candidate, too late, or at the end of a counter, one of them is refused. -/
theorem replaceOwner_refused
    (hrefused : (∃ c, candidate = some c ∧ c.validate = .ok () ∧ r.owner ≠ c)
      ∨ ¬ (Fits a (newOwner plan a r.owner candidate s.lastFencingToken) ∧ 0 < a.remaining
        ∧ a.prepareAt < a.now + min a.remaining 30000
        ∧ a.prepareAt < r.owner.authDeadlineMonoMs)) :
    Yields (Stands w b s) (replaceOwner E plan a r.owner candidate s.lastFencingToken)
      fun _ _ => False := by
  unfold replaceOwner
  apply Yields.ensure_bind
  intro _
  apply Yields.ensure_bind
  intro hepoch
  apply Yields.ensure_bind
  intro hremaining
  apply Yields.ensure_bind
  intro hdeadline
  apply Yields.ensure_bind
  intro htoken
  obtain ⟨c, rfl, hvalid, hne⟩ | hlate := hrefused
  · refine Yields.bind (Q := fun _ v => ∃ s₁, Stands w false s₁ v
      ∧ Retired (E := E) w plan r.owner s.lastFencingToken s₁) ?_ fun _ => ?_
    · refine (expectAck_meets (R := fun v => ∃ s₁, Stands w false s₁ v
        ∧ Retired (E := E) w plan r.owner s.lastFencingToken s₁)
        ((revoke_meets hE ha hplan hs hdevice hr).post ?_)).conseq (fun _ h => h) (fun _ _ h => h)
        (fun _ _ h => h.elim) fun _ h => h.elim
      rintro reply v ⟨s₁, hv, hretired, hreply⟩
      exact ⟨⟨s₁, hv, hretired⟩, hreply⟩
    · apply Triple.exists_pre
      intro s₁
      rintro v ⟨hv, hretired⟩
      exact Yields.bind (P := Stands w false s₁) (Q := fun _ _ => False)
        (expectAck_refused (revoke_refused hE ha hplan hretired hvalid hne)) (fun _ _ h => h.elim) v hv
  · have hlive : ownerIsLive (newOwner plan a r.owner candidate s.lastFencingToken) a.prepareAt
        = false := by
      rw [Bool.eq_false_iff, ne_eq, newOwner_live_iff]
      exact fun h => hlate ⟨⟨hepoch, hdeadline, htoken⟩, hremaining, h⟩
    refine Yields.of_neverReturns (neverReturns_bind fun _ => neverReturns_bind fun _ =>
      neverReturns_of_first (neverReturns_of_first (prepare_refused hlive)))

end Attempts

/-- The status of a retained owner leads to the requests for it. -/
theorem followStatus_eq {s : State} {r : ForwardRecord} (hr : s.forward = some r) :
    followStatus E plan a (statusOf s)
      = replaceOwner E plan a r.owner (s.candidate.map (·.owner)) s.lastFencingToken := by
  rw [statusOf, hr]
  rfl

/-- An attempt is acknowledged as a whole exactly when the status reports no candidate, the preparation
arrives in time and no counter is at its end. -/
theorem acknowledged_iff (E : Surroundings) (plan : Plan) (a : Attempt) (w : InfrastructureService)
    (hplan : plan.Valid) (hreaches : Reaches E plan w) (ha : a.Authentic w) (hE : Steady E w.clock)
    (hdevice : Recognized (E.moment w.clock) w.state) :
    Acknowledged E plan a w ↔ ¬ ReportsCandidate a w ∧ InTime a w ∧ Countable a w := by
  have hs := rebindable_of_reaches hreaches
  obtain ⟨r, hr, hofPlan⟩ := hs.forward
  have hstatus : Delivers (Stands w w.restartRecoveryPending w.state)
      (exchange E plan a .forwardStatus a.statusAt) _ := status_meets hE ha hplan hs hdevice
  constructor
  · rintro ⟨owner, w', hrun⟩
    by_contra hnot
    suffices hyields : Yields (Stands w w.restartRecoveryPending w.state) (rebindCore E plan a)
        fun _ _ => False from hyields.of_eq (Stands.refl w) hrun
    unfold rebindCore
    refine Yields.bind (hstatus.conseq (fun _ h => h) (fun _ _ h => h) (fun _ _ h => h.elim)
      fun _ h => h.elim) fun reply => ?_
    rintro v ⟨s₁, hv, hreported, rfl⟩
    obtain ⟨r', r₁, hr', hr₁, howner, _⟩ := hreported.follows.forward
    obtain rfl := Option.some.inj (hr.symm.trans hr')
    refine Yields.ensure_bind (P := Stands w false s₁) (fun _ => ?_) v hv
    rw [followStatus_eq hr₁]
    apply replaceOwner_refused hE ha hplan hreported.rebindable hreported.recognized hr₁
    by_cases hreports : ReportsCandidate a w
    · have hsame := hreported.waits hreports
      obtain ⟨_, c, hc, _⟩ := hreports
      obtain ⟨hofPlan', _, hyounger⟩ := hreported.rebindable.candidate c (hsame.trans hc)
      refine .inl ⟨c.owner, by rw [hsame, hc]; rfl, hofPlan'.valid, fun heq => ?_⟩
      have htoken := hyounger r₁ hr₁
      rw [heq] at htoken
      exact Nat.lt_irrefl _ htoken
    · rw [hreported.dropped hreports, Option.map_none]
      refine .inr ?_
      rintro ⟨hfits, hremaining, hlease, hauthorized⟩
      have hcountable := (fits_iff hr howner hreported.follows.lastFencingToken).mp hfits
      refine hnot ⟨hreports, ⟨hremaining, hlease, fun f hf => ?_⟩, hcountable⟩
      obtain rfl := Option.some.inj (hr.symm.trans hf)
      rw [← howner]
      exact hauthorized
  · rintro ⟨hreports, htime, hcountable⟩
    suffices hdelivers : Delivers (Stands w w.restartRecoveryPending w.state) (rebindCore E plan a)
        fun _ _ => True by
      obtain ⟨owner, w', hrun, _⟩ := hdelivers.eq (Stands.refl w)
      exact ⟨owner, w', hrun⟩
    unfold rebindCore
    refine Delivers.bind hstatus fun reply => ?_
    rintro v ⟨s₁, hv, hreported, rfl⟩
    obtain ⟨r', r₁, hr', hr₁, howner, _⟩ := hreported.follows.forward
    obtain rfl := Option.some.inj (hr.symm.trans hr')
    refine Delivers.ensure_bind (P := Stands w false s₁) rfl ?_ v hv
    rw [followStatus_eq hr₁, hreported.dropped hreports]
    refine replaceOwner_meets hE ha hplan hreported.rebindable hreported.recognized hr₁
      ((fits_iff hr howner hreported.follows.lastFencingToken).mpr hcountable) htime.remaining
      htime.lease ?_
    rw [howner]
    exact htime.authorized r hr

/-! ## Two attempts -/

namespace Sample

open NetdV2.Sample

def domainPlan : Plan where
  instanceId := ident 9
  infrastructure := spec
  domainId := ident 2
  signedGeneration := 1
  declaration := declaration 2

/-- An attempt that starts at the time 1. -/
def promptly : Attempt where
  requestId := 1
  pid := 5
  peer := peer
  portEpoch := 1
  now := 1
  remaining := 90
  statusAt := 1
  revokeAt := 1
  retireAt := 1
  prepareAt := 1

/-- The attempt has revoked the first owner and prepared its own, and the agent is killed. -/
def prepared : InfrastructureService :=
  stepOnce surroundings revoked (ask (.forwardPrepare (ident 1) 1
    (newOwner domainPlan promptly (owner 1) none 1) (declaration 2)))

theorem domainPlan_valid : domainPlan.Valid where
  instanceId := by decide
  domainId := by decide
  signedGeneration := by decide
  infrastructure := by decide
  declaration := by decide
  canonical := by decide
  agrees := ⟨rfl, rfl⟩

theorem opened_committed : Committed domainPlan opened where
  administrator := by decide
  spec := by decide
  created := by decide
  forward := ⟨.accepted (owner 1) (declaration 2) .active, by decide,
    ofPlan_accepted rfl rfl (by decide), rfl⟩
  candidate := by decide
  stored := by decide

theorem reaches_revoked : Reaches surroundings domainPlan revoked := by
  refine ⟨opened, opened_committed, ?_⟩
  unfold revoked
  rw [List.foldl_cons, List.foldl_nil]
  refine steps_stepOnce _ _ fun _ hevent operation hoperation => ?_
  obtain rfl := Option.some.inj (hevent.symm.trans hoperation)
  exact .revoke _

theorem reaches_prepared : Reaches surroundings domainPlan prepared := by
  obtain ⟨w₀, hcommitted, hrun⟩ := reaches_revoked
  refine ⟨w₀, hcommitted, hrun.trans (steps_stepOnce _ _ fun _ hevent operation hoperation => ?_)⟩
  obtain rfl := Option.some.inj (hevent.symm.trans hoperation)
  exact @Sends.prepare domainPlan _ rfl rfl

theorem recognized_prepared : Recognized (surroundings.moment prepared.clock) prepared.state where
  interface := by decide
  stamped := by decide
  marker := by decide

end Sample

open Sample NetdV2.Sample in
/-- The attempt is repeated after the revocation. -/
theorem acknowledged_iff_revoked :
    Acknowledged surroundings domainPlan promptly revoked
      ↔ ¬ ReportsCandidate promptly revoked ∧ InTime promptly revoked ∧ Countable promptly revoked :=
  acknowledged_iff surroundings domainPlan promptly revoked domainPlan_valid reaches_revoked
    ⟨by decide, by decide, by decide⟩ (steady_surroundings (by decide))
    ⟨by decide, by decide, by decide⟩

open Sample NetdV2.Sample in
/-- After the preparation it is refused: its second revocation asks for a candidate that its first one has
dropped. -/
theorem not_acknowledged :
    ¬ ∀ (E : Surroundings) (plan : Plan) (a : Attempt) (w : InfrastructureService), plan.Valid →
      Reaches E plan w → a.Authentic w → Steady E w.clock → Recognized (E.moment w.clock) w.state →
      InTime a w → Countable a w → Acknowledged E plan a w := by
  intro h
  have howner : ∀ r, prepared.state.forward = some r → r.owner = owner 1 := fun r hr => by
    have hmap : (prepared.state.forward.map (·.owner)) = some (owner 1) := by decide
    rwa [hr, Option.map_some, Option.some.injEq] at hmap
  have htime : InTime promptly prepared :=
    ⟨by decide, by decide, fun r hr => by
      rw [howner r hr]
      decide⟩
  have hcountable : Countable promptly prepared := by
    refine ⟨fun r hr => ?_, by decide, fun r hr => ?_⟩ <;> rw [howner r hr] <;> decide
  obtain ⟨owner, w', hrun⟩ := h surroundings domainPlan promptly prepared domainPlan_valid
    reaches_prepared ⟨by decide, by decide, by decide⟩ (steady_surroundings (by decide))
    recognized_prepared htime hcountable
  have hrefused : (rebindCore surroundings domainPlan promptly prepared).1
      = .err (.rejected "stale_forward_owner"
        "request does not match committed generation, epoch, fence and deadlines") := by
    decide
  rw [hrun] at hrefused
  cases hrefused

end CandyRuntime.Agent.Rebind
