import CandyRuntime.NetdV2.SteadyTheorems

/-!
# Recovery comes to rest

On a host that stays as it is, `recover_expired` ends in a state in which it has nothing left to
do (`recoverExpired_rests`), and leaves such a state alone (`recoverExpired_rested`).
-/

namespace CandyRuntime.NetdV2

open Lib Lib.Proc NetdProto NetdV1

variable {C : InfrastructureError → InfrastructureService → Prop}
  {K : InfrastructureService → Prop} {f : ForwardRecord}

/-! ## What recovery does to a state -/

/-- What recovery can do to a record: it finishes its work, or revokes it. -/
structure Wanes (r r₁ : ForwardRecord) : Prop where
  owner : r₁.owner = r.owner
  active : r₁.phase = .active → r.phase = .active
  policy : r₁.pendingPolicy = none ∨ r₁.pendingPolicy = r.pendingPolicy
  failures : (r₁.pendingFailedPrefixes = none ∧ r₁.pendingFailureRevision = none)
    ∨ (r₁.pendingFailedPrefixes = r.pendingFailedPrefixes
      ∧ r₁.pendingFailureRevision = r.pendingFailureRevision)

theorem Wanes.refl (r : ForwardRecord) : Wanes r r := ⟨rfl, id, Or.inr rfl, Or.inr ⟨rfl, rfl⟩⟩

theorem Wanes.trans {r r₁ r₂ : ForwardRecord} (h : Wanes r r₁) (h' : Wanes r₁ r₂) : Wanes r r₂ := by
  obtain ⟨ho, ha, hp, hf⟩ := h
  obtain ⟨ho', ha', hp', hf'⟩ := h'
  constructor <;> grind

/-- What recovery can do to the records of a state, the device being there. -/
structure Recovers (s s₁ : State) : Prop where
  bootId : s₁.bootId = s.bootId
  spec : s₁.spec = s.spec
  ifindex : s₁.ifindex = s.ifindex
  ownershipMarker : s₁.ownershipMarker = s.ownershipMarker
  creationPending : s₁.creationPending = s.creationPending
  forward : Option.Rel Wanes s.forward s₁.forward
  candidate : s₁.candidate = s.candidate ∨ s₁.candidate = none

theorem wanes_refl (o : Option ForwardRecord) : Option.Rel Wanes o o := by
  cases o with
  | none => exact .none
  | some r => exact .some (.refl r)

theorem Recovers.refl (s : State) : Recovers s s :=
  ⟨rfl, rfl, rfl, rfl, rfl, wanes_refl _, Or.inl rfl⟩

theorem Recovers.trans {s s₁ s₂ : State} (h : Recovers s s₁) (h' : Recovers s₁ s₂) :
    Recovers s s₂ := by
  have hforward : Option.Rel Wanes s.forward s₂.forward := by
    have h₁ := h.forward
    have h₂ := h'.forward
    generalize s.forward = o at h₁ ⊢
    generalize s₁.forward = o₁ at h₁ h₂
    generalize s₂.forward = o₂ at h₂ ⊢
    cases h₁ with
    | none =>
      cases h₂
      exact .none
    | some hr =>
      cases h₂ with
      | some hr' => exact .some (hr.trans hr')
  refine ⟨h'.bootId.trans h.bootId, h'.spec.trans h.spec, h'.ifindex.trans h.ifindex,
    h'.ownershipMarker.trans h.ownershipMarker, h'.creationPending.trans h.creationPending,
    hforward, ?_⟩
  rcases h'.candidate with hc | hc
  · rw [hc]
    exact h.candidate
  · exact Or.inr hc

/-- The record a state after recovery comes from. -/
theorem Recovers.record {s s₁ : State} (h : Recovers s s₁) {f₁ : ForwardRecord}
    (hf₁ : s₁.forward = some f₁) : ∃ f, s.forward = some f ∧ Wanes f f₁ := by
  have hrel := h.forward
  rw [hf₁] at hrel
  generalize s.forward = o at hrel
  cases hrel with
  | some hr => exact ⟨_, rfl, hr⟩

/-- The record a state before recovery leads to. -/
theorem Recovers.successor {s s₁ : State} (h : Recovers s s₁) (hf : s.forward = some f) :
    ∃ f₁, s₁.forward = some f₁ ∧ Wanes f f₁ := by
  have hrel := h.forward
  rw [hf] at hrel
  generalize s₁.forward = o at hrel
  cases hrel with
  | some hr => exact ⟨_, rfl, hr⟩

theorem Recovers.recognized {m : Moment} {s s₁ : State} (h : Recovers s s₁) :
    Recognized m s₁ ↔ Recognized m s := by
  constructor
  · rintro ⟨hi, hs, hm⟩
    exact ⟨h.ifindex ▸ hi, h.ownershipMarker ▸ hs, h.ownershipMarker ▸ hm⟩
  · rintro ⟨hi, hs, hm⟩
    exact ⟨h.ifindex ▸ hi, h.ownershipMarker ▸ hs, h.ownershipMarker ▸ hm⟩

theorem Apart.recovers {s s₁ : State} (h : Apart s) (hrec : Recovers s s₁) : Apart s₁ where
  shaped := by
    intro c hc
    rcases hrec.candidate with heq | heq
    · exact h.shaped c (heq ▸ hc)
    · simp [heq] at hc
  candidate := by
    intro c hc
    rcases hrec.candidate with heq | heq
    · obtain ⟨hp, hf, hr, f, hforward, htoken⟩ := h.candidate c (heq ▸ hc)
      obtain ⟨f₁, hf₁, hw⟩ := hrec.successor hforward
      exact ⟨hp, hf, hr, f₁, hf₁, hw.owner ▸ htoken⟩
    · simp [heq] at hc
  policy := by
    intro f₁ hf₁ hp
    obtain ⟨f, hf, hw⟩ := hrec.record hf₁
    have hsame : f₁.pendingPolicy = f.pendingPolicy := hw.policy.resolve_left hp
    obtain ⟨hc, hnone⟩ := h.policy f hf (hsame ▸ hp)
    constructor
    · rcases hrec.candidate with heq | heq
      · rw [heq, hc]
      · exact heq
    · rcases hw.failures with hdone | heq
      · exact hdone.1
      · rw [heq.1, hnone]
  paired := by
    intro f₁ hf₁ hnone
    obtain ⟨f, hf, hw⟩ := hrec.record hf₁
    rcases hw.failures with hdone | heq
    · exact hdone.2
    · rw [heq.2]
      exact h.paired f hf (heq.1 ▸ hnone)

/-- The forward record is changed by a step of recovery. -/
theorem recovers_mapForward {s : State} {g : ForwardRecord → ForwardRecord}
    (hf : s.forward = some f) (hw : Wanes f (g f)) : Recovers s (s.mapForward g) := by
  refine ⟨rfl, rfl, rfl, rfl, rfl, ?_, Or.inl rfl⟩
  simp only [State.mapForward, hf, Option.map_some]
  exact .some hw

/-! ## Rest -/

/-- The record has no work that recovery would finish. -/
structure Idle (m : Moment) (s : State) (f : ForwardRecord) : Prop where
  settled : f.pendingFailedPrefixes = none
  unpublished : f.pendingPolicy ≠ none → ¬ (s.spec.isSome = true ∧ Recognized m s)

/-- The owner is live, and the state was written since the last boot. -/
def Current (m : Moment) (now : ℕ) (s : State) (f : ForwardRecord) : Prop :=
  ownerIsLive f.owner now = true ∧ s.bootId = m.bootId

/-- The candidate is waiting for its commit, and its owner is live. -/
def Waiting (now : ℕ) (s : State) : Prop :=
  ∀ c, s.candidate = some c → c.phase ≠ .preparing ∧ ownerIsLive c.owner now = true

/-- No cancelled policy is retained. -/
def Uncancelled (s : State) : Prop :=
  ∀ f p, s.forward = some f → f.pendingPolicy = some p → p.cancelled = false

/-- Recovery has nothing left to do. -/
structure Rested (m : Moment) (now : ℕ) (s : State) : Prop where
  created : s.creationPending = false
  waiting : Waiting now s
  uncancelled : Uncancelled s
  current : ∀ f, s.forward = some f → f.phase ≠ .revoked → Current m now s f
  idle : ∀ f, s.forward = some f → f.phase = .active → Idle m s f

theorem Waiting.recovers {now : ℕ} {s s₁ : State} (h : Waiting now s) (hrec : Recovers s s₁) :
    Waiting now s₁ := by
  intro c hc
  rcases hrec.candidate with heq | heq
  · exact h c (heq ▸ hc)
  · simp [heq] at hc

theorem Uncancelled.recovers {s s₁ : State} (h : Uncancelled s) (hrec : Recovers s s₁) :
    Uncancelled s₁ := by
  intro f₁ p hf₁ hp
  obtain ⟨f, hf, hw⟩ := hrec.record hf₁
  rcases hw.policy with hnone | hsame
  · simp [hnone] at hp
  · exact h f p hf (hsame ▸ hp)

/-! ## The steps of recovery -/

variable {E : Surroundings} {w : InfrastructureService} {b : Bool} {s : State} {now : ℕ}

/-- The state once a creation that was pending is complete. -/
def State.completed (m : Moment) (s : State) : State :=
  if s.creationPending then
    { s with ifindex := some m.createdIfindex, creationPending := false, bootId := m.bootId }
  else s

section Steps

variable (hE : Steady E w.clock)
include hE

theorem verifyDeviceOwnership_yields :
    Yields (Stands w b s) (verifyDeviceOwnership E) (fun _ => Stands w b s) := by
  unfold verifyDeviceOwnership
  apply currentState_meets
  apply Yields.ensure_bind
  intro _
  apply read_meets hE
  intro v hv
  rw [wp_ensure]
  exact ⟨fun _ => hv, fun _ => trivial⟩

theorem openDevice_yields {marker : String} :
    Yields (Stands w b s) (openDevice E marker) (fun _ => Stands w b s) := by
  have hopen : ∀ held, Works w (setLifecycleFd held) := fun _ _ _ _ _ _ hv =>
    ⟨hv.state, hv.recovering, hv.clock, hv.uid, hv.gid⟩
  unfold openDevice
  apply read_meets hE
  apply Triple.ite
  · intro _
    apply read_meets hE
    apply setLifecycleFd_meets
    exact (Works.call hE _).handle _ _ _ _
  · intro _
    apply (verifyDeviceOwnership_yields hE).bind
    intro _
    apply get_meets
    intro _ _
    exact Works.when ((Works.read hE _ _).bind fun _ => hopen _) _ _ _ _

theorem completeCreation_yields :
    Yields (Stands w b s) (completeCreation E)
      (fun _ => Stands w b (s.completed (E.moment w.clock))) := by
  unfold completeCreation
  apply currentState_meets
  apply Yields.when
  · intro hpending
    apply Yields.okOr_bind
    intro spec _
    apply Yields.okOr_bind
    intro marker _
    unfold ensureNamespace
    simp only [Proc.bind_assoc]
    apply read_meets hE
    apply Yields.ensure_bind
    intro _
    apply (openDevice_yields hE).bind
    intro _
    apply (verifyDeviceOwnership_yields hE).bind
    intro _
    apply read_meets hE
    apply read_meets hE
    apply read_meets hE
    rw [State.completed, if_pos hpending]
    exact persist_works hE
  · intro hpending v hv
    rw [State.completed, if_neg hpending]
    exact hv

/-- What a rollback leaves depends on whether the previous owner is kept. -/
theorem rollbackReplacement_works {previous candidate : ForwardRecord} :
    Triple (Stands w b s) (rollbackReplacement E previous candidate now)
      (fun _ v => ∃ kept : Bool, Stands w b { s with
        forward := some (if kept then previous else { previous with phase := .revoked })
        candidate := none } v) C K := by
  have hretains : ∀ phases, Works w (retains E phases previous now) := by
    intro phases
    apply Works.ite _ (.pure _)
    apply Works.ite _ (.pure _)
    exact Works.currentState.bind fun _ => (Works.read hE _ _).bind fun _ => .pure _
  have hguard : ∀ live, Works w (guardRollback E previous candidate live) := fun live =>
    .ite (.call hE _) ((Works.call hE _).bind fun _ => .call hE _)
  unfold rollbackReplacement
  apply (hretains _).meets
  intro guardedLive
  apply (hguard _).meets
  intro _
  apply (Works.call hE _).meets
  intro _
  apply (hretains _).meets
  intro oldLive
  apply (Works.when (.call hE _)).meets
  intro _
  apply (Works.call hE _).meets
  intro _
  apply (Works.when (.call hE _)).meets
  intro _
  apply currentState_meets
  exact (persist_works hE).post fun _ _ hv => ⟨oldLive, hv⟩

theorem recoverCandidate_rests :
    Yields (Stands w b s) (recoverCandidate E now) (fun _ v => ∃ s₁, Stands w b s₁ v
      ∧ (Recovers s s₁ ∧ Waiting now s₁)) := by
  unfold recoverCandidate
  apply currentState_meets
  cases hcandidate : s.candidate with
  | none =>
    apply Yields.pure
    intro v hv
    exact ⟨s, hv, .refl s, fun c hc => by simp [hcandidate] at hc⟩
  | some candidate =>
    apply Triple.ite
    · intro _
      apply Yields.okOr_bind
      intro previous hprevious
      apply Yields.bind (rollbackReplacement_works hE)
      intro _
      apply Yields.pure
      rintro v ⟨kept, hv⟩
      refine ⟨_, hv, ⟨rfl, rfl, rfl, rfl, rfl, ?_, Or.inr rfl⟩, fun c hc => by simp at hc⟩
      rw [hprevious]
      apply Option.Rel.some
      cases kept with
      | true => exact .refl previous
      | false => exact ⟨rfl, fun h => by simp at h, Or.inr rfl, Or.inr ⟨rfl, rfl⟩⟩
    · intro hphase
      apply get_meets
      intro v₀ _
      apply Triple.ite
      · intro _
        apply persist_meets hE
        apply Yields.pure
        intro v hv
        exact ⟨_, hv, ⟨rfl, rfl, rfl, rfl, rfl, wanes_refl _, Or.inr rfl⟩,
          fun c hc => by simp at hc⟩
      · intro hlive
        apply Yields.pure
        intro v hv
        refine ⟨s, hv, .refl s, ?_⟩
        intro c hc
        rw [hcandidate, Option.some.injEq] at hc
        rw [← hc]
        exact ⟨hphase, by simpa using fun h => hlive (Or.inr h)⟩

theorem recoverCancelledPolicy_rests :
    Yields (Stands w b s) (recoverCancelledPolicy E) (fun _ v => ∃ s₁, Stands w b s₁ v
      ∧ (Recovers s s₁ ∧ Uncancelled s₁)) := by
  unfold recoverCancelledPolicy
  apply currentState_meets
  cases hforward : s.forward with
  | none =>
    apply Yields.pure
    intro v hv
    exact ⟨s, hv, .refl s, fun f p hf => by simp [hforward] at hf⟩
  | some forward =>
    apply Triple.ite
    · intro _
      apply (fencePolicyIntent_works hE _).meets
      intro _
      apply persist_meets hE
      apply Yields.pure
      intro v hv
      refine ⟨_, hv, recovers_mapForward hforward ?_, ?_⟩
      · exact ⟨rfl, fun h => by simp at h, Or.inl rfl, Or.inr ⟨rfl, rfl⟩⟩
      · intro f p hf hp
        simp only [State.mapForward, hforward, Option.map_some, Option.some.injEq] at hf
        rw [← hf] at hp
        simp at hp
    · intro hcancelled
      apply Yields.pure
      intro v hv
      refine ⟨s, hv, .refl s, ?_⟩
      intro f p hf hp
      rw [hforward, Option.some.injEq] at hf
      rw [← hf] at hp
      simpa [hp] using hcancelled

/-- Nothing stands in the way of the publication of the pending policy. -/
structure Publishable (m : Moment) (s : State) (f : ForwardRecord) (p : PendingPolicy) : Prop where
  candidate : s.candidate = none
  failures : f.pendingFailedPrefixes = none
  uncancelled : p.cancelled = false
  spec : s.spec.isSome = true
  recognized : Recognized m s

/-- The publication of a pending policy, by what stands in its way. -/
theorem reconcileLivePolicy_meets {p : PendingPolicy} (hforward : s.forward = some f)
    (hpending : f.pendingPolicy = some p) (hactive : f.phase = .active)
    (hlive : ownerIsLive f.owner now = true) :
    Triple (Stands w b s) (reconcileLivePolicy E now)
      (fun _ v => Stands w b (s.mapForward (·.publish p)) v ∧ Publishable (E.moment w.clock) s f p)
      (fun _ v => Stands w b s v ∧ ¬ Publishable (E.moment w.clock) s f p) K := by
  unfold reconcileLivePolicy
  apply currentState_meets
  rw [hforward]
  apply okOr_meets
  · rintro _ ⟨rfl⟩
    apply ensure_meets
    · intro _
      apply ensure_meets
      · rintro ⟨_, hcandidate, hfailures⟩
        rw [hpending]
        apply okOr_meets
        · rintro _ ⟨rfl⟩
          apply ensure_meets
          · intro huncancelled
            apply ownIdentity_meets hE
            · intro hspec hrecognized
              have hstage : Works w (inStage "live_policy_routes_firewall"
                  (call E (.updateLivePolicy f.declaration p.declaration
                    (retainedFailures f.failedPrefixes p.declaration)))) := .mapError _ (.call hE _)
              apply hstage.meets
              intro _
              exact (persist_works hE).post fun _ _ hv =>
                ⟨hv, hcandidate, hfailures, huncancelled, hspec, hrecognized⟩
            · intro e v hv
              by_cases h : s.spec.isSome = true ∧ Recognized (E.moment w.clock) s
              · exact Or.inr h
              · exact Or.inl ⟨hv, fun hp => h ⟨hp.spec, hp.recognized⟩⟩
          · exact fun h v hv => ⟨hv, fun hp => h hp.uncancelled⟩
        · exact fun h => absurd h (by simp)
      · exact fun h v hv => ⟨hv, fun hp => h ⟨hactive, hp.candidate, hp.failures⟩⟩
    · exact fun h => absurd hlive h
  · exact fun h => absurd h (by simp)

/-- A policy that is still pending of an owner that is live and current cannot be published. -/
def Unpublished (m : Moment) (now : ℕ) (s : State) : Prop :=
  ∀ f p, s.forward = some f → f.pendingPolicy = some p → f.phase = .active →
    Current m now s f → ¬ Publishable m s f p

theorem recoverPendingPolicy_rests :
    Yields (Stands w b s) (recoverPendingPolicy E now) (fun _ v => ∃ s₁, Stands w b s₁ v
      ∧ (Recovers s s₁ ∧ Unpublished (E.moment w.clock) now s₁)) := by
  -- nothing was tried, because the guards of the attempt do not hold
  have hidle : ∀ {f : ForwardRecord}, s.forward = some f →
      (¬ (f.pendingPolicy.isSome = true ∧ f.phase = .active ∧ ownerIsLive f.owner now = true)
        ∨ s.bootId ≠ (E.moment w.clock).bootId) → ∀ v, Stands w b s v → ∃ s₁, Stands w b s₁ v
      ∧ (Recovers s s₁ ∧ Unpublished (E.moment w.clock) now s₁) := by
    intro f hf h v hv
    refine ⟨s, hv, .refl s, ?_⟩
    intro f' p hf' hp hactive hcurrent
    rw [hf, Option.some.injEq] at hf'
    subst hf'
    rcases h with h | h
    · exact absurd ⟨by simp [hp], hactive, hcurrent.1⟩ h
    · exact absurd hcurrent.2 h
  unfold recoverPendingPolicy
  apply currentState_meets
  cases hforward : s.forward with
  | none =>
    apply Yields.pure
    intro v hv
    exact ⟨s, hv, .refl s, fun f p hf => by simp [hforward] at hf⟩
  | some forward =>
    apply Triple.ite
    · rintro ⟨hsome, hactive, hlive⟩
      obtain ⟨p, hpending⟩ := Option.isSome_iff_exists.mp hsome
      apply read_meets hE
      apply Triple.ite
      · intro _
        apply Triple.attempt_bind (reconcileLivePolicy_meets hE hforward hpending hactive hlive)
        · intro _
          apply Yields.pure
          rintro v ⟨hv, _⟩
          refine ⟨_, hv, recovers_mapForward hforward ?_, ?_⟩
          · exact ⟨rfl, fun _ => hactive, Or.inl rfl, Or.inr ⟨rfl, rfl⟩⟩
          · intro f p' hf hp
            simp only [State.mapForward, hforward, Option.map_some, Option.some.injEq] at hf
            rw [← hf] at hp
            simp [ForwardRecord.publish] at hp
        · intro _
          apply Yields.pure
          rintro v ⟨hv, hnot⟩
          refine ⟨s, hv, .refl s, ?_⟩
          intro f p' hf hp _ _
          rw [hforward, Option.some.injEq] at hf
          subst hf
          rw [hpending, Option.some.injEq] at hp
          exact hp ▸ hnot
      · intro hboot
        exact Yields.pure (hidle hforward (Or.inr hboot))
    · intro hguard
      exact Yields.pure (hidle hforward (Or.inl hguard))

/-- No failed prefixes of an owner that is live and current are left to install. -/
def FailuresSettled (m : Moment) (now : ℕ) (s : State) : Prop :=
  ∀ f, s.forward = some f → f.phase = .active → Current m now s f → f.pendingFailedPrefixes = none

theorem recoverPendingFailures_rests :
    Yields (Stands w b s) (recoverPendingFailures E now) (fun _ v => ∃ s₁, Stands w b s₁ v
      ∧ (Recovers s s₁ ∧ FailuresSettled (E.moment w.clock) now s₁)) := by
  have hidle : ∀ {f : ForwardRecord}, s.forward = some f →
      (f.phase = .active → Current (E.moment w.clock) now s f → f.pendingFailedPrefixes = none) →
      ∀ v, Stands w b s v → ∃ s₁, Stands w b s₁ v
        ∧ (Recovers s s₁ ∧ FailuresSettled (E.moment w.clock) now s₁) := by
    intro f hf h v hv
    refine ⟨s, hv, .refl s, ?_⟩
    intro f' hf' hactive hcurrent
    rw [hf, Option.some.injEq] at hf'
    subst hf'
    exact h hactive hcurrent
  unfold recoverPendingFailures
  apply currentState_meets
  cases hforward : s.forward with
  | none =>
    apply Yields.pure
    intro v hv
    exact ⟨s, hv, .refl s, fun f hf => by simp [hforward] at hf⟩
  | some forward =>
    apply Triple.ite
    · rintro ⟨hactive, _⟩
      apply read_meets hE
      apply Triple.ite
      · intro _
        cases hpending : forward.pendingFailedPrefixes with
        | none => exact Yields.pure (hidle hforward fun _ _ => hpending)
        | some target =>
          apply unwrap_meets _ fun _ _ _ => trivial
          intro spec _
          apply identity_meets hE _ fun _ _ _ => Or.inl trivial
          intro _ _ _ _
          apply Triple.attempt_bind (Works.call hE _ _ _ (fun _ _ => False) _)
          · intro _
            apply unwrap_meets _ fun _ _ _ => trivial
            intro revision _
            apply persist_meets hE
            apply Yields.pure
            intro v hv
            refine ⟨_, hv, recovers_mapForward hforward ?_, ?_⟩
            · exact ⟨rfl, fun _ => hactive, Or.inr rfl, Or.inl ⟨rfl, rfl⟩⟩
            · intro f hf _ _
              simp only [State.mapForward, hforward, Option.map_some, Option.some.injEq] at hf
              rw [← hf]
              rfl
          · -- the call works
            intro e v hv
            exact hv.elim
      · intro hboot
        exact Yields.pure (hidle hforward fun _ hcurrent => absurd hcurrent.2 hboot)
    · intro hguard
      exact Yields.pure (hidle hforward fun hactive hcurrent =>
        absurd ⟨hactive, hcurrent.1⟩ hguard)

/-- The cancellation of a pending policy is written in front of its fencing. -/
theorem cancel_works {r fenced : ForwardRecord} (hforward : s.forward = some r)
    (hfenced : fenced = { r with
      pendingPolicy := r.pendingPolicy.map fun p => { p with cancelled := true } }) :
    Triple (Stands w b s) (when (r.pendingPolicy.isSome) (persist E { s with forward := some fenced }))
      (fun _ => Stands w b { s with forward := some fenced }) C K := by
  apply Triple.when
  · intro _
    exact persist_works hE
  · intro hpolicy
    have hnone : r.pendingPolicy = none := by simpa using hpolicy
    have hsame : { s with forward := some fenced } = s := by
      rw [hfenced, hnone, Option.map_none, ← hnone, ← hforward]
    rw [hsame]
    exact fun _ hv => hv

theorem expire_works {forward : ForwardRecord} (hforward : s.forward = some forward) :
    Triple (Stands w b s) (expire E forward)
      (fun _ => Stands w b { s with forward := some forward.revoke }) C K := by
  unfold expire
  apply currentState_meets
  apply (cancel_works hE hforward rfl).bind
  intro _
  apply (fencePolicyIntent_works hE _).meets
  intro _
  apply currentState_meets
  exact persist_works hE

theorem recoverOwner_rests {recovered : Bool} :
    Yields (Stands w b s) (recoverOwner E now recovered) (fun _ v => ∃ s₁, Stands w false s₁ v
      ∧ (Recovers s s₁ ∧ ∀ f, s₁.forward = some f → f.phase ≠ .revoked →
        Current (E.moment w.clock) now s₁ f)) := by
  have hdone : ∀ {b : Bool} {s₁ : State} (value : Bool), Recovers s s₁ →
      (∀ f, s₁.forward = some f → f.phase ≠ .revoked → Current (E.moment w.clock) now s₁ f) →
      Yields (Stands w b s₁) (do
        setRestartRecoveryPending false
        return value) (fun _ v => ∃ s₁, Stands w false s₁ v ∧ (Recovers s s₁
          ∧ ∀ f, s₁.forward = some f → f.phase ≠ .revoked → Current (E.moment w.clock) now s₁ f)) := by
    intro b s₁ value hrec hcurrent
    apply setRestartRecoveryPending_meets
    apply Yields.pure
    exact fun v hv => ⟨s₁, hv, hrec, hcurrent⟩
  unfold recoverOwner
  apply get_meets
  intro v₀ hv₀
  rw [hv₀.state]
  cases hforward : s.forward with
  | none => exact hdone _ (.refl s) fun f hf => by simp [hforward] at hf
  | some forward =>
    have honly : ∀ {p : ForwardRecord → Prop}, p forward → ∀ f, s.forward = some f → p f := by
      intro p hp f hf
      rw [hforward, Option.some.injEq] at hf
      exact hf ▸ hp
    apply Triple.ite
    · intro hrevoked
      exact hdone _ (.refl s) (honly fun h => absurd hrevoked h)
    · intro _
      apply read_meets hE
      apply Triple.ite
      · rintro ⟨_, hboot, hlive⟩
        apply (Works.call hE _).meets
        intro _
        exact hdone _ (.refl s) (honly fun _ => ⟨hlive, by simpa using hboot⟩)
      · intro _
        apply Triple.ite
        · rintro ⟨_, hboot, hlive⟩
          exact hdone _ (.refl s) (honly fun _ => ⟨hlive, by simpa using hboot⟩)
        · intro _
          apply Yields.bind (expire_works hE hforward)
          intro _
          refine hdone _ ⟨rfl, rfl, rfl, rfl, rfl, ?_, Or.inl rfl⟩ ?_
          · rw [hforward]
            exact .some ⟨rfl, fun h => by simp [ForwardRecord.revoke] at h, Or.inl rfl,
              Or.inl ⟨rfl, rfl⟩⟩
          · rintro f ⟨rfl⟩ hphase
            exact absurd rfl hphase

/-! ## Recovery as a whole -/

omit hE in
theorem completed_created (m : Moment) : (s.completed m).creationPending = false := by
  unfold State.completed
  split
  · rfl
  · next h => simpa using h

omit hE in
theorem completed_records (m : Moment) :
    (s.completed m).forward = s.forward ∧ (s.completed m).candidate = s.candidate := by
  unfold State.completed
  split <;> exact ⟨rfl, rfl⟩

omit hE in
theorem Apart.completed (h : Apart s) (m : Moment) : Apart (s.completed m) := by
  obtain ⟨hforward, hcandidate⟩ := completed_records (s := s) m
  constructor
  · unfold Shaped
    rw [hcandidate]
    exact h.shaped
  · rw [hforward, hcandidate]
    exact h.candidate
  · rw [hforward, hcandidate]
    exact h.policy
  · rw [hforward]
    exact h.paired

omit hE in
/-- What is still retained of a current owner after all steps cannot be worked on. -/
theorem rested_of_steps {m : Moment} {s₁ s₂ s₃ s₄ : State} (hcreated : s.creationPending = false)
    (hapart : Apart s₁) (hwaiting : Waiting now s₁) (h₂ : Recovers s₁ s₂) (huncancelled : Uncancelled s₂)
    (h₃ : Recovers s₂ s₃) (hunpublished : Unpublished m now s₃) (h₄ : Recovers s₃ s₄)
    (hsettled : FailuresSettled m now s₄) {s₅ : State} (h₅ : Recovers s₄ s₅)
    (hcurrent : ∀ f, s₅.forward = some f → f.phase ≠ .revoked → Current m now s₅ f)
    (hall : Recovers s s₅) : Rested m now s₅ where
  created := hall.creationPending.trans hcreated
  waiting := hwaiting.recovers (((h₂.trans h₃).trans h₄).trans h₅)
  uncancelled := huncancelled.recovers ((h₃.trans h₄).trans h₅)
  current := hcurrent
  idle := by
    intro f₅ hf₅ hactive
    have hnow := hcurrent f₅ hf₅ (by simp [hactive])
    obtain ⟨f₄, hf₄, hw₅⟩ := h₅.record hf₅
    obtain ⟨f₃, hf₃, hw₄⟩ := h₄.record hf₄
    have hnow₄ : Current m now s₄ f₄ := ⟨hw₅.owner ▸ hnow.1, h₅.bootId ▸ hnow.2⟩
    have hnow₃ : Current m now s₃ f₃ := ⟨hw₄.owner ▸ hnow₄.1, h₄.bootId ▸ hnow₄.2⟩
    constructor
    · rcases hw₅.failures with h | h
      · exact h.1
      · rw [h.1]
        exact hsettled f₄ hf₄ (hw₅.active hactive) hnow₄
    · -- the publication was tried, and only the device can have stood in its way
      intro hpending hidentified
      have hsame : f₅.pendingPolicy = f₃.pendingPolicy := by
        have h₅' := hw₅.policy.resolve_left hpending
        rw [h₅'] at hpending ⊢
        exact hw₄.policy.resolve_left hpending
      rw [hsame] at hpending
      obtain ⟨p, hp⟩ := Option.ne_none_iff_exists'.mp hpending
      have hapart₃ := (hapart.recovers h₂).recovers h₃
      obtain ⟨hcandidate, hfailures⟩ := hapart₃.policy f₃ hf₃ hpending
      have hdevice := (h₄.trans h₅).recognized (m := m)
      refine hunpublished f₃ p hf₃ hp (hw₄.active (hw₅.active hactive)) hnow₃
        ⟨hcandidate, hfailures, huncancelled.recovers h₃ f₃ p hf₃ hp, ?_, ?_⟩
      · rw [← (h₄.trans h₅).spec]
        exact hidentified.1
      · exact hdevice.mp hidentified.2

theorem recoverExpired_rests (hapart : Apart s) :
    Yields (Stands w b s) (recoverExpired E now) (fun _ v => ∃ s₁, Stands w false s₁ v
      ∧ (Recovers (s.completed (E.moment w.clock)) s₁ ∧ Rested (E.moment w.clock) now s₁)) := by
  have hcreated := completed_created (s := s) (E.moment w.clock)
  have hapart₀ := hapart.completed (E.moment w.clock)
  unfold recoverExpired
  apply (completeCreation_yields hE).bind
  intro _
  apply (recoverCandidate_rests hE).bind
  intro _
  apply Triple.exists_pre
  intro s₁
  apply Triple.and_pre
  rintro ⟨h₁, hwaiting⟩
  apply (recoverCancelledPolicy_rests hE).bind
  intro _
  apply Triple.exists_pre
  intro s₂
  apply Triple.and_pre
  rintro ⟨h₂, huncancelled⟩
  apply (recoverPendingPolicy_rests hE).bind
  intro _
  apply Triple.exists_pre
  intro s₃
  apply Triple.and_pre
  rintro ⟨h₃, hunpublished⟩
  apply (recoverPendingFailures_rests hE).bind
  intro _
  apply Triple.exists_pre
  intro s₄
  apply Triple.and_pre
  rintro ⟨h₄, hsettled⟩
  apply (recoverOwner_rests hE).post
  rintro _ v ⟨s₅, hv, h₅, hcurrent⟩
  have hall := (((h₁.trans h₂).trans h₃).trans h₄).trans h₅
  exact ⟨s₅, hv, hall, rested_of_steps hcreated (hapart₀.recovers h₁) hwaiting h₂ huncancelled h₃
    hunpublished h₄ hsettled h₅ hcurrent hall⟩

/-! ## A rested state -/

variable (hrested : Rested (E.moment w.clock) now s)
include hrested

omit hE in
theorem completeCreation_rested :
    Delivers (Stands w b s) (completeCreation E) (fun _ => Stands w b s) := by
  unfold completeCreation
  apply currentState_meets
  exact Delivers.when_false (by simp [hrested.created]) fun _ hv => hv

omit hE in
theorem recoverCandidate_rested :
    Delivers (Stands w false s) (recoverCandidate E now) (fun _ => Stands w false s) := by
  unfold recoverCandidate
  apply currentState_meets
  cases hcandidate : s.candidate with
  | none => exact Delivers.pure fun _ hv => hv
  | some candidate =>
    obtain ⟨hphase, hlive⟩ := hrested.waiting candidate hcandidate
    show Delivers _ (if candidate.phase = .preparing then _ else _) _
    rw [if_neg hphase]
    apply get_meets
    intro v₀ hv₀
    rw [if_neg]
    · exact Delivers.pure fun _ hv => hv
    · simp [hv₀.recovering, hlive]

omit hE in
theorem recoverCancelledPolicy_rested :
    Delivers (Stands w b s) (recoverCancelledPolicy E) (fun _ => Stands w b s) := by
  unfold recoverCancelledPolicy
  apply currentState_meets
  cases hforward : s.forward with
  | none => exact Delivers.pure fun _ hv => hv
  | some forward =>
    have hnot : forward.pendingPolicy.any (·.cancelled) = false := by
      cases hp : forward.pendingPolicy with
      | none => rfl
      | some p => exact hrested.uncancelled forward p hforward hp
    show Delivers _ (if forward.pendingPolicy.any (·.cancelled) = true then _ else _) _
    rw [if_neg (by simp [hnot])]
    exact Delivers.pure fun _ hv => hv

theorem recoverPendingPolicy_rested :
    Delivers (Stands w b s) (recoverPendingPolicy E now) (fun _ => Stands w b s) := by
  unfold recoverPendingPolicy
  apply currentState_meets
  cases hforward : s.forward with
  | none => exact Delivers.pure fun _ hv => hv
  | some forward =>
    apply Triple.ite
    · rintro ⟨hsome, hactive, hlive⟩
      obtain ⟨p, hpending⟩ := Option.isSome_iff_exists.mp hsome
      apply read_meets hE
      apply Triple.ite
      · intro _
        apply Triple.attempt_bind (reconcileLivePolicy_meets hE hforward hpending hactive hlive)
        · -- it would have been published before
          rintro _ v ⟨_, hpublishable⟩
          exact absurd ⟨hpublishable.spec, hpublishable.recognized⟩
            ((hrested.idle forward hforward hactive).unpublished (by simp [hpending]))
        · intro _
          exact Delivers.pure fun _ hv => hv.1
      · intro _
        exact Delivers.pure fun _ hv => hv
    · intro _
      exact Delivers.pure fun _ hv => hv

theorem recoverPendingFailures_rested :
    Delivers (Stands w b s) (recoverPendingFailures E now) (fun _ => Stands w b s) := by
  unfold recoverPendingFailures
  apply currentState_meets
  cases hforward : s.forward with
  | none => exact Delivers.pure fun _ hv => hv
  | some forward =>
    apply Triple.ite
    · rintro ⟨hactive, _⟩
      apply read_meets hE
      apply Triple.ite
      · intro _
        rw [(hrested.idle forward hforward hactive).settled]
        exact Delivers.pure fun _ hv => hv
      · intro _
        exact Delivers.pure fun _ hv => hv
    · intro _
      exact Delivers.pure fun _ hv => hv

theorem recoverOwner_rested {recovered : Bool} :
    Delivers (Stands w false s) (recoverOwner E now recovered) (fun _ => Stands w false s) := by
  have hdone : ∀ value : Bool, Delivers (Stands w false s) (do
      setRestartRecoveryPending false
      return value : Svc Bool) (fun _ => Stands w false s) := fun value =>
    setRestartRecoveryPending_meets false (Delivers.pure fun _ hv => hv)
  unfold recoverOwner
  apply get_meets
  intro v₀ hv₀
  rw [hv₀.state]
  cases hforward : s.forward with
  | none => exact hdone _
  | some forward =>
    apply Triple.ite
    · intro _
      exact hdone _
    · intro hphase
      obtain ⟨hlive, hboot⟩ := hrested.current forward hforward hphase
      apply read_meets hE
      apply Triple.ite
      · intro _
        apply (Works.call hE _).meets
        intro _
        exact hdone _
      · intro _
        apply Triple.ite
        · intro _
          exact hdone _
        · intro hexpired
          exact absurd ⟨by simp [hv₀.recovering], by simpa using hboot, hlive⟩ hexpired

/-- Recovery leaves a rested state alone. -/
theorem recoverExpired_rested :
    Delivers (Stands w false s) (recoverExpired E now) (fun _ => Stands w false s) := by
  unfold recoverExpired
  apply (completeCreation_rested hrested).bind
  intro _
  apply (recoverCandidate_rested hrested).bind
  intro _
  apply (recoverCancelledPolicy_rested hrested).bind
  intro _
  apply (recoverPendingPolicy_rested hE hrested).bind
  intro _
  apply (recoverPendingFailures_rested hE hrested).bind
  intro _
  exact recoverOwner_rested hE hrested

end Steps

end CandyRuntime.NetdV2
