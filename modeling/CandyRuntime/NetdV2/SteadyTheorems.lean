import CandyRuntime.Lib.Success
import CandyRuntime.NetdV2.FencingTheorems

/-!
# The v2 service on a host that stays as it is

When every call works and meets the same host, a program of the service is a function of the
state in memory, and `Stands` is what its rules carry along. `Apart` is what every reachable
state says about the pieces of work it retains.
-/

namespace CandyRuntime.NetdV2

open Lib Lib.Proc NetdProto NetdV1

variable {e : InfrastructureError} {c : Prop}

/-! ## A steady host -/

/-- From the moment `n` on every call works and meets the same host. -/
structure Steady (E : Surroundings) (n : ℕ) : Prop where
  works : (E.moment n).fate = .ok
  same : ∀ m, n ≤ m → E.moment m = E.moment n

/-- The service `v` is `w` at a later moment, with the state `s` in memory. -/
structure Stands (w : InfrastructureService) (recovering : Bool) (s : State)
    (v : InfrastructureService) : Prop where
  state : v.state = s
  recovering : v.restartRecoveryPending = recovering
  clock : w.clock ≤ v.clock
  uid : v.allowedUid = w.allowedUid
  gid : v.allowedGid = w.allowedGid

theorem Stands.refl (w : InfrastructureService) :
    Stands w w.restartRecoveryPending w.state w :=
  ⟨rfl, rfl, Nat.le_refl _, rfl, rfl⟩

/-- A program that always works, and leaves memory alone. -/
def Works (w : InfrastructureService) {α : Type} (m : Svc α) : Prop :=
  ∀ b s (C : InfrastructureError → InfrastructureService → Prop) (K : InfrastructureService → Prop),
    Triple (Stands w b s) m (fun _ => Stands w b s) C K

variable {E : Surroundings} {α β : Type} {w : InfrastructureService}

section Rules

variable {b : Bool} {s s' : State} {Q : β → InfrastructureService → Prop}
  {C : InfrastructureError → InfrastructureService → Prop} {K : InfrastructureService → Prop}

theorem currentState_meets {f : State → Svc β} (hf : Triple (Stands w b s) (f s) Q C K) :
    Triple (Stands w b s) (currentState >>= f) Q C K := by
  intro v hv
  rw [wp_bind]
  change wp (f v.state) _ _ _ v
  rw [hv.state]
  exact hf v hv

theorem get_meets {f : InfrastructureService → Svc β}
    (hf : ∀ v, Stands w b s v → Triple (Stands w b s) (f v) Q C K) :
    Triple (Stands w b s) (get >>= f) Q C K := by
  intro v hv
  rw [wp_bind, wp_get]
  exact hf v hv v hv

theorem setLifecycleFd_meets (held : Bool) {f : Unit → Svc β}
    (hf : Triple (Stands w b s) (f ()) Q C K) :
    Triple (Stands w b s) (setLifecycleFd held >>= f) Q C K := by
  intro v hv
  rw [wp_bind]
  exact hf _ ⟨hv.state, hv.recovering, hv.clock, hv.uid, hv.gid⟩

theorem setRestartRecoveryPending_meets (pending : Bool) {f : Unit → Svc β}
    (hf : Triple (Stands w pending s) (f ()) Q C K) :
    Triple (Stands w b s) (setRestartRecoveryPending pending >>= f) Q C K := by
  intro v hv
  rw [wp_bind]
  exact hf _ ⟨hv.state, rfl, hv.clock, hv.uid, hv.gid⟩

theorem unwrap_meets {o : Option α} {f : α → Svc β}
    (hf : ∀ a, o = some a → Triple (Stands w b s) (f a) Q C K)
    (hnone : o = none → ∀ v, Stands w b s v → K v) :
    Triple (Stands w b s) (unwrap o >>= f) Q C K := by
  intro v hv
  rw [wp_bind]
  cases o with
  | none => exact hnone rfl v hv
  | some a => exact hf a rfl v hv

/-- What always works is run through. -/
theorem Works.meets {m : Svc α} (hm : Works w m) {f : α → Svc β}
    (hf : ∀ a, Triple (Stands w b s) (f a) Q C K) : Triple (Stands w b s) (m >>= f) Q C K :=
  (hm b s C K).bind hf

variable (hE : Steady E w.clock)
include hE

theorem read_meets {f : Moment → α} {g : α → Svc β}
    (hg : Triple (Stands w b s) (g (f (E.moment w.clock))) Q C K) :
    Triple (Stands w b s) (read E f e >>= g) Q C K := by
  intro v hv
  have hread : read E f e v = (.ok (f (E.moment w.clock)), { v with clock := v.clock + 1 }) := by
    unfold read
    rw [hE.same v.clock hv.clock, hE.works]
  rw [wp_bind_of_eq hread]
  exact hg _ ⟨hv.state, hv.recovering, Nat.le_succ_of_le hv.clock, hv.uid, hv.gid⟩

theorem persist_meets {f : Unit → Svc β} (hf : Triple (Stands w b s') (f ()) Q C K) :
    Triple (Stands w b s) (persist E s' >>= f) Q C K := by
  intro v hv
  have hpersist : persist E s' v
      = (.ok (), { v with clock := v.clock + 1, stored := some s', state := s' }) := by
    have hstore : store E s' v = (.ok (), { v with clock := v.clock + 1, stored := some s' }) := by
      unfold store
      rw [hE.same v.clock hv.clock, hE.works]
    rw [persist, bind_of_ok hstore]
    rfl
  rw [wp_bind_of_eq hpersist]
  exact hf _ ⟨rfl, hv.recovering, Nat.le_succ_of_le hv.clock, hv.uid, hv.gid⟩

theorem persist_works : Triple (Stands w b s) (persist E s') (fun _ => Stands w b s') C K := by
  intro v hv
  have hdone : Triple (Stands w b s') (Pure.pure () : Svc Unit) (fun _ => Stands w b s') C K :=
    Triple.pure fun _ hw => hw
  have h := persist_meets (b := b) (s := s) hE hdone v hv
  rw [wp_bind] at h
  exact h

end Rules

/-! ## Programs that always work -/

namespace Works

protected theorem currentState : Works w currentState := by
  intro b s C K v hv
  change Stands w b s v
  exact hv

protected theorem pure (a : α) : Works w (Pure.pure a : Svc α) :=
  fun _ _ _ _ => Triple.pure fun _ hv => hv

protected theorem bind {m : Svc α} {f : α → Svc β} (hm : Works w m) (hf : ∀ a, Works w (f a)) :
    Works w (m >>= f) :=
  fun b s C K => (hm b s C K).bind fun a => hf a b s C K

protected theorem ite [Decidable c] {m m' : Svc α} (hm : Works w m) (hm' : Works w m') :
    Works w (if c then m else m') :=
  fun b s C K => Triple.ite (fun _ => hm b s C K) fun _ => hm' b s C K

protected theorem when [Decidable c] {m : Svc Unit} (hm : Works w m) :
    Works w (when c m) :=
  Works.ite hm (.pure ())

protected theorem mapError (f : InfrastructureError → InfrastructureError) {m : Svc α}
    (hm : Works w m) : Works w (mapError f m) :=
  fun b s C K => (hm b s (fun e v => C (f e) v) K).mapError fun _ _ h => h

/-- What works needs no handler. -/
protected theorem handle {m : Svc α} {h : InfrastructureError → Svc α} (hm : Works w m) :
    Works w (handle m h) :=
  fun b s _ K => (hm b s (fun _ _ => False) K).handle fun _ _ hv => hv.elim

protected theorem read (hE : Steady E w.clock) (f : Moment → α) (e : InfrastructureError) :
    Works w (read E f e) := by
  intro b s C K v hv
  have h := read_meets hE (f := f) (e := e) (g := fun a => (Pure.pure a : Svc α))
    (Q := fun _ => Stands w b s) (C := C) (K := K) (Triple.pure fun _ hw => hw) v hv
  rw [wp_bind] at h
  exact h

protected theorem call (hE : Steady E w.clock) (c : BackendCall) : Works w (call E c) := by
  intro b s C K v hv
  have hcall : call E c v
      = (.ok (), { v with clock := v.clock + 1, kernel := v.kernel.after c.writes }) := by
    unfold call
    rw [hE.same v.clock hv.clock, hE.works]
  rw [wp, hcall]
  exact ⟨hv.state, hv.recovering, Nat.le_succ_of_le hv.clock, hv.uid, hv.gid⟩

end Works

theorem fencePolicyIntent_works (hE : Steady E w.clock) (forward : ForwardRecord) :
    Works w (fencePolicyIntent E forward) := by
  unfold fencePolicyIntent
  apply (Works.call hE _).bind
  intro _
  cases forward.pendingPolicy with
  | none => exact .call hE _
  | some pending =>
    exact (Works.when (.call hE _)).bind fun _ => (Works.call hE _).bind fun _ => .call hE _

theorem installReplacement_works (hE : Steady E w.clock) (previous candidate : ForwardRecord)
    (sysctls : List SysctlChange) : Works w (installReplacement E previous candidate sysctls) := by
  have hstage : ∀ stage c, Works w (inStage stage (call E c)) := fun _ c => .mapError _ (.call hE c)
  have hguard : Works w (guardReplacement E previous candidate) :=
    .ite (hstage _ _) ((hstage _ _).bind fun _ => hstage _ _)
  exact hguard.bind fun _ => (hstage _ _).bind fun _ => (hstage _ _).bind fun _ =>
    (hstage _ _).bind fun _ => (hstage _ _).bind fun _ => hstage _ _

theorem validateForwardingReplacement_works (hE : Steady E w.clock) :
    Works w (validateForwardingReplacement E) :=
  .read hE _ _

/-! ## The device -/

/-- The host has the device of the state, with its marker. -/
structure Recognized (m : Moment) (s : State) : Prop where
  interface : m.interface = s.ifindex
  stamped : s.ownershipMarker ≠ none
  marker : m.marker = s.ownershipMarker

section Device

variable {b : Bool} {s : State} {Q : β → InfrastructureService → Prop}
  {C : InfrastructureError → InfrastructureService → Prop} {K : InfrastructureService → Prop}
  (hE : Steady E w.clock)

theorem ensure_meets [Decidable c] {f : Unit → Svc β}
    (hf : c → Triple (Stands w b s) (f ()) Q C K) (he : ¬ c → ∀ v, Stands w b s v → C e v) :
    Triple (Stands w b s) (ensure c e >>= f) Q C K := by
  intro v hv
  rw [wp_bind, wp_ensure]
  exact ⟨fun hc => hf hc v hv, fun hc => he hc v hv⟩

theorem okOr_meets {o : Option α} {f : α → Svc β}
    (hf : ∀ a, o = some a → Triple (Stands w b s) (f a) Q C K)
    (he : o = none → ∀ v, Stands w b s v → C e v) :
    Triple (Stands w b s) (okOr o e >>= f) Q C K := by
  intro v hv
  rw [wp_bind, wp_okOr]
  exact ⟨fun a ha => hf a ha v hv, fun hnone => he hnone v hv⟩

include hE

theorem identity_meets {infraId : InstanceId} {generation : ℕ} {f : InfraSpec → Svc β}
    (hf : ∀ spec, s.spec = some spec → spec.infraId = infraId ∧ spec.generation = generation →
      Recognized (E.moment w.clock) s → Triple (Stands w b s) (f spec) Q C K)
    (he : ∀ e v, Stands w b s v → C e v ∨ ∃ spec, s.spec = some spec
      ∧ (spec.infraId = infraId ∧ spec.generation = generation)
      ∧ Recognized (E.moment w.clock) s) :
    Triple (Stands w b s) (identity E infraId generation >>= f) Q C K := by
  -- the error of a check is only looked at when one of the three facts fails
  have hfail : ∀ {p : Prop}, ((∃ spec, s.spec = some spec
      ∧ (spec.infraId = infraId ∧ spec.generation = generation)
      ∧ Recognized (E.moment w.clock) s) → p) → ¬ p → ∀ e v, Stands w b s v → C e v := by
    intro p hp hnot e v hv
    rcases he e v hv with h | h
    · exact h
    · exact absurd (hp h) hnot
  unfold identity verifyDeviceOwnership
  simp only [Proc.bind_assoc, Proc.pure_bind]
  apply currentState_meets
  apply okOr_meets
  · intro spec hspec
    apply ensure_meets
    · intro hids
      apply read_meets hE
      apply ensure_meets
      · intro hinterface
        apply currentState_meets
        apply ensure_meets
        · intro hstamped
          apply read_meets hE
          apply ensure_meets
          · intro hmarker
            exact hf spec hspec hids ⟨hinterface, hstamped, hmarker⟩
          · exact fun h => hfail (fun hall => hall.choose_spec.2.2.marker) h _
        · exact fun h => hfail (fun hall => hall.choose_spec.2.2.stamped) h _
      · exact fun h => hfail (fun hall => hall.choose_spec.2.2.interface) h _
    · intro h
      refine hfail (fun hall => ?_) h _
      obtain ⟨spec', hspec', hids, _⟩ := hall
      rw [hspec, Option.some.injEq] at hspec'
      rw [hspec']
      exact hids
  · intro h
    exact hfail (p := s.spec.isSome = true) (fun hall => by rw [hall.choose_spec.1]; rfl)
      (by simp [h]) _

/-- Asking for the retained identity asks for the device only. -/
theorem ownIdentity_meets {f : Unit → Svc β}
    (hf : s.spec.isSome = true → Recognized (E.moment w.clock) s →
      Triple (Stands w b s) (f ()) Q C K)
    (he : ∀ e v, Stands w b s v →
      C e v ∨ (s.spec.isSome = true ∧ Recognized (E.moment w.clock) s)) :
    Triple (Stands w b s) (ownIdentity E >>= f) Q C K := by
  unfold ownIdentity
  simp only [Proc.bind_assoc, Proc.pure_bind]
  apply currentState_meets
  apply okOr_meets
  · intro spec hspec
    apply identity_meets hE
    · intro _ _ _ hr
      exact hf (by simp [hspec]) hr
    · intro e v hv
      rcases he e v hv with h | h
      · exact Or.inl h
      · exact Or.inr ⟨spec, hspec, ⟨rfl, rfl⟩, h.2⟩
  · intro h v hv
    rcases he _ v hv with h' | h'
    · exact h'
    · simp [h] at h'

end Device

/-! ## Separate work -/

/-- The pieces of work a state retains keep out of each other's way, and a candidate is younger
than the record it would replace. -/
structure Apart (s : State) : Prop where
  shaped : Shaped s
  candidate : ∀ c, s.candidate = some c → c.pendingPolicy = none ∧ c.pendingFailedPrefixes = none
    ∧ c.pendingFailureRevision = none
    ∧ ∃ f, s.forward = some f ∧ f.owner.fencingToken < c.owner.fencingToken
  policy : ∀ f, s.forward = some f → f.pendingPolicy ≠ none →
    s.candidate = none ∧ f.pendingFailedPrefixes = none
  paired : ∀ f, s.forward = some f → f.pendingFailedPrefixes = none →
    f.pendingFailureRevision = none

theorem apart_default : Apart .default := by
  constructor <;> simp [Shaped, State.default]

theorem PreparedChange.pending {r r' : ForwardRecord} (h : PreparedChange r r') :
    r'.pendingPolicy = r.pendingPolicy ∧ r'.pendingFailedPrefixes = r.pendingFailedPrefixes
      ∧ r'.pendingFailureRevision = r.pendingFailureRevision := by
  cases h <;> exact ⟨rfl, rfl, rfl⟩

/-- No change of the forward record brings two pieces of work together. -/
theorem ForwardChange.apart {op : Option Operation} {candidate : Bool} {r r' : ForwardRecord}
    (h : ForwardChange op candidate r r')
    (hpolicy : r.pendingPolicy ≠ none →
      candidate = false ∧ r.pendingFailedPrefixes = none)
    (hpaired : r.pendingFailedPrefixes = none → r.pendingFailureRevision = none) :
    (r'.pendingPolicy ≠ none → candidate = false ∧ r'.pendingFailedPrefixes = none)
      ∧ (r'.pendingFailedPrefixes = none → r'.pendingFailureRevision = none) := by
  cases h with
  | whilePrepared r' h =>
    obtain ⟨hp, hf, hr⟩ := h.pending
    rw [hp, hf, hr]
    exact ⟨hpolicy, hpaired⟩
  | _ => simp_all [ForwardRecord.settleFailures, ForwardRecord.publish, ForwardRecord.revoke]

section Stable

variable {op : Option Operation} {lo n : ℕ} {s s' : State}

theorem Apart.change (h : Apart s) (hchange : Change E op lo n s s') : Apart s' := by
  obtain ⟨hshaped, hcandidate, hpolicy, hpaired⟩ := h
  cases hchange with
  | created => exact ⟨hshaped, hcandidate, hpolicy, hpaired⟩
  | ensured => exact ⟨hshaped, hcandidate, hpolicy, hpaired⟩
  | acquired => exact ⟨hshaped, hcandidate, hpolicy, hpaired⟩
  | released => exact ⟨hshaped, hcandidate, hpolicy, hpaired⟩
  | repaired spec marker bootId hop hmissing hunheld =>
    constructor <;> simp [Shaped, State.mapForward] <;> grind
  | retired => exact apart_default
  | preparing => constructor <;> simp [Shaped, ForwardRecord.accepted] <;> grind
  | retried => constructor <;> simp [Shaped, ForwardRecord.accepted] <;> grind
  | admitted _ _ previous owner declaration _ hsome hno hadmitted hnone howner hvalid =>
    have htoken := hadmitted.fencingToken
    constructor <;> simp [Shaped, ForwardRecord.accepted] <;> grind
  | dropped => constructor <;> simp [Shaped] <;> grind
  | intended candidate previous hsome hprevious =>
    constructor <;> simp [Shaped] <;> grind
  | committed operation candidate previous hop hcommits hsome hprevious =>
    constructor <;> simp [Shaped] <;> grind
  | rolledBack candidate previous kept hsome hprevious hkept =>
    constructor <;> simp [Shaped] <;> grind
  | withdrawn r hsome => constructor <;> simp [Shaped, ForwardRecord.revoke]
  | forwarding r r' hsome h =>
    have htoken := h.renews.fencingToken
    have hnone : s.candidate.isSome = false ↔ s.candidate = none := by simp
    have hapart := h.apart (fun hp => ⟨hnone.mpr (hpolicy r hsome hp).1, (hpolicy r hsome hp).2⟩)
      (hpaired r hsome)
    constructor <;> simp [Shaped] <;> grind [Shaped]
  | candidacy r r' hsome h =>
    have howner := h.owner
    have hphase := h.phase
    have hpending := h.pending
    constructor <;> simp [Shaped] <;> grind [Shaped]

theorem stable_apart : Stable E op lo (fun _ => Apart) where
  mono := fun _ h => h
  change := fun _ h hchange => h.change hchange
  shaped := fun h => h.shaped

end Stable

/-- In every state of every run. -/
theorem holds_apart (h : Reachable E (fun _ _ _ => True) w) : Holds (fun _ => Apart) w := by
  obtain ⟨uid, gid, hrun⟩ := h
  refine reachable_induction hrun (keeps_fresh apart_default) ?_
  rintro v v' hv ⟨event, hstep, _⟩
  exact hv.step hstep stable_apart

end CandyRuntime.NetdV2
