import CandyRuntime.NetdV2.FencingTheorems

/-!
# The effective policy generation of the v2 service

`ForwardPolicyUpdate` compares the generation it is given with the effective one: the
generation of the last live update, or the signed generation of the owner if there was none.
`ForwardPrepare` compares signed generations only, and a committed candidate starts without a
live update. The effective generation never goes back in the runs in which every commit of a
candidate brings a signed generation that is not below the effective one; a commit that does
not, takes it back.
-/

namespace CandyRuntime.NetdV2

open Lib Lib.Proc NetdProto NetdV1

variable {w w' : InfrastructureService} {r r' : ForwardRecord}

/-! ## Changes of one record -/

/-- A policy intent never lies behind the effective generation. -/
def Dated (r : ForwardRecord) : Prop :=
  ∀ p, r.pendingPolicy = some p → r.generation ≤ p.generation

theorem ForwardChange.dated {op : Option Operation} {candidate : Bool}
    (h : ForwardChange op candidate r r') (hr : Dated r) :
    Dated r' ∧ r.generation ≤ r'.generation := by
  have hrenews := h.renews.signedGeneration
  cases h with
  | whilePrepared r' h =>
    cases h with
    | authorized => exact ⟨hr, Nat.le_refl _⟩
    | failures => exact ⟨hr, Nat.le_refl _⟩
  | cancelled p hpolicy =>
    refine ⟨?_, Nat.le_refl _⟩
    intro q hq
    cases hq
    exact hr p hpolicy
  | renewed owner hvalid howner hphase =>
    have hsame : ({ r with owner } : ForwardRecord).generation = r.generation := by
      simp only [ForwardRecord.generation]
      rw [hrenews]
    refine ⟨?_, hsame.ge⟩
    intro p hp
    rw [hsame]
    exact hr p hp
  | policyRecorded revision generation hash hphase hrevision hgeneration hhash hcandidate hpolicy =>
    refine ⟨?_, hgeneration⟩
    intro p hp
    exact absurd (hpolicy.symm.trans hp) (by simp)
  | policyIntended owner p hop hphase hcandidate hfailures hvalid hidentity hrevision hgeneration
      hhash =>
    refine ⟨?_, Nat.le_refl _⟩
    intro q hq
    cases hq
    exact hgeneration
  | policyPublished p hpolicy hphase hcandidate hfailures =>
    refine ⟨?_, hr p hpolicy⟩
    intro q hq
    exact absurd hq (by simp [ForwardRecord.publish])
  | fenced => exact ⟨fun p hp => absurd hp (by simp), Nat.le_refl _⟩
  | revoked => exact ⟨fun p hp => absurd hp (by simp [ForwardRecord.revoke]), Nat.le_refl _⟩
  | _ => exact ⟨hr, Nat.le_refl _⟩

/-- With a candidate, no change of the forward record touches its generation. -/
theorem ForwardChange.generation_eq {op : Option Operation} (h : ForwardChange op true r r') :
    r'.generation = r.generation := by
  have hrenews := h.renews.signedGeneration
  cases h with
  | whilePrepared r' h => cases h <;> rfl
  | renewed owner hvalid howner hphase =>
    simp only [ForwardRecord.generation]
    rw [hrenews]
  | policyRecorded revision generation hash hphase hrevision hgeneration hhash hcandidate hpolicy =>
    exact absurd hcandidate (by simp)
  | policyPublished p hpolicy hphase hcandidate hfailures => exact absurd hcandidate (by simp)
  | _ => rfl

/-- A record in preparation has seen no live update. -/
theorem ForwardChange.unpublished {op : Option Operation} {candidate : Bool}
    (h : ForwardChange op candidate r r') (hr' : r'.phase = .preparing) :
    r'.policyGeneration = r.policyGeneration := by
  cases h with
  | whilePrepared r' h => cases h <;> rfl
  | policyRecorded revision generation hash hphase => exact absurd (hphase.symm.trans hr') (by simp)
  | policyPublished p hpolicy hphase => exact absurd (hphase.symm.trans hr') (by simp)
  | _ => rfl

/-! ## Generations of a state -/

/-- The records of a state, as far as their generations depend on it. -/
structure Generational (s : State) : Prop where
  shaped : Shaped s
  forward : ∀ f, s.forward = some f → Dated f
  preparing : ∀ f, s.forward = some f → f.phase = .preparing → f.policyGeneration = none
  candidate : ∀ c, s.candidate = some c → c.policyGeneration = none ∧ c.pendingPolicy = none

/-- If the operation commits the candidate, its signed generation is not below the effective
one. -/
def CommitsUpward (op : Option Operation) (s : State) : Prop :=
  ∀ operation c f, op = some operation → s.candidate = some c → s.forward = some f →
    operation.commits c.owner → f.generation ≤ c.owner.signedGeneration

/-- The effective generation has not gone back since `s₀`. -/
def NotBehind (s₀ s : State) : Prop :=
  ∀ f₀, s₀.forward = some f₀ → ∃ f, s.forward = some f ∧ f₀.generation ≤ f.generation

theorem NotBehind.refl (s : State) : NotBehind s s := fun f hf => ⟨f, hf, Nat.le_refl _⟩

variable {E : Surroundings} {op : Option Operation} {lo n : ℕ} {s s' : State}

theorem shaped_change (h : Shaped s) (hchange : Change E op lo n s s') : Shaped s' := by
  cases hchange with
  | intended candidate previous hcandidate hforward => simp [Shaped]
  | admitted => simp [Shaped, ForwardRecord.accepted]
  | candidacy r r' hcandidate hr =>
    intro c hc
    cases hc
    rw [hr.phase]
    exact h r hcandidate
  | preparing => exact h
  | retried => exact h
  | forwarding => exact h
  | created => exact h
  | ensured => exact h
  | acquired => exact h
  | released => exact h
  | _ => simp [Shaped, State.default]

theorem Generational.change (h : Generational s) (hchange : Change E op lo n s s') :
    Generational s' := by
  have hshaped := shaped_change h.shaped hchange
  obtain ⟨_, hforward, hpreparing, hcandidate⟩ := h
  cases hchange with
  | created => exact ⟨hshaped, hforward, hpreparing, hcandidate⟩
  | ensured => exact ⟨hshaped, hforward, hpreparing, hcandidate⟩
  | acquired => exact ⟨hshaped, hforward, hpreparing, hcandidate⟩
  | released => exact ⟨hshaped, hforward, hpreparing, hcandidate⟩
  | retired => constructor <;> simp [Shaped, State.default]
  | repaired =>
    refine ⟨hshaped, ?_, ?_, ?_⟩
    · simp only [State.mapForward, Option.map_eq_some_iff]
      rintro f ⟨f₀, hf₀, rfl⟩
      exact hforward f₀ hf₀
    · simp [State.mapForward]
    · simp
  | preparing => refine ⟨hshaped, ?_, ?_, hcandidate⟩ <;> simp [ForwardRecord.accepted, Dated]
  | retried => refine ⟨hshaped, ?_, ?_, hcandidate⟩ <;> simp [ForwardRecord.accepted, Dated]
  | admitted =>
    refine ⟨hshaped, hforward, hpreparing, ?_⟩
    simp [ForwardRecord.accepted]
  | dropped => exact ⟨hshaped, hforward, hpreparing, by simp⟩
  | intended c previous hc hf =>
    refine ⟨hshaped, hforward, hpreparing, ?_⟩
    simpa using hcandidate c hc
  | committed operation c previous hop hcommits hc hf =>
    have hc' := hcandidate c hc
    refine ⟨hshaped, ?_, ?_, ?_⟩ <;> simp [Dated, hc']
  | rolledBack c previous kept hc hf hkept =>
    have hdated := hforward previous hf
    have hunpublished := hpreparing previous hf
    refine ⟨hshaped, ?_, ?_, ?_⟩ <;> simp [Dated] <;> grind [Dated, ForwardRecord.generation]
  | withdrawn r hf => refine ⟨hshaped, ?_, ?_, ?_⟩ <;> simp [ForwardRecord.revoke, Dated]
  | forwarding r r' hf hr =>
    have hdated := hr.dated (hforward r hf)
    have hphase := hr.preparing_of_preparing
    have hunpublished := hr.unpublished
    refine ⟨hshaped, ?_, ?_, hcandidate⟩ <;> simp <;> grind
  | candidacy r r' hc hr =>
    have hc' := hcandidate r hc
    refine ⟨hshaped, hforward, hpreparing, ?_⟩
    cases hr <;> simpa using hc'

theorem CommitsUpward.change (h : CommitsUpward op s) (hchange : Change E op lo n s s') :
    CommitsUpward op s' := by
  cases hchange with
  | created => exact h
  | ensured => exact h
  | acquired => exact h
  | released => exact h
  | preparing _ _ owner declaration sysctls _ hforward hcandidate =>
    intro operation c f _ hc
    exact absurd (hcandidate.symm.trans hc) (by simp)
  | retried previous hforward hphase hcandidate =>
    intro operation c f _ hc
    exact absurd (hcandidate.symm.trans hc) (by simp)
  | admitted infraId infraGeneration previous owner declaration hop =>
    -- a request that admits a candidate does not commit one
    intro operation c f hoperation _ _ hcommits
    rw [hop, Option.some.injEq] at hoperation
    rw [← hoperation] at hcommits
    exact hcommits.elim
  | intended c previous hc hf =>
    intro operation c' f hoperation hc' hf' hcommits
    cases hc'
    exact h operation c f hoperation hc hf' hcommits
  | forwarding r r' hf hr =>
    intro operation c f hoperation hc hf' hcommits
    cases hf'
    have hsome : s.candidate.isSome = true := by
      have hc : s.candidate = some c := hc
      rw [hc]
      rfl
    rw [hsome] at hr
    rw [hr.generation_eq]
    exact h operation c r hoperation hc hf hcommits
  | candidacy r r' hc hr =>
    intro operation c' f hoperation hc' hf' hcommits
    cases hc'
    rw [hr.owner] at hcommits ⊢
    exact h operation r f hoperation hc hf' hcommits
  | _ =>
    intro operation c f _ hc
    exact absurd hc (by simp [State.default])

theorem NotBehind.change {s₀ : State} (hs : Generational s) (hupward : CommitsUpward op s)
    (h : NotBehind s₀ s) (hop : Retains op) (hchange : Change E op lo n s s') :
    NotBehind s₀ s' := by
  intro f₀ hf₀
  obtain ⟨f, hf, hle⟩ := h f₀ hf₀
  cases hchange with
  | created => exact ⟨f, hf, hle⟩
  | ensured => exact ⟨f, hf, hle⟩
  | acquired => exact ⟨f, hf, hle⟩
  | released => exact ⟨f, hf, hle⟩
  | retired infraId generation hretire => exact absurd hretire (hop infraId generation)
  | repaired =>
    refine ⟨{ f with phase := .revoked }, ?_, hle⟩
    simp [State.mapForward, hf]
  | preparing _ _ owner declaration sysctls _ hforward =>
    exact absurd (hforward.symm.trans hf) (by simp)
  | retried previous hforward hphase =>
    refine ⟨_, rfl, ?_⟩
    rw [hf, Option.some.injEq] at hforward
    rw [← hforward] at hphase ⊢
    have hgeneration : f.generation = f.owner.signedGeneration := by
      rw [ForwardRecord.generation, hs.preparing f hf hphase, Option.getD_none]
    rw [hgeneration] at hle
    exact hle
  | admitted => exact ⟨f, hf, hle⟩
  | dropped => exact ⟨f, hf, hle⟩
  | intended => exact ⟨f, hf, hle⟩
  | committed operation c previous hoperation hcommits hc hprevious =>
    have hbound := hupward operation c f hoperation hc hf hcommits
    have hunpublished := (hs.candidate c hc).1
    refine ⟨_, rfl, ?_⟩
    simp only [ForwardRecord.generation, hunpublished, Option.getD_none]
    exact Nat.le_trans hle hbound
  | rolledBack c previous kept hc hprevious hkept =>
    rw [hf, Option.some.injEq] at hprevious
    refine ⟨_, rfl, ?_⟩
    rw [← hprevious]
    cases kept <;> exact hle
  | withdrawn r hr =>
    rw [hf, Option.some.injEq] at hr
    refine ⟨_, rfl, ?_⟩
    rw [← hr]
    exact hle
  | forwarding r r' hr hchange =>
    rw [hf, Option.some.injEq] at hr
    rw [← hr] at hchange
    exact ⟨r', rfl, Nat.le_trans hle (hchange.dated (hs.forward f hf)).2⟩
  | candidacy => exact ⟨f, hf, hle⟩

theorem advances_generation (hop : Retains op) :
    Advances E op lo Generational (fun s => Generational s ∧ CommitsUpward op s) NotBehind where
  shaped := fun hs => hs.1.shaped
  base := And.left
  inv := fun _ hs hc => ⟨hs.1.change hc, hs.2.change hc⟩
  refl := NotBehind.refl
  rel := fun _ hs hrel hc => hrel.change hs.1 hs.2 hop hc

/-! ## Runs -/

/-- A step without a retirement that commits no candidate whose signed generation is below the
effective generation of the record it replaces. -/
def CommittingUpward (event : Event) (w _ : InfrastructureService) : Prop :=
  Retains event.operation ∧ CommitsUpward event.operation w.state

theorem generational_default : Generational .default := by
  constructor <;> simp [Shaped, State.default]

theorem Follows.generation {s₀ : State} (h : Follows Generational NotBehind s₀ w)
    (hrun : Relation.ReflTransGen (StepWhen E CommittingUpward) w w') :
    Follows Generational NotBehind s₀ w' := by
  induction hrun with
  | refl => exact h
  | tail _ hstep ih =>
    obtain ⟨event, hstep, hretains, hupward⟩ := hstep
    exact ih.step hstep ⟨ih.base, hupward⟩ (advances_generation hretains)

/-- The effective generation never goes back in a run that commits upward only. -/
theorem generation_le_of_run {w w' : InfrastructureService} {f f' : ForwardRecord}
    (hw : Reachable E CommittingUpward w)
    (hrun : Relation.ReflTransGen (StepWhen E CommittingUpward) w w')
    (hf : w.state.forward = some f) (hf' : w'.state.forward = some f') :
    f.generation ≤ f'.generation := by
  obtain ⟨uid, gid, hreach⟩ := hw
  have hfresh : Follows Generational NotBehind .default (.fresh uid gid) :=
    follows_fresh generational_default (.refl _)
  have hself := (hfresh.generation hreach).self NotBehind.refl
  obtain ⟨g, hg, hle⟩ := (hself.generation hrun).rel f hf
  rw [hf', Option.some.injEq] at hg
  rw [hg]
  exact hle

namespace Sample

def hash : String := "aaaaaaaaaaaaaaaaaaaaaaaaaaaaaaaaaaaaaaaaaaaaaaaaaaaaaaaaaaaaaaaa"

/-- The first owner has published the policy of generation 20. -/
def updated : InfrastructureService :=
  (opening ++ [ask (.forwardPolicyUpdate (owner 1) 1 20 hash (declaration 3))]).foldl
    (stepOnce surroundings) (.fresh 0 0)

/-- An owner with the signed generation 2 takes over. -/
def takeover : List Action :=
  [ask (.forwardPrepare (ident 1) 1 (owner 2) (declaration 2)), ask (.forwardCommit (owner 2))]

/-- An owner with the signed generation 21 takes over. -/
def succession : List Action :=
  [ask (.forwardPrepare (ident 1) 1 (owner 21) (declaration 2)), ask (.forwardCommit (owner 21))]

end Sample

/-- `CommitsUpward`, computed. -/
def commitsUpwardCheck (op : Option Operation) (s : State) : Bool :=
  match op, s.candidate, s.forward with
  | some (.forwardCommit _), some c, some f
  | some (.forwardCommitAuthorized _ _), some c, some f =>
    decide (f.generation ≤ c.owner.signedGeneration)
  | some (.infraRetire ..), _, _ => false
  | _, _, _ => true

theorem committingUpward_of_check {event : Event}
    (h : commitsUpwardCheck event.operation w.state = true) : CommittingUpward event w w' := by
  constructor
  · intro infraId generation hop
    rw [hop, commitsUpwardCheck] at h
    exact absurd h (by simp)
  · intro operation c f hop hc hf hcommits
    rw [hop] at h
    cases operation with
    | forwardCommit owner =>
      simp only [commitsUpwardCheck, hc, hf] at h
      exact of_decide_eq_true h
    | forwardCommitAuthorized owner receipt =>
      simp only [commitsUpwardCheck, hc, hf] at h
      exact of_decide_eq_true h
    | _ => exact hcommits.elim

open Sample in
theorem generation_le_of_succession :
    (succession.foldl (stepOnce surroundings) updated).state.forward.map (·.generation) = some 21
      ∧ ∀ f f', updated.state.forward = some f →
        (succession.foldl (stepOnce surroundings) updated).state.forward = some f' →
        f.generation ≤ f'.generation := by
  have hreach : Reachable surroundings CommittingUpward updated :=
    ⟨0, 0, steps_along _ commitsUpwardCheck committingUpward_of_check (by decide)⟩
  refine ⟨by decide, fun f f' hf hf' => generation_le_of_run hreach ?_ hf hf'⟩
  exact steps_along _ commitsUpwardCheck committingUpward_of_check (by decide)

open Sample in
/-- The commit of an older signed generation takes the effective one back, from 20 to 2. -/
theorem not_generation_le_of_takeover :
    ¬ ∀ w w' : InfrastructureService, Reachable surroundings WithoutRetirement w →
      Relation.ReflTransGen (StepWhen surroundings WithoutRetirement) w w' →
      ∀ f f', w.state.forward = some f → w'.state.forward = some f' →
        f.generation ≤ f'.generation := by
  intro h
  have hreach : Reachable surroundings WithoutRetirement updated :=
    ⟨0, 0, steps_along _ retainsCheck withoutRetirement_of_check (by decide)⟩
  have hrun : Relation.ReflTransGen (StepWhen surroundings WithoutRetirement) updated
      (takeover.foldl (stepOnce surroundings) updated) :=
    steps_along _ retainsCheck withoutRetirement_of_check (by decide)
  obtain ⟨f, hf, hgeneration⟩ : ∃ f, updated.state.forward = some f ∧ f.generation = 20 := by
    have heval : updated.state.forward.map (·.generation) = some 20 := by decide
    simpa using heval
  obtain ⟨f', hf', hgeneration'⟩ :
      ∃ f', (takeover.foldl (stepOnce surroundings) updated).state.forward = some f'
        ∧ f'.generation = 2 := by
    have heval : (takeover.foldl (stepOnce surroundings) updated).state.forward.map
        (·.generation) = some 2 := by decide
    simpa using heval
  have hle := h _ _ hreach hrun f f' hf hf'
  omega

end CandyRuntime.NetdV2
