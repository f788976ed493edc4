import CandyRuntime.NetdV2.Runs

/-!
# Fencing tokens of the v2 service

Without `InfraRetire` the last fencing token never goes back, a record that is newly accepted
carries a token above it, and a token whose record was revoked or replaced is never forwarded
again: across requests, expiry, failed writes, kills and restarts.
-/

namespace CandyRuntime.NetdV2

open Lib Lib.Proc NetdProto NetdV1

variable {r r' : ForwardRecord} {candidate : Bool}

/-! ## Changes of one record -/

theorem PreparedChange.owner (h : PreparedChange r r') :
    r'.owner = r.owner := by
  cases h <;> rfl

theorem PreparedChange.phase (h : PreparedChange r r') :
    r'.phase = r.phase := by
  cases h <;> rfl

theorem Renews.refl (o : ForwardOwner) : Renews o o :=
  ⟨rfl, rfl, rfl, rfl, rfl, Nat.le_refl _⟩

theorem Renews.trans {o o' o'' : ForwardOwner} (h : Renews o o') (h' : Renews o' o'') :
    Renews o o'' :=
  ⟨h.domainId.trans h'.domainId, h.signedGeneration.trans h'.signedGeneration,
    h.workerEpoch.trans h'.workerEpoch, h.fencingToken.trans h'.fencingToken,
    h.authDeadline.trans h'.authDeadline, Nat.le_trans h.leaseDeadline h'.leaseDeadline⟩

/-- No change of the forward record gives it to another owner. -/
theorem ForwardChange.renews {op : Option Operation} (h : ForwardChange op candidate r r') :
    Renews r.owner r'.owner := by
  cases h with
  | whilePrepared r' h =>
    rw [h.owner]
    exact .refl _
  | renewed owner hvalid howner hphase => exact howner
  | _ => exact .refl _

/-- No change of the forward record takes it out of revocation. -/
theorem ForwardChange.revoked_of_revoked {op : Option Operation}
    (h : ForwardChange op candidate r r') (hr : r.phase = .revoked) :
    r'.phase = .revoked := by
  cases h with
  | whilePrepared r' h => rw [h.phase, hr]
  | fenced p hpolicy hcancelled => rfl
  | revoked => rfl
  | _ => simp_all [ForwardRecord.settleFailures]

/-- A record is only in preparation if it was. -/
theorem ForwardChange.preparing_of_preparing {op : Option Operation}
    (h : ForwardChange op candidate r r') (hr : r'.phase = .preparing) :
    r.phase = .preparing := by
  cases h with
  | whilePrepared r' h => rw [← h.phase, hr]
  | _ => simp_all [ForwardRecord.settleFailures, ForwardRecord.publish, ForwardRecord.revoke]

/-! ## Tokens of a state -/

/-- The tokens of the records of a state, against the last token that was accepted. -/
structure Fenced (s : State) : Prop where
  shaped : Shaped s
  forward : ∀ f, s.forward = some f → f.owner.fencingToken ≤ s.lastFencingToken
  candidate : ∀ c, s.candidate = some c → c.owner.fencingToken ≤ s.lastFencingToken
    ∧ ∃ f, s.forward = some f ∧ f.owner.fencingToken < c.owner.fencingToken
  preparing : ∀ f, s.forward = some f → f.phase = .preparing →
    s.lastFencingToken = f.owner.fencingToken
  unaccepted : s.forward = none → s.lastFencingToken = 0

/-- The operation is not `InfraRetire`. -/
def Retains (op : Option Operation) : Prop :=
  ∀ infraId generation, op ≠ some (.infraRetire infraId generation)

theorem fenced_default : Fenced .default where
  shaped := by simp [Shaped, State.default]
  forward := by simp [State.default]
  candidate := by simp [State.default]
  preparing := by simp [State.default]
  unaccepted := by simp [State.default]

variable {E : Surroundings} {op : Option Operation} {lo n : ℕ} {s s' : State}

theorem Fenced.change (h : Fenced s) (hop : Retains op) (hchange : Change E op lo n s s') :
    Fenced s' := by
  obtain ⟨hshaped, hforward, hcandidate, hpreparing, hunaccepted⟩ := h
  cases hchange with
  | created ifindex bootId hpending => exact ⟨hshaped, hforward, hcandidate, hpreparing, hunaccepted⟩
  | ensured => exact ⟨hshaped, hforward, hcandidate, hpreparing, hunaccepted⟩
  | repaired spec marker bootId hop hmissing hunheld =>
    constructor
    · simp [Shaped]
    · simpa [State.mapForward] using hforward
    · simp
    · simp [State.mapForward]
    · simpa [State.mapForward] using hunaccepted
  | acquired => exact ⟨hshaped, hforward, hcandidate, hpreparing, hunaccepted⟩
  | released => exact ⟨hshaped, hforward, hcandidate, hpreparing, hunaccepted⟩
  | retired infraId generation h => exact absurd h (hop infraId generation)
  | preparing _ _ owner declaration sysctls _ hnone hno howner hvalid =>
    constructor <;> simp [Shaped, ForwardRecord.accepted] <;> grind
  | retried previous hsome hphase hno howner hvalid =>
    constructor <;> simp [Shaped, ForwardRecord.accepted] <;> grind
  | admitted _ _ previous owner declaration _ hsome hno hadmitted hpolicy howner hvalid =>
    have htoken := hadmitted.fencingToken
    have hlast := hadmitted.lastFencingToken
    have hphase := hadmitted.phase
    constructor <;> simp [Shaped, ForwardRecord.accepted] <;> grind
  | dropped =>
    constructor
    · simp [Shaped]
    · exact hforward
    · simp
    · exact hpreparing
    · exact hunaccepted
  | intended candidate previous hsome hprevious =>
    constructor <;> simp [Shaped] <;> grind
  | committed operation candidate previous hop' hcommits hsome hprevious =>
    constructor <;> simp [Shaped]
    grind
  | rolledBack candidate previous kept hsome hprevious hkept =>
    constructor <;> simp [Shaped] <;> grind
  | withdrawn r hsome =>
    constructor <;> simp [Shaped, ForwardRecord.revoke]
    grind
  | forwarding r r' hsome h =>
    have htoken := h.renews.fencingToken
    have hstays := h.preparing_of_preparing
    constructor <;> simp [Shaped] <;> grind [Shaped]
  | candidacy r r' hsome h =>
    have howner := h.owner
    have hphase := h.phase
    constructor <;> simp [Shaped] <;> grind [Shaped]

/-! ## Earlier and later states -/

/-- A valid owner carries a token. -/
theorem fencingToken_pos {owner : ForwardOwner} (h : owner.validate = .ok ()) :
    0 < owner.fencingToken := by
  rw [ForwardOwner.validate, refuseIf_eq_ok] at h
  simp only [Bool.or_eq_false_iff, beq_eq_false_iff_ne] at h
  omega

/-- The record is the forward record or the candidate. -/
def State.Carries (s : State) (r : ForwardRecord) : Prop :=
  s.forward = some r ∨ s.candidate = some r

/-- What holds between an earlier and a later state of a run without retirement. -/
structure Later (s₀ s : State) : Prop where
  last : s₀.lastFencingToken ≤ s.lastFencingToken
  forward : ∀ f₀, s₀.forward = some f₀ →
    ∃ f, s.forward = some f ∧ f₀.owner.fencingToken ≤ f.owner.fencingToken
  accepted : ∀ r, s.Carries r →
    (∃ r₀, s₀.Carries r₀ ∧ Renews r₀.owner r.owner) ∨ s₀.lastFencingToken < r.owner.fencingToken
  revoked : ∀ f₀ f, s₀.forward = some f₀ → f₀.phase = .revoked → s.forward = some f →
    f.owner.fencingToken = f₀.owner.fencingToken → f.phase = .revoked

theorem Later.refl (s : State) : Later s s where
  last := Nat.le_refl _
  forward := fun f₀ h => ⟨f₀, h, Nat.le_refl _⟩
  accepted := fun r h => Or.inl ⟨r, h, .refl _⟩
  revoked := by
    intro f₀ f h₀ hphase h _
    rw [h₀, Option.some.injEq] at h
    rw [← h]
    exact hphase

theorem Later.change {s₀ : State} (hs : Fenced s) (h : Later s₀ s) (hop : Retains op)
    (hchange : Change E op lo n s s') : Later s₀ s' := by
  obtain ⟨hlast, hforward, haccepted, hrevoked⟩ := h
  cases hchange with
  | created ifindex bootId hpending => exact ⟨hlast, hforward, haccepted, hrevoked⟩
  | ensured => exact ⟨hlast, hforward, haccepted, hrevoked⟩
  | repaired spec marker bootId hop hmissing hunheld =>
    constructor <;> simp [State.Carries, State.mapForward] <;> grind [State.Carries]
  | acquired => exact ⟨hlast, hforward, haccepted, hrevoked⟩
  | released => exact ⟨hlast, hforward, haccepted, hrevoked⟩
  | retired infraId generation h => exact absurd h (hop infraId generation)
  | preparing _ _ owner declaration sysctls _ hnone hno howner hvalid =>
    -- the first record of all: no token was accepted before
    have hzero := hs.unaccepted hnone
    have htoken := fencingToken_pos howner
    constructor <;> simp [State.Carries, ForwardRecord.accepted] <;> grind
  | retried previous hsome hphase hno howner hvalid =>
    have htoken := hs.preparing previous hsome hphase
    constructor <;> simp [State.Carries, ForwardRecord.accepted] <;> grind [State.Carries]
  | admitted _ _ previous owner declaration _ hsome hno hadmitted hpolicy howner hvalid =>
    have htoken := hadmitted.lastFencingToken
    constructor <;> simp [State.Carries, ForwardRecord.accepted] <;> grind [State.Carries]
  | dropped => constructor <;> simp [State.Carries] <;> grind [State.Carries]
  | intended candidate previous hsome hprevious =>
    constructor <;> simp [State.Carries] <;> grind [State.Carries]
  | committed operation candidate previous hop' hcommits hsome hprevious =>
    have htoken := hs.candidate candidate hsome
    constructor <;> simp [State.Carries] <;> grind [State.Carries]
  | rolledBack candidate previous kept hsome hprevious hkept =>
    constructor <;> simp [State.Carries] <;> grind [State.Carries]
  | withdrawn r hsome => constructor <;> simp [State.Carries, ForwardRecord.revoke] <;> grind [State.Carries]
  | forwarding r r' hsome h =>
    have htoken := h.renews.fencingToken
    have hstays := h.revoked_of_revoked
    have htrans := fun (o : ForwardOwner) (h₀ : Renews o r.owner) => h₀.trans h.renews
    constructor <;> simp [State.Carries] <;> grind [State.Carries]
  | candidacy r r' hsome h =>
    have howner := h.owner
    constructor <;> simp [State.Carries] <;> grind [State.Carries]

theorem advances_fencing (hop : Retains op) : Advances E op lo Fenced Fenced Later where
  shaped := Fenced.shaped
  base := id
  inv := fun _ hs hc => hs.change hop hc
  refl := Later.refl
  rel := fun _ hs hrel hc => hrel.change hs hop hc

/-! ## Runs -/

/-- A step that is not a retirement. -/
def WithoutRetirement (event : Event) (_ _ : InfrastructureService) : Prop :=
  Retains event.operation

theorem Follows.fencing {s₀ : State} {w w' : InfrastructureService}
    (h : Follows Fenced Later s₀ w)
    (hrun : Relation.ReflTransGen (StepWhen E WithoutRetirement) w w') :
    Follows Fenced Later s₀ w' := by
  induction hrun with
  | refl => exact h
  | tail _ hstep ih =>
    obtain ⟨event, hstep, hretains⟩ := hstep
    exact ih.step hstep ih.base (advances_fencing hretains)

theorem follows_fencing_of_reachable {w : InfrastructureService}
    (h : Reachable E WithoutRetirement w) : Follows Fenced Later w.state w := by
  obtain ⟨uid, gid, hrun⟩ := h
  have hfresh : Follows Fenced Later .default (.fresh uid gid) :=
    follows_fresh fenced_default (.refl _)
  exact (hfresh.fencing hrun).self Later.refl

/-- Fencing is irrevocable in every run without retirement. Of two states of such a run, the
last token of the later one is not smaller, and it covers every token that is carried; a record
whose owner was not carried before has a token above every earlier one, and a candidate one above
that of the forward record. A token that was
revoked, or replaced by the commit of another one, is in no later state the token of a forward
record that is prepared, active or guarded. -/
theorem fencing_irrevocable {w w' w'' : InfrastructureService}
    (hw : Reachable E WithoutRetirement w)
    (hrun : Relation.ReflTransGen (StepWhen E WithoutRetirement) w w')
    (hrun' : Relation.ReflTransGen (StepWhen E WithoutRetirement) w' w'') :
    w.state.lastFencingToken ≤ w'.state.lastFencingToken
      ∧ (∀ r, w.state.Carries r → r.owner.fencingToken ≤ w.state.lastFencingToken)
      ∧ (∀ r, w'.state.Carries r → (∃ r₀, w.state.Carries r₀ ∧ Renews r₀.owner r.owner)
        ∨ w.state.lastFencingToken < r.owner.fencingToken)
      ∧ (∀ c, w.state.candidate = some c →
        ∃ f, w.state.forward = some f ∧ f.owner.fencingToken < c.owner.fencingToken)
      ∧ (∀ f f' f'', w.state.forward = some f → w'.state.forward = some f' →
        w''.state.forward = some f'' →
        (f'.owner.fencingToken = f.owner.fencingToken ∧ f'.phase = .revoked
          ∨ f'.owner.fencingToken ≠ f.owner.fencingToken) →
        f''.owner.fencingToken = f.owner.fencingToken →
        f''.phase ≠ .prepared ∧ f''.phase ≠ .active ∧ f''.phase ≠ .guarded) := by
  have hfollows := follows_fencing_of_reachable hw
  have hlater := hfollows.fencing hrun
  have hself : Follows Fenced Later w'.state w' := hlater.self Later.refl
  have hlater' := hself.fencing hrun'
  refine ⟨hlater.rel.last, ?_, hlater.rel.accepted,
    fun c hc => (hfollows.base.candidate c hc).2, ?_⟩
  · intro r hr
    rcases hr with hr | hr
    · exact hfollows.base.forward r hr
    · exact (hfollows.base.candidate r hr).1
  · intro f f' f'' hf hf' hf'' hended htoken
    rcases hended with ⟨heq, hrevoked⟩ | hne
    · have hstays := hlater'.rel.revoked f' f'' hf' hrevoked hf'' (htoken.trans heq.symm)
      simp [hstays]
    · -- the tokens of the forward record only grow
      obtain ⟨g', hg', hle⟩ := hlater.rel.forward f hf
      obtain ⟨g'', hg'', hle'⟩ := hlater'.rel.forward f' hf'
      rw [hf', Option.some.injEq] at hg'
      rw [hf'', Option.some.injEq] at hg''
      rw [← hg'] at hle
      rw [← hg''] at hle'
      omega

namespace Sample

/-- The first owner is active. -/
def opened : InfrastructureService := opening.foldl (stepOnce surroundings) (.fresh 0 0)

/-- It is revoked. -/
def revoked : InfrastructureService :=
  [ask (.forwardRevoke (owner 1))].foldl (stepOnce surroundings) opened

/-- A second owner is admitted; the first one asks to be renewed, prepared and committed. -/
def pressed : InfrastructureService :=
  [ask (.forwardPrepare (ident 1) 1 (owner 2) (declaration 3)),
    ask (.forwardLeaseRenew (owner 1)),
    ask (.forwardPrepare (ident 1) 1 (owner 1) (declaration 2)),
    ask (.forwardCommit (owner 1))].foldl (stepOnce surroundings) revoked

end Sample

/-- The operation is not `InfraRetire`, computed. -/
def retainsCheck (op : Option Operation) (_ : State) : Bool :=
  match op with
  | some (.infraRetire ..) => false
  | _ => true

theorem withoutRetirement_of_check {event : Event} {w w' : InfrastructureService}
    (h : retainsCheck event.operation w.state = true) : WithoutRetirement event w w' := by
  intro infraId generation hop
  rw [hop, retainsCheck] at h
  exact absurd h (by simp)

open Sample in
theorem fencing_irrevocable_pressed :
    revoked.state.forward.map (·.phase) = some .revoked
      ∧ pressed.state.candidate.map (·.owner) = some (owner 2)
      ∧ ∀ f, pressed.state.forward = some f → f.owner.fencingToken = 1 → f.phase ≠ .active := by
  have hreach : Reachable surroundings WithoutRetirement opened :=
    ⟨0, 0, steps_along opening retainsCheck withoutRetirement_of_check (by decide)⟩
  have hrun : Relation.ReflTransGen (StepWhen surroundings WithoutRetirement) opened revoked :=
    steps_along _ retainsCheck withoutRetirement_of_check (by decide)
  have hrun' : Relation.ReflTransGen (StepWhen surroundings WithoutRetirement) revoked pressed :=
    steps_along _ retainsCheck withoutRetirement_of_check (by decide)
  have hended := (fencing_irrevocable hreach hrun hrun').2.2.2.2
  refine ⟨by decide, by decide, ?_⟩
  intro f hf htoken
  obtain ⟨f₀, hf₀, hone⟩ : ∃ f₀, opened.state.forward = some f₀ ∧ f₀.owner.fencingToken = 1 := by
    have h : opened.state.forward.map (·.owner.fencingToken) = some 1 := by decide
    simpa using h
  obtain ⟨f₁, hf₁, hrevoked⟩ : ∃ f₁, revoked.state.forward = some f₁
      ∧ (f₁.owner.fencingToken = 1 ∧ f₁.phase = .revoked) := by
    have h : revoked.state.forward.map (fun f => (f.owner.fencingToken, f.phase))
        = some (1, .revoked) := by decide
    simpa using h
  have hcase : f₁.owner.fencingToken = f₀.owner.fencingToken ∧ f₁.phase = .revoked := by
    rw [hone]
    exact hrevoked
  exact (hended f₀ f₁ f hf₀ hf₁ hf (Or.inl hcase) (by rw [hone, htoken])).2.1

end CandyRuntime.NetdV2
