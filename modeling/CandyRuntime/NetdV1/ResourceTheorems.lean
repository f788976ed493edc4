import CandyRuntime.NetdV1.CleanupTheorems

/-!
# Operations that account for their resources unconditionally

`prepare`, the first commit, `drain_old`, the withdrawal of a staged candidate, `suspend`,
`renew_lease`, `update_mtu`, and the changes within the table of the declaration keep the
resource invariant whatever happens to their calls.
-/

namespace CandyRuntime.NetdV1

open Lib Lib.Proc NetdProto

/-! ## Operations without a condition -/

section

variable {r' : TransactionRecord} {res : Resource}
variable {d : Option TransactionRecord} {A : Resource → Prop} {r : TransactionRecord}
  {w : NetworkTransaction TransactionRecord}

/-- A change that keeps declaration table, steps, candidate and phase keeps all obligations. -/
structure SameResources (r r' : TransactionRecord) : Prop where
  table : r'.declaration.tableId = r.declaration.tableId
  steps : r'.completedSteps = r.completedSteps
  candidate : r'.recoveryCandidate = r.recoveryCandidate
  phase : r'.phase = r.phase

theorem SameResources.owned (h : SameResources r r') (res : Resource) :
    Owned r' res ↔ Owned r res := by
  have hforeign : res.foreign r'.declaration ↔ res.foreign r.declaration := by
    cases res <;> simp [Resource.foreign, h.table]
  unfold Owned
  rw [hforeign, h.steps]

theorem SameResources.staged (h : SameResources r r') (res : Resource) :
    Staged r' res ↔ Staged r res := by
  cases res <;> simp [Staged, h.candidate, h.phase]

theorem SameResources.accounted (h : SameResources r r') (res : Resource) :
    Accounted (some r') res ↔ Accounted (some r) res := by
  simp only [Accounted, h.owned, h.staged]

theorem SameResources.sound (h : SameResources r r') (hs : Sound r) :
    Sound r' := by
  refine ⟨?_, ?_, ?_⟩
  · intro hl
    rw [h.phase, h.candidate] at hl
    rw [h.steps]
    exact hs.settled hl
  · intro hd
    rw [h.phase] at hd
    rw [h.candidate, h.steps]
    exact hs.draining hd
  · intro hu
    rw [h.phase] at hu
    rw [h.candidate]
    exact hs.unstaged hu

theorem SameResources.backed (h : SameResources r r') (hb : Backed r d) : Backed r' d := by
  refine ⟨?_, ?_⟩
  · intro hl res ho
    rw [h.phase, h.candidate] at hl
    exact hb.owned hl res ((h.owned res).mp ho)
  · intro hl res hst
    rw [h.phase] at hl
    exact hb.staged hl res ((h.staged res).mp hst)

/-- A store of such a change ends an operation. -/
theorem keeps_amend_same {f : TransactionRecord → TransactionRecord} (hf : SameResources r (f r))
    (hw : Holds (some r) d A w) (hs : Sound r) (hb : Backed r d)
    (hd : ∀ r, d = some r → Sound r) : Keeps (amend exactFormat f) w :=
  hw.amend_end (fun res _ hacc => (hf.accounted res).mpr hacc) (hf.sound hs) (hf.backed hb) hd

theorem keeps_replace_same (hr : SameResources r r') (hw : Holds (some r) d A w) (hs : Sound r)
    (hb : Backed r d) (hd : ∀ r, d = some r → Sound r) :
    Keeps (replaceRecord exactFormat r') w := by
  refine hw.replace_end (fun res _ hacc => (hr.accounted res).mpr hacc)
    (Consistent.mk_some hs hb hd) (hr.sound hs) ⟨?_, ?_⟩
  · intro _ res ho
    exact Or.inl ((hr.owned res).mpr ho)
  · intro _ res hst
    exact Or.inr ((hr.staged res).mpr hst)

/-- The last step of an operation: the phase of a stored record with settled steps. -/
theorem keeps_setPhase {phase : TransactionPhase} (hw : Holds (some r) (some r) A w)
    (hs : Sound r) (hphase : r.phase ≠ .draining) (hphase' : phase ≠ .draining)
    (hsettled : Settled r.completedSteps)
    (hunstaged : phase = .active ∨ phase = .suspended → r.recoveryCandidate = none) :
    Keeps (setPhase exactFormat phase) w := by
  refine hw.amend_end (fun res _ hacc => accounted_of_phase hphase hacc)
    ⟨fun _ => hsettled, fun hdraining => absurd hdraining hphase', hunstaged⟩ ⟨?_, ?_⟩ ?_
  · intro _ res ho
    exact Or.inl ho
  · intro _ res hst
    right
    cases res with
    | policyRule t => exact absurd hst.1 hphase'
    | routes t => exact hst
    | firewall t => exact hst
    | link => exact hst
    | sysctls => exact hst
  · intro r' hr'
    obtain rfl := Option.some.inj hr'
    exact hs

theorem keeps_renewLease (owner : LeaseOwner) (h : Accountable w) :
    Keeps (renewLease exactFormat owner) w := by
  refine keeps_current h fun r d hs hb hd hw => keeps_lift h fun _ => ?_
  exact keeps_amend_same ⟨rfl, rfl, rfl, rfl⟩ hw hs hb hd

theorem keeps_updateMtu (owner : LeaseOwner) (mtu : UInt16) (h : Accountable w) :
    Keeps (updateMtu exactFormat owner mtu) w := by
  refine keeps_ensure h fun _ => keeps_current h fun r d hs hb hd hw => keeps_lift h fun _ =>
    keeps_ensure h fun _ => ?_
  refine keeps_bind (hw.remove_keeps (Consistent.mk_some hs hb hd) rfl) ?_
  intro _ w' hw'
  exact keeps_amend_same ⟨rfl, rfl, rfl, rfl⟩ hw' hs hb hd

/-- The policy rule is removed before its bit is cleared, and the bit before the phase. -/
theorem keeps_suspend (owner : LeaseOwner) (h : Accountable w) :
    Keeps (suspend exactFormat owner) w := by
  refine keeps_current h fun r d hs hb hd hw => keeps_lift h fun _ => ?_
  unfold Keeps
  rw [wp_ite]
  refine ⟨fun _ => h, fun _ => keeps_ensure h fun hactive => ?_⟩
  have hc := Consistent.mk_some hs hb hd
  refine keeps_bind (hw.remove_keeps hc rfl) ?_
  intro _ w₁ hw₁
  have hsettled : Settled r.completedSteps := hs.settled (Or.inl (by simp [hactive, TransactionPhase.live]))
  have hcleared : Settled (r.completedSteps &&& ~~~ stepPolicyRule) :=
    ⟨(stepDone_clear (by decide)).trans hsettled.link,
      (stepDone_clear (by decide)).trans hsettled.routes,
      (stepDone_clear (by decide)).trans hsettled.firewall⟩
  have hcover : ∀ res, ¬ (False ∨ res ∈ (BackendCall.removePolicyRule r.declaration).removes) →
      Accounted (some r) res → Accounted (some { r with
        completedSteps := r.completedSteps &&& ~~~ stepPolicyRule }) res := by
    intro res hA hacc
    rcases hacc with ho | hst
    · exact Or.inl ((undoes_policyRule r.declaration).cover rfl (fun hm => hA (Or.inr hm)) ho)
    · right
      cases res <;> exact hst
  have hs₁ : Sound { r with completedSteps := r.completedSteps &&& ~~~ stepPolicyRule } :=
    ⟨fun _ => hcleared, fun hdr => by simp [hactive] at hdr, hs.unstaged⟩
  have hb₁ : Backed { r with completedSteps := r.completedSteps &&& ~~~ stepPolicyRule } d :=
    ⟨fun hl res ho => hb.owned hl res (owned_of_clear ho), fun hl res hst =>
      hb.staged hl res (by cases res <;> exact hst)⟩
  refine keeps_bind (hw₁.amend_keeps hcover hs₁ hb₁ hd) ?_
  intro _ w₂ hw₂
  exact keeps_setPhase hw₂ hs₁ (by simp [hactive]) (by simp) hcleared
    fun _ => hs.unstaged (Or.inl hactive)

/-! ### Preparing and the first commit -/

theorem Cleanable.of_holds (hw : Holds (some r) d A w) (hphase : r.phase ≠ .draining)
    (hcandidate : r.recoveryCandidate = none) (hd : ∀ r', d = some r' → Sound r') : Cleanable w :=
  ⟨r, d, hphase, fun h => by simp [hcandidate] at h, hd, hw.weaken fun _ hf => hf.elim⟩

/-- A change of a record without a candidate, after which an error is cleaned up. -/
theorem wp_amend_cleanable {f : TransactionRecord → TransactionRecord}
    (hw : Holds (some r) d A w) (hd : ∀ r', d = some r' → Sound r')
    (hcover : ∀ res, ¬ A res → Accounted (some r) res → Accounted (some (f r)) res)
    (hs : Sound (f r)) (hphase : (f r).phase ≠ .draining)
    (hcandidate : (f r).recoveryCandidate = none) :
    wp (amend exactFormat f) (fun _ => Holds (some (f r)) (some (f r)) A) (fun _ => Cleanable)
      Durable w := by
  refine wp_mono (hw.amend hcover) (fun _ _ hq => hq) ?_ (fun _ hq => hq.durable hd)
  rintro _ w' (hw' | hw')
  · exact Cleanable.of_holds hw' hphase hcandidate hd
  · refine Cleanable.of_holds hw' hphase hcandidate ?_
    intro r' hr'
    obtain rfl := Option.some.inj hr'
    exact hs

/-- A call that installs what the stored record owns; an error is cleaned up. -/
theorem wp_call_cleanable {c : BackendCall} (hw : Holds (some r) (some r) (fun _ => False) w)
    (hs : Sound r) (hphase : r.phase ≠ .draining) (hcandidate : r.recoveryCandidate = none)
    (hadds : ∀ res ∈ c.adds, Owned r res) :
    wp (call c) (fun _ => Holds (some r) (some r) (fun _ => False)) (fun _ => Cleanable)
      Durable w := by
  have hd : ∀ r', some r = some r' → Sound r' := by
    intro r' hr'
    obtain rfl := Option.some.inj hr'
    exact hs
  refine wp_mono (hw.call (fun res hres => Or.inl (hadds res hres))
    (fun res hres => Or.inl (hadds res hres)) (by simp)) ?_ ?_ (fun _ hq => hq.durable hd)
  · intro _ w' hw'
    exact hw'.weaken fun _ hf => hf.elim
  · intro _ w' hw'
    exact Cleanable.of_holds hw' hphase hcandidate hd

/-- Completing a step only adds to what the record owns. -/
theorem accounted_of_complete {step : UInt16} (hacc : Accounted (some r) res) :
    Accounted (some { r with completedSteps := r.completedSteps ||| step }) res := by
  rcases hacc with ho | hst
  · refine Or.inl ⟨ho.1, ?_⟩
    rw [stepDone_or, ho.2, Bool.true_or]
  · right
    cases res <;> exact hst

/-- The first declaration is being prepared; memory and journal agree. -/
def Preparing (declaration : PrepareDeclaration) (steps : UInt16)
    (w : NetworkTransaction TransactionRecord) : Prop :=
  ∃ r, r.declaration = declaration ∧ r.completedSteps = steps ∧ r.phase = .preparing
    ∧ r.recoveryCandidate = none ∧ Holds (some r) (some r) (fun _ => False) w

theorem sound_preparing (hphase : r.phase = .preparing) (hcandidate : r.recoveryCandidate = none) :
    Sound r where
  settled hl := by simp [hphase, hcandidate, TransactionPhase.live] at hl
  draining hdr := by simp [hphase] at hdr
  unstaged _ := hcandidate

theorem Preparing.completeStep {declaration : PrepareDeclaration} {steps step : UInt16}
    (h : Preparing declaration steps w) :
    wp (NetdV1.completeStep exactFormat step) (fun _ => Preparing declaration (steps ||| step))
      (fun _ => Cleanable) Durable w := by
  obtain ⟨r, hdecl, hsteps, hphase, hcandidate, hw⟩ := h
  have hs := sound_preparing hphase hcandidate
  refine wp_mono (wp_amend_cleanable hw ?_ (fun res _ hacc => accounted_of_complete hacc)
    (sound_preparing hphase hcandidate) (by simp [hphase]) hcandidate) ?_ (fun _ _ he => he)
    (fun _ hq => hq)
  · intro r' hr'
    obtain rfl := Option.some.inj hr'
    exact hs
  · intro _ w' hw'
    exact ⟨{ r with completedSteps := r.completedSteps ||| step }, hdecl, by rw [← hsteps], hphase,
      hcandidate, hw'⟩

theorem Preparing.call {declaration : PrepareDeclaration} {steps : UInt16} {c : BackendCall}
    (h : Preparing declaration steps w)
    (hadds : ∀ res ∈ c.adds, ¬ res.foreign declaration ∧ stepDone steps res.step = true) :
    wp (NetdV1.call c) (fun _ => Preparing declaration steps) (fun _ => Cleanable) Durable w := by
  obtain ⟨r, hdecl, hsteps, hphase, hcandidate, hw⟩ := h
  refine wp_mono (wp_call_cleanable hw (sound_preparing hphase hcandidate) (by simp [hphase])
    hcandidate ?_) ?_ (fun _ _ he => he) (fun _ hq => hq)
  · intro res hres
    obtain ⟨hforeign, hdone⟩ := hadds res hres
    exact ⟨hdecl ▸ hforeign, hsteps ▸ hdone⟩
  · intro _ w' hw'
    exact ⟨r, hdecl, hsteps, hphase, hcandidate, hw'⟩

theorem Preparing.install {declaration : PrepareDeclaration} {steps : UInt16} {c : BackendCall}
    (step : UInt16) (h : Preparing declaration steps w) (hadds : c.adds = [res])
    (hforeign : ¬ res.foreign declaration) (hstep : res.step = step)
    (hdone : stepDone steps step = true) :
    wp (NetdV1.call c) (fun _ => Preparing declaration steps) (fun _ => Cleanable) Durable w := by
  refine h.call ?_
  intro res' hres'
  rw [hadds, List.mem_singleton] at hres'
  subst hres'
  exact ⟨hforeign, hstep ▸ hdone⟩

/-- Sequencing under clean-up. -/
theorem cleanable_bind {α γ : Type} {p : Tx TransactionRecord α}
    {k : α → Tx TransactionRecord γ} {R : α → NetworkTransaction TransactionRecord → Prop}
    {Q : γ → NetworkTransaction TransactionRecord → Prop}
    (hp : wp p R (fun _ => Cleanable) Durable w)
    (hk : ∀ a w', R a w' → wp (k a) Q (fun _ => Cleanable) Durable w') :
    wp (p >>= k) Q (fun _ => Cleanable) Durable w := by
  rw [wp_bind]
  exact wp_mono hp hk (fun _ _ he => he) (fun _ hc => hc)

/-- The phase of a stored record without a candidate; an error is cleaned up. -/
theorem wp_setPhase_cleanable {phase : TransactionPhase} (hw : Holds (some r) (some r) A w)
    (hs : Sound r) (hphase : r.phase ≠ .draining) (hphase' : phase ≠ .draining)
    (hcandidate : r.recoveryCandidate = none) (hsettled : Settled r.completedSteps) :
    wp (setPhase exactFormat phase) (fun _ => Accountable) (fun _ => Cleanable) Durable w := by
  have hs' : Sound { r with phase } :=
    ⟨fun _ => hsettled, fun hdraining => absurd hdraining hphase', fun _ => hcandidate⟩
  refine wp_mono (wp_amend_cleanable hw ?_ (fun res _ hacc => accounted_of_phase hphase hacc) hs'
    hphase' hcandidate) ?_ (fun _ _ he => he) (fun _ hq => hq)
  · intro r' hr'
    obtain rfl := Option.some.inj hr'
    exact hs
  · intro _ w' hw'
    exact hw'.accountable (Consistent.self hs')

/-- An error is returned after the clean-up, whose own error is dropped. -/
theorem keeps_cleanup_fail (e : NetworkError) (h : Cleanable w) :
    Keeps (do ignore (cleanupRecord exactFormat); fail e : Tx TransactionRecord Unit) w := by
  unfold Keeps
  rw [wp_bind, wp_ignore]
  exact wp_mono (keeps_cleanupRecord h) (fun _ _ hq => hq) (fun _ _ hq => hq) (fun _ hq => hq)

/-- Every step bit is stored before its call, so that an interrupted preparation owns all it
has installed. -/
theorem wp_prepareSteps {declaration : PrepareDeclaration} (h : Preparing declaration 0 w) :
    wp (prepareSteps exactFormat) (fun _ => Accountable) (fun _ => Cleanable) Durable w := by
  obtain ⟨r, hdecl, hsteps, hphase, hcandidate, hw⟩ := h
  have hsound := sound_preparing hphase hcandidate
  have hd : ∀ r', some r = some r' → Sound r' := by
    intro r' hr'
    obtain rfl := Option.some.inj hr'
    exact hsound
  unfold prepareSteps
  rw [wp_bind, wp_current hw.record]
  refine cleanable_bind (R := fun _ => Holds (some r) (some r) (fun _ => False)) ?_ ?_
  · rw [atStage, wp_mapError, preflight, wp_bind]
    refine wp_mono (wp_call_cleanable hw hsound (by simp [hphase]) hcandidate
      (by simp [BackendCall.adds])) ?_ (fun _ _ he => he) (fun _ hq => hq)
    intro _ w' hw'
    rw [wp_bind, wp_get, wp_lift]
    exact ⟨fun _ _ => hw', fun _ _ => Cleanable.of_holds hw' (by simp [hphase]) hcandidate hd⟩
  intro sysctls w₁ hw₁
  refine cleanable_bind (wp_amend_cleanable hw₁ hd (fun res _ hacc => hacc)
    (sound_preparing hphase hcandidate) (by simp [hphase]) hcandidate) ?_
  intro _ w₂ hw₂
  have h₂ : Preparing declaration 0 w₂ :=
    ⟨{ r with sysctls }, hdecl, hsteps, hphase, hcandidate, hw₂⟩
  refine cleanable_bind h₂.completeStep ?_
  intro _ w₃ h₃
  obtain ⟨r₃, -, -, -, -, hw₃⟩ := id h₃
  rw [wp_bind, wp_current hw₃.record, hdecl]
  simp only [atStage]
  refine cleanable_bind (by
    rw [wp_mapError]
    exact h₃.install stepSysctls rfl (by simp [Resource.foreign]) rfl (by decide)) ?_
  intro _ w₄ h₄
  refine cleanable_bind h₄.completeStep ?_
  intro _ w₅ h₅
  refine cleanable_bind (by
    rw [wp_mapError]
    exact h₅.install stepLink rfl (by simp [Resource.foreign]) rfl (by decide)) ?_
  intro _ w₆ h₆
  refine cleanable_bind h₆.completeStep ?_
  intro _ w₇ h₇
  refine cleanable_bind (by rw [wp_mapError]; exact h₇.call (by simp [BackendCall.adds])) ?_
  intro _ w₈ h₈
  refine cleanable_bind h₈.completeStep ?_
  intro _ w₉ h₉
  refine cleanable_bind (by
    rw [wp_mapError]
    exact h₉.install stepRoutes rfl (by simp [Resource.foreign]) rfl (by decide)) ?_
  intro _ w₁₀ h₁₀
  refine cleanable_bind h₁₀.completeStep ?_
  intro _ w₁₁ h₁₁
  refine cleanable_bind (by
    rw [wp_mapError]
    exact h₁₁.install stepFirewall rfl (by simp [Resource.foreign]) rfl (by decide)) ?_
  rintro _ w₁₂ ⟨r', hdecl', hsteps', hphase', hcandidate', hw'⟩
  have hsettled : Settled r'.completedSteps := by
    rw [hsteps']
    exact ⟨by decide, by decide, by decide⟩
  exact wp_setPhase_cleanable hw' (sound_preparing hphase' hcandidate') (by simp [hphase'])
    (by simp) hcandidate' hsettled

theorem keeps_prepare (owner : LeaseOwner) (declaration : PrepareDeclaration)
    (h : Accountable w) : Keeps (prepare exactFormat owner declaration) w := by
  obtain ⟨m, d, hc, hw⟩ := id h
  unfold Keeps prepare
  rw [wp_bind, wp_get, hw.record]
  cases m with
  | some r =>
    refine keeps_lift h fun _ => keeps_ensure h fun _ => ?_
    unfold Keeps
    rw [wp_ensure]
    exact ⟨fun _ => h, fun _ => h⟩
  | none =>
    refine keeps_lift h fun _ => ?_
    have hempty := covered_none.mp hw.memory
    have hcover : Covered (some (freshRecord owner declaration)) (kernel w.calls) := by
      intro res hres
      rw [hempty res] at hres
      exact absurd hres (by simp)
    have hfresh : Sound (freshRecord owner declaration) := sound_preparing rfl rfl
    refine keeps_bind (R := fun _ => Preparing declaration 0) ?_ ?_
    · refine wp_mono (hw.replaceRecord (r := freshRecord owner declaration) ?_) ?_ ?_
        (fun _ hq => hq.durable hc.disk)
      · intro res _ hacc
        exact hacc.elim
      · intro _ w' hw'
        exact ⟨_, rfl, rfl, rfl, rfl, hw'⟩
      · rintro _ w' (hw' | hw')
        · exact hw'.accountable hc
        · refine hw'.accountable ⟨by simp, ?_⟩
          intro r' hr'
          obtain rfl := Option.some.inj hr'
          exact hfresh
    · intro _ w' hw'
      unfold Keeps
      rw [wp_handle]
      refine wp_mono (wp_prepareSteps hw') (fun _ _ hq => hq) ?_ (fun _ hq => hq)
      intro e w₂ hw₂
      exact keeps_cleanup_fail e hw₂

theorem keeps_commitInitial (hs : Sound r) (hd : ∀ r', d = some r' → Sound r')
    (hw : Holds (some r) d (fun _ => False) w) (hphase : r.phase = .prepared)
    (hcandidate : r.recoveryCandidate = none) :
    Keeps (commitInitial exactFormat r.declaration) w := by
  have hsettled : Settled r.completedSteps :=
    hs.settled (Or.inl (by simp [hphase, TransactionPhase.live]))
  have hsettled' : Settled (r.completedSteps ||| stepPolicyRule) :=
    ⟨by rw [stepDone_or, hsettled.link, Bool.true_or],
      by rw [stepDone_or, hsettled.routes, Bool.true_or],
      by rw [stepDone_or, hsettled.firewall, Bool.true_or]⟩
  have hdone : stepDone (r.completedSteps ||| stepPolicyRule) stepPolicyRule = true := by
    rw [stepDone_or, show stepDone stepPolicyRule stepPolicyRule = true by decide, Bool.or_true]
  have hs' : Sound { r with completedSteps := r.completedSteps ||| stepPolicyRule } :=
    ⟨fun _ => hsettled', fun hdr => by simp [hphase] at hdr, fun _ => hcandidate⟩
  unfold Keeps commitInitial
  rw [wp_handle]
  refine wp_mono (Q := fun _ => Accountable) (E := fun _ => Cleanable) ?_ (fun _ _ hq => hq) ?_
    (fun _ hq => hq)
  · refine cleanable_bind (wp_amend_cleanable hw hd (fun res _ hacc => accounted_of_complete hacc)
      hs' (by simp [hphase]) hcandidate) ?_
    intro _ w₁ hw₁
    refine cleanable_bind (R := fun _ => Holds (some { r with
      completedSteps := r.completedSteps ||| stepPolicyRule }) (some { r with
      completedSteps := r.completedSteps ||| stepPolicyRule }) (fun _ => False)) ?_ ?_
    · rw [atStage, wp_mapError]
      refine wp_call_cleanable hw₁ hs' (by simp [hphase]) hcandidate ?_
      intro res hres
      obtain rfl := List.mem_singleton.mp hres
      exact ⟨by simp [Resource.foreign], hdone⟩
    · intro _ w₂ hw₂
      exact wp_setPhase_cleanable hw₂ hs' (by simp [hphase]) (by simp) hcandidate hsettled'
  · intro e w' hw'
    exact keeps_cleanup_fail e hw'

/-! ### Draining and withdrawing -/

/-- The candidate's resources become the record's own. -/
theorem keeps_drainOld (owner : LeaseOwner) (now : UInt64) (h : Accountable w) :
    Keeps (drainOld exactFormat owner now) w := by
  refine keeps_current h fun r d hs hb hd hw => keeps_lift h fun _ => ?_
  unfold Keeps
  rw [wp_ite]
  refine ⟨fun _ => h, fun _ => keeps_ensure h fun hdraining => keeps_ensure h fun _ => ?_⟩
  unfold Keeps
  rw [wp_bind, wp_okOr]
  refine ⟨?_, fun _ => h⟩
  intro c hcandidate
  have hc := Consistent.mk_some hs hb hd
  refine keeps_bind (hw.remove_keeps hc rfl) ?_
  intro _ w₁ hw₁
  refine keeps_bind (hw₁.remove_keeps hc rfl) ?_
  intro _ w₂ hw₂
  refine keeps_bind (hw₂.remove_keeps hc rfl) ?_
  intro _ w₃ hw₃
  have hsettled : Settled r.completedSteps :=
    hs.settled (Or.inl (by simp [hdraining, TransactionPhase.live]))
  have hpolicy := (hs.draining hdraining).2
  generalize r.recoveryCandidateOwner.getD owner = owner'
  -- what the promoted record owns was staged, or is not bound to a table
  have howned : ∀ res, Owned (promoteCandidate owner' c r) res → Staged r res ∨ Owned r res := by
    intro res ho
    cases res with
    | policyRule t => exact Or.inl ⟨hdraining, c, hcandidate, not_not.mp ho.1⟩
    | routes t => exact Or.inl ⟨c, hcandidate, not_not.mp ho.1⟩
    | firewall t => exact Or.inl ⟨c, hcandidate, not_not.mp ho.1⟩
    | link => exact Or.inr ⟨id, ho.2⟩
    | sysctls => exact Or.inr ⟨id, ho.2⟩
  refine hw₃.amend_end ?_ ⟨fun _ => hsettled, fun hdr => by simp [promoteCandidate,
    discardCandidate] at hdr, fun _ => rfl⟩ ⟨?_, ?_⟩ hd
  · intro res hA hacc
    simp only [BackendCall.removes, List.mem_singleton, false_or, not_or] at hA
    rcases hacc with ho | hst
    · cases res with
      | policyRule t => exact absurd (not_not.mp ho.1) (by simpa using hA.1.1)
      | routes t => exact absurd (not_not.mp ho.1) (by simpa using hA.2)
      | firewall t => exact absurd (not_not.mp ho.1) (by simpa using hA.1.2)
      | link => exact Or.inl ⟨id, ho.2⟩
      | sysctls => exact Or.inl ⟨id, ho.2⟩
    · cases res with
      | policyRule t =>
        obtain ⟨-, c', hc', rfl⟩ := hst
        obtain rfl : c = c' := by simpa [hcandidate] using hc'
        exact Or.inl ⟨by simp [Resource.foreign, promoteCandidate], hpolicy⟩
      | routes t =>
        obtain ⟨c', hc', rfl⟩ := hst
        obtain rfl : c = c' := by simpa [hcandidate] using hc'
        exact Or.inl ⟨by simp [Resource.foreign, promoteCandidate], hsettled.routes⟩
      | firewall t =>
        obtain ⟨c', hc', rfl⟩ := hst
        obtain rfl : c = c' := by simpa [hcandidate] using hc'
        exact Or.inl ⟨by simp [Resource.foreign, promoteCandidate], hsettled.firewall⟩
      | link => exact hst.elim
      | sysctls => exact hst.elim
  · intro _ res ho
    have hlive : r.phase.live = true := by simp [hdraining, TransactionPhase.live]
    rcases howned res ho with hst | ho'
    · exact hb.staged hlive res hst
    · exact hb.owned (Or.inl hlive) res ho'
  · intro _ res hst
    cases res <;> simp [Staged, promoteCandidate, discardCandidate] at hst

/-- Without its candidate a record still accounts for everything the candidate did not stage. -/
theorem accounted_discard {c : PrepareDeclaration} (hdecl : r'.declaration = r.declaration)
    (hsteps : r'.completedSteps = r.completedSteps) (hphase : r.phase ≠ .draining)
    (hcandidate : r.recoveryCandidate = some c) (hroutes : res ≠ .routes c.tableId)
    (hfirewall : res ≠ .firewall c.tableId) (hacc : Accounted (some r) res) :
    Accounted (some r') res := by
  rcases hacc with ho | hst
  · exact Or.inl ⟨hdecl ▸ ho.1, hsteps ▸ ho.2⟩
  · exfalso
    cases res with
    | policyRule t => exact hphase hst.1
    | routes t =>
      obtain ⟨c', hc', rfl⟩ := hst
      obtain rfl : c = c' := by simpa [hcandidate] using hc'
      exact hroutes rfl
    | firewall t =>
      obtain ⟨c', hc', rfl⟩ := hst
      obtain rfl : c = c' := by simpa [hcandidate] using hc'
      exact hfirewall rfl
    | link => exact hst
    | sysctls => exact hst

theorem sound_discard (hsettled : Settled r.completedSteps) : Sound (discardCandidate r) where
  settled _ := hsettled
  draining hdr := by simp [discardCandidate] at hdr
  unstaged _ := rfl

theorem backed_discard (hb : Backed r d)
    (hstart : r.phase.live = true ∨ r.recoveryCandidate.isSome = true) :
    Backed (discardCandidate r) d where
  owned _ res ho := hb.owned hstart res ho
  staged _ res hst := by cases res <;> simp [Staged, discardCandidate] at hst

theorem keeps_withdrawCandidate {c : PrepareDeclaration} (hs : Sound r) (hb : Backed r d)
    (hd : ∀ r', d = some r' → Sound r') (hw : Holds (some r) d (fun _ => False) w)
    (hstaged : stagedCandidate r = some c) : Keeps (withdrawCandidate exactFormat c) w := by
  unfold stagedCandidate at hstaged
  split at hstaged
  · rename_i hphase
    have hsettled : Settled r.completedSteps := by
      apply hs.settled
      rcases hphase with hpreparing | hprepared
      · exact Or.inr ⟨hpreparing, by simp [hstaged]⟩
      · exact Or.inl (by simp [hprepared, TransactionPhase.live])
    have hnot : r.phase ≠ .draining := by
      rcases hphase with h | h <;> simp [h]
    have hc := Consistent.mk_some hs hb hd
    refine keeps_bind (hw.remove_keeps hc rfl) ?_
    intro _ w₁ hw₁
    refine keeps_bind (hw₁.remove_keeps hc rfl) ?_
    intro _ w₂ hw₂
    refine hw₂.amend_end ?_ (sound_discard hsettled)
      (backed_discard hb (Or.inr (by simp [hstaged]))) hd
    intro res hA hacc
    simp only [BackendCall.removes, List.mem_singleton, false_or, not_or] at hA
    exact accounted_discard (r := r) rfl rfl hnot hstaged hA.2 hA.1 hacc
  · exact absurd hstaged (by simp)

/-! ### Changes within the table of the declaration -/

/-- The record `r` is in memory and backed. -/
def Pending (r : TransactionRecord) (w : NetworkTransaction TransactionRecord) : Prop :=
  ∃ d, Backed r d ∧ (∀ r', d = some r' → Sound r') ∧ Holds (some r) d (fun _ => False) w

theorem Pending.accountable (h : Pending r w) (hs : Sound r) : Accountable w := by
  obtain ⟨d, hb, hd, hw⟩ := h
  exact hw.accountable (Consistent.mk_some hs hb hd)

theorem Pending.of_stored (hw : Holds (some r) (some r) A w) (hs : Sound r) : Pending r w := by
  refine ⟨some r, Backed.self r, ?_, hw.weaken fun _ hf => hf.elim⟩
  intro r' hr'
  obtain rfl := Option.some.inj hr'
  exact hs

/-- A call that installs only what the record owns. -/
theorem Pending.call {c : BackendCall} (h : Pending r w)
    (hstart : r.phase.live = true ∨ r.recoveryCandidate.isSome = true)
    (hadds : ∀ res ∈ c.adds, Owned r res) :
    wp (NetdV1.call c) (fun _ => Pending r) (fun _ => Pending r) Durable w := by
  obtain ⟨d, hb, hd, hw⟩ := h
  refine wp_mono (hw.call (fun res hres => Or.inl (hadds res hres))
    (fun res hres => hb.owned hstart res (hadds res hres)) (by simp)) ?_ ?_
    (fun _ hq => hq.durable hd)
  · intro _ w' hw'
    exact ⟨d, hb, hd, hw'.weaken fun _ hf => hf.elim⟩
  · intro _ w' hw'
    exact ⟨d, hb, hd, hw'⟩

/-- The record is replaced by one that accounts for the same. -/
theorem Pending.replaceRecord (h : Pending r w)
    (hcover : ∀ res, Accounted (some r) res → Accounted (some r') res) (hs : Sound r') :
    wp (NetdV1.replaceRecord exactFormat r') (fun _ => Accountable) (fun _ => Pending r)
      Durable w := by
  obtain ⟨d, hb, hd, hw⟩ := h
  refine wp_mono (hw.replaceRecord (fun res _ hacc => hcover res hacc)) ?_ ?_
    (fun _ hq => hq.durable hd)
  · intro _ w' hw'
    exact hw'.accountable (Consistent.self hs)
  · rintro _ w' (hw' | hw')
    · exact ⟨d, hb, hd, hw'⟩
    · refine ⟨some r', ⟨?_, ?_⟩, ?_, hw'⟩
      · intro _ res ho
        exact hcover res (Or.inl ho)
      · intro _ res hst
        exact hcover res (Or.inr hst)
      · intro r₂ hr₂
        obtain rfl := Option.some.inj hr₂
        exact hs

/-- Sequencing while the record stays pending. -/
theorem pending_bind {α γ : Type} {p : Tx TransactionRecord α} {k : α → Tx TransactionRecord γ}
    {Q : γ → NetworkTransaction TransactionRecord → Prop}
    (hp : wp p (fun _ => Pending r) (fun _ => Pending r) Durable w)
    (hk : ∀ a w', Pending r w' → wp (k a) Q (fun _ => Pending r) Durable w') :
    wp (p >>= k) Q (fun _ => Pending r) Durable w := by
  rw [wp_bind]
  exact wp_mono hp hk (fun _ _ he => he) (fun _ hc => hc)

/-- A call whose error is looked at later. -/
theorem pending_errorOf {γ : Type} {p : Tx TransactionRecord Unit}
    {k : Option NetworkError → Tx TransactionRecord γ}
    (hp : wp p (fun _ => Pending r) (fun _ => Pending r) Durable w)
    (hk : ∀ e w', Pending r w' → Keeps (k e) w') : Keeps (errorOf p >>= k) w := by
  unfold Keeps
  rw [wp_bind, wp_errorOf]
  exact wp_mono hp (fun _ w' hw' => hk none w' hw')
    (fun e w' hw' => hk (some e) w' hw') (fun _ hc => hc)

/-- A candidate in the table of a settled declaration stages nothing the record does not own. -/
theorem owned_of_accounted {c : PrepareDeclaration} (hsettled : Settled r.completedSteps)
    (hcandidate : r.recoveryCandidate = some c) (htable : c.tableId = r.declaration.tableId)
    (hphase : r.phase ≠ .draining) (hacc : Accounted (some r) res) : Owned r res := by
  rcases hacc with ho | hst
  · exact ho
  · cases res with
    | policyRule t => exact absurd hst.1 hphase
    | routes t =>
      obtain ⟨c', hc', rfl⟩ := hst
      obtain rfl : c = c' := by simpa [hcandidate] using hc'
      exact ⟨by simp [Resource.foreign, htable], hsettled.routes⟩
    | firewall t =>
      obtain ⟨c', hc', rfl⟩ := hst
      obtain rfl : c = c' := by simpa [hcandidate] using hc'
      exact ⟨by simp [Resource.foreign, htable], hsettled.firewall⟩
    | link => exact hst.elim
    | sysctls => exact hst.elim

/-- The intent of a change within the table: nothing else is accounted for than before. -/
structure Intent (r : TransactionRecord) (owner : LeaseOwner) (declaration : PrepareDeclaration) :
    Prop where
  settled : Settled r.completedSteps
  phase : r.phase = .active ∨ r.phase = .suspended
  candidate : r.recoveryCandidate = none
  table : declaration.tableId = r.declaration.tableId

section

variable {owner : LeaseOwner} {declaration : PrepareDeclaration}

theorem Intent.of_sound (hs : Sound r) (hphase : r.phase = .active ∨ r.phase = .suspended)
    (htable : declaration.tableId = r.declaration.tableId) : Intent r owner declaration where
  settled := hs.settled (Or.inl (by rcases hphase with h | h <;> simp [h, TransactionPhase.live]))
  phase := hphase
  candidate := hs.unstaged hphase
  table := htable

theorem Intent.not_draining (h : Intent r owner declaration) : r.phase ≠ .draining := by
  rcases h.phase with hp | hp <;> simp [hp]

/-- Both ends of the change account for what the intent does. -/
theorem Intent.accounted (h : Intent r owner declaration)
    (htable : r'.declaration.tableId = r.declaration.tableId)
    (hsteps : r'.completedSteps = r.completedSteps)
    (hacc : Accounted (some (rollingBackTo owner declaration r)) res) : Accounted (some r') res := by
  have ho : Owned (rollingBackTo owner declaration r) res :=
    owned_of_accounted h.settled rfl h.table (by simp [rollingBackTo]) hacc
  refine Or.inl ⟨?_, by rw [hsteps]; exact ho.2⟩
  have hforeign := ho.1
  cases res <;> simp_all [Resource.foreign, rollingBackTo]

/-- The intent is stored before the first call. -/
theorem Intent.wp_amend (h : Intent r owner declaration) (hb : Backed r d)
    (hd : ∀ r', d = some r' → Sound r') (hw : Holds (some r) d (fun _ => False) w) :
    wp (amend exactFormat (rollingBackTo owner declaration))
      (fun _ => Pending (rollingBackTo owner declaration r)) (fun _ => Accountable) Durable w := by
  have hsound : Sound (rollingBackTo owner declaration r) := sound_rollingBack rfl
  have hlive : r.phase.live = true := by rcases h.phase with hp | hp <;> simp [hp, TransactionPhase.live]
  refine wp_mono (hw.amend_keeps ?_ hsound ⟨?_, ?_⟩ hd) ?_ (fun _ _ he => he) (fun _ hq => hq)
  · intro res _ hacc
    rcases hacc with ho | hst
    · exact Or.inl ho
    · cases res <;> simp [Staged, h.candidate] at hst
  · intro _ res ho
    exact hb.owned (Or.inl hlive) res ho
  · intro hl
    simp [rollingBackTo, TransactionPhase.live] at hl
  · intro _ w' hw'
    exact Pending.of_stored hw' hsound

theorem Intent.pending_accountable (h : Pending (rollingBackTo owner declaration r) w) :
    Accountable w :=
  h.accountable (sound_rollingBack rfl)

/-- The resources a call within the table may install. -/
theorem Intent.owns (h : Intent r owner declaration) {e : PrepareDeclaration}
    (htable : e.tableId = r.declaration.tableId) :
    Owned (rollingBackTo owner declaration r) .link
      ∧ Owned (rollingBackTo owner declaration r) (.routes e.tableId)
      ∧ Owned (rollingBackTo owner declaration r) (.firewall e.tableId) := by
  refine ⟨⟨id, h.settled.link⟩, ⟨?_, h.settled.routes⟩, ⟨?_, h.settled.firewall⟩⟩
  · simp [Resource.foreign, rollingBackTo, htable]
  · simp [Resource.foreign, rollingBackTo, htable]

/-- Going back to the record before the change. -/
theorem Intent.keeps_restore (h : Intent r owner declaration) (hs : Sound r)
    (hp : Pending (rollingBackTo owner declaration r) w) :
    Keeps (replaceRecord exactFormat r) w :=
  wp_mono (hp.replaceRecord (fun _ hacc => h.accounted rfl rfl hacc) hs) (fun _ _ hq => hq)
    (fun _ _ he => Intent.pending_accountable he) (fun _ hq => hq)

theorem Intent.keeps_restoreSuspended (h : Intent r owner declaration) (hs : Sound r)
    (hp : Pending (rollingBackTo owner declaration r) w) :
    Keeps (restoreSuspendedAfterReconfigure exactFormat r declaration) w := by
  have hstart : (rollingBackTo owner declaration r).phase.live = true
      ∨ (rollingBackTo owner declaration r).recoveryCandidate.isSome = true := Or.inr rfl
  obtain ⟨hlink, hroutes, hfirewall⟩ := h.owns (e := r.declaration) rfl
  refine pending_errorOf (hp.call hstart (by simp [BackendCall.adds])) fun e₁ w₁ hp₁ => ?_
  refine pending_errorOf (hp₁.call hstart (by simp [BackendCall.adds])) fun e₂ w₂ hp₂ => ?_
  refine pending_errorOf (hp₂.call hstart (by simpa [BackendCall.adds] using hlink))
    fun e₃ w₃ hp₃ => ?_
  refine pending_errorOf (hp₃.call hstart (by simpa [BackendCall.adds] using hroutes))
    fun e₄ w₄ hp₄ => ?_
  refine pending_errorOf (hp₄.call hstart (by simpa [BackendCall.adds] using hfirewall))
    fun e₅ w₅ hp₅ => ?_
  cases (e₁ <|> e₂ <|> e₃ <|> e₄ <|> e₅) with
  | some e => exact Intent.pending_accountable hp₅
  | none => exact h.keeps_restore hs hp₅

theorem keeps_reconfigureSuspended (hs : Sound r) (hb : Backed r d)
    (hd : ∀ r', d = some r' → Sound r') (hw : Holds (some r) d (fun _ => False) w)
    (hphase : r.phase = .suspended) :
    Keeps (reconfigureSuspended exactFormat owner declaration r) w := by
  have hacc := hw.accountable (Consistent.mk_some hs hb hd)
  refine keeps_ensure hacc fun hsame => ?_
  have h : Intent r owner declaration := Intent.of_sound hs (Or.inr hphase) hsame.2.1.symm
  refine keeps_bind (h.wp_amend hb hd hw) ?_
  intro _ w₁ hp₁
  have hstart : (rollingBackTo owner declaration r).phase.live = true
      ∨ (rollingBackTo owner declaration r).recoveryCandidate.isSome = true := Or.inr rfl
  obtain ⟨hlink, hroutes, hfirewall⟩ := h.owns h.table
  have hsound : Sound { r with owner, declaration, failedPrefixes := [], drainDeadlineMonoMs := 0 } :=
    ⟨hs.settled, hs.draining, hs.unstaged⟩
  unfold Keeps
  rw [wp_handle]
  refine wp_mono (Q := fun _ => Accountable)
    (E := fun _ => Pending (rollingBackTo owner declaration r)) ?_ (fun _ _ hq => hq) ?_
    (fun _ hq => hq)
  · refine pending_bind (hp₁.call hstart (by simp [BackendCall.adds])) fun _ w₂ hp₂ => ?_
    refine pending_bind (hp₂.call hstart (by simp [BackendCall.adds])) fun _ w₃ hp₃ => ?_
    refine pending_bind (hp₃.call hstart (by simpa [BackendCall.adds] using hlink))
      fun _ w₄ hp₄ => ?_
    refine pending_bind (hp₄.call hstart (by simpa [BackendCall.adds] using hroutes))
      fun _ w₅ hp₅ => ?_
    refine pending_bind (hp₅.call hstart (by simpa [BackendCall.adds] using hfirewall))
      fun _ w₆ hp₆ => ?_
    refine hp₆.replaceRecord (fun res hres => ?_) hsound
    refine h.accounted ?_ ?_ hres
    · exact h.table
    · rfl
  · intro e w₂ hp₂
    rw [wp_bind]
    exact wp_mono (h.keeps_restoreSuspended hs hp₂) (fun _ _ hq => hq) (fun _ _ hq => hq)
      (fun _ hq => hq)

/-- A call made only under a condition. -/
theorem Pending.when {c : Prop} [Decidable c] {b : BackendCall} (h : Pending r w)
    (hstart : r.phase.live = true ∨ r.recoveryCandidate.isSome = true)
    (hadds : c → ∀ res ∈ b.adds, Owned r res) :
    wp (Proc.when c (NetdV1.call b)) (fun _ => Pending r) (fun _ => Pending r) Durable w := by
  rw [wp_when]
  exact ⟨fun hc => h.call hstart (hadds hc), fun _ => h⟩

theorem Intent.keeps_restorePolicy (h : Intent r owner declaration) (hs : Sound r)
    (hp : Pending (rollingBackTo owner declaration r) w) :
    Keeps (restorePolicyAfterUpdate exactFormat r declaration) w := by
  have hstart : (rollingBackTo owner declaration r).phase.live = true
      ∨ (rollingBackTo owner declaration r).recoveryCandidate.isSome = true := Or.inr rfl
  obtain ⟨-, hroutes, hfirewall⟩ := h.owns (e := r.declaration) rfl
  unfold restorePolicyAfterUpdate
  refine pending_errorOf (hp.when hstart fun _ => by simpa [BackendCall.adds] using hroutes)
    fun e₁ w₁ hp₁ => ?_
  refine pending_errorOf (hp₁.when hstart fun _ => by simpa [BackendCall.adds] using hfirewall)
    fun e₂ w₂ hp₂ => ?_
  refine keeps_bind (R := fun _ => Pending (rollingBackTo owner declaration r)) ?_ fun _ w₃ hp₃ => ?_
  · refine wp_mono (hp₂.when hstart fun hpolicy => ?_) (fun _ _ hq => hq)
      (fun _ _ he => Intent.pending_accountable he) (fun _ hq => hq)
    intro res hres
    obtain rfl := List.mem_singleton.mp hres
    exact ⟨by simp [Resource.foreign, rollingBackTo], hpolicy⟩
  cases (e₁ <|> e₂) with
  | some e => exact Intent.pending_accountable hp₃
  | none => exact h.keeps_restore hs hp₃

/-- A changed policy of an active record must find its policy bit set: the rule is installed
again. -/
theorem keeps_changePolicy (hs : Sound r) (hb : Backed r d) (hd : ∀ r', d = some r' → Sound r')
    (hw : Holds (some r) d (fun _ => False) w) (h : Intent r owner declaration)
    (hpolicy : r.phase = .active → stepDone r.completedSteps stepPolicyRule = true) :
    Keeps (changePolicy exactFormat owner declaration r) w := by
  refine keeps_bind (h.wp_amend hb hd hw) ?_
  intro _ w₁ hp₁
  have hstart : (rollingBackTo owner declaration r).phase.live = true
      ∨ (rollingBackTo owner declaration r).recoveryCandidate.isSome = true := Or.inr rfl
  obtain ⟨-, hroutes, hfirewall⟩ := h.owns h.table
  have hsound : Sound { r with
      declaration, failedPrefixes := r.failedPrefixes.filter (inScope declaration),
      recoveryCandidate := none, recoveryCandidateOwner := none } := by
    refine ⟨fun _ => h.settled, fun hdr => absurd hdr h.not_draining, fun _ => rfl⟩
  unfold Keeps
  rw [wp_handle]
  refine wp_mono (Q := fun _ => Accountable)
    (E := fun _ => Pending (rollingBackTo owner declaration r)) ?_ (fun _ _ hq => hq) ?_
    (fun _ hq => hq)
  · refine pending_bind ?_ fun _ w₂ hp₂ => ?_
    · unfold applyPolicy
      refine pending_bind (hp₁.when hstart fun _ => by simpa [BackendCall.adds] using hroutes)
        fun _ w₂ hp₂ => ?_
      refine pending_bind (hp₂.when hstart fun _ => by simpa [BackendCall.adds] using hfirewall)
        fun _ w₃ hp₃ => ?_
      refine hp₃.when hstart fun hactive => ?_
      intro res hres
      obtain rfl := List.mem_singleton.mp hres
      exact ⟨by simp [Resource.foreign, rollingBackTo, h.table], hpolicy hactive⟩
    · refine hp₂.replaceRecord (fun res hres => ?_) hsound
      refine h.accounted ?_ ?_ hres
      · exact h.table
      · rfl
  · intro e w₂ hp₂
    rw [wp_bind]
    exact wp_mono (h.keeps_restorePolicy hs hp₂) (fun _ _ hq => hq) (fun _ _ hq => hq)
      (fun _ hq => hq)

end

end

end CandyRuntime.NetdV1
