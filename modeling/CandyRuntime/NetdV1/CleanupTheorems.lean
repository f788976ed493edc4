import CandyRuntime.NetdV1.Resources

/-!
# The resource invariant and the clean-up of a v1 transaction

The invariant `Accountable` of all runs: the record in memory and the stored record both cover
the kernel, both have the step bits their phase promises (`Sound`), and what memory is about to
rely on is backed by the stored record (`Backed`). Where the process is killed, the stored
record still covers the kernel (`Durable`). `cleanup_record` keeps the invariant wherever it
may start (`Cleanable`).
-/

namespace CandyRuntime.NetdV1

open Lib Lib.Proc NetdProto

variable {res : Resource} {step : UInt16}

/-! ## The invariant -/

/-- The phases in which an owner is served. -/
def TransactionPhase.live : TransactionPhase → Bool
  | .prepared | .active | .suspended | .draining => true
  | .preparing | .rollingBack => false

/-- Link, routes and firewall of the declaration have been installed. -/
structure Settled (steps : UInt16) : Prop where
  link : stepDone steps stepLink = true
  routes : stepDone steps stepRoutes = true
  firewall : stepDone steps stepFirewall = true

/-- The steps a record's phase promises. -/
structure Sound (r : TransactionRecord) : Prop where
  settled : r.phase.live = true ∨ (r.phase = .preparing ∧ r.recoveryCandidate.isSome = true) →
    Settled r.completedSteps
  draining : r.phase = .draining →
    r.recoveryCandidate.isSome = true ∧ stepDone r.completedSteps stepPolicyRule = true
  unstaged : r.phase = .active ∨ r.phase = .suspended → r.recoveryCandidate = none

/-- What the record in memory may install again without a store is accounted for on disk. -/
structure Backed (r : TransactionRecord) (d : Option TransactionRecord) : Prop where
  owned : r.phase.live = true ∨ r.recoveryCandidate.isSome = true →
    ∀ res, Owned r res → Accounted d res
  staged : r.phase.live = true → ∀ res, Staged r res → Accounted d res

/-- The pure part of the invariant. -/
structure Consistent (m d : Option TransactionRecord) : Prop where
  memory : ∀ r, m = some r → Sound r ∧ Backed r d
  disk : ∀ r, d = some r → Sound r

/-- The invariant of all runs. -/
def Accountable (w : NetworkTransaction TransactionRecord) : Prop :=
  ∃ m d, Consistent m d ∧ Holds m d (fun _ => False) w

/-- What is left of it when the process is killed. -/
def Durable (w : NetworkTransaction TransactionRecord) : Prop :=
  Covered w.stored (kernel w.calls) ∧ ∀ r, w.stored = some r → Sound r

/-- The operation keeps the invariant. -/
def Keeps {α : Type} (m : Tx TransactionRecord α) (w : NetworkTransaction TransactionRecord) :
    Prop :=
  wp m (fun _ => Accountable) (fun _ => Accountable) Durable w

section

variable {m d : Option TransactionRecord} {A : Resource → Prop} {r : TransactionRecord}
  {w : NetworkTransaction TransactionRecord}

theorem Backed.self (r : TransactionRecord) : Backed r (some r) where
  owned _ _ h := Or.inl h
  staged _ _ h := Or.inr h

theorem Consistent.self (h : Sound r) : Consistent (some r) (some r) where
  memory r' hr := by
    obtain rfl := Option.some.inj hr
    exact ⟨h, Backed.self r⟩
  disk r' hr := by
    obtain rfl := Option.some.inj hr
    exact h

theorem Consistent.mk_some (hs : Sound r) (hb : Backed r d) (hd : ∀ r, d = some r → Sound r) :
    Consistent (some r) d where
  memory r' hr := by
    obtain rfl := Option.some.inj hr
    exact ⟨hs, hb⟩
  disk := hd

theorem Holds.accountable (h : Holds m d A w) (hc : Consistent m d) : Accountable w :=
  ⟨m, d, hc, h.weaken fun _ hf => hf.elim⟩

theorem Holds.durable (h : Holds m d A w) (hd : ∀ r, d = some r → Sound r) : Durable w :=
  ⟨h.stored ▸ h.disk, fun r hr => hd r (h.stored ▸ hr)⟩

theorem keeps_current_of {α : Type} {k : TransactionRecord → Tx TransactionRecord α}
    (h : w.record = some r) (hk : Keeps (k r) w) : Keeps (current >>= k) w := by
  unfold Keeps
  rw [wp_bind, wp_current h]
  exact hk

/-- The record of a transaction that has none is refused. -/
theorem keeps_current {α : Type} {k : TransactionRecord → Tx TransactionRecord α}
    (h : Accountable w)
    (hk : ∀ r d, Sound r → Backed r d → (∀ r', d = some r' → Sound r') →
      Holds (some r) d (fun _ => False) w → Keeps (k r) w) : Keeps (current >>= k) w := by
  obtain ⟨m, d, hc, hw⟩ := h
  unfold Keeps current
  simp only [wp_bind, wp_get, hw.record]
  cases m with
  | none => exact hw.accountable hc
  | some r =>
    obtain ⟨hs, hb⟩ := hc.memory r rfl
    exact hk r d hs hb hc.disk hw

theorem keeps_bind {α γ : Type} {p : Tx TransactionRecord α} {k : α → Tx TransactionRecord γ}
    {R : α → NetworkTransaction TransactionRecord → Prop}
    (hp : wp p R (fun _ => Accountable) Durable w) (hk : ∀ a w', R a w' → Keeps (k a) w') :
    Keeps (p >>= k) w := by
  unfold Keeps
  rw [wp_bind]
  exact wp_mono hp hk (fun _ _ he => he) (fun _ hc => hc)

/-- A check that leaves the state alone. -/
theorem keeps_lift {γ : Type} {e : Except NetworkError Unit} {k : Unit → Tx TransactionRecord γ}
    (h : Accountable w) (hk : e = .ok () → Keeps (k ()) w) : Keeps (lift e >>= k) w := by
  unfold Keeps
  rw [wp_bind, wp_lift]
  exact ⟨fun a ha => hk (by rw [ha]), fun _ _ => h⟩

theorem keeps_ensure {γ : Type} {c : Prop} [Decidable c] {e : NetworkError}
    {k : Unit → Tx TransactionRecord γ} (h : Accountable w) (hk : c → Keeps (k ()) w) :
    Keeps (ensure c e >>= k) w := by
  unfold Keeps
  rw [wp_bind, wp_ensure]
  exact ⟨hk, fun _ => h⟩

/-- A licensed call between two states of the invariant. -/
theorem Holds.call_keeps {c : BackendCall} (h : Holds m d A w) (hc : Consistent m d)
    (hm : ∀ res ∈ c.adds, Accounted m res) (hd : ∀ res ∈ c.adds, Accounted d res)
    (hA : ∀ res ∈ c.adds, ¬ A res) :
    wp (NetdV1.call c) (fun _ => Holds m d (fun res => A res ∨ (res ∈ c.removes ∧ res ∉ c.adds)))
      (fun _ => Accountable) Durable w :=
  wp_mono (h.call hm hd hA) (fun _ _ hq => hq) (fun _ _ he => he.accountable hc)
    (fun _ hq => hq.durable hc.disk)

/-- A call that installs nothing. -/
theorem Holds.remove_keeps {c : BackendCall} (h : Holds m d A w) (hc : Consistent m d)
    (hadds : c.adds = []) :
    wp (NetdV1.call c) (fun _ => Holds m d (fun res => A res ∨ res ∈ c.removes))
      (fun _ => Accountable) Durable w := by
  refine wp_mono (h.call_keeps hc ?_ ?_ ?_) ?_ (fun _ _ he => he) (fun _ hq => hq)
  · simp [hadds]
  · simp [hadds]
  · simp [hadds]
  · intro _ w' hw
    exact hw.weaken (fun res ha => ha.imp_right fun hr => ⟨hr, by simp [hadds]⟩)

/-- A change of the record and its store. -/
theorem Holds.amend_keeps {f : TransactionRecord → TransactionRecord}
    (h : Holds (some r) d A w)
    (hcover : ∀ res, ¬ A res → Accounted (some r) res → Accounted (some (f r)) res)
    (hs : Sound (f r)) (hb : Backed (f r) d) (hd : ∀ r, d = some r → Sound r) :
    wp (NetdV1.amend exactFormat f) (fun _ => Holds (some (f r)) (some (f r)) A)
      (fun _ => Accountable) Durable w := by
  refine wp_mono (h.amend hcover) (fun _ _ hq => hq) ?_ (fun _ hq => hq.durable hd)
  rintro _ w' (hw | hw)
  · exact hw.accountable (Consistent.mk_some hs hb hd)
  · exact hw.accountable (Consistent.self hs)

theorem Holds.amend_end {f : TransactionRecord → TransactionRecord} (h : Holds (some r) d A w)
    (hcover : ∀ res, ¬ A res → Accounted (some r) res → Accounted (some (f r)) res)
    (hs : Sound (f r)) (hb : Backed (f r) d) (hd : ∀ r, d = some r → Sound r) :
    Keeps (NetdV1.amend exactFormat f) w :=
  wp_mono (h.amend_keeps hcover hs hb hd)
    (fun _ _ hq => hq.accountable (Consistent.self hs)) (fun _ _ he => he) (fun _ hq => hq)

/-- A new record is stored and taken over. -/
theorem Holds.replace_end {r' : TransactionRecord} (h : Holds (some r) d A w)
    (hcover : ∀ res, ¬ A res → Accounted (some r) res → Accounted (some r') res)
    (hc : Consistent (some r) d) (hs : Sound r') (hb : Backed r (some r')) :
    Keeps (NetdV1.replaceRecord exactFormat r') w := by
  refine wp_mono (h.replaceRecord hcover) ?_ ?_ (fun _ hq => hq.durable hc.disk)
  · intro _ w' hw
    exact hw.accountable (Consistent.self hs)
  · rintro _ w' (hw | hw)
    · exact hw.accountable hc
    · refine hw.accountable (Consistent.mk_some (hc.memory r rfl).1 hb ?_)
      intro r₂ hr₂
      obtain rfl := Option.some.inj hr₂
      exact hs

end

/-! ## Clean-up -/

section

variable {declaration : PrepareDeclaration} {c : BackendCall}
variable {d : Option TransactionRecord} {A : Resource → Prop} {r : TransactionRecord}
  {w : NetworkTransaction TransactionRecord}

/-- A clean-up in progress: the record of this declaration is rolled back. -/
def Cleaning (declaration : PrepareDeclaration) (w : NetworkTransaction TransactionRecord) : Prop :=
  ∃ r d, r.declaration = declaration ∧ r.phase = .rollingBack
    ∧ Backed r d ∧ (∀ r', d = some r' → Sound r') ∧ Holds (some r) d (fun _ => False) w

/-- Where a clean-up may start. While a declaration is drained it may not: the rule of the
candidate would no longer be accounted for. -/
def Cleanable (w : NetworkTransaction TransactionRecord) : Prop :=
  ∃ r d, r.phase ≠ .draining
    ∧ (r.recoveryCandidate.isSome = true → ∀ res, Owned r res → Accounted d res)
    ∧ (∀ r', d = some r' → Sound r') ∧ Holds (some r) d (fun _ => False) w

theorem sound_rollingBack (h : r.phase = .rollingBack) : Sound r where
  settled hs := by simp [h, TransactionPhase.live] at hs
  draining hd := by simp [h] at hd
  unstaged hu := by simp [h] at hu

theorem Cleaning.accountable (h : Cleaning declaration w) :
    Accountable w := by
  obtain ⟨r, d, -, hphase, hb, hd, hw⟩ := h
  exact hw.accountable (Consistent.mk_some (sound_rollingBack hphase) hb hd)

/-- Only the phase differs, and neither record is draining. -/
theorem accounted_of_phase {phase : TransactionPhase} (h : r.phase ≠ .draining)
    (hacc : Accounted (some r) res) : Accounted (some { r with phase }) res := by
  rcases hacc with howned | hstaged
  · exact Or.inl howned
  · right
    cases res with
    | policyRule t => exact absurd hstaged.1 h
    | routes t => exact hstaged
    | firewall t => exact hstaged
    | link => exact hstaged
    | sysctls => exact hstaged

/-- Clearing a step bit gives up nothing but what the step stood for. -/
theorem owned_of_clear
    (howned : Owned { r with completedSteps := r.completedSteps &&& ~~~ step } res) :
    Owned r res :=
  ⟨howned.1, stepDone_of_clear howned.2⟩

/-- The call removes what the step stands for, and the step is not part of another one. -/
structure Undoes (declaration : PrepareDeclaration) (c : BackendCall) (step : UInt16) : Prop where
  adds : c.adds = []
  removes : ∀ res : Resource, ¬ res.foreign declaration → res.step = step → res ∈ c.removes
  single : ∀ res : Resource, res.step ≠ step → ~~~ step &&& res.step = res.step

theorem Undoes.cover (h : Undoes declaration c step) (hr : r.declaration = declaration)
    (hres : res ∉ c.removes) (howned : Owned r res) :
    Owned { r with completedSteps := r.completedSteps &&& ~~~ step } res := by
  have hstep : res.step ≠ step := fun heq => hres (h.removes res (hr ▸ howned.1) heq)
  refine ⟨howned.1, ?_⟩
  rw [stepDone_clear (h.single res hstep)]
  exact howned.2

/-- A step stands for one resource of the declaration. -/
theorem eq_of_step {res own : Resource} (hres : ¬ res.foreign declaration)
    (hown : ¬ own.foreign declaration) (hstep : res.step = own.step) : res = own := by
  cases res <;> cases own <;> first
    | exact absurd hstep (by simp only [Resource.step]; decide)
    | simp_all [Resource.foreign]

/-- A call that removes a resource of the declaration undoes its step. -/
theorem undoes_of_removes (own : Resource) (hown : ¬ own.foreign declaration)
    (hadds : c.adds = []) (hremoves : own ∈ c.removes) :
    Undoes declaration c own.step where
  adds := hadds
  removes res hforeign hstep := by
    rw [eq_of_step hforeign hown hstep]
    exact hremoves
  single res := by
    cases own <;> cases res <;> simp only [Resource.step] <;> decide

theorem undoes_policyRule (declaration : PrepareDeclaration) :
    Undoes declaration (.removePolicyRule declaration) stepPolicyRule :=
  undoes_of_removes (.policyRule declaration.tableId) (fun h => h rfl) rfl List.mem_cons_self

theorem undoes_linkActive (declaration : PrepareDeclaration) :
    Undoes declaration (.deactivateLink declaration) stepLinkActive where
  adds := rfl
  removes res hforeign hstep := by
    cases res <;> exact absurd hstep (by simp only [Resource.step]; decide)
  single res := by
    cases res <;> simp only [Resource.step] <;> decide

theorem undoes_sysctls (declaration : PrepareDeclaration) (changes : List SysctlChange) :
    Undoes declaration (.restoreSysctls declaration changes) stepSysctls :=
  undoes_of_removes .sysctls id rfl List.mem_cons_self

theorem undoes_firewall (declaration : PrepareDeclaration) :
    Undoes declaration (.removeFirewall declaration) stepFirewall :=
  undoes_of_removes (.firewall declaration.tableId) (fun h => h rfl) rfl List.mem_cons_self

theorem undoes_routes (declaration routes : PrepareDeclaration)
    (htable : routes.tableId = declaration.tableId) :
    Undoes declaration (.removeRoutes routes) stepRoutes :=
  undoes_of_removes (.routes routes.tableId) (fun h => h htable) rfl List.mem_cons_self

theorem undoes_link (declaration : PrepareDeclaration) :
    Undoes declaration (.removeLink declaration) stepLink :=
  undoes_of_removes .link id rfl List.mem_cons_self

theorem Cleaning.of_holds (hw : Holds (some r) d A w) (hdecl : r.declaration = declaration)
    (hphase : r.phase = .rollingBack) (hb : Backed r d) (hd : ∀ r', d = some r' → Sound r') :
    Cleaning declaration w :=
  ⟨r, d, hdecl, hphase, hb, hd, hw.weaken fun _ hf => hf.elim⟩

theorem Cleaning.of_stored (hw : Holds (some r) (some r) A w)
    (hdecl : r.declaration = declaration) (hphase : r.phase = .rollingBack) :
    Cleaning declaration w := by
  refine Cleaning.of_holds hw hdecl hphase (Backed.self r) ?_
  intro r' hr'
  obtain rfl := Option.some.inj hr'
  exact sound_rollingBack hphase

/-- One step of the clean-up, whether or not its calls succeed. -/
theorem wp_cleanupStep (hundo : Undoes declaration c step) (needed : Bool)
    (first : Option NetworkError) (h : Cleaning declaration w) :
    wp (cleanupStep exactFormat needed c step first) (fun _ => Cleaning declaration)
      (fun _ => Accountable) Durable w := by
  unfold cleanupStep
  rw [wp_ite]
  refine ⟨fun _ => ?_, fun _ => h⟩
  obtain ⟨r, d, hdecl, hphase, hb, hd, hw⟩ := h
  rw [wp_bind, wp_errorOf, wp_bind]
  refine wp_mono (hw.call ?_ ?_ ?_) ?_ ?_ (fun _ hq => hq.durable hd)
  · simp [hundo.adds]
  · simp [hundo.adds]
  · simp
  · intro _ w' hw'
    have hb' : Backed { r with completedSteps := r.completedSteps &&& ~~~ step } d :=
      ⟨fun hl res ho => hb.owned hl res (owned_of_clear ho),
        fun hl => by simp [hphase, TransactionPhase.live] at hl⟩
    have hcover : ∀ res, ¬ (False ∨ (res ∈ c.removes ∧ res ∉ c.adds)) → Accounted (some r) res →
        Accounted (some { r with completedSteps := r.completedSteps &&& ~~~ step }) res := by
      intro res hA hacc
      rcases hacc with ho | hs
      · refine Or.inl (hundo.cover hdecl ?_ ho)
        intro hmem
        exact hA (Or.inr ⟨hmem, by simp [hundo.adds]⟩)
      · right
        cases res <;> exact hs
    refine wp_mono (hw'.amend hcover) ?_ ?_ (fun _ hq => hq.durable hd)
    · intro _ w₂ hw₂
      exact Cleaning.of_stored hw₂ hdecl hphase
    · rintro _ w₂ (hw₂ | hw₂)
      · exact Cleaning.of_holds hw₂ hdecl hphase hb' hd
      · exact Cleaning.of_stored hw₂ hdecl hphase
  · intro _ w' hw'
    exact Cleaning.of_holds hw' hdecl hphase hb hd

/-- The candidate is forgotten only when its firewall and routes are gone. -/
theorem wp_cleanupCandidate {candidate : Option PrepareDeclaration} (h : Cleaning declaration w)
    (hcandidate : ∀ r, w.record = some r → r.recoveryCandidate = candidate) :
    wp (cleanupCandidate exactFormat candidate) (fun _ => Cleaning declaration)
      (fun _ => Accountable) Durable w := by
  cases candidate with
  | none => exact h
  | some c =>
    obtain ⟨r, d, hdecl, hphase, hb, hd, hw⟩ := h
    have hr : r.recoveryCandidate = some c := hcandidate r hw.record
    have hkeep : ∀ {A : Resource → Prop} {w' : NetworkTransaction TransactionRecord},
        Holds (some r) d A w' → Cleaning declaration w' :=
      fun hw' => Cleaning.of_holds hw' hdecl hphase hb hd
    unfold cleanupCandidate
    rw [wp_bind, wp_errorOf]
    refine wp_mono (hw.call (by simp [BackendCall.adds]) (by simp [BackendCall.adds])
      (by simp)) ?_ ?_ (fun _ hq => hq.durable hd)
    · intro _ w₁ hw₁
      rw [wp_bind, wp_errorOf]
      refine wp_mono (hw₁.call (by simp [BackendCall.adds]) (by simp [BackendCall.adds])
        (by simp [BackendCall.adds])) ?_ ?_ (fun _ hq => hq.durable hd)
      · intro _ w₂ hw₂
        change wp (errorOf (amend exactFormat _)) _ _ _ w₂
        rw [wp_errorOf]
        -- both calls took effect: what the candidate staged is gone
        have hcover : ∀ res, ¬ ((False ∨ (res ∈ (BackendCall.removeFirewall c).removes
            ∧ res ∉ (BackendCall.removeFirewall c).adds))
            ∨ (res ∈ (BackendCall.removeRoutes c).removes
              ∧ res ∉ (BackendCall.removeRoutes c).adds)) →
            Accounted (some r) res → Accounted (some { r with
              recoveryCandidate := none, recoveryCandidateOwner := none }) res := by
          intro res hA hacc
          rcases hacc with ho | hs
          · exact Or.inl ho
          · exfalso
            cases res with
            | policyRule t => exact absurd hs.1 (by simp [hphase])
            | routes t =>
              obtain ⟨c', hc', rfl⟩ := hs
              obtain rfl : c = c' := by simpa [hr] using hc'
              exact hA (by simp [BackendCall.removes, BackendCall.adds])
            | firewall t =>
              obtain ⟨c', hc', rfl⟩ := hs
              obtain rfl : c = c' := by simpa [hr] using hc'
              exact hA (by simp [BackendCall.removes, BackendCall.adds])
            | link => exact hs
            | sysctls => exact hs
        refine wp_mono (hw₂.amend hcover) ?_ ?_ (fun _ hq => hq.durable hd)
        · intro _ w₃ hw₃
          exact Cleaning.of_stored hw₃ hdecl hphase
        · rintro _ w₃ (hw₃ | hw₃)
          · refine Cleaning.of_holds hw₃ hdecl hphase ⟨?_, ?_⟩ hd
            · intro hl
              simp [hphase, TransactionPhase.live] at hl
            · intro hl
              simp [hphase, TransactionPhase.live] at hl
          · exact Cleaning.of_stored hw₃ hdecl hphase
      · intro _ w₂ hw₂
        exact hkeep hw₂
    · intro _ w₁ hw₁
      rw [wp_bind, wp_errorOf]
      refine wp_mono (hw₁.call (by simp [BackendCall.adds]) (by simp [BackendCall.adds])
        (by simp)) ?_ ?_ (fun _ hq => hq.durable hd)
      · intro _ w₂ hw₂
        exact hkeep hw₂
      · intro _ w₂ hw₂
        exact hkeep hw₂

/-- A record with no step bit and no candidate covers nothing. -/
theorem kernel_eq_false_of_empty {K : Resource → Bool} (h : Covered (some r) K)
    (hsteps : r.completedSteps = 0) (hcandidate : r.recoveryCandidate = none) :
    ∀ res, K res = false := by
  intro res
  by_contra hne
  rcases h res (by simpa using hne) with ho | hs
  · have hdone := ho.2
    rw [hsteps, stepDone, UInt16.zero_and] at hdone
    exact absurd hdone (by decide)
  · cases res <;> simp [Staged, hcandidate] at hs

theorem wp_cleanupFinish (first : Option NetworkError) (h : Cleaning declaration w) :
    wp (cleanupFinish first) (fun _ => Accountable) (fun _ => Accountable) Durable w := by
  have hacc := h.accountable
  obtain ⟨r, d, hdecl, hphase, hb, hd, hw⟩ := h
  unfold cleanupFinish
  rw [wp_bind, wp_get, hw.record]
  change wp (if r.completedSteps = 0 ∧ r.recoveryCandidate = none then _ else _) _ _ _ w
  rw [wp_ite]
  refine ⟨?_, fun _ => hacc⟩
  rintro ⟨hsteps, hcandidate⟩
  have hempty := kernel_eq_false_of_empty hw.memory hsteps hcandidate
  have hnone : Covered none (kernel w.calls) := covered_none.mpr hempty
  rw [wp_bind, wp_errorOf, wp_bind, clearJournal, wp_writeJournal]
  refine ⟨?_, ?_, ?_, ?_⟩
  · intro _
    refine ⟨none, none, ⟨?_, ?_⟩, ⟨rfl, rfl, hnone, hnone, fun _ hf => hf.elim⟩⟩
    · intro r' hr'
      exact absurd hr' (by simp)
    · intro r' hr'
      exact absurd hr' (by simp)
  · -- the file is gone although an error was reported
    intro _
    refine ⟨some r, none, Consistent.mk_some (sound_rollingBack hphase) ⟨?_, ?_⟩ (by simp),
      ⟨hw.record, rfl, hw.memory, hnone, fun _ hf => hf.elim⟩⟩
    · intro hl
      simp [hphase, TransactionPhase.live, hcandidate] at hl
    · intro hl
      simp [hphase, TransactionPhase.live] at hl
  · intro _
    exact ⟨some r, d, Consistent.mk_some (sound_rollingBack hphase) hb hd,
      ⟨hw.record, hw.stored, hw.memory, hw.disk, hw.absent⟩⟩
  · intro _
    exact ⟨hw.stored ▸ hw.disk, fun r' hr' => hd r' (hw.stored ▸ hr')⟩

/-- **Clean-up** keeps the invariant, wherever it may start. -/
theorem keeps_cleanupRecord (h : Cleanable w) : Keeps (cleanupRecord exactFormat) w := by
  obtain ⟨r, d, hphase, howned, hd, hw⟩ := h
  have hsound : Sound { r with phase := .rollingBack } := sound_rollingBack rfl
  have hb : Backed { r with phase := .rollingBack } d := by
    refine ⟨?_, ?_⟩
    · intro hl res ho
      exact howned (by simpa [TransactionPhase.live] using hl) res ho
    · intro hl
      simp [TransactionPhase.live] at hl
  unfold cleanupRecord
  refine keeps_bind (hw.amend_keeps (fun res _ hacc => accounted_of_phase hphase hacc) hsound hb hd)
    ?_
  intro _ w₁ hw₁
  refine keeps_current_of hw₁.record ?_
  have hstart : Cleaning r.declaration w₁ := Cleaning.of_stored hw₁ rfl rfl
  have hcandidate : ∀ r', w₁.record = some r' → r'.recoveryCandidate = r.recoveryCandidate := by
    intro r' hr'
    obtain rfl := Option.some.inj (hw₁.record.symm.trans hr')
    rfl
  refine keeps_bind (wp_cleanupCandidate hstart hcandidate) ?_
  intro first w₂ h₂
  refine keeps_bind (wp_cleanupStep (undoes_policyRule _) _ _ h₂) ?_
  intro first w₃ h₃
  refine keeps_bind (wp_cleanupStep (undoes_linkActive _) _ _ h₃) ?_
  intro first w₄ h₄
  refine keeps_bind (wp_cleanupStep (undoes_sysctls _ _) _ _ h₄) ?_
  intro first w₅ h₅
  refine keeps_bind (wp_cleanupStep (undoes_firewall _) _ _ h₅) ?_
  intro first w₆ h₆
  refine keeps_bind (wp_cleanupStep (undoes_routes r.declaration
    (routesForCleanup { r with phase := .rollingBack }) rfl) _ _ h₆) ?_
  intro first w₇ h₇
  refine keeps_bind (wp_cleanupStep (undoes_link _) _ _ h₇) ?_
  intro first w₈ h₈
  refine keeps_bind (wp_cleanupFinish _ h₈) ?_
  intro first w₉ h₉
  cases first with
  | none => exact h₉
  | some e => exact h₉

end

end CandyRuntime.NetdV1
