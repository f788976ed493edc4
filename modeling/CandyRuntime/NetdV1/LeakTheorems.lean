import CandyRuntime.NetdV1.JournalTheorems
import CandyRuntime.NetdV1.ResourceTheorems

/-!
# No kernel state leaks from a v1 transaction

`Permitted` lists the operations that can lose track of a resource and the condition under
which they do not: a declaration is not rolled back while it is drained, the policy rule is
only installed over a record that will remember it, and what a failed replacement has
installed is removed before the candidate is forgotten. In every run of permitted
operations, with any failures, kills and restarts, a transaction without a record has left
nothing in the kernel.
-/

namespace CandyRuntime.NetdV1

open Lib Lib.Proc NetdProto

/-! ## The conditions -/

/-- The record remembers its policy rule. -/
def PolicyDone (r : TransactionRecord) : Prop := stepDone r.completedSteps stepPolicyRule = true

/-- The call takes effect. -/
def Fate.Applies (fate : Fate) : Prop := fate = .ok ∨ fate = .fail true

/-- `commit_with_drain` of a replacement: the calls are `activate_link`, `install_policy_rule`
and the store; after a failure the rule, the firewall and the routes of the candidate are
removed. Once the rule is installed, either the store or its removal has to take effect. -/
def CommitSafe (f : Fates) : Prop :=
  match f.backend 0 with
  | .crash => True
  | .fail _ => f.backend 2 ≠ .fail false ∧ f.backend 3 ≠ .fail false
  | .ok =>
    match f.backend 1 with
    | .crash => True
    | .fail installed =>
      (installed = true → (f.backend 2).Applies)
        ∧ f.backend 3 ≠ .fail false ∧ f.backend 4 ≠ .fail false
    | .ok =>
      match f.journal 0 with
      | .ok => True
      | .crash => False
      | .fail stored =>
        (if stored then f.backend 2 ≠ .fail false else (f.backend 2).Applies)
          ∧ f.backend 3 ≠ .fail false ∧ f.backend 4 ≠ .fail false

/-- `prepare_replacement`: the calls are `preflight`, `prepare_link`, `prepare_routes` and
`prepare_firewall`; after a failure firewall and routes are removed. What was installed has to
be removed before the candidate is forgotten. -/
def StageSafe (f : Fates) : Prop :=
  f.backend 0 = .ok → f.backend 1 = .ok →
    (f.backend 2 = .fail true → f.backend 4 ≠ .fail false)
      ∧ (f.backend 2 = .ok → ∀ installed, f.backend 3 = .fail installed →
        f.backend 5 ≠ .fail false ∧ (installed = true → f.backend 4 ≠ .fail false))

/-- `resume`: the rule is installed before its step bit is stored. -/
def ResumeSafe (f : Fates) : Prop :=
  f.backend 0 ≠ .fail true ∧ (f.backend 0 = .ok → (f.journal 0).Applies)

/-- The conditions under which an operation keeps track of its resources. -/
def Permitted {β : Type} : Operation → NetworkTransaction β → Prop
  | .rollback owner, w => ∀ r, w.record = some r → r.phase = .draining →
      ensureOwner r.owner owner ≠ .ok ()
  | .setFailedPrefixes owner prefixes, w => ∀ r, w.record = some r → r.phase = .active →
      ensureOwner r.owner owner = .ok () →
      (sortDedup prefixes).all (inScope r.declaration) = true → PolicyDone r
  | .updatePolicy owner declaration, w => ∀ r, w.record = some r → r.phase = .active →
      ensureOwner r.owner owner = .ok () →
      sameTunnelDeclaration r.declaration declaration = true → PolicyDone r
  | .resume owner, w => ∀ r, w.record = some r → r.phase = .suspended →
      ensureOwner r.owner owner = .ok () → PolicyDone r ∨ ResumeSafe w.fates
  | .commitWithDrain owner _ _, w => ∀ r c, w.record = some r → r.phase = .prepared →
      r.recoveryCandidate = some c → ensureReconfigureOwner r.owner owner = .ok () →
      PolicyDone r ∧ CommitSafe w.fates
  | .reconfigure owner declaration, w => ∀ r, w.record = some r → r.phase = .active →
      ensureReconfigureOwner r.owner owner = .ok () → r.declaration ≠ declaration →
      StageSafe w.fates
  | _, _ => True

/-! ## Calls whose fate matters -/

section

variable {Q : Unit → NetworkTransaction TransactionRecord → Prop}
  {declaration : PrepareDeclaration} {c : PrepareDeclaration}
variable {m d : Option TransactionRecord} {A : Resource → Prop} {r : TransactionRecord}
  {w : NetworkTransaction TransactionRecord}

/-- The fates of `w'` are those of `w` after one backend call. -/
structure Shifted (w w' : NetworkTransaction TransactionRecord) : Prop where
  backend : ∀ n, w'.fates.backend n = w.fates.backend (n + 1)
  journal : w'.fates.journal = w.fates.journal

/-- A change of the record leaves the fates of the backend calls alone. -/
theorem wp_amend_fates {f : TransactionRecord → TransactionRecord} (h : w.record = some r) :
    wp (amend exactFormat f) (fun _ w' => w'.fates.backend = w.fates.backend) (fun _ _ => True)
      (fun _ => True) w := by
  rw [amend, wp_bind, wp_current h, wp_bind, setRecord, wp_modify]
  change wp (writeJournal _) _ _ _ _
  rw [wp_writeJournal]
  exact ⟨fun _ => rfl, fun _ => trivial, fun _ => trivial, fun _ => trivial⟩

/-- A licensed call, with the fate that decided it. -/
theorem Holds.call_fate {c : BackendCall} (h : Holds m d A w)
    (hm : ∀ res ∈ c.adds, Accounted m res) (hd : ∀ res ∈ c.adds, Accounted d res) :
    wp (NetdV1.call c)
      (fun _ w' => w.fates.backend 0 = .ok ∧ Shifted w w'
        ∧ Holds m d (fun res => res ∉ c.adds ∧ (A res ∨ res ∈ c.removes)) w')
      (fun _ w' => ∃ applied, w.fates.backend 0 = .fail applied ∧ Shifted w w'
        ∧ Holds m d (fun res => if applied then res ∉ c.adds ∧ (A res ∨ res ∈ c.removes)
            else A res) w')
      (Holds m d A) w := by
  have heffect : ∀ res, res ∉ c.adds ∧ (A res ∨ res ∈ c.removes) →
      c.effect (kernel w.calls) res = false := by
    rintro res ⟨hnot, ha | hremoved⟩
    · simp [BackendCall.effect, hnot, h.absent res ha]
    · simp [BackendCall.effect, hnot, hremoved]
  rw [wp_call]
  refine ⟨?_, ?_, ?_⟩
  · intro hok
    exact ⟨hok, ⟨fun _ => rfl, rfl⟩, h.record, h.stored, h.memory.effect hm, h.disk.effect hd, heffect⟩
  · intro applied hfail
    refine ⟨applied, hfail, ⟨fun _ => rfl, rfl⟩, ?_⟩
    cases applied
    · exact ⟨h.record, h.stored, h.memory, h.disk, h.absent⟩
    · exact ⟨h.record, h.stored, h.memory.effect hm, h.disk.effect hd, heffect⟩
  · intro _
    exact ⟨h.record, h.stored, h.memory, h.disk, h.absent⟩

/-- A removal whose error is dropped: unless it fails without effect, the resource is gone. -/
theorem wp_ignore_remove {γ : Type} {c : BackendCall} {k : Unit → Tx TransactionRecord γ}
    {Q : γ → NetworkTransaction TransactionRecord → Prop}
    (h : Holds m d A w) (hadds : c.adds = []) (hd : ∀ r', d = some r' → Sound r')
    (hk : ∀ w', Shifted w w' → Holds m d (fun res => A res
      ∨ (w.fates.backend 0 ≠ .fail false ∧ res ∈ c.removes)) w' →
      wp (k ()) Q (fun _ => Accountable) Durable w') :
    wp (ignore (NetdV1.call c) >>= k) Q (fun _ => Accountable) Durable w := by
  rw [wp_bind, wp_ignore]
  refine wp_mono (h.call_fate (by simp [hadds]) (by simp [hadds])) ?_ ?_
    (fun _ hq => hq.durable hd)
  · rintro _ w' ⟨-, hshift, hw'⟩
    refine hk w' hshift (hw'.weaken ?_)
    rintro res (ha | ⟨-, hr⟩)
    · exact ⟨by simp [hadds], Or.inl ha⟩
    · exact ⟨by simp [hadds], Or.inr hr⟩
  · rintro _ w' ⟨applied, hfate, hshift, hw'⟩
    refine hk w' hshift (hw'.weaken ?_)
    intro res ha
    cases applied
    · rcases ha with ha | ⟨hne, -⟩
      · exact ha
      · exact absurd hfate hne
    · rcases ha with ha | ⟨-, hr⟩
      · exact ⟨by simp [hadds], Or.inl ha⟩
      · exact ⟨by simp [hadds], Or.inr hr⟩

/-- The end of a failed replacement: the candidate is forgotten after its resources are gone. -/
theorem wp_forget {e : NetworkError} {f : TransactionRecord → TransactionRecord}
    (h : Holds (some r) d A w) (hsettled : Settled r.completedSteps)
    (howned : ∀ res, Owned r res → Accounted d res) (hd : ∀ r', d = some r' → Sound r')
    (hcandidate : r.recoveryCandidate = some c)
    (hrule : r.phase = .draining → A (.policyRule c.tableId))
    (hfirewall : A (.firewall c.tableId)) (hroutes : A (.routes c.tableId))
    (hdecl : (f r).declaration = r.declaration) (hsteps : (f r).completedSteps = r.completedSteps)
    (hphase : (f r).phase = .active) (hnone : (f r).recoveryCandidate = none) :
    wp (do ignore (amend exactFormat f); fail e : Tx TransactionRecord Unit) Q
      (fun _ => Accountable) Durable w := by
  have hsound : Sound (f r) :=
    ⟨fun _ => hsteps ▸ hsettled, fun hdr => by simp [hphase] at hdr, fun _ => hnone⟩
  have hb : Backed (f r) d := by
    refine ⟨?_, ?_⟩
    · intro _ res ho
      exact howned res ⟨hdecl ▸ ho.1, hsteps ▸ ho.2⟩
    · intro _ res hst
      cases res <;> simp [Staged, hnone] at hst
  have hend : Keeps (amend exactFormat f) w := by
    refine h.amend_end ?_ hsound hb hd
    intro res hA hacc
    by_cases hdr : r.phase = .draining
    · -- the only resource staged beyond firewall and routes is the rule
      rcases hacc with ho | hst
      · exact Or.inl ⟨hdecl ▸ ho.1, hsteps ▸ ho.2⟩
      · exfalso
        cases res with
        | policyRule t =>
          obtain ⟨-, c', hc', rfl⟩ := hst
          obtain rfl : c = c' := by simpa [hcandidate] using hc'
          exact hA (hrule hdr)
        | routes t =>
          obtain ⟨c', hc', rfl⟩ := hst
          obtain rfl : c = c' := by simpa [hcandidate] using hc'
          exact hA hroutes
        | firewall t =>
          obtain ⟨c', hc', rfl⟩ := hst
          obtain rfl : c = c' := by simpa [hcandidate] using hc'
          exact hA hfirewall
        | link => exact hst
        | sysctls => exact hst
    · exact accounted_discard hdecl hsteps hdr hcandidate (fun heq => hA (heq ▸ hroutes))
        (fun heq => hA (heq ▸ hfirewall)) hacc
  rw [wp_bind, wp_ignore]
  exact wp_mono hend (fun _ _ hq => hq) (fun _ _ hq => hq) (fun _ hq => hq)

/-! ## Replacements -/

/-- The clean-up of a failed `prepare_replacement`. -/
theorem wp_unstageCandidate (e : NetworkError) (h : Holds (some r) (some r) A w) (hs : Sound r)
    (hsettled : Settled r.completedSteps) (hcandidate : r.recoveryCandidate = some declaration)
    (hphase : r.phase = .preparing)
    (hfirewall : A (.firewall declaration.tableId) ∨ w.fates.backend 0 ≠ .fail false)
    (hroutes : A (.routes declaration.tableId) ∨ w.fates.backend 1 ≠ .fail false) :
    wp (unstageCandidate exactFormat declaration e) Q (fun _ => Accountable) Durable w := by
  have hd : ∀ r', some r = some r' → Sound r' := (Consistent.self hs).disk
  refine wp_ignore_remove h rfl hd fun w₁ hshift₁ hw₁ => ?_
  refine wp_ignore_remove hw₁ rfl hd fun w₂ _ hw₂ => ?_
  rw [hshift₁.backend 0] at hw₂
  refine wp_forget hw₂ hsettled (fun _ ho => Or.inl ho) hd hcandidate ?_ ?_ ?_ rfl rfl rfl rfl
  · intro hdr
    simp [hphase] at hdr
  · rcases hfirewall with ha | hne
    · exact Or.inl (Or.inl ha)
    · exact Or.inl (Or.inr ⟨hne, by simp [BackendCall.removes]⟩)
  · rcases hroutes with ha | hne
    · exact Or.inl (Or.inl ha)
    · exact Or.inr ⟨hne, by simp [BackendCall.removes]⟩

/-- Before a replacement is staged, nothing of its table is in the kernel. -/
theorem Holds.foreign_absent (h : Holds (some r) d (fun _ => False) w)
    (hcandidate : r.recoveryCandidate = none)
    (htable : r.declaration.tableId ≠ declaration.tableId) :
    Holds (some r) d (fun res => res = .firewall declaration.tableId
      ∨ res = .routes declaration.tableId) w := by
  refine ⟨h.record, h.stored, h.memory, h.disk, ?_⟩
  intro res hres
  by_contra hne
  have hacc := h.memory res (by simpa using hne)
  rcases hacc with ho | hst
  · rcases hres with rfl | rfl
    · exact ho.1 htable.symm
    · exact ho.1 htable.symm
  · rcases hres with rfl | rfl <;> simp [Staged, hcandidate] at hst

/-- The calls of `prepare_replacement`; a failure is cleaned up according to what was
installed. -/
theorem wp_stageCalls
    (hw : Holds (some r) (some r) (fun res => res = .firewall declaration.tableId
      ∨ res = .routes declaration.tableId) w)
    (hs : Sound r) (hsettled : Settled r.completedSteps)
    (hcandidate : r.recoveryCandidate = some declaration) (hphase : r.phase = .preparing)
    (hsafe : StageSafe w.fates) :
    wp (handle
      (do
        lift (validDeclaration declaration)
        let _ ← preflight declaration
        call (.prepareLink declaration)
        call (.prepareRoutes declaration)
        call (.prepareFirewall declaration))
      (unstageCandidate exactFormat declaration))
      (fun _ => Holds (some r) (some r) (fun _ => False)) (fun _ => Accountable) Durable w := by
  have hd : ∀ r', some r = some r' → Sound r' := (Consistent.self hs).disk
  have hlink : Accounted (some r) .link := Or.inl ⟨id, hsettled.link⟩
  have hroutes : Accounted (some r) (.routes declaration.tableId) :=
    Or.inr ⟨declaration, hcandidate, rfl⟩
  have hfirewall : Accounted (some r) (.firewall declaration.tableId) :=
    Or.inr ⟨declaration, hcandidate, rfl⟩
  -- as long as nothing of the table is installed, any failure can be cleaned up
  have hnothing : ∀ {w' : NetworkTransaction TransactionRecord} (e : NetworkError),
      Holds (some r) (some r) (fun res => res = .firewall declaration.tableId
        ∨ res = .routes declaration.tableId) w' →
      wp (unstageCandidate exactFormat declaration e)
        (fun _ => Holds (some r) (some r) (fun _ => False)) (fun _ => Accountable) Durable w' :=
    fun e hw' => wp_unstageCandidate e hw' hs hsettled hcandidate hphase (Or.inl (Or.inl rfl))
      (Or.inl (Or.inr rfl))
  rw [wp_handle, wp_bind, wp_lift]
  refine ⟨fun _ _ => ?_, fun e _ => hnothing e hw⟩
  rw [preflight, wp_bind, wp_bind]
  refine wp_mono (hw.call_fate (by simp [BackendCall.adds]) (by simp [BackendCall.adds])) ?_ ?_
    (fun _ hq => hq.durable hd)
  · rintro _ w₁ ⟨hf₀, hshift₁, hw₁⟩
    have hw₁' := hw₁.weaken (B := fun res => res = .firewall declaration.tableId
      ∨ res = .routes declaration.tableId) fun res ha => ⟨by simp [BackendCall.adds], Or.inl ha⟩
    rw [wp_bind, wp_get, wp_lift]
    refine ⟨fun _ _ => ?_, fun e _ => hnothing e hw₁'⟩
    rw [wp_bind]
    refine wp_mono (hw₁'.call_fate (by simpa [BackendCall.adds] using hlink)
      (by simpa [BackendCall.adds] using hlink)) ?_ ?_ (fun _ hq => hq.durable hd)
    · rintro _ w₂ ⟨hf₁, hshift₂, hw₂⟩
      have hw₂' := hw₂.weaken (B := fun res => res = .firewall declaration.tableId
        ∨ res = .routes declaration.tableId) (by
          rintro res (rfl | rfl) <;> simp [BackendCall.adds])
      rw [hshift₁.backend] at hf₁
      obtain ⟨hsafe₂, hsafe₃⟩ := hsafe hf₀ hf₁
      rw [wp_bind]
      refine wp_mono (hw₂'.call_fate (by simpa [BackendCall.adds] using hroutes)
        (by simpa [BackendCall.adds] using hroutes)) ?_ ?_ (fun _ hq => hq.durable hd)
      · rintro _ w₃ ⟨hf₂, hshift₃, hw₃⟩
        have hw₃' := hw₃.weaken (B := fun res => res = .firewall declaration.tableId)
          (by rintro res rfl; simp [BackendCall.adds])
        rw [hshift₂.backend, hshift₁.backend] at hf₂
        refine wp_mono (hw₃'.call_fate (by simpa [BackendCall.adds] using hfirewall)
          (by simpa [BackendCall.adds] using hfirewall)) ?_ ?_ (fun _ hq => hq.durable hd)
        · rintro _ w₄ ⟨-, -, hw₄⟩
          exact hw₄.weaken fun _ hf => hf.elim
        · rintro e w₄ ⟨applied, hf₃, hshift₄, hw₄⟩
          rw [hshift₃.backend, hshift₂.backend, hshift₁.backend] at hf₃
          obtain ⟨h₅, h₄⟩ := hsafe₃ hf₂ applied hf₃
          refine wp_unstageCandidate e hw₄ hs hsettled hcandidate hphase ?_ ?_
          · cases applied
            · exact Or.inl rfl
            · right
              rw [hshift₄.backend, hshift₃.backend, hshift₂.backend, hshift₁.backend]
              exact h₄ rfl
          · right
            rw [hshift₄.backend, hshift₃.backend, hshift₂.backend, hshift₁.backend]
            exact h₅
      · rintro e w₃ ⟨applied, hf₂, hshift₃, hw₃⟩
        rw [hshift₂.backend, hshift₁.backend] at hf₂
        cases applied with
        | false => exact hnothing e hw₃
        | true =>
          refine wp_unstageCandidate e hw₃ hs hsettled hcandidate hphase ?_ ?_
          · left
            simp [BackendCall.adds]
          · right
            rw [hshift₃.backend, hshift₂.backend, hshift₁.backend]
            exact hsafe₂ hf₂
    · rintro e w₂ ⟨applied, -, -, hw₂⟩
      refine hnothing e (hw₂.weaken ?_)
      intro res ha
      cases applied
      · exact ha
      · refine ⟨?_, Or.inl ha⟩
        rcases ha with rfl | rfl <;> simp [BackendCall.adds]
  · rintro e w₁ ⟨applied, -, -, hw₁⟩
    refine hnothing e (hw₁.weaken ?_)
    intro res ha
    cases applied
    · exact ha
    · exact ⟨by simp [BackendCall.adds], Or.inl ha⟩

/-- The candidate is stored before anything of its table is installed; a failure is cleaned up
according to what was installed. -/
theorem keeps_stageReplacement {owner : LeaseOwner} (hs : Sound r) (hb : Backed r d)
    (hd : ∀ r', d = some r' → Sound r') (hw : Holds (some r) d (fun _ => False) w)
    (hphase : r.phase = .active) (htable : r.declaration.tableId ≠ declaration.tableId)
    (hsafe : StageSafe w.fates) :
    Keeps (stageReplacement exactFormat owner declaration) w := by
  have hcandidate := hs.unstaged (Or.inl hphase)
  have hlive : r.phase.live = true := by simp [hphase, TransactionPhase.live]
  have hsettled := hs.settled (Or.inl hlive)
  have hsound : Sound (stageCandidate owner declaration r) :=
    ⟨fun _ => hsettled, fun hdr => by simp [stageCandidate] at hdr,
      fun hu => by simp [stageCandidate] at hu⟩
  have hd' : ∀ r', some (stageCandidate owner declaration r) = some r' → Sound r' :=
    (Consistent.self hsound).disk
  have habsent := hw.foreign_absent hcandidate htable
  have hcover : ∀ res, Accounted (some r) res →
      Accounted (some (stageCandidate owner declaration r)) res := by
    intro res hacc
    rcases hacc with ho | hst
    · exact Or.inl ho
    · cases res <;> simp [Staged, hcandidate] at hst
  have hbacked : Backed (stageCandidate owner declaration r) d := by
    refine ⟨?_, ?_⟩
    · intro _ res ho
      exact hb.owned (Or.inl hlive) res ho
    · intro hl
      simp [stageCandidate, TransactionPhase.live] at hl
  refine keeps_bind (wp_mono (wp_and (habsent.amend_keeps (fun res _ hacc => hcover res hacc) hsound
    hbacked hd) (wp_amend_fates hw.record)) (fun _ _ hq => hq) (fun _ _ he => he.1)
    (fun _ hq => hq.1)) ?_
  rintro _ w₁ ⟨hw₁, hfates⟩
  have hsafe₁ : StageSafe w₁.fates := by
    unfold StageSafe at hsafe ⊢
    rw [hfates]
    exact hsafe
  refine keeps_bind (R := fun _ => Holds (some (stageCandidate owner declaration r))
    (some (stageCandidate owner declaration r)) (fun _ => False)) ?_ ?_
  · exact wp_stageCalls hw₁ hsound hsettled rfl rfl hsafe₁
  · intro _ w₂ hw₂
    exact keeps_setPhase hw₂ hsound (by simp [stageCandidate]) (by simp) hsettled (by simp)

/-! ## The commit of a replacement -/

/-- The clean-up of a failed commit behind the removal of the rule. -/
theorem wp_commit_tail (e : NetworkError) (h : Holds (some r) d A w)
    (hsettled : Settled r.completedSteps) (howned : ∀ res, Owned r res → Accounted d res)
    (hd : ∀ r', d = some r' → Sound r') (hcandidate : r.recoveryCandidate = some c)
    (hrule : r.phase = .draining → A (.policyRule c.tableId))
    (hfirewall : w.fates.backend 0 ≠ .fail false) (hroutes : w.fates.backend 1 ≠ .fail false) :
    wp (do
      ignore (call (.removeFirewall c))
      ignore (call (.removeRoutes c))
      ignore (amend exactFormat discardCandidate)
      fail e : Tx TransactionRecord Unit) Q (fun _ => Accountable) Durable w := by
  refine wp_ignore_remove h rfl hd fun w₁ hshift₁ hw₁ => ?_
  refine wp_ignore_remove hw₁ rfl hd fun w₂ _ hw₂ => ?_
  rw [hshift₁.backend 0] at hw₂
  refine wp_forget hw₂ hsettled howned hd hcandidate ?_ ?_ ?_ rfl rfl rfl rfl
  · intro hdr
    exact Or.inl (Or.inl (hrule hdr))
  · exact Or.inl (Or.inr ⟨hfirewall, by simp [BackendCall.removes]⟩)
  · exact Or.inr ⟨hroutes, by simp [BackendCall.removes]⟩

/-- A failed commit whose rule is accounted for, or was never installed. -/
theorem wp_commit_failed (e : NetworkError) (h : Holds (some r) d A w)
    (hsettled : Settled r.completedSteps) (howned : ∀ res, Owned r res → Accounted d res)
    (hd : ∀ r', d = some r' → Sound r') (hcandidate : r.recoveryCandidate = some c)
    (hrule : r.phase = .draining → w.fates.backend 0 ≠ .fail false)
    (hfirewall : w.fates.backend 1 ≠ .fail false) (hroutes : w.fates.backend 2 ≠ .fail false) :
    wp (commitFailed exactFormat c e) Q (fun _ => Accountable) Durable w := by
  refine wp_ignore_remove h rfl hd fun w₁ hshift₁ hw₁ => ?_
  refine wp_commit_tail e hw₁ hsettled howned hd hcandidate ?_ ?_ ?_
  · intro hdr
    exact Or.inr ⟨hrule hdr, by simp [BackendCall.removes]⟩
  · rw [hshift₁.backend]
    exact hfirewall
  · rw [hshift₁.backend]
    exact hroutes

/-- The record in memory is `m`, the stored one `d`, and only `x` may be unaccounted for. -/
structure HoldsBut (m d : Option TransactionRecord) (x : Resource)
    (w : NetworkTransaction TransactionRecord) : Prop where
  record : w.record = m
  stored : w.stored = d
  memory : ∀ res, res ≠ x → kernel w.calls res = true → Accounted m res
  disk : ∀ res, res ≠ x → kernel w.calls res = true → Accounted d res

/-- A failed commit whose rule nobody accounts for: its removal must take effect. -/
theorem wp_commit_failed_but (e : NetworkError)
    (h : HoldsBut (some r) d (.policyRule c.tableId) w) (hsettled : Settled r.completedSteps)
    (howned : ∀ res, Owned r res → Accounted d res) (hd : ∀ r', d = some r' → Sound r')
    (hcandidate : r.recoveryCandidate = some c) (hrule : (w.fates.backend 0).Applies)
    (hfirewall : w.fates.backend 1 ≠ .fail false) (hroutes : w.fates.backend 2 ≠ .fail false) :
    wp (commitFailed exactFormat c e) Q (fun _ => Accountable) Durable w := by
  have hgone : ∀ {w' : NetworkTransaction TransactionRecord}, w'.record = w.record →
      w'.stored = w.stored → w'.calls = (.removePolicyRule c, true) :: w.calls →
      Holds (some r) d (fun res => res = .policyRule c.tableId) w' := by
    intro w' hrecord hstored hcalls
    have hkernel : ∀ res, kernel w'.calls res = true →
        res ≠ .policyRule c.tableId ∧ kernel w.calls res = true := by
      intro res hres
      rw [hcalls] at hres
      simpa [kernel, BackendCall.effect, BackendCall.adds, BackendCall.removes, and_comm] using hres
    refine ⟨hrecord.trans h.record, hstored.trans h.stored, ?_, ?_, ?_⟩
    · intro res hres
      exact h.memory res (hkernel res hres).1 (hkernel res hres).2
    · intro res hres
      exact h.disk res (hkernel res hres).1 (hkernel res hres).2
    · rintro res rfl
      by_contra hne
      exact (hkernel _ (by simpa using hne)).1 rfl
  unfold commitFailed
  rw [wp_bind, wp_ignore, wp_call]
  refine ⟨?_, ?_, ?_⟩
  · intro _
    exact wp_commit_tail e (hgone rfl rfl rfl) hsettled howned hd hcandidate (fun _ => rfl)
      hfirewall hroutes
  · intro applied hfate
    rcases hrule with hok | hfail
    · rw [hok] at hfate
      exact absurd hfate (by simp)
    · obtain rfl : true = applied := by simpa [hfate] using hfail.symm
      exact wp_commit_tail e (hgone rfl rfl rfl) hsettled howned hd hcandidate (fun _ => rfl)
        hfirewall hroutes
  · intro hcrash
    rcases hrule with hok | hfail
    · simp [hcrash] at hok
    · simp [hcrash] at hfail

theorem accounted_drainingFrom {now timeout : UInt64} {res : Resource}
    (hacc : Accounted (some r) res) : Accounted (some (drainingFrom now timeout r)) res := by
  rcases hacc with ho | hst
  · exact Or.inl ho
  · right
    cases res with
    | policyRule t => exact ⟨rfl, hst.2⟩
    | routes t => exact hst
    | firewall t => exact hst
    | link => exact hst
    | sysctls => exact hst

theorem keeps_commitReplacement (now timeout : UInt64) (hs : Sound r) (hb : Backed r d)
    (hd : ∀ r', d = some r' → Sound r') (hw : Holds (some r) d (fun _ => False) w)
    (hphase : r.phase = .prepared) (hcandidate : r.recoveryCandidate = some c)
    (hpolicy : PolicyDone r) (hsafe : CommitSafe w.fates) :
    Keeps (commitReplacement exactFormat c now timeout) w := by
  have hlive : r.phase.live = true := by simp [hphase, TransactionPhase.live]
  have hsettled := hs.settled (Or.inl hlive)
  have howned := hb.owned (Or.inl hlive)
  have hsound : Sound (drainingFrom now timeout r) :=
    ⟨fun _ => hsettled, fun _ => ⟨by simp [drainingFrom, hcandidate], hpolicy⟩,
      fun hu => by simp [drainingFrom] at hu⟩
  have hd' : ∀ r', some (drainingFrom now timeout r) = some r' → Sound r' :=
    (Consistent.self hsound).disk
  have hnot : r.phase = .draining → False := by simp [hphase]
  unfold Keeps commitReplacement
  unfold CommitSafe at hsafe
  rw [wp_handle, wp_bind]
  refine wp_mono (hw.call_fate (by simp [BackendCall.adds]) (by simp [BackendCall.adds])) ?_ ?_
    (fun _ hq => hq.durable hd)
  · rintro _ w₁ ⟨hf₀, hshift, hw₁⟩
    simp only [hf₀] at hsafe
    rw [wp_bind, wp_call]
    refine ⟨?_, ?_, ?_⟩
    · -- the rule is installed; only a record that drains accounts for it
      intro hf₁
      rw [hshift.backend] at hf₁
      simp only [hf₁] at hsafe
      have hkernel : ∀ res, kernel ((BackendCall.installPolicyRule c, true) :: w₁.calls) res = true →
          res ≠ .policyRule c.tableId → kernel w₁.calls res = true := by
        intro res hres hne
        simpa [kernel, BackendCall.effect, BackendCall.adds, BackendCall.removes, hne] using hres
      have hcover : Covered (some (drainingFrom now timeout r))
          (kernel ((BackendCall.installPolicyRule c, true) :: w₁.calls)) := by
        intro res hres
        by_cases hrule : res = .policyRule c.tableId
        · subst hrule
          exact Or.inr ⟨rfl, c, hcandidate, rfl⟩
        · exact accounted_drainingFrom (hw₁.memory res (hkernel res hres hrule))
      rw [amend, wp_bind, wp_current (r := r) (by exact hw₁.record), wp_bind, setRecord, wp_modify]
      change wp (writeJournal _) _ _ _ _
      rw [wp_writeJournal]
      simp only [hshift.journal]
      refine ⟨?_, ?_, ?_, ?_⟩
      · intro _
        exact Holds.accountable (A := fun _ => False) ⟨rfl, rfl, hcover, hcover,
          fun _ hf => hf.elim⟩ (Consistent.self hsound)
      · intro hj
        simp only [hj] at hsafe
        refine wp_commit_failed _ (A := fun _ => False) ⟨rfl, rfl, hcover, hcover,
          fun _ hf => hf.elim⟩ hsettled (fun _ ho => Or.inl ho) hd' hcandidate ?_ ?_ ?_
        · intro _
          simpa [hshift.backend] using hsafe.1
        · simpa [hshift.backend] using hsafe.2.1
        · simpa [hshift.backend] using hsafe.2.2
      · intro hj
        simp only [hj] at hsafe
        refine wp_commit_failed_but _ ⟨rfl, hw₁.stored, fun res _ => hcover res, ?_⟩ hsettled howned
          hd hcandidate ?_ ?_ ?_
        · intro res hne hres
          exact hw₁.disk res (hkernel res hres hne)
        · simpa [hshift.backend] using hsafe.1
        · simpa [hshift.backend] using hsafe.2.1
        · simpa [hshift.backend] using hsafe.2.2
      · intro hj
        simp [hj] at hsafe
    · intro applied hf₁
      rw [hshift.backend] at hf₁
      simp only [hf₁] at hsafe
      cases applied with
      | false =>
        refine wp_commit_failed _ (A := fun _ => False) ⟨hw₁.record, hw₁.stored, hw₁.memory,
          hw₁.disk, fun _ hf => hf.elim⟩ hsettled howned hd hcandidate (fun h => (hnot h).elim)
          ?_ ?_
        · simpa [hshift.backend] using hsafe.2.1
        · simpa [hshift.backend] using hsafe.2.2
      | true =>
        refine wp_commit_failed_but _ ⟨hw₁.record, hw₁.stored, ?_, ?_⟩ hsettled howned hd hcandidate
          ?_ ?_ ?_
        · intro res hne hres
          refine hw₁.memory res ?_
          simpa [kernel, BackendCall.effect, BackendCall.adds, BackendCall.removes, hne] using hres
        · intro res hne hres
          refine hw₁.disk res ?_
          simpa [kernel, BackendCall.effect, BackendCall.adds, BackendCall.removes, hne] using hres
        · simpa [hshift.backend] using hsafe.1 rfl
        · simpa [hshift.backend] using hsafe.2.1
        · simpa [hshift.backend] using hsafe.2.2
    · intro _
      exact ⟨hw₁.stored ▸ hw₁.disk, fun r' hr' => hd r' (hw₁.stored ▸ hr')⟩
  · rintro e w₁ ⟨applied, hf₀, hshift, hw₁⟩
    simp only [hf₀] at hsafe
    refine wp_commit_failed e hw₁ hsettled howned hd hcandidate (fun h => (hnot h).elim) ?_ ?_
    · rw [hshift.backend]
      exact hsafe.1
    · rw [hshift.backend]
      exact hsafe.2

/-! ## The other operations -/

theorem keeps_commitWithDrain (owner : LeaseOwner) (now timeout : UInt64) (h : Accountable w)
    (hpermitted : Permitted (.commitWithDrain owner now timeout) w) :
    Keeps (commitWithDrain exactFormat owner now timeout) w := by
  refine keeps_current h fun r d hs hb hd hw => keeps_lift h fun howner => ?_
  cases hphase : r.phase with
  | draining => exact h
  | active => exact h
  | preparing => exact h
  | suspended => exact h
  | rollingBack => exact h
  | prepared =>
    cases hcandidate : r.recoveryCandidate with
    | none => exact keeps_commitInitial hs hd hw hphase hcandidate
    | some c =>
      rw [ensureStagedOwner, hcandidate, Option.isSome_some, if_pos rfl] at howner
      obtain ⟨hpolicy, hsafe⟩ := hpermitted r c hw.record hphase hcandidate howner
      exact keeps_commitReplacement now timeout hs hb hd hw hphase hcandidate hpolicy hsafe

theorem keeps_rollback (owner : LeaseOwner) (h : Accountable w)
    (hpermitted : Permitted (.rollback owner) w) : Keeps (rollback exactFormat owner) w := by
  refine keeps_current h fun r d hs hb hd hw => ?_
  cases hstaged : stagedCandidate r with
  | some c => exact keeps_lift h fun _ => keeps_withdrawCandidate hs hb hd hw hstaged
  | none =>
    refine keeps_lift h fun howner => keeps_cleanupRecord ⟨r, d, ?_, ?_, hd, hw⟩
    · intro hdraining
      exact hpermitted r hw.record hdraining howner
    · intro hcandidate
      exact hb.owned (Or.inr hcandidate)

/-- The rule of an active record is installed again. -/
theorem Pending.installRule (h : Pending r w) (hlive : r.phase.live = true) (hpolicy : PolicyDone r) :
    wp (NetdV1.call (.installPolicyRule r.declaration)) (fun _ => Pending r) (fun _ => Pending r)
      Durable w := by
  refine h.call (Or.inl hlive) ?_
  intro res hres
  obtain rfl := List.mem_singleton.mp hres
  exact ⟨by simp [Resource.foreign], hpolicy⟩

theorem keeps_setFailedPrefixes (owner : LeaseOwner) (prefixes : List Ipv4Prefix)
    (h : Accountable w) (hpermitted : Permitted (.setFailedPrefixes owner prefixes) w) :
    Keeps (setFailedPrefixes exactFormat owner prefixes) w := by
  refine keeps_current h fun r d hs hb hd hw => keeps_lift h fun howner => keeps_ensure h fun hphase =>
    keeps_ensure h fun hscope => ?_
  have hlive : r.phase.live = true := by rcases hphase with hp | hp <;> simp [hp, TransactionPhase.live]
  have hsettled := hs.settled (Or.inl hlive)
  have hp : Pending r w := ⟨d, hb, hd, hw⟩
  have hroutes : ∀ res ∈ (BackendCall.reconcileRoutes r.declaration (sortDedup prefixes)).adds,
      Owned r res := by
    intro res hres
    obtain rfl := List.mem_singleton.mp hres
    exact ⟨by simp [Resource.foreign], hsettled.routes⟩
  refine keeps_bind (wp_mono (hp.call (Or.inl hlive) hroutes) (fun _ _ hq => hq)
    (fun _ _ he => he.accountable hs) (fun _ hq => hq)) fun _ w₁ hp₁ => ?_
  refine keeps_bind (R := fun _ => Pending r) ?_ fun _ w₂ hp₂ => ?_
  · rw [wp_when]
    refine ⟨fun hactive => ?_, fun _ => hp₁⟩
    exact wp_mono (hp₁.installRule hlive (hpermitted r hw.record hactive howner hscope))
      (fun _ _ hq => hq) (fun _ _ he => he.accountable hs) (fun _ hq => hq)
  · obtain ⟨d₂, hb₂, hd₂, hw₂⟩ := hp₂
    exact keeps_amend_same ⟨rfl, rfl, rfl, rfl⟩ hw₂ hs hb₂ hd₂

theorem keeps_updatePolicy (owner : LeaseOwner) (declaration : PrepareDeclaration)
    (h : Accountable w) (hpermitted : Permitted (.updatePolicy owner declaration) w) :
    Keeps (updatePolicy exactFormat owner declaration) w := by
  refine keeps_lift h fun _ => keeps_current h fun r d hs hb hd hw => keeps_lift h fun howner =>
    keeps_ensure h fun hadmitted => ?_
  obtain ⟨hphase, -, hsame⟩ := hadmitted
  have hlive : r.phase.live = true := by rcases hphase with hp | hp <;> simp [hp, TransactionPhase.live]
  have hpolicy : r.phase = .active → PolicyDone r :=
    fun hactive => hpermitted r hw.record hactive howner hsame
  have htable : declaration.tableId = r.declaration.tableId := by
    simp only [sameTunnelDeclaration, Bool.and_eq_true, beq_iff_eq] at hsame
    exact hsame.1.1.1.symm
  unfold Keeps
  rw [wp_ite]
  refine ⟨?_, fun _ => keeps_changePolicy hs hb hd hw (Intent.of_sound hs hphase htable) hpolicy⟩
  rintro rfl
  rw [wp_when]
  refine ⟨fun hactive => ?_, fun _ => h⟩
  have hp : Pending r w := ⟨d, hb, hd, hw⟩
  exact wp_mono (hp.installRule hlive (hpolicy hactive)) (fun _ _ hq => hq.accountable hs)
    (fun _ _ he => he.accountable hs) (fun _ hq => hq)

theorem keeps_reconfigure (owner : LeaseOwner) (declaration : PrepareDeclaration)
    (h : Accountable w) (hpermitted : Permitted (.reconfigure owner declaration) w) :
    Keeps (reconfigure exactFormat owner declaration) w := by
  refine keeps_lift h fun _ => keeps_current h fun r d hs hb hd hw => keeps_lift h fun howner => ?_
  unfold Keeps
  rw [wp_ite]
  refine ⟨fun hactive => ?_, fun _ => keeps_ensure h fun hsuspended => ?_⟩
  · refine keeps_current_of hw.record (keeps_lift h fun _ => ?_)
    unfold Keeps
    rw [wp_ite]
    refine ⟨fun _ => ?_, fun hne => keeps_ensure h fun hsame => ?_⟩
    · exact keeps_replace_same (r := r) ⟨rfl, rfl, rfl, rfl⟩ hw hs hb hd
    · rw [hs.unstaged (Or.inl hactive)]
      exact keeps_stageReplacement hs hb hd hw hactive hsame.1
        (hpermitted r hw.record hactive howner hne)
  · unfold Keeps
    rw [wp_ite]
    refine ⟨fun _ => ?_, fun _ => ?_⟩
    · exact keeps_replace_same (r := r) ⟨rfl, rfl, rfl, rfl⟩ hw hs hb hd
    · exact keeps_reconfigureSuspended hs hb hd hw hsuspended

theorem settled_complete {steps : UInt16} (h : Settled steps) (step : UInt16) :
    Settled (steps ||| step) :=
  ⟨by rw [stepDone_or, h.link, Bool.true_or], by rw [stepDone_or, h.routes, Bool.true_or],
    by rw [stepDone_or, h.firewall, Bool.true_or]⟩

/-- `resume` installs the rule before its step bit is stored. -/
theorem keeps_resume (owner : LeaseOwner) (h : Accountable w)
    (hpermitted : Permitted (.resume owner) w) : Keeps (resume exactFormat owner) w := by
  refine keeps_current h fun r d hs hb hd hw => keeps_lift h fun howner => ?_
  unfold Keeps
  rw [wp_ite]
  refine ⟨fun _ => h, fun _ => keeps_ensure h fun hphase => ?_⟩
  have hlive : r.phase.live = true := by simp [hphase, TransactionPhase.live]
  have hsettled := hs.settled (Or.inl hlive)
  have hcandidate := hs.unstaged (Or.inr hphase)
  have hsound : Sound { r with completedSteps := r.completedSteps ||| stepPolicyRule } :=
    ⟨fun _ => settled_complete hsettled _, fun hdr => by simp [hphase] at hdr, fun _ => hcandidate⟩
  -- the end of the operation, once the bit is stored
  have hend : ∀ {A : Resource → Prop} {w' : NetworkTransaction TransactionRecord},
      Holds (some { r with completedSteps := r.completedSteps ||| stepPolicyRule })
        (some { r with completedSteps := r.completedSteps ||| stepPolicyRule }) A w' →
      Keeps (setPhase exactFormat .active) w' :=
    fun hw' => keeps_setPhase hw' hsound (by simp [hphase]) (by simp)
      (settled_complete hsettled _) (fun _ => hcandidate)
  rcases hpermitted r hw.record hphase howner with hpolicy | ⟨hinstall, hstore⟩
  · -- the bit is already there
    have hp : Pending r w := ⟨d, hb, hd, hw⟩
    refine keeps_bind (wp_mono (hp.installRule hlive hpolicy) (fun _ _ hq => hq)
      (fun _ _ he => he.accountable hs) (fun _ hq => hq)) ?_
    rintro _ w₁ ⟨d₁, hb₁, hd₁, hw₁⟩
    have howned : ∀ res, Owned { r with
        completedSteps := r.completedSteps ||| stepPolicyRule } res → Owned r res := by
      intro res ho
      have hdone := ho.2
      rw [stepDone_or, Bool.or_eq_true] at hdone
      rcases hdone with hdone | hdone
      · exact ⟨ho.1, hdone⟩
      · have hstep : res.step = stepPolicyRule := by
          cases res <;> first | rfl | exact absurd hdone (by simp only [Resource.step]; decide)
        exact ⟨ho.1, by rw [hstep]; exact hpolicy⟩
    refine keeps_bind (hw₁.amend_keeps (fun res _ hacc => accounted_of_complete hacc) hsound
      ⟨fun hl res ho => hb₁.owned hl res (howned res ho), fun _ res hst => ?_⟩ hd₁)
      fun _ _ hw₂ => hend hw₂
    cases res <;> simp [Staged, hcandidate] at hst
  · unfold Keeps
    rw [wp_bind, wp_call]
    refine ⟨?_, ?_, ?_⟩
    · intro hf₀
      have hcover : Covered (some { r with completedSteps := r.completedSteps ||| stepPolicyRule })
          (kernel ((BackendCall.installPolicyRule r.declaration, true) :: w.calls)) := by
        refine Covered.effect (fun res hres => accounted_of_complete (hw.memory res hres)) ?_
        intro res hres
        obtain rfl := List.mem_singleton.mp hres
        refine Or.inl ⟨by simp [Resource.foreign], ?_⟩
        change stepDone (r.completedSteps ||| stepPolicyRule) stepPolicyRule = true
        rw [stepDone_or, show stepDone stepPolicyRule stepPolicyRule = true by decide, Bool.or_true]
      rw [wp_bind, completeStep, amend, wp_bind, wp_current (r := r) (by exact hw.record), wp_bind,
        setRecord, wp_modify]
      change wp (writeJournal _) _ _ _ _
      rw [wp_writeJournal]
      refine ⟨?_, ?_, ?_, ?_⟩
      · intro _
        exact hend (A := fun _ => False) ⟨rfl, rfl, hcover, hcover, fun _ hf => hf.elim⟩
      · intro _
        exact Holds.accountable (A := fun _ => False) ⟨rfl, rfl, hcover, hcover,
          fun _ hf => hf.elim⟩ (Consistent.self hsound)
      · intro hj
        rcases hstore hf₀ with hok | hfail
        · exact absurd (hj.symm.trans hok) (by simp)
        · exact absurd (hj.symm.trans hfail) (by simp)
      · intro hj
        rcases hstore hf₀ with hok | hfail
        · exact absurd (hj.symm.trans hok) (by simp)
        · exact absurd (hj.symm.trans hfail) (by simp)
    · intro applied hf₀
      cases applied with
      | true => exact absurd hf₀ hinstall
      | false =>
        exact Holds.accountable (A := fun _ => False) ⟨hw.record, hw.stored, hw.memory, hw.disk,
          fun _ hf => hf.elim⟩ (Consistent.mk_some hs hb hd)
    · intro _
      exact ⟨hw.stored ▸ hw.disk, fun r' hr' => hd r' (hw.stored ▸ hr')⟩

/-! ## Recovery -/

theorem settled_of_mask {steps : UInt16}
    (h : steps &&& (stepLink ||| stepRoutes ||| stepFirewall)
      = stepLink ||| stepRoutes ||| stepFirewall) : Settled steps := by
  have hbit : ∀ step, (stepLink ||| stepRoutes ||| stepFirewall) &&& step = step → step ≠ 0 →
      stepDone steps step = true := by
    intro step hstep hne
    have hand : steps &&& step = step := by
      rw [← hstep, ← UInt16.and_assoc, h]
    rw [stepDone, hand]
    simpa using hne
  exact ⟨hbit _ (by decide) (by decide), hbit _ (by decide) (by decide),
    hbit _ (by decide) (by decide)⟩

theorem keeps_recoverPolicyUpdate (hb : Backed r d) (hd : ∀ r', d = some r' → Sound r')
    (hw : Holds (some r) d (fun _ => False) w) (hupdate : isPolicyUpdate r = true) :
    Keeps (recoverPolicyUpdate exactFormat) w := by
  simp only [isPolicyUpdate, Bool.and_eq_true, beq_iff_eq] at hupdate
  obtain ⟨⟨⟨hphase, -⟩, hmask⟩, hany⟩ := hupdate
  have hsettled := settled_of_mask hmask
  cases hcandidate : r.recoveryCandidate with
  | none => simp [hcandidate] at hany
  | some c =>
    simp only [hcandidate, Option.any_some, sameTunnelDeclaration, Bool.and_eq_true,
      beq_iff_eq] at hany
    have htable : c.tableId = r.declaration.tableId := hany.1.1.1.symm
    have hs := sound_rollingBack hphase
    have hstart : r.phase.live = true ∨ r.recoveryCandidate.isSome = true :=
      Or.inr (by simp [hcandidate])
    have hp : Pending r w := ⟨d, hb, hd, hw⟩
    have hroutes : Owned r (.routes r.declaration.tableId) :=
      ⟨by simp [Resource.foreign], hsettled.routes⟩
    have hfirewall : Owned r (.firewall r.declaration.tableId) :=
      ⟨by simp [Resource.foreign], hsettled.firewall⟩
    refine keeps_current_of hw.record ?_
    unfold Keeps
    rw [wp_bind, hcandidate, wp_okOr_some]
    refine wp_mono (Q := fun _ => Accountable) (E := fun _ => Pending r) ?_ (fun _ _ hq => hq)
      (fun _ _ he => he.accountable hs) (fun _ hq => hq)
    refine pending_bind (hp.when hstart fun _ => by simpa [BackendCall.adds] using hroutes)
      fun _ w₁ hp₁ => ?_
    refine pending_bind (hp₁.when hstart fun _ => by simpa [BackendCall.adds] using hfirewall)
      fun _ w₂ hp₂ => ?_
    refine pending_bind (hp₂.when hstart fun hpolicy => ?_) fun _ w₃ hp₃ => ?_
    · intro res hres
      obtain rfl := List.mem_singleton.mp hres
      exact ⟨by simp [Resource.foreign], hpolicy⟩
    · refine hp₃.replaceRecord (fun res hacc => ?_) ⟨fun _ => hsettled, ?_, fun _ => rfl⟩
      · have ho : Owned r res := owned_of_accounted hsettled hcandidate htable (by simp [hphase]) hacc
        exact Or.inl ho
      · intro hdr
        dsimp only at hdr
        split at hdr <;> simp at hdr

theorem keeps_recoverOrphan (alive : Bool) (now : UInt64) (h : Accountable w) :
    Keeps (recoverOrphan exactFormat alive now) w := by
  obtain ⟨m, d, hc, hw⟩ := id h
  unfold Keeps recoverOrphan
  rw [wp_bind, wp_get, hw.record]
  cases m with
  | none => exact h
  | some r =>
    obtain ⟨hs, hb⟩ := hc.memory r rfl
    have hdone : ∀ {p : Tx TransactionRecord Unit} {w' : NetworkTransaction TransactionRecord},
        Keeps p w' → Keeps (do p; return true) w' := by
      intro p w' hp
      unfold Keeps
      rw [wp_bind]
      exact wp_mono hp (fun _ _ hq => hq) (fun _ _ hq => hq) (fun _ hq => hq)
    dsimp only
    rw [wp_ite]
    refine ⟨fun hupdate => hdone (keeps_recoverPolicyUpdate hb hc.disk hw hupdate), fun _ => ?_⟩
    cases hstaged : stagedCandidate r with
    | some c =>
      dsimp only
      rw [wp_ite]
      exact ⟨fun _ => h, fun _ => hdone (keeps_withdrawCandidate hs hb hc.disk hw hstaged)⟩
    | none =>
      dsimp only
      rw [wp_ite]
      refine ⟨fun _ => ?_, fun hphase => ?_⟩
      · rw [wp_ite]
        exact ⟨fun _ => h, fun _ => hdone (keeps_drainOld _ _ h)⟩
      · rw [wp_ite]
        refine ⟨fun _ => h, fun _ => hdone (keeps_cleanupRecord ⟨r, d, hphase, ?_, hc.disk, hw⟩)⟩
        intro hcandidate
        exact hb.owned (Or.inr hcandidate)

/-! ## Runs -/

/-- Every permitted operation keeps the invariant. -/
theorem keeps_exec (op : Operation) (h : Accountable w) (hpermitted : Permitted op w) :
    Keeps (exec exactFormat op) w := by
  cases op with
  | prepare owner declaration => exact keeps_prepare owner declaration h
  | commitWithDrain owner now timeout => exact keeps_commitWithDrain owner now timeout h hpermitted
  | drainOld owner now => exact keeps_drainOld owner now h
  | rollback owner => exact keeps_rollback owner h hpermitted
  | setFailedPrefixes owner prefixes => exact keeps_setFailedPrefixes owner prefixes h hpermitted
  | renewLease owner => exact keeps_renewLease owner h
  | updateMtu owner mtu => exact keeps_updateMtu owner mtu h
  | suspend owner => exact keeps_suspend owner h
  | resume owner => exact keeps_resume owner h hpermitted
  | reconfigure owner declaration => exact keeps_reconfigure owner declaration h hpermitted
  | updatePolicy owner declaration => exact keeps_updatePolicy owner declaration h hpermitted
  | recoverOrphan alive now =>
    change wp (recoverOrphan exactFormat alive now >>= fun _ => pure ()) _ _ _ w
    rw [wp_bind]
    exact wp_mono (keeps_recoverOrphan alive now h) (fun _ _ hq => hq) (fun _ _ hq => hq)
      (fun _ hq => hq)

theorem accountable_of_reachable (h : Reachable exactFormat Permitted w) : Accountable w := by
  refine reachable_of_wp (D := Durable) ?_ ?_ (fun op w' => keeps_exec op) ?_ ?_ h
  · refine ⟨none, none, ⟨by simp, by simp⟩, ⟨rfl, rfl, ?_, ?_, fun _ hf => hf.elim⟩⟩
    · exact covered_none.mpr fun _ => rfl
    · exact covered_none.mpr fun _ => rfl
  · rintro w' fates readings ⟨m, d, hc, hw⟩
    exact ⟨m, d, hc, hw.record, hw.stored, hw.memory, hw.disk, hw.absent⟩
  · rintro w' ⟨m, d, hc, hw⟩
    exact hw.durable hc.disk
  · rintro w' record ⟨hcovered, hsound⟩ hload
    have hrecord : record = w'.stored := by
      cases hstored : w'.stored with
      | none => simpa [load, hstored] using hload.symm
      | some r => simpa [load, hstored, exactFormat, Except.map] using hload.symm
    subst hrecord
    refine ⟨w'.stored, w'.stored, ⟨?_, hsound⟩, ⟨rfl, rfl, hcovered, hcovered, fun _ hf => hf.elim⟩⟩
    intro r hr
    rw [hr]
    exact ⟨hsound r hr, Backed.self r⟩

/-- **No leak.** In every run of permitted operations, whatever fails and wherever the process
is killed, a transaction without a record has left no resource in the kernel. -/
theorem kernel_empty_of_reachable (h : Reachable exactFormat Permitted w)
    (hnone : w.record = none) (res : Resource) : kernel w.calls res = false := by
  obtain ⟨m, d, -, hw⟩ := accountable_of_reachable h
  have hm : Covered none (kernel w.calls) := by
    rw [← hnone, hw.record]
    exact hw.memory
  exact covered_none.mp hm res

end

/-! ## Two runs that leak, and one that does not -/

namespace Sample

/-- The process is killed in front of the `n`-th write of the journal. -/
def killedAtStore (n : ℕ) : Fates :=
  { Fates.allOk with journal := fun i => if i = n then .crash else .ok }

/-- The owner after a reload of the declaration. -/
def nextOwner : LeaseOwner := { owner with generation := 4 }

/-- A replacement is committed and the owner rolls back while the old one is drained. -/
def drainingRollback : NetworkTransaction TransactionRecord :=
  [succeeding (.prepare owner declaration), succeeding (.commitWithDrain owner 10 50),
   succeeding (.reconfigure nextOwner replacement), succeeding (.commitWithDrain nextOwner 20 50),
   succeeding (.rollback owner)].foldl (stepOnce exactFormat) .fresh

/-- The process is killed while it resumes, after the rule is installed. -/
def killedResume : NetworkTransaction TransactionRecord :=
  [succeeding (.prepare owner declaration), succeeding (.commitWithDrain owner 10 50),
   succeeding (.suspend owner), (.resume owner, killedAtStore 0, readings),
   succeeding (.recoverOrphan false 20)].foldl (stepOnce exactFormat) .fresh

def prepared : NetworkTransaction TransactionRecord :=
  stepOnce exactFormat .fresh (succeeding (.prepare owner declaration))

/-- The first commit is killed between the rule and the store of its phase. -/
def killedCommit : NetworkTransaction TransactionRecord :=
  stepOnce exactFormat prepared (.commitWithDrain owner 10 50, killedAtStore 1, readings)

def recovered : NetworkTransaction TransactionRecord :=
  stepOnce exactFormat killedCommit (succeeding (.recoverOrphan false 20))

theorem prepared_record_candidate :
    prepared.record.map (·.recoveryCandidate) = some none := by
  decide

theorem recovered_reachable : Reachable exactFormat Permitted recovered := by
  have hprepared : Reachable exactFormat Permitted prepared :=
    steps_stepOnce _ _ trivial
  have hcommit : Reachable exactFormat Permitted killedCommit := by
    refine hprepared.trans (steps_stepOnce _ _ ?_)
    intro r c hr _ hc
    have hnone := prepared_record_candidate
    rw [show prepared.record = some r from hr] at hnone
    simp [hc] at hnone
  exact hcommit.trans (steps_stepOnce _ _ trivial)

end Sample

theorem kernel_empty_of_killed_commit :
    kernel Sample.killedCommit.calls (.policyRule 20000) = true
      ∧ Sample.recovered.record = none
      ∧ kernel Sample.recovered.calls (.policyRule 20000) = false := by
  have hnone : Sample.recovered.record = none := by decide
  refine ⟨by decide, hnone, ?_⟩
  exact kernel_empty_of_reachable Sample.recovered_reachable hnone (.policyRule 20000)

/-- The rule of a committed replacement survives the roll-back, and the rule installed by an
interrupted `resume` survives the recovery. -/
theorem kernel_not_empty_of_reachable :
    (∃ w, Reachable exactFormat (fun _ _ => True) w ∧ w.record = none
      ∧ kernel w.calls (.policyRule 20001) = true)
    ∧ ∃ w, Reachable exactFormat (fun _ _ => True) w ∧ w.record = none
      ∧ kernel w.calls (.policyRule 20000) = true := by
  refine ⟨⟨Sample.drainingRollback, ?_, ?_, ?_⟩, ⟨Sample.killedResume, ?_, ?_, ?_⟩⟩
  · exact reachable_foldl_stepOnce .refl _ fun _ _ _ => trivial
  · decide
  · decide
  · exact reachable_foldl_stepOnce .refl _ fun _ _ _ => trivial
  · decide
  · decide

end CandyRuntime.NetdV1
