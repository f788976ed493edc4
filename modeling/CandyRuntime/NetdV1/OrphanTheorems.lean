import CandyRuntime.Lib.Success
import CandyRuntime.NetdV1.Changes
import CandyRuntime.NetdV1.JournalTheorems

/-!
# When the recovery of an orphan returns

With every call succeeding, each branch of `recover_orphan` finds the guards of the operation it
delegates to satisfied, but one: a drain whose deadline has not passed is not refused for a living
owner, and is handed to `drain_old` for a dead one, which answers `DrainPending`.
-/

namespace CandyRuntime.NetdV1

open Lib Lib.Proc NetdProto

/-! ## The guards of a drain -/

/-- A draining record has a candidate, and the owner it promotes is the process of the record. -/
structure Drainable (r : TransactionRecord) : Prop where
  owner : ∀ o, r.recoveryCandidateOwner = some o → SameProcess r.owner o
  candidate : r.phase = .draining → r.recoveryCandidate.isSome = true

theorem SameProcess.refl (o : LeaseOwner) : SameProcess o o := ⟨rfl, rfl⟩

theorem SameProcess.symm {a b : LeaseOwner} (h : SameProcess a b) : SameProcess b a :=
  ⟨h.1.symm, h.2.symm⟩

theorem SameProcess.trans {a b c : LeaseOwner} (hab : SameProcess a b) (hbc : SameProcess b c) :
    SameProcess a c :=
  ⟨hab.1.trans hbc.1, hab.2.trans hbc.2⟩

theorem drainable_of_amends {op : Operation} {found : Option TransactionRecord}
    {r r' : TransactionRecord} (h : Drainable r) (hchange : Amends op found r r') :
    Drainable r' := by
  cases hchange with
  | sysctls sysctls hphase hsnapshot => exact ⟨h.owner, h.candidate⟩
  | steps completedSteps => exact ⟨h.owner, h.candidate⟩
  | prepared hphase => exact ⟨h.owner, by simp⟩
  | committed hphase hcandidate => exact ⟨h.owner, by simp⟩
  | resumed hphase => exact ⟨h.owner, by simp⟩
  | suspended hphase => exact ⟨h.owner, by simp⟩
  | rollingBack => exact ⟨h.owner, by simp⟩
  | dropped hphase => exact ⟨by simp, by simp [hphase]⟩
  | discarded => exact ⟨by simp [discardCandidate], by simp [discardCandidate]⟩
  | unstaged => exact ⟨by simp, by simp⟩
  | draining now timeout hphase hcandidate => exact ⟨h.owner, fun _ => hcandidate⟩
  | promoted owner candidate hphase hcandidate howner hkeeper =>
    exact ⟨by simp [promoteCandidate, discardCandidate], by simp [promoteCandidate, discardCandidate]⟩
  | failures owner prefixes hwithdraws => exact ⟨h.owner, h.candidate⟩
  | renewed owner hop howner => exact ⟨fun o ho => h.owner o ho, h.candidate⟩
  | narrowed effectiveMtu hphase hmtu => exact ⟨h.owner, h.candidate⟩
  | intended owner declaration hphase howner hop =>
    refine ⟨fun o ho => ?_, fun hdraining => by cases hdraining⟩
    rw [← Option.some.inj ho]
    exact howner
  | staged owner declaration hphase hcandidate howner hop =>
    refine ⟨fun o ho => ?_, fun hdraining => by cases hdraining⟩
    rw [← Option.some.inj ho]
    exact howner
  | adopted owner hphase howner hop =>
    exact ⟨fun o ho => howner.symm.trans (h.owner o ho), h.candidate⟩
  | reconfigured owner declaration hphase howner hop =>
    exact ⟨fun o ho => howner.symm.trans (h.owner o ho), h.candidate⟩
  | updated owner declaration hphase hcandidate hop =>
    refine ⟨by simp, fun hdraining => ?_⟩
    rw [show r.phase = .draining from hdraining] at hphase
    exact hphase.elim
  | recovered phase hphase hserving =>
    refine ⟨by simp, fun hdraining => ?_⟩
    rw [show phase = .draining from hdraining] at hserving
    exact hserving.elim

theorem closed_drainable (op : Operation) (found : Option TransactionRecord) :
    Closed op found Drainable where
  amends _ _ := drainable_of_amends
  fresh owner declaration _ _ := ⟨by simp [freshRecord], by simp [freshRecord]⟩

/-! ## Operations that meet no failure -/

/-- Every call will succeed, and there is a record. -/
structure Fine (w : NetworkTransaction TransactionRecord) : Prop where
  fates : w.fates = .allOk
  record : w.record.isSome = true

/-- Started with every call succeeding, the program returns. -/
def Returns {α : Type} (m : Tx TransactionRecord α)
    (Q : α → NetworkTransaction TransactionRecord → Prop) : Prop :=
  Triple Fine m Q (fun _ _ => False) (fun _ => False)

section Returns

variable {α γ : Type}

theorem returns_call (c : BackendCall) : Returns (call c) (fun _ => Fine) := by
  intro w hw
  rw [wp_call, hw.fates]
  exact ⟨fun _ => ⟨rfl, hw.record⟩, by simp [Fates.allOk], by simp [Fates.allOk]⟩

theorem returns_writeJournal (content : Option TransactionRecord) :
    Returns (writeJournal content) (fun _ => Fine) := by
  intro w hw
  rw [wp_writeJournal, hw.fates]
  exact ⟨fun _ => ⟨rfl, hw.record⟩, by simp [Fates.allOk], by simp [Fates.allOk],
    by simp [Fates.allOk]⟩

theorem returns_setRecord (r : TransactionRecord) : Returns (setRecord (some r)) (fun _ => Fine) :=
  fun _ hw => ⟨hw.fates, rfl⟩

theorem returns_replaceRecord (r : TransactionRecord) :
    Returns (replaceRecord exactFormat r) (fun _ => Fine) :=
  Triple.bind (returns_writeJournal _) fun _ => returns_setRecord r

theorem returns_current : Returns current (fun _ => Fine) := by
  intro w hw
  obtain ⟨r, hr⟩ := Option.isSome_iff_exists.mp hw.record
  rw [wp_current hr]
  exact hw

theorem returns_amend (f : TransactionRecord → TransactionRecord) :
    Returns (amend exactFormat f) (fun _ => Fine) := by
  intro w hw
  obtain ⟨r, hr⟩ := Option.isSome_iff_exists.mp hw.record
  rw [amend, wp_bind, wp_current hr]
  exact Triple.bind (returns_setRecord _) (fun _ => returns_writeJournal _) w hw

theorem returns_when {c : Prop} [Decidable c] (call' : BackendCall) :
    Returns (when c (call call')) (fun _ => Fine) :=
  Triple.when (fun _ => returns_call call') fun _ _ hw => hw

/-- A program that returns has no error to collect. -/
theorem returns_errorOf {m : Tx TransactionRecord α} (hm : Returns m (fun _ => Fine)) :
    Returns (errorOf m) (fun e w => e = none ∧ Fine w) := by
  intro w hw
  rw [wp_errorOf]
  exact wp_mono (hm w hw) (fun _ _ h => ⟨rfl, h⟩) (fun _ _ h => h.elim) (fun _ h => h)

/-- A step of the clean-up keeps that there is no error. -/
theorem returns_cleanupStep (needed : Bool) (c : BackendCall) (step : UInt16) :
    Returns (cleanupStep exactFormat needed c step none) (fun e w => e = none ∧ Fine w) := by
  unfold cleanupStep
  cases needed with
  | false => exact fun w hw => ⟨rfl, hw⟩
  | true =>
    have hundo : Returns (do call c; clearStep exactFormat step) (fun _ => Fine) :=
      Triple.bind (returns_call c) fun _ => returns_amend _
    refine Triple.bind (returns_errorOf hundo) fun e => ?_
    rintro w ⟨rfl, hw⟩
    exact ⟨rfl, hw⟩

theorem returns_cleanupCandidate (candidate : Option PrepareDeclaration) :
    Returns (cleanupCandidate exactFormat candidate) (fun e w => e = none ∧ Fine w) := by
  cases candidate with
  | none => exact fun w hw => ⟨rfl, hw⟩
  | some c =>
    unfold cleanupCandidate
    refine Triple.bind (returns_errorOf (returns_call _)) fun firewall => ?_
    rintro w ⟨rfl, hw⟩
    refine Triple.bind (returns_errorOf (returns_call _)) (fun routes => ?_) w hw
    rintro w ⟨rfl, hw⟩
    exact returns_errorOf (returns_amend _) w hw

theorem returns_cleanupFinish :
    Returns (cleanupFinish none) (fun e _ => e = none) := by
  intro w hw
  rw [cleanupFinish, wp_bind, wp_get]
  split
  · rfl
  · split
    · have hclear : Returns (do clearJournal; setRecord none) (fun _ _ => True) :=
        Triple.bind (returns_writeJournal none) fun _ _ _ => trivial
      rw [wp_bind, wp_errorOf]
      exact wp_mono (hclear w hw) (fun _ _ _ => rfl) (fun _ _ h => h.elim) (fun _ h => h)
    · rfl

/-- With every call succeeding the clean-up returns. -/
theorem returns_cleanupRecord : Returns (cleanupRecord exactFormat) (fun _ _ => True) := by
  -- The error collected so far is `none` after each step.
  have hnext : ∀ {k : Option NetworkError → Tx TransactionRecord Unit},
      Returns (k none) (fun _ _ => True) →
      ∀ e, Triple (fun w => e = none ∧ Fine w) (k e) (fun _ _ => True) (fun _ _ => False)
        (fun _ => False) := by
    rintro k hk e w ⟨rfl, hw⟩
    exact hk w hw
  unfold cleanupRecord
  refine Triple.bind (returns_amend _) fun _ => Triple.bind returns_current fun r => ?_
  refine Triple.bind (returns_cleanupCandidate _) (hnext ?_)
  refine Triple.bind (returns_cleanupStep _ _ _) (hnext ?_)
  refine Triple.bind (returns_cleanupStep _ _ _) (hnext ?_)
  refine Triple.bind (returns_cleanupStep _ _ _) (hnext ?_)
  refine Triple.bind (returns_cleanupStep _ _ _) (hnext ?_)
  refine Triple.bind (returns_cleanupStep _ _ _) (hnext ?_)
  refine Triple.bind (returns_cleanupStep _ _ _) (hnext ?_)
  refine Triple.bind returns_cleanupFinish fun e => ?_
  rintro w rfl
  trivial

end Returns

/-! ## The recovery -/

section Recovery

variable {w : NetworkTransaction TransactionRecord} {r : TransactionRecord} {alive : Bool}
  {now : UInt64}

theorem returns_withdrawCandidate (candidate : PrepareDeclaration) :
    Returns (withdrawCandidate exactFormat candidate) (fun _ => Fine) :=
  Triple.bind (returns_call _) fun _ => Triple.bind (returns_call _) fun _ => returns_amend _

theorem succeeds_recoverPolicyUpdate (hw : Fine w) (hr : w.record = some r)
    (hupdate : isPolicyUpdate r = true) :
    Succeeds (recoverPolicyUpdate exactFormat) (fun _ _ => True) w := by
  unfold isPolicyUpdate at hupdate
  rw [Bool.and_eq_true] at hupdate
  have hsome : ∃ candidate, r.recoveryCandidate = some candidate := by
    cases hc : r.recoveryCandidate with
    | none =>
      rw [hc] at hupdate
      cases hupdate.2
    | some candidate => exact ⟨candidate, rfl⟩
  obtain ⟨candidate, hcandidate⟩ := hsome
  unfold recoverPolicyUpdate Succeeds
  rw [wp_bind, wp_current hr, wp_bind, hcandidate, wp_okOr_some]
  have hrest := Triple.bind (returns_when (c := r.declaration.routes ≠ candidate.routes)
    (.reconcileRoutes r.declaration r.failedPrefixes)) fun _ =>
    Triple.bind (returns_when (c := firewallPolicyChanged r.declaration candidate = true)
      (.replaceFirewall candidate r.declaration)) fun _ =>
    Triple.bind (returns_when (c := stepDone r.completedSteps stepPolicyRule = true)
      (.installPolicyRule r.declaration)) fun _ => returns_replaceRecord
        { r with recoveryCandidate := none, recoveryCandidateOwner := none,
                 phase := if stepDone r.completedSteps stepPolicyRule then .active else .suspended }
  exact wp_mono (hrest w hw) (fun _ _ _ => trivial) (fun _ _ h => h) (fun _ h => h)

/-- The drain of a record whose guards hold returns exactly if its deadline has passed. -/
theorem succeeds_drainOld_iff (hw : Fine w) (hr : w.record = some r) (hdrainable : Drainable r)
    (hphase : r.phase = .draining) :
    Succeeds (drainOld exactFormat (r.recoveryCandidateOwner.getD r.owner) now) (fun _ _ => True) w
      ↔ (r.drainDeadlineMonoMs = 0 ∨ r.drainDeadlineMonoMs ≤ now) := by
  obtain ⟨candidate, hcandidate⟩ := Option.isSome_iff_exists.mp (hdrainable.candidate hphase)
  have hprocess : SameProcess r.owner (r.recoveryCandidateOwner.getD r.owner) := by
    cases ho : r.recoveryCandidateOwner with
    | none => exact SameProcess.refl r.owner
    | some o => exact hdrainable.owner o ho
  have howner : ensureStagedOwner r (r.recoveryCandidateOwner.getD r.owner) = .ok () := by
    unfold ensureStagedOwner ensureReconfigureOwner
    rw [hcandidate, Option.isSome_some, if_pos rfl, refuseIf_eq_ok]
    simpa [SameProcess] using hprocess
  have hnot : ¬ (r.phase = .active ∧ r.recoveryCandidate = none) := by simp [hphase]
  unfold drainOld Succeeds
  rw [wp_bind, wp_current hr, wp_bind, howner]
  change wp (if _ then _ else _) _ _ _ w ↔ _
  rw [if_neg hnot, wp_bind, wp_ensure, wp_bind, wp_ensure, wp_bind, hcandidate]
  constructor
  · intro h
    by_contra hpending
    exact (h.1 hphase).2 hpending
  · intro hdeadline
    refine ⟨fun _ => ⟨fun _ => ?_, fun hpending => hpending hdeadline⟩, fun h => h hphase⟩
    rw [wp_okOr_some]
    have hrest := Triple.bind (returns_call (.removePolicyRule r.declaration)) fun _ =>
      Triple.bind (returns_call (.removeFirewall r.declaration)) fun _ =>
      Triple.bind (returns_call (.removeRoutes r.declaration)) fun _ =>
        returns_amend (promoteCandidate
          (r.recoveryCandidateOwner.getD (r.recoveryCandidateOwner.getD r.owner)) candidate)
    exact wp_mono (hrest w hw) (fun _ _ _ => trivial) (fun _ _ h => h) (fun _ h => h)

/-- A drain is pending and its owner is not alive. -/
def OrphanedDrain (alive : Bool) (now : UInt64) (r : TransactionRecord) : Prop :=
  r.phase = .draining ∧ alive = false ∧ r.drainDeadlineMonoMs ≠ 0 ∧ now < r.drainDeadlineMonoMs

/-- The recovery of a record whose guards hold. -/
theorem succeeds_recoverOrphan_iff (hw : Fine w) (hr : w.record = some r)
    (hdrainable : Drainable r) :
    Succeeds (recoverOrphan exactFormat alive now) (fun _ _ => True) w
      ↔ ¬ OrphanedDrain alive now r := by
  have hreturn : ∀ m : Tx TransactionRecord Unit, Succeeds m (fun _ _ => True) w →
      Succeeds (do m; return true) (fun _ _ => True) w := by
    intro m hm
    rw [succeeds_bind]
    exact hm
  have hother : r.phase ≠ .draining → ¬ OrphanedDrain alive now r := fun hne h => hne h.1
  unfold recoverOrphan
  rw [succeeds_bind, succeeds_get]
  simp only [hr]
  by_cases hupdate : isPolicyUpdate r = true
  · have hphase : r.phase = .rollingBack := by
      unfold isPolicyUpdate at hupdate
      simp only [Bool.and_eq_true, beq_iff_eq] at hupdate
      exact hupdate.1.1.1
    rw [if_pos hupdate]
    exact iff_of_true (hreturn _ (succeeds_recoverPolicyUpdate hw hr hupdate))
      (hother (by simp [hphase]))
  · rw [if_neg hupdate]
    cases hstaged : stagedCandidate r with
    | some candidate =>
      have hphase : r.phase ≠ .draining := by
        intro hdraining
        simp [stagedCandidate, hdraining] at hstaged
      refine iff_of_true ?_ (hother hphase)
      show Succeeds (if _ then _ else _) _ w
      rw [succeeds_ite]
      exact ⟨fun _ => trivial, fun _ => hreturn _ (wp_mono (returns_withdrawCandidate candidate w hw)
        (fun _ _ _ => trivial) (fun _ _ h => h) (fun _ h => h))⟩
    | none =>
      show Succeeds (if _ then _ else _) _ w ↔ _
      by_cases hphase : r.phase = .draining
      · rw [if_pos hphase]
        by_cases hwait : alive = true ∧ (r.drainDeadlineMonoMs = 0 ∨ now < r.drainDeadlineMonoMs)
        · rw [if_pos hwait]
          exact iff_of_true trivial (fun h => by rw [h.2.1] at hwait; exact absurd hwait.1 (by simp))
        · rw [if_neg hwait, succeeds_bind]
          refine (succeeds_drainOld_iff hw hr hdrainable hphase).trans ?_
          unfold OrphanedDrain
          rw [← UInt64.not_lt]
          cases alive <;> simp [hphase] at hwait ⊢ <;> tauto
      · rw [if_neg hphase]
        refine iff_of_true ?_ (hother hphase)
        rw [succeeds_ite]
        exact ⟨fun _ => trivial, fun _ => hreturn _ (returns_cleanupRecord w hw)⟩

end Recovery

/-- With every call succeeding, the recovery of an orphan returns in a state of a run exactly if no
drain is pending there whose owner is dead. -/
theorem orphan_recovery_returns_iff {w : NetworkTransaction TransactionRecord}
    (hw : Reachable exactFormat (fun _ _ => True) w) (alive : Bool) (now : UInt64)
    (readings : SysctlKey → Option (Fin 3)) :
    (∃ recovered w', recoverOrphan exactFormat alive now (w.facing .allOk readings)
        = (.ok recovered, w'))
      ↔ ¬ ∃ r, w.record = some r ∧ OrphanedDrain alive now r := by
  have hkept := reachable_kept (carries_exactFormat Drainable)
    (fun op w _ => closed_drainable op w.record) hw
  have hreturns : (∃ recovered w', recoverOrphan exactFormat alive now (w.facing .allOk readings)
        = (.ok recovered, w'))
      ↔ Succeeds (recoverOrphan exactFormat alive now) (fun _ _ => True)
        (w.facing .allOk readings) := by
    rw [succeeds_iff]
    simp
  rw [hreturns]
  cases hrecord : w.record with
  | none =>
    have hnothing : (w.facing .allOk readings).record = none := hrecord
    refine iff_of_true ?_ (by simp)
    unfold recoverOrphan
    rw [succeeds_bind, succeeds_get]
    simp only [hnothing]
    trivial
  | some r =>
    have hfine : Fine (w.facing .allOk readings) := ⟨rfl, by simp [NetworkTransaction.facing, hrecord]⟩
    rw [succeeds_recoverOrphan_iff hfine hrecord (hkept.memory r hrecord)]
    simp

namespace Sample

/-- A replacement is committed at 20 ms with 50 ms for the drain of the old declaration. -/
def draining : NetworkTransaction TransactionRecord :=
  [succeeding (.prepare owner declaration), succeeding (.commitWithDrain owner 10 50),
   succeeding (.reconfigure { owner with generation := 4 } replacement),
   succeeding (.commitWithDrain { owner with generation := 4 } 20 50)].foldl
    (stepOnce exactFormat) .fresh

theorem draining_reachable : Reachable exactFormat (fun _ _ => True) draining :=
  reachable_foldl_stepOnce .refl _ fun _ _ _ => trivial

end Sample

/-- Once its time is over, the drain of a dead owner is finished. -/
theorem expired_drain_recovered :
    ∃ recovered w', recoverOrphan exactFormat false 70 (Sample.draining.facing .allOk Sample.readings)
      = (.ok recovered, w') :=
  (orphan_recovery_returns_iff Sample.draining_reachable false 70 Sample.readings).mpr
    (by
      rintro ⟨r, hr, -, -, -, hlt⟩
      have hdeadline : Sample.draining.record.map (·.drainDeadlineMonoMs) = some 70 := by
        decide
      rw [hr] at hdeadline
      have hdeadline : r.drainDeadlineMonoMs = 70 := Option.some.inj hdeadline
      rw [hdeadline] at hlt
      exact absurd hlt (by decide))

/-- Before, the recovery of a dead owner's drain ends with an error. -/
theorem pending_drain_not_recovered :
    ¬ ∀ (w : NetworkTransaction TransactionRecord), Reachable exactFormat (fun _ _ => True) w →
      ∀ (alive : Bool) (now : UInt64) (readings : SysctlKey → Option (Fin 3)), ∃ recovered w',
        recoverOrphan exactFormat alive now (w.facing .allOk readings) = (.ok recovered, w') := by
  intro h
  obtain ⟨recovered, w', hrun⟩ := h Sample.draining Sample.draining_reachable false 30 Sample.readings
  have hpending : (recoverOrphan exactFormat false 30
      (Sample.draining.facing .allOk Sample.readings)).1 = .err .drainPending := by
    decide
  rw [hrun] at hpending
  cases hpending

end CandyRuntime.NetdV1
