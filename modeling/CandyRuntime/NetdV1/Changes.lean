import CandyRuntime.NetdV1.Runs

/-!
# What an operation can do to the record

`Amends` lists every record that an operation keeps in memory or hands to the journal, next to the
record it was computed from and with the guards that stand in front of it. Whatever is closed under
`Amends` therefore holds of the record in memory and of the one in the journal, however the calls
of the operation end (`amends_exec`), and so in every state of every run (`reachable_kept`).
-/

namespace CandyRuntime.NetdV1

open Lib Lib.Proc NetdProto

variable {f : TransactionRecord → TransactionRecord} {α : Type} {γ : Type} {u : Unit}

/-! ## Changes -/

/-- The two owners are one process. -/
def SameProcess (a b : LeaseOwner) : Prop := a.instanceId = b.instanceId ∧ a.pid = b.pid

/-- The phases in which a transaction serves its declaration. -/
def TransactionPhase.serving : TransactionPhase → Prop
  | .active | .suspended => True
  | _ => False

/-- `reconfigure` puts the declaration beside the retained one. -/
def Stages (r : TransactionRecord) (declaration : PrepareDeclaration) : Prop :=
  r.declaration.firewall = declaration.firewall
    ∧ r.declaration.overlayRouterIpv4 = declaration.overlayRouterIpv4
    ∧ r.declaration.effectiveMtu = declaration.effectiveMtu
    ∧ (r.phase = .active ∧ r.declaration.tableId ≠ declaration.tableId
      ∨ r.phase = .suspended ∧ r.declaration.tableId = declaration.tableId
        ∧ r.declaration ≠ declaration)

/-- The operation changes the failed prefixes of the record it has found. -/
structure Withdraws (op : Operation) (found : Option TransactionRecord) (r : TransactionRecord)
    (owner : LeaseOwner) (prefixes : List Ipv4Prefix) : Prop where
  op : op = .setFailedPrefixes owner prefixes
  found : found = some r
  owner : ensureOwner r.owner owner = .ok ()
  phase : r.phase = .active ∨ r.phase = .suspended
  scope : (sortDedup prefixes).all (inScope r.declaration) = true

/-- The operation stages the declaration beside the record it has found. -/
structure Reloads (op : Operation) (found : Option TransactionRecord) (r : TransactionRecord)
    (owner : LeaseOwner) (declaration : PrepareDeclaration) : Prop where
  op : op = .reconfigure owner declaration
  found : found = some r
  owner : ensureReconfigureOwner r.owner owner = .ok ()
  stages : Stages r declaration

/-- The changes of a record under the operation `op`, which has found the record `found`. -/
inductive Amends (op : Operation) (found : Option TransactionRecord) (r : TransactionRecord) :
    TransactionRecord → Prop where
  | sysctls (sysctls : List SysctlChange) (hphase : r.phase = .preparing)
      (hsnapshot : ∃ readings declaration, snapshotSysctls readings declaration = .ok sysctls) :
      Amends op found r { r with sysctls }
  | steps (completedSteps : UInt16) : Amends op found r { r with completedSteps }
  | prepared (hphase : r.phase = .preparing) : Amends op found r { r with phase := .prepared }
  | committed (hphase : r.phase = .prepared) (hcandidate : r.recoveryCandidate = none) :
      Amends op found r { r with phase := .active }
  | resumed (hphase : r.phase = .suspended) : Amends op found r { r with phase := .active }
  | suspended (hphase : r.phase = .active) : Amends op found r { r with phase := .suspended }
  | rollingBack : Amends op found r { r with phase := .rollingBack }
  | dropped (hphase : r.phase = .rollingBack) :
      Amends op found r { r with recoveryCandidate := none, recoveryCandidateOwner := none }
  | discarded : Amends op found r (discardCandidate r)
  | unstaged : Amends op found r { r with
      recoveryCandidate := none, recoveryCandidateOwner := none, phase := .active }
  | draining (now timeout : UInt64) (hphase : r.phase = .prepared)
      (hcandidate : r.recoveryCandidate.isSome = true) : Amends op found r (drainingFrom now timeout r)
  | promoted (owner : LeaseOwner) (candidate : PrepareDeclaration) (hphase : r.phase = .draining)
      (hcandidate : r.recoveryCandidate = some candidate) (howner : SameProcess r.owner owner)
      (hkeeper : (∃ now, op = .drainOld owner now)
        ∨ owner = r.recoveryCandidateOwner.getD r.owner) :
      Amends op found r (promoteCandidate (r.recoveryCandidateOwner.getD owner) candidate r)
  | failures (owner : LeaseOwner) (prefixes : List Ipv4Prefix)
      (hwithdraws : Withdraws op found r owner prefixes) :
      Amends op found r { r with failedPrefixes := sortDedup prefixes }
  | renewed (owner : LeaseOwner) (hop : op = .renewLease owner) (howner : SameProcess r.owner owner) :
      Amends op found r { r with
        owner := { r.owner with leaseDeadlineMonoMs := owner.leaseDeadlineMonoMs } }
  | narrowed (effectiveMtu : UInt16) (hphase : r.phase = .active)
      (hmtu : 576 ≤ effectiveMtu ∧ effectiveMtu ≤ 1400) :
      Amends op found r { r with declaration := { r.declaration with effectiveMtu } }
  | intended (owner : LeaseOwner) (declaration : PrepareDeclaration) (hphase : r.phase.serving)
      (howner : SameProcess r.owner owner) (hop : Reloads op found r owner declaration
        ∨ op = .updatePolicy owner declaration ∧ r.owner.generation = owner.generation) :
      Amends op found r (rollingBackTo owner declaration r)
  | staged (owner : LeaseOwner) (declaration : PrepareDeclaration) (hphase : r.phase = .active)
      (hcandidate : r.recoveryCandidate = none) (howner : SameProcess r.owner owner)
      (hop : Reloads op found r owner declaration) :
      Amends op found r (stageCandidate owner declaration r)
  | adopted (owner : LeaseOwner) (hphase : r.phase.serving) (howner : SameProcess r.owner owner)
      (hop : ∃ declaration, op = .reconfigure owner declaration) :
      Amends op found r { r with owner }
  | reconfigured (owner : LeaseOwner) (declaration : PrepareDeclaration)
      (hphase : r.phase = .suspended) (howner : SameProcess r.owner owner)
      (hop : op = .reconfigure owner declaration) :
      Amends op found r { r with owner, declaration, failedPrefixes := [], drainDeadlineMonoMs := 0 }
  | updated (owner : LeaseOwner) (declaration : PrepareDeclaration) (hphase : r.phase.serving)
      (hcandidate : r.recoveryCandidate = none) (hop : op = .updatePolicy owner declaration) :
      Amends op found r { r with
        declaration, failedPrefixes := r.failedPrefixes.filter (inScope declaration),
        recoveryCandidate := none, recoveryCandidateOwner := none }
  | recovered (phase : TransactionPhase) (hphase : r.phase = .rollingBack)
      (hserving : phase.serving) :
      Amends op found r { r with recoveryCandidate := none, recoveryCandidateOwner := none, phase }

/-- What the journal gives back is no worse than what it was given. -/
def JournalFormat.Carries {β : Type} (J : JournalFormat β) (P : TransactionRecord → Prop) : Prop :=
  ∀ r content r', P r → J.encode r = .ok content → J.decode content = .ok r' → P r'

theorem carries_exactFormat (P : TransactionRecord → Prop) : exactFormat.Carries P := by
  intro r content r' hr hencode hdecode
  rwa [← Except.ok.inj hdecode, ← Except.ok.inj hencode]

/-! ## Records in memory and in the journal -/

variable {β : Type} {J : JournalFormat β} {M N P : TransactionRecord → Prop}
  {w : NetworkTransaction β} {r : TransactionRecord} {op : Operation}
  {found : Option TransactionRecord}

/-- The record in memory satisfies `M`, the one the journal gives back satisfies `P`. -/
structure Kept (J : JournalFormat β) (M P : TransactionRecord → Prop) (w : NetworkTransaction β) :
    Prop where
  memory : ∀ r, w.record = some r → M r
  disk : ∀ content r, w.stored = some content → J.decode content = .ok r → P r

theorem Kept.mono (h : Kept J M P w) (hMN : ∀ r, M r → N r) : Kept J N P w :=
  ⟨fun r hr => hMN r (h.memory r hr), h.disk⟩

/-- The record that was read is the one in memory. -/
theorem Kept.exactly (h : Kept J M P w) (hr : w.record = some r) : Kept J (· = r) P w :=
  ⟨fun _ hr' => Option.some.inj (hr'.symm.trans hr), h.disk⟩

theorem kept_call (c : BackendCall) : Preserves (Kept J M P) (call c : Tx β Unit) := by
  intro w hw
  rw [wp_call]
  exact ⟨fun _ => ⟨hw.memory, hw.disk⟩, fun _ _ => ⟨hw.memory, hw.disk⟩,
    fun _ => ⟨hw.memory, hw.disk⟩⟩

theorem kept_atStage {m : Tx β α} {stage : BackendStage} (hm : Preserves (Kept J M P) m) :
    Preserves (Kept J M P) (atStage m stage) :=
  Preserves.mapError hm

theorem kept_preflight (declaration : PrepareDeclaration) :
    Triple (Kept J M P) (preflight declaration : Tx β (List SysctlChange))
      (fun sysctls w => Kept J M P w
        ∧ ∃ readings, snapshotSysctls readings declaration = .ok sysctls)
      (fun _ => Kept J M P) (Kept J M P) := by
  refine Triple.bind (kept_call _) fun _ => ?_
  intro w hw
  rw [wp_bind, wp_get, wp_lift]
  exact ⟨fun sysctls h => ⟨hw, w.readings, h⟩, fun _ _ => hw⟩

/-- A store of a record that satisfies `P`. -/
theorem kept_store (hJ : J.Carries P) (hP : P r) : Preserves (Kept J M P) (store J r) := by
  intro w hw
  unfold store
  cases hencode : J.encode r with
  | error e => exact hw
  | ok content =>
    have hdisk : ∀ content' r', some content = some content' → J.decode content' = .ok r' → P r' := by
      intro content' r' hcontent hdecode
      rw [Option.some.inj hcontent] at hencode
      exact hJ r content' r' hP hencode hdecode
    rw [wp_writeJournal]
    exact ⟨fun _ => ⟨hw.memory, hdisk⟩, fun _ => ⟨hw.memory, hdisk⟩, fun _ => ⟨hw.memory, hw.disk⟩,
      fun _ => ⟨hw.memory, hw.disk⟩⟩

/-- A change of the record in memory and its store: memory keeps the change in every case. -/
theorem kept_amend (hJ : J.Carries P) (hf : ∀ r, M r → N (f r)) (hN : ∀ r, N r → P r) :
    Triple (Kept J M P) (amend J f) (fun _ => Kept J N P) (fun _ => Kept J N P) (Kept J N P) := by
  intro w hw
  rw [amend, wp_bind, current, wp_bind, wp_get, wp_okOr]
  constructor
  · intro r hr
    rw [wp_bind, setRecord, wp_modify]
    refine kept_store hJ (hN _ (hf r (hw.memory r hr))) _ ⟨?_, hw.disk⟩
    intro r' hr'
    rw [← Option.some.inj hr']
    exact hf r (hw.memory r hr)
  · intro hnone
    refine ⟨fun r hr => ?_, hw.disk⟩
    rw [hnone] at hr
    cases hr

/-- A new record that is stored before it is kept. -/
theorem kept_replaceRecord (hJ : J.Carries P) (hN : N r) (hP : P r) :
    Triple (Kept J M P) (replaceRecord J r) (fun _ => Kept J N P) (fun _ => Kept J M P)
      (Kept J M P) := by
  refine Triple.bind (kept_store hJ hP) fun _ => ?_
  intro w hw
  rw [setRecord, wp_modify]
  refine ⟨fun r' hr' => ?_, hw.disk⟩
  rwa [← Option.some.inj hr']

/-- A program that reads the record first knows which one is in memory. -/
theorem kept_current_bind {f : TransactionRecord → Tx β α} {Q : α → NetworkTransaction β → Prop}
    {E : NetworkError → NetworkTransaction β → Prop} {C : NetworkTransaction β → Prop}
    (hE : ∀ w, Kept J M P w → E .invalidTransition w)
    (hf : ∀ r, M r → Triple (Kept J (· = r) P) (f r) Q E C) :
    Triple (Kept J M P) (current >>= f) Q E C := by
  intro w hw
  rw [wp_bind, current, wp_bind, wp_get, wp_okOr]
  exact ⟨fun r hr => hf r (hw.memory r hr) w (hw.exactly hr), fun _ => hE w hw⟩

/-! ## The operations -/

/-- What is closed under the changes of an operation, the record of a first `prepare` included. -/
structure Closed (op : Operation) (found : Option TransactionRecord)
    (P : TransactionRecord → Prop) : Prop where
  amends : ∀ r r', P r → Amends op found r r' → P r'
  fresh : ∀ owner declaration, op = .prepare owner declaration →
    declaration.validate = .ok () → P (freshRecord owner declaration)

/-- The program leaves a record that satisfies `P` in memory and in the journal. -/
def Maintains (J : JournalFormat β) (M P : TransactionRecord → Prop) {α : Type} (m : Tx β α) : Prop :=
  Triple (Kept J M P) m (fun _ => Kept J P P) (fun _ => Kept J P P) (Kept J P P)

theorem Maintains.of_preserves {m : Tx β α} (hm : Preserves (Kept J M P) m) (hM : ∀ r, M r → P r) :
    Maintains J M P m :=
  Triple.conseq hm (fun _ h => h) (fun _ _ h => h.mono hM) (fun _ _ h => h.mono hM)
    (fun _ h => h.mono hM)

/-- A first part that does not touch the record. -/
theorem Maintains.bind {α γ : Type} {m : Tx β α} {f : α → Tx β γ} (hM : ∀ r, M r → P r)
    (hm : Preserves (Kept J M P) m) (hf : ∀ a, Maintains J M P (f a)) : Maintains J M P (m >>= f) :=
  Triple.bind (Triple.conseq hm (fun _ h => h) (fun _ _ h => h) (fun _ _ h => h.mono hM)
    (fun _ h => h.mono hM)) hf

/-- A change of the record as the first part. -/
theorem Maintains.amend_bind (hJ : J.Carries P) {k : Unit → Tx β γ} (hf : ∀ r, M r → N (f r))
    (hN : ∀ r, N r → P r) (hk : Maintains J N P (k ())) : Maintains J M P (amend J f >>= k) :=
  Triple.bind (Triple.conseq (kept_amend hJ hf hN) (fun _ h => h) (fun _ _ h => h)
    (fun _ _ h => h.mono hN) (fun _ h => h.mono hN)) fun _ => hk

/-- A check in front of a program. -/
theorem Maintains.lift_bind {α γ : Type} {e : Except NetworkError α} {k : α → Tx β γ}
    (hM : ∀ r, M r → P r) (hk : ∀ a, e = .ok a → Maintains J M P (k a)) :
    Maintains J M P (lift e >>= k) :=
  Triple.lift_bind hk fun _ _ h => h.mono hM

theorem Maintains.ensure_bind {c : Prop} [Decidable c] {e : NetworkError} {k : Unit → Tx β γ}
    (hM : ∀ r, M r → P r) (hk : c → Maintains J M P (k ())) :
    Maintains J M P (ensure c e >>= k) :=
  Triple.ensure_bind hk fun _ h => h.mono hM

theorem Maintains.current_bind {k : TransactionRecord → Tx β γ} (hM : ∀ r, M r → P r)
    (hk : ∀ r, M r → Maintains J (· = r) P (k r)) : Maintains J M P (current >>= k) :=
  kept_current_bind (fun _ h => h.mono hM) hk

theorem Maintains.handle {m : Tx β α} {h : NetworkError → Tx β α} (hm : Maintains J M P m)
    (hh : ∀ e, Maintains J P P (h e)) : Maintains J M P (handle m h) :=
  Triple.handle hm hh

theorem Maintains.ite {c : Prop} [Decidable c] {m n : Tx β α} (hm : c → Maintains J M P m)
    (hn : ¬ c → Maintains J M P n) : Maintains J M P (if c then m else n) :=
  Triple.ite hm hn

theorem Maintains.pure {a : α} (hM : ∀ r, M r → P r) :
    Maintains J M P (Pure.pure a : Tx β α) :=
  Triple.pure fun _ h => h.mono hM

theorem Maintains.fail {e : NetworkError} (hM : ∀ r, M r → P r) :
    Maintains J M P (fail e : Tx β α) :=
  Triple.fail fun _ h => h.mono hM

theorem Maintains.pre {m : Tx β α} (h : Maintains J N P m) (hMN : ∀ r, M r → N r) :
    Maintains J M P m :=
  Triple.pre h fun _ hw => hw.mono hMN

/-- Whatever happens to the first part is ignored. -/
theorem Maintains.ignore_bind {m : Tx β Unit} {k : Unit → Tx β γ}
    {Q : γ → NetworkTransaction β → Prop} (hm : Maintains J M P m)
    (hk : Triple (Kept J P P) (k ()) Q (fun _ => Kept J P P) (Kept J P P)) :
    Triple (Kept J M P) (ignore m >>= k) Q (fun _ => Kept J P P) (Kept J P P) := by
  refine Triple.bind ?_ fun _ => hk
  intro w hw
  rw [wp_ignore]
  exact hm w hw

/-- The preflight knows the changes it has read. -/
theorem Maintains.preflight_bind {k : List SysctlChange → Tx β γ} (hM : ∀ r, M r → P r)
    (hk : ∀ sysctls, (∃ readings, snapshotSysctls readings declaration = .ok sysctls) →
      Maintains J M P (k sysctls)) :
    Maintains J M P (atStage (preflight declaration) .preflight >>= k) := by
  have hread : Triple (Kept J M P) (preflight declaration : Tx β (List SysctlChange))
      (fun sysctls w => Kept J M P w
        ∧ ∃ readings, snapshotSysctls readings declaration = .ok sysctls)
      (fun _ => Kept J P P) (Kept J P P) :=
    Triple.conseq (kept_preflight declaration) (fun _ h => h) (fun _ _ h => h)
      (fun _ _ h => h.mono hM) fun _ h => h.mono hM
  exact Triple.bind (Triple.mapError hread fun _ _ h => h) fun sysctls => Triple.and_pre (hk sysctls)

/-- A change as the last step of a program. -/
theorem amends_amend (hJ : J.Carries P) (hf : ∀ r, M r → P (f r)) : Maintains J M P (amend J f) :=
  kept_amend hJ hf fun _ h => h

/-- A new record, computed from the one at the start of the operation. -/
theorem Maintains.replaceRecord (hJ : J.Carries P) {r' : TransactionRecord} (hM : ∀ r, M r → P r) (hr' : P r') :
    Maintains J M P (replaceRecord J r') :=
  Triple.conseq (kept_replaceRecord hJ hr' hr') (fun _ h => h) (fun _ _ h => h)
    (fun _ _ h => h.mono hM) (fun _ h => h.mono hM)

theorem sameProcess_of_ensureReconfigureOwner {retained request : LeaseOwner}
    (h : ensureReconfigureOwner retained request = .ok u) : SameProcess retained request := by
  unfold ensureReconfigureOwner at h
  rw [refuseIf_eq_ok] at h
  simpa [SameProcess] using h

theorem sameProcess_of_ensureOwner {retained request : LeaseOwner}
    (h : ensureOwner retained request = .ok u) : SameProcess retained request := by
  unfold ensureOwner at h
  rw [refuseIf_eq_ok] at h
  simp only [Bool.not_eq_eq_eq_not, Bool.not_false, Bool.and_eq_true, beq_iff_eq] at h
  exact h.1

theorem sameProcess_of_ensureStagedOwner {request : LeaseOwner}
    (h : ensureStagedOwner r request = .ok u) : SameProcess r.owner request := by
  unfold ensureStagedOwner at h
  split at h
  · exact sameProcess_of_ensureReconfigureOwner h
  · exact sameProcess_of_ensureOwner h

/-- The phase `RollingBack` with the invariant. -/
def BackWith (P : TransactionRecord → Prop) (r : TransactionRecord) : Prop :=
  P r ∧ r.phase = .rollingBack

/-- `P` is not lost when steps are taken back, or the candidate behind a roll-back. -/
structure Undoable (P : TransactionRecord → Prop) : Prop where
  steps : ∀ r completedSteps, P r → P { r with completedSteps }
  dropped : ∀ r, P r → r.phase = .rollingBack →
    P { r with recoveryCandidate := none, recoveryCandidateOwner := none }

theorem kept_cleanupStep (hJ : J.Carries P) (hN : Undoable N) (hNP : ∀ r, N r → P r)
    {needed : Bool} {c : BackendCall} {step : UInt16} {first : Option NetworkError} :
    Preserves (Kept J (BackWith N) P) (cleanupStep J needed c step first) := by
  unfold cleanupStep
  split
  · refine Preserves.bind (Preserves.errorOf (Preserves.bind (kept_call c) fun _ => ?_))
      (fun _ => Preserves.pure _)
    exact kept_amend hJ (fun r hr => ⟨hN.steps r _ hr.1, hr.2⟩) fun r hr => hNP r hr.1
  · exact Preserves.pure _

theorem kept_cleanupCandidate (hJ : J.Carries P) (hN : Undoable N) (hNP : ∀ r, N r → P r)
    (candidate : Option PrepareDeclaration) :
    Preserves (Kept J (BackWith N) P) (cleanupCandidate J candidate) := by
  cases candidate with
  | none => exact Preserves.pure _
  | some c =>
    unfold cleanupCandidate
    refine Preserves.bind (Preserves.errorOf (kept_call _)) fun _ => ?_
    refine Preserves.bind (Preserves.errorOf (kept_call _)) fun _ => ?_
    split
    · exact Preserves.pure _
    · exact Preserves.errorOf (kept_amend hJ
        (fun r hr => ⟨hN.dropped r hr.1 hr.2, hr.2⟩) fun r hr => hNP r hr.1)

/-- The clean-up keeps what the phase `RollingBack` brings about. -/
theorem kept_cleanupRecord (hJ : J.Carries P) (hN : Undoable N) (hNP : ∀ r, N r → P r)
    (hback : ∀ r, M r → N { r with phase := .rollingBack }) :
    Triple (Kept J M P) (cleanupRecord J) (fun _ => Kept J N P) (fun _ => Kept J N P)
      (Kept J N P) := by
  have hfinish : ∀ first, Preserves (Kept J (BackWith N) P)
      (cleanupFinish first : Tx β (Option NetworkError)) := by
    intro first
    unfold cleanupFinish
    refine Preserves.bind Preserves.get fun w' => ?_
    split
    · exact Preserves.pure _
    · split
      · refine Preserves.bind (Preserves.errorOf ?_) fun _ => Preserves.pure _
        intro w hw
        rw [wp_bind, clearJournal, wp_writeJournal]
        have hnone : ∀ content r, (none : Option β) = some content →
            J.decode content = .ok r → P r := by simp
        refine ⟨fun _ => ?_, fun _ => ⟨hw.memory, hnone⟩, fun _ => ⟨hw.memory, hw.disk⟩,
          fun _ => ⟨hw.memory, hw.disk⟩⟩
        rw [setRecord, wp_modify]
        exact ⟨by simp, hnone⟩
      · exact Preserves.pure _
  have hweak : ∀ w, Kept J (BackWith N) P w → Kept J N P w := fun _ h => h.mono fun _ hr => hr.1
  unfold cleanupRecord
  have hphase : Triple (Kept J M P) (setPhase J .rollingBack) (fun _ => Kept J (BackWith N) P)
      (fun _ => Kept J N P) (Kept J N P) :=
    Triple.conseq (kept_amend hJ (fun r hr => ⟨hback r hr, rfl⟩) fun r hr => hNP r hr.1)
      (fun _ h => h) (fun _ _ h => h) (fun _ => hweak) hweak
  refine Triple.bind hphase fun _ => ?_
  refine Triple.conseq (?_ : Preserves (Kept J (BackWith N) P) _) (fun _ h => h) (fun _ => hweak)
    (fun _ => hweak) hweak
  refine Preserves.bind (Preserves.bind Preserves.get fun _ => Preserves.okOr _ _) fun r => ?_
  refine Preserves.bind (kept_cleanupCandidate hJ hN hNP _) fun _ => ?_
  refine Preserves.bind (kept_cleanupStep hJ hN hNP) fun _ => ?_
  refine Preserves.bind (kept_cleanupStep hJ hN hNP) fun _ => ?_
  refine Preserves.bind (kept_cleanupStep hJ hN hNP) fun _ => ?_
  refine Preserves.bind (kept_cleanupStep hJ hN hNP) fun _ => ?_
  refine Preserves.bind (kept_cleanupStep hJ hN hNP) fun _ => ?_
  refine Preserves.bind (kept_cleanupStep hJ hN hNP) fun _ => ?_
  refine Preserves.bind (hfinish _) fun first => ?_
  cases first with
  | none => exact Preserves.pure ()
  | some e => exact Preserves.fail e

section Operations

variable {owner : LeaseOwner} {declaration : PrepareDeclaration}
variable (hJ : J.Carries P) (hP : Closed op found P)

include hJ hP

theorem amends_cleanupRecord : Maintains J P P (cleanupRecord J) :=
  kept_cleanupRecord hJ ⟨fun _ _ hr => hP.amends _ _ hr (.steps _), fun _ hr hphase =>
    hP.amends _ _ hr (.dropped hphase)⟩ (fun _ hr => hr) fun _ hr => hP.amends _ _ hr .rollingBack

theorem amends_prepareSteps : Maintains J (fun r => P r ∧ r.phase = .preparing) P (prepareSteps J) := by
  have hweak : ∀ r, (P r ∧ r.phase = .preparing) → P r := fun _ h => h.1
  have hstep : ∀ step,
      Preserves (Kept J (fun r => P r ∧ r.phase = .preparing) P) (completeStep J step) :=
    fun step => kept_amend hJ (fun r hr => ⟨hP.amends _ _ hr.1 (.steps _), hr.2⟩) hweak
  have hcurrent : Preserves (Kept J (fun r => P r ∧ r.phase = .preparing) P)
      (current : Tx β TransactionRecord) :=
    Preserves.bind Preserves.get fun _ => Preserves.okOr _ _
  unfold prepareSteps
  refine Maintains.bind hweak hcurrent fun r => ?_
  refine Maintains.preflight_bind hweak fun sysctls ⟨readings, hsnapshot⟩ => ?_
  have hsysctls : ∀ x, P x ∧ x.phase = .preparing → P { x with sysctls } := fun x hx =>
    hP.amends _ _ hx.1 (.sysctls sysctls hx.2 ⟨readings, _, hsnapshot⟩)
  refine Maintains.amend_bind hJ (fun r hr => ⟨hsysctls r hr, hr.2⟩) hweak ?_
  refine Maintains.bind hweak (hstep _) fun _ => ?_
  refine Maintains.bind hweak hcurrent fun r => ?_
  refine Maintains.bind hweak (kept_atStage (kept_call _)) fun _ => ?_
  refine Maintains.bind hweak (hstep _) fun _ => ?_
  refine Maintains.bind hweak (kept_atStage (kept_call _)) fun _ => ?_
  refine Maintains.bind hweak (hstep _) fun _ => ?_
  refine Maintains.bind hweak (kept_atStage (kept_call _)) fun _ => ?_
  refine Maintains.bind hweak (hstep _) fun _ => ?_
  refine Maintains.bind hweak (kept_atStage (kept_call _)) fun _ => ?_
  refine Maintains.bind hweak (hstep _) fun _ => ?_
  refine Maintains.bind hweak (kept_atStage (kept_call _)) fun _ => ?_
  exact amends_amend hJ fun r hr => hP.amends _ _ hr.1 (.prepared hr.2)

theorem amends_prepare (hop : op = .prepare owner declaration) :
    Maintains J P P (prepare J owner declaration) := by
  unfold prepare
  refine Maintains.bind (fun _ h => h) Preserves.get fun w => ?_
  split
  · refine Maintains.lift_bind (fun _ h => h) fun _ _ => ?_
    exact Maintains.of_preserves (Preserves.bind (Preserves.ensure _ _) fun _ => Preserves.ensure _ _)
      fun _ h => h
  · refine Maintains.lift_bind (fun _ h => h) fun u hvalid => ?_
    have hdeclaration : declaration.validate = .ok () := by
      unfold validDeclaration at hvalid
      cases hv : declaration.validate with
      | ok u => rfl
      | error e =>
        rw [hv] at hvalid
        cases hvalid
    have hfresh := hP.fresh owner declaration hop hdeclaration
    have hpreparing : P (freshRecord owner declaration)
        ∧ (freshRecord owner declaration).phase = .preparing := ⟨hfresh, rfl⟩
    refine Triple.bind (kept_replaceRecord (N := fun r => P r ∧ r.phase = .preparing) hJ hpreparing
      hfresh) fun _ => ?_
    refine Maintains.handle (amends_prepareSteps hJ hP) fun e => ?_
    exact Maintains.ignore_bind (amends_cleanupRecord hJ hP) (Maintains.fail fun _ h => h)

theorem amends_discard : Maintains J P P (amend J discardCandidate) :=
  amends_amend hJ fun _ hr => hP.amends _ _ hr .discarded

theorem amends_commitWithDrain {now timeout : UInt64} :
    Maintains J P P (commitWithDrain J owner now timeout) := by
  have hcall : ∀ c, Maintains J P P (call c : Tx β Unit) :=
    fun c => Maintains.of_preserves (kept_call c) fun _ h => h
  unfold commitWithDrain
  refine Maintains.current_bind (fun _ h => h) fun r hr => ?_
  have hweak : ∀ x, x = r → P x := fun x hx => hx ▸ hr
  refine Maintains.lift_bind hweak fun _ _ => ?_
  split
  · exact Maintains.pure hweak
  · rename_i candidate hphase hcandidate
    unfold commitReplacement
    refine Maintains.handle ?_ fun e => ?_
    · refine Maintains.bind hweak (kept_call _) fun _ => ?_
      refine Maintains.bind hweak (kept_call _) fun _ => ?_
      refine amends_amend hJ fun x hx => ?_
      rw [hx]
      exact hP.amends _ _ hr (.draining now timeout hphase (by rw [hcandidate]; rfl))
    · refine Maintains.ignore_bind (hcall _) (Maintains.ignore_bind (hcall _) ?_)
      refine Maintains.ignore_bind (hcall _) (Maintains.ignore_bind (amends_discard hJ hP) ?_)
      exact Maintains.fail fun _ h => h
  · exact Maintains.pure hweak
  · rename_i hphase hcandidate
    unfold commitInitial
    refine Maintains.handle ?_ fun e => ?_
    · -- The step bit changes neither the phase nor the candidate.
      refine Maintains.amend_bind hJ (N := fun x => P x ∧ x.phase = .prepared
        ∧ x.recoveryCandidate = none) (fun x hx => ?_) (fun _ h => h.1) ?_
      · rw [hx]
        exact ⟨hP.amends _ _ hr (.steps _), hphase, hcandidate⟩
      refine Maintains.bind (fun _ h => h.1) (kept_atStage (kept_call _)) fun _ => ?_
      exact amends_amend hJ fun x hx => hP.amends _ _ hx.1 (.committed hx.2.1 hx.2.2)
    · exact Maintains.ignore_bind (amends_cleanupRecord hJ hP) (Maintains.fail fun _ h => h)
  · exact Maintains.fail hweak

theorem amends_drainOld {now : UInt64} (hM : ∀ r, M r → P r)
    (hkeeper : ∀ r, M r → (∃ now, op = .drainOld owner now) ∨ owner
      = r.recoveryCandidateOwner.getD r.owner) : Maintains J M P (drainOld J owner now) := by
  unfold drainOld
  refine Maintains.current_bind hM fun r hr => ?_
  have hweak : ∀ x, x = r → P x := fun x hx => hx ▸ hM r hr
  refine Maintains.lift_bind hweak fun _ howner => ?_
  refine Maintains.ite (fun _ => Maintains.pure hweak) fun _ => ?_
  refine Maintains.ensure_bind hweak fun hphase => Maintains.ensure_bind hweak fun _ => ?_
  refine Triple.okOr_bind (fun candidate hcandidate => ?_) (fun _ h => h.mono hweak)
  refine Maintains.bind hweak (kept_call _) fun _ => Maintains.bind hweak (kept_call _) fun _ => ?_
  refine Maintains.bind hweak (kept_call _) fun _ => amends_amend hJ fun x hx => ?_
  rw [hx]
  exact hP.amends _ _ (hM r hr) (.promoted owner candidate hphase hcandidate
    (sameProcess_of_ensureStagedOwner howner) (hkeeper r hr))

theorem amends_withdrawCandidate (candidate : PrepareDeclaration) :
    Maintains J P P (withdrawCandidate J candidate) := by
  refine Maintains.bind (fun _ h => h) (kept_call _) fun _ => ?_
  exact Maintains.bind (fun _ h => h) (kept_call _) fun _ => amends_discard hJ hP

theorem amends_rollback : Maintains J P P (rollback J owner) := by
  unfold rollback
  refine Maintains.current_bind (fun _ h => h) fun r hr => Maintains.pre ?_ (fun x hx => hx ▸ hr)
  split
  · exact Maintains.lift_bind (fun _ h => h) fun _ _ => amends_withdrawCandidate hJ hP _
  · exact Maintains.lift_bind (fun _ h => h) fun _ _ => amends_cleanupRecord hJ hP

theorem amends_setFailedPrefixes {prefixes : List Ipv4Prefix}
    (hop : op = .setFailedPrefixes owner prefixes) :
    Maintains J (fun r => P r ∧ found = some r) P (setFailedPrefixes J owner prefixes) := by
  unfold setFailedPrefixes
  refine Maintains.current_bind (fun _ h => h.1) fun r ⟨hr, hfound⟩ => ?_
  have hweak : ∀ x, x = r → P x := fun x hx => hx ▸ hr
  refine Maintains.lift_bind hweak fun _ howner => Maintains.ensure_bind hweak fun hphase => ?_
  refine Maintains.ensure_bind hweak fun hscope => Maintains.bind hweak (kept_call _) fun _ => ?_
  refine Maintains.bind hweak (Preserves.when _ (kept_call _)) fun _ => ?_
  refine amends_amend hJ fun x hx => ?_
  rw [hx]
  exact hP.amends _ _ hr (.failures owner prefixes ⟨hop, hfound, howner, hphase, hscope⟩)

theorem amends_renewLease (hop : op = .renewLease owner) :
    Maintains J P P (renewLease J owner) := by
  unfold renewLease
  refine Maintains.current_bind (fun _ h => h) fun r hr => ?_
  refine Maintains.lift_bind (fun x hx => hx ▸ hr) fun _ howner => amends_amend hJ fun x hx => ?_
  rw [hx]
  exact hP.amends _ _ hr (.renewed owner hop (sameProcess_of_ensureStagedOwner howner))

theorem amends_updateMtu {effectiveMtu : UInt16} :
    Maintains J P P (updateMtu J owner effectiveMtu) := by
  unfold updateMtu
  refine Maintains.ensure_bind (fun _ h => h) fun hmtu => ?_
  refine Maintains.current_bind (fun _ h => h) fun r hr => ?_
  have hweak : ∀ x, x = r → P x := fun x hx => hx ▸ hr
  refine Maintains.lift_bind hweak fun _ _ => Maintains.ensure_bind hweak fun hphase => ?_
  refine Maintains.bind hweak (kept_call _) fun _ => amends_amend hJ fun x hx => ?_
  rw [hx]
  exact hP.amends _ _ hr (.narrowed _ hphase.1 hmtu)

theorem amends_suspend : Maintains J P P (suspend J owner) := by
  unfold suspend
  refine Maintains.current_bind (fun _ h => h) fun r hr => ?_
  have hweak : ∀ x, x = r → P x := fun x hx => hx ▸ hr
  refine Maintains.lift_bind hweak fun _ _ => Maintains.ite (fun _ => Maintains.pure hweak) fun _ => ?_
  refine Maintains.ensure_bind hweak fun hphase => Maintains.bind hweak (kept_call _) fun _ => ?_
  refine Maintains.amend_bind hJ (N := fun x => P x ∧ x.phase = .active) (fun x hx => ?_)
    (fun _ h => h.1) ?_
  · rw [hx]
    exact ⟨hP.amends _ _ hr (.steps _), hphase⟩
  · exact amends_amend hJ fun x hx => hP.amends _ _ hx.1 (.suspended hx.2)

theorem amends_resume : Maintains J P P (resume J owner) := by
  unfold resume
  refine Maintains.current_bind (fun _ h => h) fun r hr => ?_
  have hweak : ∀ x, x = r → P x := fun x hx => hx ▸ hr
  refine Maintains.lift_bind hweak fun _ _ => Maintains.ite (fun _ => Maintains.pure hweak) fun _ => ?_
  refine Maintains.ensure_bind hweak fun hphase => Maintains.bind hweak (kept_call _) fun _ => ?_
  refine Maintains.amend_bind hJ (N := fun x => P x ∧ x.phase = .suspended) (fun x hx => ?_)
    (fun _ h => h.1) ?_
  · rw [hx]
    exact ⟨hP.amends _ _ hr (.steps _), hphase⟩
  · exact amends_amend hJ fun x hx => hP.amends _ _ hx.1 (.resumed hx.2)

theorem amends_stageReplacement (hr : P r) (hphase : r.phase = .active)
    (hcandidate : r.recoveryCandidate = none) (hop : Reloads op found r owner declaration) :
    Maintains J (· = r) P (stageReplacement J owner declaration) := by
  have howner := sameProcess_of_ensureReconfigureOwner hop.owner
  have hstaged : P (stageCandidate owner declaration r) :=
    hP.amends _ _ hr (.staged owner declaration hphase hcandidate howner hop)
  have hweak : ∀ x, x = stageCandidate owner declaration r → P x := fun x hx => hx ▸ hstaged
  have hcall : ∀ c, Maintains J P P (call c : Tx β Unit) :=
    fun c => Maintains.of_preserves (kept_call c) fun _ h => h
  unfold stageReplacement
  refine Maintains.amend_bind hJ (N := (· = stageCandidate owner declaration r)) (fun x hx => ?_)
    hweak ?_
  · rw [hx]
  have hbody : Preserves (Kept J (· = stageCandidate owner declaration r) P) (do
      lift (validDeclaration declaration)
      let _ ← preflight declaration
      call (.prepareLink declaration)
      call (.prepareRoutes declaration)
      call (.prepareFirewall declaration)) :=
    Preserves.bind (Preserves.lift _) fun _ =>
      Preserves.bind (Triple.post (kept_preflight _) fun _ _ h => h.1) fun _ =>
        Preserves.bind (kept_call _) fun _ => Preserves.bind (kept_call _) fun _ => kept_call _
  have hunstage : ∀ e, Triple (Kept J P P) (unstageCandidate J declaration e)
      (fun _ => Kept J (· = stageCandidate owner declaration r) P) (fun _ => Kept J P P)
      (Kept J P P) := by
    intro e
    refine Maintains.ignore_bind (hcall _) (Maintains.ignore_bind (hcall _) ?_)
    refine Maintains.ignore_bind (amends_amend hJ fun x hx => hP.amends _ _ hx .unstaged) ?_
    exact Triple.fail fun _ h => h
  refine Triple.bind (Triple.handle (Triple.conseq hbody (fun _ h => h) (fun _ _ h => h)
    (fun _ _ h => h.mono hweak) (fun _ h => h.mono hweak)) hunstage) fun _ => ?_
  refine amends_amend hJ fun x hx => ?_
  rw [hx]
  exact hP.amends _ _ hstaged (.prepared rfl)

theorem amends_reconfigureSuspended (hr : P r) (hop : op = .reconfigure owner declaration)
    (hfound : found = some r) (howner : ensureReconfigureOwner r.owner owner = .ok ())
    (hphase : r.phase = .suspended) (hne : r.declaration ≠ declaration) :
    Maintains J (· = r) P (reconfigureSuspended J owner declaration r) := by
  have hsame := sameProcess_of_ensureReconfigureOwner howner
  have hweak : ∀ x, x = r → P x := fun x hx => hx ▸ hr
  have hserving : r.phase.serving := by
    rw [hphase]
    trivial
  have hcall : ∀ c, Preserves (Kept J P P) (call c : Tx β Unit) := kept_call
  unfold reconfigureSuspended
  refine Maintains.ensure_bind hweak fun ⟨hfirewall, htable, hrouter, hmtu⟩ => ?_
  refine Maintains.amend_bind hJ (fun x hx => ?_) (fun _ h => h) ?_
  · rw [hx]
    exact hP.amends _ _ hr (.intended owner declaration hserving hsame
      (.inl ⟨hop, hfound, howner, hfirewall, hrouter, hmtu, .inr ⟨hphase, htable, hne⟩⟩))
  refine Maintains.handle ?_ fun e => ?_
  · refine Maintains.bind (fun _ h => h) (hcall _) fun _ => ?_
    refine Maintains.bind (fun _ h => h) (hcall _) fun _ => ?_
    refine Maintains.bind (fun _ h => h) (hcall _) fun _ => ?_
    refine Maintains.bind (fun _ h => h) (hcall _) fun _ => ?_
    refine Maintains.bind (fun _ h => h) (hcall _) fun _ => ?_
    exact Maintains.replaceRecord hJ (fun _ h => h)
      (hP.amends _ _ hr (.reconfigured owner declaration hphase hsame hop))
  · unfold restoreSuspendedAfterReconfigure
    refine Triple.bind ?_ fun _ => Maintains.fail fun _ h => h
    refine Maintains.bind (fun _ h => h) (Preserves.errorOf (hcall _)) fun _ => ?_
    refine Maintains.bind (fun _ h => h) (Preserves.errorOf (hcall _)) fun _ => ?_
    refine Maintains.bind (fun _ h => h) (Preserves.errorOf (hcall _)) fun _ => ?_
    refine Maintains.bind (fun _ h => h) (Preserves.errorOf (hcall _)) fun _ => ?_
    refine Maintains.bind (fun _ h => h) (Preserves.errorOf (hcall _)) fun _ => ?_
    split
    · exact Maintains.fail fun _ h => h
    · exact Maintains.replaceRecord hJ (fun _ h => h) hr

theorem amends_reconfigure (hop : op = .reconfigure owner declaration) :
    Maintains J (fun r => P r ∧ found = some r) P (reconfigure J owner declaration) := by
  unfold reconfigure
  refine Maintains.lift_bind (fun _ h => h.1) fun _ _ => ?_
  refine Maintains.current_bind (fun _ h => h.1) fun r ⟨hr, hfound⟩ => ?_
  have hweak : ∀ x, x = r → P x := fun x hx => hx ▸ hr
  refine Maintains.lift_bind hweak fun _ howner => ?_
  have hsame := sameProcess_of_ensureReconfigureOwner howner
  have hadopted : r.phase.serving → P { r with owner } := fun hserving =>
    hP.amends _ _ hr (.adopted owner hserving hsame ⟨declaration, hop⟩)
  refine Maintains.ite (fun hactive => ?_) fun _ => ?_
  · unfold prepareReplacement
    -- The replacement reads the record once more: it is still `r`.
    refine Maintains.current_bind hweak fun r' hr' => ?_
    subst hr'
    refine Maintains.lift_bind hweak fun _ _ => ?_
    refine Maintains.ite (fun _ => Maintains.replaceRecord hJ hweak (hadopted ?_)) fun _ => ?_
    · rw [hactive]
      trivial
    refine Maintains.ensure_bind hweak fun ⟨htable, hfirewall, hrouter, hmtu⟩ => ?_
    split
    · exact Maintains.of_preserves (Preserves.ensure _ _) hweak
    · rename_i hcandidate
      exact amends_stageReplacement hJ hP hr hactive hcandidate
        ⟨hop, hfound, howner, hfirewall, hrouter, hmtu, .inl ⟨hactive, htable⟩⟩
  · refine Maintains.ensure_bind hweak fun hphase => ?_
    refine Maintains.ite (fun _ => Maintains.replaceRecord hJ hweak (hadopted ?_)) fun hne => ?_
    · rw [hphase]
      trivial
    exact amends_reconfigureSuspended hJ hP hr hop hfound howner hphase hne

theorem amends_changePolicy (hr : P r) (hop : op = .updatePolicy owner declaration)
    (hserving : r.phase.serving) (hcandidate : r.recoveryCandidate = none)
    (howner : ensureOwner r.owner owner = .ok ()) :
    Maintains J (· = r) P (changePolicy J owner declaration r) := by
  have hsame := sameProcess_of_ensureOwner howner
  have hcall : ∀ c, Preserves (Kept J P P) (call c : Tx β Unit) := kept_call
  unfold changePolicy
  refine Maintains.amend_bind hJ (fun x hx => ?_) (fun _ h => h) ?_
  · rw [hx]
    refine hP.amends _ _ hr (.intended owner declaration hserving hsame (.inr ⟨hop, ?_⟩))
    rw [ensureOwner, refuseIf_eq_ok] at howner
    simp only [Bool.not_eq_false', Bool.and_eq_true, beq_iff_eq] at howner
    exact howner.2
  refine Maintains.handle ?_ fun e => ?_
  · refine Maintains.bind (fun _ h => h) ?_ fun _ => ?_
    · refine Preserves.bind (Preserves.when _ (hcall _)) fun _ => ?_
      exact Preserves.bind (Preserves.when _ (hcall _)) fun _ => Preserves.when _ (hcall _)
    · exact Maintains.replaceRecord hJ (fun _ h => h)
        (hP.amends _ _ hr (.updated owner declaration hserving hcandidate hop))
  · unfold restorePolicyAfterUpdate
    refine Triple.bind ?_ fun _ => Maintains.fail fun _ h => h
    refine Maintains.bind (fun _ h => h) (Preserves.errorOf (Preserves.when _ (hcall _))) fun _ => ?_
    refine Maintains.bind (fun _ h => h) (Preserves.errorOf (Preserves.when _ (hcall _))) fun _ => ?_
    refine Maintains.bind (fun _ h => h) (Preserves.when _ (hcall _)) fun _ => ?_
    split
    · exact Maintains.fail fun _ h => h
    · exact Maintains.replaceRecord hJ (fun _ h => h) hr

theorem amends_updatePolicy (hop : op = .updatePolicy owner declaration) :
    Maintains J P P (updatePolicy J owner declaration) := by
  unfold updatePolicy
  refine Maintains.lift_bind (fun _ h => h) fun _ _ => ?_
  refine Maintains.current_bind (fun _ h => h) fun r hr => ?_
  have hweak : ∀ x, x = r → P x := fun x hx => hx ▸ hr
  refine Maintains.lift_bind hweak fun _ howner => Maintains.ensure_bind hweak fun hguard => ?_
  have hserving : r.phase.serving := by
    rcases hguard.1 with h | h <;> rw [h] <;> trivial
  refine Maintains.ite (fun _ => ?_) fun _ => ?_
  · exact Maintains.of_preserves (Preserves.when _ (kept_call _)) hweak
  · exact amends_changePolicy hJ hP hr hop hserving hguard.2.1 howner

theorem amends_recoverPolicyUpdate (hr : P r) (hphase : r.phase = .rollingBack) :
    Maintains J (· = r) P (recoverPolicyUpdate J) := by
  have hweak : ∀ x, x = r → P x := fun x hx => hx ▸ hr
  unfold recoverPolicyUpdate
  refine Maintains.current_bind hweak fun r' hr' => ?_
  subst hr'
  refine Triple.okOr_bind (fun candidate _ => ?_) (fun _ h => h.mono hweak)
  refine Maintains.bind hweak (Preserves.when _ (kept_call _)) fun _ => ?_
  refine Maintains.bind hweak (Preserves.when _ (kept_call _)) fun _ => ?_
  refine Maintains.bind hweak (Preserves.when _ (kept_call _)) fun _ => ?_
  refine Maintains.replaceRecord hJ hweak (hP.amends _ _ hr (.recovered _ hphase ?_))
  split <;> trivial

theorem amends_recoverOrphan {alive : Bool} {now : UInt64} :
    Maintains J P P (recoverOrphan J alive now) := by
  have hreturn : ∀ {M : TransactionRecord → Prop} {m : Tx β Unit}, Maintains J M P m →
      Maintains J M P (do m; return true) :=
    fun hm => Triple.bind hm fun _ => Maintains.pure fun _ h => h
  intro w hw
  rw [recoverOrphan, wp_bind, wp_get]
  split
  · exact hw
  · rename_i r hrecord
    have hr := hw.memory r hrecord
    split
    · rename_i hupdate
      have hphase : r.phase = .rollingBack := by
        unfold isPolicyUpdate at hupdate
        simp only [Bool.and_eq_true, beq_iff_eq] at hupdate
        exact hupdate.1.1.1
      rw [wp_bind]
      exact amends_recoverPolicyUpdate hJ hP hr hphase w (hw.exactly hrecord)
    · split
      · split
        · exact hw
        · exact hreturn (amends_withdrawCandidate hJ hP _) w hw
      · split
        · split
          · exact hw
          · refine hreturn (amends_drainOld hJ hP (M := (· = r)) (fun x hx => hx ▸ hr)
              fun x hx => .inr ?_) w (hw.exactly hrecord)
            rw [hx]
        · split
          · exact hw
          · exact hreturn (amends_cleanupRecord hJ hP) w hw

/-- Whatever is closed under the changes of an operation survives the operation. -/
theorem amends_exec : Maintains J (fun r => P r ∧ found = some r) P (exec J op) := by
  have hpre : ∀ {α : Type} {m : Tx β α}, Maintains J P P m →
      Maintains J (fun r => P r ∧ found = some r) P m := fun hm => hm.pre fun _ h => h.1
  cases op with
  | prepare owner declaration => exact hpre (amends_prepare hJ hP rfl)
  | commitWithDrain owner now timeout => exact hpre (amends_commitWithDrain hJ hP)
  | drainOld owner now => exact amends_drainOld hJ hP (fun _ h => h.1) fun _ _ => .inl ⟨now, rfl⟩
  | rollback owner => exact hpre (amends_rollback hJ hP)
  | setFailedPrefixes owner prefixes => exact amends_setFailedPrefixes hJ hP rfl
  | renewLease owner => exact hpre (amends_renewLease hJ hP rfl)
  | updateMtu owner effectiveMtu => exact hpre (amends_updateMtu hJ hP)
  | suspend owner => exact hpre (amends_suspend hJ hP)
  | resume owner => exact hpre (amends_resume hJ hP)
  | reconfigure owner declaration => exact amends_reconfigure hJ hP rfl
  | updatePolicy owner declaration => exact hpre (amends_updatePolicy hJ hP rfl)
  | recoverOrphan alive now =>
    exact hpre (Triple.bind (amends_recoverOrphan hJ hP) fun _ => Maintains.pure fun _ h => h)

end Operations

/-- What every operation keeps holds of the record in memory in every state of every run. -/
theorem reachable_kept {permitted : Operation → NetworkTransaction β → Prop} (hJ : J.Carries P)
    (hP : ∀ op w, permitted op w → Closed op w.record P) (hw : Reachable J permitted w) :
    Kept J P P w := by
  refine reachable_of_wp ⟨by simp [NetworkTransaction.fresh], by simp [NetworkTransaction.fresh]⟩
    (fun _ _ _ h => ⟨h.memory, h.disk⟩) (fun op w h hpermitted => ?_) (fun _ h => h)
    (fun w record h hload => ⟨fun r hr => ?_, h.disk⟩) hw
  · exact amends_exec hJ (hP op w hpermitted) w ⟨fun r hr => ⟨h.memory r hr, hr⟩, h.disk⟩
  subst hr
  cases hstored : w.stored with
  | none =>
    rw [hstored] at hload
    cases hload
  | some content =>
    rw [hstored] at hload
    cases hdecode : J.decode content with
    | error e =>
      rw [load, hdecode] at hload
      cases hload
    | ok r' =>
      rw [load, hdecode] at hload
      have heq : r' = r := Option.some.inj (Except.ok.inj hload)
      exact heq ▸ h.disk content r' hstored hdecode

end CandyRuntime.NetdV1
