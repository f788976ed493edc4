import CandyRuntime.Lib.Success
import CandyRuntime.NetdV1.Changes
import CandyRuntime.NetdV1.JournalableTheorems
import CandyRuntime.NetdV1.ServeTheorems

/-!
# Operations of the transaction that are made twice

An operation has succeeded and is made again, with nothing that fails. Most of them succeed once
more: they find the record they have left. A replacement that was staged does not: `reconfigure`
only looks at an active or a suspended transaction, and staging has made it a prepared one. After
a roll-back there is usually nothing left to roll back.
-/

namespace CandyRuntime.NetdV1

open Lib Lib.Proc NetdProto

variable {β : Type} {J : JournalFormat β} {r : TransactionRecord} {w w₁ w₂ : NetworkTransaction β}
  {o : LeaseOwner}
variable {r' : TransactionRecord}

/-! ## The record along a program -/

/-- The record in memory is `r`. -/
def Holding (r : TransactionRecord) (w : NetworkTransaction β) : Prop := w.record = some r

/-- Nothing fails from here on. -/
def Untroubled (w : NetworkTransaction β) : Prop :=
  ∀ n, w.fates.backend n = .ok ∧ w.fates.journal n = .ok

/-- The record is `r`, and nothing fails. -/
def ReadyAt (r : TransactionRecord) (w : NetworkTransaction β) : Prop := Holding r w ∧ Untroubled w

/-- The journal takes the record. -/
def CanStore (J : JournalFormat β) (r : TransactionRecord) : Prop := ∃ content, J.encode r = .ok content

section Rules

variable {α : Type} {f : TransactionRecord → TransactionRecord} {c : BackendCall}
  {P : NetworkTransaction β → Prop} {Q : α → NetworkTransaction β → Prop}

theorem finds_current_bind {k : TransactionRecord → Tx β α} (hk : Yields (Holding r) (k r) Q) :
    Yields (Holding r) (current >>= k) Q := by
  intro w hw
  rw [wp_bind, wp_current hw]
  exact hk w hw

theorem finds_call : Yields (Holding r) (call c : Tx β Unit) fun _ => Holding r := by
  intro w hw
  rw [wp_call]
  exact ⟨fun _ => hw, fun _ _ => trivial, fun _ => trivial⟩

/-- A store that succeeds was possible, and it leaves the record in memory alone. -/
theorem finds_store :
    Yields (fun w => w.record = some r) (store J r')
      fun _ w => w.record = some r ∧ CanStore J r' := by
  intro w hw
  unfold store
  cases hencode : J.encode r' with
  | ok content =>
    dsimp only
    rw [wp_writeJournal]
    exact ⟨fun _ => ⟨hw, content, hencode⟩, fun _ => trivial, fun _ => trivial, fun _ => trivial⟩
  | error e => trivial

theorem finds_amend :
    Yields (Holding r) (amend J f) fun _ w => Holding (f r) w ∧ CanStore J (f r) := by
  unfold amend
  refine finds_current_bind ?_
  exact Yields.bind (Q := fun _ => Holding (f r)) (fun _ _ => rfl) fun _ => finds_store

theorem finds_replaceRecord :
    Yields (Holding r) (replaceRecord J r') fun _ w => Holding r' w ∧ CanStore J r' := by
  unfold replaceRecord
  refine Yields.bind finds_store fun _ => ?_
  intro w hw
  exact ⟨rfl, hw.2⟩

theorem delivers_current_bind {k : TransactionRecord → Tx β α} (hk : Delivers (ReadyAt r) (k r) Q) :
    Delivers (ReadyAt r) (current >>= k) Q := by
  intro w hw
  rw [wp_bind, wp_current hw.1]
  exact hk w hw

theorem delivers_call : Delivers (ReadyAt r) (call c : Tx β Unit) fun _ => ReadyAt r := by
  intro w hw
  have hfair : Untroubled w := hw.2
  rw [wp_call, (hfair 0).1]
  refine ⟨fun _ => ⟨hw.1, fun n => ⟨(hfair (n + 1)).1, (hfair n).2⟩⟩, ?_, ?_⟩
  · intro _ h
    cases h
  · intro h
    cases h

theorem delivers_writeJournal {content : Option β} :
    Delivers (ReadyAt r) (writeJournal content) fun _ => ReadyAt r := by
  intro w hw
  have hfair : Untroubled w := hw.2
  rw [wp_writeJournal, (hfair 0).2]
  refine ⟨fun _ => ⟨hw.1, fun n => ⟨(hfair n).1, (hfair (n + 1)).2⟩⟩, ?_, ?_, ?_⟩
  · intro h
    cases h
  · intro h
    cases h
  · intro h
    cases h

theorem delivers_store (hs : CanStore J r') :
    Delivers (ReadyAt r) (store J r') fun _ => ReadyAt r := by
  obtain ⟨content, hencode⟩ := hs
  unfold store
  rw [hencode]
  exact delivers_writeJournal

theorem delivers_amend (hs : CanStore J (f r)) :
    Delivers (ReadyAt r) (amend J f) fun _ => ReadyAt (f r) := by
  unfold amend
  refine delivers_current_bind ?_
  refine Delivers.bind (Q := fun _ => ReadyAt (f r)) (fun w hw => ⟨rfl, hw.2⟩) fun _ => ?_
  exact delivers_store hs

theorem delivers_replaceRecord (hs : CanStore J r') :
    Delivers (ReadyAt r) (replaceRecord J r') fun _ => ReadyAt r' := by
  unfold replaceRecord
  refine Delivers.bind (delivers_store hs) fun _ => ?_
  intro w hw
  exact ⟨rfl, hw.2⟩

end Rules

/-! ## Operations that succeed again -/

section Again

variable {declaration : PrepareDeclaration} {now now' timeout timeout' : UInt64}

/-- What `prepare` leaves, or finds. -/
def PreparedAs (o : LeaseOwner) (declaration : PrepareDeclaration) (r : TransactionRecord) : Prop :=
  ensureOwner r.owner o = .ok () ∧ r.declaration = declaration
    ∧ (r.phase = .prepared ∨ r.phase = .active)

theorem ensureOwner_self : ensureOwner o o = .ok () := by
  simp [ensureOwner, refuseIf]

/-- The last change of a program, when the record before it is only known to satisfy `P`. -/
theorem finds_amend_memory {P : TransactionRecord → Prop}
    {f : TransactionRecord → TransactionRecord} :
    Yields (Kept J P fun _ => True) (amend J f) fun _ w => ∃ r, P r ∧ Holding (f r) w := by
  intro w hw
  cases hrecord : w.record with
  | none =>
    rw [amend, wp_bind, current, wp_bind, wp_get, hrecord, wp_okOr_none]
    trivial
  | some r =>
    have hr : Holding r w := hrecord
    exact wp_mono (finds_amend w hr) (fun _ w' hw' => ⟨r, hw.memory r hrecord, hw'.1⟩)
      (fun _ _ _ => trivial) fun _ _ => trivial

theorem finds_prepareSteps :
    Yields (Kept J (fun r => r.owner = o ∧ r.declaration = declaration) fun _ => True)
      (prepareSteps J : Tx β Unit)
      fun _ w => ∃ r, Holding r w ∧ PreparedAs o declaration r := by
  let K : NetworkTransaction β → Prop :=
    Kept J (fun r => r.owner = o ∧ r.declaration = declaration) fun _ => True
  have hcurrent : Yields K (current : Tx β TransactionRecord) fun _ => K :=
    Yields.of_preserves (Preserves.bind Preserves.get fun _ => Preserves.okOr _ _)
  have hamend {f : TransactionRecord → TransactionRecord} (hf : ∀ r, r.owner = o
      ∧ r.declaration = declaration → (f r).owner = o ∧ (f r).declaration = declaration) :
      Yields K (amend J f) fun _ => K :=
    Yields.of_preserves (kept_amend (fun _ _ _ _ _ _ => trivial) hf fun _ _ => trivial)
  have hstep {step : UInt16} : Yields K (completeStep J step) fun _ => K := hamend fun _ h => h
  have hcall {c : BackendCall} {stage : BackendStage} :
      Yields K (atStage (call c) stage : Tx β Unit) fun _ => K :=
    Yields.of_preserves (kept_atStage (kept_call c))
  have hpreflight {d : PrepareDeclaration} : Yields K
      (atStage (preflight d) .preflight : Tx β (List SysctlChange)) fun _ => K :=
    Yields.of_preserves (kept_atStage (Triple.post (kept_preflight d) fun _ _ h => h.1))
  have hsysctls {sysctls : List SysctlChange} :
      Yields K (amend J fun record => { record with sysctls }) fun _ => K := hamend fun _ h => h
  unfold prepareSteps
  refine Yields.bind hcurrent fun _ => Yields.bind hpreflight fun _ => ?_
  refine Yields.bind hsysctls fun _ => Yields.bind hstep fun _ => ?_
  refine Yields.bind hcurrent fun _ => Yields.bind hcall fun _ => ?_
  refine Yields.bind hstep fun _ => Yields.bind hcall fun _ => ?_
  refine Yields.bind hstep fun _ => Yields.bind hcall fun _ => ?_
  refine Yields.bind hstep fun _ => Yields.bind hcall fun _ => ?_
  refine Yields.bind hstep fun _ => Yields.bind hcall fun _ => ?_
  refine Yields.post finds_amend_memory fun _ w hw => ?_
  obtain ⟨r, ⟨howner, hdeclaration⟩, hr⟩ := hw
  exact ⟨_, hr, by rw [howner]; exact ensureOwner_self, hdeclaration, .inl rfl⟩

theorem finds_prepare :
    Yields (fun _ => True) (prepare J o declaration : Tx β Unit)
      fun _ w => ∃ r, Holding r w ∧ PreparedAs o declaration r := by
  intro w _
  unfold prepare
  rw [wp_bind, wp_get]
  cases hrecord : w.record with
  | some r =>
    have hr : Holding r w := hrecord
    refine Yields.lift_bind (fun _ howner => Yields.ensure_bind fun hdeclaration => ?_) w hr
    intro w hw
    rw [wp_ensure]
    exact ⟨fun hphase => ⟨r, hw, howner, hdeclaration, hphase⟩, fun _ => trivial⟩
  | none =>
    have hfresh : Yields (fun w => w.record = none) (replaceRecord J (freshRecord o declaration))
        fun _ => Kept J (fun r => r.owner = o ∧ r.declaration = declaration) fun _ => True := by
      refine Yields.bind (Q := fun _ _ => True) (fun w _ => ?_) fun _ => ?_
      · unfold wp
        split <;> trivial
      · intro w _
        refine ⟨fun r hr => ?_, fun _ _ _ _ => trivial⟩
        obtain rfl : freshRecord o declaration = r := Option.some.inj hr
        exact ⟨rfl, rfl⟩
    refine Yields.lift_bind (fun _ _ => Yields.bind hfresh fun _ => ?_) w hrecord
    exact Yields.handle finds_prepareSteps fun e =>
      neverReturns_bind fun _ => neverReturns_fail e

/-- A transaction that is prepared is prepared once more without a call. -/
theorem delivers_prepare (hr : PreparedAs o declaration r) :
    Delivers (ReadyAt r) (prepare J o declaration) fun _ => ReadyAt r := by
  obtain ⟨howner, hdeclaration, hphase⟩ := hr
  intro w hw
  unfold prepare
  rw [wp_bind, wp_get, hw.1]
  refine Delivers.lift_bind howner (Delivers.ensure_bind hdeclaration ?_) w hw
  intro w hw
  rw [wp_ensure]
  exact ⟨fun _ => hw, fun hno => (hno hphase).elim⟩

/-- What `commit_with_drain` leaves, or finds. -/
def CommittedAs (o : LeaseOwner) (r : TransactionRecord) : Prop :=
  ensureStagedOwner r o = .ok () ∧ (r.phase = .draining ∨ r.phase = .active)

theorem finds_commitWithDrain :
    Yields (Holding r) (commitWithDrain J o now timeout)
      fun _ w => ∃ r', Holding r' w ∧ CommittedAs o r' := by
  unfold commitWithDrain
  refine finds_current_bind (Yields.lift_bind fun _ howner => ?_)
  split
  · next hphase => exact Yields.pure fun w hw => ⟨r, hw, howner, .inl hphase⟩
  · next candidate hphase hcandidate =>
    refine Yields.handle ?_ fun e => neverReturns_bind fun _ => neverReturns_bind fun _ =>
      neverReturns_bind fun _ => neverReturns_bind fun _ => neverReturns_fail e
    refine Yields.bind finds_call fun _ => Yields.bind finds_call fun _ => ?_
    exact Yields.post finds_amend fun _ w hw => ⟨_, hw.1, howner, .inl rfl⟩
  · next hphase => exact Yields.pure fun w hw => ⟨r, hw, howner, .inr hphase⟩
  · next hphase hcandidate =>
    refine Yields.handle ?_ fun e => neverReturns_bind fun _ => neverReturns_fail e
    refine Yields.bind (Yields.post finds_amend fun _ w hw => hw.1) fun _ => ?_
    refine Yields.bind (Yields.mapError finds_call) fun _ => ?_
    exact Yields.post finds_amend fun _ w hw => ⟨_, hw.1, howner, .inr rfl⟩
  · exact Yields.of_neverReturns (neverReturns_fail _)

theorem delivers_commitWithDrain (hr : CommittedAs o r) :
    Delivers (ReadyAt r) (commitWithDrain J o now timeout) fun _ => ReadyAt r := by
  obtain ⟨howner, hphase⟩ := hr
  unfold commitWithDrain
  refine delivers_current_bind (Delivers.lift_bind howner ?_)
  rcases hphase with hphase | hphase
  · rw [hphase]
    exact Delivers.pure fun _ hw => hw
  · rw [hphase]
    exact Delivers.pure fun _ hw => hw

/-- What `renew_lease` makes of the record. -/
def renewedBy (o : LeaseOwner) (r : TransactionRecord) : TransactionRecord :=
  { r with owner := { r.owner with leaseDeadlineMonoMs := o.leaseDeadlineMonoMs } }

theorem finds_renewLease :
    Yields (Holding r) (renewLease J o) fun _ w => Holding (renewedBy o r) w
      ∧ CanStore J (renewedBy o r) ∧ ensureStagedOwner (renewedBy o r) o = .ok () := by
  unfold renewLease
  refine finds_current_bind (Yields.lift_bind fun _ howner => ?_)
  exact Yields.post finds_amend fun _ w hw => ⟨hw.1, hw.2, howner⟩

theorem delivers_renewLease (hstored : CanStore J (renewedBy o r))
    (howner : ensureStagedOwner r o = .ok ()) :
    Delivers (ReadyAt r) (renewLease J o) fun _ => ReadyAt (renewedBy o r) := by
  unfold renewLease
  exact delivers_current_bind (Delivers.lift_bind howner (delivers_amend hstored))

/-- The record has these prefixes as the failed ones, and may have them. -/
structure FailedAs (o : LeaseOwner) (prefixes : List Ipv4Prefix) (r : TransactionRecord) :
    Prop where
  owner : ensureOwner r.owner o = .ok ()
  phase : r.phase = .active ∨ r.phase = .suspended
  scope : (sortDedup prefixes).all (inScope r.declaration) = true
  failed : r.failedPrefixes = sortDedup prefixes

theorem finds_setFailedPrefixes {prefixes : List Ipv4Prefix} :
    Yields (Holding r) (setFailedPrefixes J o prefixes)
      fun _ w => ∃ r', Holding r' w ∧ CanStore J r' ∧ FailedAs o prefixes r' := by
  unfold setFailedPrefixes
  refine finds_current_bind (Yields.lift_bind fun _ howner => Yields.ensure_bind fun hphase => ?_)
  refine Yields.ensure_bind fun hscope => Yields.bind finds_call fun _ => ?_
  refine Yields.bind (Yields.when (fun _ => finds_call) fun _ _ hw => hw) fun _ => ?_
  exact Yields.post finds_amend fun _ w hw => ⟨_, hw.1, hw.2, howner, hphase, hscope, rfl⟩

theorem delivers_setFailedPrefixes {prefixes : List Ipv4Prefix} (hr : FailedAs o prefixes r)
    (hstored : CanStore J r) :
    Delivers (ReadyAt r) (setFailedPrefixes J o prefixes) fun _ => ReadyAt r := by
  have hsame : { r with failedPrefixes := sortDedup prefixes } = r := by rw [← hr.failed]
  unfold setFailedPrefixes
  refine delivers_current_bind (Delivers.lift_bind hr.owner (Delivers.ensure_bind hr.phase ?_))
  refine Delivers.ensure_bind hr.scope (Delivers.bind delivers_call fun _ => ?_)
  refine Delivers.bind (Triple.when (fun _ => delivers_call) fun _ _ hw => hw) fun _ => ?_
  have hamend := delivers_amend (J := J) (r := r)
    (f := fun record => { record with failedPrefixes := sortDedup prefixes })
    (by rw [hsame]; exact hstored)
  rw [hsame] at hamend
  exact hamend

/-- The record has this policy, and may be given one. -/
structure PolicyAs (o : LeaseOwner) (declaration : PrepareDeclaration) (r : TransactionRecord) :
    Prop where
  valid : validDeclaration declaration = .ok ()
  owner : ensureOwner r.owner o = .ok ()
  phase : r.phase = .active ∨ r.phase = .suspended
  candidate : r.recoveryCandidate = none
  declaration : r.declaration = declaration

theorem finds_applyPolicy {previous : TransactionRecord} {retained : List Ipv4Prefix} :
    Yields (Holding r) (applyPolicy previous declaration retained : Tx β Unit)
      fun _ => Holding r := by
  unfold applyPolicy
  refine Yields.bind (Yields.when (fun _ => finds_call) fun _ _ hw => hw) fun _ => ?_
  refine Yields.bind (Yields.when (fun _ => finds_call) fun _ _ hw => hw) fun _ => ?_
  exact Yields.when (fun _ => finds_call) fun _ _ hw => hw

theorem finds_updatePolicy :
    Yields (Holding r) (updatePolicy J o declaration)
      fun _ w => ∃ r', Holding r' w ∧ PolicyAs o declaration r' := by
  unfold updatePolicy
  refine Yields.lift_bind fun _ hvalid => finds_current_bind (Yields.lift_bind fun _ howner => ?_)
  refine Yields.ensure_bind fun hsettled => ?_
  obtain ⟨hphase, hcandidate, _⟩ := hsettled
  by_cases hsame : r.declaration = declaration
  · rw [if_pos hsame]
    have hr : PolicyAs o declaration r := ⟨hvalid, howner, hphase, hcandidate, hsame⟩
    refine Yields.post (Yields.when (fun _ => finds_call) fun _ _ hw => hw) fun _ w hw => ?_
    exact ⟨r, hw, hr⟩
  · rw [if_neg hsame]
    unfold changePolicy
    refine Yields.bind (Yields.post finds_amend fun _ w hw => hw.1) fun _ => ?_
    refine Yields.handle ?_ fun e => neverReturns_bind fun _ => neverReturns_fail e
    refine Yields.bind finds_applyPolicy fun _ => ?_
    refine Yields.post finds_replaceRecord fun _ w hw => ⟨_, hw.1, ?_⟩
    exact ⟨hvalid, howner, hphase, rfl, rfl⟩

theorem delivers_updatePolicy (hr : PolicyAs o declaration r) :
    Delivers (ReadyAt r) (updatePolicy J o declaration) fun _ => ReadyAt r := by
  have hself : sameTunnelDeclaration r.declaration declaration = true := by
    simp [sameTunnelDeclaration, hr.declaration]
  unfold updatePolicy
  refine Delivers.lift_bind hr.valid (delivers_current_bind (Delivers.lift_bind hr.owner ?_))
  refine Delivers.ensure_bind ⟨hr.phase, hr.candidate, hself⟩ ?_
  rw [if_pos hr.declaration]
  exact Triple.when (fun _ => delivers_call) fun _ _ hw => hw

/-! ## Reconfigurations -/

/-- The reconfiguration stages a replacement beside the active declaration. -/
def StagesReplacement (declaration : PrepareDeclaration) (r : TransactionRecord) : Prop :=
  r.phase = .active ∧ r.declaration ≠ declaration ∧ r.recoveryCandidate = none

/-- The record has this owner and declaration already, or the declaration is staged in it. -/
structure ReconfiguredAs (J : JournalFormat β) (o : LeaseOwner) (declaration : PrepareDeclaration)
    (r : TransactionRecord) : Prop where
  valid : validDeclaration declaration = .ok ()
  owner : ensureReconfigureOwner r.owner o = .ok ()
  phase : r.phase = .active ∨ r.phase = .suspended
  declaration : (r.declaration = declaration ∧ r.owner = o ∧ CanStore J r)
    ∨ (r.phase = .active ∧ r.declaration ≠ declaration
      ∧ (r.declaration.tableId ≠ declaration.tableId
        ∧ r.declaration.firewall = declaration.firewall
        ∧ r.declaration.overlayRouterIpv4 = declaration.overlayRouterIpv4
        ∧ r.declaration.effectiveMtu = declaration.effectiveMtu)
      ∧ r.recoveryCandidate = some declaration)

theorem ensureReconfigureOwner_self : ensureReconfigureOwner o o = .ok () := by
  simp [ensureReconfigureOwner, refuseIf]

theorem finds_reconfigure :
    Yields (Holding r) (reconfigure J o declaration)
      fun _ w => ∃ r', Holding r' w ∧ (StagesReplacement declaration r ∧ r'.phase = .prepared
        ∨ ¬ StagesReplacement declaration r ∧ ReconfiguredAs J o declaration r') := by
  unfold reconfigure
  refine Yields.lift_bind fun _ hvalid => finds_current_bind (Yields.lift_bind fun _ howner => ?_)
  by_cases hactive : r.phase = .active
  · rw [if_pos hactive]
    unfold prepareReplacement
    refine finds_current_bind (Yields.lift_bind fun _ _ => ?_)
    by_cases hsame : r.declaration = declaration
    · rw [if_pos hsame]
      refine Yields.post finds_replaceRecord fun _ w hw => ⟨_, hw.1, .inr ⟨?_, ?_⟩⟩
      · exact fun hstages => hstages.2.1 hsame
      · exact ⟨hvalid, ensureReconfigureOwner_self, .inl hactive, .inl ⟨hsame, rfl, hw.2⟩⟩
    · rw [if_neg hsame]
      refine Yields.ensure_bind fun hdistinct => ?_
      cases hcandidate : r.recoveryCandidate with
      | some candidate =>
        intro w hw
        rw [wp_ensure]
        refine ⟨fun hstaged => ⟨r, hw, .inr ⟨?_, ?_⟩⟩, fun _ => trivial⟩
        · intro hstages
          have hnone : r.recoveryCandidate = none := hstages.2.2
          simp [hcandidate] at hnone
        · refine ⟨hvalid, howner, .inl hactive, .inr ⟨hactive, hsame, hdistinct, ?_⟩⟩
          rw [hcandidate, hstaged]
      | none =>
        have hstages : StagesReplacement declaration r := ⟨hactive, hsame, hcandidate⟩
        have hprepare : Yields (Holding (stageCandidate o declaration r)) (do
            lift (validDeclaration declaration)
            let _ ← preflight declaration
            call (.prepareLink declaration)
            call (.prepareRoutes declaration)
            call (.prepareFirewall declaration) : Tx β Unit)
            fun _ => Holding (stageCandidate o declaration r) := by
          have hpreflight : Yields (Holding (stageCandidate o declaration r))
              (preflight declaration : Tx β (List SysctlChange))
              fun _ => Holding (stageCandidate o declaration r) :=
            Yields.bind finds_call fun _ => Yields.bind (Yields.of_preserves Preserves.get)
              fun _ => Yields.of_preserves (Preserves.lift _)
          refine Yields.lift_bind fun _ _ => Yields.bind hpreflight fun _ => ?_
          exact Yields.bind finds_call fun _ => Yields.bind finds_call fun _ => finds_call
        unfold stageReplacement
        refine Yields.bind (Yields.post finds_amend fun _ w hw => hw.1) fun _ => ?_
        refine Yields.bind (Yields.handle hprepare fun e => neverReturns_bind fun _ =>
          neverReturns_bind fun _ => neverReturns_bind fun _ => neverReturns_fail e) fun _ => ?_
        exact Yields.post finds_amend fun _ w hw => ⟨_, hw.1, .inl ⟨hstages, rfl⟩⟩
  · rw [if_neg hactive]
    have hno : ¬ StagesReplacement declaration r := fun hstages => hactive hstages.1
    refine Yields.ensure_bind fun hsuspended => ?_
    by_cases hsame : r.declaration = declaration
    · rw [if_pos hsame]
      refine Yields.post finds_replaceRecord fun _ w hw => ⟨_, hw.1, .inr ⟨hno, ?_⟩⟩
      exact ⟨hvalid, ensureReconfigureOwner_self, .inr hsuspended, .inl ⟨hsame, rfl, hw.2⟩⟩
    · rw [if_neg hsame]
      unfold reconfigureSuspended
      refine Yields.ensure_bind fun _ => ?_
      refine Yields.bind (Yields.post finds_amend fun _ w hw => hw.1) fun _ => ?_
      refine Yields.handle ?_ fun e => neverReturns_bind fun _ => neverReturns_fail e
      refine Yields.bind finds_call fun _ => Yields.bind finds_call fun _ => ?_
      refine Yields.bind finds_call fun _ => Yields.bind finds_call fun _ => ?_
      refine Yields.bind finds_call fun _ => ?_
      refine Yields.post finds_replaceRecord fun _ w hw => ⟨_, hw.1, .inr ⟨hno, ?_⟩⟩
      exact ⟨hvalid, ensureReconfigureOwner_self, .inr hsuspended, .inl ⟨rfl, rfl, hw.2⟩⟩

theorem delivers_reconfigure (hr : ReconfiguredAs J o declaration r) :
    Delivers (ReadyAt r) (reconfigure J o declaration) fun _ => ReadyAt r := by
  unfold reconfigure
  refine Delivers.lift_bind hr.valid (delivers_current_bind (Delivers.lift_bind hr.owner ?_))
  rcases hr.declaration with ⟨hsame, howner, hstored⟩ | ⟨hactive, hsame, hdistinct, hcandidate⟩
  · have heq : { r with owner := o } = r := by rw [← howner]
    have hreplace : Delivers (ReadyAt r) (replaceRecord J { r with owner := o })
        fun _ => ReadyAt r := by
      rw [heq]
      exact delivers_replaceRecord hstored
    by_cases hactive : r.phase = .active
    · rw [if_pos hactive]
      unfold prepareReplacement
      refine delivers_current_bind (Delivers.lift_bind hr.owner ?_)
      rw [if_pos hsame]
      exact hreplace
    · rw [if_neg hactive]
      refine Delivers.ensure_bind (hr.phase.resolve_left hactive) ?_
      rw [if_pos hsame]
      exact hreplace
  · rw [if_pos hactive]
    unfold prepareReplacement
    refine delivers_current_bind (Delivers.lift_bind hr.owner ?_)
    rw [if_neg hsame]
    refine Delivers.ensure_bind hdistinct ?_
    rw [hcandidate]
    intro w hw
    rw [wp_ensure]
    exact ⟨fun _ => hw, fun hno => (hno rfl).elim⟩

end Again

end CandyRuntime.NetdV1
