import CandyRuntime.NetdV1.JournalTheorems
import CandyRuntime.NetdV1.Runs

/-!
# The lease of a session under replacement

While a replacement is staged there are two owners: `renew_lease` writes the lease of the retained
one, and the drain promotes the other. `Leasing` are the runs of a session that renews its lease
before, during and after replacements, with the leases it has presented and the last one that was
acknowledged.
-/

namespace CandyRuntime.NetdV1

open Lib Lib.Proc NetdProto

/-! ## Runs -/

/-- A transaction, the largest lease its owner has presented and the last one acknowledged. -/
structure Session (β : Type) where
  transaction : NetworkTransaction β
  presented : UInt64
  acknowledged : UInt64

/-- The lease deadline of the retained owner. -/
def TransactionRecord.lease (r : TransactionRecord) : UInt64 := r.owner.leaseDeadlineMonoMs

/-- The operations of a session that is replaced and renewed, the daemon's timer included. -/
def Operation.ofSession (acknowledged : UInt64) : Operation → Prop
  | .reconfigure _ _ | .commitWithDrain _ _ _ | .renewLease _ | .drainOld _ _ => True
  | .recoverOrphan alive now => alive = true ∧ now < acknowledged
  | _ => False

/-- The largest lease presented once the operation is made. -/
def Operation.presents (presented : UInt64) : Operation → UInt64
  | .reconfigure owner _ | .renewLease owner => owner.leaseDeadlineMonoMs
  | _ => presented

/-- The last lease acknowledged once the operation has returned. -/
def Operation.acknowledges (acknowledged : UInt64) : Operation → Except NetworkError Unit → UInt64
  | .renewLease owner, .ok () => owner.leaseDeadlineMonoMs
  | _, _ => acknowledged

/-- The operation promotes the candidate: the drain is due and the old declaration is removed. -/
def Promotes (op : Operation) (r : TransactionRecord) (fates : Fates) : Prop :=
  r.phase = .draining ∧ (∀ n < 3, fates.backend n = .ok)
    ∧ match op with
      | .drainOld owner now => ensureStagedOwner r owner = .ok ()
        ∧ (r.drainDeadlineMonoMs = 0 ∨ r.drainDeadlineMonoMs ≤ now)
      | .recoverOrphan _ now => r.drainDeadlineMonoMs ≠ 0 ∧ r.drainDeadlineMonoMs ≤ now
      | _ => False

/-- A candidate that is promoted has a lease that is not older than the retained one. -/
def PromotesLease (op : Operation) (w : NetworkTransaction β) : Prop :=
  ∀ r, w.record = some r → Promotes op r w.fates →
    ∀ owner, r.recoveryCandidateOwner = some owner → r.lease ≤ owner.leaseDeadlineMonoMs

/-- One operation of a session; the leases it presents do not decrease. -/
inductive Leasing {β : Type} (J : JournalFormat β)
    (permitted : Operation → NetworkTransaction β → Prop) : Session β → Session β → Prop where
  | returned {s : Session β} {w' : NetworkTransaction β} (op : Operation) (fates : Fates)
      (readings : SysctlKey → Option (Fin 3)) (result : Except NetworkError Unit)
      (hop : op.ofSession s.acknowledged) (hlease : s.presented ≤ op.presents s.presented)
      (hpermitted : permitted op (s.transaction.facing fates readings))
      (hrun : attempt (exec J op) (s.transaction.facing fates readings) = (.ok result, w')) :
      Leasing J permitted s
        ⟨w', op.presents s.presented, op.acknowledges s.acknowledged result⟩

/-- An active session without a candidate whose lease is the last one acknowledged. -/
structure Session.Begins {β : Type} (s : Session β) : Prop where
  record : ∃ r, s.transaction.record = some r ∧ r.phase = .active ∧ r.recoveryCandidate = none
    ∧ r.recoveryCandidateOwner = none ∧ r.lease = s.acknowledged
  presented : s.presented = s.acknowledged

/-! ## The record of a session -/

/-- The retained owner and the candidate's one have presented their leases; the session is active
or a replacement is under way. -/
structure Leased (presented : UInt64) (r : TransactionRecord) : Prop where
  retained : r.lease ≤ presented
  candidate : ∀ owner, r.recoveryCandidateOwner = some owner →
    owner.leaseDeadlineMonoMs ≤ presented
  phase : (r.phase = .active ∧ r.recoveryCandidate = none ∧ r.recoveryCandidateOwner = none)
    ∨ ((r.phase = .preparing ∨ r.phase = .prepared ∨ r.phase = .draining)
      ∧ r.recoveryCandidate.isSome = true ∧ r.recoveryCandidateOwner.isSome = true)

theorem Leased.mono {a b : UInt64} {r : TransactionRecord} (h : Leased a r) (hab : a ≤ b) :
    Leased b r :=
  ⟨UInt64.le_trans h.retained hab, fun o ho => UInt64.le_trans (h.candidate o ho) hab, h.phase⟩

variable {β : Type} {J : JournalFormat β} {M N : TransactionRecord → Prop}
  {r : TransactionRecord} {presented acknowledged : UInt64}

/-- There is a record in memory, and it satisfies `M`. -/
def Bears (M : TransactionRecord → Prop) (w : NetworkTransaction β) : Prop :=
  ∃ r, w.record = some r ∧ M r

theorem Bears.mono {w : NetworkTransaction β} (h : Bears M w) (hMN : ∀ r, M r → N r) : Bears N w :=
  ⟨h.choose, h.choose_spec.1, hMN _ h.choose_spec.2⟩

/-- However the program ends, the record in memory satisfies `N`. -/
def Leaves (M N : TransactionRecord → Prop) {α : Type} (m : Tx β α) : Prop :=
  Triple (Bears M) m (fun _ => Bears N) (fun _ => Bears N) (Bears N)

section Rules

variable {α γ : Type}

theorem bears_call (c : BackendCall) : Preserves (Bears M) (call c : Tx β Unit) := by
  rintro w ⟨r, hr, hM⟩
  rw [wp_call]
  exact ⟨fun _ => ⟨r, hr, hM⟩, fun _ _ => ⟨r, hr, hM⟩, fun _ => ⟨r, hr, hM⟩⟩

theorem bears_store (x : TransactionRecord) : Preserves (Bears M) (store J x) := by
  rintro w ⟨r, hr, hM⟩
  unfold store
  split
  · rw [wp_writeJournal]
    exact ⟨fun _ => ⟨r, hr, hM⟩, fun _ => ⟨r, hr, hM⟩, fun _ => ⟨r, hr, hM⟩, fun _ => ⟨r, hr, hM⟩⟩
  · exact ⟨r, hr, hM⟩

theorem leaves_amend {f : TransactionRecord → TransactionRecord} (hf : ∀ r, M r → N (f r)) :
    Leaves M N (amend J f) := by
  rintro w ⟨r, hr, hM⟩
  rw [amend, wp_bind, wp_current hr, wp_bind, setRecord, wp_modify]
  exact bears_store (f r) _ ⟨f r, rfl, hf r hM⟩

/-- A first part that does not touch the record. -/
theorem Leaves.bind {m : Tx β α} {k : α → Tx β γ} (hMN : ∀ r, M r → N r)
    (hm : Preserves (Bears M) m) (hk : ∀ a, Leaves M N (k a)) : Leaves M N (m >>= k) :=
  Triple.bind (Triple.conseq hm (fun _ h => h) (fun _ _ h => h) (fun _ _ h => h.mono hMN)
    (fun _ h => h.mono hMN)) hk

/-- A change of the record as the first part. -/
theorem Leaves.amend_bind {K : TransactionRecord → Prop} {f : TransactionRecord → TransactionRecord}
    {k : Unit → Tx β γ} (hf : ∀ r, M r → K (f r)) (hKN : ∀ r, K r → N r)
    (hk : Leaves K N (k ())) : Leaves M N (amend J f >>= k) :=
  Triple.bind (Triple.conseq (leaves_amend hf) (fun _ h => h) (fun _ _ h => h)
    (fun _ _ h => h.mono hKN) (fun _ h => h.mono hKN)) fun _ => hk

theorem leaves_replaceRecord (hMN : ∀ r, M r → N r) (hN : N r) :
    Leaves M N (replaceRecord J r) := by
  refine Leaves.bind hMN (bears_store r) fun _ => ?_
  intro w _
  exact ⟨r, rfl, hN⟩

theorem Leaves.lift_bind {e : Except NetworkError α} {k : α → Tx β γ} (hMN : ∀ r, M r → N r)
    (hk : ∀ a, e = .ok a → Leaves M N (k a)) : Leaves M N (lift e >>= k) :=
  Triple.lift_bind hk fun _ _ h => h.mono hMN

theorem Leaves.ensure_bind {c : Prop} [Decidable c] {e : NetworkError} {k : Unit → Tx β γ}
    (hMN : ∀ r, M r → N r) (hk : c → Leaves M N (k ())) : Leaves M N (ensure c e >>= k) :=
  Triple.ensure_bind hk fun _ h => h.mono hMN

theorem Leaves.current_bind {k : TransactionRecord → Tx β γ} (hk : Leaves (· = r) N (k r)) :
    Leaves (· = r) N (current >>= k) := by
  rintro w ⟨_, hr, rfl⟩
  rw [wp_bind, wp_current hr]
  exact hk w ⟨_, hr, rfl⟩

theorem Leaves.pure {a : α} (hMN : ∀ r, M r → N r) : Leaves M N (Pure.pure a : Tx β α) :=
  Triple.pure fun _ h => h.mono hMN

theorem Leaves.fail {e : NetworkError} (hMN : ∀ r, M r → N r) : Leaves M N (fail e : Tx β α) :=
  Triple.fail fun _ h => h.mono hMN

/-- A first part whose end does not matter. -/
theorem Leaves.ignore_bind {m : Tx β Unit} {k : Unit → Tx β γ} {K : TransactionRecord → Prop}
    {Q : γ → NetworkTransaction β → Prop} (hm : Leaves M K m) (hKN : ∀ r, K r → N r)
    (hk : Triple (Bears K) (k ()) Q (fun _ => Bears N) (Bears N)) :
    Triple (Bears M) (ignore m >>= k) Q (fun _ => Bears N) (Bears N) := by
  refine Triple.bind (Q := fun _ => Bears K) ?_ fun _ => hk
  intro w hw
  rw [wp_ignore]
  exact wp_mono (hm w hw) (fun _ _ h => h) (fun _ _ h => h) (fun _ h => h.mono hKN)

end Rules

/-! ## The operations -/

/-- The record after an operation: no lease is larger than those presented, and the retained one
has not decreased. -/
def Follows (r : TransactionRecord) (presented : UInt64) (r' : TransactionRecord) : Prop :=
  Leased presented r' ∧ r.lease ≤ r'.lease

theorem follows_self (h : Leased presented r) : ∀ x, x = r → Follows r presented x := by
  rintro x rfl
  exact ⟨h, UInt64.le_refl _⟩

section Operations

variable {owner : LeaseOwner} {declaration : PrepareDeclaration} {now timeout : UInt64}

/-- The candidate is gone and the declaration that was active is active. -/
theorem follows_unstaged (h : Leased presented r) {x : TransactionRecord}
    (howner : x.owner = r.owner) (hphase : x.phase = .active) (hnone : x.recoveryCandidate = none)
    (hnoOwner : x.recoveryCandidateOwner = none) : Follows r presented x := by
  have hlease : x.lease = r.lease := by
    unfold TransactionRecord.lease
    rw [howner]
  refine ⟨⟨hlease ▸ h.retained, ?_, .inl ⟨hphase, hnone, hnoOwner⟩⟩, hlease ▸ UInt64.le_refl _⟩
  intro o ho
  rw [hnoOwner] at ho
  cases ho

theorem leaves_stageReplacement (h : Leased presented r)
    (hlease : presented ≤ owner.leaseDeadlineMonoMs) :
    Leaves (· = r) (Follows r owner.leaseDeadlineMonoMs)
      (stageReplacement J owner declaration) := by
  have hlater := h.mono hlease
  -- A staged record has the retained owner and the new one beside it.
  have hstaged : ∀ x : TransactionRecord, x.owner = r.owner → (x.phase = .preparing ∨ x.phase = .prepared) →
      x.recoveryCandidate = some declaration → x.recoveryCandidateOwner = some owner →
      Follows r owner.leaseDeadlineMonoMs x := by
    intro x howner hphase hcandidate hkeeper
    have hretained : x.lease = r.lease := by
      unfold TransactionRecord.lease
      rw [howner]
    refine ⟨⟨hretained ▸ hlater.retained, ?_, .inr ⟨?_, ?_, ?_⟩⟩, hretained ▸ UInt64.le_refl _⟩
    · intro o ho
      rw [hkeeper] at ho
      rw [Option.some.inj ho]
      exact UInt64.le_refl _
    · tauto
    · rw [hcandidate]
      rfl
    · rw [hkeeper]
      rfl
  have hweak : ∀ x, x = stageCandidate owner declaration r →
      Follows r owner.leaseDeadlineMonoMs x := by
    rintro x rfl
    exact hstaged _ rfl (.inl rfl) rfl rfl
  unfold stageReplacement
  refine Leaves.amend_bind (K := (· = stageCandidate owner declaration r)) (fun x hx => by rw [hx])
    hweak ?_
  have hbody : Preserves (Bears (· = stageCandidate owner declaration r)) (do
      lift (validDeclaration declaration)
      let _ ← preflight declaration
      call (.prepareLink declaration)
      call (.prepareRoutes declaration)
      call (.prepareFirewall declaration) : Tx β Unit) := by
    refine Preserves.bind (Preserves.lift _) fun _ => Preserves.bind ?_ fun _ => ?_
    · exact Preserves.bind (bears_call _) fun _ => Preserves.bind Preserves.get fun _ =>
        Preserves.lift _
    · exact Preserves.bind (bears_call _) fun _ => Preserves.bind (bears_call _) fun _ =>
        bears_call _
  have hunstage : ∀ e, Triple (Bears (· = stageCandidate owner declaration r))
      (unstageCandidate J declaration e) (fun _ => Bears (· = stageCandidate owner declaration r))
      (fun _ => Bears (Follows r owner.leaseDeadlineMonoMs))
      (Bears (Follows r owner.leaseDeadlineMonoMs)) := by
    intro e
    refine Leaves.ignore_bind (bears_call _) hweak (Leaves.ignore_bind (bears_call _) hweak ?_)
    refine Leaves.ignore_bind (leaves_amend ?_) (fun _ h => h) (Triple.fail fun _ h => h)
    rintro x rfl
    exact follows_unstaged hlater rfl rfl rfl rfl
  refine Triple.bind (Triple.handle (Triple.conseq hbody (fun _ h => h) (fun _ _ h => h)
    (fun _ _ h => h) (fun _ h => h.mono hweak)) hunstage) fun _ => ?_
  refine leaves_amend ?_
  rintro x rfl
  exact hstaged _ rfl (.inr rfl) rfl rfl

theorem leaves_reconfigure (h : Leased presented r)
    (hlease : presented ≤ owner.leaseDeadlineMonoMs) :
    Leaves (· = r) (Follows r owner.leaseDeadlineMonoMs) (reconfigure J owner declaration) := by
  have hlater := h.mono hlease
  have hweak := follows_self hlater
  unfold reconfigure
  refine Leaves.lift_bind hweak fun _ _ => Leaves.current_bind ?_
  refine Leaves.lift_bind hweak fun _ _ => Triple.ite (fun hactive => ?_) fun hactive => ?_
  · have hnone : r.recoveryCandidate = none ∧ r.recoveryCandidateOwner = none := by
      rcases h.phase with hphase | ⟨hphase, -⟩
      · exact hphase.2
      · simp [hactive] at hphase
    unfold prepareReplacement
    refine Leaves.current_bind (Leaves.lift_bind hweak fun _ _ => Triple.ite (fun _ => ?_) fun _ => ?_)
    · refine leaves_replaceRecord hweak ⟨⟨UInt64.le_refl _, ?_, .inl ⟨hactive, hnone⟩⟩, hlater.retained⟩
      exact hlater.candidate
    · refine Leaves.ensure_bind hweak fun _ => ?_
      rw [hnone.1]
      exact leaves_stageReplacement h hlease
  · -- A session of these runs is never suspended.
    refine Leaves.ensure_bind hweak fun hsuspended => ?_
    rcases h.phase with ⟨hphase, -⟩ | ⟨hphase, -⟩
    · exact absurd hphase hactive
    · simp [hsuspended] at hphase

theorem leaves_commitReplacement (h : Leased presented r) {candidate : PrepareDeclaration}
    (hphase : r.phase = .prepared) :
    Leaves (· = r) (Follows r presented) (commitReplacement J candidate now timeout) := by
  have hweak := follows_self h
  have hsome : r.recoveryCandidate.isSome = true ∧ r.recoveryCandidateOwner.isSome = true := by
    rcases h.phase with ⟨hactive, -⟩ | hstaged
    · rw [hphase] at hactive
      cases hactive
    · exact hstaged.2
  have hdraining : Follows r presented (drainingFrom now timeout r) :=
    ⟨⟨h.retained, h.candidate, .inr ⟨.inr (.inr rfl), hsome⟩⟩, UInt64.le_refl _⟩
  -- The record is the one before or the draining one when a step has failed.
  have hbody : Leaves (· = r) (fun x => Follows r presented x ∧ x.owner = r.owner) (do
      call (.activateLink candidate)
      call (.installPolicyRule candidate)
      amend J (drainingFrom now timeout) : Tx β Unit) := by
    have hself : ∀ x, x = r → Follows r presented x ∧ x.owner = r.owner := by
      rintro x rfl
      exact ⟨hweak x rfl, rfl⟩
    refine Leaves.bind hself (bears_call _) fun _ => Leaves.bind hself (bears_call _) fun _ => ?_
    refine leaves_amend ?_
    rintro x rfl
    exact ⟨hdraining, rfl⟩
  unfold commitReplacement
  refine Triple.handle (Triple.conseq hbody (fun _ h => h) (fun _ _ h => h.mono fun _ h => h.1)
    (fun _ _ h => h) (fun _ h => h.mono fun _ h => h.1)) fun e => ?_
  unfold commitFailed
  refine Leaves.ignore_bind (bears_call _) (fun _ h => h.1) ?_
  refine Leaves.ignore_bind (bears_call _) (fun _ h => h.1) ?_
  refine Leaves.ignore_bind (bears_call _) (fun _ h => h.1) ?_
  refine Leaves.ignore_bind (leaves_amend ?_) (fun _ h => h) (Leaves.fail fun _ h => h)
  rintro x ⟨-, howner⟩
  exact follows_unstaged h howner rfl rfl rfl

theorem leaves_commitWithDrain (h : Leased presented r) :
    Leaves (· = r) (Follows r presented) (commitWithDrain J owner now timeout) := by
  have hweak := follows_self h
  unfold commitWithDrain
  refine Leaves.current_bind (Leaves.lift_bind hweak fun _ _ => ?_)
  split
  · exact Leaves.pure hweak
  · rename_i hphase _
    exact leaves_commitReplacement h hphase
  · exact Leaves.pure hweak
  · -- A prepared session has a candidate.
    rename_i hphase hnone
    rcases h.phase with ⟨hactive, -⟩ | ⟨-, hsome, -⟩
    · rw [hphase] at hactive
      cases hactive
    · rw [hnone] at hsome
      cases hsome
  · exact Leaves.fail hweak

theorem leaves_renewLease (h : Leased presented r)
    (hlease : presented ≤ owner.leaseDeadlineMonoMs) :
    Leaves (· = r) (Follows r owner.leaseDeadlineMonoMs) (renewLease J owner) := by
  have hlater := h.mono hlease
  have hweak := follows_self hlater
  unfold renewLease
  refine Leaves.current_bind (Leaves.lift_bind hweak fun _ _ => leaves_amend ?_)
  rintro x rfl
  exact ⟨⟨UInt64.le_refl _, hlater.candidate, h.phase⟩, hlater.retained⟩

/-- A renewal that is acknowledged is the lease of the retained owner. -/
theorem acknowledged_renewLease (J : JournalFormat β) (owner : LeaseOwner) :
    Triple (Bears fun _ => True) (renewLease J owner : Tx β Unit)
      (fun _ => Bears fun x => x.lease = owner.leaseDeadlineMonoMs) (fun _ _ => True)
      (fun _ => True) := by
  rintro w ⟨x, hx, -⟩
  unfold renewLease
  rw [wp_bind, wp_current hx, wp_bind, wp_lift]
  refine ⟨fun _ _ => ?_, fun _ _ => trivial⟩
  have hamend := leaves_amend (J := J) (M := (· = x))
    (N := fun x => x.lease = owner.leaseDeadlineMonoMs)
    (f := fun record => { record with
      owner := { record.owner with leaseDeadlineMonoMs := owner.leaseDeadlineMonoMs } })
    (fun _ _ => rfl) w ⟨x, hx, rfl⟩
  exact wp_mono hamend (fun _ _ h => h) (fun _ _ _ => trivial) (fun _ _ => trivial)

/-- Three calls in front of the last step: it is made when all three have succeeded. -/
theorem wp_three_calls {w : NetworkTransaction β} {a b c : BackendCall} {m : Tx β Unit}
    (hw : Bears N w)
    (hm : (∀ n < 3, w.fates.backend n = .ok) → ∀ w' : NetworkTransaction β, w'.record = w.record →
      wp m (fun _ => Bears N) (fun _ => Bears N) (Bears N) w') :
    wp (do call a; call b; call c; m) (fun _ => Bears N) (fun _ => Bears N) (Bears N) w := by
  rw [wp_bind, wp_call]
  refine ⟨fun h0 => ?_, fun _ _ => hw, fun _ => hw⟩
  rw [wp_bind, wp_call]
  refine ⟨fun h1 => ?_, fun _ _ => hw, fun _ => hw⟩
  rw [wp_bind, wp_call]
  refine ⟨fun h2 => ?_, fun _ _ => hw, fun _ => hw⟩
  refine hm (fun n hn => ?_) _ rfl
  match n, hn with
  | 0, _ => exact h0
  | 1, _ => exact h1
  | 2, _ => exact h2

/-- The drain keeps the record or promotes its candidate. -/
theorem wp_drainOld {w : NetworkTransaction β} (hr : w.record = some r) (hself : N r)
    (hpromoted : r.phase = .draining → (∀ n < 3, w.fates.backend n = .ok) →
      ensureStagedOwner r owner = .ok () →
      (r.drainDeadlineMonoMs = 0 ∨ r.drainDeadlineMonoMs ≤ now) →
      ∀ candidate, r.recoveryCandidate = some candidate →
        N (promoteCandidate (r.recoveryCandidateOwner.getD owner) candidate r)) :
    wp (drainOld J owner now) (fun _ => Bears N) (fun _ => Bears N) (Bears N) w := by
  have hw : Bears N w := ⟨r, hr, hself⟩
  unfold drainOld
  rw [wp_bind, wp_current hr, wp_bind, wp_lift]
  refine ⟨fun _ howner => ?_, fun _ _ => hw⟩
  rw [wp_ite]
  refine ⟨fun _ => hw, fun _ => ?_⟩
  rw [wp_bind, wp_ensure]
  refine ⟨fun hphase => ?_, fun _ => hw⟩
  rw [wp_bind, wp_ensure]
  refine ⟨fun hdeadline => ?_, fun _ => hw⟩
  rw [wp_bind, wp_okOr]
  refine ⟨fun candidate hcandidate => ?_, fun _ => hw⟩
  refine wp_three_calls hw fun hcalls w' hw' => ?_
  refine leaves_amend (M := (· = r)) ?_ w' ⟨r, hw'.trans hr, rfl⟩
  rintro x rfl
  exact hpromoted hphase hcalls howner hdeadline candidate hcandidate

/-- The promoted record of a session. -/
theorem leased_promoteCandidate (h : Leased presented r) (candidate : PrepareDeclaration)
    (fallback : LeaseOwner) (hphase : r.phase = .draining) :
    ∃ o, r.recoveryCandidateOwner = some o
      ∧ (promoteCandidate (r.recoveryCandidateOwner.getD fallback) candidate r).lease
        = o.leaseDeadlineMonoMs
      ∧ Leased presented
        (promoteCandidate (r.recoveryCandidateOwner.getD fallback) candidate r) := by
  have hsome : r.recoveryCandidateOwner.isSome = true := by
    rcases h.phase with ⟨hactive, -⟩ | ⟨-, -, hsome⟩
    · rw [hphase] at hactive
      cases hactive
    · exact hsome
  obtain ⟨o, ho⟩ := Option.isSome_iff_exists.mp hsome
  rw [ho]
  refine ⟨o, rfl, rfl, h.candidate o ho, ?_, .inl ⟨rfl, rfl, rfl⟩⟩
  intro o' ho'
  cases ho'

/-- The daemon's timer before the lease has expired: it drains at most. -/
theorem wp_recoverOrphan {w : NetworkTransaction β} (h : Leased presented r)
    (hr : w.record = some r) (hnow : now < r.lease) (hself : N r)
    (hpromoted : Promotes (.recoverOrphan true now) r w.fates →
      ∀ candidate fallback, r.recoveryCandidate = some candidate →
        N (promoteCandidate (r.recoveryCandidateOwner.getD fallback) candidate r)) :
    wp (recoverOrphan J true now) (fun _ => Bears N) (fun _ => Bears N) (Bears N) w := by
  have hw : Bears N w := ⟨r, hr, hself⟩
  have hback : r.phase ≠ .rollingBack := by
    rcases h.phase with ⟨hphase, -⟩ | ⟨hphase, -⟩
    · simp [hphase]
    · rcases hphase with hphase | hphase | hphase <;> simp [hphase]
  have hupdate : isPolicyUpdate r = false := by
    unfold isPolicyUpdate
    rw [beq_eq_false_iff_ne.mpr hback]
    rfl
  rw [recoverOrphan, wp_bind, wp_get, hr]
  dsimp only
  rw [hupdate, if_neg Bool.false_ne_true]
  split
  · rw [if_pos ⟨rfl, hnow⟩]
    exact hw
  · by_cases hphase : r.phase = .draining
    · rw [if_pos hphase]
      by_cases hwait : true = true ∧ (r.drainDeadlineMonoMs = 0 ∨ now < r.drainDeadlineMonoMs)
      · rw [if_pos hwait]
        exact hw
      · rw [if_neg hwait, wp_bind]
        have hdue : r.drainDeadlineMonoMs ≠ 0 ∧ r.drainDeadlineMonoMs ≤ now := by
          simp only [true_and, not_or, UInt64.not_lt] at hwait
          exact hwait
        refine wp_mono (wp_drainOld hr hself ?_) (fun _ _ h => h) (fun _ _ h => h) (fun _ h => h)
        intro hphase hcalls _ _ candidate hcandidate
        exact hpromoted ⟨hphase, hcalls, hdue⟩ candidate _ hcandidate
    · rw [if_neg hphase, if_pos ⟨hback, rfl, hnow⟩]
      exact hw

end Operations

/-! ## Runs of a session -/

/-- The invariant of a session whose promotions keep the lease. -/
structure Session.Keeps {β : Type} (s : Session β) (r : TransactionRecord) : Prop where
  record : s.transaction.record = some r
  leased : Leased s.presented r
  acknowledged : s.acknowledged ≤ r.lease

/-- One operation: the invariant is kept, and the lease does not decrease. -/
theorem Session.Keeps.step {s s' : Session β} (h : s.Keeps r)
    (hstep : Leasing J PromotesLease s s') : ∃ r', s'.Keeps r' ∧ r.lease ≤ r'.lease := by
  obtain ⟨op, fates, readings, result, hop, hlease, hpermitted, hrun⟩ := hstep
  have hr : (s.transaction.facing fates readings).record = some r := h.record
  have hpromoted : Promotes op r fates → ∀ candidate fallback, r.recoveryCandidate = some candidate →
      Follows r s.presented
        (promoteCandidate (r.recoveryCandidateOwner.getD fallback) candidate r) := by
    intro hpromotes candidate fallback _
    obtain ⟨o, ho, hlease, hleased⟩ :=
      leased_promoteCandidate h.leased candidate fallback hpromotes.1
    exact ⟨hleased, hlease ▸ hpermitted r hr hpromotes o ho⟩
  -- Every operation leaves a record that follows the one before.
  have hexec : wp (exec J op) (fun _ => Bears (Follows r (op.presents s.presented)))
      (fun _ => Bears (Follows r (op.presents s.presented)))
      (Bears (Follows r (op.presents s.presented))) (s.transaction.facing fates readings) := by
    have hbears : Bears (· = r) (s.transaction.facing fates readings) := ⟨r, hr, rfl⟩
    have hself := follows_self h.leased r rfl
    cases op with
    | reconfigure owner declaration => exact leaves_reconfigure h.leased hlease _ hbears
    | commitWithDrain owner now timeout => exact leaves_commitWithDrain h.leased _ hbears
    | renewLease owner => exact leaves_renewLease h.leased hlease _ hbears
    | drainOld owner now =>
      refine wp_drainOld hr hself fun hphase hcalls howner hdue candidate hcandidate => ?_
      exact hpromoted ⟨hphase, hcalls, howner, hdue⟩ candidate _ hcandidate
    | recoverOrphan alive now =>
      obtain ⟨rfl, hnow⟩ := hop
      rw [exec, wp_bind]
      exact wp_mono (wp_recoverOrphan h.leased hr (UInt64.lt_of_lt_of_le hnow h.acknowledged) hself
        hpromoted) (fun _ _ h => h) (fun _ _ h => h) (fun _ h => h)
    | _ => exact hop.elim
  obtain ⟨r', hr', hleased, hlater⟩ := of_attempt (Q := fun _ => Bears _) hexec hrun
  refine ⟨r', ⟨hr', hleased, ?_⟩, hlater⟩
  -- Only a renewal that has returned changes the acknowledged lease.
  by_cases hrenewed : ∃ owner, op = .renewLease owner ∧ result = .ok ()
  · obtain ⟨owner, rfl, rfl⟩ := hrenewed
    have hrenewal := of_attempt (Q := fun result w =>
      result = .ok () → Bears (fun x => x.lease = owner.leaseDeadlineMonoMs) w)
      (wp_mono (acknowledged_renewLease J owner _ ⟨r, hr, trivial⟩)
        (fun _ _ h _ => h) (fun _ _ _ herror => by cases herror) (fun _ h => h)) hrun
    obtain ⟨x, hx, hrenewed⟩ := hrenewal rfl
    rw [hr'] at hx
    rw [Option.some.inj hx, hrenewed]
    exact UInt64.le_refl _
  · have hsame : op.acknowledges s.acknowledged result = s.acknowledged := by
      unfold Operation.acknowledges
      split
      · rename_i owner
        exact absurd ⟨owner, rfl, rfl⟩ hrenewed
      · rfl
    rw [hsame]
    exact UInt64.le_trans h.acknowledged hlater

/-- The invariant in every state of a run. -/
theorem Session.Begins.keeps {s₀ s : Session β} (hbegins : s₀.Begins)
    (hrun : Relation.ReflTransGen (Leasing J PromotesLease) s₀ s) : ∃ r, s.Keeps r := by
  refine reachable_induction (I := fun s => ∃ r, s.Keeps r) hrun ?_ ?_
  · obtain ⟨⟨r, hr, hphase, hnone, hnoOwner, hlease⟩, hpresented⟩ := hbegins
    refine ⟨r, hr, ⟨?_, ?_, .inl ⟨hphase, hnone, hnoOwner⟩⟩, ?_⟩
    · rw [hpresented, hlease]
      exact UInt64.le_refl _
    · intro o ho
      rw [hnoOwner] at ho
      cases ho
    · rw [hlease]
      exact UInt64.le_refl _
  · rintro s s' ⟨r, h⟩ hstep
    obtain ⟨r', h', -⟩ := h.step hstep
    exact ⟨r', h'⟩

/-- The renewals of a session are kept by a state: no operation made there lowers the lease of the
retained owner, and the daemon's timer does not clean the session up while the last lease it
acknowledged lies ahead. -/
def RenewalsKept (J : JournalFormat β) (permitted : Operation → NetworkTransaction β → Prop)
    (s : Session β) : Prop :=
  ∃ r, s.transaction.record = some r
    ∧ (∀ s', Leasing J permitted s s' →
      ∃ r', s'.transaction.record = some r' ∧ r.lease ≤ r'.lease)
    ∧ ∀ now < s.acknowledged, ∀ fates readings result w',
      attempt (recoverOrphan J true now) (s.transaction.facing fates readings) = (.ok result, w') →
        ∃ r', w'.record = some r' ∧ r'.phase ≠ .rollingBack

/-- In every run in which no promoted candidate has an older lease than the retained owner, the
renewals are kept. -/
theorem renewals_kept_of_promotes_lease {s₀ s : Session β} (hbegins : s₀.Begins)
    (hrun : Relation.ReflTransGen (Leasing J PromotesLease) s₀ s) :
    RenewalsKept J PromotesLease s := by
  obtain ⟨r, h⟩ := hbegins.keeps hrun
  refine ⟨r, h.record, fun s' hstep => ?_, fun now hnow fates readings result w' hrecover => ?_⟩
  · obtain ⟨r', h', hlease⟩ := h.step hstep
    exact ⟨r', h'.record, hlease⟩
  · have hrecovered := wp_recoverOrphan (J := J) (N := Leased s.presented)
      (w := s.transaction.facing fates readings) h.leased h.record
      (UInt64.lt_of_lt_of_le hnow h.acknowledged) h.leased
      fun hpromotes candidate fallback _ =>
        (leased_promoteCandidate h.leased candidate fallback hpromotes.1).choose_spec.2.2
    obtain ⟨r', hr', hleased⟩ := of_attempt (Q := fun _ => Bears _) hrecovered hrecover
    refine ⟨r', hr', ?_⟩
    rcases hleased.phase with ⟨hphase, -⟩ | ⟨hphase, -⟩
    · simp [hphase]
    · rcases hphase with hphase | hphase | hphase <;> simp [hphase]

/-! ## Two sessions -/

/-- The session after an operation that meets no failure. -/
def Session.after (s : Session TransactionRecord) (op : Operation) : Session TransactionRecord :=
  let run := attempt (exec exactFormat op) (s.transaction.facing .allOk Sample.readings)
  match run.1 with
  | .ok result => ⟨run.2, op.presents s.presented, op.acknowledges s.acknowledged result⟩
  | _ => s

/-- The candidate of the record has a lease that is not older than the retained one. -/
def Session.candidateRenewed (s : Session TransactionRecord) : Bool :=
  s.transaction.record.all fun r =>
    r.recoveryCandidateOwner.all fun owner => decide (r.lease ≤ owner.leaseDeadlineMonoMs)

theorem Session.run_after {permitted : Operation → NetworkTransaction TransactionRecord → Prop}
    {s₀ s : Session TransactionRecord} {op : Operation} (hop : op.ofSession s.acknowledged)
    (hlease : s.presented ≤ op.presents s.presented)
    (hpermitted : permitted op (s.transaction.facing .allOk Sample.readings))
    (hrun : Relation.ReflTransGen (Leasing exactFormat permitted) s₀ s) :
    Relation.ReflTransGen (Leasing exactFormat permitted) s₀ (s.after op) := by
  unfold Session.after
  dsimp only
  split
  · rename_i result hresult
    exact hrun.tail (.returned op .allOk Sample.readings result hop hlease hpermitted
      (Prod.ext hresult rfl))
  · exact hrun

theorem Session.promotesLease {s : Session TransactionRecord} {op : Operation} {fates : Fates}
    {readings : SysctlKey → Option (Fin 3)} (h : s.candidateRenewed = true) :
    PromotesLease op (s.transaction.facing fates readings) := by
  intro r hr _ owner howner
  have hrecord : s.transaction.record = some r := hr
  unfold Session.candidateRenewed at h
  rw [hrecord, Option.all_some, howner, Option.all_some, decide_eq_true_eq] at h
  exact h

namespace Sample

/-- The active session of the sample declaration. -/
def session : Session TransactionRecord :=
  ⟨[succeeding (.prepare owner declaration), succeeding (.commitWithDrain owner 10 50)].foldl
    (stepOnce exactFormat) .fresh, 100, 100⟩

/-- The owner of the replacement. -/
def replacing : LeaseOwner := { owner with generation := 4 }

theorem session_begins : session.Begins := by
  have hrecord : session.transaction.record.map (fun r => (r.phase, r.recoveryCandidate,
      r.recoveryCandidateOwner, r.lease)) = some (.active, none, none, 100) := by
    decide
  obtain ⟨r, hr, hfields⟩ := Option.map_eq_some_iff.mp hrecord
  simp only [Prod.mk.injEq] at hfields
  exact ⟨⟨r, hr, hfields⟩, rfl⟩

/-- Its replacement is committed. -/
def replaced : Session TransactionRecord :=
  (session.after (.reconfigure replacing replacement)).after (.commitWithDrain replacing 20 50)

/-- It renews its lease until 200 ms and is drained then. -/
def drained : Session TransactionRecord :=
  (replaced.after (.renewLease { replacing with leaseDeadlineMonoMs := 200 })).after
    (.drainOld replacing 70)

/-- It renews its lease until 200 ms first, and is replaced with that lease. -/
def renewed : Session TransactionRecord :=
  ((session.after (.renewLease { owner with leaseDeadlineMonoMs := 200 })).after
    (.reconfigure { replacing with leaseDeadlineMonoMs := 200 } replacement)).after
    (.commitWithDrain replacing 20 50)

end Sample

/-- A session that renews its lease before it is replaced keeps it. -/
theorem renewed_session_keeps_lease :
    RenewalsKept exactFormat PromotesLease (Sample.renewed.after (.drainOld Sample.replacing 70)) := by
  refine renewals_kept_of_promotes_lease Sample.session_begins ?_
  refine Session.run_after trivial (by decide)
    (Session.promotesLease (by decide)) ?_
  unfold Sample.renewed
  refine Session.run_after trivial (by decide)
    (Session.promotesLease (by decide)) ?_
  refine Session.run_after trivial (by decide)
    (Session.promotesLease (by decide)) ?_
  exact Session.run_after trivial (by decide)
    (Session.promotesLease (by decide)) .refl

/-- A lease that is renewed while the replacement drains is lost when the drain ends: the session is
cleaned up at 150 ms though its lease was renewed until 200 ms. -/
theorem renewal_lost_by_drain :
    ¬ ∀ s₀ s : Session TransactionRecord, s₀.Begins →
      Relation.ReflTransGen (Leasing exactFormat fun _ _ => True) s₀ s →
      RenewalsKept exactFormat (fun _ _ => True) s := by
  intro h
  have hrun : Relation.ReflTransGen (Leasing exactFormat fun _ _ => True) Sample.session
      Sample.drained := by
    unfold Sample.drained Sample.replaced
    refine Session.run_after trivial (by decide) trivial ?_
    refine Session.run_after trivial (by decide) trivial ?_
    refine Session.run_after trivial (by decide) trivial ?_
    exact Session.run_after trivial (by decide) trivial .refl
  obtain ⟨-, -, -, hkept⟩ := h _ _ Sample.session_begins hrun
  generalize hrecovery : attempt (recoverOrphan exactFormat true 150)
    (Sample.drained.transaction.facing .allOk Sample.readings) = recovery at hkept
  have hresult : recovery.1 = .ok (.ok true) := by
    rw [← hrecovery]
    decide
  have hgone : recovery.2.record = none := by
    rw [← hrecovery]
    decide
  have hahead : (150 : UInt64) < Sample.drained.acknowledged := by decide
  obtain ⟨r', hr', -⟩ := hkept 150 hahead .allOk Sample.readings (.ok true) recovery.2
    (hrecovery.trans (Prod.ext hresult rfl))
  rw [hgone] at hr'
  cases hr'

end CandyRuntime.NetdV1
