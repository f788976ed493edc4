import CandyRuntime.NetdV2.Changes

/-!
# Every write of the v2 journal is a change

The programs of the service, taken apart call by call: `Quiet` programs leave memory and
journal alone, and every `persist` is a `Change` of the state in memory. What is closed under
`Change` is kept by `process` and by `recover_expired`, in memory and in the journal, however
the step ends.
-/

namespace CandyRuntime.NetdV2

open Lib Lib.Proc NetdProto NetdV1

variable {now : ℕ} {e : InfrastructureError}
variable {E : Surroundings} {α β : Type}

/-! ## Quiet programs -/

/-- The state in memory and the journal are as before; time has passed. -/
structure Undisturbed (w w' : InfrastructureService) : Prop where
  state : w'.state = w.state
  stored : w'.stored = w.stored
  clock : w.clock ≤ w'.clock

theorem Undisturbed.refl (w : InfrastructureService) : Undisturbed w w :=
  ⟨rfl, rfl, Nat.le_refl _⟩

/-- Quiet stretches follow each other. -/
theorem Undisturbed.trans {w w' w'' : InfrastructureService} (h : Undisturbed w w')
    (h' : Undisturbed w' w'') : Undisturbed w w'' :=
  ⟨h'.state.trans h.state, h'.stored.trans h.stored, Nat.le_trans h.clock h'.clock⟩

/-- A program that writes neither memory nor journal. -/
def Quiet (m : Svc α) : Prop :=
  ∀ w, wp m (fun _ => Undisturbed w) (fun _ => Undisturbed w) (Undisturbed w) w

namespace Quiet

variable {m : Svc α}

protected theorem pure (a : α) : Quiet (Pure.pure a : Svc α) := fun w => .refl w

protected theorem fail (e : InfrastructureError) : Quiet (fail e : Svc α) := fun w => .refl w

protected theorem get : Quiet get := fun w => .refl w

protected theorem currentState : Quiet currentState := fun w => .refl w

/-- A quiet program goes on with a quiet one. -/
protected theorem bind {f : α → Svc β} (hm : Quiet m) (hf : ∀ a, Quiet (f a)) :
    Quiet (m >>= f) := by
  intro w
  rw [wp_bind]
  refine wp_mono (hm w) ?_ (fun _ _ h => h) (fun _ h => h)
  intro a w' h
  exact wp_mono (hf a w') (fun _ _ h' => h.trans h') (fun _ _ h' => h.trans h')
    (fun _ h' => h.trans h')

/-- Either branch is quiet. -/
protected theorem ite {c : Prop} [Decidable c] {m' : Svc α} (hm : Quiet m) (hm' : Quiet m') :
    Quiet (if c then m else m') := by
  by_cases h : c
  · rw [if_pos h]
    exact hm
  · rw [if_neg h]
    exact hm'

protected theorem ensure (c : Prop) [Decidable c] (e : InfrastructureError) :
    Quiet (ensure c e) := Quiet.ite (.pure ()) (.fail e)

protected theorem when (c : Prop) [Decidable c] {m : Svc Unit} (hm : Quiet m) :
    Quiet (when c m) := Quiet.ite hm (.pure ())

protected theorem okOr (o : Option α) (e : InfrastructureError) : Quiet (okOr o e) := by
  cases o with
  | none => exact .fail e
  | some a => exact .pure a

/-- An error that is caught has changed nothing. -/
protected theorem attempt (hm : Quiet m) : Quiet (attempt m) := by
  intro w
  rw [wp_attempt]
  exact hm w

protected theorem mapError (f : InfrastructureError → InfrastructureError) (hm : Quiet m) :
    Quiet (mapError f m) := by
  intro w
  rw [wp_mapError]
  exact hm w

protected theorem ignore (hm : Quiet m) : Quiet (ignore m) := by
  intro w
  rw [wp_ignore]
  exact hm w

/-- So has the error that a quiet handler is given. -/
protected theorem handle {h : InfrastructureError → Svc α} (hm : Quiet m)
    (hh : ∀ e, Quiet (h e)) : Quiet (handle m h) := by
  intro w
  rw [wp_handle]
  refine wp_mono (hm w) (fun _ _ h => h) ?_ (fun _ h => h)
  intro e w' h'
  exact wp_mono (hh e w') (fun _ _ h => h'.trans h) (fun _ _ h => h'.trans h)
    (fun _ h => h'.trans h)

/-- A look at the host takes one moment. -/
protected theorem read (f : Moment → α) (e : InfrastructureError) : Quiet (read E f e) := by
  intro w
  unfold wp read
  cases (E.moment w.clock).fate <;> exact ⟨rfl, rfl, Nat.le_succ _⟩

/-- So does a call of the backend: its effect is on the kernel. -/
protected theorem call (c : BackendCall) : Quiet (call E c) := by
  intro w
  unfold wp call
  cases (E.moment w.clock).fate <;> exact ⟨rfl, rfl, Nat.le_succ _⟩

/-- Descriptors are not part of the state. -/
protected theorem setLifecycleFd (held : Bool) : Quiet (setLifecycleFd held) :=
  fun _ => ⟨rfl, rfl, Nat.le_refl _⟩

protected theorem setRestartRecoveryPending (pending : Bool) :
    Quiet (setRestartRecoveryPending pending) :=
  fun _ => ⟨rfl, rfl, Nat.le_refl _⟩

protected theorem inStage (stage : String) {m : Svc Unit} (hm : Quiet m) :
    Quiet (inStage stage m) := hm.mapError _

end Quiet

/-! ## The quiet parts of the service -/

/-- The administrator is only compared. -/
theorem quiet_administrator (request : Request) : Quiet (administrator request) :=
  .bind .currentState fun _ => .ensure _ _

/-- Whether the device is ours is read from its alias. -/
theorem quiet_verifyDeviceOwnership : Quiet (verifyDeviceOwnership E) :=
  .bind .currentState fun _ => .bind (.ensure _ _) fun _ => .bind (.read _ _) fun _ => .ensure _ _

/-- The infrastructure is compared with the host, and the device is verified. -/
theorem quiet_identity (infraId : InstanceId) (generation : ℕ) :
    Quiet (identity E infraId generation) :=
  .bind .currentState fun _ => .bind (.okOr _ _) fun _ => .bind (.ensure _ _) fun _ =>
    .bind (.read _ _) fun _ => .bind (.ensure _ _) fun _ =>
      .bind quiet_verifyDeviceOwnership fun _ => .pure _

/-- The same for the infrastructure in memory. -/
theorem quiet_ownIdentity : Quiet (ownIdentity E) :=
  .bind .currentState fun _ => .bind (.okOr _ _) fun _ =>
    .bind (quiet_identity _ _) fun _ => .pure _

theorem quiet_ensureNamespace (spec : InfraSpec) (reason : String) :
    Quiet (ensureNamespace E spec reason) :=
  .bind (.read _ _) fun _ => .ensure _ _

theorem quiet_ensureLive (owner : ForwardOwner) (now : ℕ) : Quiet (ensureLive owner now) :=
  .ensure _ _

/-- `kill(pid, 0)` is a look at the processes. -/
theorem quiet_killProbe (pid : UInt32) : Quiet (killProbe E pid) := by
  refine .bind (.attempt (.read _ _)) fun result => ?_
  cases result <;> exact .pure _

/-- So is `/proc/<pid>/stat`. -/
theorem quiet_examine (o : IoOwner) : Quiet (ioOwnerAlive.examine E o) := by
  refine .bind (.attempt (.read _ _)) fun result => ?_
  rcases result with _ | _ | stat
  · exact .pure _
  · exact .pure _
  · exact .ite (.pure _) (quiet_killProbe _)

/-- Whether the holder is alive is found out by looks only. -/
theorem quiet_ioOwnerAlive (o : IoOwner) : Quiet (ioOwnerAlive E o) := by
  refine .bind (.attempt (.read _ _)) fun result => ?_
  cases result with
  | error e => exact quiet_examine o
  | ok bootId => exact .ite (.pure _) (quiet_examine o)

theorem quiet_businessProcessEpochAlive (pid : UInt32) (ticks : ℕ) :
    Quiet (businessProcessEpochAlive E pid ticks) := by
  refine .bind (.read _ _) fun result => ?_
  cases result <;> exact .pure _

/-- The receipt of an authority is checked against memory and processes. -/
theorem quiet_checkReceipt (request : Request) (now : ℕ) (owner : ForwardOwner)
    (receipt : ForwardAuthorityReceipt) : Quiet (checkReceipt E request now owner receipt) :=
  .bind (quiet_administrator _) fun _ => .bind .currentState fun _ => .bind (.okOr _ _) fun _ =>
    .bind (.okOr _ _) fun _ => .bind (.ensure _ _) fun _ => .bind (quiet_ioOwnerAlive _) fun _ =>
      .bind (.ensure _ _) fun _ => .bind (.ensure _ _) fun _ =>
        .bind (quiet_businessProcessEpochAlive _ _) fun _ => .ensure _ _

/-- Fencing a policy that is pending touches the kernel only. -/
theorem quiet_fencePolicyIntent (forward : ForwardRecord) : Quiet (fencePolicyIntent E forward) := by
  refine .bind (.call _) fun _ => ?_
  cases forward.pendingPolicy with
  | none => exact .call _
  | some pending =>
    exact .bind (.when _ (.call _)) fun _ => .bind (.call _) fun _ => .call _

/-- So does installing a replacement, stage by stage. -/
theorem quiet_installReplacement (previous candidate : ForwardRecord)
    (sysctls : List SysctlChange) : Quiet (installReplacement E previous candidate sysctls) := by
  have hstage : ∀ stage c, Quiet (inStage stage (call E c)) := fun _ c => .inStage _ (.call c)
  have hguard : Quiet (guardReplacement E previous candidate) :=
    .ite (hstage _ _) (.bind (hstage _ _) fun _ => hstage _ _)
  exact .bind hguard fun _ => .bind (hstage _ _) fun _ => .bind (hstage _ _) fun _ =>
    .bind (hstage _ _) fun _ => .bind (hstage _ _) fun _ => hstage _ _

/-- An owner of an earlier boot is not alive. -/
theorem quiet_liveSinceBoot (owner : ForwardOwner) (now : ℕ) : Quiet (liveSinceBoot E owner now) :=
  .ite (.bind .currentState fun _ => .bind (.read _ _) fun _ => .pure _) (.pure _)

/-- The guard of a rollback is set by calls. -/
theorem quiet_guardRollback (previous candidate : ForwardRecord) (guardedLive : Bool) :
    Quiet (guardRollback E previous candidate guardedLive) :=
  .ite (.call _) (.bind (.call _) fun _ => .call _)

/-- Opening the device may leave a descriptor, and no more. -/
theorem quiet_openDevice (marker : String) : Quiet (openDevice E marker) := by
  refine .bind (.read _ _) fun interface => .ite ?_ ?_
  · exact .bind (.read _ _) fun _ => .bind (.setLifecycleFd _) fun _ =>
      .handle (.call _) fun _ => .bind (.setLifecycleFd _) fun _ => .fail _
  · exact .bind quiet_verifyDeviceOwnership fun _ => .bind .get fun _ =>
      .when _ (.bind (.read _ _) fun _ => .setLifecycleFd _)

/-- Routes and firewall of a record are withdrawn by two calls. -/
theorem quiet_fenceForward (forward : Option ForwardRecord) : Quiet (fenceForward E forward) := by
  cases forward with
  | none => exact .pure _
  | some forward => exact .bind (.call _) fun _ => .call _

/-- After a failed write the kernel is fenced as far as it goes. -/
theorem quiet_fenceUnstored (forward : Option ForwardRecord) :
    Quiet (fenceUnstored E forward) := by
  cases forward with
  | none => exact .pure _
  | some forward => exact .ite (.ignore (.call _)) (.ignore (.call _))

/-- Only operations with a receipt are authenticated. -/
theorem quiet_authenticate (request : Request) (now : ℕ) :
    Quiet (authenticate E request now) := by
  unfold authenticate
  cases request.operation <;> first | exact quiet_checkReceipt _ _ _ _ | exact .pure _

/-! ## Closed properties -/

/-- A candidate is waiting for its commit, or in the middle of it. -/
def Shaped (s : State) : Prop :=
  ∀ c, s.candidate = some c → c.phase = .prepared ∨ c.phase = .preparing

/-- `P` is what every change keeps of the state in memory, and `R` what then holds between the
state in memory and a state in the journal. Both can only become true with time. -/
structure Closed (E : Surroundings) (op : Option Operation) (lo : ℕ) (P : ℕ → State → Prop)
    (R : ℕ → State → State → Prop) : Prop where
  mono : ∀ {n m s}, n ≤ m → P n s → P m s
  monoStored : ∀ {n m s d}, n ≤ m → R n s d → R m s d
  change : ∀ {n s s'}, lo ≤ n → P n s → Change E op lo n s s' → P n s'
  written : ∀ {n s}, P n s → R n s s
  ahead : ∀ {n s s'}, lo ≤ n → P n s → Change E op lo n s s' → R n s s'
  shaped : ∀ {n s}, P n s → Shaped s

/-- `P` holds of the state in memory, and `R` between it and the journal. -/
structure Keeps (P : ℕ → State → Prop) (R : ℕ → State → State → Prop) (lo : ℕ)
    (w : InfrastructureService) : Prop where
  start : lo ≤ w.clock
  state : P w.clock w.state
  stored : ∀ d, w.stored = some d → R w.clock w.state d
  unstored : w.stored = none → w.state = .default

/-- The state in memory is `s`, and the moment `n` has been reached. -/
structure At (P : ℕ → State → Prop) (R : ℕ → State → State → Prop) (lo : ℕ) (s : State) (n : ℕ)
    (w : InfrastructureService) : Prop where
  state : w.state = s
  start : lo ≤ n
  clock : n ≤ w.clock
  holds : P n s
  keeps : Keeps P R lo w

/-- Run from the state `s`, the program ends in `Q` or keeps `P`. -/
abbrev Does (P : ℕ → State → Prop) (R : ℕ → State → State → Prop) (lo : ℕ) (s : State) (n : ℕ)
    (m : Svc α) (Q : α → InfrastructureService → Prop) : Prop :=
  Triple (At P R lo s n) m Q (fun _ => Keeps P R lo) (Keeps P R lo)

variable {P : ℕ → State → Prop} {R : ℕ → State → State → Prop} {lo n : ℕ} {s : State}
  {w : InfrastructureService} {m : Svc α}

/-- What holds at the start may be used. -/
theorem Does.of_holds {Q : α → InfrastructureService → Prop}
    (h : lo ≤ n → P n s → Does P R lo s n m Q) : Does P R lo s n m Q :=
  fun w hw => h hw.start hw.holds w hw

section Rules

variable {op : Option Operation} (hP : Closed E op lo P R) {s' : State}
  {Q : β → InfrastructureService → Prop}

include hP

/-- What is kept survives quiet steps. -/
theorem Keeps.undisturbed {w w' : InfrastructureService} (h : Keeps P R lo w)
    (hw : Undisturbed w w') : Keeps P R lo w' where
  start := Nat.le_trans h.start hw.clock
  state := by
    rw [hw.state]
    exact hP.mono hw.clock h.state
  stored := by
    intro d hd
    rw [hw.stored] at hd
    rw [hw.state]
    exact hP.monoStored hw.clock (h.stored d hd)
  unstored := by
    rw [hw.stored, hw.state]
    exact h.unstored

theorem At.undisturbed {w w' : InfrastructureService} (h : At P R lo s n w)
    (hw : Undisturbed w w') : At P R lo s n w' :=
  ⟨hw.state.trans h.state, h.start, Nat.le_trans h.clock hw.clock, h.holds,
    h.keeps.undisturbed hP hw⟩

omit hP in
/-- The state in memory is some state. -/
theorem Keeps.at (h : Keeps P R lo w) : At P R lo w.state w.clock w :=
  ⟨rfl, h.start, Nat.le_refl _, h.state, h⟩

/-- A quiet program stays at the state, also when it fails. -/
theorem Quiet.at (hm : Quiet m) :
    Triple (At P R lo s n) m (fun _ => At P R lo s n) (fun _ => At P R lo s n) (Keeps P R lo) := by
  intro w hw
  exact wp_mono (hm w) (fun _ _ h => hw.undisturbed hP h) (fun _ _ h => hw.undisturbed hP h)
    (fun _ h => hw.keeps.undisturbed hP h)

/-- In particular it keeps what is kept. -/
theorem Quiet.does (hm : Quiet m) : Does P R lo s n m (fun _ => At P R lo s n) :=
  (hm.at hP).conseq (fun _ h => h) (fun _ _ h => h) (fun _ _ h => h.keeps) (fun _ h => h)

/-- A quiet program in front of another is skipped. -/
theorem Quiet.next (hm : Quiet m) {f : α → Svc β} (hf : ∀ a, Does P R lo s n (f a) Q) :
    Does P R lo s n (m >>= f) Q :=
  (hm.does hP).bind hf

/-- The reading belongs to a moment that is not in the past. -/
theorem read_next {f : Moment → α} {g : α → Svc β}
    (hg : ∀ t, n ≤ t → Does P R lo s (t + 1) (g (f (E.moment t))) Q) :
    Does P R lo s n (read E f e >>= g) Q := by
  intro w hw
  rw [wp_bind]
  have hquiet := Quiet.read (E := E) f e w
  unfold wp read at hquiet ⊢
  cases hfate : (E.moment w.clock).fate with
  | ok =>
    have hlater : Undisturbed w { w with clock := w.clock + 1 } := ⟨rfl, rfl, Nat.le_succ _⟩
    refine hg w.clock hw.clock _ ⟨hw.state, ?_, Nat.le_refl _, ?_, hw.keeps.undisturbed hP hlater⟩
    · exact Nat.le_trans hw.start (Nat.le_succ_of_le hw.clock)
    · exact hP.mono (Nat.le_succ_of_le hw.clock) hw.holds
  | fail done repaired => exact hw.keeps.undisturbed hP ⟨rfl, rfl, Nat.le_succ _⟩
  | crash done repaired => exact hw.keeps.undisturbed hP ⟨rfl, rfl, Nat.le_succ _⟩

omit hP in
/-- The state that is read is the one in memory. -/
theorem currentState_next {f : State → Svc β} (hf : Does P R lo s n (f s) Q) :
    Does P R lo s n (currentState >>= f) Q := by
  intro w hw
  rw [wp_bind]
  change wp (f w.state) _ _ _ w
  rw [hw.state]
  exact hf w hw

omit hP in
theorem get_next {f : InfrastructureService → Svc β}
    (hf : ∀ w₀, w₀.state = s → Does P R lo s n (f w₀) Q) : Does P R lo s n (get >>= f) Q := by
  intro w hw
  rw [wp_bind, wp_get]
  exact hf w hw.state w hw

omit hP in
/-- Behind a check its condition holds. -/
theorem ensure_next {c : Prop} [Decidable c] {f : Unit → Svc β}
    (hf : c → Does P R lo s n (f ()) Q) : Does P R lo s n (ensure c e >>= f) Q :=
  Triple.ensure_bind hf fun _ h => h.keeps

omit hP in
/-- Behind an `ok_or` there was a value. -/
theorem okOr_next {o : Option α} {f : α → Svc β} (hf : ∀ a, o = some a → Does P R lo s n (f a) Q) :
    Does P R lo s n (okOr o e >>= f) Q :=
  Triple.okOr_bind hf fun _ h => h.keeps

omit hP in
/-- Behind an `unwrap` too; where there is none, the process is gone. -/
theorem unwrap_next {o : Option α} {f : α → Svc β}
    (hf : ∀ a, o = some a → Does P R lo s n (f a) Q) : Does P R lo s n (unwrap o >>= f) Q := by
  intro w hw
  rw [wp_bind]
  cases o with
  | none => exact hw.keeps
  | some a => exact hf a rfl w hw

/-- A change is written: memory follows only when the write succeeds. -/
theorem persist_at (hchange : Change E op lo n s s') :
    Triple (At P R lo s n) (persist E s') (fun _ => At P R lo s' n) (fun _ => At P R lo s n)
      (Keeps P R lo) := by
  have hnow : ∀ m, lo ≤ m → n ≤ m → P m s → P m s' := fun m hlo hm h =>
    hP.change hlo h (hchange.mono hm)
  intro w hw
  have hlater : P (w.clock + 1) s := hP.mono (Nat.le_succ_of_le hw.clock) hw.holds
  have hle : lo ≤ w.clock + 1 := Nat.le_trans hw.start (Nat.le_succ_of_le hw.clock)
  have hnew : P (w.clock + 1) s' := hnow _ hle (Nat.le_succ_of_le hw.clock) hlater
  have hahead : R (w.clock + 1) s s' :=
    hP.ahead hle hlater (hchange.mono (Nat.le_succ_of_le hw.clock))
  have hsame : P (w.clock + 1) w.state := by
    rw [hw.state]
    exact hlater
  have hwritten : Keeps P R lo { w with clock := w.clock + 1, stored := some s' } := by
    refine ⟨hle, hsame, ?_, fun h => absurd h (by simp)⟩
    intro d hd
    cases hd
    rw [← hw.state] at hahead
    exact hahead
  have hunwritten : Keeps P R lo { w with clock := w.clock + 1 } :=
    hw.keeps.undisturbed hP ⟨rfl, rfl, Nat.le_succ _⟩
  rw [persist, wp_bind]
  unfold wp store
  cases (E.moment w.clock).fate with
  | ok =>
    refine ⟨rfl, hw.start, Nat.le_succ_of_le hw.clock, hnow n hw.start (Nat.le_refl n) hw.holds,
      ⟨hle, hnew, ?_, fun h => absurd h (by simp)⟩⟩
    intro d hd
    cases hd
    exact hP.written hnew
  | fail done repaired =>
    by_cases hdone : done = 0
    · simp only [hdone, if_true]
      exact ⟨hw.state, hw.start, Nat.le_succ_of_le hw.clock, hw.holds, hunwritten⟩
    · simp only [hdone, if_false]
      exact ⟨hw.state, hw.start, Nat.le_succ_of_le hw.clock, hw.holds, hwritten⟩
  | crash done repaired =>
    by_cases hdone : done = 0
    · simp only [hdone, if_true]
      exact hunwritten
    · simp only [hdone, if_false]
      exact hwritten

/-- A successful write leaves the new state in the journal too. -/
theorem persist_stored (hchange : Change E op lo n s s') :
    Does P R lo s n (persist E s') (fun _ w => At P R lo s' n w ∧ w.stored = some s') := by
  intro w hw
  have hat := persist_at hP hchange w hw
  have hstored : wp (persist E s') (fun _ w => w.stored = some s') (fun _ _ => True)
      (fun _ => True) w := by
    rw [persist, wp_bind]
    unfold wp store
    cases (E.moment w.clock).fate with
    | ok => exact rfl
    | fail done repaired => trivial
    | crash done repaired => trivial
  exact wp_mono (wp_and hat hstored) (fun _ _ h => h) (fun _ _ h => h.1.keeps) (fun _ h => h.1)

/-- A write in front of another program moves it to the new state. -/
theorem persist_next {f : Unit → Svc β} (hchange : Change E op lo n s s')
    (hf : Does P R lo s' n (f ()) Q) : Does P R lo s n (persist E s' >>= f) Q := by
  have hpersist := (persist_at hP hchange).conseq (fun _ h => h) (fun _ _ h => h)
    (fun _ _ h => h.keeps) (fun _ h => h)
  exact hpersist.bind fun _ => hf

/-- A write alone. -/
theorem persist_does (hchange : Change E op lo n s s') :
    Does P R lo s n (persist E s') (fun _ => At P R lo s' n) :=
  (persist_at hP hchange).conseq (fun _ h => h) (fun _ _ h => h) (fun _ _ h => h.keeps)
    (fun _ h => h)

end Rules

/-! ## Recovery -/

/-- Some state is in memory, and `P` holds of it. -/
def Settles (P : ℕ → State → Prop) (R : ℕ → State → State → Prop) (lo : ℕ)
    (w : InfrastructureService) : Prop :=
  ∃ s n, At P R lo s n w

/-- The state and the moment are forgotten. -/
theorem At.settles (h : At P R lo s n w) : Settles P R lo w :=
  ⟨s, n, h⟩

theorem Keeps.settles (h : Keeps P R lo w) : Settles P R lo w :=
  ⟨_, _, h.at⟩

/-- It is enough to start from any state. -/
theorem Triple.of_settles {Q : α → InfrastructureService → Prop}
    (h : ∀ s n, Does P R lo s n m Q) :
    Triple (Settles P R lo) m Q (fun _ => Keeps P R lo) (Keeps P R lo) :=
  Triple.exists_pre fun s => Triple.exists_pre fun n => h s n

section Recovery

variable {op : Option Operation} (hP : Closed E op lo P R)

include hP

/-- The one write is that the device has been created. -/
theorem completeCreation_does :
    Does P R lo s n (completeCreation E) (fun _ => Settles P R lo) := by
  unfold completeCreation
  apply currentState_next
  apply Triple.when
  · intro hpending
    apply okOr_next
    intro spec hspec
    apply okOr_next
    intro marker hmarker
    apply (quiet_ensureNamespace spec _).next hP
    intro _
    apply (quiet_openDevice marker).next hP
    intro _
    apply quiet_verifyDeviceOwnership.next hP
    intro _
    apply (Quiet.read _ _).next hP
    intro _
    apply (Quiet.read _ _).next hP
    intro ifindex
    apply (Quiet.read _ _).next hP
    intro bootId
    exact (persist_does hP (.created ifindex bootId hpending)).post fun _ _ h => h.settles
  · intro _ w hw
    exact hw.settles

/-- What is retained was in one of the phases. -/
theorem retains_next {phases : List Phase} {previous : ForwardRecord} {f : Bool → Svc β}
    {Q : β → InfrastructureService → Prop}
    (hf : ∀ live, (live = true → previous.phase ∈ phases) → Does P R lo s n (f live) Q) :
    Does P R lo s n (retains E phases previous now >>= f) Q := by
  unfold retains
  by_cases hphase : previous.phase ∈ phases
  · rw [if_pos hphase]
    exact (quiet_liveSinceBoot _ _).next hP fun live => hf live fun _ => hphase
  · rw [if_neg hphase]
    intro w hw
    rw [wp_bind, wp_pure]
    exact hf false (fun h => absurd h (by simp)) w hw

/-- A replacement is taken back: the retained record stays if it is alive. -/
theorem rollbackReplacement_does {previous candidate : ForwardRecord}
    (hcandidate : s.candidate = some candidate) (hforward : s.forward = some previous)
    (withdrawn : ForwardRecord) :
    Does P R lo s n (rollbackReplacement E previous withdrawn now) (fun _ => Settles P R lo) := by
  unfold rollbackReplacement
  apply retains_next hP
  intro guardedLive _
  apply (quiet_guardRollback _ _ _).next hP
  intro _
  apply (Quiet.call _).next hP
  intro _
  apply retains_next hP
  intro oldLive hlive
  apply (Quiet.when _ (.call _)).next hP
  intro _
  apply (Quiet.call _).next hP
  intro _
  apply (Quiet.when _ (.call _)).next hP
  intro _
  apply currentState_next
  have hkept : oldLive = true → previous.phase = .active ∨ previous.phase = .guarded := by
    intro h
    simpa using hlive h
  exact (persist_does hP (.rolledBack candidate previous oldLive hcandidate hforward hkept)).post
    fun _ _ h => h.settles

/-- A candidate is rolled back in its commit, dropped when it is late, or left. -/
theorem recoverCandidate_does :
    Does P R lo s n (recoverCandidate E now) (fun _ => Settles P R lo) := by
  unfold recoverCandidate
  apply currentState_next
  cases hcandidate : s.candidate with
  | none => exact Triple.pure fun _ hw => hw.settles
  | some candidate =>
    apply Triple.ite
    · intro _
      apply okOr_next
      intro previous hforward
      exact (rollbackReplacement_does hP hcandidate hforward candidate).bind fun _ =>
        Triple.pure fun _ hw => hw
    · intro _
      apply get_next
      intro w₀ _
      apply Triple.ite
      · intro _
        exact persist_next hP .dropped (Triple.pure fun _ hw => hw.settles)
      · intro _
        exact Triple.pure fun _ hw => hw.settles

/-- A cancelled policy is fenced before it is forgotten. -/
theorem recoverCancelledPolicy_does :
    Does P R lo s n (recoverCancelledPolicy E) (fun _ => Settles P R lo) := by
  unfold recoverCancelledPolicy
  apply currentState_next
  cases hforward : s.forward with
  | none => exact Triple.pure fun _ hw => hw.settles
  | some forward =>
    apply Triple.ite
    · intro hcancelled
      obtain ⟨p, hpolicy, hp⟩ := (Option.any_eq_true _ _).mp hcancelled
      apply (quiet_fencePolicyIntent forward).next hP
      intro _
      exact persist_next hP (.mapForward hforward (.fenced p hpolicy hp))
        (Triple.pure fun _ hw => hw.settles)
    · intro _
      exact Triple.pure fun _ hw => hw.settles

/-- A pending policy is published again for an owner that is alive. -/
theorem reconcileLivePolicy_does :
    Does P R lo s n (reconcileLivePolicy E now) (fun _ => Settles P R lo) := by
  unfold reconcileLivePolicy
  apply currentState_next
  apply okOr_next
  intro forward hforward
  apply (quiet_ensureLive _ _).next hP
  intro _
  apply ensure_next
  intro hidle
  apply okOr_next
  intro pending hpending
  apply ensure_next
  intro _
  apply quiet_ownIdentity.next hP
  intro _
  apply (Quiet.inStage _ (.call _)).next hP
  intro _
  have hcandidate : s.candidate.isSome = false := by
    rw [hidle.2.1]
    rfl
  exact (persist_does hP (.mapForward hforward
    (.policyPublished pending hpending hidle.1 hcandidate hidle.2.2))).post fun _ _ h => h.settles

/-- Errors of the republication are swallowed. -/
theorem recoverPendingPolicy_does :
    Does P R lo s n (recoverPendingPolicy E now) (fun _ => Settles P R lo) := by
  unfold recoverPendingPolicy
  apply currentState_next
  cases hforward : s.forward with
  | none => exact Triple.pure fun _ hw => hw.settles
  | some forward =>
    apply Triple.ite
    · intro _
      apply (Quiet.read _ _).next hP
      intro bootId
      apply Triple.ite
      · intro _
        apply Triple.attempt_bind (reconcileLivePolicy_does hP)
        · intro _
          exact Triple.pure fun _ hw => hw
        · intro _
          exact Triple.pure fun _ hw => hw.settles
      · intro _
        exact Triple.pure fun _ hw => hw.settles
    · intro _
      exact Triple.pure fun _ hw => hw.settles

/-- Failed prefixes that were intended are settled, or left pending. -/
theorem recoverPendingFailures_does :
    Does P R lo s n (recoverPendingFailures E now) (fun _ => Settles P R lo) := by
  unfold recoverPendingFailures
  apply currentState_next
  cases hforward : s.forward with
  | none => exact Triple.pure fun _ hw => hw.settles
  | some forward =>
    apply Triple.ite
    · intro _
      apply (Quiet.read _ _).next hP
      intro bootId
      apply Triple.ite
      · intro _
        cases hpending : forward.pendingFailedPrefixes with
        | none => exact Triple.pure fun _ hw => hw.settles
        | some target =>
          apply unwrap_next
          intro spec _
          apply (quiet_identity _ _).next hP
          intro _
          apply Triple.attempt_bind ((Quiet.call _).does hP)
          · intro _
            apply unwrap_next
            intro revision hrevision
            exact persist_next hP
              (.mapForward hforward (.failuresSettled revision target hpending hrevision))
              (Triple.pure fun _ hw => hw.settles)
          · intro _
            exact Triple.pure fun _ hw => hw.settles
      · intro _
        exact Triple.pure fun _ hw => hw.settles
    · intro _
      exact Triple.pure fun _ hw => hw.settles

/-- The cancellation of a pending policy is written in front of its fencing. -/
theorem cancel_does {r fenced : ForwardRecord} (hforward : s.forward = some r)
    (hfenced : fenced = { r with
      pendingPolicy := r.pendingPolicy.map fun p => { p with cancelled := true } }) :
    Does P R lo s n (when (r.pendingPolicy.isSome) (persist E { s with forward := some fenced }))
      (fun _ => At P R lo { s with forward := some fenced } n) := by
  apply Triple.when
  · intro hpolicy
    obtain ⟨p, hp⟩ := Option.isSome_iff_exists.mp hpolicy
    rw [hp, Option.map_some] at hfenced
    rw [hfenced]
    exact persist_does hP (.forwarding r _ hforward (.cancelled p hp))
  · intro hpolicy
    have hnone : r.pendingPolicy = none := by simpa using hpolicy
    have hsame : { s with forward := some fenced } = s := by
      rw [hfenced, hnone, Option.map_none, ← hnone, ← hforward]
    rw [hsame]
    exact fun _ hw => hw

/-- An owner that is not alive is revoked, its policy first. -/
theorem expire_does {forward : ForwardRecord} (hforward : s.forward = some forward) :
    Does P R lo s n (expire E forward) (fun _ => Settles P R lo) := by
  unfold expire
  apply currentState_next
  apply (cancel_does hP hforward rfl).bind
  intro _
  apply (quiet_fencePolicyIntent _).next hP
  intro _
  apply currentState_next
  exact (persist_does hP (.mapForward rfl .revoked)).post fun _ _ h => h.settles

/-- The owner is kept, or it expires. -/
theorem recoverOwner_does {recovered : Bool} :
    Does P R lo s n (recoverOwner E now recovered) (fun _ => Settles P R lo) := by
  have hdone : ∀ {s : State} {n : ℕ} (b : Bool), Does P R lo s n (do
      setRestartRecoveryPending false
      return b) (fun _ => Settles P R lo) := by
    intro s n b
    exact (Quiet.setRestartRecoveryPending _).next hP fun _ => Triple.pure fun _ hw => hw.settles
  unfold recoverOwner
  apply get_next
  intro w₀ hstate
  cases hforward : w₀.state.forward with
  | none => exact hdone recovered
  | some forward =>
    rw [hstate] at hforward
    apply Triple.ite
    · intro _
      exact hdone recovered
    · intro _
      apply (Quiet.read _ _).next hP
      intro bootId
      apply Triple.ite
      · intro _
        exact (Quiet.call _).next hP fun _ => hdone true
      · intro _
        apply Triple.ite
        · intro _
          exact hdone recovered
        · intro _
          exact (expire_does hP hforward).bind fun _ => Triple.of_settles fun _ _ => hdone true

/-- All steps of the recovery, each from whatever the one before has left. -/
theorem recoverExpired_does :
    Does P R lo s n (recoverExpired E now) (fun _ => Settles P R lo) := by
  unfold recoverExpired
  apply (completeCreation_does hP).bind
  intro _
  apply Triple.of_settles
  intro s n
  apply (recoverCandidate_does hP).bind
  intro _
  apply Triple.of_settles
  intro s n
  apply (recoverCancelledPolicy_does hP).bind
  intro _
  apply Triple.of_settles
  intro s n
  apply (recoverPendingPolicy_does hP).bind
  intro _
  apply Triple.of_settles
  intro s n
  apply (recoverPendingFailures_does hP).bind
  intro _
  apply Triple.of_settles
  intro s n
  exact recoverOwner_does hP

end Recovery

/-! ## The holder of the descriptor -/

/-- The boot identifier and the start time of the holder were read, in this order. -/
def KnownBy (E : Surroundings) (n : ℕ) (o : IoOwner) : Prop :=
  ∃ t₀ t₁, t₀ ≤ t₁ ∧ t₁ < n ∧ (E.moment t₀).bootId = o.bootId
    ∧ ∃ stat, (E.moment t₁).processes o.pid = some stat ∧ some stat.startTicks = o.startTicks

section Holder

variable {op : Option Operation} (hP : Closed E op lo P R) {Q : β → InfrastructureService → Prop}

include hP

/-- A look whose failure is caught. -/
theorem attempt_read_next {f : Moment → α} {g : Except InfrastructureError α → Svc β}
    (hok : ∀ t, lo ≤ t → n ≤ t → Does P R lo s (t + 1) (g (.ok (f (E.moment t)))) Q)
    (herr : Does P R lo s n (g (.error e)) Q) : Does P R lo s n (attempt (read E f e) >>= g) Q := by
  intro w hw
  have hlater : Undisturbed w { w with clock := w.clock + 1 } := ⟨rfl, rfl, Nat.le_succ _⟩
  rw [wp_bind, wp_attempt]
  unfold wp read
  cases (E.moment w.clock).fate with
  | ok =>
    refine hok w.clock hw.keeps.start hw.clock _
      ⟨hw.state, ?_, Nat.le_refl _, ?_, hw.keeps.undisturbed hP hlater⟩
    · exact Nat.le_trans hw.start (Nat.le_succ_of_le hw.clock)
    · exact hP.mono (Nat.le_succ_of_le hw.clock) hw.holds
  | fail done repaired => exact herr _ (hw.undisturbed hP hlater)
  | crash done repaired => exact hw.keeps.undisturbed hP hlater

/-- The state is still `s`, and the holder has been seen dead if it was found so. -/
def Observed (P : ℕ → State → Prop) (R : ℕ → State → State → Prop) (lo : ℕ) (s : State) (n : ℕ)
    (dead : ℕ → Prop) (alive : Bool) (w : InfrastructureService) : Prop :=
  ∃ m, At P R lo s m w ∧ (n ≤ m ∧ (alive = false → dead m))

omit hP in
theorem Observed.of_at {dead : ℕ → Prop} {alive : Bool} {m : ℕ}
    (hle : n ≤ m) (hdead : alive = false → dead m) (h : At P R lo s m w) :
    Observed P R lo s n dead alive w :=
  ⟨m, h, hle, hdead⟩

/-- A holder that `kill` does not find is dead. -/
theorem killProbe_does (o : IoOwner) :
    Does P R lo s n (killProbe E o.pid) (Observed P R lo s n fun m => FoundDead E lo m o) := by
  unfold killProbe
  apply attempt_read_next hP
  · intro t hlo ht
    apply Triple.pure
    intro w hw
    apply Observed.of_at (Nat.le_succ_of_le ht) _ hw
    intro hnone
    refine ⟨t, hlo, Nat.lt_succ_self t, ?_⟩
    rintro ⟨_, stat, hstat, _⟩
    simp [hstat] at hnone
  · apply Triple.pure
    intro w hw
    exact Observed.of_at (Nat.le_refl n) (by simp) hw

/-- So is a zombie, and a process with another start time. -/
theorem examine_does (o : IoOwner) :
    Does P R lo s n (ioOwnerAlive.examine E o)
      (Observed P R lo s n fun m => FoundDead E lo m o) := by
  unfold ioOwnerAlive.examine
  apply attempt_read_next hP
  · intro t hlo ht
    cases hstat : (E.moment t).processes o.pid with
    | none =>
      apply Triple.pure
      intro w hw
      apply Observed.of_at (Nat.le_succ_of_le ht) _ hw
      intro _
      refine ⟨t, hlo, Nat.lt_succ_self t, ?_⟩
      rintro ⟨_, stat, hsome, _⟩
      rw [hstat] at hsome
      exact absurd hsome (by simp)
    | some stat =>
      apply Triple.ite
      · intro hgone
        apply Triple.pure
        intro w hw
        apply Observed.of_at (Nat.le_succ_of_le ht) _ hw
        intro _
        refine ⟨t, hlo, Nat.lt_succ_self t, ?_⟩
        rintro ⟨_, stat', hsome, hZ, hX, hticks⟩
        rw [hstat, Option.some.injEq] at hsome
        subst hsome
        rcases hgone with h | h | h
        · exact hZ h
        · exact hX h
        · exact h hticks
      · intro _
        refine (killProbe_does hP o).post ?_
        rintro alive w ⟨m, hw, hm, hdead⟩
        exact ⟨m, hw, by omega, hdead⟩
  · apply Triple.pure
    intro w hw
    exact Observed.of_at (Nat.le_refl n) (by simp) hw

/-- So is a holder of another boot. -/
theorem ioOwnerAlive_does (o : IoOwner) :
    Does P R lo s n (ioOwnerAlive E o) (Observed P R lo s n fun m => FoundDead E lo m o) := by
  unfold ioOwnerAlive currentBootId
  apply attempt_read_next hP
  · intro t hlo ht
    apply Triple.ite
    · intro hboot
      apply Triple.pure
      intro w hw
      apply Observed.of_at (Nat.le_succ_of_le ht) _ hw
      intro _
      exact ⟨t, hlo, Nat.lt_succ_self t, fun halive => hboot halive.1⟩
    · intro _
      refine (examine_does hP o).post ?_
      rintro alive w ⟨m, hw, hm, hdead⟩
      exact ⟨m, hw, by omega, hdead⟩
  · exact examine_does hP o

/-- A descriptor without a living holder is free. -/
theorem heldAlive_next {o : Option IoOwner} {f : Bool → Svc β}
    (hf : ∀ alive m, n ≤ m → (alive = false → Unheld E lo m o) → Does P R lo s m (f alive) Q) :
    Does P R lo s n (heldAlive E o >>= f) Q := by
  cases o with
  | none =>
    intro w hw
    rw [heldAlive, wp_bind, wp_pure]
    exact hf false n (Nat.le_refl n) (fun _ holder h => absurd h (by simp)) w hw
  | some holder =>
    apply (ioOwnerAlive_does hP holder).bind
    intro alive
    apply Triple.exists_pre
    intro m
    apply Triple.and_pre
    rintro ⟨hm, hdead⟩
    apply hf alive m hm
    intro hfalse holder' hholder
    rw [Option.some.injEq] at hholder
    rw [← hholder]
    exact hdead hfalse

end Holder

end CandyRuntime.NetdV2
