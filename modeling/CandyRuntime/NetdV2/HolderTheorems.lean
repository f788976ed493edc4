import CandyRuntime.NetdV2.GenerationTheorems

/-!
# The holder of the I/O descriptor

`InfraAcquireIoFd` hands out a descriptor of the device to one process at a time. A log next to
the run keeps every holder and, since the last retirement, every epoch that was ever handed
out. A holder that is still alive is the one in memory and in the journal, so that the next
descriptor waits for its death, across failed writes, lost devices, kills and restarts.
-/

namespace CandyRuntime.NetdV2

open Lib Lib.Proc NetdProto NetdV1

variable {w w' : InfrastructureService} {action : Action}
  {o : IoOwner} {body : Body} {log : Issuance}
variable {E : Surroundings} {op : Option Operation} {lo n : ℕ} {s s' : State}
variable {P : ℕ → State → Prop} {event : Event} {e : ℕ}

/-! ## Holders -/

/-- A process that is known and not alive never becomes alive again. -/
def Mortal (E : Surroundings) : Prop :=
  ∀ o t t', KnownBy E (t + 1) o → t ≤ t' → ¬ Alive (E.moment t) o → ¬ Alive (E.moment t') o

/-- A process that was known has been seen dead. -/
def Died (E : Surroundings) (n : ℕ) (o : IoOwner) : Prop :=
  ∃ t < n, KnownBy E (t + 1) o ∧ ¬ Alive (E.moment t) o

theorem KnownBy.mono {m : ℕ} (h : KnownBy E n o) (hle : n ≤ m) : KnownBy E m o := by
  obtain ⟨t₀, t₁, h₀₁, h₁, hboot, hstat⟩ := h
  exact ⟨t₀, t₁, h₀₁, Nat.lt_of_lt_of_le h₁ hle, hboot, hstat⟩

theorem Died.mono {m : ℕ} (h : Died E n o) (hle : n ≤ m) : Died E m o := by
  obtain ⟨t, ht, hdead⟩ := h
  exact ⟨t, Nat.lt_of_lt_of_le ht hle, hdead⟩

/-- The death of a holder that was known when the step began. -/
theorem FoundDead.died (h : FoundDead E lo n o) (hknown : KnownBy E lo o) :
    Died E n o := by
  obtain ⟨t, hlo, ht, hdead⟩ := h
  exact ⟨t, ht, hknown.mono (Nat.le_succ_of_le hlo), hdead⟩

/-- The holder is remembered, or has been seen dead. -/
def Remembers (E : Surroundings) (o : IoOwner) (n : ℕ) (s : State) : Prop :=
  Shaped s ∧ (s.ioOwner = some o ∨ Died E n o)

/-- A holder that is no longer held has been seen dead. -/
theorem Remembers.died (h : Remembers E o n s) (hknown : KnownBy E lo o)
    (hfree : Unheld E lo n s.ioOwner) : Died E n o := by
  rcases h.2 with hheld | hdied
  · exact (hfree o hheld).died hknown
  · exact hdied

theorem Remembers.change (h : Remembers E o n s) (hknown : KnownBy E lo o)
    (hchange : Change E op lo n s s') : Remembers E o n s' := by
  refine ⟨shaped_change h.1 hchange, ?_⟩
  cases hchange with
  | repaired _ _ _ _ _ hfree => exact Or.inr (h.died hknown hfree)
  | acquired _ _ _ _ hfree => exact Or.inr (h.died hknown hfree)
  | released hfree => exact Or.inr (h.died hknown hfree)
  | retired _ _ _ hfree => exact Or.inr (h.died hknown hfree)
  | _ => exact h.2

theorem stable_remembers (hknown : KnownBy E lo o) :
    Stable E op lo (Remembers E o) where
  mono := fun hle h => ⟨h.1, h.2.imp_right fun hdied => hdied.mono hle⟩
  change := fun _ h hc => h.change hknown hc
  shaped := fun h => h.1

/-! ## Epochs -/

/-- The epoch is not above the last one. -/
def Issues (e : ℕ) (_ : ℕ) (s : State) : Prop := Shaped s ∧ e ≤ s.lastIoEpoch

theorem stable_issues (e : ℕ) (hop : Retains op) : Stable E op lo (Issues e) where
  mono := fun _ h => h
  change := by
    intro n s s' _ h hchange
    refine ⟨shaped_change h.1 hchange, ?_⟩
    cases hchange with
    | retired infraId generation hretire => exact absurd hretire (hop infraId generation)
    | acquired _ _ _ _ _ hepoch => exact Nat.le_trans h.2 (Nat.le_of_lt hepoch)
    | _ => exact h.2
  shaped := fun h => h.1

/-- A retirement leaves the last epoch, or nothing at all. -/
theorem closed_retirement {infraId : InstanceId} {generation : ℕ}
    (hop : op = some (.infraRetire infraId generation)) :
    Closed E op lo (fun _ s => Shaped s ∧ (e ≤ s.lastIoEpoch ∨ s = .default))
      (fun _ s d => (Shaped d ∧ (e ≤ d.lastIoEpoch ∨ d = .default))
        ∧ (s = .default → d = .default)) := by
  have hchange : ∀ {n s s'}, Change E op lo n s s' → s = .default → s' = .default := by
    rintro n s s' hc rfl
    cases hc with
    | _ => simp_all [State.default]
  have hkeeps : ∀ {n s s'}, Shaped s ∧ (e ≤ s.lastIoEpoch ∨ s = .default) →
      Change E op lo n s s' → Shaped s' ∧ (e ≤ s'.lastIoEpoch ∨ s' = .default) := by
    intro n s s' h hc
    refine ⟨shaped_change h.1 hc, ?_⟩
    rcases h.2 with hle | hdefault
    · cases hc with
      | retired => exact Or.inr rfl
      | acquired _ _ _ hacquire =>
        rw [hop] at hacquire
        exact absurd hacquire (by simp)
      | _ => exact Or.inl hle
    · exact Or.inr (hchange hc hdefault)
  exact
    { mono := fun _ h => h
      monoStored := fun _ h => h
      change := fun _ h hc => hkeeps h hc
      written := fun h => ⟨h, id⟩
      ahead := fun _ h hc => ⟨hkeeps h hc, hchange hc⟩
      shaped := fun h => h.1 }

/-! ## The log of a run -/

/-- Every holder a descriptor was handed to, and every epoch since the last retirement. -/
structure Issuance where
  holders : List IoOwner
  epochs : List ℕ

/-- The operation is `InfraRetire`. -/
def Operation.retires : Operation → Bool
  | .infraRetire .. => true
  | _ => false

/-- The epoch a reply hands out. -/
def Body.issuedEpoch : Body → ℕ
  | .ioFd _ _ epoch => epoch
  | _ => 0

/-- The log after one more step. A retirement that reached memory or journal ends the epochs. -/
def Issuance.after (log : Issuance) (event : Event) (w' : InfrastructureService) : Issuance :=
  match event with
  | .returned _ (.ok (some (body, true))) =>
    { holders := w'.state.ioOwner.toList ++ log.holders
      epochs := body.issuedEpoch :: log.epochs }
  | event =>
    if event.operation.any (·.retires) ∧ (w'.state = .default ∨ w'.stored = some .default) then
      { log with epochs := [] }
    else log

/-- A run and its log. -/
inductive LoggedRun (E : Surroundings) : Issuance → InfrastructureService → Prop where
  | fresh (uid gid : ℕ) : LoggedRun E { holders := [], epochs := [] } (.fresh uid gid)
  | step {log : Issuance} {w w' : InfrastructureService} {event : Event}
      (hrun : LoggedRun E log w) (hstep : Step E event w w') :
      LoggedRun E (log.after event w') w'

/-- What the service knows of the holders and epochs of the log. -/
structure Logged (E : Surroundings) (log : Issuance) (w : InfrastructureService) : Prop where
  unstored : w.stored = none → w.state = .default
  shaped : Holds (fun _ => Shaped) w
  holders : ∀ o ∈ log.holders, Holds (Remembers E o) w ∧ KnownBy E w.clock o
  epochs : ∀ e ∈ log.epochs, 0 < e ∧ Holds (Issues e) w

/-! ## Descriptors that are handed out -/

theorem stable_shaped : Stable E op lo (fun _ => Shaped) where
  mono := fun _ h => h
  change := fun _ h hc => shaped_change h hc
  shaped := id

/-- What an action that replied has done. -/
theorem exec_replies {R : ℕ → State → State → Prop} (hP : Closed E action.operation lo P R) :
    Does P R lo s n (exec E action) (fun result w => ∀ reply, result = some reply →
      ∃ request peer now, action = .process request peer now
        ∧ Leaves E action.operation request lo P R (.reply reply.1 reply.2) w) := by
  cases action with
  | recoverExpired now =>
    exact (recoverExpired_does hP).bind fun _ => Triple.pure fun _ _ reply h => absurd h (by simp)
  | process request peer now =>
    apply (process_does hP rfl).bind
    intro reply
    apply Triple.pure
    intro w hw reply' heq
    rw [Option.some.injEq] at heq
    rw [← heq]
    exact ⟨request, peer, now, rfl, hw⟩

/-- The reply with a descriptor, taken back to the write of its holder. -/
theorem issued_of_step {R : ℕ → State → State → Prop}
    (hstep : Step E (.returned action (.ok (some (body, true)))) w w') (hw : Keeps P R w.clock w)
    (hP : Closed E action.operation w.clock P R) :
    ∃ s n o spec ifindex infraId generation, At P R w.clock s n w'
      ∧ body = .ioFd spec ifindex o.ioEpoch
      ∧ action.operation = some (.infraAcquireIoFd infraId generation o.ioEpoch)
      ∧ ∃ request peer now, action = .process request peer now
        ∧ Issued E P w.clock n s o request w' := by
  cases hstep with
  | returned hrun =>
    have hwp := exec_replies hP w hw.at
    unfold attempt at hrun
    unfold wp at hwp
    split at hrun <;> rename_i heq <;> rw [heq] at hwp <;>
      simp only [Prod.mk.injEq, Outcome.ok.injEq, Except.ok.injEq, reduceCtorEq, false_and] at hrun
    obtain ⟨rfl, rfl⟩ := hrun
    obtain ⟨request, peer, now, haction, s, n, hat, o, spec, ifindex, infraId, generation, hbody,
      hop, hissued⟩ := hwp (body, true) rfl
    exact ⟨s, n, o, spec, ifindex, infraId, generation, hat, hbody, hop, request, peer, now,
      haction, hissued⟩

theorem Holds.keeps (h : Holds P w) :
    Keeps P (fun n _ d => P n d) w.clock w :=
  ⟨Nat.le_refl _, h.state, h.stored, h.unstored⟩

/-- A descriptor is only handed out when every earlier holder has been seen dead. -/
theorem died_of_issued (hstep : Step E (.returned action (.ok (some (body, true)))) w w')
    (h : Holds (Remembers E o) w) (hknown : KnownBy E w.clock o) : Died E w'.clock o := by
  obtain ⟨s, n, _, _, _, _, _, hat, _, _, _, _, _, _, hissued⟩ :=
    issued_of_step hstep h.keeps (stable_remembers hknown).closed
  obtain ⟨s₁, hremembers, hunheld, _⟩ := hissued.before
  exact (hremembers.died hknown hunheld).mono hat.clock

/-- A descriptor is only handed out by `InfraAcquireIoFd`. -/
theorem retains_of_issued (hstep : Step E (.returned action (.ok (some (body, true)))) w w')
    (h : Holds (fun _ => Shaped) w) : Retains action.operation := by
  obtain ⟨_, _, _, _, _, _, _, _, _, hop, _⟩ := issued_of_step hstep h.keeps stable_shaped.closed
  intro infraId generation hretire
  rw [hop] at hretire
  exact absurd hretire (by simp)

/-- A descriptor carries an epoch above every earlier one. -/
theorem epoch_lt_of_issued (hstep : Step E (.returned action (.ok (some (body, true)))) w w')
    (hop : Retains action.operation) (h : Holds (Issues e) w) :
    e < w'.state.lastIoEpoch := by
  obtain ⟨s, n, o, _, _, _, _, hat, _, _, _, _, _, _, hissued⟩ :=
    issued_of_step hstep h.keeps (stable_issues e hop).closed
  obtain ⟨s₁, hissues, _, hepoch⟩ := hissued.before
  rw [hat.state, hissued.epoch]
  exact Nat.lt_of_le_of_lt hissues.2 hepoch

/-! ## The log along a run -/

theorem clock_le_of_step (hstep : Step E event w w') (h : Holds (fun _ => Shaped) w) :
    w.clock ≤ w'.clock := by
  obtain ⟨w₁, hkeeps, hgoes⟩ := Keeps.step h hstep stable_shaped.closed
  rw [(hgoes.state hkeeps).1]
  exact hkeeps.start

/-- A retirement that reached neither memory nor journal leaves the epochs. -/
theorem issues_of_unretired {infraId : InstanceId} {generation : ℕ} (he : 0 < e)
    (h : Holds (Issues e) w) (hstep : Step E event w w')
    (hop : event.operation = some (.infraRetire infraId generation))
    (hstate : w'.state ≠ .default) (hstored : w'.stored ≠ some .default) : Holds (Issues e) w' := by
  have hnotDefault : ∀ {s : State}, e ≤ s.lastIoEpoch → s ≠ .default := by
    rintro s hle rfl
    simp only [State.default] at hle
    omega
  have hkeeps : Keeps (fun _ s => Shaped s ∧ (e ≤ s.lastIoEpoch ∨ s = .default))
      (fun _ s d => (Shaped d ∧ (e ≤ d.lastIoEpoch ∨ d = .default))
        ∧ (s = .default → d = .default)) 0 w := by
    refine ⟨h.start, ⟨h.state.1, Or.inl h.state.2⟩, ?_, h.unstored⟩
    intro d hd
    have hissues := h.stored d hd
    exact ⟨⟨hissues.1, Or.inl hissues.2⟩, fun hdefault => absurd hdefault (hnotDefault h.state.2)⟩
  obtain ⟨w₁, hkeeps₁, hgoes⟩ := hkeeps.step hstep (closed_retirement hop)
  obtain ⟨_, hfile, hmemory⟩ := hgoes.state hkeeps₁
  have hdisk : ∀ d, w'.stored = some d → Issues e 0 d := by
    intro d hd
    rw [hfile] at hd
    obtain ⟨⟨hshaped, hle⟩, _⟩ := hkeeps₁.stored d hd
    refine ⟨hshaped, hle.resolve_right ?_⟩
    rintro rfl
    exact hstored (hfile.trans hd)
  refine ⟨Nat.zero_le _, ?_, hdisk, ?_⟩
  · rcases hmemory with heq | heq
    · rw [heq] at hstate ⊢
      exact ⟨hkeeps₁.state.1, hkeeps₁.state.2.resolve_right hstate⟩
    · exact hdisk _ (hfile.trans heq)
  · intro hnone
    rw [hfile] at hnone
    rcases hmemory with heq | heq
    · rw [heq]
      exact hkeeps₁.unstored hnone
    · rw [hnone] at heq
      exact absurd heq (by simp)

/-- What holds of one state holds in memory and journal when both are that state. -/
theorem Holds.of_stored (hstored : w.stored = some w.state) (h : P w.clock w.state) :
    Holds P w := by
  refine ⟨Nat.zero_le _, h, ?_, ?_⟩
  · intro d hd
    rw [hstored, Option.some.injEq] at hd
    rw [← hd]
    exact h
  · intro hnone
    rw [hstored] at hnone
    exact absurd hnone (by simp)

theorem Logged.issue (h : Logged E log w)
    (hstep : Step E (.returned action (.ok (some (body, true)))) w w') :
    Logged E (log.after (.returned action (.ok (some (body, true)))) w') w' := by
  have hshaped : Holds (fun _ => Shaped) w' := h.shaped.step hstep stable_shaped
  have hclock := clock_le_of_step hstep h.shaped
  have hretains := retains_of_issued hstep h.shaped
  obtain ⟨s, n, o, spec, ifindex, _, _, hat, hbody, _, _, _, _, _, hissued⟩ :=
    issued_of_step hstep h.shaped.keeps stable_shaped.closed
  have hlast : w'.state.lastIoEpoch = o.ioEpoch := by
    rw [hat.state, hissued.epoch]
  have hstored : w'.stored = some w'.state := by
    rw [hissued.stored, hat.state]
  obtain ⟨s₁, _, _, hepoch⟩ := hissued.before
  refine ⟨hshaped.unstored, hshaped, ?_, ?_⟩
  · intro o' ho'
    simp only [Issuance.after, List.mem_append, Option.mem_toList, hat.state, hissued.holder,
      Option.some.injEq] at ho'
    rcases ho' with rfl | ho'
    · refine ⟨.of_stored hstored ⟨hshaped.state, Or.inl ?_⟩, hissued.known.mono hat.clock⟩
      rw [hat.state, hissued.holder]
    · exact ⟨(h.holders o' ho').1.step hstep (stable_remembers (h.holders o' ho').2),
        (h.holders o' ho').2.mono hclock⟩
  · intro e he
    simp only [Issuance.after, hbody, Body.issuedEpoch, List.mem_cons] at he
    rcases he with rfl | he
    · exact ⟨by omega, .of_stored hstored ⟨hshaped.state, hlast.ge⟩⟩
    · exact ⟨(h.epochs e he).1, (h.epochs e he).2.step hstep (stable_issues e hretains)⟩

theorem Logged.step (h : Logged E log w) (hstep : Step E event w w') :
    Logged E (log.after event w') w' := by
  by_cases hissue : ∃ action body, event = .returned action (.ok (some (body, true)))
  · obtain ⟨action, body, rfl⟩ := hissue
    exact h.issue hstep
  · have hshaped : Holds (fun _ => Shaped) w' := h.shaped.step hstep stable_shaped
    have hclock := clock_le_of_step hstep h.shaped
    have hholders : ∀ o ∈ log.holders, Holds (Remembers E o) w' ∧ KnownBy E w'.clock o :=
      fun o ho =>
        ⟨(h.holders o ho).1.step hstep (stable_remembers (h.holders o ho).2),
          (h.holders o ho).2.mono hclock⟩
    unfold Issuance.after
    split
    · rename_i action body
      exact absurd ⟨action, body, rfl⟩ hissue
    · split
      · exact ⟨hshaped.unstored, hshaped, hholders, fun e he => absurd he (by simp)⟩
      · rename_i hunretired
        refine ⟨hshaped.unstored, hshaped, hholders, ?_⟩
        intro e he
        obtain ⟨hpos, hissues⟩ := h.epochs e he
        refine ⟨hpos, ?_⟩
        by_cases hop : Retains event.operation
        · exact hissues.step hstep (stable_issues e hop)
        · simp only [Retains, ne_eq, not_forall, not_not] at hop
          obtain ⟨infraId, generation, hop⟩ := hop
          simp only [hop, Option.any_some, Operation.retires, true_and, not_or] at hunretired
          exact issues_of_unretired hpos hissues hstep hop hunretired.1 hunretired.2

theorem logged_of_run (h : LoggedRun E log w) :
    Logged E log w := by
  induction h with
  | fresh uid gid =>
    have hshaped : Holds (fun _ => Shaped) (.fresh uid gid) :=
      keeps_fresh (by simp [Shaped, State.default])
    exact ⟨hshaped.unstored, hshaped, fun o ho => absurd ho (by simp),
      fun e he => absurd he (by simp)⟩
  | step _ hstep ih => exact ih.step hstep

/-- At most one live reader of the device. In every run, a holder of a descriptor that is still
alive is the one in memory and in the journal, whatever the step was. A step that hands out a
descriptor finds every earlier holder dead, for good, its epoch is above every epoch that was
handed out since the last retirement, and its holder is the process that made the request. -/
theorem descriptor_exclusive (hmortal : Mortal E) (hrun : LoggedRun E log w) :
    (∀ o ∈ log.holders, ∀ t, w.clock ≤ t → Alive (E.moment t) o →
      w.state.ioOwner = some o ∧ ∀ d, w.stored = some d → d.ioOwner = some o)
    ∧ ∀ action body w', Step E (.returned action (.ok (some (body, true)))) w w' →
      (∀ o ∈ log.holders, ∃ t₀ < w'.clock, ∀ t, t₀ ≤ t → ¬ Alive (E.moment t) o)
      ∧ ∃ spec ifindex epoch, body = .ioFd spec ifindex epoch ∧ (∀ e ∈ log.epochs, e < epoch)
        ∧ ∃ request peer now o, action = .process request peer now ∧ w'.state.ioOwner = some o
          ∧ o.ioEpoch = epoch ∧ o.instanceId = request.callerInstanceId
          ∧ o.pid = request.callerPid ∧ KnownBy E w'.clock o := by
  have hlogged := logged_of_run hrun
  have hdead : ∀ {o n}, Died E n o → ∃ t₀ < n, ∀ t, t₀ ≤ t → ¬ Alive (E.moment t) o := by
    rintro o n ⟨t₀, hlt, hknown, hdead⟩
    exact ⟨t₀, hlt, fun t ht => hmortal o t₀ t hknown ht hdead⟩
  constructor
  · intro o ho t ht halive
    have hlives : ¬ Died E w.clock o := by
      intro hdied
      obtain ⟨t₀, hlt, hnever⟩ := hdead hdied
      exact hnever t (by omega) halive
    obtain ⟨hholds, _⟩ := hlogged.holders o ho
    exact ⟨hholds.state.2.resolve_right hlives,
      fun d hd => (hholds.stored d hd).2.resolve_right hlives⟩
  · intro action body w' hstep
    constructor
    · intro o ho
      obtain ⟨hholds, hknown⟩ := hlogged.holders o ho
      exact hdead (died_of_issued hstep hholds hknown)
    · obtain ⟨s, n, o, spec, ifindex, _, _, hat, hbody, _, request, peer, now, haction, hissued⟩ :=
        issued_of_step hstep hlogged.shaped.keeps stable_shaped.closed
      refine ⟨spec, ifindex, o.ioEpoch, hbody, ?_, request, peer, now, o, haction, ?_, rfl,
        hissued.caller.1, hissued.caller.2, hissued.known.mono hat.clock⟩
      swap
      · rw [hat.state, hissued.holder]
      intro e he
      have hlt := epoch_lt_of_issued hstep (retains_of_issued hstep hlogged.shaped)
        (hlogged.epochs e he).2
      rw [hat.state, hissued.epoch] at hlt
      exact hlt

/-! ## A run with two holders -/

/-- One action of a computed run, with its log. -/
def logStep (E : Surroundings) (run : Issuance × InfrastructureService) (action : Action) :
    Issuance × InfrastructureService :=
  match exec E action run.2 with
  | (.ok result, w') => (run.1.after (.returned action (.ok result)) w', w')
  | (.err e, w') => (run.1.after (.returned action (.error e)) w', w')
  | (.crash, w') =>
    match load w'.stored with
    | some s => (run.1.after (.killed action) (w'.restart s), w'.restart s)
    | none => run

theorem loggedRun_foldl {run : Issuance × InfrastructureService}
    (h : LoggedRun E run.1 run.2) (actions : List Action) :
    LoggedRun E (actions.foldl (logStep E) run).1 (actions.foldl (logStep E) run).2 := by
  induction actions generalizing run with
  | nil => exact h
  | cons action actions ih =>
    apply ih
    unfold logStep
    split
    · rename_i heq
      exact .step h (.returned (by rw [attempt, heq]))
    · rename_i heq
      exact .step h (.returned (by rw [attempt, heq]))
    · rename_i heq
      split
      · rename_i hload
        exact .step h (.killed heq hload)
      · exact h

namespace Sample

/-- The process 5 exits at the moment 30. -/
def passing : Surroundings where
  moment := fun n => { surroundings.moment n with
    processes := fun pid =>
      if pid = 5 ∧ 30 ≤ n then none else some { state := 'S', startTicks := 7 } }
  declarationHash := fun _ => ""

/-- A process asks for the descriptor. -/
def acquire (pid : UInt32) (epoch : ℕ) : Action :=
  .process { requestId := 1, callerInstanceId := ident 9, callerPid := pid,
             operation := .infraAcquireIoFd (ident 1) 1 epoch } { uid := 0, gid := 0, pid } 1

/-- The process 5 holds the descriptor, and the process 6 asks for it in vain. -/
def held : Issuance × InfrastructureService :=
  ([ask (.infraEnsure spec), acquire 5 1, acquire 6 2, .recoverExpired 1, ask .forwardStatus,
    acquire 6 2].foldl (logStep passing) ({ holders := [], epochs := [] }, .fresh 0 0))

theorem mortal_passing : Mortal passing := by
  intro o t t' _ hle hdead halive
  obtain ⟨hboot, stat, hstat, hstate⟩ := halive
  have hthere : ¬ (o.pid = 5 ∧ 30 ≤ t') := by
    intro hgone
    simp [passing, hgone] at hstat
  have hbefore : ¬ (o.pid = 5 ∧ 30 ≤ t) := fun hgone => hthere ⟨hgone.1, by omega⟩
  have hsame : (passing.moment t).processes o.pid = (passing.moment t').processes o.pid := by
    simp [passing, hthere, hbefore]
  have hboots : (passing.moment t).bootId = (passing.moment t').bootId := by
    simp only [passing, surroundings]
    split <;> split <;> rfl
  exact hdead ⟨hboots.trans hboot, stat, hsame.trans hstat, hstate⟩

end Sample

open Sample in
theorem descriptor_exclusive_passing :
    held.1.holders.map (·.pid) = [5] ∧ held.1.epochs = [1]
      ∧ ∃ w', Step passing (.returned (acquire 6 2) (.ok (some (.ioFd spec 3 2, true)))) held.2 w'
        ∧ ∀ o ∈ held.1.holders, ∃ t₀ < w'.clock, ∀ t, t₀ ≤ t → ¬ Alive (passing.moment t) o := by
  have hrun : LoggedRun passing held.1 held.2 := loggedRun_foldl (.fresh 0 0) _
  have hreply : (exec passing (acquire 6 2) held.2).1 = .ok (some (.ioFd spec 3 2, true)) := by
    decide
  have hexec : exec passing (acquire 6 2) held.2
      = (.ok (some (.ioFd spec 3 2, true)), (exec passing (acquire 6 2) held.2).2) :=
    Prod.ext hreply rfl
  have hstep : Step passing (.returned (acquire 6 2) (.ok (some (.ioFd spec 3 2, true)))) held.2
      (exec passing (acquire 6 2) held.2).2 := .returned (by rw [attempt, hexec])
  refine ⟨by decide, by decide, _, hstep, ?_⟩
  exact ((descriptor_exclusive mortal_passing hrun).2 _ _ _ hstep).1

end CandyRuntime.NetdV2
