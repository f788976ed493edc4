import CandyRuntime.NetdV2.ProcessTheorems

/-!
# Runs of the v2 infrastructure service

A run is a sequence of requests and of calls of `recover_expired`, each against the moments
that come next, in which the daemon can be killed at every call and is started again from the
journal. What the changes of every step keep is kept along the whole run (`Keeps.step`).
-/

namespace CandyRuntime.NetdV2

open Lib Lib.Proc NetdProto NetdV1

variable {w w' : InfrastructureService} {event : Event}

/-! ## Steps -/

/-- What the daemon is asked to do. -/
inductive Action where
  | process (request : Request) (peer : PeerCredentials) (now : ℕ)
  | recoverExpired (now : ℕ)
deriving DecidableEq, Repr

/-- The operation an action carries out, if it is a request. -/
def Action.operation : Action → Option Operation
  | .process request _ _ => some request.operation
  | .recoverExpired _ => none

/-- One action; only a request has a reply. -/
def exec (E : Surroundings) : Action → Svc (Option (Body × Bool))
  | .process request peer now => do return some (← process E request peer now)
  | .recoverExpired now => do
    let _ ← recoverExpired E now
    return none

/-- `InfrastructureJournal::load`; there is no service when the checks fail. -/
def load : Option State → Option State
  | none => some .default
  | some s => if s.loadable then some s else none

/-- A service that has just been started. -/
def InfrastructureService.restart (w : InfrastructureService) (s : State) :
    InfrastructureService :=
  { w with state := s, lifecycleFd := false, restartRecoveryPending := true }

/-- The service on a host without a journal. -/
def InfrastructureService.fresh (uid gid : ℕ) : InfrastructureService where
  allowedUid := uid
  allowedGid := gid
  state := .default
  stored := none
  lifecycleFd := false
  restartRecoveryPending := true
  kernel := .empty
  clock := 0

/-- What happens in one step of a run. -/
inductive Event where
  | returned (action : Action) (result : Except InfrastructureError (Option (Body × Bool)))
  | killed (action : Action)
  | restarted

/-- The operation an event belongs to. -/
def Event.operation : Event → Option Operation
  | .returned action _ => action.operation
  | .killed action => action.operation
  | .restarted => none

/-- One step of a run. -/
inductive Step (E : Surroundings) : Event → InfrastructureService → InfrastructureService → Prop
    where
  | returned {w w' : InfrastructureService} {action : Action}
      {result : Except InfrastructureError (Option (Body × Bool))}
      (hrun : attempt (exec E action) w = (.ok result, w')) :
      Step E (.returned action result) w w'
  | killed {w w' : InfrastructureService} {action : Action} {s : State}
      (hrun : exec E action w = (.crash, w')) (hload : load w'.stored = some s) :
      Step E (.killed action) w (w'.restart s)
  | restarted {w : InfrastructureService} {s : State} (hload : load w.stored = some s) :
      Step E .restarted w (w.restart s)

/-- A step that meets a condition. -/
def StepWhen (E : Surroundings)
    (permitted : Event → InfrastructureService → InfrastructureService → Prop)
    (w w' : InfrastructureService) : Prop :=
  ∃ event, Step E event w w' ∧ permitted event w w'

/-- The states of the runs on a host without a journal, all of whose steps meet a condition. -/
def Reachable (E : Surroundings)
    (permitted : Event → InfrastructureService → InfrastructureService → Prop)
    (w : InfrastructureService) : Prop :=
  ∃ uid gid, Relation.ReflTransGen (StepWhen E permitted) (.fresh uid gid) w

/-! ## What a step keeps -/

variable {E : Surroundings} {P : ℕ → State → Prop} {R : ℕ → State → State → Prop}

/-- One action keeps what its changes keep, however it ends. -/
theorem exec_keeps {action : Action} {lo n : ℕ} {s : State}
    (hP : Closed E action.operation lo P R) :
    Does P R lo s n (exec E action) (fun _ => Keeps P R lo) := by
  cases action with
  | process request peer now =>
    exact (process_does hP rfl).bind fun _ => Triple.pure fun _ hw => hw.choose_spec.choose_spec.1.keeps
  | recoverExpired now =>
    exact (recoverExpired_does hP).bind fun _ =>
      Triple.pure fun _ hw => hw.choose_spec.choose_spec.keeps

/-- The state an action leaves behind, also when it is killed. -/
theorem Keeps.exec {action : Action} {lo : ℕ}
    {outcome : Outcome InfrastructureError (Option (Body × Bool))} (h : Keeps P R lo w)
    (hexec : exec E action w = (outcome, w')) (hP : Closed E action.operation w.clock P R) :
    Keeps P R w.clock w' := by
  have hnow : Keeps P R w.clock w := ⟨Nat.le_refl _, h.state, h.stored, h.unstored⟩
  have hwp := exec_keeps hP w hnow.at
  rw [wp, hexec] at hwp
  rcases outcome with a | e | _ <;> exact hwp

/-- The service goes on as it is, or is started again from its journal. -/
def GoesOn (w w' : InfrastructureService) : Prop :=
  w' = w ∨ ∃ s, load w.stored = some s ∧ w' = w.restart s

theorem Keeps.step {lo : ℕ} (h : Keeps P R lo w) (hstep : Step E event w w')
    (hP : Closed E event.operation w.clock P R) :
    ∃ w₁, Keeps P R w.clock w₁ ∧ GoesOn w₁ w' := by
  cases hstep with
  | returned hrun =>
    refine ⟨w', ?_, Or.inl rfl⟩
    unfold attempt at hrun
    split at hrun <;> rename_i heq <;> simp only [Prod.mk.injEq] at hrun
    · exact hrun.2 ▸ h.exec heq hP
    · exact hrun.2 ▸ h.exec heq hP
    · exact absurd hrun.1 (by simp)
  | killed hrun hload => exact ⟨_, h.exec hrun hP, Or.inr ⟨_, hload, rfl⟩⟩
  | restarted hload =>
    exact ⟨w, ⟨Nat.le_refl _, h.state, h.stored, h.unstored⟩, Or.inr ⟨_, hload, rfl⟩⟩

/-- A service that is started again goes on with the state of its journal, or with the state it
had, if nothing was ever stored. -/
theorem GoesOn.state {lo : ℕ} (h : GoesOn w w') (hw : Keeps P R lo w) :
    w'.clock = w.clock ∧ w'.stored = w.stored
      ∧ (w'.state = w.state ∨ w.stored = some w'.state) := by
  rcases h with rfl | ⟨s, hload, rfl⟩
  · exact ⟨rfl, rfl, Or.inl rfl⟩
  · refine ⟨rfl, rfl, ?_⟩
    cases hstored : w.stored with
    | none =>
      rw [hstored, load, Option.some.injEq] at hload
      exact Or.inl (hload.symm.trans (hw.unstored hstored).symm)
    | some d =>
      rw [hstored, load] at hload
      split at hload
      · exact Or.inr (congrArg some (Option.some.inj hload))
      · exact absurd hload (by simp)

theorem keeps_fresh {uid gid : ℕ} (h : P 0 .default) : Keeps P R 0 (.fresh uid gid) :=
  ⟨Nat.le_refl _, h, fun _ hs => absurd hs (by simp [InfrastructureService.fresh]), fun _ => rfl⟩

/-! ## Invariants of single states -/

/-- A property of single states that no change of the operation destroys. -/
structure Stable (E : Surroundings) (op : Option Operation) (lo : ℕ) (P : ℕ → State → Prop) :
    Prop where
  mono : ∀ {n m s}, n ≤ m → P n s → P m s
  change : ∀ {n s s'}, lo ≤ n → P n s → Change E op lo n s s' → P n s'
  shaped : ∀ {n s}, P n s → Shaped s

theorem Stable.closed {op : Option Operation} {lo : ℕ} (h : Stable E op lo P) :
    Closed E op lo P (fun n _ d => P n d) where
  mono := h.mono
  monoStored := h.mono
  change := h.change
  written := id
  ahead := h.change
  shaped := h.shaped

/-- `P` holds in memory and in the journal. -/
abbrev Holds (P : ℕ → State → Prop) (w : InfrastructureService) : Prop :=
  Keeps P (fun n _ d => P n d) 0 w

theorem Holds.step (h : Holds P w) (hstep : Step E event w w')
    (hP : Stable E event.operation w.clock P) : Holds P w' := by
  obtain ⟨w₁, hkeeps, hgoes⟩ := Keeps.step h hstep hP.closed
  obtain ⟨hclock, hstored, hstate⟩ := hgoes.state hkeeps
  refine ⟨Nat.zero_le _, ?_, ?_, ?_⟩
  · rw [hclock]
    rcases hstate with heq | heq
    · rw [heq]
      exact hkeeps.state
    · exact hkeeps.stored _ heq
  · intro d hd
    rw [hstored] at hd
    rw [hclock]
    exact hkeeps.stored d hd
  · intro hnone
    rw [hstored] at hnone
    rcases hstate with heq | heq
    · rw [heq]
      exact hkeeps.unstored hnone
    · rw [hnone] at heq
      exact absurd heq (by simp)

/-! ## Relations between an earlier and a later state -/

/-- `Rel` relates an earlier state to a later one: no change of the operation breaks it, as long
as the state in memory satisfies `Inv`; the journal is only known to satisfy `Base`. -/
structure Advances (E : Surroundings) (op : Option Operation) (lo : ℕ) (Base Inv : State → Prop)
    (Rel : State → State → Prop) : Prop where
  shaped : ∀ {s}, Inv s → Shaped s
  base : ∀ {s}, Inv s → Base s
  inv : ∀ {n s s'}, lo ≤ n → Inv s → Change E op lo n s s' → Inv s'
  refl : ∀ s, Rel s s
  rel : ∀ {n s₀ s s'}, lo ≤ n → Inv s → Rel s₀ s → Change E op lo n s s' → Rel s₀ s'

/-- The state in memory and the journal are later than `s₀`, and the journal is not behind. -/
structure Follows (Base : State → Prop) (Rel : State → State → Prop) (s₀ : State)
    (w : InfrastructureService) : Prop where
  base : Base w.state
  rel : Rel s₀ w.state
  stored : ∀ d, w.stored = some d → Base d ∧ Rel w.state d ∧ Rel s₀ d
  unstored : w.stored = none → w.state = .default

section Advances

variable {op : Option Operation} {lo : ℕ} {Base Inv : State → Prop} {Rel : State → State → Prop}
  {s₀ : State}

theorem Advances.closed (h : Advances E op lo Base Inv Rel) :
    Closed E op lo (fun _ s => Inv s ∧ Rel s₀ s)
      (fun _ s d => Base d ∧ Rel s d ∧ Rel s₀ d) where
  mono := fun _ hs => hs
  monoStored := fun _ hd => hd
  change := fun hlo hs hc => ⟨h.inv hlo hs.1 hc, h.rel hlo hs.1 hs.2 hc⟩
  written := fun {_ s} hs => ⟨h.base hs.1, h.refl s, hs.2⟩
  ahead := fun {_ s _} hlo hs hc =>
    ⟨h.base (h.inv hlo hs.1 hc), h.rel hlo hs.1 (h.refl s) hc, h.rel hlo hs.1 hs.2 hc⟩
  shaped := fun hs => h.shaped hs.1

theorem Follows.step (h : Follows Base Rel s₀ w) (hstep : Step E event w w') (hinv : Inv w.state)
    (hadvances : Advances E event.operation w.clock Base Inv Rel) : Follows Base Rel s₀ w' := by
  have hkeeps : Keeps (fun _ s => Inv s ∧ Rel s₀ s) (fun _ s d => Base d ∧ Rel s d ∧ Rel s₀ d) 0 w :=
    ⟨Nat.zero_le _, ⟨hinv, h.rel⟩, h.stored, h.unstored⟩
  obtain ⟨w₁, hkeeps₁, hgoes⟩ := hkeeps.step hstep hadvances.closed
  obtain ⟨_, hstored, hstate⟩ := hgoes.state hkeeps₁
  rcases hstate with heq | heq
  · refine ⟨?_, ?_, ?_, ?_⟩
    · rw [heq]
      exact hadvances.base hkeeps₁.state.1
    · rw [heq]
      exact hkeeps₁.state.2
    · intro d hd
      rw [hstored] at hd
      rw [heq]
      exact hkeeps₁.stored d hd
    · intro hnone
      rw [hstored] at hnone
      rw [heq]
      exact hkeeps₁.unstored hnone
  · -- started again: memory and journal are the same state
    obtain ⟨hbase, _, hrel⟩ := hkeeps₁.stored _ heq
    refine ⟨hbase, hrel, ?_, ?_⟩
    · intro d hd
      rw [hstored, heq, Option.some.injEq] at hd
      rw [← hd]
      exact ⟨hbase, hadvances.refl _, hrel⟩
    · intro hnone
      rw [hstored, heq] at hnone
      exact absurd hnone (by simp)

theorem follows_fresh {uid gid : ℕ} (hbase : Base .default) (hrel : Rel .default .default) :
    Follows Base Rel .default (.fresh uid gid) :=
  ⟨hbase, hrel, fun _ hd => absurd hd (by simp [InfrastructureService.fresh]), fun _ => rfl⟩

/-- What follows some state follows itself: the journal is not behind the memory. -/
theorem Follows.self {w : InfrastructureService} (h : Follows Base Rel s₀ w)
    (hrefl : ∀ s, Rel s s) : Follows Base Rel w.state w :=
  ⟨h.base, hrefl _, fun d hd => ⟨(h.stored d hd).1, (h.stored d hd).2.1, (h.stored d hd).2.1⟩,
    h.unstored⟩

end Advances

/-! ## Runs that can be computed -/

/-- One action, and the restart when it is killed. When the journal cannot be read there is no
daemon to go on. -/
def stepOnce (E : Surroundings) (w : InfrastructureService) (action : Action) :
    InfrastructureService :=
  match exec E action w with
  | (.crash, w') =>
    match load w'.stored with
    | some s => w'.restart s
    | none => w
  | (_, w') => w'

/-- The steps of a computed run are steps, whatever they end in. -/
theorem steps_stepOnce {permitted : Event → InfrastructureService → InfrastructureService → Prop}
    (w : InfrastructureService) (action : Action)
    (h : ∀ event, event.operation = action.operation →
      permitted event w (stepOnce E w action)) :
    Relation.ReflTransGen (StepWhen E permitted) w (stepOnce E w action) := by
  unfold stepOnce at h ⊢
  split <;> rename_i heq
  · split <;> rename_i hload
    · rw [heq] at h
      simp only [hload] at h
      exact .single ⟨_, .killed heq hload, h _ rfl⟩
    · exact .refl
  · rename_i outcome w' hne
    rw [heq] at h
    rcases outcome with a | e | _
    · exact .single ⟨.returned action (.ok a), .returned (by rw [attempt, heq]), h _ rfl⟩
    · exact .single ⟨.returned action (.error e), .returned (by rw [attempt, heq]), h _ rfl⟩
    · exact absurd rfl hne

/-- A check of the operation and the state in front of it, at every step of a computed run. -/
def along (E : Surroundings) (check : Option Operation → State → Bool) :
    InfrastructureService → List Action → Bool
  | _, [] => true
  | w, action :: actions =>
    check action.operation w.state && along E check (stepOnce E w action) actions

theorem steps_along {permitted : Event → InfrastructureService → InfrastructureService → Prop}
    {w : InfrastructureService} (actions : List Action)
    (check : Option Operation → State → Bool)
    (hcheck : ∀ {event w w'}, check event.operation w.state = true → permitted event w w')
    (h : along E check w actions = true) :
    Relation.ReflTransGen (StepWhen E permitted) w (actions.foldl (stepOnce E) w) := by
  induction actions generalizing w with
  | nil => exact .refl
  | cons action actions ih =>
    rw [along, Bool.and_eq_true] at h
    have hfirst : Relation.ReflTransGen (StepWhen E permitted) w (stepOnce E w action) :=
      steps_stepOnce w action fun event hevent => hcheck (by rw [hevent]; exact h.1)
    exact hfirst.trans (ih h.2)

namespace Sample

/-- A host on which every call succeeds. -/
def moment : Moment where
  fate := .ok
  bootId := ""
  processes := fun _ => some { state := 'S', startTicks := 7 }
  interface := some 3
  marker := some "candy-infra-v2:"
  createdIfindex := 3
  nonce := ""
  sysctls := []
  netns := (0, 1)

/-- The same host before the device exists. -/
def bare : Moment := { moment with interface := none }

/-- The moments of a host whose device appears after the first few calls. -/
def surroundings : Surroundings where
  moment := fun n => if n < 5 then bare else moment
  declarationHash := fun _ => ""

def ident (n : UInt8) : InstanceId := Vector.replicate 16 n

def spec : InfraSpec where
  infraId := ident 1
  generation := 1
  netnsDevice := 0
  netnsInode := 1
  overlayRouterIpv4 := 0x64400001
  mtu := 1400

def owner (token : ℕ) : ForwardOwner where
  domainId := ident 2
  signedGeneration := token
  workerEpoch := 1
  fencingToken := token
  authDeadlineMonoMs := 100
  leaseDeadlineMonoMs := 100

/-- A declaration with one remote route, in `10.b.0.0/16`. -/
def declaration (b : UInt32) : PrepareDeclaration where
  tableId := 20000
  overlayRouterIpv4 := 0x64400001
  effectiveMtu := 1400
  routes := [{ ipv4Prefix := { network := 0x0a000000 + b * 0x10000, prefixLen := 16 },
               kind := .remote }]
  exclusions := [{ ipv4Prefix := { network := 0xc0000201, prefixLen := 32 }, kind := .cloudApi }]
  firewall :=
    { allowForward := true, clampTcpMss := true, requireIpv4Forwarding := true,
      manageRpFilter := true }

def peer : PeerCredentials := { uid := 0, gid := 0, pid := 5 }

/-- A request of the administrator at the time 1. -/
def ask (operation : Operation) : Action :=
  .process { requestId := 1, callerInstanceId := ident 9, callerPid := 5, operation } peer 1

/-- The infrastructure is ensured and the first owner is prepared and committed. -/
def opening : List Action :=
  [ask (.infraEnsure spec), ask (.forwardPrepare (ident 1) 1 (owner 1) (declaration 2)),
    ask (.forwardCommit (owner 1))]

end Sample

end CandyRuntime.NetdV2
