import CandyRuntime.Agent.Loop
import CandyRuntime.NetdIpc.OperationTheorems

/-!
# What the operations of the loop leave alone

The `Standing` of the agent is what its next decisions rest on: the phase of the client of netd,
who holds steering, the flags, and what was seen. Requests to Core, renewals and files do not
touch it. Steering is moved by three operations, each of which moves it only as far as it gets.
-/

namespace CandyRuntime.Agent.V1

open Lib Lib.Proc NetdProto NetdIpc
open NetdV1 (TransactionRecord exactFormat)

/-- What the agent goes by. -/
structure Standing where
  phase : ClientPhase
  generation : UInt64
  transition : HotTransitionState
  peerLossFallback : Bool
  routeIntegrityFallback : Bool
  rejectedActivation : Option String
  seen : Seen
  trace : List Event

def Runtime.standing (a : Runtime) : Standing where
  phase := a.netd.client.phase
  generation := a.netd.client.owner.generation
  transition := a.transition
  peerLossFallback := a.peerLossFallback
  routeIntegrityFallback := a.routeIntegrityFallback
  rejectedActivation := a.rejectedActivation
  seen := a.seen
  trace := a.trace

/-- One of the two flags is set. -/
def Standing.fallback (st : Standing) : Bool := st.peerLossFallback || st.routeIntegrityFallback

/-- An event is seen. -/
def Standing.sees (st : Standing) (event : Event) : Standing :=
  { st with trace := event :: st.trace }

def Standing.withSteering (st : Standing) (phase : ClientPhase) (steeringSuspended : Bool) :
    Standing :=
  { st with phase, transition := { st.transition with steeringSuspended } }

def Standing.withCore (st : Standing) (coreSuspended : Bool) : Standing :=
  { st with transition := { st.transition with coreSuspended } }

variable {α : Type} {st : Standing} {args : RuntimeArgs}

/-! ## netd -/

theorem wp_netd {m : Cl TransactionRecord α} {a : Runtime} {Q : α → Runtime → Prop}
    {E : AgentError → Runtime → Prop} {C : Runtime → Prop} :
    wp (netd m) Q E C a ↔ wp m (fun x p => Q x { a with netd := p })
      (fun e p => E (.ipc e) { a with netd := p }) (fun p => C { a with netd := p }) a.netd := by
  unfold netd wp
  rcases h : m a.netd with ⟨x | e | _, p⟩ <;> simp [h]

theorem standing_of_at {a : Runtime} {p : Parties TransactionRecord} {ph : ClientPhase} {g : UInt64}
    (h : At ph g p) :
    { a with netd := p }.standing = { a.standing with phase := ph, generation := g } := by
  obtain ⟨rfl, rfl⟩ := h
  rfl

/-- An operation that leaves the client where it is. -/
theorem steady_netd {m : Cl TransactionRecord α} (hm : Stays m) (P : Standing → Prop) :
    Preserves (fun a => P a.standing) (netd m) := by
  intro a ha
  have hstay : ∀ p, At a.netd.client.phase a.netd.client.owner.generation p →
      P { a with netd := p }.standing := by
    intro p hp
    rw [standing_of_at hp]
    exact ha
  rw [wp_netd]
  exact wp_mono (hm _ _ a.netd ⟨rfl, rfl⟩) (fun _ p hp => hstay p hp) (fun _ p hp => hstay p hp)
    fun p hp => hstay p hp

/-- An operation that moves the client if it succeeds. -/
theorem moves_netd {m : Cl TransactionRecord α} {phase : ClientPhase → ClientPhase}
    {generation : UInt64 → UInt64} (hm : Moves m phase generation) (st : Standing) :
    Triple (fun a => a.standing = st) (netd m)
      (fun _ a => a.standing
        = { st with phase := phase st.phase, generation := generation st.generation })
      (fun _ a => a.standing = st) (fun a => a.trace = st.trace) := by
  rintro a rfl
  rw [wp_netd]
  refine wp_mono (hm _ _ a.netd ⟨rfl, rfl⟩) (fun _ p hp => ?_) (fun _ p hp => ?_) fun _ _ => rfl
  · exact standing_of_at hp
  · exact standing_of_at hp

/-! ## Core -/

section Steady

variable (P : Standing → Prop)

theorem steady_moment : Preserves (fun a => P a.standing) moment := fun _ ha => ha

theorem steady_renewTransitionLease : Preserves (fun a => P a.standing) renewTransitionLease := by
  refine (steady_moment P).bind fun m => Preserves.ite ?_ (.pure _)
  refine (Preserves.okOr _ _).bind fun deadline => ?_
  exact (steady_netd stays_renewLease P).bind fun _ => .pure _

/-- By induction on the number of renewals. -/
theorem steady_renewals (n : ℕ) : Preserves (fun a => P a.standing) (renewals n) := by
  induction n with
  | zero => exact .pure _
  | succ n ih => exact (steady_renewTransitionLease P).bind fun _ => ih

theorem steady_requestCore (args : RuntimeArgs) (action : CoreReloadAction) :
    Preserves (fun a => P a.standing) (requestCore args action) := by
  have hruns : Preserves (fun a => P a.standing)
      (modify fun a => a.coreRuns args action : Ag Unit) := by
    intro a ha
    show P (a.coreRuns args action).standing
    unfold Runtime.coreRuns
    split
    · exact ha
    · exact ha
  refine (steady_moment P).bind fun m => ?_
  split
  · exact .fail _
  · exact (Preserves.when _ hruns).bind fun _ => (steady_renewals P _).bind fun _ => .lift _

theorem steady_writeFile : Preserves (fun a => P a.standing) writeFile :=
  (steady_moment P).bind fun _ => .ensure _ _

theorem steady_writeFailedActivationReceipt (args : RuntimeArgs) :
    Preserves (fun a => P a.standing) (writeFailedActivationReceipt args) :=
  (steady_moment P).bind fun _ => (Preserves.okOr _ _).bind fun _ => steady_writeFile P

theorem steady_awaitReadiness (args : RuntimeArgs) :
    Preserves (fun a => P a.standing) (awaitReadiness args) := by
  refine (steady_moment P).bind fun m => (steady_renewals P _).bind fun _ => ?_
  exact (Preserves.ensure _ _).bind fun _ => .ensure _ _

theorem steady_prepareCandidate (args : RuntimeArgs) :
    Preserves (fun a => P a.standing) (prepareCandidate args) := by
  refine (steady_requestCore P args _).bind fun _ => (steady_moment P).bind fun m => ?_
  exact (Preserves.okOr _ _).bind fun _ => .ensure _ _

/-- By induction on the retries. -/
theorem steady_drainOldBounded (n : ℕ) :
    Preserves (fun a => P a.standing) (drainOldBounded n) := by
  have hdrain : ∀ now, Preserves (fun a => P a.standing)
      (do let _ ← netd (drainOld exactFormat now) : Ag Unit) :=
    fun now => (steady_netd stays_drainOld P).bind fun _ => .pure _
  induction n with
  | zero => exact (steady_moment P).bind fun m => hdrain m.nowMonoMs
  | succ n ih =>
    exact (steady_moment P).bind fun m =>
      (hdrain m.nowMonoMs).handle fun e => .ite ih (.fail _)

theorem steady_drain : Preserves (fun a => P a.standing) drain :=
  (steady_moment P).bind fun m => steady_drainOldBounded P m.drains

theorem steady_commitReplacement :
    Preserves (fun a => P a.standing) (do let _ ← netd (commitReplacement exactFormat) : Ag Unit) :=
  (steady_netd stays_commitReplacement P).bind fun _ => .pure _

end Steady

/-! ## Steering -/

/-- An operation whose error leaves everything as it was. -/
theorem triple_of_steady {m : Ag α}
    (hm : ∀ P : Standing → Prop, Preserves (fun a => P a.standing) m)
    (st : Standing) :
    Triple (fun a => a.standing = st) m (fun _ a => a.standing = st) (fun _ a => a.standing = st)
      (fun a => a.trace = st.trace) := by
  intro a ha
  exact wp_mono (hm (· = st) a ha) (fun _ _ h => h) (fun _ _ h => h) fun _ h => congrArg Standing.trace h

theorem suspendSteering_standing (st : Standing) :
    Triple (fun a => a.standing = st) suspendSteering
      (fun _ a => a.standing = st.withSteering .suspended true)
      (fun _ a => a.standing = st) (fun a => a.trace = st.trace) := by
  refine Triple.bind (moves_netd moves_suspend st) fun _ => ?_
  intro a ha
  show a.standing.withSteering a.standing.phase true = _
  rw [ha]
  rfl

theorem suspendCore_standing (st : Standing) :
    Triple (fun a => a.standing = st) (suspendCore args) (fun _ a => a.standing = st.withCore true)
      (fun _ a => a.standing = st) (fun a => a.trace = st.trace) := by
  refine Triple.bind (triple_of_steady (fun P => steady_moment P) st) fun m => ?_
  refine Triple.okOr_bind (fun exited _ => ?_) fun _ ha => ha
  refine Triple.bind (triple_of_steady
    (fun P => Preserves.when _ (steady_requestCore P args .suspend)) st) fun _ => ?_
  intro a ha
  show a.standing.withCore true = _
  rw [ha]

/-- The standing after fallback is entered. -/
def Standing.entered (st : Standing) : Standing :=
  { st with
    phase := if st.transition.steeringSuspended then st.phase else .suspended
    transition := ⟨true, true⟩ }

/-- Fallback is entered as far as it goes: steering first, then Core. -/
theorem enterProxyFallback_standing (st : Standing) :
    Triple (fun a => a.standing = st) (enterProxyFallback args)
      (fun _ a => a.standing = st.entered)
      (fun _ a => a.standing = st ∨ a.standing = st.withSteering .suspended true)
      (fun a => a.trace = st.trace) := by
  obtain ⟨phase, generation, ⟨core, steering⟩, peerLoss, routeIntegrity, rejected, seen, trace⟩ := st
  intro a ha
  have ht : a.transition = ⟨core, steering⟩ := congrArg Standing.transition ha
  rw [enterProxyFallback, wp_bind, wp_get, ht]
  cases steering with
  | false =>
    refine Triple.bind (Triple.when (fun _ => Triple.conseq (suspendSteering_standing _)
      (fun _ h => h) (fun _ _ h => h) (fun _ _ h => .inl h) fun _ h => h)
      fun h => absurd rfl h) (fun _ => ?_) a ha
    refine Triple.when (fun _ => ?_) fun hcore a ha => ?_
    · exact Triple.conseq (suspendCore_standing _) (fun _ h => h) (fun _ _ h => h)
        (fun _ _ h => .inr h) fun _ h => h
    · rw [ha, show core = true by simpa using hcore]
      rfl
  | true =>
    rw [wp_bind, wp_when]
    refine ⟨nofun, fun _ => ?_⟩
    refine Triple.when (P := (·.standing = _)) (fun _ => ?_) (fun hcore a ha => ?_) a ha
    · exact Triple.conseq (suspendCore_standing _) (fun _ h => h) (fun _ _ h => h)
        (fun _ _ h => .inl h) fun _ h => h
    · rw [ha, show core = true by simpa using hcore]
      rfl

/-- netd gives steering back, or Core may be suspended again. -/
theorem resumeSteering_standing (st : Standing) :
    Triple (fun a => a.standing = st) (resumeSteering args)
      (fun _ a => a.standing = (st.withSteering .active false).sees .resumed)
      (fun _ a => a.standing = st ∨ a.standing = st.withCore true) (fun a => a.trace = st.trace) := by
  have hagain : ∀ e, Triple (fun a => a.standing = st)
      (do let again ← errorOf (requestCore args .suspend)
          when (again = none) (setCoreSuspended true)
          fail e : Ag UInt64) (fun _ _ => False)
      (fun _ a => a.standing = st ∨ a.standing = st.withCore true) (fun a => a.trace = st.trace) := by
    intro e
    refine Triple.bind (triple_of_steady
      (fun P => (steady_requestCore P args .suspend).errorOf) st |>.conseq (fun _ h => h)
      (fun _ _ h => h) (fun _ _ h => .inl h) fun _ h => h) fun again a ha => ?_
    rw [wp_bind, wp_when]
    refine ⟨fun _ => .inr ?_, fun _ => .inl ha⟩
    show a.standing.withCore true = _
    rw [ha]
  refine Triple.bind (Triple.handle (moves_netd moves_resume st) fun e => ?_) fun _ => ?_
  · exact Triple.conseq (hagain e) (fun _ h => h) (fun _ _ h => h.elim) (fun _ _ h => h)
      fun _ h => h
  · intro a ha
    show (a.standing.withSteering a.standing.phase false).sees .resumed = _
    rw [ha]
    rfl

/-- The standing after fallback is left. -/
def Standing.left (st : Standing) : Standing :=
  if st.transition.steeringSuspended then
    ((st.withCore false).withSteering .active false).sees .resumed
  else st.withCore false

/-- Core gives up its suspension, then netd. -/
theorem resumeBoth_standing (st : Standing) :
    Triple (fun a => a.standing = st)
      (do when (st.transition.coreSuspended = true) (do
            requestCore args .resume
            setCoreSuspended false)
          when (st.transition.steeringSuspended = true) (resumeSteering args))
      (fun _ a => a.standing = st.left) (fun _ a => ∃ core, a.standing = st.withCore core)
      (fun a => a.trace = st.trace) := by
  have hcore : Triple (fun a => a.standing = st)
      (when (st.transition.coreSuspended = true) (do
        requestCore args .resume
        setCoreSuspended false)) (fun _ a => a.standing = st.withCore false)
      (fun _ a => ∃ core, a.standing = st.withCore core) (fun a => a.trace = st.trace) := by
    refine Triple.when (fun _ => ?_) fun h a ha => ?_
    · refine Triple.bind (Triple.conseq
        (triple_of_steady (fun P => steady_requestCore P args .resume) st) (fun _ h => h)
        (fun _ _ h => h) (fun _ a h => ⟨st.transition.coreSuspended, h⟩) fun _ h => h)
        fun _ a ha => ?_
      show a.standing.withCore false = _
      rw [ha]
    · have hfalse : st.transition.coreSuspended = false := by simpa using h
      rw [ha, Standing.withCore, ← hfalse]
  refine Triple.bind hcore fun _ => Triple.when (fun h => ?_) fun h a ha => ?_
  · refine Triple.conseq (resumeSteering_standing (st.withCore false)) (fun _ h => h)
      (fun _ a h' => ?_) (fun _ a h' => ?_) fun _ h => h
    · rw [h', Standing.left, if_pos h]
    · rcases h' with h' | h'
      · exact ⟨false, h'⟩
      · exact ⟨true, h'⟩
  · rw [ha, Standing.left, if_neg h]

/-- Fallback is left as far as it goes. -/
theorem leaveProxyFallback_standing (st : Standing) :
    Triple (fun a => a.standing = st) (leaveProxyFallback args)
      (fun _ a => ∃ netd, a.standing = (st.sees (.leaves args st.transition netd)).left)
      (fun _ a => ∃ netd core,
        a.standing = (st.sees (.leaves args st.transition netd)).withCore core)
      (fun a => ∃ netd, a.trace = .leaves args st.transition netd :: st.trace) := by
  rintro a rfl
  rw [leaveProxyFallback, wp_bind, wp_get, wp_bind, log, wp_modify]
  let leaves := Event.leaves args a.transition (retained a.netd)
  refine wp_mono (resumeBoth_standing (a.standing.sees leaves) _ rfl) (fun _ a' h => ⟨_, h⟩)
    (fun _ a' h => ?_) fun _ h => ⟨_, h⟩
  obtain ⟨core, h⟩ := h
  exact ⟨_, core, h⟩

/-! ## Steps of a hot replacement -/

/-- How a step ends is seen at once. -/
theorem step_triple {m : Ag α} {stage : Stage} {suspended : Bool} {P : Runtime → Prop}
    {Q R : α → Standing → Prop} {E F : AgentError → Standing → Prop} {C : Runtime → Prop}
    (hm : Triple P m (fun x a => Q x a.standing) (fun e a => E e a.standing) C)
    (hok : ∀ x st, Q x st → R x (st.sees (.hot stage suspended st.fallback true)))
    (herr : ∀ e st, E e st → F e (st.sees (.hot stage suspended st.fallback false))) :
    Triple P (step stage suspended m) (fun x a => R x a.standing) (fun e a => F e a.standing)
      C := by
  have hmid : Triple P (handle m fun e => do
      log fun a => .hot stage suspended a.fallback false
      fail e) (fun x a => Q x a.standing) (fun e a => F e a.standing) C :=
    Triple.handle hm fun e a ha => herr e a.standing ha
  exact Triple.bind hmid fun x a ha => hok x a.standing ha

end CandyRuntime.Agent.V1
