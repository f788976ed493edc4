import CandyRuntime.Agent.LoopTheorems

/-!
# A discarded replacement stops the old activation

A replacement that netd has staged beside the running declaration is discarded with `Rollback`,
for which the client, the session and the transaction of netd each have a meaning of their own. The
transaction drops the candidate alone, but the client takes itself for stopped, so the running
activation is not served any more: its next renewal, suspension or policy update is refused by the
client itself (`discard_never_keeps_serving`).
-/

namespace CandyRuntime.Agent.V1

open Lib Lib.Proc NetdProto NetdIpc
open NetdV1 (TransactionRecord exactFormat)

/-- There are deliveries with which the operation succeeds. -/
def Accepts (m : Cl TransactionRecord UInt64) (p : Parties TransactionRecord) : Prop :=
  ∃ deliveries generation p', m { p with deliveries } = (.ok generation, p')

/-- netd goes on serving an activation: the client, the session and the transaction are active for
it, and its next renewal, suspension and policy update can be accepted. -/
structure Serving (current : RuntimeArgs) (owner : LeaseOwner) (p : Parties TransactionRecord) :
    Prop where
  phase : p.client.phase = .active
  generation : p.client.owner.generation = current.generation
  owner : p.client.owner.instanceId = owner.instanceId ∧ p.client.owner.pid = owner.pid
  session : ∀ s ∈ p.daemon, s.session.phase = .active ∧ s.session.declaration = current.declaration
  transaction : ∃ s ∈ p.daemon, ∃ r ∈ s.network.record, r.phase = .active
    ∧ current.declaration = some r.declaration
  renewal : ∃ deadline, Accepts (renewLease exactFormat deadline) p
  suspension : Accepts (suspend exactFormat) p
  policyUpdate : ∀ d ∈ current.declaration, Accepts (updatePolicy exactFormat d) p

/-- How often netd has staged a replacement. -/
def staged : List Event → ℕ
  | [] => 0
  | .hot .declare false _ true :: earlier => staged earlier + 1
  | _ :: earlier => staged earlier

/-- netd has staged this many replacements. -/
def Kept (n : ℕ) (a : Runtime) : Prop := staged a.trace = n

/-- Either nothing has been staged since, or the client takes itself for stopped. -/
def Discarded (n : ℕ) (st : Standing) : Prop := staged st.trace = n ∨ st.phase = .stopped

variable {n : ℕ} {args current replacement : RuntimeArgs} {suspended : Bool}

/-- A step that is not the declaration is not a staging. -/
theorem kept_step {α : Type} {m : Ag α} {stage : Stage} (hstage : stage ≠ .declare)
    (hm : ∀ P : Standing → Prop, Preserves (fun a => P a.standing) m) :
    Triple (Kept n) (step stage suspended m) (fun _ => Kept n)
      (fun _ => Kept n) (fun _ => True) := by
  have hseen : ∀ (st : Standing) (fallback ok : Bool),
      staged (st.sees (.hot stage suspended fallback ok)).trace = staged st.trace := by
    intro st fallback ok
    cases stage <;> first | rfl | exact absurd rfl hstage
  have hsteady : Triple (fun a : Runtime => staged a.standing.trace = n) m
      (fun _ a => staged a.standing.trace = n) (fun _ a => staged a.standing.trace = n)
      (fun _ => True) := by
    intro a ha
    exact wp_mono (hm (fun st => staged st.trace = n) a ha) (fun _ _ h => h) (fun _ _ h => h)
      fun _ _ => trivial
  exact step_triple (Q := fun _ st => staged st.trace = n) (R := fun _ st => staged st.trace = n)
    (E := fun _ st => staged st.trace = n) (F := fun _ st => staged st.trace = n) hsteady
    (fun _ st h => (hseen st _ _).trans h) fun _ st h => (hseen st _ _).trans h

/-- Once Core is asked to commit, the replacement is not given up as if nothing had happened. -/
theorem commitCandidate_result :
    Triple (fun _ => True) (commitCandidate replacement suspended) (fun b _ => b = true)
      (fun e _ => e ≠ .preparationPending) (fun _ => True) := by
  have hany : ∀ {α : Type} (m : Ag α), Triple (fun _ => True) m (fun _ _ => True) (fun _ _ => True)
      (fun _ => True) := by
    intro α m a _
    unfold wp
    split <;> trivial
  have happlied : ∀ {α : Type} (m : Ag α), Triple (fun _ => True) (orApplied m) (fun _ _ => True)
      (fun e _ => e ≠ .preparationPending) (fun _ => True) :=
    fun m => Triple.mapError (hany m) fun _ _ _ => nofun
  have hgive : Triple (fun _ => True) (giveUpReplacement suspended) (fun b _ => b = true)
      (fun e _ => e ≠ .preparationPending) (fun _ => True) :=
    Triple.bind (Triple.when (fun _ => happlied _) fun _ _ _ => trivial) fun _ =>
      Triple.fail fun _ _ => nofun
  have hwrite : Triple (fun _ => True) (step .receipt suspended writeFile) (fun _ _ => True)
      (fun e _ => e ≠ .preparationPending) (fun _ => True) := by
    have hfile : Triple (fun _ => True) writeFile (fun _ _ => True)
        (fun e _ => e ≠ .preparationPending) (fun _ => True) := by
      intro a _
      rw [writeFile, wp_bind]
      show wp (ensure _ _) _ _ _ _
      rw [wp_ensure]
      exact ⟨fun _ => trivial, fun _ => nofun⟩
    exact step_triple (Q := fun _ _ => True) (R := fun _ _ => True)
      (E := fun e _ => e ≠ .preparationPending) (F := fun e _ => e ≠ .preparationPending) hfile
      (fun _ _ h => h) fun _ _ h => h
  have hfinish : Triple (fun _ => True) (finishReplacement replacement suspended)
      (fun b _ => b = true) (fun e _ => e ≠ .preparationPending) (fun _ => True) := by
    refine Triple.bind (Q := fun _ _ => True) ?_ fun _ => ?_
    · exact Triple.ite (fun _ => happlied _) fun _ => happlied _
    · refine Triple.bind hwrite fun _ => Triple.bind (happlied _) fun _ => ?_
      intro a _
      rfl
  have hrebind : Triple (fun _ => True) (rebindReplacement replacement suspended)
      (fun b _ => b = true) (fun e _ => e ≠ .preparationPending) (fun _ => True) := by
    refine Triple.bind (Q := fun _ _ => True) (fun _ _ => trivial) fun m => ?_
    refine Triple.ite (fun _ => hfinish) fun _ => ?_
    refine Triple.bind (Q := fun _ _ => True) (fun _ _ => trivial) fun _ => ?_
    exact Triple.ite (fun _ => Triple.fail fun _ _ => nofun) fun _ => hgive
  refine Triple.bind (happlied _) fun _ => ?_
  have hpromote : Triple (fun _ => True)
      (when (suspended = false)
        (step .promote suspended (do let _ ← netd (commitReplacement exactFormat))))
      (fun _ _ => True) (fun e _ => e ≠ .preparationPending) (fun _ => True) := by
    refine Triple.when (fun _ => ?_) fun _ _ _ => trivial
    refine step_triple (Q := fun _ _ => True) (R := fun _ _ => True)
      (E := fun e _ => e ≠ .preparationPending) (F := fun e _ => e ≠ .preparationPending) ?_
      (fun _ _ h => h) fun _ _ h => h
    refine Triple.bind (Q := fun _ _ => True) (fun a _ => ?_) fun _ _ _ => trivial
    rw [wp_netd]
    unfold wp
    split
    · trivial
    · exact nofun
    · trivial
  refine Triple.bind hpromote fun _ => ?_
  exact Triple.attempt_bind (hany _) (fun _ => hrebind) fun _ => hgive

/-- The discard of a staged replacement stops the client. -/
theorem discardCandidate_stops {previous : PrepareDeclaration} :
    Triple (fun _ => True) (discardCandidate current previous false)
      (fun _ a => a.netd.client.phase = .stopped) (fun e _ => e ≠ .preparationPending)
      (fun _ => True) := by
  intro a _
  rw [discardCandidate, if_neg (by decide), wp_bind, wp_netd]
  refine wp_mono (moves_rollback _ _ a.netd ⟨rfl, rfl⟩) (fun _ p hp => hp.1) (fun _ _ _ => nofun)
    fun _ _ => trivial

theorem bindCandidate_discarded {previous : PrepareDeclaration} :
    Triple (fun _ => True) (bindCandidate current replacement previous false)
      (fun b a => b = false → a.netd.client.phase = .stopped)
      (fun e a => e = .preparationPending → a.netd.client.phase = .stopped) (fun _ => True) := by
  refine Triple.bind (Q := fun _ _ => True) (fun _ _ => trivial) fun m => ?_
  refine Triple.bind (Q := fun _ _ => True) (fun a _ => ?_) fun removed => ?_
  · rw [wp_errorOf]
    unfold wp
    split <;> trivial
  refine Triple.ite (fun _ => ?_) fun _ => ?_
  · exact Triple.conseq commitCandidate_result (fun _ h => h) (fun b _ h hf => by simp [h] at hf)
      (fun e _ h he => absurd he h) fun _ h => h
  refine Triple.bind (Q := fun _ _ => True) (fun _ _ => trivial) fun _ => ?_
  refine Triple.bind (Triple.conseq discardCandidate_stops (fun _ h => h) (fun _ _ h => h)
    (fun e _ h he => absurd he h) fun _ h => h) fun _ => ?_
  exact Triple.ite (fun _ => Triple.fail fun _ h _ => h) fun _ => Triple.pure fun _ h _ => h

/-- A candidate that is refused at once. -/
theorem refuse_discarded :
    Triple (Kept n)
      (do log fun a => .hot .admission false a.fallback false
          step .files false (writeFailedActivationReceipt replacement)
          return false : Ag Bool)
      (fun _ => Kept n) (fun _ => Kept n) (fun _ => True) := by
  refine Triple.bind (Q := fun _ => Kept n) (fun _ ha => ha) fun _ => ?_
  exact Triple.bind (kept_step nofun fun P => steady_writeFailedActivationReceipt P replacement)
    fun _ => Triple.pure fun _ h => h

/-- The declaration of the candidate is handed to netd. -/
theorem declareCandidate_staged {new : PrepareDeclaration} {deadline : UInt64} :
    Triple (Kept n)
      (step .declare false (declareCandidate replacement new deadline false))
      (fun _ _ => True) (fun _ => Kept n) (fun _ => True) := by
  refine step_triple (Q := fun _ _ => True) (R := fun _ _ => True)
    (E := fun _ st => staged st.trace = n) (F := fun _ st => staged st.trace = n) ?_
    (fun _ _ h => h) fun _ _ h => h
  intro a ha
  rw [declareCandidate, if_neg (by decide)]
  exact wp_mono (moves_netd moves_prepareReplacementWithOwner a.standing a rfl)
    (fun _ _ _ => trivial) (fun _ a' h => by rw [h]; exact ha) fun _ _ => trivial

theorem refusePreparation_kept {e : AgentError} :
    Triple (Kept n) (refusePreparation replacement e)
      (fun _ => Kept n) (fun _ => Kept n) (fun _ => True) := by
  refine Triple.bind (Q := fun _ => Kept n) (fun _ ha => ha) fun m => ?_
  refine Triple.ite (fun _ => Triple.fail fun _ h => h) fun _ => ?_
  refine Triple.bind (Q := fun _ => Kept n) (fun a ha => ?_) fun _ =>
    Triple.pure fun _ h => h
  exact wp_mono ((steady_writeFailedActivationReceipt (fun st => staged st.trace = n)
    replacement).ignore a ha) (fun _ _ h => h) (fun _ _ h => h) fun _ _ => trivial

theorem refuseDeclaration_kept {e : AgentError} :
    Triple (Kept n) (refuseDeclaration current replacement false e)
      (fun _ => Kept n) (fun _ => Kept n) (fun _ => True) := by
  refine Triple.bind (Q := fun _ => Kept n) (Triple.when (fun h => nomatch h) fun _ _ h => h)
    fun _ => ?_
  refine Triple.bind (Q := fun _ => Kept n) (fun _ ha => ha) fun m => ?_
  refine Triple.ite (fun _ => Triple.fail fun _ h => h) fun _ => ?_
  exact Triple.bind (kept_step nofun fun P => steady_writeFailedActivationReceipt P replacement)
    fun _ => Triple.pure fun _ h => h

/-- With steering in place, a replacement that ends before the commit of Core has not been staged,
or has stopped the client. -/
theorem replaceActivation_discarded {previous new : PrepareDeclaration} :
    Triple (Kept n)
      (replaceActivation current replacement previous new false)
      (fun b a => b = false → Discarded n a.standing)
      (fun e a => e = .preparationPending → Discarded n a.standing) (fun _ => True) := by
  have hkept : ∀ {m : Ag Bool}, Triple (Kept n) m
      (fun _ => Kept n) (fun _ => Kept n) (fun _ => True) →
      Triple (Kept n) m (fun b a => b = false → Discarded n a.standing)
        (fun e a => e = .preparationPending → Discarded n a.standing) (fun _ => True) :=
    fun h => Triple.conseq h (fun _ h => h) (fun _ _ h _ => .inl h) (fun _ _ h _ => .inl h)
      fun _ h => h
  refine Triple.bind (Triple.conseq (kept_step nofun steady_writeFile) (fun _ h => h)
    (fun _ _ h => h) (fun _ _ h _ => .inl h) fun _ h => h) fun _ => ?_
  refine Triple.attempt_bind (kept_step nofun fun P => steady_prepareCandidate P replacement)
    (fun _ => ?_) fun e => hkept refusePreparation_kept
  refine Triple.bind (Q := fun _ => Kept n) (fun _ ha => ha) fun m => ?_
  refine Triple.bind (Triple.conseq (kept_step nofun fun P => Preserves.okOr _ _) (fun _ h => h)
    (fun _ _ h => h) (fun _ _ h _ => .inl h) fun _ h => h) fun deadline => ?_
  refine Triple.attempt_bind declareCandidate_staged (fun _ => ?_) fun e =>
    hkept refuseDeclaration_kept
  exact Triple.conseq bindCandidate_discarded (fun _ h => h) (fun _ _ h hb => .inr (h hb))
    (fun _ _ h he => .inr (h he)) fun _ h => h

theorem hotReplaceActivation_discarded :
    Triple (fun a => staged a.trace = n ∧ a.transition.steeringSuspended = false)
      (hotReplaceActivation current replacement)
      (fun b a => b = false → Discarded n a.standing)
      (fun e a => e = .preparationPending → Discarded n a.standing) (fun _ => True) := by
  rintro a ⟨hn, hsteering⟩
  have hsuspended : a.transition.complete = false := by
    simp [HotTransitionState.complete, hsteering]
  have hrefuse : Triple (Kept n)
      (do log fun a => .hot .admission false a.fallback false
          step .files false (writeFailedActivationReceipt replacement)
          return false : Ag Bool)
      (fun b a => b = false → Discarded n a.standing)
      (fun e a => e = .preparationPending → Discarded n a.standing) (fun _ => True) :=
    Triple.conseq refuse_discarded (fun _ h => h) (fun _ _ h _ => .inl h) (fun _ _ h _ => .inl h)
      fun _ h => h
  rw [hotReplaceActivation, wp_bind, wp_get, wp_bind, log, wp_modify, hsuspended, wp_ite]
  refine ⟨fun _ => hrefuse _ hn, fun _ => ?_⟩
  have hdeclaration : Triple (Kept n) (step .files false (okOr current.declaration .io))
      (fun _ => Kept n) (fun e a => e = .preparationPending → Discarded n a.standing)
      (fun _ => True) :=
    Triple.conseq (kept_step (fun h => by cases h) fun P => Preserves.okOr _ _) (fun _ h => h)
      (fun _ _ h => h) (fun _ _ h _ => .inl h) fun _ h => h
  refine Triple.bind hdeclaration (fun previous => ?_) _ hn
  cases replacement.declaration with
  | none => exact hrefuse
  | some new => exact replaceActivation_discarded

/-- A replacement that is discarded after netd has staged it, with steering in place, never leaves
the current activation served. -/
theorem discard_never_keeps_serving {current replacement : RuntimeArgs} {a a' : Runtime}
    {outcome : Outcome AgentError Bool} (hsteering : a.transition.steeringSuspended = false)
    (hrun : hotReplaceActivation current replacement a = (outcome, a'))
    (hdiscard : outcome = .ok false ∨ outcome = .err .preparationPending)
    (hstaged : staged a.trace < staged a'.trace) :
    ¬ Serving current a.netd.client.owner a'.netd := by
  intro hserving
  have hspec : wp (hotReplaceActivation current replacement)
      (fun b a' => b = false → Discarded (staged a.trace) a'.standing)
      (fun e a' => e = .preparationPending → Discarded (staged a.trace) a'.standing)
      (fun _ => True) a := hotReplaceActivation_discarded a ⟨rfl, hsteering⟩
  have hdiscarded : Discarded (staged a.trace) a'.standing := by
    unfold wp at hspec
    rw [hrun] at hspec
    rcases hdiscard with rfl | rfl
    · exact hspec rfl
    · exact hspec rfl
  rcases hdiscarded with hkept | hstopped
  · exact absurd hkept (Nat.ne_of_gt hstaged)
  · exact absurd (hserving.phase.symm.trans hstopped) nofun

namespace Sample

open NetdV1.Sample

/-- A moment in which everything goes well. -/
def moment : Moment where
  renewalDue := false
  leaseDeadlineMonoMs := some 200
  nowMonoMs := 5000
  nowUnix := 0
  retryDue := true
  link := some (some "b")
  candidate := none
  core := .sent true .ok
  renewals := 0
  drains := 0
  bound := some true
  shutdown := false
  exited := some false
  file := true
  transient := false
  visible := true
  readiness := some (some .ready)
  graceOver := false
  routes := some none

/-- An activation of this generation. -/
def activation (target : String) (generation : UInt64) (declaration : PrepareDeclaration) :
    RuntimeArgs where
  generation := generation
  coreRole := .clientSdwan
  target := some target
  descriptor := some ⟨generation, 0, 0⟩
  declaration := some declaration

/-- The agent runs `a`, which netd has committed. -/
def runtime (moments : ℕ → Moment) : Runtime where
  netd :=
    { client := { owner, nextRequestId := some 4, phase := .active }
      peer := peer
      daemon := some (service [.prepare declaration, .commit])
      deliveries := fun _ => .replied NetdIpc.Sample.circumstances }
  core := 3
  args := activation "a" 3 declaration
  transition := ⟨false, false⟩
  peerLossFallback := false
  routeIntegrityFallback := false
  rejectedActivation := none
  preparationRetryTarget := none
  pendingPolicy := none
  pendingReceipt := none
  lastFailedPrefixes := none
  seen := .other
  moments := moments
  trace := []

/-- The candidate `b` is withdrawn once netd has staged it. -/
def withdrawnEarly : Runtime :=
  runtime fun n => if n = 4 then { moment with bound := some false } else moment

def next : RuntimeArgs := activation "b" 4 NetdV1.Sample.replacement

theorem withdrawnEarly_discarded :
    (hotReplaceActivation withdrawnEarly.args next withdrawnEarly).1 = .ok false
      ∧ staged (hotReplaceActivation withdrawnEarly.args next withdrawnEarly).2.trace = 1 := by
  decide +kernel

end Sample

theorem withdrawnEarly_not_serving :
    ¬ Serving Sample.withdrawnEarly.args Sample.withdrawnEarly.netd.client.owner
      (hotReplaceActivation Sample.withdrawnEarly.args Sample.next Sample.withdrawnEarly).2.netd := by
  have hrun := Sample.withdrawnEarly_discarded
  refine discard_never_keeps_serving rfl Prod.mk.eta.symm (.inl hrun.1) ?_
  rw [hrun.2]
  decide

/-- The candidate is withdrawn between the two looks at it. Every call of netd succeeds, and the
client that was active is stopped. -/
theorem withdrawnEarly_stops :
    Sample.withdrawnEarly.netd.client.phase = .active
      ∧ Sample.withdrawnEarly.transition.steeringSuspended = false
      ∧ (hotReplaceActivation Sample.withdrawnEarly.args Sample.next Sample.withdrawnEarly).1
        = .ok false
      ∧ ¬ Serving Sample.withdrawnEarly.args Sample.withdrawnEarly.netd.client.owner
        (hotReplaceActivation Sample.withdrawnEarly.args Sample.next
          Sample.withdrawnEarly).2.netd := by
  refine ⟨rfl, rfl, Sample.withdrawnEarly_discarded.1, fun h => ?_⟩
  have hphase : (hotReplaceActivation Sample.withdrawnEarly.args Sample.next
      Sample.withdrawnEarly).2.netd.client.phase = .stopped := by decide +kernel
  exact absurd (h.phase.symm.trans hphase) nofun

end CandyRuntime.Agent.V1
