import CandyRuntime.Agent.Registration
import Mathlib.Logic.Relation

/-!
# A listener registration goes forward

`Forward` is what a publication may change: the epochs and generations only grow, and within one
epoch the process stays. It is a preorder, so what one publication keeps, a sequence of them keeps.

The phase is the exception. A prepared publication leaves a committed registration alone only when
nothing else differs, so that a restarted master, other paths or another deadline are still
published.
-/

namespace CandyRuntime.Agent

open Lib Lib.Proc NetdProto Tunio

variable {domain : InstanceId} {r : Registration}

/-! ## The order -/

/-- The registration `b` may come after `a`. -/
structure Forward (a b : Registration) : Prop where
  workerEpoch : a.workerEpoch ≤ b.workerEpoch
  policyGeneration : a.policyGeneration ≤ b.policyGeneration
  process : a.workerEpoch = b.workerEpoch →
    a.workerId = b.workerId ∧ a.pid = b.pid ∧ a.processStartTicks = b.processStartTicks
  policyRevision : a.workerEpoch = b.workerEpoch → a.policyRevision ≤ b.policyRevision
  authorization : a.workerEpoch = b.workerEpoch → a.policyRevision = b.policyRevision →
    a.authorizationSha256 = b.authorizationSha256

theorem Forward.refl (a : Registration) : Forward a a where
  workerEpoch := Nat.le_refl _
  policyGeneration := Nat.le_refl _
  process _ := ⟨rfl, rfl, rfl⟩
  policyRevision _ := Nat.le_refl _
  authorization _ _ := rfl

theorem Forward.trans {a b c : Registration} (hab : Forward a b) (hbc : Forward b c) :
    Forward a c := by
  have hepoch := hab.workerEpoch
  have hepoch' := hbc.workerEpoch
  -- Equal epochs at the ends leave no room for another one in between.
  have hbetween : a.workerEpoch = c.workerEpoch →
      a.workerEpoch = b.workerEpoch ∧ b.workerEpoch = c.workerEpoch := by
    intro h
    omega
  refine ⟨by omega, Nat.le_trans hab.policyGeneration hbc.policyGeneration, ?_, ?_, ?_⟩
  · intro h
    obtain ⟨hab', hbc'⟩ := hbetween h
    have hfirst := hab.process hab'
    have hsecond := hbc.process hbc'
    exact ⟨hfirst.1.trans hsecond.1, hfirst.2.1.trans hsecond.2.1, hfirst.2.2.trans hsecond.2.2⟩
  · intro h
    obtain ⟨hab', hbc'⟩ := hbetween h
    exact Nat.le_trans (hab.policyRevision hab') (hbc.policyRevision hbc')
  · intro h hrevision
    obtain ⟨hab', hbc'⟩ := hbetween h
    have hfirst := hab.policyRevision hab'
    have hsecond := hbc.policyRevision hbc'
    exact (hab.authorization hab' (by omega)).trans (hbc.authorization hbc' (by omega))

/-- What is not stale comes after, and agrees with the current one on a shared revision. -/
theorem forward_of_not_stale {current proposed : Registration}
    (h : staleRegistration current proposed = false) :
    Forward current proposed
      ∧ (current.workerEpoch = proposed.workerEpoch →
        current.policyRevision = proposed.policyRevision →
        current.policyGeneration = proposed.policyGeneration
          ∧ current.routingDomainId = proposed.routingDomainId) := by
  unfold staleRegistration at h
  simp only [Bool.or_eq_false_iff, Bool.and_eq_false_iff, decide_eq_false_iff_not, Nat.not_lt,
    Bool.not_eq_false', Bool.and_eq_true, beq_iff_eq, beq_eq_false_iff_ne, bne_eq_false_iff_eq] at h
  obtain ⟨⟨⟨hepoch, howner⟩, hgeneration⟩, hrevision⟩ := h
  have hsame : current.workerEpoch = proposed.workerEpoch →
      ((((current.workerEpoch = proposed.workerEpoch ∧ current.workerId = proposed.workerId)
        ∧ current.pid = proposed.pid) ∧ current.processStartTicks = proposed.processStartTicks)
        ∧ current.routingDomainId = proposed.routingDomainId) := by
    intro heq
    rcases howner with hne | hsame
    · exact absurd heq hne
    · exact hsame
  have hordered : current.workerEpoch = proposed.workerEpoch →
      current.policyRevision ≤ proposed.policyRevision
        ∧ (current.policyRevision ≠ proposed.policyRevision
          ∨ (current.policyGeneration = proposed.policyGeneration
            ∧ current.authorizationSha256 = proposed.authorizationSha256)) := by
    intro heq
    have hall := hsame heq
    rcases hrevision with hne | hordered
    · tauto
    · exact hordered
  refine ⟨⟨hepoch, hgeneration, fun heq => ?_, fun heq => (hordered heq).1, fun heq hrev => ?_⟩,
    fun heq hrev => ?_⟩
  · obtain ⟨⟨⟨⟨-, hworker⟩, hpid⟩, hticks⟩, -⟩ := hsame heq
    exact ⟨hworker, hpid, hticks⟩
  · rcases (hordered heq).2 with hne | hequal
    · exact absurd hrev hne
    · exact hequal.2
  · rcases (hordered heq).2 with hne | hequal
    · exact absurd hrev hne
    · exact ⟨hequal.1, (hsame heq).2⟩

/-! ## One publication -/

section Publication

variable {s : Option Registration}

/-- A registration that a publication for the domain has put into the file. -/
structure Written (domain : InstanceId) (r : Registration) : Prop where
  schemaVersion : r.schemaVersion = 1
  domain : r.routingDomainId = domain

/-- What the file can hold after a publication: what it held, or a registration that passed the
three predicates. -/
inductive Replaces (domain : InstanceId) (s : Option Registration) : Option Registration → Prop where
  | kept : Replaces domain s s
  | replaced (r : Registration) (hwritten : Written domain r)
      (hdiffers : ∀ current, s = some current → isCommittedEquivalent current r = false)
      (hfresh : ∀ current, s = some current → staleRegistration current r = false) :
      Replaces domain s (some r)

/-- However the program ends, the file holds what a publication may leave. -/
def Publishing (domain : InstanceId) (s : Option Registration) {α : Type} (m : Publish α) : Prop :=
  Triple (· = s) m (fun _ => Replaces domain s) (fun _ => Replaces domain s) (Replaces domain s)

theorem kept_verifyActivation (around : Surroundings) (expected : Registration)
    (I : Option Registration → Prop) : Preserves I (verifyActivation around expected) := by
  unfold verifyActivation
  refine Preserves.bind (Preserves.okOr _ _) fun _ => ?_
  refine Preserves.bind (Preserves.ensure _ _) fun _ => ?_
  refine Preserves.bind (Preserves.okOr _ _) fun _ => ?_
  refine Preserves.bind (Preserves.ensure _ _) fun _ => ?_
  refine Preserves.bind (Preserves.okOr _ _) fun _ => ?_
  refine Preserves.bind (Preserves.ensure _ _) fun _ => ?_
  refine Preserves.bind (Preserves.okOr _ _) fun _ => ?_
  refine Preserves.bind (Preserves.ensure _ _) fun _ => ?_
  exact Preserves.bind (Preserves.okOr _ _) fun _ => Preserves.ensure _ _

theorem publishing_verifyActivation (around : Surroundings) (expected : Registration) :
    Publishing domain s (verifyActivation around expected) := by
  refine Triple.conseq (kept_verifyActivation around expected (· = s)) (fun _ h => h) ?_ ?_ ?_
  · rintro _ _ rfl
    exact .kept
  · rintro _ _ rfl
    exact .kept
  · rintro _ rfl
    exact .kept

theorem publishing_replaceFile {around : Surroundings} (hr : Replaces domain s (some r)) :
    Publishing domain s (replaceFile around r) := by
  refine Triple.bind (Q := fun _ => Replaces domain s) (Triple.durable ?_ ?_ ?_)
    fun _ => kept_verifyActivation around r _
  · rintro _ rfl
    exact hr
  · rintro _ rfl
    exact ⟨hr, .kept⟩
  · rintro _ rfl
    exact ⟨hr, .kept⟩

theorem publishing_publishLocked {around : Surroundings} (hwritten : Written domain r) :
    Publishing domain s (publishLocked around r) := by
  have hkept : ∀ s', s' = s → Replaces domain s s' := by
    rintro _ rfl
    exact .kept
  unfold publishLocked
  refine Triple.ensure_bind (fun _ => ?_) hkept
  intro s' hs'
  rw [wp_bind, wp_get]
  cases s' with
  | some current =>
    refine Triple.ite (fun _ => publishing_verifyActivation around r) (fun _ => ?_) _ hs'
    refine Triple.ite (fun _ => publishing_verifyActivation around current) fun hdiffers => ?_
    refine Triple.ensure_bind (fun hfresh => publishing_replaceFile ?_) hkept
    refine .replaced r hwritten (fun c hc => ?_) (fun c hc => ?_)
    · rw [← Option.some.inj (hs'.trans hc)]
      exact Bool.eq_false_iff.mpr hdiffers
    · rw [← Option.some.inj (hs'.trans hc)]
      exact hfresh
  | none =>
    refine publishing_replaceFile (.replaced r hwritten (fun c hc => ?_) (fun c hc => ?_)) _ hs'
    · cases hs'.trans hc
    · cases hs'.trans hc

/-- The registration that is proposed belongs to the domain of the plan. -/
theorem written_proposedRegistration (publication : Publication) (listener : ListenerPlan) :
    Triple (· = s) (proposedRegistration publication listener)
      (fun r s' => s' = s ∧ Written publication.plan.domainId r) (fun _ s' => s' = s)
      (fun s' => s' = s) := by
  unfold proposedRegistration
  refine Triple.okOr_bind (fun _ _ => ?_) (fun _ h => h)
  refine Triple.ensure_bind (fun _ => ?_) (fun _ h => h)
  refine Triple.okOr_bind (fun _ _ => ?_) (fun _ h => h)
  refine Triple.ensure_bind (fun _ => ?_) (fun _ h => h)
  refine Triple.okOr_bind (fun _ _ => ?_) (fun _ h => h)
  refine Triple.okOr_bind (fun _ _ => ?_) (fun _ h => h)
  refine Triple.ensure_bind (fun _ => ?_) (fun _ h => h)
  refine Triple.ensure_bind (fun _ => ?_) (fun _ h => h)
  refine Triple.ensure_bind (fun _ => ?_) (fun _ h => h)
  refine Triple.okOr_bind (fun _ _ => ?_) (fun _ h => h)
  refine Triple.okOr_bind (fun _ _ => ?_) (fun _ h => h)
  refine Triple.okOr_bind (fun _ _ => ?_) (fun _ h => h)
  exact Triple.pure fun _ h => ⟨h, rfl, rfl⟩

/-- What a publication can do to the file of its domain. -/
theorem replaces_publishRegistration (publication : Publication) :
    Publishing publication.plan.domainId s (publishRegistration publication) := by
  have hkept : ∀ s', s' = s → Replaces publication.plan.domainId s s' := by
    rintro _ rfl
    exact .kept
  unfold publishRegistration
  dsimp only
  split
  · exact Triple.pure hkept
  · rename_i listener _
    refine Triple.ensure_bind (fun _ => Triple.ensure_bind (fun _ => ?_) hkept) hkept
    refine Triple.bind (Triple.conseq (written_proposedRegistration publication listener)
      (fun _ h => h) (fun _ _ h => h) (fun _ => hkept) hkept) fun r => ?_
    refine Triple.and_pre fun hwritten => ?_
    split
    · exact Triple.fail hkept
    · exact Triple.fail hkept
    · exact publishing_publishLocked hwritten

end Publication

/-! ## Sequences of publications -/

/-- One publication for the domain; it may return, fail, or be killed. -/
def Publishes (domain : InstanceId) (s s' : Option Registration) : Prop :=
  ∃ publication outcome, publication.plan.domainId = domain
    ∧ publishRegistration publication s = (outcome, s')

theorem replaces_of_publishes {s s' : Option Registration} (h : Publishes domain s s') :
    Replaces domain s s' := by
  obtain ⟨publication, outcome, rfl, hrun⟩ := h
  have hpublish := replaces_publishRegistration publication s rfl
  unfold wp at hpublish
  rw [hrun] at hpublish
  cases outcome with
  | ok _ => exact hpublish
  | err _ => exact hpublish
  | crash => exact hpublish

/-- The registrations of a sequence, from one of them on. -/
theorem forward_of_run {s s' : Option Registration}
    (hrun : Relation.ReflTransGen (Publishes domain) s s') (hr : s = some r) :
    ∃ r', s' = some r' ∧ Forward r r' := by
  refine reachable_induction (I := fun s' => ∃ r', s' = some r' ∧ Forward r r') hrun
    ⟨r, hr, Forward.refl r⟩ ?_
  rintro s s' ⟨current, rfl, hforward⟩ hstep
  cases replaces_of_publishes hstep with
  | kept => exact ⟨current, rfl, hforward⟩
  | replaced r' hwritten hdiffers hfresh =>
    exact ⟨r', rfl, hforward.trans (forward_of_not_stale (hfresh current rfl)).1⟩

/-- What a sequence from an empty registry leaves was written for the domain. -/
theorem written_of_run {s : Option Registration}
    (hrun : Relation.ReflTransGen (Publishes domain) none s) :
    ∀ r, s = some r → Written domain r := by
  refine reachable_induction (I := fun s => ∀ r, s = some r → Written domain r) hrun (by simp) ?_
  intro s s' hinv hstep
  cases replaces_of_publishes hstep with
  | kept => exact hinv
  | replaced r' hwritten hdiffers hfresh =>
    intro r hr
    rw [← Option.some.inj hr]
    exact hwritten

/-- The publications of the domain that are made after one another. -/
structure GoesForward (domain : InstanceId) (s s' : Option Registration) : Prop where
  forward : ∀ r, s = some r → ∃ r', s' = some r' ∧ Forward r r'
  /-- A committed registration is not replaced by itself as a prepared one. -/
  committed : ∀ s'', Publishes domain s' s'' → ∀ r r', s' = some r → s'' = some r' →
    r.preparedIngress = false → r'.preparedIngress = true →
    r.workerEpoch = r'.workerEpoch → r.policyRevision = r'.policyRevision →
    r.masterInstance ≠ r'.masterInstance ∨ r.uid ≠ r'.uid ∨ r.dispatch ≠ r'.dispatch
      ∨ r.processRecord ≠ r'.processRecord ∨ r.effectivePlan ≠ r'.effectivePlan
      ∨ r.authDeadlineUnix ≠ r'.authDeadlineUnix

/-- In every sequence of publications for one domain the registration goes forward, and a committed
one gives way to a prepared one of its epoch and revision only for another master, another user,
other paths or another deadline. -/
theorem registration_goes_forward {domain : InstanceId} {s s' : Option Registration}
    (hstart : Relation.ReflTransGen (Publishes domain) none s)
    (hrun : Relation.ReflTransGen (Publishes domain) s s') : GoesForward domain s s' := by
  refine ⟨fun r hr => forward_of_run hrun hr, ?_⟩
  intro s'' hstep r r' hr hr' hcommitted hprepared hepoch hrevision
  have hr₁ := written_of_run (hstart.trans hrun) r hr
  subst hr hr'
  cases replaces_of_publishes hstep with
  | kept =>
    rw [hcommitted] at hprepared
    cases hprepared
  | replaced _ hwritten hdiffers hfresh =>
    obtain ⟨hforward, hshared⟩ := forward_of_not_stale (hfresh r rfl)
    obtain ⟨hgeneration, hdomain⟩ := hshared hepoch hrevision
    obtain ⟨hworker, hpid, hticks⟩ := hforward.process hepoch
    have hauthorization := hforward.authorization hepoch hrevision
    -- Were all of them equal, the two would differ in nothing but the phase.
    by_contra hall
    simp only [not_or, ne_eq, not_not] at hall
    obtain ⟨hmaster, huid, hdispatch, hrecord, hplan, hdeadline⟩ := hall
    have hequivalent : isCommittedEquivalent r r' = true := by
      unfold isCommittedEquivalent
      rw [hprepared, hcommitted]
      have hschema : r.schemaVersion = r'.schemaVersion :=
        hr₁.schemaVersion.trans hwritten.schemaVersion.symm
      have heq : r = { r' with preparedIngress := false } := by
        rcases r with ⟨⟩
        rcases r' with ⟨⟩
        simp_all
      simpa using heq
    rw [hdiffers r rfl] at hequivalent
    cases hequivalent

/-! ## A restarted master -/

namespace Sample

/-- The master with this instance, found alive whenever it is looked at. -/
def masterReading (masterInstance : String) : MasterReading where
  master := some { schemaVersion := 1, masterInstance, process := ⟨9, 90⟩, transportId := 1,
                   uid := 0 }
  confirmed _ := some true

/-- A worker of the first epoch that serves revision zero of the first generation. -/
def publication (masterInstance : String) (preparedIngress : Bool) : Publication where
  plan :=
    { sharedListener := some ⟨"/run/listener", "/etc/server.toml", 1⟩,
      independentWorker := some "/run/worker.sock", domainId := Vector.replicate 16 1,
      workerEpoch := 1, signedGeneration := 1, policyRevision := 0, authDeadlineUnix := 100,
      effectivePlanFile := some "/run/plan.json", authorizationSnapshotSha256 := some "ab" }
  ownerPath := "/run/process.json"
  preparedIngress
  around :=
    { rebindEnabled := true, directoryPrivate := true, uid := 0,
      first := masterReading masterInstance,
      record := some { pid := 7, processStartTicks := 70, uid := 0, workerEpoch := some 1,
                       policyGeneration := 1, authorizationSnapshotSha256 := some "ab",
                       authDeadlineUnix := 100 },
      status := some { lifecycle := some "active", registeredListenerReady := none,
                       authorizationSnapshotSha256 := none, policyRevision := none },
      locking := .taken, readable := true, write := .done, second := masterReading masterInstance,
      activation := none, third := masterReading masterInstance }

/-- The file after a publication. -/
def published (s : Option Registration) (masterInstance : String) (preparedIngress : Bool) :
    Option Registration :=
  (publishRegistration (publication masterInstance preparedIngress) s).2

theorem publishes_published (s : Option Registration) (masterInstance : String)
    (preparedIngress : Bool) :
    Publishes (Vector.replicate 16 1) s (published s masterInstance preparedIngress) :=
  ⟨publication masterInstance preparedIngress, _, rfl, rfl⟩

end Sample

/-- A second prepared publication under the same master leaves the committed registration. -/
theorem repeated_prepared_publication :
    GoesForward (Vector.replicate 16 1) (Sample.published none "a" false)
        (Sample.published (Sample.published none "a" false) "a" true)
      ∧ Sample.published (Sample.published none "a" false) "a" true
        = Sample.published none "a" false :=
  ⟨registration_goes_forward (.single (Sample.publishes_published none "a" false))
    (.single (Sample.publishes_published _ "a" true)), by decide⟩

/-- Under a restarted master it replaces the committed registration. -/
theorem prepared_publication_after_master_restart :
    ¬ ∀ (domain : InstanceId) (s s' : Option Registration),
      Relation.ReflTransGen (Publishes domain) none s → Publishes domain s s' →
      ∀ r r', s = some r → s' = some r' → r.preparedIngress = false →
        r.workerEpoch = r'.workerEpoch → r.policyRevision = r'.policyRevision →
        r'.preparedIngress = false := by
  intro h
  have hcommitted : (Sample.published none "a" false).map
      (fun r => (r.preparedIngress, r.workerEpoch, r.policyRevision)) = some (false, 1, 0) := by
    decide
  have hprepared : (Sample.published (Sample.published none "a" false) "b" true).map
      (fun r => (r.preparedIngress, r.workerEpoch, r.policyRevision)) = some (true, 1, 0) := by
    decide
  obtain ⟨r, hr, hfields⟩ := Option.map_eq_some_iff.mp hcommitted
  obtain ⟨r', hr', hfields'⟩ := Option.map_eq_some_iff.mp hprepared
  simp only [Prod.mk.injEq] at hfields hfields'
  have hphase := h _ _ _ (.single (Sample.publishes_published none "a" false))
    (Sample.publishes_published _ "b" true) r r' hr hr' hfields.1
    (hfields.2.1.trans hfields'.2.1.symm) (hfields.2.2.trans hfields'.2.2.symm)
  rw [hfields'.1] at hphase
  cases hphase

end CandyRuntime.Agent
