import CandyRuntime.Agent.PolicyTheorems
import CandyRuntime.Lib.Trace

/-!
# The leases a policy update renews

`try_update` is called again and again, and every request it sends to netd is on the trace of the
host. A `ForwardLeaseRenew` should only be sent after the same call has found the worker current
and the owner of TUNIO ahead of its deadline (`Confirmed`), so that a worker which dies over an
intent gets at most one more renewal (`AtMostOnce`). Everything in this module holds of every
call; which calls are not `Confirmed` is left to `PolicyLeaseTheorems`.
-/

namespace CandyRuntime.Agent

open Lib Lib.Proc NetdProto NetdV2
  Tunio

/-! ## Runs -/

/-- The arguments of a call of `try_update`. -/
structure Retry where
  desired : Plan
  current : Plan
  record : ManagedProcessRecord
  actual : AuthorityControlResponse

/-- A call of `try_update`, or the rest of the Agent writes the files. -/
inductive PolicyStep where
  | retry (r : Retry)
  | elsewhere (disk : Disk)

variable (E : ℕ → Call)

def PolicyStep.run : PolicyStep → Host → Host
  | .retry r, h => (tryUpdate E r.desired r.current r.record r.actual (h.sees .began)).2
  | .elsewhere disk, h => { h with disk }

def policyRun : List PolicyStep → Host → Host
  | [], h => h
  | step :: steps, h => policyRun steps (step.run E h)

/-! ## Confirmed renewals -/

/-- The request that prolongs a lease. -/
def Observation.renews : Observation → Bool
  | .sent (.forwardLeaseRenew _) => true
  | _ => false

/-- What was observed since the last call began. -/
def thisCall (trace : List Seen) : List Seen := trace.takeWhile (·.event ≠ .began)

/-- The call has found the worker current and its owner ahead of the deadline. -/
def Checked (trace : List Seen) : Prop :=
  (∃ s ∈ thisCall trace, s.event = .workerCurrent) ∧ ∃ s ∈ thisCall trace, s.event = .ownerAhead

instance (trace : List Seen) : Decidable (Checked trace) :=
  inferInstanceAs (Decidable ((∃ s ∈ thisCall trace, _) ∧ ∃ s ∈ thisCall trace, _))

/-- A renewal is sent after the checks of its call. -/
def Confirmed (s : Seen) (earlier : List Seen) : Prop := s.event.renews = true → Checked earlier

instance (s : Seen) (earlier : List Seen) : Decidable (Confirmed s earlier) :=
  inferInstanceAs (Decidable (s.event.renews = true → Checked earlier))

/-- From the moment `k` on nobody finds the worker current. -/
def DeadFrom (k : ℕ) : Prop := ∀ n, k ≤ n → (E n).live ≠ some true

/-- A renewal for the owner of an intent, at the moment `k` or after it. -/
def Seen.Prolongs (k : ℕ) (s : Seen) : Prop :=
  k ≤ s.moment ∧ s.pending = true ∧ s.event.renews = true

def AtMostOnce (k : ℕ) (s : Seen) (earlier : List Seen) : Prop :=
  s.Prolongs k → ∀ e ∈ earlier, ¬ e.Prolongs k

/-- Every renewal is confirmed, and a worker that dies over an intent gets one more at most. -/
structure LeaseKept (trace : List Seen) : Prop where
  confirmed : Always Confirmed trace
  once : ∀ k, DeadFrom E k → Always (AtMostOnce k) trace

/-! ## What every call keeps to -/

/-- The moments grow, past a renewal by one at least, and a worker that is found current was so
at the call before. -/
def Timed (s : Seen) (earlier : List Seen) : Prop :=
  (∀ e ∈ earlier, e.moment ≤ s.moment ∧ (e.event.renews = true → e.moment < s.moment))
    ∧ (s.event = .workerCurrent → ∃ n, s.moment = n + 1 ∧ (E n).live = some true)

def OnTime (h : Host) : Prop :=
  Always (Timed E) h.trace
    ∧ ∀ e ∈ h.trace, e.moment ≤ h.clock ∧ (e.event.renews = true → e.moment < h.clock)

/-- No renewal for an intent in this call. -/
def Quiet (trace : List Seen) : Prop :=
  ∀ e ∈ thisCall trace, ¬ (e.pending = true ∧ e.event.renews = true)

/-- A call sends one renewal for an intent at most. -/
def Single (s : Seen) (earlier : List Seen) : Prop :=
  s.pending = true ∧ s.event.renews = true → Quiet earlier

variable {E} {h : Host}

/-- Two late renewals cannot be of one call, and the later one had no worker to find. -/
theorem atMostOnce_of_confirmed {trace : List Seen} {k : ℕ} (hc : Always Confirmed trace)
    (ht : Always (Timed E) trace) (hs : Always Single trace) (hdead : DeadFrom E k) :
    Always (AtMostOnce k) trace := by
  refine always_iff.mpr ?_
  intro later s earlier heq hprolongs e he hprolongs'
  obtain ⟨hk, hpending, hrenews⟩ := hprolongs
  obtain ⟨hk', hpending', hrenews'⟩ := hprolongs'
  obtain ⟨⟨w, hw, hcurrent⟩, _⟩ := always_iff.mp hc later s earlier heq hrenews
  have hquiet : Quiet earlier := always_iff.mp hs later s earlier heq ⟨hpending, hrenews⟩
  -- The earlier renewal is of an earlier call, so it is before the check of the worker.
  have hsplit : earlier = thisCall earlier ++ earlier.dropWhile (·.event ≠ .began) :=
    List.takeWhile_append_dropWhile.symm
  have hold : e ∈ earlier.dropWhile (·.event ≠ .began) := by
    rw [hsplit, List.mem_append] at he
    exact he.resolve_left fun hthis => hquiet e hthis ⟨hpending', hrenews'⟩
  obtain ⟨before, after, hcall⟩ := List.append_of_mem hw
  have htimed : Timed E w (after ++ earlier.dropWhile (·.event ≠ .began)) := by
    refine always_iff.mp ht (later ++ s :: before) w _ ?_
    rw [heq]
    nth_rewrite 1 [hsplit]
    rw [hcall]
    simp
  obtain ⟨n, hmoment, hlive⟩ := htimed.2 hcurrent
  have hlt : e.moment < w.moment := (htimed.1 e (List.mem_append_right after hold)).2 hrenews'
  exact hdead n (by omega) hlive

/-! ## Predicates the controller keeps -/

section Keeping

variable {A : Operation → Prop} {P Q : Host → Prop} {α : Type} {e : String}

variable (E) in
/-- `P` outlives every call of the host and every observation, of the requests those in `A`. -/
structure Kept (A : Operation → Prop) (P : Host → Prop) : Prop where
  next : ∀ h, P h → P h.next
  sent : ∀ operation h, A operation → P h → P (h.sees (.sent operation)).next
  worker : ∀ h, (E h.clock).live = some true → P h → P (h.next.sees .workerCurrent)
  owner : ∀ h, P h → P (h.sees .ownerAhead)

/-- `P` outlives a write. -/
def WriteKept (P : Host → Prop) : Prop :=
  ∀ disk h, P h → P { h with disk, clock := h.clock + 1 }

theorem Kept.and (hP : Kept E A P) (hQ : Kept E A Q) : Kept E A fun h => P h ∧ Q h where
  next h hh := ⟨hP.next h hh.1, hQ.next h hh.2⟩
  sent operation h hA hh := ⟨hP.sent operation h hA hh.1, hQ.sent operation h hA hh.2⟩
  worker h hlive hh := ⟨hP.worker h hlive hh.1, hQ.worker h hlive hh.2⟩
  owner h hh := ⟨hP.owner h hh.1, hQ.owner h hh.2⟩

theorem Kept.weaken {A' : Operation → Prop} (hP : Kept E A P)
    (hA : ∀ operation, A' operation → A operation) : Kept E A' P where
  next := hP.next
  sent operation h hop hh := hP.sent operation h (hA operation hop) hh
  worker := hP.worker
  owner := hP.owner

theorem WriteKept.and (hP : WriteKept P) (hQ : WriteKept Q) : WriteKept fun h => P h ∧ Q h :=
  fun disk h hh => ⟨hP disk h hh.1, hQ disk h hh.2⟩

theorem wp_calling {f : Call → Option α} {R : α → Host → Prop} {F : String → Host → Prop}
    {C : Host → Prop} :
    wp (calling E f e) R F C h
      ↔ (∀ a, f (E h.clock) = some a → R a h.next) ∧ (f (E h.clock) = none → F e h.next) := by
  unfold wp calling
  cases hf : f (E h.clock) with
  | none => simp [Host.next]
  | some a => simp [Host.next]

theorem Kept.calling (hP : Kept E A P) (f : Call → Option α) :
    Preserves P (calling E f e) := by
  intro h hh
  rw [wp_calling]
  exact ⟨fun _ _ => hP.next h hh, fun _ => hP.next h hh⟩

theorem Kept.works (hP : Kept E A P) : Preserves P (works E e) := hP.calling _

theorem Kept.unixTime (hP : Kept E A P) : Preserves P (agentUnixTime E) := hP.calling _

theorem Kept.monotonicMs (hP : Kept E A P) : Preserves P (agentMonotonicMs E) := hP.calling _

theorem Kept.privateStatus (hP : Kept E A P) : Preserves P (privateStatus E) := hP.calling _

theorem Kept.compile (hP : Kept E A P) (plan : Plan) :
    Preserves P (compileVerifiedPlan E plan) := hP.calling _

theorem Kept.capAhead (hP : Kept E A P) (plan : Plan) (actual : AuthorityControlResponse) :
    Preserves P (capAhead E plan actual) := fun h hh => hP.next h hh

theorem Kept.netdExchange (hP : Kept E A P) {operation : Operation} (hA : A operation) :
    Preserves P (netdExchange E operation) := by
  intro h hh
  unfold Agent.netdExchange
  rw [wp_bind, wp_modify, wp_calling]
  exact ⟨fun _ _ => hP.sent operation h hA hh, fun _ => hP.sent operation h hA hh⟩

theorem Kept.expectAck (hP : Kept E A P) {operation : Operation} (hA : A operation) :
    Preserves P (expectAck E operation) := by
  unfold Agent.expectAck
  refine Preserves.bind (hP.netdExchange hA) fun reply => ?_
  refine Preserves.bind (Preserves.ensure _ _) fun _ => ?_
  split
  · exact Preserves.pure _
  · exact Preserves.pure _
  · exact Preserves.fail _

theorem WriteKept.writing (hw : WriteKept P) (f : Disk → Disk) :
    Preserves P (Agent.writing E f e) := by
  intro h hh
  have hnext : P { h with disk := h.disk, clock := h.clock + 1 } := hw h.disk h hh
  have hf : P { h with disk := f h.disk, clock := h.clock + 1 } := hw (f h.disk) h hh
  unfold wp Agent.writing
  by_cases hworks : (E h.clock).works = true
  · simpa [hworks] using hf
  · by_cases hlanded : (E h.clock).landed = true
    · simpa [hworks, hlanded] using hf
    · simpa [hworks, hlanded] using hnext

/-- The check of the worker is observed exactly if it succeeds. -/
theorem Kept.businessIsCurrent (hP : Kept E A P) : Preserves P (businessIsCurrent E) := by
  intro h hh
  unfold Agent.businessIsCurrent
  simp only [wp_bind, wp_calling, wp_when, wp_modify, wp_pure]
  refine ⟨fun live hlive => ⟨fun htrue => ?_, fun _ => hP.next h hh⟩, fun _ => hP.next h hh⟩
  exact hP.worker h (by rw [hlive, htrue]) hh

theorem preserves_checkAuthority {plan : Plan} {record : ManagedProcessRecord}
    {actual : AuthorityControlResponse} {status : WorkerStatus} :
    Preserves P (checkAuthority plan record actual status) := by
  unfold checkAuthority
  split
  · exact Preserves.ensure _ _
  · exact Preserves.ensure _ _
  · exact Preserves.fail _

theorem Kept.validateOwner (hP : Kept E A P) (plan : Plan) (record : ManagedProcessRecord)
    (actual : AuthorityControlResponse) (live : Bool) :
    Preserves P (validateOwner E plan record actual live) := by
  have hlive : Preserves P (do
      let now ← agentUnixTime E
      Agent.works E "managed process identity or epoch changed"
      ensure (record.authDeadlineUnix ≠ 0 ∧ now < record.authDeadlineUnix)
        "managed record authorization invalid or expired"
      ensure ((← Agent.businessIsCurrent E) = true) "policy worker is no longer live" : Ctl Unit) :=
    Preserves.bind hP.unixTime fun _ => Preserves.bind hP.works fun _ =>
      Preserves.bind (Preserves.ensure _ _) fun _ =>
        Preserves.bind hP.businessIsCurrent fun _ => Preserves.ensure _ _
  unfold Agent.validateOwner
  refine Preserves.bind (Preserves.ensure _ _) fun _ => ?_
  refine Preserves.bind (Preserves.ensure _ _) fun _ => ?_
  refine Preserves.bind (Preserves.when _ hlive) fun _ => ?_
  refine Preserves.ite (Preserves.bind (hP.capAhead plan actual) fun _ => ?_)
    (Preserves.bind (Preserves.pure true) fun _ => ?_)
  all_goals
    refine Preserves.bind (Preserves.ensure _ _) fun _ => ?_
    refine Preserves.bind (Preserves.when _ fun h hh => hP.owner h hh) fun _ => ?_
    refine Preserves.bind hP.privateStatus fun _ => ?_
    refine Preserves.bind (Preserves.ensure _ _) fun _ => ?_
    refine Preserves.bind preserves_checkAuthority fun _ => ?_
    exact Preserves.when _ hP.works

/-! ### After the checks -/

theorem thisCall_sees {event : Observation} (he : event ≠ .began) :
    thisCall (h.sees event).trace
      = ⟨h.clock, h.disk.policyUpdate.isSome, event⟩ :: thisCall h.trace := by
  unfold thisCall Host.sees
  rw [List.takeWhile_cons_of_pos (by simpa using he)]

/-- What was observed in this call stays so. -/
theorem kept_mem (event : Observation) :
    Kept E (fun _ => True) fun h => ∃ s ∈ thisCall h.trace, s.event = event where
  next _ hh := hh
  sent operation h _ hh := by
    obtain ⟨s, hs, hevent⟩ := hh
    show ∃ s ∈ thisCall (h.sees (.sent operation)).trace, s.event = event
    rw [thisCall_sees (by simp)]
    exact ⟨s, List.mem_cons_of_mem _ hs, hevent⟩
  worker h _ hh := by
    obtain ⟨s, hs, hevent⟩ := hh
    rw [thisCall_sees (by simp)]
    exact ⟨s, List.mem_cons_of_mem _ hs, hevent⟩
  owner h hh := by
    obtain ⟨s, hs, hevent⟩ := hh
    rw [thisCall_sees (by simp)]
    exact ⟨s, List.mem_cons_of_mem _ hs, hevent⟩

theorem kept_checked : Kept E (fun _ => True) fun h => Checked h.trace :=
  (kept_mem .workerCurrent).and (kept_mem .ownerAhead)

/-- With `live` the check of the owner is the check a renewal needs. -/
theorem validateOwner_checked (plan : Plan) (record : ManagedProcessRecord)
    (actual : AuthorityControlResponse) :
    Yields (fun _ => True) (validateOwner E plan record actual true)
      fun _ h => Checked h.trace := by
  let hasWorker : Host → Prop := fun h => ∃ s ∈ thisCall h.trace, s.event = .workerCurrent
  have hworker : Yields (fun _ => True) (businessIsCurrent E)
      fun live h => live = true → hasWorker h := by
    intro h _
    unfold businessIsCurrent
    simp only [wp_bind, wp_calling, wp_when, wp_modify, wp_pure]
    refine ⟨fun live _ => ⟨fun _ _ => ?_, fun hdead hlive => absurd hlive hdead⟩, fun _ => trivial⟩
    show ∃ s ∈ thisCall (h.next.sees .workerCurrent).trace, s.event = .workerCurrent
    rw [thisCall_sees (by simp)]
    exact ⟨_, List.mem_cons_self, rfl⟩
  have hany {β : Type} (m : Ctl β) : Yields (fun _ => True) m fun _ _ => True := by
    intro h _
    unfold wp
    split <;> trivial
  unfold validateOwner
  refine Yields.ensure_bind fun _ => Yields.ensure_bind fun _ => ?_
  refine Yields.bind (Q := fun _ => hasWorker) ?_ fun _ => ?_
  · refine Yields.when (fun _ => ?_) fun hlive => absurd rfl hlive
    refine Yields.bind (hany _) fun _ => Yields.bind (hany _) fun _ => ?_
    refine Yields.ensure_bind fun _ => Yields.bind hworker fun live => ?_
    intro h hh
    rw [wp_ensure]
    exact ⟨fun hlive => hh hlive, fun _ => trivial⟩
  · rw [if_pos rfl]
    have hahead := (kept_mem (E := E) .workerCurrent).capAhead plan actual
    refine Yields.bind (Yields.of_preserves hahead) fun _ => Yields.ensure_bind fun _ => ?_
    refine Yields.bind (Q := fun _ h => Checked h.trace) ?_ fun _ => ?_
    · refine Yields.when (fun _ => ?_) fun hlive => absurd rfl hlive
      intro h hh
      have hworker' := (kept_mem (E := E) .workerCurrent).owner h hh
      refine ⟨hworker', ?_⟩
      rw [thisCall_sees (by simp)]
      exact ⟨_, List.mem_cons_self, rfl⟩
    · refine Yields.bind (Yields.of_preserves kept_checked.privateStatus) fun _ => ?_
      refine Yields.ensure_bind fun _ => ?_
      refine Yields.bind (Yields.of_preserves preserves_checkAuthority) fun _ => ?_
      exact Yields.when (fun _ => Yields.of_preserves kept_checked.works) fun hlive =>
        absurd rfl hlive

/-! ### The parts of `try_update` -/

/-- The requests that do not prolong a lease. -/
def KeepsLease (operation : Operation) : Prop := (Observation.sent operation).renews = false

theorem Kept.renewPreflightLease (hP : Kept E (fun _ => True) P) (plan : Plan) :
    Preserves P (renewPreflightLease E plan) := by
  unfold Agent.renewPreflightLease
  refine Preserves.bind (hP.netdExchange trivial) fun reply => ?_
  split
  · refine Preserves.bind hP.monotonicMs fun now => ?_
    refine Preserves.bind (Preserves.ensure _ _) fun _ => ?_
    refine Preserves.ite (Preserves.pure _) ?_
    exact Preserves.bind (hP.expectAck trivial) fun _ => Preserves.pure _
  · exact Preserves.fail _

theorem triple_bind_of_preserves {β : Type} {m : Ctl α} {f : α → Ctl β} {R : β → Host → Prop}
    (hPQ : ∀ h, P h → Q h) (hm : Preserves P m) (hf : ∀ a, Triple P (f a) R (fun _ => Q) Q) :
    Triple P (m >>= f) R (fun _ => Q) Q :=
  Triple.bind (Triple.conseq hm (fun _ h => h) (fun _ _ h => h) (fun _ => hPQ) hPQ) hf

/-- A new intent is one of a call that has made its checks: `B` holds until they are made. -/
theorem newIntent_spec {B F : Host → Prop} (hB : Kept E KeepsLease B)
    (hD : Kept E (fun _ => True) fun h => B h ∧ Checked h.trace) (hBF : ∀ h, B h → F h)
    (hw : WriteKept F) (desired current : Plan)
    (record : ManagedProcessRecord) (actual : AuthorityControlResponse) :
    Triple B (newIntent E desired current record actual)
      (fun intent h => F h ∧ (intent.isSome = true → Checked h.trace)) (fun _ => F) F := by
  have hnone {P : Host → Prop} (hPF : ∀ h, P h → F h) :
      Triple P (pure none : Ctl (Option PolicyJournal))
        (fun intent h => F h ∧ (intent.isSome = true → Checked h.trace)) (fun _ => F) F :=
    Triple.pure fun h hh => ⟨hPF h hh, nofun⟩
  have hDF : ∀ h, B h ∧ Checked h.trace → F h := fun h hh => hBF h hh.1
  have hchecks : Triple B (validateOwner E current record actual true)
      (fun _ h => B h ∧ Checked h.trace) (fun _ => F) F := fun h hh =>
    wp_mono (wp_and (hB.validateOwner current record actual true h hh)
      (validateOwner_checked current record actual h trivial)) (fun _ _ h => h)
      (fun _ h hh => hBF h hh.1) fun h hh => hBF h hh.1
  have hunix : Preserves (fun h => B h ∧ Checked h.trace) (agentUnixTime E) := hD.unixTime
  unfold newIntent
  refine triple_bind_of_preserves hBF hB.unixTime fun _ => ?_
  refine Triple.ite (fun _ => hnone hBF) fun _ => ?_
  refine triple_bind_of_preserves hBF hB.unixTime fun _ => ?_
  refine Triple.ite (fun _ => hnone hBF) fun _ => Triple.ite (fun _ => hnone hBF) fun _ => ?_
  refine triple_bind_of_preserves hBF hB.businessIsCurrent fun _ => ?_
  refine Triple.ite (fun _ => hnone hBF) fun _ => Triple.bind hchecks fun _ => ?_
  refine triple_bind_of_preserves hDF (hD.renewPreflightLease _) fun _ => ?_
  refine Triple.ite (fun _ => hnone hDF) fun _ => ?_
  refine triple_bind_of_preserves hDF (hD.compile _) fun _ => ?_
  refine triple_bind_of_preserves hDF (hD.renewPreflightLease _) fun _ => ?_
  refine Triple.ite (fun _ => hnone hDF) fun _ => ?_
  refine triple_bind_of_preserves hDF (hD.compile _) fun _ => ?_
  refine triple_bind_of_preserves hDF (hD.renewPreflightLease _) fun _ => ?_
  refine Triple.ite (fun _ => hnone hDF) fun _ => ?_
  refine triple_bind_of_preserves hDF hunix fun _ => ?_
  refine Triple.ite (fun _ => hnone hDF) fun _ => Triple.ite (fun _ => hnone hDF) fun _ => ?_
  refine Triple.ensure_bind (fun _ => ?_) hDF
  refine triple_bind_of_preserves hDF (hD.validateOwner _ _ _ _) fun _ => ?_
  refine triple_bind_of_preserves hDF (hD.netdExchange trivial) fun _ => ?_
  split
  · refine Triple.ite (fun _ => hnone hDF) fun _ => Triple.ensure_bind (fun _ => ?_) hDF
    refine triple_bind_of_preserves hDF (hD.calling _) fun _ => ?_
    refine triple_bind_of_preserves hDF (hD.compile _) fun _ => ?_
    refine triple_bind_of_preserves hDF (hD.renewPreflightLease _) fun _ => ?_
    refine Triple.ite (fun _ => hnone hDF) fun _ => Triple.ensure_bind (fun _ => ?_) hDF
    refine Triple.okOr_bind (fun _ _ => ?_) hDF
    refine triple_bind_of_preserves hDF (hD.calling _) fun _ => ?_
    refine Triple.ensure_bind (fun _ => ?_) hDF
    -- The intent is written, so from here on there is one.
    have hkept : WriteKept fun h => F h ∧ Checked h.trace := hw.and fun _ _ hh => hh
    refine Triple.bind (Q := fun _ h => F h ∧ Checked h.trace) ?_ fun _ => ?_
    · exact Triple.conseq (hkept.writing _) (fun h hh => ⟨hDF h hh, hh.2⟩) (fun _ _ h => h)
        (fun _ _ h => h.1) fun _ h => h.1
    · exact Triple.pure fun h hh => ⟨hh.1, fun _ => hh.2⟩
  · exact Triple.fail hDF

theorem preserves_removeJournal (hP : Kept E A P) (hw : WriteKept P) :
    Preserves P (removeJournal E) :=
  Preserves.bind (hw.writing _) fun _ => hP.works

theorem preserves_retireIntent (hP : Kept E A P) (hw : WriteKept P) (journal : PolicyJournal)
    (actual : AuthorityControlResponse) (status : Body) :
    Preserves P (retireIntent E journal actual status) :=
  Preserves.bind hP.monotonicMs fun _ => Preserves.bind (hw.writing _) fun _ =>
    preserves_removeJournal hP hw

theorem preserves_applyIntent (hP : Kept E KeepsLease P) (hw : WriteKept P)
    (journal : PolicyJournal) (actual : AuthorityControlResponse) :
    Preserves P (applyIntent E journal actual) := by
  unfold applyIntent
  refine Preserves.bind (hP.validateOwner _ _ _ _) fun _ => ?_
  refine Preserves.bind (Preserves.ensure _ _) fun _ => ?_
  refine Preserves.bind hP.works fun _ => Preserves.bind hP.privateStatus fun _ => ?_
  refine Preserves.bind (Preserves.ensure _ _) fun _ => ?_
  refine Preserves.bind (Preserves.okOr _ _) fun _ => ?_
  refine Preserves.bind (hP.expectAck rfl) fun _ => ?_
  refine Preserves.bind (Preserves.ensure _ _) fun _ => ?_
  refine Preserves.bind (hw.writing _) fun _ => Preserves.bind (hw.writing _) fun _ => ?_
  exact preserves_removeJournal hP hw

end Keeping

end CandyRuntime.Agent
