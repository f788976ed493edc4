import CandyRuntime.NetdIpc.Client
import CandyRuntime.NetdV1.ServiceTheorems

/-!
# Where a failed-prefix reconciliation is admitted

Three state machines decide by their own phase whether the failed prefixes may be set: the client
before it sends the request, the session before the service carries it out, and the transaction.
The client and the transaction admit it while the session is suspended, and the session does not.
-/

namespace CandyRuntime.NetdIpc

open Lib Lib.Proc NetdProto NetdV1

/-! ## Admission -/

/-- The client goes on to the exchange, however that may end. -/
def ClientAdmits (c : NetdClient) : Prop :=
  ∀ (p : Parties TransactionRecord) (prefixes : List Ipv4Prefix), p.client = c →
    setFailedPrefixes exactFormat prefixes p
      = exchangeGeneration exactFormat (.withdrawPrefixes prefixes)
        (generationOf (.withdrawPrefixes prefixes)) p

/-- The session takes the request of an owner it has accepted. -/
def SessionAdmits (session : NetdSession) : Prop :=
  ∀ (request : NetdRequest) (prefixes : List Ipv4Prefix),
    request.operation = .withdrawPrefixes prefixes → session.advance request = .ok session

/-- The transaction does not call the operation of its owner an invalid transition. -/
def TransactionAdmits (m : Option TransactionRecord) : Prop :=
  ∀ (w : NetworkTransaction TransactionRecord) (owner : LeaseOwner) (prefixes : List Ipv4Prefix),
    w.record = m → (∀ r, m = some r → ensureOwner r.owner owner = .ok ()) →
      (NetdV1.setFailedPrefixes exactFormat owner prefixes w).1 ≠ .err .invalidTransition

theorem clientAdmits_iff (c : NetdClient) :
    ClientAdmits c ↔ (c.phase = .active ∨ c.phase = .suspended) := by
  have hphases : c.phase ∈ [ClientPhase.active, .suspended]
      ↔ (c.phase = .active ∨ c.phase = .suspended) := by simp
  constructor
  · intro h
    by_contra hphase
    -- A request that is lost in the exchange is not an invalid transition.
    let p : Parties TransactionRecord :=
      { client := c, peer := { pid := 0, uid := 0, gid := 0 }, daemon := none,
        deliveries := fun _ => .requestLost .io }
    have hrefused : (setFailedPrefixes exactFormat [] p).1 = .err .invalidTransition := by
      have hnot : ¬ p.client.phase ∈ [ClientPhase.active, .suspended] := fun hin =>
        hphase (hphases.mp hin)
      unfold setFailedPrefixes requestIn
      change (Bind.bind (ensure (p.client.phase ∈ _) _) _ p).1 = _
      unfold ensure
      rw [if_neg hnot]
      rfl
    have hsent : (exchangeGeneration exactFormat (.withdrawPrefixes [])
        (generationOf (.withdrawPrefixes [])) p).1 ≠ .err .invalidTransition := by
      obtain ⟨owner, nextRequestId, phase⟩ := c
      cases nextRequestId with
      | none =>
        have hresult : (exchangeGeneration exactFormat (.withdrawPrefixes [])
          (generationOf (.withdrawPrefixes [])) p).1 = .err .requestIdExhausted := rfl
        rw [hresult]
        simp
      | some id =>
        have hresult : (exchangeGeneration exactFormat (.withdrawPrefixes [])
          (generationOf (.withdrawPrefixes [])) p).1 = .err .io := rfl
        rw [hresult]
        simp
    rw [h p [] rfl] at hrefused
    exact hsent hrefused
  · intro hphase p prefixes hp
    have hin : p.client.phase ∈ [ClientPhase.active, .suspended] := by
      rw [hp]
      exact hphases.mpr hphase
    unfold setFailedPrefixes requestIn
    change (Bind.bind (ensure (p.client.phase ∈ _) _) _ p) = _
    unfold ensure
    rw [if_pos hin]
    rfl

theorem sessionAdmits_iff (session : NetdSession) :
    SessionAdmits session ↔ session.phase = .active := by
  constructor
  · intro h
    by_contra hphase
    have hadvance := h { requestId := 0, owner := Sample.owner, operation := .withdrawPrefixes [] } []
      rfl
    unfold NetdSession.advance at hadvance
    dsimp only at hadvance
    rw [if_pos hphase] at hadvance
    cases hadvance
  · intro hphase request prefixes hoperation
    unfold NetdSession.advance
    rw [hoperation]
    dsimp only
    rw [if_neg (not_not_intro hphase)]

/-- The phases of a transaction in which the failed prefixes may be set. -/
def Serving (m : Option TransactionRecord) : Prop :=
  ∃ r, m = some r ∧ (r.phase = .active ∨ r.phase = .suspended)

theorem transactionAdmits_iff (m : Option TransactionRecord) : TransactionAdmits m ↔ Serving m := by
  constructor
  · intro h
    by_contra hserving
    let w : NetworkTransaction TransactionRecord :=
      { record := m, stored := none, calls := [], readings := fun _ => none, fates := .allOk }
    cases m with
    | none => exact h w Sample.owner [] rfl (by simp) rfl
    | some r =>
      have howner : ensureOwner r.owner r.owner = .ok () := by
        unfold ensureOwner
        rw [refuseIf_eq_ok]
        simp
      have hphase : ¬ (r.phase = .active ∨ r.phase = .suspended) := fun hphase =>
        hserving ⟨r, rfl, hphase⟩
      apply h w r.owner [] rfl (fun r' hr' => Option.some.inj hr' ▸ howner)
      have hrefused : wp (NetdV1.setFailedPrefixes exactFormat r.owner []) (fun _ _ => False)
          (fun e _ => e = .invalidTransition) (fun _ => False) w := by
        rw [NetdV1.setFailedPrefixes, wp_bind, wp_current (show w.record = some r from rfl), wp_bind,
          wp_lift, howner]
        refine ⟨fun _ _ => ?_, fun e he => by cases he⟩
        rw [wp_bind, wp_ensure]
        exact ⟨fun h => (hphase h).elim, fun _ => rfl⟩
      unfold wp at hrefused
      split at hrefused
      · exact hrefused.elim
      · rename_i e w' heq
        rw [heq, hrefused]
      · exact hrefused.elim
  · rintro ⟨r, rfl, hphase⟩ w owner prefixes hw howner
    have hadmitted : wp (NetdV1.setFailedPrefixes exactFormat owner prefixes) (fun _ _ => True)
        (fun e _ => e ≠ .invalidTransition) (fun _ => True) w := by
      have hcall : ∀ c, Triple (fun w => w.record = some r) (call c : Tx TransactionRecord Unit)
          (fun _ w => w.record = some r) (fun e _ => e ≠ .invalidTransition) (fun _ => True) := by
        intro c w hw
        rw [wp_call]
        exact ⟨fun _ => hw, by simp, fun _ => trivial⟩
      have hamend : ∀ f, Triple (fun w => w.record = some r) (amend exactFormat f)
          (fun _ _ => True) (fun e _ => e ≠ .invalidTransition) (fun _ => True) := by
        intro f w hw
        rw [amend, wp_bind, wp_current hw, wp_bind, setRecord, wp_modify]
        change wp (writeJournal _) _ _ _ _
        rw [wp_writeJournal]
        exact ⟨fun _ => trivial, by simp, by simp, fun _ => trivial⟩
      rw [NetdV1.setFailedPrefixes, wp_bind, wp_current hw, wp_bind, wp_lift, howner r rfl]
      refine ⟨fun _ _ => ?_, fun e he => by cases he⟩
      rw [wp_bind, wp_ensure]
      refine ⟨fun _ => ?_, fun hnot => (hnot hphase).elim⟩
      rw [wp_bind, wp_ensure]
      refine ⟨fun _ => ?_, fun _ => by simp⟩
      refine Triple.bind (hcall _) (fun _ => Triple.bind ?_ fun _ => hamend _) w hw
      exact Triple.when (fun _ => hcall _) fun _ _ hw => hw
    unfold wp at hadmitted
    split at hadmitted
    · rename_i heq
      rw [heq]
      simp
    · rename_i heq
      rw [heq]
      simpa using hadmitted
    · rename_i heq
      rw [heq]
      simp

/-! ## The three layers -/

/-- The phase of the client goes with the session: it stays active while a replacement is staged
and while the old declaration is drained. -/
def ClientInStep (session : NetdSession) : ClientPhase → Prop
  | .stopped => session.phase = .stopped
  | .prepared => session.phase = .prepared ∧ session.replacementPending = false
  | .active => session.phase = .active
      ∨ (session.replacementPending = true
        ∧ (session.phase = .prepared ∨ session.phase = .draining))
  | .suspended => session.phase = .suspended

/-- Every layer admits the reconciliation exactly in the phases Active and Suspended of the
transaction. -/
structure AdmittedAlike (c : NetdClient) (session : NetdSession) (m : Option TransactionRecord) :
    Prop where
  client : ClientAdmits c ↔ Serving m
  session : SessionAdmits session ↔ Serving m
  transaction : TransactionAdmits m ↔ Serving m

/-- The layers of a service in step admit the reconciliation alike exactly if the session is not
suspended and the client does not wait for a replacement. -/
theorem admitted_alike_iff {c : NetdClient} {s : NetdService TransactionRecord}
    (hclient : ClientInStep s.session c.phase) (hstep : InStep s.session s.network.record) :
    AdmittedAlike c s.session s.network.record
      ↔ s.session.phase ≠ .suspended ∧ (c.phase = .active → s.session.phase = .active) := by
  have hserving : Serving s.network.record
      ↔ (s.session.phase = .active ∨ s.session.phase = .suspended) := by
    rw [hstep.active, hstep.suspended, ← exists_or]
    exact exists_congr fun r => and_or_left
  constructor
  · intro h
    have hsession := (sessionAdmits_iff s.session).symm.trans h.session
    have hclient := (clientAdmits_iff c).symm.trans h.client
    rw [hserving] at hsession hclient
    constructor
    · intro hsuspended
      rw [hsuspended] at hsession
      simp at hsession
    · intro hactive
      exact hsession.mpr (hclient.mp (.inl hactive))
  · rintro ⟨hsuspended, hactive⟩
    refine ⟨?_, ?_, transactionAdmits_iff _⟩
    · rw [clientAdmits_iff, hserving]
      cases hphase : c.phase with
      | stopped =>
        rw [hphase] at hclient
        simp [show s.session.phase = .stopped from hclient]
      | prepared =>
        rw [hphase] at hclient
        simp [show s.session.phase = .prepared from hclient.1]
      | active => simp [hactive hphase]
      | suspended =>
        rw [hphase] at hclient
        exact absurd hclient hsuspended
    · rw [sessionAdmits_iff, hserving]
      simp [hsuspended]

namespace Sample

/-- A client of the service in the given phase. -/
def client (phase : ClientPhase) : NetdClient :=
  { owner := NetdV1.Sample.owner, nextRequestId := some 5, phase }

/-- The service after a first declaration, its commit and a suspension. -/
def suspended : NetdService TransactionRecord :=
  NetdV1.Sample.service [.prepare NetdV1.Sample.declaration, .commit, .suspend]

theorem committed_reachable : ServiceReachable Attended
    (NetdV1.Sample.service [.prepare NetdV1.Sample.declaration, .commit]) := by
  have hprepare : ServiceReachable Attended
      (NetdV1.Sample.service [.prepare NetdV1.Sample.declaration]) :=
    NetdV1.Sample.reachable_serveOnce (.prepare NetdV1.Sample.declaration) ⟨1, .prepared 3 true⟩
      ⟨1000, 1000, .refl⟩ (fun _ _ _ _ => rfl) (by decide)
  refine NetdV1.Sample.reachable_serveOnce .commit ⟨1, .committed 3⟩ hprepare ?_ (by decide)
  intro _ _ _ _
  exact Or.inl rfl

theorem suspended_reachable : ServiceReachable Attended suspended :=
  NetdV1.Sample.reachable_serveOnce .suspend ⟨1, .suspended 3⟩ committed_reachable
    (fun _ _ => trivial) (by decide)

theorem inStep_of_record {s : NetdService TransactionRecord} (phase : TransactionPhase)
    (h : ServiceReachable Attended s) (hphase : s.network.record.map (·.phase) = some phase)
    (hforward : phase ≠ .rollingBack) : InStep s.session s.network.record := by
  rcases (inStep_of_reachable h).1 with hunwinding | hstep
  · obtain ⟨r, hr, hrolling⟩ := hunwinding
    rw [hr] at hphase
    have hphase : r.phase = phase := Option.some.inj hphase
    rw [← hphase, hrolling] at hforward
    exact absurd rfl hforward
  · exact hstep

end Sample

/-- While the transaction is active the layers agree. -/
theorem active_admitted_alike :
    AdmittedAlike (Sample.client .active)
      (NetdV1.Sample.service [.prepare NetdV1.Sample.declaration, .commit]).session
      (NetdV1.Sample.service [.prepare NetdV1.Sample.declaration, .commit]).network.record :=
  (admitted_alike_iff (c := Sample.client .active) (.inl (by decide))
    (Sample.inStep_of_record .active Sample.committed_reachable (by decide) (by decide))).mpr
    ⟨by decide, fun _ => by decide⟩

/-- While it is suspended the session refuses what the client and the transaction admit. -/
theorem suspended_not_admitted_alike :
    ¬ ∀ (c : NetdClient) (s : NetdService TransactionRecord), ServiceReachable Attended s →
      ClientInStep s.session c.phase → InStep s.session s.network.record →
      AdmittedAlike c s.session s.network.record := by
  intro h
  have halike := h (Sample.client .suspended) Sample.suspended Sample.suspended_reachable
    (show Sample.suspended.session.phase = .suspended by decide)
    (Sample.inStep_of_record .suspended Sample.suspended_reachable (by decide) (by decide))
  have hserving : Serving Sample.suspended.network.record :=
    halike.client.mp ((clientAdmits_iff _).mpr (.inr rfl))
  have hadmits := (sessionAdmits_iff _).mp (halike.session.mpr hserving)
  revert hadmits
  decide

end CandyRuntime.NetdIpc
