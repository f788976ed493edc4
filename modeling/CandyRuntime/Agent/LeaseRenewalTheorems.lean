import CandyRuntime.Agent.LeaseRenewal
import CandyRuntime.NetdV2.RenewalTheorems

/-!
# A lost renewal and the revocation after it

The owner of the agent has the deadline of the last renewal it tried, the one of netd that of the
last renewal netd carried out (`renewing_agrees`). A revocation names the whole owner, so netd takes
it exactly if the two deadlines are the same.
-/

namespace CandyRuntime.Agent

open Lib Lib.Proc NetdProto NetdV2

variable {E : Surroundings} {q : Requester} {start s : Supervision} {attempts : List Attempt}

/-- The owner of a later lease. -/
def leased (owner : ForwardOwner) (deadline : ℕ) : ForwardOwner :=
  { owner with leaseDeadlineMonoMs := deadline }

/-- Agent and netd agree on a valid owner, and the agent is the administrator. -/
structure InStep (q : Requester) (s : Supervision) : Prop where
  valid : s.owner.validate = .ok ()
  owned : Owned s.owner (some q.instanceId) s.netd.state

/-- The agent is one whose requests netd takes. -/
structure Authorized (q : Requester) (w : InfrastructureService) : Prop where
  instanceId : q.instanceId ≠ InstanceId.zero
  pid : q.peer.pid ≠ 0
  peer : q.peer.uid = w.allowedUid ∧ q.peer.gid = w.allowedGid

theorem deadlineAfter_snoc (owner : ForwardOwner) (attempts : List Attempt) (a : Attempt) :
    deadlineAfter owner (attempts ++ [a]) = (renewedOwner owner a.monoMs).leaseDeadlineMonoMs := by
  simp [deadlineAfter]

/-- What the agent and netd hold after some renewals. -/
structure Agrees (q : Requester) (start : Supervision) (attempts : List Attempt) (s : Supervision) :
    Prop where
  agent : s.owner = leased start.owner (deadlineAfter start.owner attempts)
  netd : Owned (leased start.owner (deadlineAfter start.owner (attempts.filter (·.carriedOut))))
    (some q.instanceId) s.netd.state

theorem renewing_agrees (hstart : InStep q start) (h : Renewing E q start attempts s) :
    Agrees q start attempts s := by
  induction h with
  | start => exact ⟨rfl, hstart.owned⟩
  | @requestLost attempts s monoMs h ih =>
    have hagent : renewedOwner s.owner monoMs = leased start.owner
        (deadlineAfter start.owner (attempts ++ [⟨monoMs, false⟩])) := by
      rw [deadlineAfter_snoc, ih.agent]
      rfl
    exact ⟨hagent, by simpa using ih.netd⟩
  | @handled attempts s netd result monoMs requestId now h hrun ih =>
    have hagent : renewedOwner s.owner monoMs = leased start.owner
        (deadlineAfter start.owner (attempts ++ [⟨monoMs, result.isOk⟩])) := by
      rw [deadlineAfter_snoc, ih.agent]
      rfl
    refine ⟨hagent, ?_⟩
    -- What was carried out is now the recorded owner; what was refused has changed nothing.
    have hrenew : Triple (fun v => Owned (leased start.owner
          (deadlineAfter start.owner (attempts.filter (·.carriedOut)))) (some q.instanceId) v.state)
        (process E (q.request requestId (.forwardLeaseRenew (renewedOwner s.owner monoMs)))
          q.peer now) (fun _ v => Owned (renewedOwner s.owner monoMs) (some q.instanceId) v.state
            ∧ _) (fun _ v => Owned _ (some q.instanceId) v.state) (fun _ => True) :=
      process_renews rfl
    have hprocess := hrenew.conseq (fun _ h => h) (fun _ _ h => h.1) (fun _ _ h => h)
      (fun _ h => h) s.netd ih.netd
    have hrenews := of_attempt (Q := fun result w => match result with
      | .ok _ => Owned (renewedOwner s.owner monoMs) (some q.instanceId) w.state
      | .error _ => Owned (leased start.owner
          (deadlineAfter start.owner (attempts.filter (·.carriedOut)))) (some q.instanceId) w.state)
      hprocess hrun
    cases result with
    | ok reply =>
      have hlast : deadlineAfter start.owner
          ((attempts ++ [(⟨monoMs, true⟩ : Attempt)]).filter (·.carriedOut))
          = (renewedOwner start.owner monoMs).leaseDeadlineMonoMs := by
        rw [List.filter_append]
        exact deadlineAfter_snoc _ _ _
      show Owned (leased start.owner (deadlineAfter start.owner
        ((attempts ++ [(⟨monoMs, true⟩ : Attempt)]).filter (·.carriedOut)))) (some q.instanceId) netd.state
      rw [hlast]
      rw [ih.agent] at hrenews
      exact hrenews
    | error e =>
      rw [List.filter_append]
      simpa [Except.isOk, Except.toBool] using hrenews
  | @recovered attempts s netd result now h hrun ih =>
    refine ⟨ih.agent, ?_⟩
    have hsteers : Steers (leased start.owner (deadlineAfter start.owner
        (attempts.filter (·.carriedOut)))) (some q.instanceId) (recoverExpired E now) :=
      recoverExpired_steers
    have hkept := hsteers.conseq (fun _ h => h) (fun _ _ h => h) (fun _ _ h => h.2)
      (fun _ h => h) s.netd ih.netd
    exact of_attempt (Q := fun _ w => Owned _ (some q.instanceId) w.state) hkept hrun

/-- A renewal is never past the authorization, and never at zero. -/
theorem validate_leased {owner : ForwardOwner} (h : owner.validate = .ok ())
    (attempts : List Attempt) : (leased owner (deadlineAfter owner attempts)).validate = .ok () := by
  have hdeadline : 0 < deadlineAfter owner attempts
      ∧ deadlineAfter owner attempts ≤ owner.authDeadlineMonoMs := by
    rw [ForwardOwner.validate, refuseIf_eq_ok] at h
    simp only [Bool.or_eq_false_iff, beq_eq_false_iff_ne, decide_eq_false_iff_not] at h
    induction attempts using List.reverseRecOn with
    | nil =>
      show 0 < owner.leaseDeadlineMonoMs ∧ owner.leaseDeadlineMonoMs ≤ owner.authDeadlineMonoMs
      omega
    | append_singleton attempts a ih =>
      rw [deadlineAfter_snoc]
      show 0 < min _ _ ∧ min _ _ ≤ _
      omega
  rw [ForwardOwner.validate, refuseIf_eq_ok] at h ⊢
  simp only [Bool.or_eq_false_iff, beq_eq_false_iff_ne, decide_eq_false_iff_not] at h ⊢
  obtain ⟨hpositive, hle⟩ := hdeadline
  refine ⟨⟨h.1.1, ?_⟩, ?_⟩
  · show deadlineAfter owner attempts ≠ 0
    omega
  · show ¬ owner.authDeadlineMonoMs < deadlineAfter owner attempts
    omega

/-- netd still forwards for the owner's token, whose deadlines are not over. -/
def Serves (s : Supervision) (now : ℕ) : Prop :=
  ∃ f, s.netd.state.forward = some f ∧ f.owner.fencingToken = s.owner.fencingToken
    ∧ f.phase = .active ∧ ownerIsLive f.owner now = true

/-- The recovery in front of a request works. -/
def RecoveryWorks (E : Surroundings) (w : InfrastructureService) (now : ℕ) : Prop :=
  ∃ found v, recoverExpired E now w = (.ok found, v)

/-- While netd forwards for the owner, it refuses no revocation and no failed prefixes of the agent
as those of a stale owner, exactly if the last renewal that was tried has the deadline of the last
one that netd carried out. -/
theorem takesBack_iff {now requestId : ℕ} (hstart : InStep q start)
    (hrun : Renewing E q start attempts s) (hauthorized : Authorized q s.netd)
    (hrequest : requestId ≠ 0) :
    (Serves s now → ∀ operation, operation.TakesBack s.owner →
        (process E (q.request requestId operation) q.peer now s.netd).1 ≠ .err staleOwner)
      ↔ (Serves s now → RecoveryWorks E s.netd now →
        deadlineAfter start.owner attempts
          = deadlineAfter start.owner (attempts.filter (·.carriedOut))) := by
  have hagrees := renewing_agrees hstart hrun
  constructor
  · intro h hserves ⟨found, v, hrecover⟩
    by_contra hne
    have hother : s.owner ≠ leased start.owner
        (deadlineAfter start.owner (attempts.filter (·.carriedOut))) := by
      intro heq
      rw [hagrees.agent] at heq
      exact hne (congrArg ForwardOwner.leaseDeadlineMonoMs heq)
    have hvalid : (q.request requestId (.forwardRevoke s.owner)).validate = .ok () := by
      have hheader : refuseIf (requestId == 0 || q.instanceId == InstanceId.zero
          || q.peer.pid == 0) NetdProtocolError.invalidRequest = .ok () := by
        rw [refuseIf_eq_ok]
        simp [hrequest, hauthorized.instanceId, hauthorized.pid]
      have howner : s.owner.validate = .ok () := by
        rw [hagrees.agent]
        exact validate_leased hstart.valid attempts
      unfold Request.validate Requester.request
      dsimp only
      rw [hheader]
      exact howner
    have hauthentic : Authentic s.netd (q.request requestId (.forwardRevoke s.owner)) q.peer :=
      ⟨by rw [hvalid]; rfl, hauthorized.peer.1, hauthorized.peer.2, rfl⟩
    exact h hserves (.forwardRevoke s.owner) rfl (forwardRevoke_stale rfl hauthentic hagrees.netd
      (by rw [hagrees.agent]; rfl) hother hrecover)
  · intro h hserves operation hoperation
    by_cases hrecovery : RecoveryWorks E s.netd now
    · have hsame : s.owner = leased start.owner
          (deadlineAfter start.owner (attempts.filter (·.carriedOut))) := by
        rw [← h hserves hrecovery]
        exact hagrees.agent
      have hnetd := hagrees.netd
      rw [← hsame] at hnetd
      have htakes : Triple (fun v => Owned s.owner (some q.instanceId) v.state)
          (process E (q.request requestId operation) q.peer now) (fun _ _ => True)
          (fun e _ => e ≠ staleOwner) (fun _ => True) := process_takesBack hoperation
      have hanswer := htakes s.netd hnetd
      unfold wp at hanswer
      split at hanswer <;> rename_i heq <;> rw [heq]
      · simp
      · simpa using hanswer
      · simp
    · have hforwards : operation.forwards = true := hoperation.forwards
      exact process_ne_stale_of_unrecovered hforwards hagrees.netd
        fun found v hrecover => hrecovery ⟨found, v, hrecover⟩

/-! ## A renewal that does not arrive -/

section Sample

open NetdV2.Sample

/-- An owner with a lease of thirty seconds. -/
def renewable : ForwardOwner :=
  { owner 1 with authDeadlineMonoMs := 100000, leaseDeadlineMonoMs := 30000 }

/-- It is prepared and committed. -/
def committed : InfrastructureService :=
  [ask (.infraEnsure spec), ask (.forwardPrepare (ident 1) 1 renewable (declaration 2)),
    ask (.forwardCommit renewable)].foldl (stepOnce surroundings) (.fresh 0 0)

def supervisor : Requester := ⟨ident 9, peer⟩

theorem inStep_committed : InStep supervisor ⟨renewable, committed⟩ where
  valid := by decide
  owned := {
    forward := by decide
    candidate := by
      have hnone : committed.state.candidate = none := by decide
      intro c hc
      rw [show committed.state.candidate = some c from hc] at hnone
      exact absurd hnone (by simp)
    administrator := by decide }

/-- The renewal reaches netd, and its reply is lost. -/
def renewed : InfrastructureService :=
  (process surroundings (supervisor.request 2 (.forwardLeaseRenew (renewedOwner renewable 1000)))
    peer 1000 committed).2

theorem renewing_renewed : Renewing surroundings supervisor ⟨renewable, committed⟩ [⟨1000, true⟩]
    ⟨renewedOwner renewable 1000, renewed⟩ := by
  have hanswer : (process surroundings (supervisor.request 2
      (.forwardLeaseRenew (renewedOwner renewable 1000))) peer 1000 committed).1
      = .ok (.ack, false) := by decide
  have hprocess : process surroundings (supervisor.request 2
      (.forwardLeaseRenew (renewedOwner renewable 1000))) peer 1000 committed
      = (.ok (.ack, false), renewed) := Prod.ext hanswer rfl
  have hrenewed : attempt (process surroundings (supervisor.request 2
      (.forwardLeaseRenew (renewedOwner renewable 1000))) peer 1000) committed
      = (.ok (.ok (.ack, false)), renewed) := by
    unfold attempt
    rw [hprocess]
  have hstart : Renewing surroundings supervisor ⟨renewable, committed⟩ []
      ⟨renewable, committed⟩ := .start
  have hhandled := Renewing.handled 1000 2 1000 hstart hrenewed
  exact hhandled

theorem serves_renewed : Serves ⟨renewedOwner renewable 1000, renewed⟩ 1001 := by
  have hserves : renewed.state.forward.map (fun f => (f.owner.fencingToken, f.phase,
      ownerIsLive f.owner 1001)) = some (1, .active, true) := by decide
  obtain ⟨f, hforward, hf⟩ := Option.map_eq_some_iff.mp hserves
  simp only [Prod.mk.injEq] at hf
  exact ⟨f, hforward, hf.1, hf.2.1, hf.2.2⟩

theorem takesBack_renewed :
    (process surroundings (supervisor.request 3 (.forwardRevoke (renewedOwner renewable 1000)))
      peer 1001 renewed).1 ≠ .err staleOwner := by
  have hpeer : supervisor.peer.uid = renewed.allowedUid
      ∧ supervisor.peer.gid = renewed.allowedGid := by decide
  have hserves : Serves ⟨renewedOwner renewable 1000, renewed⟩ 1001 := serves_renewed
  exact (takesBack_iff inStep_committed renewing_renewed ⟨by decide, by decide, hpeer⟩
    (show 3 ≠ 0 by decide)).mpr (fun _ _ => rfl) hserves _ rfl

/-- The renewal is lost on its way to netd: the revocation after it is refused as stale. -/
theorem not_takesBack_lost :
    ¬ ∀ (E : Surroundings) (q : Requester) (start s : Supervision) (attempts : List Attempt)
        (now requestId : ℕ) (operation : Operation), InStep q start →
      Renewing E q start attempts s → Authorized q s.netd → requestId ≠ 0 → Serves s now →
      operation.TakesBack s.owner →
      (process E (q.request requestId operation) q.peer now s.netd).1 ≠ .err staleOwner := by
  intro h
  have hserves : committed.state.forward.map (fun f => (f.owner.fencingToken, f.phase,
      ownerIsLive f.owner 1001)) = some (1, .active, true) := by decide
  obtain ⟨f, hforward, hf⟩ := Option.map_eq_some_iff.mp hserves
  simp only [Prod.mk.injEq] at hf
  refine h surroundings supervisor ⟨renewable, committed⟩
    ⟨renewedOwner renewable 1000, committed⟩ [⟨1000, false⟩] 1001 3
    (.forwardRevoke (renewedOwner renewable 1000)) inStep_committed (.requestLost 1000 .start)
    ⟨by decide, by decide, by decide, by decide⟩ (by decide)
    ⟨f, hforward, hf.1, hf.2.1, hf.2.2⟩ rfl ?_
  decide

end Sample

end CandyRuntime.Agent
