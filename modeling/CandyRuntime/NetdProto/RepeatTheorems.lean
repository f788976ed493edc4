import CandyRuntime.NetdProto.SessionTheorems

/-!
# A request that is sent twice

A session that has accepted a request may see it again, under another request number. Some
operations are accepted again and change nothing (`apply_again`), the others move the session to
where it does not accept them any more (`apply_refused`).
-/

namespace CandyRuntime.NetdProto

variable {session fenced next : NetdSession} {request : NetdRequest} {owner : LeaseOwner}
variable {requestId : UInt64}

/-- The part of an owner that the daemon compares. -/
def LeaseOwner.SameAs (a b : LeaseOwner) : Prop :=
  a.instanceId = b.instanceId ∧ a.pid = b.pid ∧ a.generation = b.generation

/-- The session does not leave the phase in which it accepts the operation. -/
def NetdOperation.repeats : NetdOperation → Bool
  | .mtuUpdate _ | .suspend | .resume | .drain _ => false
  | _ => true

/-- The request under another number. -/
def NetdRequest.numbered (request : NetdRequest) (requestId : UInt64) : NetdRequest :=
  { request with requestId }

/-! ## The owner -/

theorem fence_same (howner : session.owner = some owner) (hsame : owner.SameAs request.owner) :
    session.fence request = .ok session := by
  obtain ⟨hinstance, hpid, hgeneration⟩ := hsame
  have hother : otherGeneration owner request.owner = false := by
    simp [otherGeneration, hgeneration]
  have hlt : ¬ owner.generation < request.owner.generation := by
    simp [hgeneration]
  unfold NetdSession.fence
  simp only [howner, hother, Bool.and_false, Bool.false_eq_true, if_false, hlt, decide_false]
  by_cases hstopped : (session.phase == .stopped && request.operation.isPrepare) = true
  · simp [hstopped, hgeneration]
  · simp [hstopped, hinstance, hpid, hgeneration]

/-- Unless a session is started again, it is given a request of its owner, or one that brings the next
owner. -/
theorem fence_owner (hprepare : (session.phase == .stopped && request.operation.isPrepare) = false)
    (howner : session.owner = some owner) (h : session.fence request = .ok fenced) :
    ∃ o, fenced.owner = some o ∧ o.SameAs request.owner := by
  unfold NetdSession.fence at h
  simp only [howner, hprepare, Bool.false_and, Bool.false_eq_true, if_false] at h
  split at h
  · exact ⟨request.owner, by rw [← Except.ok.inj h], rfl, rfl, rfl⟩
  split at h
  · exact ⟨request.owner, by rw [← Except.ok.inj h], rfl, rfl, rfl⟩
  split at h
  · exact ⟨request.owner, by rw [← Except.ok.inj h], rfl, rfl, rfl⟩
  split at h
  · simp at h
  split at h
  · simp at h
  · rename_i hmismatch hgeneration
    simp only [Bool.or_eq_true, bne_iff_ne, not_or, not_not] at hmismatch hgeneration
    exact ⟨owner, by rw [← Except.ok.inj h, howner], hmismatch.1, hmismatch.2, hgeneration⟩

/-! ## The operation -/

theorem advance_numbered (requestId : UInt64) :
    session.advance (request.numbered requestId) = session.advance request := rfl

theorem fence_numbered (requestId : UInt64) :
    session.fence (request.numbered requestId) = session.fence request := rfl

/-- An operation that repeats leaves the session where it is accepted again. -/
theorem advance_again (h : fenced.advance request = .ok next)
    (hrepeats : request.operation.repeats = true) : next.advance request = .ok next := by
  unfold NetdSession.advance at h ⊢
  cases hop : request.operation with
  | prepare declaration =>
    simp only [hop, NetdSession.applyPrepare] at h ⊢
    grind
  | reconfigure declaration =>
    simp only [hop, NetdSession.applyReconfigure] at h ⊢
    grind
  | commit =>
    simp only [hop] at h ⊢
    grind
  | rollback =>
    simp only [hop] at h ⊢
    grind
  | status =>
    simp only [hop] at h ⊢
  | leaseRenew =>
    simp only [hop] at h ⊢
    grind
  | withdrawPrefixes prefixes =>
    simp only [hop] at h ⊢
    grind
  | policyUpdate declaration =>
    simp only [hop] at h ⊢
    have hself : sameTunnel declaration declaration = true := by simp [sameTunnel]
    grind
  | mtuUpdate mtu =>
    rw [hop] at hrepeats
    exact absurd hrepeats Bool.false_ne_true
  | suspend =>
    rw [hop] at hrepeats
    exact absurd hrepeats Bool.false_ne_true
  | resume =>
    rw [hop] at hrepeats
    exact absurd hrepeats Bool.false_ne_true
  | drain now =>
    rw [hop] at hrepeats
    exact absurd hrepeats Bool.false_ne_true

/-- The other operations leave it where they are not. -/
theorem advance_refused (h : fenced.advance request = .ok next)
    (hrepeats : request.operation.repeats = false) : ∃ e, next.advance request = .error e := by
  unfold NetdSession.advance at h ⊢
  cases hop : request.operation with
  | mtuUpdate mtu =>
    -- the declaration has the new MTU now, and an update has to lower it
    simp only [hop] at h ⊢
    split at h
    · simp at h
    · split at h
      · simp at h
      · rw [← Except.ok.inj h]
        exact ⟨.invalidTransition, if_pos (.inr (by simp))⟩
  | suspend =>
    simp only [hop] at h ⊢
    split at h
    · simp at h
    · rw [← Except.ok.inj h]
      exact ⟨.invalidTransition, if_pos (by simp)⟩
  | resume =>
    simp only [hop] at h ⊢
    split at h
    · simp at h
    · rw [← Except.ok.inj h]
      exact ⟨.invalidTransition, if_pos (by simp)⟩
  | drain now =>
    simp only [hop] at h ⊢
    split at h
    · simp at h
    · rw [← Except.ok.inj h]
      exact ⟨.invalidTransition, if_pos (by simp)⟩
  | _ =>
    rw [hop] at hrepeats
    exact absurd hrepeats.symm Bool.false_ne_true

/-! ## The request -/

theorem validate_of_apply (h : session.apply request = .ok next) : request.validate = .ok () := by
  unfold NetdSession.apply at h
  cases hv : request.validate with
  | error e => simp [hv, Except.mapError, bind, Except.bind] at h
  | ok _ => rfl

theorem validate_numbered (h : request.validate = .ok ()) (hid : requestId ≠ 0) :
    (request.numbered requestId).validate = .ok () := by
  have hid' : (requestId == 0) = false := by simpa using hid
  unfold NetdRequest.validate at h ⊢
  unfold NetdRequest.numbered
  cases hzero : (request.requestId == 0) with
  | true => simp [hzero, refuseIf, bind, Except.bind] at h
  | false => simpa [hzero, hid'] using h

theorem apply_of_fence (hv : request.validate = .ok ()) (hf : session.fence request = .ok fenced) :
    session.apply request = fenced.advance request := by
  unfold NetdSession.apply
  rw [hv, hf]
  rfl

/-- The request is accepted again, and changes nothing. -/
theorem apply_again (h : session.apply request = .ok next) (howner : next.owner = some owner)
    (hsame : owner.SameAs request.owner) (hrepeats : request.operation.repeats = true)
    (hid : requestId ≠ 0) :
    next.apply (request.numbered requestId) = .ok next := by
  obtain ⟨fenced, _, hadvance⟩ := apply_eq_ok h
  have hfence : next.fence (request.numbered requestId) = .ok next := by
    rw [fence_numbered]
    exact fence_same howner hsame
  rw [apply_of_fence (validate_numbered (validate_of_apply h) hid) hfence, advance_numbered]
  exact advance_again hadvance hrepeats

/-- The request is not accepted again. -/
theorem apply_refused (h : session.apply request = .ok next) (howner : next.owner = some owner)
    (hsame : owner.SameAs request.owner) (hrepeats : request.operation.repeats = false)
    (hid : requestId ≠ 0) :
    ∃ e, next.apply (request.numbered requestId) = .error e := by
  obtain ⟨fenced, _, hadvance⟩ := apply_eq_ok h
  have hfence : next.fence (request.numbered requestId) = .ok next := by
    rw [fence_numbered]
    exact fence_same howner hsame
  rw [apply_of_fence (validate_numbered (validate_of_apply h) hid) hfence, advance_numbered]
  exact advance_refused hadvance hrepeats

/-! ## Every request -/

/-- The owner stays, is the sender, or there is nothing that runs. -/
theorem advance_names (h : fenced.advance request = .ok next) (hop : request.operation ≠ .status) :
    next.owner = some request.owner
      ∨ next.owner = fenced.owner ∧ fenced.owner ≠ none
        ∧ (fenced.phase == .stopped && request.operation.isPrepare) = false
      ∨ next.owner = fenced.owner ∧ fenced.phase ≠ .stopped := by
  unfold NetdSession.advance at h
  cases hcase : request.operation with
  | prepare declaration => grind [NetdSession.applyPrepare]
  | reconfigure declaration => grind [NetdSession.applyReconfigure]
  | commit => grind
  | rollback => grind [NetdOperation.isPrepare]
  | status => exact absurd hcase hop
  | leaseRenew => grind
  | mtuUpdate mtu => grind
  | suspend => grind
  | resume => grind
  | drain now => grind
  | withdrawPrefixes prefixes => grind
  | policyUpdate declaration => grind

/-- Whoever has a request accepted is the owner, unless it only asks for the status. -/
theorem owner_of_apply (hreach : SessionReachable session) (h : session.apply request = .ok next)
    (hop : request.operation ≠ .status) :
    ∃ owner, next.owner = some owner ∧ owner.SameAs request.owner := by
  obtain ⟨fenced, hfence, hadvance⟩ := apply_eq_ok h
  obtain ⟨hphase, _⟩ := fence_keeps hfence
  have hkept : (session.phase == .stopped && request.operation.isPrepare) = false →
      session.owner ≠ none → next.owner = fenced.owner →
        ∃ owner, next.owner = some owner ∧ owner.SameAs request.owner := by
    intro hprepare hsome hnext
    obtain ⟨owner, howner⟩ := Option.ne_none_iff_exists'.mp hsome
    rw [hnext]
    exact fence_owner hprepare howner hfence
  rcases advance_names hadvance hop with hsender | ⟨hnext, hsome, hprepare⟩ | ⟨hnext, hrunning⟩
  · exact ⟨request.owner, hsender, rfl, rfl, rfl⟩
  · rw [hphase] at hprepare
    refine hkept hprepare (fun hnone => hsome ?_) hnext
    unfold NetdSession.fence at hfence
    rw [hnone] at hfence
    rw [← Except.ok.inj hfence, hnone]
  · rw [hphase] at hrunning
    have hstopped : (session.phase == .stopped) = false := by simpa using hrunning
    exact hkept (by rw [hstopped, Bool.false_and]) (owner_of_reachable hreach hrunning) hnext

/-- Asking for the status is not a change of the owner. -/
theorem fence_status (hop : request.operation = .status) (h : session.fence request = .ok fenced) :
    fenced = session := by
  unfold NetdSession.fence at h
  simp only [hop, NetdOperation.isPrepare, NetdOperation.isReconfigure,
    NetdOperation.isReplacementStep, Bool.and_false, Bool.false_and, Bool.false_eq_true, if_false]
    at h
  grind

theorem apply_status_again (hop : request.operation = .status)
    (h : session.apply request = .ok next) (hid : requestId ≠ 0) :
    next.apply (request.numbered requestId) = .ok next := by
  obtain ⟨fenced, hfence, hadvance⟩ := apply_eq_ok h
  have hsame : fenced = session := fence_status hop hfence
  have hnext : next = session := by
    rw [NetdSession.advance, hop] at hadvance
    rw [← Except.ok.inj hadvance, hsame]
  have hagain : next.fence (request.numbered requestId) = .ok fenced := by
    rw [fence_numbered, hnext]
    exact hfence
  rw [apply_of_fence (validate_numbered (validate_of_apply h) hid) hagain, advance_numbered]
  rw [NetdSession.advance, hop, hsame, hnext]

/-- A request that was accepted in a run is accepted once more and changes nothing, or it is one of
the four that leave the phase they are accepted in, and then it is refused. -/
theorem resent (hreach : SessionReachable session) (h : session.apply request = .ok next)
    {requestId : UInt64} (hid : requestId ≠ 0) :
    (request.operation.repeats = true → next.apply (request.numbered requestId) = .ok next)
      ∧ (request.operation.repeats = false →
        ∃ e, next.apply (request.numbered requestId) = .error e) := by
  by_cases hop : request.operation = .status
  · refine ⟨fun _ => apply_status_again hop h hid, fun hrepeats => ?_⟩
    rw [hop] at hrepeats
    exact absurd hrepeats.symm Bool.false_ne_true
  · obtain ⟨owner, howner, hsame⟩ := owner_of_apply hreach h hop
    exact ⟨fun hrepeats => apply_again h howner hsame hrepeats hid,
      fun hrepeats => apply_refused h howner hsame hrepeats hid⟩

namespace Sample

/-- A router that starts with one remote site. -/
def prepareRequest : NetdRequest :=
  { requestId := 1
    owner := { instanceId := Vector.replicate 16 1, pid := 7, generation := 3,
               leaseDeadlineMonoMs := 100 }
    operation := .prepare
      { tableId := 20000, overlayRouterIpv4 := 0x64400002, effectiveMtu := 1200,
        routes := [{ ipv4Prefix := { network := 0x0a020000, prefixLen := 16 }, kind := .remote }],
        exclusions :=
          [{ ipv4Prefix := { network := 0xc0000201, prefixLen := 32 }, kind := .cloudApi }],
        firewall := { allowForward := true, clampTcpMss := true, requireIpv4Forwarding := true,
                      manageRpFilter := true } } }

/-- The session it leaves. -/
def preparedSession : NetdSession :=
  (NetdSession.new.apply prepareRequest).toOption.getD .new

end Sample

/-- The reply to the first request of a session is lost, and the request is sent once more. -/
theorem resent_prepare :
    Sample.preparedSession.phase = .prepared
      ∧ Sample.preparedSession.apply (Sample.prepareRequest.numbered 2)
        = .ok Sample.preparedSession := by
  refine ⟨by decide, ?_⟩
  have hfirst : NetdSession.new.apply Sample.prepareRequest = .ok Sample.preparedSession := by
    decide
  exact (resent Relation.ReflTransGen.refl hfirst (by decide)).1 rfl

end CandyRuntime.NetdProto
