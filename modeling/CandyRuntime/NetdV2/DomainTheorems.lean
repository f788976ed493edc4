import CandyRuntime.NetdV2.DomainInvariants

/-!
# The I/O bindings of the domains

Whoever has a reservation that can still be rolled back for the first time has the permit of
its domain. The table of bindings is therefore a ledger with one open reservation a domain, and
what holds of such ledgers holds of it: live bindings of two domains do not share a process, a
rollback undoes its own reservation only, and after a failed acquisition the domain has the
binding it had before.
-/

namespace CandyRuntime.NetdV2

open Lib Lib.Proc NetdProto NetdV1

variable {identity : DomainIdentity} {request : Request} {domains : List DomainIdentity}
  {r : IoRollback}
variable {E : Surroundings} {n : ℕ} {s : MultiDomainService}
variable {journals : List (DomainIdentity × Option IoOwner × Reads)}
  {rollback : Option IoRollback} {bindings : Bindings} {owner : IoOwner} {failing : Reads}
  {o : IoOwner} {m : ℕ}

/-! ## Liveness -/

/-- What is found dead is dead. -/
theorem not_alive_of_ioOwnerAlive {m : Moment} (h : m.ioOwnerAlive failing o = false) :
    ¬ Alive m o := by
  rintro ⟨hboot, stat, hstat, hz, hx, hticks⟩
  rw [Moment.ioOwnerAlive, if_neg (fun hne => hne.2 hboot)] at h
  split at h
  · exact absurd h (by simp)
  · rw [hstat] at h
    simp [hz, hx, hticks] at h

theorem IoOwner.Shares.symm {o o' : IoOwner} (h : o.Shares o') : o'.Shares o := by
  rcases h with h | ⟨hpid, hticks, hboot⟩
  · exact Or.inl h.symm
  · exact Or.inr ⟨hpid.symm, hticks.symm, hboot.symm⟩

/-- What `validate_io_binding` has found: the binding of the domain is dead, and so is every
binding of another domain that shares the process. -/
theorem validateIoBinding_eq_ok {alive : IoOwner → Bool} {domainId : InstanceId}
    (h : validateIoBinding domains alive bindings domainId owner = .ok ()) :
    (∀ b, bindings domainId = some b → alive b.owner = false)
      ∧ ∀ identity ∈ domains, ∀ b, identity.domainId ≠ domainId →
        bindings identity.domainId = some b → b.owner.Shares owner → alive b.owner = false := by
  unfold validateIoBinding at h
  split at h
  · exact absurd h (by simp)
  · rename_i hothers
    split at h
    · exact absurd h (by simp)
    · rename_i hown
      constructor
      · intro b hb
        simpa [hb] using hown
      · intro identity hidentity b hne hb hshares
        simp only [List.any_eq_true, not_exists, not_and] at hothers
        simpa [hb, hne, hshares] using hothers identity hidentity

/-! ## The ledger -/

/-- The table of bindings as a ledger. -/
def MultiDomainService.ledger (s : MultiDomainService)
    (opened : InstanceId → Option (Reservation InstanceId IoBinding)) :
    Ledger InstanceId IoBinding where
  slot := s.bindings
  opened := opened
  history := s.history
  failed := s.failed

/-- The bindings are those of a ledger whose open reservations are with the permits. -/
structure Recorded (E : Surroundings) (n : ℕ) (s : MultiDomainService)
    (opened : InstanceId → Option (Reservation InstanceId IoBinding)) : Prop where
  sound : (s.ledger opened).Sound IoBinding.token
  exclusive : (s.ledger opened).Exclusive (fun b => Died E n b.owner)
    (fun b b' => b.owner.Shares b'.owner)
  pending : ∀ x r, s.pendingAt x = some r →
    s.permitAt x = some r.domainId ∧ ∃ ρ, opened r.domainId = some ρ ∧ r.Of ρ

theorem apply_eq_restore {ρ : Reservation InstanceId IoBinding} (hof : r.Of ρ)
    (bindings : Bindings) :
    r.apply bindings = restore IoBinding.token bindings ρ.key ρ.entry.token ρ.previous := by
  rw [IoRollback.apply, restore, hof.key, hof.token, hof.previous]

variable {opened : InstanceId → Option (Reservation InstanceId IoBinding)}

theorem Recorded.later (h : Recorded E n s opened) (hle : n ≤ m) :
    Recorded E m s opened where
  sound := h.sound
  exclusive := h.exclusive.mono (fun _ _ _ hdead => hdead.mono hle) fun _ _ _ _ _ hdead =>
    hdead.mono hle
  pending := h.pending

/-- The table, the record, the permits and the rollbacks are as before. -/
theorem Recorded.mono {s' : MultiDomainService} (h : Recorded E n s opened)
    (hbindings : s'.bindings = s.bindings) (hhistory : s'.history = s.history)
    (hfailed : s'.failed = s.failed)
    (hpending : ∀ x r, s'.pendingAt x = some r →
      s'.permitAt x = some r.domainId ∧ ∃ ρ, opened r.domainId = some ρ ∧ r.Of ρ) :
    Recorded E n s' opened := by
  have hledger : s'.ledger opened = s.ledger opened := by
    simp only [MultiDomainService.ledger, hbindings, hhistory, hfailed]
  exact ⟨by rw [hledger]; exact h.sound, by rw [hledger]; exact h.exclusive, hpending⟩

/-! ## The invariant -/

/-- What holds in every state, at the moment `n`. -/
structure Invariant (E : Surroundings) (n : ℕ) (s : MultiDomainService) : Prop where
  permits : Permits s.permitAt s.inflight
  posted : Posted s
  numbered : Numbered s
  known : KnownTo E n s
  recorded : ∃ opened, Recorded E n s opened

theorem Invariant.later (h : Invariant E n s) (hle : n ≤ m) : Invariant E m s := by
  obtain ⟨opened, hrecorded⟩ := h.recorded
  exact ⟨h.permits, h.posted, h.numbered, h.known.later hle, opened, hrecorded.later hle⟩

theorem Invariant.permitAt_caller {c : ℕ} {state : Caller} (hc : s.caller c = some state) :
    s.permitAt (.caller c) = state.permit := by
  simp [MultiDomainService.permitAt, hc]

theorem Invariant.pendingAt_caller {c : ℕ} {state : Caller} (hc : s.caller c = some state) :
    s.pendingAt (.caller c) = state.pending := by
  simp [MultiDomainService.pendingAt, hc]

/-- A rollback at another place keeps its permit when a place without one changes. -/
theorem Recorded.pending_update {p : Place → Option InstanceId} {q : Place → Option IoRollback}
    {x : Place} {d : Option InstanceId}
    (h : ∀ y r, q y = some r → p y = some r.domainId ∧ ∃ ρ, opened r.domainId = some ρ ∧ r.Of ρ)
    (y : Place) (r : IoRollback) (hy : Function.update q x none y = some r) :
    Function.update p x d y = some r.domainId ∧ ∃ ρ, opened r.domainId = some ρ ∧ r.Of ρ := by
  by_cases hyx : y = x
  · rw [hyx, Function.update_self] at hy
    exact absurd hy (by simp)
  · rw [Function.update_of_ne hyx] at hy ⊢
    exact h y r hy

/-! ## Steps of a caller -/

section Caller

variable {c : ℕ} {state : Caller}

/-- A caller goes on with what it has: it takes or gives back no permit, and makes no
reservation. -/
theorem Invariant.setCaller (h : Invariant E n s) {state' : Caller}
    (hpermit : state'.permit = s.permitAt (.caller c)) (hpending : state'.pending = none)
    (hlate : (s.caller c).any Caller.late = true → state'.late = true)
    (hwaiting : ∀ r, state' ≠ .waiting r) (hfailing : ∀ r e, state' = .failing r e → s.Settled r)
    (hnumbered : ∀ identity request owner t, state' ≠ .numbered identity request owner t)
    (hbooted : ∀ identity request ioEpoch bootId,
      state' = .booted identity request ioEpoch bootId → ∃ t < n, (E.moment t).bootId = bootId)
    (howner : ∀ o, state'.owner = some o → KnownBy E n o)
    (hidentity : ∀ identity, state'.identity = some identity → identity ∈ s.domains) :
    Invariant E n (s.setCaller c state') := by
  have hsame : Function.update s.permitAt (.caller c) state'.permit = s.permitAt := by
    rw [hpermit, Function.update_eq_self]
  obtain ⟨opened, hrecorded⟩ := h.recorded
  refine ⟨?_, ?_, h.numbered.goOn hnumbered, h.known.setCaller hbooted howner hidentity, opened, ?_⟩
  · rw [MultiDomainService.permitAt_setCaller, hsame]
    exact h.permits
  · exact h.posted.setCaller hlate (fun r hr => absurd hr (hwaiting r)) hfailing
  · refine hrecorded.mono rfl rfl rfl ?_
    intro x r
    rw [MultiDomainService.permitAt_setCaller, MultiDomainService.pendingAt_setCaller, hpending]
    exact Recorded.pending_update hrecorded.pending x r

/-- A caller goes on to the next of the states that come before the request is sent. -/
theorem Invariant.goOn (h : Invariant E n s) (hc : s.caller c = some state) {state' : Caller}
    (hpermit : state'.permit = state.permit) (hpending : state'.pending = none)
    (hlate : state.late = false) (hlate' : state'.late = false)
    (hnumbered : ∀ identity request owner t, state' ≠ .numbered identity request owner t)
    (hbooted : ∀ identity request ioEpoch bootId,
      state' = .booted identity request ioEpoch bootId → ∃ t < n, (E.moment t).bootId = bootId)
    (howner : ∀ o, state'.owner = some o → KnownBy E n o)
    (hidentity : state'.identity = state.identity) : Invariant E n (s.setCaller c state') := by
  refine h.setCaller ?_ hpending ?_ ?_ ?_ hnumbered hbooted howner ?_
  · rw [Invariant.permitAt_caller hc]
    exact hpermit
  · rw [hc, Option.any_some, hlate]
    exact fun hfalse => absurd hfalse (by simp)
  · intro r heq
    rw [heq] at hlate'
    exact absurd hlate' (by simp [Caller.late])
  · intro r e heq
    rw [heq] at hlate'
    exact absurd hlate' (by simp [Caller.late])
  · intro identity hi
    rw [hidentity] at hi
    exact h.known.identity c identity (by rw [hc]; exact hi)

/-- A caller without a permit returns. -/
theorem Invariant.return (h : Invariant E n s) (hpermit : s.permitAt (.caller c) = none)
    (result : ProcessResult) : Invariant E n (s.setCaller c (.returned result)) :=
  h.setCaller hpermit.symm rfl (fun _ => rfl) (by simp) (by simp) (by simp) (by simp)
    (by simp [Caller.owner]) (by simp [Caller.identity])

/-- A caller gives its permit back and returns. -/
theorem Invariant.release (h : Invariant E n s) (hc : s.caller c = some state) {d : InstanceId}
    (hpermit : state.permit = some d) (result : ProcessResult) :
    Invariant E n ((s.setInflight d false).setCaller c (.returned result)) := by
  obtain ⟨opened, hrecorded⟩ := h.recorded
  have hat : s.permitAt (.caller c) = some d := by
    rw [Invariant.permitAt_caller hc, hpermit]
  refine ⟨?_, ?_, ?_, ?_, opened, ?_⟩
  · rw [MultiDomainService.permitAt_setCaller]
    exact h.permits.drop hat
  · exact (h.posted.setInflight d false).goOn (fun _ => rfl) (by simp) (by simp)
  · exact (h.numbered.setInflight d false).goOn (by simp)
  · exact (h.known.setInflight d false).leave rfl rfl
  · refine hrecorded.mono rfl rfl rfl ?_
    intro x r
    rw [MultiDomainService.permitAt_setCaller, MultiDomainService.pendingAt_setCaller]
    exact Recorded.pending_update hrecorded.pending x r

/-- A caller takes the permit of its domain. -/
theorem Invariant.permit (h : Invariant E n s) {owner : Option IoOwner}
    (hc : s.caller c = some (.checked identity request owner))
    (hfree : s.inflight identity.domainId = false) :
    Invariant E n ((s.setInflight identity.domainId true).setCaller c
      (.permitted identity request owner)) := by
  obtain ⟨opened, hrecorded⟩ := h.recorded
  have hknown := h.known
  refine ⟨?_, ?_, ?_, ?_, opened, ?_⟩
  · rw [MultiDomainService.permitAt_setCaller]
    exact h.permits.take hfree (.caller c)
  · refine (h.posted.setInflight _ _).goOn ?_ (by simp) (by simp)
    change (s.caller c).any Caller.late = true → _
    rw [hc]
    exact fun hlate => absurd hlate (by simp [Caller.late])
  · exact (h.numbered.setInflight _ _).goOn (by simp)
  · refine (hknown.setInflight _ _).setCaller (by simp) ?_ ?_
    · intro o ho
      exact hknown.owner c o (by rw [hc]; exact ho)
    · intro identity' hi
      exact hknown.identity c identity' (by rw [hc]; exact hi)
  · refine hrecorded.mono rfl rfl rfl ?_
    intro x r
    rw [MultiDomainService.permitAt_setCaller, MultiDomainService.pendingAt_setCaller]
    exact Recorded.pending_update hrecorded.pending x r

/-- A caller takes the next token. -/
theorem Invariant.number (h : Invariant E n s)
    (hc : s.caller c = some (.admitted identity request owner)) :
    Invariant E n ({ s with nextBindingToken := s.nextBindingToken + 1 }.setCaller c
      (.numbered identity request owner s.nextBindingToken)) := by
  obtain ⟨opened, hrecorded⟩ := h.recorded
  have hsame : Function.update s.permitAt (.caller c) (some identity.domainId) = s.permitAt := by
    have hat := Invariant.permitAt_caller hc
    rw [← Function.update_eq_self (.caller c) s.permitAt, hat, Function.update_idem]
    rfl
  have hposted : Posted { s with nextBindingToken := s.nextBindingToken + 1 } :=
    h.posted.mono rfl rfl rfl rfl fun _ hr => hr
  have hknown : KnownTo E n { s with nextBindingToken := s.nextBindingToken + 1 } :=
    h.known.mono rfl rfl rfl rfl
  refine ⟨?_, ?_, h.numbered.number c identity request owner, ?_, opened, ?_⟩
  · rw [MultiDomainService.permitAt_setCaller]
    change Permits (Function.update s.permitAt (.caller c) (some identity.domainId)) s.inflight
    rw [hsame]
    exact h.permits
  · refine hposted.goOn ?_ (by simp) (by simp)
    change (s.caller c).any Caller.late = true → _
    rw [hc]
    exact fun hlate => absurd hlate (by simp [Caller.late])
  · refine hknown.setCaller (by simp) ?_ ?_
    · intro o ho
      exact h.known.owner c o (by rw [hc]; exact ho)
    · intro identity' hi
      exact h.known.identity c identity' (by rw [hc]; exact hi)
  · refine hrecorded.mono rfl rfl rfl ?_
    intro x r
    rw [MultiDomainService.permitAt_setCaller, MultiDomainService.pendingAt_setCaller]
    exact Recorded.pending_update hrecorded.pending x r

/-- A caller makes its reservation. -/
theorem Invariant.reserve (h : Invariant E (n + 1) s) {token : ℕ}
    (hc : s.caller c = some (.numbered identity request owner token))
    (hvalid : validateIoBinding s.domains
      ((E.moment n).ioOwnerAlive failing) s.bindings identity.domainId owner = .ok ()) :
    Invariant E (n + 1) ((s.reserve identity.domainId { owner, token }).setCaller c
      (.reserved identity request (some
        { domainId := identity.domainId, token, previous := s.bindings identity.domainId }))) := by
  obtain ⟨opened, hrecorded⟩ := h.recorded
  have hpermit := Invariant.permitAt_caller hc
  have hidentity : identity ∈ s.domains := h.known.identity c identity (by rw [hc]; rfl)
  have howner : KnownBy E (n + 1) owner := h.known.owner c owner (by rw [hc]; rfl)
  obtain ⟨hpos, _, hfresh⟩ := h.numbered.caller c _ _ _ token hc
  obtain ⟨hown, hothers⟩ := validateIoBinding_eq_ok hvalid
  have hdied : ∀ d b, s.bindings d = some b → (E.moment n).ioOwnerAlive failing b.owner = false →
      Died E (n + 1) b.owner := fun d b hb hdead =>
    ⟨n, Nat.lt_succ_self n, (h.known.binding d b hb).2, not_alive_of_ioOwnerAlive hdead⟩
  have hconfigured : s.Configured identity.domainId := ⟨identity, hidentity, rfl⟩
  refine ⟨?_, ?_, ?_, ?_, Function.update opened identity.domainId (some
    { key := identity.domainId, entry := { owner, token },
      previous := s.bindings identity.domainId }), ?_⟩
  · rw [MultiDomainService.permitAt_setCaller, MultiDomainService.permitAt_reserve]
    have hsame : Function.update s.permitAt (.caller c) (some identity.domainId) = s.permitAt := by
      rw [← Function.update_eq_self (.caller c) s.permitAt, hpermit, Function.update_idem]
      rfl
    change Permits (Function.update s.permitAt (.caller c) (some identity.domainId)) s.inflight
    rw [hsame]
    exact h.permits
  · refine (h.posted.reserve _ _).goOn ?_ (by simp) (by simp)
    change (s.caller c).any Caller.late = true → _
    rw [hc]
    exact fun hlate => absurd hlate (by simp [Caller.late])
  · exact h.numbered.reserve hc _ _
  · refine (h.known.reserve hconfigured howner).setCaller (by simp) (by simp [Caller.owner]) ?_
    intro identity' hi
    exact h.known.identity c identity' (by rw [hc]; exact hi)
  · refine ⟨?_, ?_, ?_⟩
    · exact hrecorded.sound.reserve hpos hfresh
    · refine hrecorded.exclusive.reserve (fun _ _ hshares => hshares.symm) ?_ ?_
      · intro b hb
        exact hdied _ b hb (hown b hb)
      · intro d b hd hb hshares
        obtain ⟨identity', hidentity', hsame⟩ := (h.known.binding d b hb).1
        rw [← hsame] at hd hb
        exact hdied _ b hb (hothers identity' hidentity' b hd hb hshares)
    · intro x r
      rw [MultiDomainService.permitAt_setCaller, MultiDomainService.pendingAt_setCaller]
      intro hx
      by_cases hxc : x = .caller c
      · rw [hxc, Function.update_self] at hx ⊢
        cases hx
        exact ⟨rfl, _, Function.update_self .., ⟨rfl, rfl, rfl⟩⟩
      · rw [Function.update_of_ne hxc] at hx ⊢
        obtain ⟨hat, ρ, hopened, hof⟩ := hrecorded.pending x r hx
        have hd : r.domainId ≠ identity.domainId := by
          intro heq
          rw [heq] at hat
          exact hxc (h.permits.one x (.caller c) _ hat hpermit)
        refine ⟨hat, ρ, ?_, hof⟩
        rw [Function.update_of_ne hd]
        exact hopened

/-- A caller hands its request and its permit over. -/
theorem Invariant.send (h : Invariant E n s)
    (hc : s.caller c = some (.reserved identity request rollback)) :
    Invariant E n ((s.setQueue identity.domainId (some { caller := c, request, rollback })
      ).setCaller c (.waiting rollback)) := by
  obtain ⟨opened, hrecorded⟩ := h.recorded
  have hpermit := Invariant.permitAt_caller hc
  have hpending := Invariant.pendingAt_caller hc
  have hearly : (s.caller c).any Caller.late ≠ true := by
    rw [hc]
    simp [Caller.late]
  have hne : (Place.queue identity.domainId) ≠ .caller c := by simp
  refine ⟨?_, ?_, ?_, ?_, opened, ?_⟩
  · rw [MultiDomainService.permitAt_setCaller, MultiDomainService.permitAt_setQueue]
    exact h.permits.move hpermit _
  · have hposted : Posted (s.setCaller c (.waiting rollback)) := by
      refine h.posted.setCaller (fun _ => rfl) ?_ (by simp)
      intro r _
      constructor
      · intro request' hlocated hcaller
        have hawaits := h.posted.sent request' hlocated
        rw [hcaller] at hawaits
        exact absurd hawaits.1 hearly
      · by_contra hreply
        exact hearly (h.posted.answered c hreply)
    refine hposted.setQueue ?_
    intro r hr
    cases hr
    simp [Awaits, MultiDomainService.setCaller, Caller.late]
  · exact (h.numbered.setQueue _ _).goOn (by simp)
  · exact (h.known.setQueue _ _).leave rfl rfl
  · refine hrecorded.mono rfl rfl rfl ?_
    intro x r
    rw [MultiDomainService.permitAt_setCaller, MultiDomainService.pendingAt_setCaller,
      MultiDomainService.permitAt_setQueue, MultiDomainService.pendingAt_setQueue]
    intro hx
    by_cases hxc : x = .caller c
    · rw [hxc, Function.update_self] at hx
      exact absurd hx (by simp [Caller.pending])
    · rw [Function.update_of_ne hxc] at hx ⊢
      by_cases hxq : x = .queue identity.domainId
      · -- the rollback that was with the caller
        rw [hxq, Function.update_self] at hx ⊢
        have hold : s.pendingAt (.caller c) = some r := by
          rw [hpending]
          exact hx
        obtain ⟨hat, hopened⟩ := hrecorded.pending (.caller c) r hold
        rw [hpermit] at hat
        exact ⟨hat, hopened⟩
      · rw [Function.update_of_ne hxq] at hx ⊢
        exact hrecorded.pending x r hx

/-- A caller that was told of the failure applies the rollback once more. -/
theorem Invariant.applyAgain (h : Invariant E n s) {e : InfrastructureError}
    (hc : s.caller c = some (.failing r e)) (result : ProcessResult) :
    Invariant E n ((s.rollBack r).setCaller c (.returned result)) := by
  obtain ⟨opened, hrecorded⟩ := h.recorded
  obtain ⟨hfailed, ρ, hρ, hof⟩ := h.posted.failing c r e hc
  have htoken : ρ.entry.token ∈ (s.ledger opened).failed := by
    rw [hof.token]
    exact hfailed
  have hsame : r.apply s.bindings = s.bindings := by
    rw [apply_eq_restore hof]
    exact hrecorded.sound.restore_of_failed htoken
  have hledger : ((s.rollBack r).setCaller c (.returned result)).ledger opened
      = (s.ledger opened).rollBack IoBinding.token ρ := by
    simp only [MultiDomainService.ledger, MultiDomainService.rollBack,
      MultiDomainService.setCaller, Ledger.rollBack, apply_eq_restore hof, hof.token]
  have hslot : ((s.ledger opened).rollBack IoBinding.token ρ).slot = (s.ledger opened).slot := by
    simp only [Ledger.rollBack]
    exact hrecorded.sound.restore_of_failed htoken
  refine ⟨?_, ?_, ?_, ?_, opened, ?_⟩
  · rw [MultiDomainService.permitAt_setCaller]
    have hnone := Invariant.permitAt_caller hc
    change Permits (Function.update s.permitAt (.caller c) none) s.inflight
    rw [← Function.update_eq_self (.caller c) s.permitAt, hnone, Function.update_idem]
    change Permits (Function.update s.permitAt (.caller c) (Caller.failing r e).permit) s.inflight
    rw [← hnone, Function.update_eq_self]
    exact h.permits
  · exact (h.posted.rollBack r).goOn (fun _ => rfl) (by simp) (by simp)
  · exact (h.numbered.rollBack r).goOn (by simp)
  · exact (h.known.rollBack hρ hof).leave rfl rfl
  · refine ⟨?_, ?_, ?_⟩
    · rw [hledger]
      exact hrecorded.sound.rollBack_again htoken
    · rw [hledger]
      refine ⟨?_, hrecorded.exclusive.replaced⟩
      rw [hslot]
      exact hrecorded.exclusive.apart
    · intro x r'
      rw [MultiDomainService.permitAt_setCaller, MultiDomainService.pendingAt_setCaller]
      exact Recorded.pending_update hrecorded.pending x r'

/-- The two reads in front of the first check: the boot identifier is read before the start
time of the process. -/
theorem Invariant.asked (h : Invariant E (n + 1) s)
    (hc : s.caller c = some (.asked identity request)) (k : Circumstance) :
    Invariant E (n + 1) (s.callerStep (E.moment n) k c (.asked identity request)) := by
  have hnone := Invariant.permitAt_caller hc
  unfold MultiDomainService.callerStep
  dsimp only
  split
  · split
    · exact h.return hnone _
    · refine h.goOn hc rfl rfl rfl rfl (by simp) ?_ (by simp [Caller.owner]) rfl
      intro identity' request' ioEpoch bootId heq
      cases heq
      exact ⟨n, Nat.lt_succ_self n, rfl⟩
  · exact h.goOn hc rfl rfl rfl rfl (by simp) (by simp) (by simp [Caller.owner]) rfl

theorem Invariant.booted (h : Invariant E (n + 1) s) {ioEpoch : ℕ} {bootId : String}
    (hc : s.caller c = some (.booted identity request ioEpoch bootId)) (k : Circumstance) :
    Invariant E (n + 1)
      (s.callerStep (E.moment n) k c (.booted identity request ioEpoch bootId)) := by
  unfold MultiDomainService.callerStep
  dsimp only
  split
  · exact h.return (Invariant.permitAt_caller hc) _
  · rename_i stat hread
    have hstat : (E.moment n).processes request.callerPid = some stat := by
      split at hread
      · exact absurd hread (by simp)
      · exact hread
    obtain ⟨t, ht, hboot⟩ := h.known.booted c _ _ _ _ hc
    refine h.goOn hc rfl rfl rfl rfl (by simp) (by simp) ?_ rfl
    intro o ho
    cases ho
    exact ⟨t, n, Nat.le_of_lt_succ ht, Nat.lt_succ_self n, hboot, stat, hstat, rfl⟩

/-- The caller waits for the reply of the worker, for as long as it may. -/
theorem Invariant.waiting (h : Invariant E (n + 1) s) (hc : s.caller c = some (.waiting rollback))
    (k : Circumstance) :
    Invariant E (n + 1) (s.callerStep (E.moment n) k c (.waiting rollback)) := by
  have hnone := Invariant.permitAt_caller hc
  unfold MultiDomainService.callerStep
  dsimp only
  split
  · exact h.return hnone _
  · split
    · exact h
    · exact h.return hnone _
    · rename_i e hreply
      split
      · exact h.return hnone _
      · rename_i r
        split
        · exact h.return hnone _
        · -- an error is only reported after the rollback
          refine h.setCaller hnone.symm rfl (fun _ => rfl) (by simp) ?_ (by simp) (by simp)
            (by simp [Caller.owner]) (by simp [Caller.identity])
          intro r' e' heq
          cases heq
          exact h.posted.reply c e r hreply hc

/-- The permit is in one place: the queue of its domain is empty. -/
theorem Invariant.queue_eq_none (h : Invariant E n s)
    (hc : s.caller c = some (.reserved identity request rollback)) :
    s.queue identity.domainId = none := by
  by_contra hne
  have hqueue : s.permitAt (.queue identity.domainId) = some identity.domainId := by
    rw [MultiDomainService.permitAt, if_pos (Option.isSome_iff_ne_none.mpr hne)]
  have hsame := h.permits.one _ _ _ hqueue (Invariant.permitAt_caller hc)
  exact absurd hsame (by simp)

/-- Whatever a caller does next. -/
theorem Invariant.callerStep (h : Invariant E (n + 1) s) (hc : s.caller c = some state)
    (k : Circumstance) : Invariant E (n + 1) (s.callerStep (E.moment n) k c state) := by
  have howner : ∀ o, state.owner = some o → KnownBy E (n + 1) o :=
    fun o ho => h.known.owner c o (by rw [hc]; exact ho)
  cases state with
  | asked identity request => exact h.asked hc k
  | booted identity request ioEpoch bootId => exact h.booted hc k
  | identified identity request owner =>
    unfold MultiDomainService.callerStep
    dsimp only
    split
    · exact h.return (Invariant.permitAt_caller hc) _
    · exact h.goOn hc rfl rfl rfl rfl (by simp) (by simp) howner rfl
  | checked identity request owner =>
    unfold MultiDomainService.callerStep
    dsimp only
    split
    · exact h.return (Invariant.permitAt_caller hc) _
    · split
      · exact h.return (Invariant.permitAt_caller hc) _
      · rename_i hfree
        exact h.permit hc (by simpa using hfree)
  | permitted identity request owner =>
    unfold MultiDomainService.callerStep
    dsimp only
    split
    · exact h.release hc rfl _
    · exact h.goOn hc rfl rfl rfl rfl (by simp) (by simp) (by simp [Caller.owner]) rfl
    · exact h.goOn hc rfl rfl rfl rfl (by simp) (by simp) howner rfl
  | admitted identity request owner =>
    unfold MultiDomainService.callerStep
    dsimp only
    split
    · exact h.number hc
    · exact h.release hc rfl _
  | numbered identity request owner token =>
    unfold MultiDomainService.callerStep
    dsimp only
    split
    · exact h.release hc rfl _
    · rename_i hvalid
      exact h.reserve hc hvalid
  | reserved identity request rollback =>
    unfold MultiDomainService.callerStep
    dsimp only
    rw [h.queue_eq_none hc]
    exact h.send hc
  | waiting rollback => exact h.waiting hc k
  | failing r e => exact h.applyAgain hc _
  | returned result => exact h

end Caller

/-! ## Steps of a worker -/

section Worker

variable {d : InstanceId} {w : Worker}

theorem Invariant.permitAt_worker (hw : s.worker d = w) :
    s.permitAt (.worker d) = if w.busy then some d else none := by
  simp [MultiDomainService.permitAt, hw]

theorem Invariant.pendingAt_worker (hw : s.worker d = w) : s.pendingAt (.worker d) = w.pending := by
  simp [MultiDomainService.pendingAt, hw]

/-- The caller of a worker's request awaits it. -/
theorem Invariant.awaits (h : Invariant E n s) (hw : s.worker d = w) {request : DomainRequest}
    (hrequest : w.request = some request) : Awaits request.rollback (s.caller request.caller) :=
  h.posted.sent request ⟨d, Or.inr (by rw [hw, hrequest])⟩

/-- A worker goes on with what it has. -/
theorem Invariant.work (h : Invariant E n s) (hw : s.worker d = w) {w' : Worker}
    (hbusy : w'.busy = w.busy) (hpending : ∀ r, w'.pending = some r → w.pending = some r)
    (hrequest : ∀ request, w'.request = some request → w.request = some request)
    (hsettled : ∀ request e r, (w' = .releasing request (.error e)
      ∨ w' = .replying request (.error e)) → request.rollback = some r → s.Settled r) :
    Invariant E n (s.setWorker d w') := by
  have hsame : Function.update s.permitAt (.worker d) (if w'.busy then some d else none)
      = s.permitAt := by
    rw [hbusy, ← Invariant.permitAt_worker hw, Function.update_eq_self]
  obtain ⟨opened, hrecorded⟩ := h.recorded
  refine ⟨?_, ?_, h.numbered.setWorker d w', h.known.setWorker d w', opened, ?_⟩
  · rw [MultiDomainService.permitAt_setWorker, hsame]
    exact h.permits
  · exact h.posted.setWorker (fun r hr => h.awaits hw (hrequest r hr)) hsettled
  · refine hrecorded.mono rfl rfl rfl ?_
    intro x r
    rw [MultiDomainService.permitAt_setWorker, MultiDomainService.pendingAt_setWorker, hsame]
    intro hx
    apply hrecorded.pending
    by_cases hxd : x = .worker d
    · rw [hxd, Function.update_self] at hx
      rw [hxd, Invariant.pendingAt_worker hw]
      exact hpending r hx
    · rw [Function.update_of_ne hxd] at hx
      exact hx

/-- A worker takes a request, and with it the permit. -/
theorem Invariant.receive (h : Invariant E n s) {request : DomainRequest} (hqueue : s.queue d = some request) :
    Invariant E n ((s.setQueue d none).setWorker d (.processing request)) := by
  obtain ⟨opened, hrecorded⟩ := h.recorded
  have hat : s.permitAt (.queue d) = some d := by
    simp [MultiDomainService.permitAt, hqueue]
  have hne : (Place.worker d) ≠ .queue d := by simp
  refine ⟨?_, ?_, ?_, ?_, opened, ?_⟩
  · rw [MultiDomainService.permitAt_setWorker, MultiDomainService.permitAt_setQueue,
      Function.update_comm hne.symm]
    exact h.permits.move hat (.worker d)
  · refine (h.posted.setQueue (by simp)).setWorker ?_ (by simp)
    intro r hr
    cases hr
    exact h.posted.sent request ⟨d, Or.inl hqueue⟩
  · exact (h.numbered.setQueue d none).setWorker d _
  · exact (h.known.setQueue d none).setWorker d _
  · refine hrecorded.mono rfl rfl rfl ?_
    intro x r
    rw [MultiDomainService.permitAt_setWorker, MultiDomainService.pendingAt_setWorker,
      MultiDomainService.permitAt_setQueue, MultiDomainService.pendingAt_setQueue]
    intro hx
    by_cases hxw : x = .worker d
    · -- the rollback that was in the queue
      rw [hxw, Function.update_self] at hx ⊢
      have hold : s.pendingAt (.queue d) = some r := by
        rw [MultiDomainService.pendingAt, hqueue]
        exact hx
      obtain ⟨hpermit, hopened⟩ := hrecorded.pending (.queue d) r hold
      rw [hat] at hpermit
      exact ⟨hpermit, hopened⟩
    · rw [Function.update_of_ne hxw] at hx ⊢
      exact Recorded.pending_update hrecorded.pending x r hx

/-- A worker rolls the reservation of a failed acquisition back. -/
theorem Invariant.undo (h : Invariant E n s) {request : DomainRequest} {e : InfrastructureError}
    (hw : s.worker d = .rollingBack request e) (hr : request.rollback = some r) :
    Invariant E n ((s.rollBack r).setWorker d (.releasing request (.error e))) := by
  obtain ⟨opened, hrecorded⟩ := h.recorded
  have hpending : s.pendingAt (.worker d) = some r := by
    rw [Invariant.pendingAt_worker hw]
    exact hr
  have hat : s.permitAt (.worker d) = some d := Invariant.permitAt_worker hw
  obtain ⟨hpermit, ρ, hopened, hof⟩ := hrecorded.pending _ r hpending
  have hd : r.domainId = d := by
    rw [hat, Option.some.injEq] at hpermit
    exact hpermit.symm
  have hkey : ρ.key = d := hof.key.trans hd
  have hopen : opened ρ.key = some ρ := by
    rw [hof.key]
    exact hopened
  have hρ : ρ ∈ s.history := (hrecorded.sound.opened _ _ hopen).2.1.mem
  have hledger : ((s.rollBack r).setWorker d (.releasing request (.error e))).ledger
      (Function.update opened ρ.key none)
      = ((s.ledger opened).rollBack IoBinding.token ρ).settle ρ.key := by
    simp only [MultiDomainService.ledger, MultiDomainService.rollBack,
      MultiDomainService.setWorker, Ledger.rollBack, Ledger.settle, apply_eq_restore hof, hof.token]
  refine ⟨?_, ?_, ?_, ?_, Function.update opened ρ.key none, ?_⟩
  · rw [MultiDomainService.permitAt_setWorker, MultiDomainService.permitAt_rollBack]
    have hsame : Function.update s.permitAt (.worker d) (some d) = s.permitAt := by
      rw [← hat, Function.update_eq_self]
    change Permits (Function.update s.permitAt (.worker d) (some d)) s.inflight
    rw [hsame]
    exact h.permits
  · refine (h.posted.rollBack r).setWorker ?_ ?_
    · intro r' hr'
      cases hr'
      exact h.awaits hw rfl
    · rintro request' e' r' (heq | heq) hr'
      · cases heq
        rw [hr] at hr'
        cases hr'
        exact ⟨List.mem_cons_self, ρ, hρ, hof⟩
      · exact absurd heq (by simp)
  · exact (h.numbered.rollBack r).setWorker d _
  · exact (h.known.rollBack hρ hof).setWorker d _
  · refine ⟨?_, ?_, ?_⟩
    · rw [hledger]
      exact hrecorded.sound.rollBack hopen
    · rw [hledger]
      apply Ledger.Exclusive.settle
      apply hrecorded.exclusive.rollBack
      exact fun b hb => hrecorded.exclusive.replaced _ ρ b hopen hb
    · intro x r'
      rw [MultiDomainService.permitAt_setWorker, MultiDomainService.pendingAt_setWorker,
        MultiDomainService.permitAt_rollBack, MultiDomainService.pendingAt_rollBack]
      intro hx
      by_cases hxw : x = .worker d
      · rw [hxw, Function.update_self] at hx
        exact absurd hx (by simp [Worker.pending])
      · rw [Function.update_of_ne hxw] at hx ⊢
        obtain ⟨hpermit', ρ', hopened', hof'⟩ := hrecorded.pending x r' hx
        have hne : r'.domainId ≠ ρ.key := by
          intro heq
          rw [heq, hkey] at hpermit'
          exact hxw (h.permits.one x (.worker d) d hpermit' hat)
        refine ⟨hpermit', ρ', ?_, hof'⟩
        rw [Function.update_of_ne hne]
        exact hopened'

/-- A worker gives the permit back. -/
theorem Invariant.dismiss (h : Invariant E n s) {request : DomainRequest} {result : ProcessResult}
    (hw : s.worker d = .releasing request result) :
    Invariant E n ((s.setInflight d false).setWorker d (.replying request result)) := by
  obtain ⟨opened, hrecorded⟩ := h.recorded
  have hat : s.permitAt (.worker d) = some d := Invariant.permitAt_worker hw
  refine ⟨?_, ?_, ?_, ?_, opened, ?_⟩
  · rw [MultiDomainService.permitAt_setWorker]
    exact h.permits.drop hat
  · refine (h.posted.setInflight d false).setWorker ?_ ?_
    · intro r hr
      cases hr
      exact h.awaits hw rfl
    · rintro request' e r (heq | heq) hr
      · exact absurd heq (by simp)
      · cases heq
        exact h.posted.worker d request e r (Or.inl hw) hr
  · exact (h.numbered.setInflight d false).setWorker d _
  · exact (h.known.setInflight d false).setWorker d _
  · refine hrecorded.mono rfl rfl rfl ?_
    intro x r
    rw [MultiDomainService.permitAt_setWorker, MultiDomainService.pendingAt_setWorker]
    exact Recorded.pending_update hrecorded.pending x r

/-- A worker replies. -/
theorem Invariant.answer (h : Invariant E n s) {request : DomainRequest} {result : ProcessResult}
    (hw : s.worker d = .replying request result) :
    Invariant E n ((s.setReply request.caller result).setWorker d .idle) := by
  have hreply : Invariant E n (s.setReply request.caller result) := by
    obtain ⟨opened, hrecorded⟩ := h.recorded
    refine ⟨h.permits, ?_, h.numbered.setReply _ _, h.known.setReply _ _, opened,
      hrecorded.mono rfl rfl rfl hrecorded.pending⟩
    refine h.posted.setReply (h.awaits hw rfl) ?_
    intro e r he hr
    rw [he] at hw
    exact h.posted.worker d request e r (Or.inr hw) hr
  exact hreply.work hw rfl (by simp [Worker.pending]) (by simp [Worker.request]) (by simp)

/-- Whatever a worker does next. -/
theorem Invariant.workerStep (h : Invariant E n s) (k : Circumstance) (d : InstanceId) :
    Invariant E n (s.workerStep k d) := by
  unfold MultiDomainService.workerStep
  cases hw : s.worker d with
  | idle =>
    cases hqueue : s.queue d with
    | none => exact h
    | some request => exact h.receive hqueue
  | processing request =>
    dsimp only
    cases hresult : k.result with
    | ok reply =>
      exact h.work hw rfl (by simp [Worker.pending]) (by simp [Worker.request]) (by simp)
    | error e =>
      exact h.work hw rfl (fun _ hpending => hpending) (fun _ hrequest => hrequest) (by simp)
  | rollingBack request e =>
    dsimp only
    cases hrollback : request.rollback with
    | none =>
      refine h.work hw rfl (by simp [Worker.pending]) (by simp [Worker.request]) ?_
      rintro request' e' r (heq | heq) hr
      · cases heq
        rw [hrollback] at hr
        exact absurd hr (by simp)
      · exact absurd heq (by simp)
    | some r => exact h.undo hw hrollback
  | releasing request result => exact h.dismiss hw
  | replying request result => exact h.answer hw

end Worker

/-! ## Runs -/

/-- The invariant does not depend on the clock of the service. -/
theorem Invariant.tick (h : Invariant E n s) (clock : ℕ) : Invariant E n { s with clock } := by
  obtain ⟨opened, hrecorded⟩ := h.recorded
  exact ⟨h.permits, h.posted.mono rfl rfl rfl rfl fun _ hr => hr, h.numbered.mono rfl rfl rfl,
    h.known.mono rfl rfl rfl rfl, opened, hrecorded.mono rfl rfl rfl hrecorded.pending⟩

/-- A request that is accepted is for a configured domain. -/
theorem MultiDomainService.accept_eq_inl {peer : PeerCredentials} {operation : Operation}
    (h : s.accept request peer = .ok (.inl (identity, operation))) : identity ∈ s.domains := by
  unfold MultiDomainService.accept at h
  simp only [Bind.bind, Except.bind, Pure.pure, Except.pure] at h
  split at h
  · exact absurd h (by simp)
  · split at h
    · exact absurd h (by simp)
    · split at h
      · exact absurd h (by simp)
      · split at h
        · exact absurd h (by simp)
        · rename_i found hfound
          split at h
          · exact absurd h (by simp)
          · split at h
            · exact absurd h (by simp)
            · simp only [Except.ok.injEq, Sum.inl.injEq, Prod.mk.injEq] at h
              rw [← h.1]
              exact List.mem_of_find?_eq_some hfound
      · exact absurd h (by simp)

/-- A new caller. -/
theorem Invariant.arrive (h : Invariant E n s) {c : ℕ} (hc : s.caller c = none)
    (request : Request) (peer : PeerCredentials) :
    Invariant E n (match s.accept request peer with
      | .error e => s.setCaller c (.returned (.error e))
      | .ok (.inr body) => s.setCaller c (.returned (.ok (body, false)))
      | .ok (.inl (identity, operation)) =>
        s.setCaller c (.asked identity { request with operation })) := by
  have hnone : s.permitAt (.caller c) = none := by
    simp [MultiDomainService.permitAt, hc]
  split
  · exact h.return hnone _
  · exact h.return hnone _
  · rename_i identity operation haccept
    refine h.setCaller hnone.symm rfl ?_ (by simp) (by simp) (by simp) (by simp)
      (by simp [Caller.owner]) ?_
    · rw [hc]
      exact fun hfalse => absurd hfalse (by simp)
    · intro identity' hi
      cases hi
      exact MultiDomainService.accept_eq_inl haccept

/-- What a step keeps. -/
theorem Invariant.step (h : Invariant E s.clock s) (turn : Turn) :
    Invariant E (s.step E turn).clock (s.step E turn) := by
  have hlater : Invariant E (s.clock + 1) s := h.later (Nat.le_succ _)
  apply Invariant.tick
  cases turn with
  | arrive c request peer =>
    dsimp only
    split
    · exact hlater
    · rename_i hc
      exact hlater.arrive (by simpa using hc) request peer
  | caller c k =>
    dsimp only
    split
    · exact hlater
    · rename_i state hc
      exact hlater.callerStep hc k
  | worker d k => exact hlater.workerStep k d

/-- What a run keeps. -/
theorem Invariant.run (h : Invariant E s.clock s) (turns : List Turn) :
    Invariant E (turns.foldl (MultiDomainService.step E) s).clock
      (turns.foldl (MultiDomainService.step E) s) := by
  induction turns generalizing s with
  | nil => exact h
  | cons turn turns ih => exact ih (h.step turn)

/-! ## Start -/

/-- The bindings that are taken over from the journals. -/
structure TakenOver (E : Surroundings) (n : ℕ) (domains : List DomainIdentity)
    (bindings : Bindings) : Prop where
  token : ∀ d b, bindings d = some b → b.token = 0
  known : ∀ d b, bindings d = some b →
    (∃ identity ∈ domains, identity.domainId = d) ∧ KnownBy E n b.owner
  exclusive : Ledger.Exclusive (fun b => Died E n b.owner) (fun b b' => b.owner.Shares b'.owner)
    { slot := bindings, opened := fun _ => none, history := [], failed := [] }

theorem TakenOver.later (h : TakenOver E n domains bindings) (hle : n ≤ m) :
    TakenOver E m domains bindings where
  token := h.token
  known := fun d b hb => ⟨(h.known d b hb).1, (h.known d b hb).2.mono hle⟩
  exclusive := h.exclusive.mono (fun _ _ _ hdead => hdead.mono hle) fun _ _ _ _ _ hdead =>
    hdead.mono hle

/-- An owner that is still alive, or cannot be looked at, keeps its domain. -/
theorem TakenOver.bind (h : TakenOver E n domains bindings) (hidentity : identity ∈ domains)
    (ho : KnownBy E n o) (hvalid : validateIoBinding domains
      ((E.moment n).ioOwnerAlive failing) bindings identity.domainId o = .ok ()) :
    TakenOver E (n + 1) domains
      (Function.update bindings identity.domainId (some { owner := o, token := 0 })) := by
  obtain ⟨hown, hothers⟩ := validateIoBinding_eq_ok hvalid
  have hlater := h.later (Nat.le_succ n)
  have hdied : ∀ d b, bindings d = some b → (E.moment n).ioOwnerAlive failing b.owner = false →
      Died E (n + 1) b.owner := fun d b hb hdead =>
    ⟨n, Nat.lt_succ_self n, (hlater.known d b hb).2, not_alive_of_ioOwnerAlive hdead⟩
  refine ⟨?_, ?_, ?_, by simp⟩
  · intro d b hb
    by_cases hd : d = identity.domainId
    · rw [hd, Function.update_self, Option.some.injEq] at hb
      rw [← hb]
    · rw [Function.update_of_ne hd] at hb
      exact h.token d b hb
  · intro d b hb
    by_cases hd : d = identity.domainId
    · rw [hd, Function.update_self, Option.some.injEq] at hb
      rw [hd, ← hb]
      exact ⟨⟨identity, hidentity, rfl⟩, ho.mono (Nat.le_succ n)⟩
    · rw [Function.update_of_ne hd] at hb
      exact hlater.known d b hb
  · -- as if the binding had been reserved
    refine (hlater.exclusive.reserve (fun _ _ hshares => hshares.symm) ?_ ?_).apart
    · intro b hb
      exact hdied _ b hb (hown b hb)
    · intro d b hd hb hshares
      obtain ⟨identity', hidentity', hsame⟩ := (h.known d b hb).1
      rw [← hsame] at hd hb
      exact hdied _ b hb (hothers identity' hidentity' b hd hb hshares)

theorem TakenOver.bindJournals {bindings bindings' : Bindings}
    (h : TakenOver E n domains bindings) (hdomains : ∀ entry ∈ journals, entry.1 ∈ domains)
    (hknown : ∀ entry ∈ journals, ∀ o, entry.2.1 = some o → KnownBy E n o)
    (hbind : bindJournals E domains journals n bindings = .ok bindings') :
    TakenOver E (n + journals.length) domains bindings' := by
  induction journals generalizing n bindings with
  | nil =>
    cases hbind
    exact h
  | cons entry journals ih =>
    obtain ⟨identity, owner, failing⟩ := entry
    have hlater : ∀ entry ∈ journals, ∀ o, entry.2.1 = some o → KnownBy E (n + 1) o :=
      fun entry hentry o ho =>
        (hknown entry (List.mem_cons_of_mem _ hentry) o ho).mono (Nat.le_succ n)
    have hrest : ∀ entry ∈ journals, entry.1 ∈ domains :=
      fun entry hentry => hdomains entry (List.mem_cons_of_mem _ hentry)
    have hlength : n + (journals.length + 1) = n + 1 + journals.length := by omega
    rw [List.length_cons, hlength]
    rw [NetdV2.bindJournals] at hbind
    split at hbind
    · exact ih (h.later (Nat.le_succ n)) hrest hlater hbind
    · rename_i o hfilter
      cases hvalid : validateIoBinding domains ((E.moment n).ioOwnerAlive failing) bindings
          identity.domainId o with
      | error e =>
        rw [hvalid] at hbind
        exact absurd hbind (by simp [Bind.bind, Except.bind])
      | ok _ =>
        rw [hvalid] at hbind
        have howner : owner = some o := (Option.filter_eq_some_iff.mp hfilter).1
        exact ih (h.bind (hdomains _ List.mem_cons_self)
          (hknown _ List.mem_cons_self o howner) hvalid) hrest hlater hbind

/-- A service whose threads have not started. -/
theorem Invariant.initial (hcaller : ∀ c, s.caller c = none) (hqueue : ∀ d, s.queue d = none)
    (hworker : ∀ d, s.worker d = .idle) (hreply : ∀ c, s.reply c = none)
    (hhistory : s.history = []) (hfailed : s.failed = []) (hnext : 0 < s.nextBindingToken)
    (htaken : TakenOver E n s.domains s.bindings) : Invariant E n s := by
  have hpermits : ∀ x, s.permitAt x = none := by
    intro x
    cases x <;> simp [MultiDomainService.permitAt, hcaller, hqueue, hworker, Worker.busy]
  have hpendings : ∀ x, s.pendingAt x = none := by
    intro x
    cases x <;> simp [MultiDomainService.pendingAt, hcaller, hqueue, hworker, Worker.pending]
  refine ⟨⟨?_, ?_⟩, ⟨?_, ?_, ?_, ?_, ?_⟩, ⟨hnext, ?_, ?_, ?_⟩, ⟨htaken.known, ?_, ?_, ?_, ?_⟩,
    fun _ => none, ⟨?_, ?_, ?_⟩⟩
  · simp [hpermits]
  · simp [hpermits]
  · simp [MultiDomainService.Located, hqueue, hworker, Worker.request]
  · simp [hreply]
  · simp [hworker]
  · simp [hreply]
  · simp [hcaller]
  · simp [hhistory]
  · simp [hcaller]
  · simp [hcaller]
  · simp [hhistory]
  · simp [hcaller]
  · simp [hcaller]
  · simp [hcaller]
  · refine ⟨?_, ?_, fun d b hb => Or.inl (htaken.token d b hb), ?_, ?_, ?_, ?_, ?_⟩ <;>
      simp [MultiDomainService.ledger, hhistory, hfailed]
  · exact ⟨htaken.exclusive.apart, by simp [MultiDomainService.ledger]⟩
  · simp [hpendings]

/-- What a new service knows. -/
theorem Invariant.new {uid gid : ℕ}
    (hknown : ∀ entry ∈ journals, ∀ o, entry.2.1 = some o → KnownBy E n o)
    (hnew : MultiDomainService.new E uid gid n journals = .ok s) : Invariant E s.clock s := by
  unfold MultiDomainService.new at hnew
  simp only [Bind.bind, Except.bind, Pure.pure, Except.pure] at hnew
  split at hnew
  · exact absurd hnew (by simp)
  split at hnew
  · exact absurd hnew (by simp)
  split at hnew
  · exact absurd hnew (by simp)
  rename_i bindings hbind
  have hempty : TakenOver E n (journals.map (·.1)) fun _ => none :=
    ⟨by simp, by simp, ⟨by simp, by simp⟩⟩
  have hdomains : ∀ entry ∈ journals, entry.1 ∈ journals.map (·.1) :=
    fun entry hentry => List.mem_map_of_mem hentry
  have htaken := hempty.bindJournals hdomains hknown hbind
  cases hnew
  exact Invariant.initial (fun _ => rfl) (fun _ => rfl) (fun _ => rfl) (fun _ => rfl) rfl rfl
    (Nat.zero_lt_one) htaken

/-! ## The record -/

/-- The record of a rollback is never lost. -/
def Remembered (s s' : MultiDomainService) : Prop :=
  s.failed ⊆ s'.failed ∧ s.history ⊆ s'.history

theorem Remembered.refl (s : MultiDomainService) : Remembered s s :=
  ⟨List.Subset.refl _, List.Subset.refl _⟩

theorem remembered_callerStep (m : Moment) (k : Circumstance) (c : ℕ) (state : Caller) :
    Remembered s (s.callerStep m k c state) := by
  fun_cases MultiDomainService.callerStep <;>
    simp [Remembered, MultiDomainService.setCaller, MultiDomainService.setInflight,
      MultiDomainService.setQueue, MultiDomainService.rollBack, MultiDomainService.reserve]

theorem remembered_workerStep (k : Circumstance) (d : InstanceId) :
    Remembered s (s.workerStep k d) := by
  fun_cases MultiDomainService.workerStep <;>
    simp [Remembered, MultiDomainService.setWorker, MultiDomainService.setInflight,
      MultiDomainService.setQueue, MultiDomainService.rollBack, MultiDomainService.setReply]

theorem remembered_step (turn : Turn) : Remembered s (s.step E turn) := by
  cases turn with
  | arrive c request peer =>
    unfold MultiDomainService.step
    dsimp only
    split
    · exact .refl s
    · split <;> exact .refl s
  | caller c k =>
    unfold MultiDomainService.step
    dsimp only
    split
    · exact .refl s
    · exact remembered_callerStep (s := s) _ k c _
  | worker d k => exact remembered_workerStep k d

theorem remembered_run (turns : List Turn) :
    Remembered s (turns.foldl (MultiDomainService.step E) s) := by
  induction turns generalizing s with
  | nil => exact .refl s
  | cons turn turns ih =>
    have hstep := remembered_step (E := E) (s := s) turn
    have hrest := ih (s := s.step E turn)
    exact ⟨List.Subset.trans hstep.1 hrest.1, List.Subset.trans hstep.2 hrest.2⟩

/-- The next step of one of the threads applies the rollback. -/
def MultiDomainService.RollsBack (s : MultiDomainService) (r : IoRollback) : Prop :=
  (∃ c e, s.caller c = some (.failing r e))
    ∨ ∃ d request e, s.worker d = .rollingBack request e ∧ request.rollback = some r

/-- A worker has found that the acquisition with that rollback failed, and has rolled it back. -/
def MultiDomainService.Completed (s : MultiDomainService) (r : IoRollback) : Prop :=
  ∃ d request e, (s.worker d = .releasing request (.error e)
    ∨ s.worker d = .replying request (.error e)) ∧ request.rollback = some r

/-- A process that has been seen dead is not alive any more. -/
theorem Died.not_alive (hmortal : Mortal E) (h : Died E n o) :
    ¬ Alive (E.moment n) o := by
  obtain ⟨t, ht, hknown, hdead⟩ := h
  exact hmortal o t n hknown (Nat.le_of_lt ht) hdead

/-- A rollback that is applied belongs to a reservation. -/
theorem Invariant.rollback_of (h : Invariant E n s) (hr : s.RollsBack r) :
    ∃ ρ ∈ s.history, r.Of ρ := by
  rcases hr with ⟨c, e, hc⟩ | ⟨d, request, e, hw, hrollback⟩
  · exact (h.posted.failing c r e hc).2
  · obtain ⟨opened, hrecorded⟩ := h.recorded
    have hpending : s.pendingAt (.worker d) = some r := by
      rw [Invariant.pendingAt_worker hw]
      exact hrollback
    obtain ⟨_, ρ, hopened, hof⟩ := hrecorded.pending _ r hpending
    exact ⟨ρ, (hrecorded.sound.opened _ _ hopened).2.1.mem, hof⟩

/-- Live bindings of two domains do not share a caller or a process. -/
theorem Invariant.apart (hmortal : Mortal E) (h : Invariant E n s) {d d' : InstanceId}
    {b b' : IoBinding} (hd : d ≠ d') (hb : s.bindings d = some b) (hb' : s.bindings d' = some b')
    (halive : Alive (E.moment n) b.owner) (halive' : Alive (E.moment n) b'.owner) :
    ¬ b.owner.Shares b'.owner := by
  intro hshares
  obtain ⟨opened, hrecorded⟩ := h.recorded
  rcases hrecorded.exclusive.apart d d' b b' hd hb hb' hshares with hdied | hdied
  · exact hdied.not_alive hmortal halive
  · exact hdied.not_alive hmortal halive'

/-- A rollback changes the binding of its own reservation only. -/
theorem Invariant.apply_ne (h : Invariant E n s) (hr : s.RollsBack r) {d : InstanceId}
    (hchanged : r.apply s.bindings d ≠ s.bindings d) :
    d = r.domainId ∧ ∃ ρ ∈ s.history, r.Of ρ ∧ s.bindings d = some ρ.entry := by
  obtain ⟨ρ, hρ, hof⟩ := h.rollback_of hr
  obtain ⟨opened, hrecorded⟩ := h.recorded
  rw [apply_eq_restore hof] at hchanged
  obtain ⟨hd, hslot⟩ := hrecorded.sound.restore_eq hρ hchanged
  exact ⟨hd.trans hof.key, ρ, hρ, hof, hslot⟩

/-- For ever after a rollback, its domain has the binding it had before, or there was a newer
reservation. -/
theorem Invariant.settled (h : Invariant E n s) (hr : s.Settled r) :
    ∃ ρ ∈ s.history, r.Of ρ ∧ (s.bindings r.domainId = r.previous ∨ Newer s.history ρ) := by
  obtain ⟨hfailed, ρ, hρ, hof⟩ := hr
  obtain ⟨opened, hrecorded⟩ := h.recorded
  refine ⟨ρ, hρ, hof, ?_⟩
  have hsettled := hrecorded.sound.settled ρ hρ (by rw [hof.token]; exact hfailed)
  rw [hof.key, hof.previous] at hsettled
  exact hsettled

/-- In every run of the threads, live bindings of two domains share neither the caller nor the
process; reservations have different tokens, and a rollback changes nothing but the binding of
its own reservation; and once the failure of an acquisition has been found, its domain has the
binding it had before the reservation, unless it has been reserved again. -/
theorem io_bindings_exclusive (hmortal : Mortal E) {uid gid : ℕ}
    {journals : List (DomainIdentity × Option IoOwner × Reads)}
    (hknown : ∀ entry ∈ journals, ∀ o, entry.2.1 = some o → KnownBy E n o)
    (hnew : MultiDomainService.new E uid gid n journals = .ok s) (turns : List Turn) :
    let s₁ := turns.foldl (MultiDomainService.step E) s
    (∀ d d' b b', d ≠ d' → s₁.bindings d = some b → s₁.bindings d' = some b' →
        Alive (E.moment s₁.clock) b.owner → Alive (E.moment s₁.clock) b'.owner →
        ¬ b.owner.Shares b'.owner)
      ∧ (s₁.history.map fun ρ => ρ.entry.token).Nodup
      ∧ (∀ r, s₁.RollsBack r → ∀ d, r.apply s₁.bindings d ≠ s₁.bindings d →
        d = r.domainId ∧ ∃ ρ ∈ s₁.history, r.Of ρ ∧ s₁.bindings d = some ρ.entry)
      ∧ ∀ r, s₁.Completed r → ∀ turns' : List Turn,
        let s₂ := turns'.foldl (MultiDomainService.step E) s₁
        ∃ ρ ∈ s₁.history, r.Of ρ
          ∧ (s₂.bindings r.domainId = r.previous ∨ Newer s₂.history ρ) := by
  intro s₁
  have h : Invariant E s₁.clock s₁ := (Invariant.new hknown hnew).run turns
  refine ⟨?_, ?_, ?_, ?_⟩
  · intro d d' b b' hd hb hb' halive halive'
    exact h.apart hmortal hd hb hb' halive halive'
  · obtain ⟨opened, hrecorded⟩ := h.recorded
    exact hrecorded.sound.nodup
  · intro r hr d hchanged
    exact h.apply_ne hr hchanged
  · rintro r ⟨d, request, e, hw, hr⟩ turns' s₂
    have hsettled : s₁.Settled r := h.posted.worker d request e r hw hr
    obtain ⟨hfailed, ρ, hρ, hof⟩ := hsettled
    have hremembered : Remembered s₁ s₂ := remembered_run turns'
    obtain ⟨ρ', hρ', hof', hend⟩ := (h.run turns').settled
      ⟨hremembered.1 hfailed, ρ, hremembered.2 hρ, hof⟩
    -- one token, one reservation
    have hsame : ρ' = ρ := by
      obtain ⟨opened, hrecorded⟩ := (h.run turns').recorded
      exact hrecorded.sound.eq_of_token hρ' (hremembered.2 hρ) (by rw [hof'.token, hof.token])
    rw [hsame] at hend
    exact ⟨ρ, hρ, hof, hend⟩

namespace Sample

def readable : Reads := { bootId := false, stat := fun _ => false }

def domain (n : UInt8) : DomainIdentity where
  domainId := ident n
  infraId := ident (n + 100)
  tableId := 20000
  netnsDevice := 1
  netnsInode := n.toNat

/-- The process 6 asks for the descriptor of a domain. -/
def demand (n : UInt8) : Request where
  requestId := 1
  callerInstanceId := ident 9
  callerPid := 6
  operation := .inDomain (ident n) (ident (n + 100)) (.infraAcquireIoFd (ident (n + 100)) 1 1)

/-- Nothing fails in between, and the service of the domain fails in the end. -/
def failingLate (n : UInt8) (timeout : Bool) : Circumstance where
  failing := readable
  netns := (1, n.toNat)
  budget := .ok ()
  timeout := timeout
  result := .error .journal

/-- The caller gives up before the worker takes its request. -/
def lateFailure : List Turn :=
  .arrive 0 (demand 1) { uid := 0, gid := 0, pid := 6 }
    :: List.replicate 8 (.caller 0 (failingLate 1 false))
    ++ [.caller 0 (failingLate 1 true)]
    ++ List.replicate 3 (.worker (ident 1) (failingLate 1 false))

/-- The caller tries the other domain. -/
def retried : List Turn :=
  List.replicate 2 (.worker (ident 1) (failingLate 1 false))
    ++ .arrive 1 (demand 2) { uid := 0, gid := 0, pid := 6 }
    :: List.replicate 8 (.caller 1 (failingLate 2 false))

def twoDomains : List (DomainIdentity × Option IoOwner × Reads) :=
  [(domain 1, none, readable), (domain 2, none, readable)]

/-- The service, as it starts. -/
def started : MultiDomainService :=
  (MultiDomainService.new passing 0 0 0 twoDomains).toOption.get (by decide)

theorem new_twoDomains : MultiDomainService.new passing 0 0 0 twoDomains = .ok started := by
  cases hnew : MultiDomainService.new passing 0 0 0 twoDomains with
  | ok s => simp only [started, hnew, Except.toOption, Option.get_some]
  | error e =>
    have hok : (MultiDomainService.new passing 0 0 0 twoDomains).toOption.isSome = true := by
      decide
    rw [hnew] at hok
    exact absurd hok (by simp [Except.toOption])

/-- The rollback of the acquisition that failed late. -/
def lateRollback : IoRollback where
  domainId := ident 1
  token := 1
  previous := none

def failedLate : MultiDomainService := lateFailure.foldl (MultiDomainService.step passing) started

/-- The worker gives back its place after a failure, with this rollback. -/
def releasesWith (rollback : IoRollback) : Worker → Bool
  | .releasing request (.error _) => decide (request.rollback = some rollback)
  | _ => false

theorem completed_failedLate : failedLate.Completed lateRollback := by
  have hat : releasesWith lateRollback (failedLate.worker (ident 1)) = true := by decide
  unfold releasesWith at hat
  split at hat
  · rename_i request e hw
    exact ⟨ident 1, request, e, Or.inl hw, of_decide_eq_true hat⟩
  · exact absurd hat (by simp)

end Sample

open Sample in
theorem io_bindings_exclusive_lateFailure :
    failedLate.history.map (fun ρ => ρ.entry.token) = [1]
      ∧ ((retried.foldl (MultiDomainService.step passing) failedLate).bindings (ident 2)).isSome
      ∧ ∃ ρ ∈ failedLate.history, lateRollback.Of ρ
        ∧ ((retried.foldl (MultiDomainService.step passing) failedLate).bindings (ident 1) = none
          ∨ Newer (retried.foldl (MultiDomainService.step passing) failedLate).history ρ) := by
  have hknown : ∀ entry ∈ twoDomains, ∀ o, entry.2.1 = some o → KnownBy passing 0 o := by
    simp [twoDomains]
  refine ⟨by decide, by decide, ?_⟩
  exact (io_bindings_exclusive mortal_passing hknown new_twoDomains lateFailure).2.2.2
    lateRollback completed_failedLate retried

end CandyRuntime.NetdV2
