import CandyRuntime.NetdV2.Domains
import CandyRuntime.NetdV2.HolderTheorems

/-!
# What the threads of the domains keep

Every domain has one permit for a pending operation: a caller takes it, hands it over to the
worker with the request, and the worker gives it back (`Permits`). Requests have callers that
await them, and an error is reported after its rollback (`Posted`); a token is used for one
reservation (`Numbered`); only configured domains are bound, to processes that were there
(`KnownTo`). Each of these is kept by the single assignments the steps are made of.
-/

namespace CandyRuntime.NetdV2

open Lib Lib.Proc NetdProto NetdV1

variable {state : Caller} {s' : MultiDomainService} {c : ℕ}

/-! ## Permits and open rollbacks -/

/-- Where a permit can be. -/
inductive Place where
  | caller (c : ℕ)
  | queue (d : InstanceId)
  | worker (d : InstanceId)
deriving DecidableEq

/-- The domain whose permit a caller has. -/
def Caller.permit : Caller → Option InstanceId
  | .permitted identity .. | .admitted identity .. | .numbered identity ..
  | .reserved identity .. => some identity.domainId
  | _ => none

/-- The rollback of a caller that nobody has applied. -/
def Caller.pending : Caller → Option IoRollback
  | .reserved _ _ rollback => rollback
  | _ => none

/-- The worker has the permit of its domain. -/
def Worker.busy : Worker → Bool
  | .processing _ | .rollingBack .. | .releasing .. => true
  | _ => false

/-- The rollback of a worker's request that nobody has applied. -/
def Worker.pending : Worker → Option IoRollback
  | .processing request | .rollingBack request _ => request.rollback
  | _ => none

namespace MultiDomainService

variable (s : MultiDomainService)

/-- The domain whose permit is at a place. -/
def permitAt : Place → Option InstanceId
  | .caller c => (s.caller c).bind Caller.permit
  | .queue d => if (s.queue d).isSome then some d else none
  | .worker d => if (s.worker d).busy then some d else none

/-- The rollback at a place that nobody has applied. -/
def pendingAt : Place → Option IoRollback
  | .caller c => (s.caller c).bind Caller.pending
  | .queue d => (s.queue d).bind DomainRequest.rollback
  | .worker d => (s.worker d).pending

@[simp] theorem permitAt_setCaller (c : ℕ) (state : Caller) :
    (s.setCaller c state).permitAt = Function.update s.permitAt (.caller c) state.permit := by
  funext x
  by_cases hx : x = .caller c
  · rw [hx, Function.update_self]
    simp [permitAt, setCaller]
  · rw [Function.update_of_ne hx]
    cases x with
    | caller c' =>
      have hc : c' ≠ c := fun heq => hx (by rw [heq])
      simp [permitAt, setCaller, Function.update_of_ne hc]
    | queue d => rfl
    | worker d => rfl

@[simp] theorem permitAt_setQueue (d : InstanceId) (request : Option DomainRequest) :
    (s.setQueue d request).permitAt
      = Function.update s.permitAt (.queue d) (if request.isSome then some d else none) := by
  funext x
  by_cases hx : x = .queue d
  · rw [hx, Function.update_self]
    simp [permitAt, setQueue]
  · rw [Function.update_of_ne hx]
    cases x with
    | caller c => rfl
    | queue d' =>
      have hd : d' ≠ d := fun heq => hx (by rw [heq])
      simp [permitAt, setQueue, Function.update_of_ne hd]
    | worker d => rfl

@[simp] theorem permitAt_setWorker (d : InstanceId) (state : Worker) :
    (s.setWorker d state).permitAt
      = Function.update s.permitAt (.worker d) (if state.busy then some d else none) := by
  funext x
  by_cases hx : x = .worker d
  · rw [hx, Function.update_self]
    simp [permitAt, setWorker]
  · rw [Function.update_of_ne hx]
    cases x with
    | caller c => rfl
    | queue d => rfl
    | worker d' =>
      have hd : d' ≠ d := fun heq => hx (by rw [heq])
      simp [permitAt, setWorker, Function.update_of_ne hd]

@[simp] theorem permitAt_rollBack (r : IoRollback) : (s.rollBack r).permitAt = s.permitAt := rfl

@[simp] theorem permitAt_reserve (d : InstanceId) (binding : IoBinding) :
    (s.reserve d binding).permitAt = s.permitAt := rfl

@[simp] theorem pendingAt_setCaller (c : ℕ) (state : Caller) :
    (s.setCaller c state).pendingAt = Function.update s.pendingAt (.caller c) state.pending := by
  funext x
  by_cases hx : x = .caller c
  · rw [hx, Function.update_self]
    simp [pendingAt, setCaller]
  · rw [Function.update_of_ne hx]
    cases x with
    | caller c' =>
      have hc : c' ≠ c := fun heq => hx (by rw [heq])
      simp [pendingAt, setCaller, Function.update_of_ne hc]
    | queue d => rfl
    | worker d => rfl

@[simp] theorem pendingAt_setQueue (d : InstanceId) (request : Option DomainRequest) :
    (s.setQueue d request).pendingAt
      = Function.update s.pendingAt (.queue d) (request.bind DomainRequest.rollback) := by
  funext x
  by_cases hx : x = .queue d
  · rw [hx, Function.update_self]
    simp [pendingAt, setQueue]
  · rw [Function.update_of_ne hx]
    cases x with
    | caller c => rfl
    | queue d' =>
      have hd : d' ≠ d := fun heq => hx (by rw [heq])
      simp [pendingAt, setQueue, Function.update_of_ne hd]
    | worker d => rfl

@[simp] theorem pendingAt_setWorker (d : InstanceId) (state : Worker) :
    (s.setWorker d state).pendingAt = Function.update s.pendingAt (.worker d) state.pending := by
  funext x
  by_cases hx : x = .worker d
  · rw [hx, Function.update_self]
    simp [pendingAt, setWorker]
  · rw [Function.update_of_ne hx]
    cases x with
    | caller c => rfl
    | queue d => rfl
    | worker d' =>
      have hd : d' ≠ d := fun heq => hx (by rw [heq])
      simp [pendingAt, setWorker, Function.update_of_ne hd]

@[simp] theorem pendingAt_rollBack (r : IoRollback) : (s.rollBack r).pendingAt = s.pendingAt := rfl

end MultiDomainService

/-- Each permit is at one place, and its flag is set. -/
structure Permits (p : Place → Option InstanceId) (inflight : InstanceId → Bool) : Prop where
  flag : ∀ x d, p x = some d → inflight d = true
  one : ∀ x y d, p x = some d → p y = some d → x = y

namespace Permits

variable {p : Place → Option InstanceId} {inflight : InstanceId → Bool} {x y : Place}
  {d : InstanceId}

/-- A permit that is free is taken. -/
theorem take (h : Permits p inflight) (hfree : inflight d = false) (x : Place) :
    Permits (Function.update p x (some d)) (Function.update inflight d true) := by
  have hnobody : ∀ z, p z ≠ some d := by
    intro z hz
    rw [h.flag z d hz] at hfree
    exact absurd hfree (by simp)
  constructor
  · intro z d' hz
    by_cases hd : d' = d
    · rw [hd, Function.update_self]
    · rw [Function.update_of_ne hd]
      by_cases hzx : z = x
      · rw [hzx, Function.update_self, Option.some.injEq] at hz
        exact absurd hz.symm hd
      · rw [Function.update_of_ne hzx] at hz
        exact h.flag z d' hz
  · intro z z' d' hz hz'
    by_cases hzx : z = x
    · by_cases hzx' : z' = x
      · rw [hzx, hzx']
      · rw [hzx, Function.update_self, Option.some.injEq] at hz
        rw [Function.update_of_ne hzx', ← hz] at hz'
        exact absurd hz' (hnobody z')
    · rw [Function.update_of_ne hzx] at hz
      by_cases hzx' : z' = x
      · rw [hzx', Function.update_self, Option.some.injEq] at hz'
        rw [← hz'] at hz
        exact absurd hz (hnobody z)
      · rw [Function.update_of_ne hzx'] at hz'
        exact h.one z z' d' hz hz'

/-- A permit is given back. -/
theorem drop (h : Permits p inflight) (hx : p x = some d) :
    Permits (Function.update p x none) (Function.update inflight d false) := by
  constructor
  · intro z d' hz
    by_cases hzx : z = x
    · simp [hzx] at hz
    · rw [Function.update_of_ne hzx] at hz
      have hd : d' ≠ d := by
        intro heq
        rw [heq] at hz
        exact hzx (h.one z x d hz hx)
      rw [Function.update_of_ne hd]
      exact h.flag z d' hz
  · intro z z' d' hz hz'
    by_cases hzx : z = x
    · simp [hzx] at hz
    · by_cases hzx' : z' = x
      · simp [hzx'] at hz'
      · rw [Function.update_of_ne hzx] at hz
        rw [Function.update_of_ne hzx'] at hz'
        exact h.one z z' d' hz hz'

/-- A permit is handed over. -/
theorem move (h : Permits p inflight) (hx : p x = some d) (y : Place) :
    Permits (Function.update (Function.update p y (some d)) x none) inflight := by
  constructor
  · intro z d' hz
    by_cases hzx : z = x
    · simp [hzx] at hz
    · rw [Function.update_of_ne hzx] at hz
      by_cases hzy : z = y
      · rw [hzy, Function.update_self, Option.some.injEq] at hz
        rw [← hz]
        exact h.flag x d hx
      · rw [Function.update_of_ne hzy] at hz
        exact h.flag z d' hz
  · intro z z' d' hz hz'
    by_cases hzx : z = x
    · simp [hzx] at hz
    by_cases hzx' : z' = x
    · simp [hzx'] at hz'
    rw [Function.update_of_ne hzx] at hz
    rw [Function.update_of_ne hzx'] at hz'
    by_cases hzy : z = y
    · by_cases hzy' : z' = y
      · rw [hzy, hzy']
      · rw [hzy, Function.update_self, Option.some.injEq] at hz
        rw [Function.update_of_ne hzy', ← hz] at hz'
        exact absurd (h.one z' x d hz' hx) hzx'
    · rw [Function.update_of_ne hzy] at hz
      by_cases hzy' : z' = y
      · rw [hzy', Function.update_self, Option.some.injEq] at hz'
        rw [← hz'] at hz
        exact absurd (h.one z x d hz hx) hzx
      · rw [Function.update_of_ne hzy'] at hz'
        exact h.one z z' d' hz hz'

end Permits

/-! ## Requests and replies -/

/-- The caller has sent its request. -/
def Caller.late : Caller → Bool
  | .waiting _ | .failing .. | .returned _ => true
  | _ => false

/-- The request a worker has. -/
def Worker.request : Worker → Option DomainRequest
  | .idle => none
  | .processing request | .rollingBack request _ | .releasing request _
  | .replying request _ => some request

/-- The rollback belongs to the reservation. -/
structure IoRollback.Of (r : IoRollback) (ρ : Reservation InstanceId IoBinding) : Prop where
  key : ρ.key = r.domainId
  token : ρ.entry.token = r.token
  previous : ρ.previous = r.previous

/-- The rollback has been applied. -/
def MultiDomainService.Settled (s : MultiDomainService) (r : IoRollback) : Prop :=
  r.token ∈ s.failed ∧ ∃ ρ ∈ s.history, r.Of ρ

/-- The request is on its way to, or at, its worker. -/
def MultiDomainService.Located (s : MultiDomainService) (request : DomainRequest) : Prop :=
  ∃ d, s.queue d = some request ∨ (s.worker d).request = some request

/-- The caller has sent a request, and if it still waits, it waits for this one. -/
def Awaits (rollback : Option IoRollback) (caller : Option Caller) : Prop :=
  caller.any Caller.late = true ∧ ∀ r, caller = some (.waiting r) → r = rollback

/-- Requests have callers that await them, and an error is only reported after the rollback. -/
structure Posted (s : MultiDomainService) : Prop where
  sent : ∀ request, s.Located request → Awaits request.rollback (s.caller request.caller)
  answered : ∀ c, s.reply c ≠ none → (s.caller c).any Caller.late = true
  worker : ∀ d request e r, (s.worker d = .releasing request (.error e)
    ∨ s.worker d = .replying request (.error e)) → request.rollback = some r → s.Settled r
  reply : ∀ c e r, s.reply c = some (.error e) → s.caller c = some (.waiting (some r)) →
    s.Settled r
  failing : ∀ c r e, s.caller c = some (.failing r e) → s.Settled r

namespace Posted

variable {s : MultiDomainService}

/-- The record of a rollback only grows. -/
theorem mono (h : Posted s) (hqueue : s'.queue = s.queue) (hworker : s'.worker = s.worker)
    (hreply : s'.reply = s.reply) (hcaller : s'.caller = s.caller)
    (hsettled : ∀ r, s.Settled r → s'.Settled r) : Posted s' where
  sent := by
    intro request hlocated
    rw [hcaller]
    apply h.sent
    simpa [MultiDomainService.Located, hqueue, hworker] using hlocated
  answered := by
    rw [hreply, hcaller]
    exact h.answered
  worker := by
    rw [hworker]
    exact fun d request e r hw hr => hsettled r (h.worker d request e r hw hr)
  reply := by
    rw [hreply, hcaller]
    exact fun c e r hr hc => hsettled r (h.reply c e r hr hc)
  failing := by
    rw [hcaller]
    exact fun c r e hc => hsettled r (h.failing c r e hc)

theorem setInflight (h : Posted s) (d : InstanceId) (flag : Bool) : Posted (s.setInflight d flag) :=
  h.mono rfl rfl rfl rfl fun _ hr => hr

theorem reserve (h : Posted s) (d : InstanceId) (binding : IoBinding) :
    Posted (s.reserve d binding) := by
  refine h.mono rfl rfl rfl rfl ?_
  rintro r ⟨hfailed, ρ, hρ, hof⟩
  exact ⟨hfailed, ρ, List.mem_cons_of_mem _ hρ, hof⟩

theorem rollBack (h : Posted s) (r : IoRollback) : Posted (s.rollBack r) := by
  refine h.mono rfl rfl rfl rfl ?_
  rintro r' ⟨hfailed, ρ, hρ, hof⟩
  exact ⟨List.mem_cons_of_mem _ hfailed, ρ, hρ, hof⟩

/-- A caller goes on. -/
theorem setCaller (h : Posted s) (hlate : (s.caller c).any Caller.late = true → state.late = true)
    (hwaiting : ∀ r, state = .waiting r →
      (∀ request, s.Located request → request.caller = c → r = request.rollback)
        ∧ s.reply c = none) (hfailing : ∀ r e, state = .failing r e → s.Settled r) :
    Posted (s.setCaller c state) where
  sent := by
    intro request hlocated
    have hawaits := h.sent request hlocated
    by_cases hc : request.caller = c
    · rw [hc] at hawaits ⊢
      simp only [MultiDomainService.setCaller, Function.update_self]
      refine ⟨by simpa using hlate hawaits.1, ?_⟩
      intro r hr
      exact ((hwaiting r (Option.some.inj hr)).1 request hlocated hc)
    · simpa [MultiDomainService.setCaller, Function.update_of_ne hc] using hawaits
  answered := by
    intro c' hreply
    have hanswered := h.answered c' hreply
    by_cases hc : c' = c
    · rw [hc] at hanswered ⊢
      simpa [MultiDomainService.setCaller] using hlate hanswered
    · simpa [MultiDomainService.setCaller, Function.update_of_ne hc] using hanswered
  worker := h.worker
  reply := by
    intro c' e r hreply hcaller
    by_cases hc : c' = c
    · rw [hc] at hreply hcaller
      simp only [MultiDomainService.setCaller, Function.update_self, Option.some.injEq] at hcaller
      have hnone := (hwaiting (some r) hcaller).2
      have hsome : s.reply c = some (.error e) := hreply
      rw [hnone] at hsome
      exact absurd hsome (by simp)
    · simp only [MultiDomainService.setCaller, Function.update_of_ne hc] at hcaller
      exact h.reply c' e r hreply hcaller
  failing := by
    intro c' r e hcaller
    by_cases hc : c' = c
    · rw [hc] at hcaller
      simp only [MultiDomainService.setCaller, Function.update_self, Option.some.injEq] at hcaller
      exact hfailing r e hcaller
    · simp only [MultiDomainService.setCaller, Function.update_of_ne hc] at hcaller
      exact h.failing c' r e hcaller

/-- A caller goes on, and neither waits nor fails then. -/
theorem goOn (h : Posted s) (hlate : (s.caller c).any Caller.late = true → state.late = true)
    (hwaiting : ∀ r, state ≠ .waiting r) (hfailing : ∀ r e, state ≠ .failing r e) :
    Posted (s.setCaller c state) :=
  h.setCaller hlate (fun r hr => absurd hr (hwaiting r)) (fun r e hr => absurd hr (hfailing r e))

/-- A request is put into a queue, or taken out of it. -/
theorem setQueue (h : Posted s) {d : InstanceId} {request : Option DomainRequest}
    (hsent : ∀ r, request = some r → Awaits r.rollback (s.caller r.caller)) :
    Posted (s.setQueue d request) where
  sent := by
    rintro r ⟨d', hlocated⟩
    rcases hlocated with hqueue | hworker
    · by_cases hd : d' = d
      · rw [hd] at hqueue
        simp only [MultiDomainService.setQueue, Function.update_self] at hqueue
        exact hsent r hqueue
      · simp only [MultiDomainService.setQueue, Function.update_of_ne hd] at hqueue
        exact h.sent r ⟨d', Or.inl hqueue⟩
    · exact h.sent r ⟨d', Or.inr hworker⟩
  answered := h.answered
  worker := h.worker
  reply := h.reply
  failing := h.failing

/-- A worker goes on. -/
theorem setWorker (h : Posted s) {d : InstanceId} {state : Worker}
    (hsent : ∀ r, state.request = some r → Awaits r.rollback (s.caller r.caller))
    (hsettled : ∀ request e r, (state = .releasing request (.error e)
      ∨ state = .replying request (.error e)) → request.rollback = some r → s.Settled r) :
    Posted (s.setWorker d state) where
  sent := by
    rintro r ⟨d', hlocated⟩
    rcases hlocated with hqueue | hworker
    · exact h.sent r ⟨d', Or.inl hqueue⟩
    · by_cases hd : d' = d
      · rw [hd] at hworker
        simp only [MultiDomainService.setWorker, Function.update_self] at hworker
        exact hsent r hworker
      · simp only [MultiDomainService.setWorker, Function.update_of_ne hd] at hworker
        exact h.sent r ⟨d', Or.inr hworker⟩
  answered := h.answered
  worker := by
    intro d' request e r hworker hr
    by_cases hd : d' = d
    · rw [hd] at hworker
      simp only [MultiDomainService.setWorker, Function.update_self] at hworker
      exact hsettled request e r hworker hr
    · simp only [MultiDomainService.setWorker, Function.update_of_ne hd] at hworker
      exact h.worker d' request e r hworker hr
  reply := h.reply
  failing := h.failing

/-- A worker replies. -/
theorem setReply (h : Posted s) {request : DomainRequest} {result : ProcessResult}
    (hawaits : Awaits request.rollback (s.caller request.caller))
    (hsettled : ∀ e r, result = .error e → request.rollback = some r → s.Settled r) :
    Posted (s.setReply request.caller result) where
  sent := h.sent
  answered := by
    intro c hreply
    by_cases hc : c = request.caller
    · rw [hc]
      exact hawaits.1
    · simp only [MultiDomainService.setReply, Function.update_of_ne hc] at hreply
      exact h.answered c hreply
  worker := h.worker
  reply := by
    intro c e r hreply hcaller
    by_cases hc : c = request.caller
    · rw [hc] at hreply hcaller
      simp only [MultiDomainService.setReply, Function.update_self, Option.some.injEq] at hreply
      exact hsettled e r hreply (hawaits.2 (some r) hcaller).symm
    · simp only [MultiDomainService.setReply, Function.update_of_ne hc] at hreply
      exact h.reply c e r hreply hcaller
  failing := h.failing

end Posted

/-! ## Tokens -/

/-- A token is used for one reservation. -/
structure Numbered (s : MultiDomainService) : Prop where
  next : 0 < s.nextBindingToken
  history : ∀ ρ ∈ s.history, ρ.entry.token < s.nextBindingToken
  caller : ∀ c identity request owner t, s.caller c = some (.numbered identity request owner t) →
    0 < t ∧ t < s.nextBindingToken ∧ ∀ ρ ∈ s.history, ρ.entry.token ≠ t
  distinct : ∀ c c' identity identity' request request' owner owner' t,
    s.caller c = some (.numbered identity request owner t) →
    s.caller c' = some (.numbered identity' request' owner' t) → c = c'

namespace Numbered

variable {s : MultiDomainService}

theorem mono (h : Numbered s) (hnext : s'.nextBindingToken = s.nextBindingToken)
    (hhistory : s'.history = s.history) (hcaller : s'.caller = s.caller) : Numbered s' := by
  constructor
  · rw [hnext]
    exact h.next
  · rw [hnext, hhistory]
    exact h.history
  · rw [hnext, hhistory, hcaller]
    exact h.caller
  · rw [hcaller]
    exact h.distinct

theorem setInflight (h : Numbered s) (d : InstanceId) (flag : Bool) :
    Numbered (s.setInflight d flag) := h.mono rfl rfl rfl

theorem setQueue (h : Numbered s) (d : InstanceId) (request : Option DomainRequest) :
    Numbered (s.setQueue d request) := h.mono rfl rfl rfl

theorem setWorker (h : Numbered s) (d : InstanceId) (state : Worker) :
    Numbered (s.setWorker d state) := h.mono rfl rfl rfl

theorem setReply (h : Numbered s) (c : ℕ) (result : ProcessResult) :
    Numbered (s.setReply c result) := h.mono rfl rfl rfl

theorem rollBack (h : Numbered s) (r : IoRollback) : Numbered (s.rollBack r) :=
  h.mono rfl rfl rfl

/-- A caller goes on without a token. -/
theorem goOn (h : Numbered s)
    (hstate : ∀ identity request owner t, state ≠ .numbered identity request owner t) :
    Numbered (s.setCaller c state) := by
  have hold : ∀ c' identity request owner t,
      (s.setCaller c state).caller c' = some (.numbered identity request owner t) →
      s.caller c' = some (.numbered identity request owner t) := by
    intro c' identity request owner t hcaller
    by_cases hc : c' = c
    · rw [hc] at hcaller
      simp only [MultiDomainService.setCaller, Function.update_self, Option.some.injEq] at hcaller
      exact absurd hcaller (hstate identity request owner t)
    · simpa [MultiDomainService.setCaller, Function.update_of_ne hc] using hcaller
  exact ⟨h.next, h.history,
    fun c' identity request owner t hcaller => h.caller c' _ _ _ t (hold c' _ _ _ t hcaller),
    fun c₁ c₂ _ _ _ _ _ _ t h₁ h₂ =>
      h.distinct c₁ c₂ _ _ _ _ _ _ t (hold c₁ _ _ _ t h₁) (hold c₂ _ _ _ t h₂)⟩

/-- A caller takes the next token. -/
theorem number (h : Numbered s) (c : ℕ) (identity : DomainIdentity) (request : Request)
    (owner : IoOwner) :
    Numbered ({ s with nextBindingToken := s.nextBindingToken + 1 }.setCaller c
      (.numbered identity request owner s.nextBindingToken)) := by
  have hcases : ∀ c' identity' request' owner' t,
      ({ s with nextBindingToken := s.nextBindingToken + 1 }.setCaller c
        (.numbered identity request owner s.nextBindingToken)).caller c'
          = some (.numbered identity' request' owner' t) →
      (c' = c ∧ t = s.nextBindingToken)
        ∨ s.caller c' = some (.numbered identity' request' owner' t) := by
    intro c' identity' request' owner' t hcaller
    by_cases hc : c' = c
    · rw [hc] at hcaller
      simp only [MultiDomainService.setCaller, Function.update_self, Option.some.injEq,
        Caller.numbered.injEq] at hcaller
      exact Or.inl ⟨hc, hcaller.2.2.2.symm⟩
    · simp only [MultiDomainService.setCaller, Function.update_of_ne hc] at hcaller
      exact Or.inr hcaller
  refine ⟨Nat.succ_pos _, ?_, ?_, ?_⟩
  · intro ρ hρ
    exact Nat.lt_succ_of_lt (h.history ρ hρ)
  · intro c' identity' request' owner' t hcaller
    rcases hcases c' _ _ _ t hcaller with ⟨_, rfl⟩ | hold
    · exact ⟨h.next, Nat.lt_succ_self _, fun ρ hρ => (h.history ρ hρ).ne⟩
    · obtain ⟨hpos, hlt, hfresh⟩ := h.caller c' _ _ _ t hold
      exact ⟨hpos, Nat.lt_succ_of_lt hlt, hfresh⟩
  · intro c₁ c₂ i₁ i₂ r₁ r₂ o₁ o₂ t h₁ h₂
    rcases hcases c₁ _ _ _ t h₁ with ⟨hc₁, ht₁⟩ | hold₁
    · rcases hcases c₂ _ _ _ t h₂ with ⟨hc₂, _⟩ | hold₂
      · rw [hc₁, hc₂]
      · have hlt := (h.caller c₂ _ _ _ t hold₂).2.1
        omega
    · rcases hcases c₂ _ _ _ t h₂ with ⟨_, ht₂⟩ | hold₂
      · have hlt := (h.caller c₁ _ _ _ t hold₁).2.1
        omega
      · exact h.distinct c₁ c₂ _ _ _ _ _ _ t hold₁ hold₂

/-- A caller makes the reservation its token is for. -/
theorem reserve (h : Numbered s) {identity : DomainIdentity} {request : Request} {owner : IoOwner}
    {t : ℕ} (hc : s.caller c = some (.numbered identity request owner t)) (d : InstanceId)
    (rollback : Option IoRollback) :
    Numbered ((s.reserve d { owner, token := t }).setCaller c
      (.reserved identity request rollback)) := by
  obtain ⟨hpos, hlt, hfresh⟩ := h.caller c _ _ _ t hc
  have hold : ∀ c' identity' request' owner' t',
      ((s.reserve d { owner, token := t }).setCaller c
        (.reserved identity request rollback)).caller c'
          = some (.numbered identity' request' owner' t') →
      c' ≠ c ∧ s.caller c' = some (.numbered identity' request' owner' t') := by
    intro c' identity' request' owner' t' hcaller
    by_cases hcc : c' = c
    · rw [hcc] at hcaller
      simp [MultiDomainService.setCaller] at hcaller
    · simp only [MultiDomainService.setCaller, Function.update_of_ne hcc] at hcaller
      exact ⟨hcc, hcaller⟩
  refine ⟨h.next, ?_, ?_, ?_⟩
  · intro ρ hρ
    rcases List.mem_cons.mp hρ with rfl | hρ
    · exact hlt
    · exact h.history ρ hρ
  · intro c' identity' request' owner' t' hcaller
    obtain ⟨hcc, hcaller⟩ := hold c' _ _ _ t' hcaller
    obtain ⟨hpos', hlt', hfresh'⟩ := h.caller c' _ _ _ t' hcaller
    refine ⟨hpos', hlt', ?_⟩
    intro ρ hρ
    rcases List.mem_cons.mp hρ with rfl | hρ
    · intro heq
      have heq : t = t' := heq
      rw [← heq] at hcaller
      exact hcc (h.distinct c' c _ _ _ _ _ _ t hcaller hc)
    · exact hfresh' ρ hρ
  · intro c₁ c₂ _ _ _ _ _ _ t' h₁ h₂
    exact h.distinct c₁ c₂ _ _ _ _ _ _ t' (hold c₁ _ _ _ t' h₁).2 (hold c₂ _ _ _ t' h₂).2

end Numbered

/-! ## Owners and domains -/

/-- The process a caller asks for. -/
def Caller.owner : Caller → Option IoOwner
  | .identified _ _ owner | .admitted _ _ owner | .numbered _ _ owner _ => some owner
  | .checked _ _ owner | .permitted _ _ owner => owner
  | _ => none

/-- The domain a caller asks. -/
def Caller.identity : Caller → Option DomainIdentity
  | .asked identity _ | .booted identity .. | .identified identity .. | .checked identity ..
  | .permitted identity .. | .admitted identity .. | .numbered identity ..
  | .reserved identity .. => some identity
  | _ => none

/-- The domain is configured. -/
def MultiDomainService.Configured (s : MultiDomainService) (d : InstanceId) : Prop :=
  ∃ identity ∈ s.domains, identity.domainId = d

/-- Only configured domains are bound, and only to processes that were there. -/
structure KnownTo (E : Surroundings) (n : ℕ) (s : MultiDomainService) : Prop where
  binding : ∀ d b, s.bindings d = some b → s.Configured d ∧ KnownBy E n b.owner
  history : ∀ ρ ∈ s.history, s.Configured ρ.key ∧ ∀ b, ρ.previous = some b → KnownBy E n b.owner
  booted : ∀ c identity request ioEpoch bootId,
    s.caller c = some (.booted identity request ioEpoch bootId) →
    ∃ t < n, (E.moment t).bootId = bootId
  owner : ∀ c o, (s.caller c).bind Caller.owner = some o → KnownBy E n o
  identity : ∀ c identity, (s.caller c).bind Caller.identity = some identity →
    identity ∈ s.domains

namespace KnownTo

variable {E : Surroundings} {n : ℕ} {s : MultiDomainService}

theorem later (h : KnownTo E n s) {m : ℕ} (hle : n ≤ m) : KnownTo E m s where
  binding := fun d b hb => ⟨(h.binding d b hb).1, (h.binding d b hb).2.mono hle⟩
  history := fun ρ hρ => ⟨(h.history ρ hρ).1, fun b hb => ((h.history ρ hρ).2 b hb).mono hle⟩
  booted := by
    intro c identity request ioEpoch bootId hc
    obtain ⟨t, ht, hboot⟩ := h.booted c _ _ _ _ hc
    exact ⟨t, Nat.lt_of_lt_of_le ht hle, hboot⟩
  owner := fun c o ho => (h.owner c o ho).mono hle
  identity := h.identity

theorem mono (h : KnownTo E n s) (hdomains : s'.domains = s.domains)
    (hbindings : s'.bindings = s.bindings) (hhistory : s'.history = s.history)
    (hcaller : s'.caller = s.caller) : KnownTo E n s' := by
  constructor
  · rw [hbindings]
    simpa [MultiDomainService.Configured, hdomains] using h.binding
  · rw [hhistory]
    simpa [MultiDomainService.Configured, hdomains] using h.history
  · rw [hcaller]
    exact h.booted
  · rw [hcaller]
    exact h.owner
  · rw [hcaller, hdomains]
    exact h.identity

theorem setInflight (h : KnownTo E n s) (d : InstanceId) (flag : Bool) :
    KnownTo E n (s.setInflight d flag) := h.mono rfl rfl rfl rfl

theorem setQueue (h : KnownTo E n s) (d : InstanceId) (request : Option DomainRequest) :
    KnownTo E n (s.setQueue d request) := h.mono rfl rfl rfl rfl

theorem setWorker (h : KnownTo E n s) (d : InstanceId) (state : Worker) :
    KnownTo E n (s.setWorker d state) := h.mono rfl rfl rfl rfl

theorem setReply (h : KnownTo E n s) (c : ℕ) (result : ProcessResult) :
    KnownTo E n (s.setReply c result) := h.mono rfl rfl rfl rfl

theorem setCaller (h : KnownTo E n s) (hbooted : ∀ identity request ioEpoch bootId,
      state = .booted identity request ioEpoch bootId → ∃ t < n, (E.moment t).bootId = bootId)
    (howner : ∀ o, state.owner = some o → KnownBy E n o)
    (hidentity : ∀ identity, state.identity = some identity → identity ∈ s.domains) :
    KnownTo E n (s.setCaller c state) where
  binding := h.binding
  history := h.history
  booted := by
    intro c' identity request ioEpoch bootId hcaller
    by_cases hc : c' = c
    · rw [hc] at hcaller
      simp only [MultiDomainService.setCaller, Function.update_self, Option.some.injEq] at hcaller
      exact hbooted _ _ _ _ hcaller
    · simp only [MultiDomainService.setCaller, Function.update_of_ne hc] at hcaller
      exact h.booted c' _ _ _ _ hcaller
  owner := by
    intro c' o ho
    by_cases hc : c' = c
    · rw [hc] at ho
      simp only [MultiDomainService.setCaller, Function.update_self, Option.bind_some] at ho
      exact howner o ho
    · simp only [MultiDomainService.setCaller, Function.update_of_ne hc] at ho
      exact h.owner c' o ho
  identity := by
    intro c' identity hi
    by_cases hc : c' = c
    · rw [hc] at hi
      simp only [MultiDomainService.setCaller, Function.update_self, Option.bind_some] at hi
      exact hidentity identity hi
    · simp only [MultiDomainService.setCaller, Function.update_of_ne hc] at hi
      exact h.identity c' identity hi

/-- A caller that goes on without an owner of its own. -/
theorem leave (h : KnownTo E n s) (howner : state.owner = none)
    (hidentity : state.identity = none) : KnownTo E n (s.setCaller c state) := by
  apply h.setCaller
  · intro identity request ioEpoch bootId heq
    rw [heq] at hidentity
    exact absurd hidentity (by simp [Caller.identity])
  · intro o ho
    exact absurd (howner.symm.trans ho) (by simp)
  · intro identity hi
    exact absurd (hidentity.symm.trans hi) (by simp)

theorem reserve (h : KnownTo E n s) {d : InstanceId} {b : IoBinding} (hd : s.Configured d)
    (hb : KnownBy E n b.owner) : KnownTo E n (s.reserve d b) where
  binding := by
    intro d' b' hb'
    by_cases hdd : d' = d
    · rw [hdd] at hb' ⊢
      simp only [MultiDomainService.reserve, Function.update_self, Option.some.injEq] at hb'
      rw [← hb']
      exact ⟨hd, hb⟩
    · simp only [MultiDomainService.reserve, Function.update_of_ne hdd] at hb'
      exact h.binding d' b' hb'
  history := by
    intro ρ hρ
    rcases List.mem_cons.mp hρ with rfl | hρ
    · exact ⟨hd, fun b' hb' => (h.binding d b' hb').2⟩
    · exact h.history ρ hρ
  booted := h.booted
  owner := h.owner
  identity := h.identity

theorem rollBack (h : KnownTo E n s) {r : IoRollback} {ρ : Reservation InstanceId IoBinding}
    (hρ : ρ ∈ s.history) (hof : r.Of ρ) : KnownTo E n (s.rollBack r) where
  binding := by
    obtain ⟨hconfigured, hprevious⟩ := h.history ρ hρ
    rw [hof.key] at hconfigured
    rw [hof.previous] at hprevious
    intro d b hb
    simp only [MultiDomainService.rollBack, IoRollback.apply] at hb
    split at hb
    · by_cases hd : d = r.domainId
      · rw [hd, Function.update_self] at hb
        rw [hd]
        exact ⟨hconfigured, hprevious b hb⟩
      · rw [Function.update_of_ne hd] at hb
        exact h.binding d b hb
    · exact h.binding d b hb
  history := h.history
  booted := h.booted
  owner := h.owner
  identity := h.identity

end KnownTo

end CandyRuntime.NetdV2
