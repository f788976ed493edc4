import CandyRuntime.Agent.CandidateOwner
import CandyRuntime.Tunio.OutcomeTheorems

/-!
# Agent and TUNIO agree on how a handoff ended

What the agent journals of an owner transaction (cancelled before its commit, expired commit
retired, commit failed or isolated) comes from a reply of TUNIO, and what TUNIO has reported of
a revision is sealed in every later state. The record keeps with each mark what TUNIO has sealed
(`Fair`), the marks only accumulate (`Extends`), and a marked record sends no preparation and no
commit any more. `owner_transaction_agreement` is the result for all interleavings.
-/

namespace CandyRuntime.Agent

open Lib Lib.Proc NetdProto NetdV2
  Tunio

variable {A : ℕ → AgentCall} {E : ℕ → Tunio.Moment}

/-! ## Replies -/

/-- A request is served by one step of TUNIO, and the reply shows the state after it. -/
theorem serve_step (request : AuthorityControlRequest) (peer : ProcessIdentity)
    (descriptors : ℕ) (t : World) :
    (serve E request peer descriptors t).2 = step E (.authority request peer descriptors) t
      ∧ ∀ reply, (serve E request peer descriptors t).1 = .ok reply →
        reply = responseOf (serve E request peer descriptors t).2.controller request
          reply.accepted := by
  show (serve E request peer descriptors t).2 = after (applyRequest E request peer descriptors) t
    ∧ _
  unfold serve after
  show (Proc.bind _ _ t).2 = _ ∧ ∀ reply, (Proc.bind _ _ t).1 = _ →
    reply = responseOf (Proc.bind _ _ t).2.controller _ _
  unfold Proc.bind attempt
  cases happlied : applyRequest E request peer descriptors t with
  | mk outcome t' =>
    cases outcome with
    | ok u =>
      refine ⟨rfl, fun reply hreply => ?_⟩
      cases hreply
      rfl
    | err e =>
      refine ⟨rfl, fun reply hreply => ?_⟩
      cases hreply
      rfl
    | crash =>
      refine ⟨rfl, fun reply hreply => ?_⟩
      cases hreply

/-- The receipt in a reply of schema 3 is the prepared candidate or the terminal record. -/
theorem ownerReceipt_cases {s : AuthorityState} {id : String} {receipt : AuthorityOwnerReceipt}
    (h : ownerReceipt s id = some receipt) :
    (∃ r, s.ownerCandidate = some r ∧ receipt = r.receipt .prepared)
      ∨ ∃ r phase, s.ownerTerminal = some (r, phase) ∧ receipt = r.receipt phase := by
  unfold ownerReceipt at h
  split at h
  · next r hr =>
    rw [Option.filter_eq_some_iff] at hr
    exact .inl ⟨r, hr.1, (Option.some.inj h).symm⟩
  · obtain ⟨⟨r, phase⟩, hr, heq⟩ := Option.map_eq_some_iff.mp h
    rw [Option.filter_eq_some_iff] at hr
    exact .inr ⟨r, phase, hr.1, heq.symm⟩

section Reports

variable {c : Controller} {b : Bridge} {request : AuthorityControlRequest} {accepted : Bool}
  {receipt : AuthorityOwnerReceipt}

theorem responseOf_ownerTransaction
    (h : (responseOf c request accepted).ownerTransaction = some receipt) :
    ownerReceipt c.authority request.transactionId = some receipt := by
  change (if request.schemaVersion = 3 then _ else none) = _ at h
  split at h
  · exact h
  · cases h

/-- A phase other than prepared in a reply is the sealed outcome of its revision. -/
theorem reported_sealed (ho : Outcome (c, b))
    (h : (responseOf c request accepted).ownerTransaction = some receipt)
    (hphase : receipt.phase ≠ .prepared) :
    Closed receipt.authorityRevision c.authority
      ∧ Sealed receipt.authorityRevision (some receipt.phase) (c, b)
      ∧ ∀ p, Sealed receipt.authorityRevision p (c, b) → p = some receipt.phase := by
  rcases ownerReceipt_cases (responseOf_ownerTransaction h) with ⟨r, _, rfl⟩ | ⟨r, phase, hr, rfl⟩
  · exact absurd rfl hphase
  · obtain ⟨hclosed, hsealed⟩ := ho.terminal hr
    exact ⟨hclosed, hsealed, fun p hp => hp.terminal r phase hr rfl⟩

/-- A prepared phase in a reply is of a revision that is not closed, unless the candidate is
not there any more. -/
theorem reported_prepared (ho : Outcome (c, b))
    (h : (responseOf c request accepted).ownerTransaction = some receipt)
    (hphase : receipt.phase = .prepared)
    (hclosed : Closed receipt.authorityRevision c.authority)
    (hsealed : Sealed receipt.authorityRevision (some .committed) (c, b)) : False := by
  rcases ownerReceipt_cases (responseOf_ownerTransaction h) with ⟨r, hr, rfl⟩ | ⟨r, phase, hr, rfl⟩
  · exact ho.candidate hr rfl hclosed
  · change phase = .prepared at hphase
    subst hphase
    have hsame := hsealed.terminal r .prepared hr rfl
    cases hsame

/-- What a reply shows as cancelled is closed, and the manager has never seen it. -/
theorem reported_cancelled (ho : Outcome (c, b)) {e : AuthorityEnvelope}
    (h : (responseOf c request accepted).precommitCancelled = some e) :
    Closed e.authorityRevision c.authority ∧ Sealed e.authorityRevision none (c, b) := by
  change (if request.schemaVersion = 3 then _ else none) = _ at h
  split at h
  · rw [Option.filter_eq_some_iff] at h
    exact ho.cancelled e h.1
  · cases h

end Reports

/-! ## The record -/

namespace CandidateOwner

/-- The transaction has ended for the agent. -/
def Marked (c : CandidateOwner) : Prop :=
  c.precommitCancellation.isSome = true ∨ c.expiredCommitRetirement.isSome = true
    ∨ c.committedFailure.isSome = true ∨ c.committedIsolation.isSome = true

/-- The record `c'` is a later one of the same transaction. -/
structure Extends (c c' : CandidateOwner) : Prop where
  envelope : c'.envelope = c.envelope
  intent : c.commitIntent = true → c'.commitIntent = true
  cancellation : c.precommitCancellation.isSome = true → c'.precommitCancellation.isSome = true
  retirement : c.expiredCommitRetirement.isSome = true → c'.expiredCommitRetirement.isSome = true
  failure : c.committedFailure.isSome = true → c'.committedFailure.isSome = true
  isolation : c.committedIsolation.isSome = true → c'.committedIsolation.isSome = true

variable {c c' c'' : CandidateOwner} {w w' : Party} {t : World}

theorem Extends.refl (c : CandidateOwner) : c.Extends c := ⟨rfl, id, id, id, id, id⟩

theorem Extends.trans (h : c.Extends c') (h' : c'.Extends c'') : c.Extends c'' where
  envelope := h'.envelope.trans h.envelope
  intent hc := h'.intent (h.intent hc)
  cancellation hc := h'.cancellation (h.cancellation hc)
  retirement hc := h'.retirement (h.retirement hc)
  failure hc := h'.failure (h.failure hc)
  isolation hc := h'.isolation (h.isolation hc)

theorem Marked.extends (hm : c.Marked) (h : c.Extends c') : c'.Marked :=
  hm.imp h.cancellation (Or.imp h.retirement (Or.imp h.failure h.isolation))

/-- The revision of the transaction has ended with `p`, in TUNIO. -/
def Over (c : CandidateOwner) (p : Option OwnerTransactionPhase) (w : Party) : Prop :=
  Closed c.envelope.authorityRevision w.tunio.controller.authority
    ∧ Sealed c.envelope.authorityRevision p w.tunio.pair

/-- Each mark of the record has its outcome in TUNIO, and the marks exclude one another. -/
structure Fair (c : CandidateOwner) (w : Party) : Prop where
  cancellation : c.precommitCancellation.isSome = true →
    c.commitIntent = false ∧ c.Over none w
  retirement : c.expiredCommitRetirement.isSome = true →
    c.commitIntent = true ∧ c.Over (some .expired) w
  seen : c.expiredCommitRetirement.isSome = true → ∀ b, .manager b ∈ w.trace →
    ¬ b.HasCommitted c.envelope.authorityRevision
  failure : c.committedFailure.isSome = true → c.commitIntent = true ∧ c.Over (some .committed) w
  isolation : c.committedIsolation.isSome = true → c.committedFailure.isSome = true
  exclusive : c.expiredCommitRetirement.isSome = true → c.committedFailure.isSome = true → False

theorem Over.settles {p : Option OwnerTransactionPhase} (h : c.Over p w)
    (hs : Settles w.tunio.pair w'.tunio.pair) : c.Over p w' :=
  ⟨hs.closed _ h.1, hs.isSealed _ _ h.2⟩

/-- TUNIO has gone on, and no state of the manager was seen but the one it has now. -/
theorem Fair.mono (h : c.Fair w) (hs : Settles w.tunio.pair w'.tunio.pair)
    (htrace : ∀ b, .manager b ∈ w'.trace → .manager b ∈ w.trace ∨ b = w'.tunio.bridge) :
    c.Fair w' where
  cancellation hc := ⟨(h.cancellation hc).1, (h.cancellation hc).2.settles hs⟩
  retirement hc := ⟨(h.retirement hc).1, (h.retirement hc).2.settles hs⟩
  seen hc b hb := by
    rcases htrace b hb with hold | rfl
    · exact h.seen hc b hold
    · have hsealed := ((h.retirement hc).2.settles hs).2
      exact hsealed.not_hasCommitted nofun
  failure hc := ⟨(h.failure hc).1, (h.failure hc).2.settles hs⟩
  isolation := h.isolation
  exclusive := h.exclusive

/-- A record without marks. -/
theorem Fair.fresh (h : c.precommitCancellation = none) (h' : c.expiredCommitRetirement = none)
    (hfail : c.committedFailure = none) (hiso : c.committedIsolation = none) : c.Fair w where
  cancellation hc := by
    rw [h] at hc
    cases hc
  retirement hc := by
    rw [h'] at hc
    cases hc
  seen hc := by
    rw [h'] at hc
    cases hc
  failure hc := by
    rw [hfail] at hc
    cases hc
  isolation hc := by
    rw [hiso] at hc
    cases hc
  exclusive hc := by
    rw [h'] at hc
    cases hc

end CandidateOwner

/-! ## The trace -/

/-- A preparation or a commit of an owner transaction. -/
def asksOwner (request : AuthorityControlRequest) : Bool :=
  match request.operation with
  | .prepareOwner .. | .commitOwner => true
  | _ => false

/-- What the order of two events says. -/
def After : Event → Event → Prop
  | .manager b, .journaled c =>
    (c.precommitCancellation.isSome = true → ¬ b.Holds c.envelope.authorityRevision
      ∧ ¬ b.HasCommitted c.envelope.authorityRevision)
    ∧ (c.expiredCommitRetirement.isSome = true → ¬ b.HasCommitted c.envelope.authorityRevision)
  | .journaled c, .manager b =>
    c.expiredCommitRetirement.isSome = true → ¬ b.HasCommitted c.envelope.authorityRevision
  | .sent request, .journaled c =>
    c.Marked → asksOwner request = true → request.transactionId ≠ c.envelope.transactionId
  | .journaled c', .journaled c =>
    c.envelope.transactionId = c'.envelope.transactionId → c.Extends c'
  | _, _ => True

/-- The invariant of the two parties. -/
structure Book (w : Party) : Prop where
  outcome : Outcome w.tunio.pair
  seen : ∀ b, .manager b ∈ w.trace → ∀ l, b.lastTransaction = some l →
    Sealed l.transaction.revision (some l.phase) w.tunio.pair
  journaled : ∀ c, .journaled c ∈ w.trace →
    c.envelope.transactionId ∈ w.registered ∧ c.Fair w
  latest : ∀ c, w.journal = some c → .journaled c ∈ w.trace
    ∧ ∀ c', .journaled c' ∈ w.trace → c'.envelope.transactionId = c.envelope.transactionId →
      c'.Extends c
  orderly : w.trace.Pairwise After

section Books

variable {w : Party} {c : CandidateOwner} {b : Bridge} {request : AuthorityControlRequest}

theorem manager_mem_sends : .manager b ∈ (w.sends request).trace ↔ .manager b ∈ w.trace := by
  simp [Party.sends]

theorem journaled_mem_sends : .journaled c ∈ (w.sends request).trace ↔ .journaled c ∈ w.trace := by
  simp [Party.sends]

theorem manager_mem_journals : .manager b ∈ (w.journals c).trace ↔ .manager b ∈ w.trace := by
  simp [Party.journals]

/-- TUNIO takes a step. -/
theorem Book.reaches (hw : Book w) {t : World} (ho : Outcome t.pair)
    (hs : Settles w.tunio.pair t.pair) : Book (w.reaches t) where
  outcome := ho
  seen b hb l hl := by
    rcases List.mem_cons.mp hb with hnow | hbefore
    · cases hnow
      exact ho.last hl
    · exact hs.isSealed _ _ (hw.seen b hbefore l hl)
  journaled c hc := by
    rcases List.mem_cons.mp hc with hnow | hbefore
    · cases hnow
    obtain ⟨hregistered, hfair⟩ := hw.journaled c hbefore
    refine ⟨hregistered, hfair.mono hs fun b hb => ?_⟩
    rcases List.mem_cons.mp hb with hnow | hbefore
    · cases hnow
      exact .inr rfl
    · exact .inl hbefore
  latest c hc := by
    obtain ⟨hin, hextends⟩ := hw.latest c hc
    refine ⟨List.mem_cons_of_mem _ hin, fun c' hc' => ?_⟩
    rcases List.mem_cons.mp hc' with hnow | hbefore
    · cases hnow
    · exact hextends c' hbefore
  orderly := by
    refine List.pairwise_cons.mpr ⟨fun event hevent => ?_, hw.orderly⟩
    cases event with
    | manager b => trivial
    | sent request => trivial
    | journaled c =>
      -- The marks of a journaled record are sealed in the new state.
      obtain ⟨_, hfair⟩ := hw.journaled c hevent
      refine ⟨fun hc => ?_, fun hc => ?_⟩
      · have hsealed := hs.isSealed _ _ (hfair.cancellation hc).2.2
        exact ⟨hsealed.not_holds, hsealed.not_hasCommitted nofun⟩
      · have hsealed := hs.isSealed _ _ (hfair.retirement hc).2.2
        exact hsealed.not_hasCommitted nofun

/-- A request leaves the agent; it asks for the owner only with an unmarked record. -/
theorem Book.sends (hw : Book w) (hjournal : w.journal = some c)
    (hask : asksOwner request = true →
      request.transactionId = c.envelope.transactionId ∧ ¬ c.Marked) :
    Book (w.sends request) where
  outcome := hw.outcome
  seen b hb := hw.seen b (manager_mem_sends.mp hb)
  journaled c' hc' := by
    obtain ⟨hregistered, hfair⟩ := hw.journaled c' (journaled_mem_sends.mp hc')
    exact ⟨hregistered, hfair.mono (.refl _) fun b hb => .inl (manager_mem_sends.mp hb)⟩
  latest c' hc' := by
    obtain ⟨hin, hextends⟩ := hw.latest c' hc'
    exact ⟨List.mem_cons_of_mem _ hin,
      fun c'' hc'' => hextends c'' (journaled_mem_sends.mp hc'')⟩
  orderly := by
    refine List.pairwise_cons.mpr ⟨fun event hevent => ?_, hw.orderly⟩
    cases event with
    | manager b => trivial
    | sent request => trivial
    | journaled c' =>
      intro hmarked hasks hsame
      obtain ⟨hid, hunmarked⟩ := hask hasks
      have hextends := (hw.latest c hjournal).2 c' hevent (hsame.symm.trans hid)
      exact hunmarked (hmarked.extends hextends)

/-- A record reaches the journal. -/
theorem Book.journals (hw : Book w) (hregistered : c.envelope.transactionId ∈ w.registered)
    (hfair : c.Fair w)
    (hextends : ∀ c', .journaled c' ∈ w.trace →
      c'.envelope.transactionId = c.envelope.transactionId → c'.Extends c) :
    Book (w.journals c) where
  outcome := hw.outcome
  seen b hb := hw.seen b (manager_mem_journals.mp hb)
  journaled c' hc' := by
    have hkeep {c' : CandidateOwner} (h : c'.Fair w) : c'.Fair (w.journals c) :=
      h.mono (.refl _) fun b hb => .inl (manager_mem_journals.mp hb)
    rcases List.mem_cons.mp hc' with hnow | hbefore
    · cases hnow
      exact ⟨hregistered, hkeep hfair⟩
    · exact ⟨(hw.journaled c' hbefore).1, hkeep (hw.journaled c' hbefore).2⟩
  latest c' hc' := by
    cases hc'
    refine ⟨List.mem_cons_self, fun c' hc' hid => ?_⟩
    rcases List.mem_cons.mp hc' with hnow | hbefore
    · cases hnow
      exact .refl c
    · exact hextends c' hbefore hid
  orderly := by
    refine List.pairwise_cons.mpr ⟨fun event hevent => ?_, hw.orderly⟩
    cases event with
    | manager b => exact fun hc => hfair.seen hc b hevent
    | sent request => trivial
    | journaled c' => exact hextends c' hevent

theorem Book.writes (hw : Book w) (hregistered : c.envelope.transactionId ∈ w.registered)
    (hfair : c.Fair w)
    (hextends : ∀ c', .journaled c' ∈ w.trace →
      c'.envelope.transactionId = c.envelope.transactionId → c'.Extends c) :
    Book (w.writes c) :=
  (hw.journals hregistered hfair hextends).reaches hw.outcome (.refl _)

theorem Book.proceeds (hw : Book w) (labels : List Label) : Book (w.proceeds E labels) := by
  induction labels generalizing w with
  | nil => exact hw
  | cons l labels ih =>
    obtain ⟨ho, hs⟩ := (step_acts (E := E) hw.outcome.inv l).outcome hw.outcome
    exact ih (hw.reaches ho hs)

end Books

/-! ## Calls -/

/-- The invariant, with `c` in the journal. -/
def At (c : CandidateOwner) (w : Party) : Prop := Book w ∧ w.journal = some c

section Calls

variable {w : Party} {c c' : CandidateOwner} {request : AuthorityControlRequest}

theorem proceeds_fields (labels : List Label) (w : Party) :
    (w.proceeds E labels).journal = w.journal
      ∧ (w.proceeds E labels).registered = w.registered := by
  induction labels generalizing w with
  | nil => exact ⟨rfl, rfl⟩
  | cons l labels ih => exact ih (w.reaches (step E l w.tunio))

theorem journaled_mem_proceeds (labels : List Label) (w : Party) :
    .journaled c ∈ (w.proceeds E labels).trace ↔ .journaled c ∈ w.trace := by
  induction labels generalizing w with
  | nil => exact Iff.rfl
  | cons l labels ih =>
    refine (ih (w.reaches (step E l w.tunio))).trans ?_
    simp [Party.reaches]

theorem CandidateOwner.Fair.proceeds (h : c.Fair w) (hw : Book w) (labels : List Label) :
    c.Fair (w.proceeds E labels) := by
  induction labels generalizing w with
  | nil => exact h
  | cons l labels ih =>
    obtain ⟨ho, hs⟩ := (step_acts (E := E) hw.outcome.inv l).outcome hw.outcome
    refine ih (h.mono hs fun b hb => ?_) (hw.reaches ho hs)
    rcases List.mem_cons.mp hb with hnow | hbefore
    · cases hnow
      exact .inr rfl
    · exact .inl hbefore

/-- The number of the next call is not looked at. -/
theorem Book.clock (hw : Book w) (n : ℕ) : Book { w with clock := n } where
  outcome := hw.outcome
  seen := hw.seen
  journaled c hc :=
    ⟨(hw.journaled c hc).1, (hw.journaled c hc).2.mono (.refl _) fun _ hb => .inl hb⟩
  latest := hw.latest
  orderly := hw.orderly

theorem At.called (h : At c w) : At c (w.called A E) :=
  ⟨(h.1.proceeds _).clock _, (proceeds_fields _ w).1.trans h.2⟩

theorem exchangeAuthority_at
    (hask : asksOwner request = true →
      request.transactionId = c.envelope.transactionId ∧ ¬ c.Marked) :
    Triple (At c) (exchangeAuthority A E request)
      (fun reply w => At c w ∧ reply = responseOf w.tunio.controller request reply.accepted)
      (fun _ => At c) (At c) := by
  intro w hw
  have hcalled : At c (w.called A E) := hw.called
  have hsent : At c ((w.called A E).sends request) :=
    ⟨hcalled.1.sends hcalled.2 hask, hcalled.2⟩
  unfold wp exchangeAuthority
  dsimp only
  -- From here on only the reply and the state after it count.
  generalize hdescriptors : (if request.operation.needsDescriptor then 1 else 0) = descriptors
  obtain ⟨hstep, hreply⟩ :=
    serve_step (E := E) request request.controller descriptors (w.called A E).tunio
  obtain ⟨ho, hs⟩ := (step_acts (E := E) hsent.1.outcome.inv
    (.authority request request.controller descriptors)).outcome hsent.1.outcome
  change Outcome (step E _ (w.called A E).tunio).pair at ho
  change Settles _ (step E _ (w.called A E).tunio).pair at hs
  rw [← hstep] at ho hs
  generalize serve E request request.controller descriptors (w.called A E).tunio = served at *
  have hreached : At c (((w.called A E).sends request).reaches served.2) :=
    ⟨hsent.1.reaches ho hs, hsent.2⟩
  cases (A w.clock).delivery with
  | killedBefore => exact hcalled
  | lost => exact hsent
  | unanswered => exact hreached
  | killedAfter => exact hreached
  | answered =>
    cases hserved : served.1 with
    | ok reply =>
      dsimp only
      by_cases haccepted : (decide (reply.schemaVersion = request.schemaVersion)
          && CandidateOwner.answers request reply && reply.accepted) = true
      · rw [if_pos haccepted]
        exact ⟨hreached, hreply reply hserved⟩
      · rw [if_neg haccepted]
        exact hreached
    | err e => exact hreached
    | crash => exact hreached

/-- A record of a registered transaction is published; it extends what is known of it. -/
theorem persist_writes (hw : Book w) (hregistered : c.envelope.transactionId ∈ w.registered)
    (hfair : c.Fair w)
    (hextends : ∀ c', .journaled c' ∈ w.trace →
      c'.envelope.transactionId = c.envelope.transactionId → c'.Extends c) :
    wp (persist A E c) (fun _ => At c) (fun _ => Book) Book w := by
  have hcalled : Book (w.called A E) := (hw.proceeds _).clock _
  have hwritten : Book ((w.called A E).writes c) := by
    apply hcalled.writes
    · exact (proceeds_fields _ w).2 ▸ hregistered
    · exact (hfair.proceeds hw _).mono (.refl _) fun _ hb => .inl hb
    · intro c' hc' hid
      exact hextends c' ((journaled_mem_proceeds _ w).mp hc') hid
  have hwrite : Triple (· = w.called A E) (durable (A w.clock).write "journal" (·.writes c))
      (fun _ => At c) (fun _ => Book) Book := by
    apply Triple.durable
    · intro s hs
      subst hs
      exact ⟨hwritten, rfl⟩
    · intro s hs
      subst hs
      exact ⟨hwritten, hcalled⟩
    · intro s hs
      subst hs
      exact ⟨hwritten, hcalled⟩
  exact hwrite _ rfl

/-- A later record of the journaled transaction is published. -/
theorem persist_at (hextends : c.Extends c') :
    Triple (fun w => At c w ∧ c'.Fair w) (persist A E c') (fun _ => At c') (fun _ => Book) Book := by
  intro w ⟨hw, hfair⟩
  obtain ⟨hin, hlatest⟩ := hw.1.latest c hw.2
  apply persist_writes hw.1 _ hfair
  · intro c'' hc'' hid
    rw [hextends.envelope] at hid
    exact (hlatest c'' hc'' hid).trans hextends
  · rw [hextends.envelope]
    exact (hw.1.journaled c hin).1

/-- The rule for a write in front of the rest of an operation. -/
theorem persist_bind {α : Type} {P : Party → Prop} {f : Unit → Agt α} {Q : α → Party → Prop}
    (hextends : c.Extends c') (hpre : ∀ w, P w → At c w ∧ c'.Fair w)
    (hf : Triple (At c') (f ()) Q (fun _ => Book) Book) :
    Triple P (persist A E c' >>= f) Q (fun _ => Book) Book :=
  ((persist_at hextends).pre hpre).bind fun _ => hf

theorem agentWorks_at : Triple (At c) (agentWorks A E) (fun _ => At c) (fun _ => At c) (At c) := by
  intro w hw
  have hcalled : At c (w.called A E) := hw.called
  unfold wp agentWorks
  dsimp only
  cases (A w.clock).works <;> exact hcalled

end Calls

/-! ## What a reply says of the record -/

section Replies

variable {w : Party} {c : CandidateOwner} {request : AuthorityControlRequest}
  {reply : AuthorityControlResponse}

theorem At.fair (h : At c w) : c.Fair w := (h.1.journaled c (h.1.latest c h.2).1).2

theorem observe_receipt {state : OwnerState} (h : c.observe reply = .ok state)
    (hstate : state ≠ .unknown) :
    ∃ receipt, reply.ownerTransaction = some receipt
      ∧ receipt.authorityRevision = c.envelope.authorityRevision
      ∧ c.observePhase reply receipt.phase = .ok state := by
  unfold CandidateOwner.observe at h
  split at h
  · cases h
    exact absurd rfl hstate
  next receipt hreceipt =>
  split at h
  · cases h
    exact absurd rfl hstate
  split at h
  · next hmatches =>
    simp only [CandidateOwner.receiptMatches, Bool.and_eq_true, decide_eq_true_eq] at hmatches
    exact ⟨receipt, hreceipt, hmatches.2.1.1.1.1, h⟩
  · cases h

/-- The states that are told apart below come from one phase each. -/
theorem observePhase_phase {state : OwnerState} {phase : OwnerTransactionPhase}
    (h : c.observePhase reply phase = .ok state) :
    (state = .prepared → phase = .prepared) ∧ (state = .expired → phase = .expired) := by
  cases phase <;> unfold CandidateOwner.observePhase at h <;> dsimp only at h <;> split at h
    <;> cases h <;> simp

variable (h : At c w)
  (hreply : reply = responseOf w.tunio.controller request reply.accepted)

include h hreply

/-- A transaction that has failed after its commit is not shown as prepared. -/
theorem At.observed (hobserve : c.observe reply = .ok .prepared) : c.committedFailure = none := by
  obtain ⟨receipt, hreceipt, hrevision, hphase⟩ := observe_receipt hobserve nofun
  have hprepared := (observePhase_phase hphase).1 rfl
  cases hfailure : c.committedFailure with
  | none => rfl
  | some failure =>
    obtain ⟨hclosed, hsealed⟩ := (h.fair.failure (by rw [hfailure]; rfl)).2
    rw [← hrevision] at hclosed hsealed
    rw [congrArg (·.ownerTransaction) hreply] at hreceipt
    exact (reported_prepared h.1.outcome hreceipt hprepared hclosed hsealed).elim

/-- A phase that has ended is the only outcome that is known of the transaction. -/
theorem At.ended {receipt : AuthorityOwnerReceipt} (hreceipt : reply.ownerTransaction = some receipt)
    (hrevision : receipt.authorityRevision = c.envelope.authorityRevision)
    (hphase : receipt.phase ≠ .prepared) :
    c.Over (some receipt.phase) w ∧ ∀ p, c.Over p w → p = some receipt.phase := by
  rw [congrArg (·.ownerTransaction) hreply] at hreceipt
  obtain ⟨hclosed, hsealed, hunique⟩ := reported_sealed h.1.outcome hreceipt hphase
  rw [hrevision] at hclosed hsealed hunique
  exact ⟨⟨hclosed, hsealed⟩, fun p hp => hunique p hp.2⟩

theorem At.expired (hobserve : c.observe reply = .ok .expired) :
    c.Over (some .expired) w ∧ c.committedFailure = none
      ∧ ∀ b, .manager b ∈ w.trace → ¬ b.HasCommitted c.envelope.authorityRevision := by
  obtain ⟨receipt, hreceipt, hrevision, hphase⟩ := observe_receipt hobserve nofun
  have hexpired := (observePhase_phase hphase).2 rfl
  obtain ⟨hover, hunique⟩ := h.ended hreply hreceipt hrevision (by rw [hexpired]; nofun)
  rw [hexpired] at hover hunique
  refine ⟨hover, ?_, ?_⟩
  · cases hfailure : c.committedFailure with
    | none => rfl
    | some failure =>
      have hsame := hunique _ (h.fair.failure (by rw [hfailure]; rfl)).2
      cases hsame
  · rintro b hb ⟨l, hl, hn, hcommitted⟩
    -- What the manager has shown once is sealed, and expired is the only outcome.
    have hsealed := h.1.seen b hb l hl
    rw [hn, hcommitted] at hsealed
    have hsame := hunique _ ⟨hover.1, hsealed⟩
    cases hsame

theorem At.committed (hcommitted : c.requireCommittedOutcome reply = .ok ()) :
    c.commitIntent = true ∧ c.Over (some .committed) w ∧ c.expiredCommitRetirement = none := by
  unfold CandidateOwner.requireCommittedOutcome at hcommitted
  split at hcommitted
  · cases hcommitted
  next receipt hreceipt =>
  split at hcommitted
  · next hchecks =>
    simp only [CandidateOwner.receiptMatches, Bool.and_eq_true, decide_eq_true_eq] at hchecks
    obtain ⟨⟨⟨⟨⟨⟨⟨⟨⟨hintent, _⟩, _⟩, _⟩, hphase⟩, hmatches⟩, _⟩, _⟩, _⟩, _⟩ := hchecks
    obtain ⟨hover, hunique⟩ := h.ended hreply hreceipt hmatches.1.1.1.1 (by rw [hphase]; nofun)
    rw [hphase] at hover hunique
    refine ⟨hintent, hover, ?_⟩
    cases hretired : c.expiredCommitRetirement with
    | none => rfl
    | some retirement =>
      have hsame := hunique _ (h.fair.retirement (by rw [hretired]; rfl)).2
      cases hsame
  · cases hcommitted

/-- The record with a cancellation that a reply has confirmed. -/
theorem At.fair_cancelled {expected : PacketPortBinding} (hintent : c.commitIntent = false)
    (hconfirmed : c.cancellationConfirmed expected reply = true) :
    CandidateOwner.Fair { c with precommitCancellation := some reply } w := by
  have hfair := h.fair
  have hcancelled : reply.precommitCancelled = some c.envelope := by
    simp only [CandidateOwner.cancellationConfirmed, Bool.and_eq_true, decide_eq_true_eq]
      at hconfirmed
    exact hconfirmed.1.1.1.1.1.1.1.1.1.1.1.1.1
  rw [congrArg (·.precommitCancelled) hreply] at hcancelled
  have hover := reported_cancelled h.1.outcome hcancelled
  exact ⟨fun _ => ⟨hintent, hover⟩, hfair.retirement, hfair.seen, hfair.failure,
    hfair.isolation, hfair.exclusive⟩

/-- The record with the retirement of an expired commit. -/
theorem At.fair_retired (hintent : c.commitIntent = true)
    (hobserve : c.observe reply = .ok .expired) :
    CandidateOwner.Fair { c with expiredCommitRetirement := some reply } w := by
  have hfair := h.fair
  obtain ⟨hover, hfailed, hseen⟩ := h.expired hreply hobserve
  refine ⟨hfair.cancellation, fun _ => ⟨hintent, hover⟩, fun _ => hseen, hfair.failure,
    hfair.isolation, fun _ hfailure => ?_⟩
  change c.committedFailure.isSome = true at hfailure
  rw [hfailed] at hfailure
  cases hfailure

/-- The record with a failure after the commit. -/
theorem At.fair_failed (hcommitted : c.requireCommittedOutcome reply = .ok ()) :
    CandidateOwner.Fair
      { c with committedFailure := c.committedFailure.or (some reply) } w := by
  have hfair := h.fair
  obtain ⟨hintent, hover, hretired⟩ := h.committed hreply hcommitted
  have hsome : (c.committedFailure.or (some reply)).isSome = true := by
    cases c.committedFailure <;> rfl
  refine ⟨hfair.cancellation, hfair.retirement, hfair.seen, fun _ => ⟨hintent, hover⟩,
    fun _ => hsome, fun hretirement => ?_⟩
  change c.expiredCommitRetirement.isSome = true at hretirement
  rw [hretired] at hretirement
  cases hretirement

omit hreply

/-- The record with the isolation of a committed owner that has failed. -/
theorem At.fair_isolated (hfailed : c.committedFailure.isSome = true) :
    CandidateOwner.Fair { c with committedIsolation := some reply } w := by
  have hfair := h.fair
  exact ⟨hfair.cancellation, hfair.retirement, hfair.seen, hfair.failure, fun _ => hfailed,
    hfair.exclusive⟩

end Replies

/-! ## Operations -/

/-- What an operation leaves: the record of the activity is the journaled one, and a transaction
that has failed is not remembered as prepared. -/
def Left (result : Option Activity) (w : Party) : Prop :=
  match result with
  | none => Book w
  | some a => At a.owner w ∧ (a.observed = some .prepared → a.owner.committedFailure = none)

/-- An operation of the activity `a` keeps the invariant. -/
def Operates (a : Activity) (m : Agt (Option Activity)) : Prop :=
  Triple (At a.owner) m Left (fun _ => Book) Book

section Operations

variable {a : Activity} {base : AuthorityControlRequest} {nonce : String}

/-- A request of the record that asks for nothing. -/
theorem exchange_asksNothing {c : CandidateOwner} {request : AuthorityControlRequest}
    (h : asksOwner request = false) :
    Triple (At c) (exchangeAuthority A E request)
      (fun reply w => At c w ∧ reply = responseOf w.tunio.controller request reply.accepted)
      (fun _ => Book) Book := by
  refine (exchangeAuthority_at fun hasks => ?_).conseq (fun _ hw => hw) (fun _ _ hw => hw)
    (fun _ _ hw => hw.1) (fun _ hw => hw.1)
  rw [h] at hasks
  cases hasks

/-- A request of the record, and a probe if it is not answered. -/
theorem exchange_orProbe {c : CandidateOwner} {request : AuthorityControlRequest}
    (hid : request.transactionId = c.envelope.transactionId) (hunmarked : ¬ c.Marked) :
    Triple (At c) (handle (exchangeAuthority A E request)
        fun _ => exchangeAuthority A E (probeRequest request nonce))
      (fun reply w => At c w ∧ ∃ request, reply
        = responseOf w.tunio.controller request reply.accepted)
      (fun _ => Book) Book := by
  have hfirst : Triple (At c) (exchangeAuthority A E request)
      (fun reply w => At c w ∧ ∃ request, reply
        = responseOf w.tunio.controller request reply.accepted)
      (fun _ => At c) Book :=
    (exchangeAuthority_at fun _ => ⟨hid, hunmarked⟩).conseq (fun _ hw => hw)
      (fun _ _ hw => ⟨hw.1, request, hw.2⟩) (fun _ _ hw => hw) (fun _ hw => hw.1)
  refine hfirst.handle fun _ => ?_
  exact (exchange_asksNothing rfl).post fun _ _ hw => ⟨hw.1, _, hw.2⟩

/-- What a reply shows is remembered. -/
theorem remember_left {c : CandidateOwner} {request : AuthorityControlRequest}
    {reply : AuthorityControlResponse} {state : OwnerState} {descriptor : Bool}
    (hobserve : c.observe reply = .ok state) (w : Party) (hw : At c w)
    (hreply : reply = responseOf w.tunio.controller request reply.accepted) :
    Left (some ⟨c, some state, descriptor⟩) w := by
  refine ⟨hw, fun hprepared => ?_⟩
  change some state = some .prepared at hprepared
  cases hprepared
  exact hw.observed hreply hobserve

theorem stageCandidate_operates
    (hremembers : a.observed = some .prepared → a.owner.committedFailure = none) :
    Operates a (stageCandidate A E a base) := by
  unfold stageCandidate
  refine (exchange_asksNothing rfl).bind fun reply => ?_
  exact .pure fun w hw => ⟨hw.1, hremembers⟩

theorem not_marked_of_unintended {c : CandidateOwner} {w : Party} (hfair : c.Fair w)
    (hintent : c.commitIntent = false) (hcancelled : c.precommitCancellation = none) :
    ¬ c.Marked := by
  intro hmarked
  rcases hmarked with hc | hc | hc | hc
  · rw [hcancelled] at hc
    cases hc
  · exact Bool.false_ne_true (hintent.symm.trans (hfair.retirement hc).1)
  · exact Bool.false_ne_true (hintent.symm.trans (hfair.failure hc).1)
  · exact Bool.false_ne_true (hintent.symm.trans (hfair.failure (hfair.isolation hc)).1)

theorem prepareWith_operates {nowMonoMs : ℕ} :
    Operates a (prepareWith A E a base nonce nowMonoMs) := by
  unfold prepareWith
  refine .ensure_bind (fun _ => ?_) fun _ hw => hw.1
  refine .lift_bind (fun request hrequest => ?_) fun _ _ hw => hw.1
  unfold CandidateOwner.prepareRequest at hrequest
  split at hrequest
  · next hchecks =>
    cases hrequest
    simp only [Bool.and_eq_true, Bool.not_eq_true', Option.isNone_iff_eq_none] at hchecks
    obtain ⟨⟨⟨⟨⟨⟨hintent, hcancelled⟩, _⟩, _⟩, _⟩, _⟩, _⟩ := hchecks
    refine persist_bind (.refl a.owner) (fun w hw => ⟨hw, hw.fair⟩) ?_
    intro w hw
    have hunmarked := not_marked_of_unintended hw.fair hintent hcancelled
    refine ((exchange_orProbe rfl hunmarked).bind fun reply => ?_) w hw
    refine .lift_bind (fun state hstate => ?_) fun _ _ hw => hw.1.1
    exact .pure fun w ⟨hw, request, hreply⟩ => remember_left hstate w hw hreply
  · cases hrequest

theorem queryOwner_operates : Operates a (queryOwner A E a base) := by
  unfold queryOwner
  refine (exchange_asksNothing rfl).bind fun reply => ?_
  refine .lift_bind (fun state hstate => ?_) fun _ _ hw => hw.1.1
  exact .pure fun w hw => remember_left hstate w hw.1 hw.2

theorem recoverPrecommitWith_operates : Operates a (recoverPrecommitWith A E a base) := by
  unfold recoverPrecommitWith
  refine .ensure_bind (fun hintent => ?_) fun _ hw => hw.1
  refine .okOr_bind (fun expected _ => ?_) fun _ hw => hw.1
  refine (exchange_asksNothing rfl).bind fun reply => ?_
  refine .ensure_bind (fun _ => ?_) fun _ hw => hw.1.1
  refine .ite (fun _ => ?_) fun _ => ?_
  · refine .lift_bind (fun state hstate => ?_) fun _ _ hw => hw.1.1
    exact .pure fun w hw => remember_left hstate w hw.1 hw.2
  refine .ensure_bind (fun hconfirmed => ?_) fun _ hw => hw.1.1
  refine persist_bind ?_ (fun w hw => ⟨hw.1, hw.1.fair_cancelled hw.2 hintent hconfirmed⟩) ?_
  · exact ⟨rfl, id, fun _ => rfl, id, id, id⟩
  exact .pure fun w hw => ⟨hw, nofun⟩

theorem commitRequest_transactionId {c : CandidateOwner} {proof : CandidateProof}
    {request : AuthorityControlRequest} (h : c.commitRequest base proof = .ok request) :
    request.transactionId = c.envelope.transactionId := by
  unfold CandidateOwner.commitRequest at h
  cases hproof : proof.requireInstalled c.envelope c.expectedPeers with
  | error e =>
    rw [hproof] at h
    cases h
  | ok u =>
    rw [hproof] at h
    change (if _ then _ else if _ then _ else _) = _ at h
    split at h
    · cases h
    split at h
    · cases h
    · cases h
      rfl

theorem promoteWith_operates {proof : CandidateProof}
    (hremembers : a.observed = some .prepared → a.owner.committedFailure = none) :
    Operates a (promoteWith A E a base nonce proof) := by
  unfold promoteWith
  refine .ensure_bind (fun hprepared => ?_) fun _ hw => hw.1
  refine .ensure_bind (fun hchecks => ?_) fun _ hw => hw.1
  obtain ⟨hcancelled, hretired, hisolated⟩ := hchecks
  have hfailed := hremembers hprepared
  refine .lift_bind (fun _ _ => ?_) fun _ _ hw => hw.1
  refine persist_bind ?_ (fun w hw => ⟨hw, .fresh hcancelled hretired hfailed hisolated⟩) ?_
  · exact ⟨rfl, fun _ => rfl, id, id, id, id⟩
  refine .lift_bind (fun request hrequest => ?_) fun _ _ hw => hw.1
  have hid := commitRequest_transactionId hrequest
  have hunmarked : ¬ CandidateOwner.Marked { a.owner with commitIntent := true } := by
    unfold CandidateOwner.Marked
    dsimp only
    rw [hcancelled, hretired, hfailed, hisolated]
    simp
  refine (exchange_orProbe hid hunmarked).bind fun reply => ?_
  refine .lift_bind (fun state hstate => ?_) fun _ _ hw => hw.1.1
  exact .pure fun w ⟨hw, request, hreply⟩ => remember_left hstate w hw hreply

theorem retireExpiredCommitWith_operates
    (hremembers : a.observed = some .prepared → a.owner.committedFailure = none) :
    Operates a (retireExpiredCommitWith A E a base) := by
  unfold retireExpiredCommitWith
  refine .ensure_bind (fun hintent => ?_) fun _ hw => hw.1
  refine .okOr_bind (fun expected _ => ?_) fun _ hw => hw.1
  refine (exchange_asksNothing rfl).bind fun reply => ?_
  refine .lift_bind (fun state hstate => ?_) fun _ _ hw => hw.1.1
  refine .ensure_bind (fun hconfirmed => ?_) fun _ hw => hw.1.1
  have hexpired : state = .expired := by
    simp only [CandidateOwner.retirementConfirmed, Bool.and_eq_true, decide_eq_true_eq]
      at hconfirmed
    exact hconfirmed.1.1.1.1.1.1.2
  rw [hexpired] at hstate
  refine persist_bind ?_ (fun w hw => ⟨hw.1, hw.1.fair_retired hw.2 hintent hstate⟩) ?_
  · exact ⟨rfl, id, id, fun _ => rfl, id, id⟩
  exact .pure fun w hw => ⟨hw, hremembers⟩

theorem requireCommittedOutcome_of_needed {c : CandidateOwner} {reply : AuthorityControlResponse}
    {businessCurrent : Option Bool} {needed : Bool}
    (h : c.committedIsolationNeeded reply businessCurrent = .ok needed) :
    c.requireCommittedOutcome reply = .ok () := by
  unfold CandidateOwner.committedIsolationNeeded at h
  cases hcommitted : c.requireCommittedOutcome reply with
  | ok u => rfl
  | error e =>
    rw [hcommitted] at h
    cases h

theorem isolateFailedCommit_operates {businessCurrent : Option Bool}
    (hremembers : a.observed = some .prepared → a.owner.committedFailure = none) :
    Operates a (isolateFailedCommit A E a base businessCurrent) := by
  unfold isolateFailedCommit
  refine (exchange_asksNothing rfl).bind fun actual => ?_
  refine .lift_bind (fun needed hneeded => ?_) fun _ _ hw => hw.1.1
  have hcommitted := requireCommittedOutcome_of_needed hneeded
  refine .ite (fun _ => .pure fun w hw => ⟨hw.1, hremembers⟩) fun _ => ?_
  have hsome : (a.owner.committedFailure.or (some actual)).isSome = true := by
    cases a.owner.committedFailure <;> rfl
  refine persist_bind ?_ (fun w hw => ⟨hw.1, hw.1.fair_failed hw.2 hcommitted⟩) ?_
  · exact ⟨rfl, id, id, id, fun _ => hsome, id⟩
  refine (agentWorks_at.conseq (fun _ hw => hw) (fun _ _ hw => hw) (fun _ _ hw => hw.1)
    (fun _ hw => hw.1)).bind fun _ => ?_
  refine .okOr_bind (fun expected _ => ?_) fun _ hw => hw.1
  refine (exchange_asksNothing rfl).bind fun isolated => ?_
  refine .lift_bind (fun _ _ => ?_) fun _ _ hw => hw.1.1
  refine .ensure_bind (fun _ => ?_) fun _ hw => hw.1.1
  refine persist_bind ?_ (fun w hw => ⟨hw.1, hw.1.fair_isolated hsome⟩) ?_
  · exact ⟨rfl, id, id, id, id, fun _ => rfl⟩
  exact .pure fun w hw => hw.1

end Operations

/-! ## Runs -/

variable {w : Party} {request : AuthorityControlRequest} {c : CandidateOwner}

/-- The invariant between two moves. -/
structure Steady (w : Party) : Prop where
  book : Book w
  activity : ∀ a, w.activity = some a → Left (some a) w

theorem Book.with_activity (hw : Book w) (activity : Option Activity) :
    Book { w with activity } where
  outcome := hw.outcome
  seen := hw.seen
  journaled c hc :=
    ⟨(hw.journaled c hc).1, (hw.journaled c hc).2.mono (.refl _) fun _ hb => .inl hb⟩
  latest := hw.latest
  orderly := hw.orderly

theorem Book.with_registered (hw : Book w) (id : String) :
    Book { w with registered := id :: w.registered } where
  outcome := hw.outcome
  seen := hw.seen
  journaled c hc := ⟨List.mem_cons_of_mem _ (hw.journaled c hc).1,
    (hw.journaled c hc).2.mono (.refl _) fun _ hb => .inl hb⟩
  latest := hw.latest
  orderly := hw.orderly

theorem Steady.of_left {r : Option Activity} (h : Left r w) :
    Steady { w with activity := r } := by
  cases r with
  | none =>
    refine ⟨h.with_activity none, fun a ha => ?_⟩
    cases ha
  | some a =>
    refine ⟨h.1.1.with_activity _, fun a' ha' => ?_⟩
    cases ha'
    exact ⟨⟨h.1.1.with_activity _, h.1.2⟩, h.2⟩

theorem Steady.acts (hw : Steady w) {m : Activity → Agt (Option Activity)}
    (hm : ∀ a, (a.observed = some .prepared → a.owner.committedFailure = none) →
      Operates a (m a)) : Steady (w.acts m) := by
  unfold Party.acts
  cases ha : w.activity with
  | none => exact hw
  | some a =>
    obtain ⟨hat, hremembers⟩ := hw.activity a ha
    have hwp := hm a hremembers w hat
    unfold wp at hwp
    dsimp only
    cases hrun : m a w with
    | mk outcome w' =>
      rw [hrun] at hwp
      cases outcome with
      | ok result => exact .of_left hwp
      | err e => exact .of_left (r := none) hwp
      | crash => exact .of_left (r := none) hwp

theorem Steady.registers (hw : Steady w) (envelope : AuthorityEnvelope)
    (expectedActive : Option PacketPortBinding) (prepareDeadlineMonoMs : ℕ)
    (expectedPeers : List PeerExpectation) :
    Steady (w.registers A E envelope expectedActive prepareDeadlineMonoMs expectedPeers) := by
  unfold Party.registers
  split
  · exact hw
  next hfresh =>
  split
  · exact .of_left (r := none) hw.book
  next owner howner =>
  have hnew : owner.envelope = envelope ∧ owner.precommitCancellation = none
      ∧ owner.expiredCommitRetirement = none ∧ owner.committedFailure = none
      ∧ owner.committedIsolation = none := by
    unfold CandidateOwner.new at howner
    split at howner
    · cases howner
    split at howner
    · cases howner
    cases howner
    exact ⟨rfl, rfl, rfl, rfl, rfl⟩
  obtain ⟨henvelope, hcancelled, hretired, hfailed, hisolated⟩ := hnew
  subst henvelope
  have hwp := persist_writes (A := A) (E := E) (c := owner)
    (hw.book.with_registered owner.envelope.transactionId) List.mem_cons_self
    (.fresh hcancelled hretired hfailed hisolated) fun c' hc' hid => by
      -- The identity has not been used.
      have hused := (hw.book.journaled c' hc').1
      rw [hid] at hused
      exact absurd hused hfresh
  unfold wp at hwp
  dsimp only
  cases hrun : persist A E owner
      { w with registered := owner.envelope.transactionId :: w.registered } with
  | mk outcome w' =>
    rw [hrun] at hwp
    cases outcome with
    | ok u => exact .of_left (r := some ⟨owner, none, true⟩) ⟨hwp, nofun⟩
    | err e => exact .of_left (r := none) hwp
    | crash => exact .of_left (r := none) hwp

theorem move_steady (hw : Steady w) (m : Move) : Steady (move A E w m) := by
  cases m with
  | tunio l =>
    refine ⟨hw.book.proceeds [l], fun a ha => ?_⟩
    obtain ⟨hat, hremembers⟩ := hw.activity a ha
    exact ⟨⟨hat.1.proceeds [l], hat.2⟩, hremembers⟩
  | register envelope expectedActive prepareDeadlineMonoMs expectedPeers =>
    exact hw.registers _ _ _ _
  | resume =>
    refine .of_left ?_
    cases hjournal : w.journal with
    | none => exact hw.book
    | some c => exact ⟨⟨hw.book, hjournal⟩, nofun⟩
  | stage base => exact hw.acts fun a ha => stageCandidate_operates ha
  | prepare base nonce nowMonoMs => exact hw.acts fun a _ => prepareWith_operates
  | query base => exact hw.acts fun a _ => queryOwner_operates
  | recover base => exact hw.acts fun a _ => recoverPrecommitWith_operates
  | commit base nonce proof => exact hw.acts fun a ha => promoteWith_operates ha
  | retire base => exact hw.acts fun a ha => retireExpiredCommitWith_operates ha
  | isolate base businessCurrent => exact hw.acts fun a ha => isolateFailedCommit_operates ha

theorem moves_steady (hw : Steady w) (ms : List Move) : Steady (moves A E ms w) := by
  induction ms generalizing w with
  | nil => exact hw
  | cons m ms ih => exact ih (move_steady hw m)

theorem Party.start_steady (origin : Origin) (process controller : ProcessIdentity)
    (tokenSha256 : String) : Steady (.start origin process controller tokenSha256) where
  book := {
    outcome := World.start_outcome origin process controller tokenSha256
    seen := fun _ hb => absurd hb List.not_mem_nil
    journaled := fun _ hc => absurd hc List.not_mem_nil
    latest := fun c hc => nomatch (show (none : Option CandidateOwner) = some c from hc)
    orderly := .nil }
  activity a ha := nomatch (show (none : Option Activity) = some a from ha)

/-- Of two journaled records of one transaction, one is later. -/
theorem Book.comparable (hw : Book w) {c c' : CandidateOwner} (hc : .journaled c ∈ w.trace)
    (hc' : .journaled c' ∈ w.trace) (hid : c'.envelope.transactionId = c.envelope.transactionId) :
    c.Extends c' ∨ c'.Extends c := by
  have hpairs := List.Pairwise.forall_of_forall_of_flip
    (R := fun e e' => e = e' ∨ After e e' ∨ After e' e) (fun _ _ => .inl rfl)
    (hw.orderly.imp fun h => .inr (.inl h)) (hw.orderly.imp fun h => .inr (.inr h)) hc hc'
  rcases hpairs with hsame | hafter | hafter
  · cases hsame
    exact .inl (.refl c)
  · exact .inr (hafter hid)
  · exact .inl (hafter hid.symm)

/-- The marks of two records of one transaction exclude one another. -/
theorem Book.exclusive (hw : Book w) {c c' : CandidateOwner} (hc : .journaled c ∈ w.trace)
    (hc' : .journaled c' ∈ w.trace) (hid : c'.envelope.transactionId = c.envelope.transactionId) :
    (c.precommitCancellation.isSome = true → c'.expiredCommitRetirement = none
      ∧ c'.committedFailure = none ∧ c'.committedIsolation = none)
    ∧ (c.expiredCommitRetirement.isSome = true → c'.precommitCancellation = none
      ∧ c'.committedFailure = none ∧ c'.committedIsolation = none) := by
  -- The later of the two records has the marks of both.
  obtain ⟨d, hd, hextends, hextends'⟩ : ∃ d : CandidateOwner, d.Fair w ∧ c.Extends d
      ∧ c'.Extends d := by
    rcases hw.comparable hc hc' hid with hlater | hlater
    · exact ⟨c', (hw.journaled c' hc').2, hlater, .refl c'⟩
    · exact ⟨c, (hw.journaled c hc).2, .refl c, hlater⟩
  have hcancelled (h : d.precommitCancellation.isSome = true)
      (h' : d.commitIntent = true) : False :=
    Bool.false_ne_true ((hd.cancellation h).1.symm.trans h')
  refine ⟨fun hmark => ⟨?_, ?_, ?_⟩, fun hmark => ⟨?_, ?_, ?_⟩⟩
  · apply Option.not_isSome_iff_eq_none.mp
    intro hmark'
    exact hcancelled (hextends.cancellation hmark) (hd.retirement (hextends'.retirement hmark')).1
  · apply Option.not_isSome_iff_eq_none.mp
    intro hmark'
    exact hcancelled (hextends.cancellation hmark) (hd.failure (hextends'.failure hmark')).1
  · apply Option.not_isSome_iff_eq_none.mp
    intro hmark'
    exact hcancelled (hextends.cancellation hmark)
      (hd.failure (hd.isolation (hextends'.isolation hmark'))).1
  · apply Option.not_isSome_iff_eq_none.mp
    intro hmark'
    exact hcancelled (hextends'.cancellation hmark') (hd.retirement (hextends.retirement hmark)).1
  · apply Option.not_isSome_iff_eq_none.mp
    intro hmark'
    exact hd.exclusive (hextends.retirement hmark) (hextends'.failure hmark')
  · apply Option.not_isSome_iff_eq_none.mp
    intro hmark'
    exact hd.exclusive (hextends.retirement hmark) (hd.isolation (hextends'.isolation hmark'))

/-- Agent and TUNIO agree on how an owner transaction ended. Take any run, and any record `c`
that was journaled in it. If it is cancelled, the manager does not have its revision as candidate
or as committed at the write or later. If it is retired, the manager has not shown it committed
before the write and does not later. No other record of the transaction has a mark of another
kind. After a mark no preparation and no commit of the transaction leaves the agent. -/
theorem owner_transaction_agreement (origin : Origin) (process controller : ProcessIdentity)
    (tokenSha256 : String) (ms : List Move) (earlier later : List Event) (c : CandidateOwner)
    (h : (moves A E ms (.start origin process controller tokenSha256)).trace
      = later ++ .journaled c :: earlier) :
    (c.precommitCancellation.isSome = true → ∀ b, .manager b ∈ later →
      ¬ b.Holds c.envelope.authorityRevision ∧ ¬ b.HasCommitted c.envelope.authorityRevision)
    ∧ (c.expiredCommitRetirement.isSome = true →
      ∀ b, .manager b ∈ later ∨ .manager b ∈ earlier →
        ¬ b.HasCommitted c.envelope.authorityRevision)
    ∧ (∀ c', .journaled c' ∈ later ++ .journaled c :: earlier →
      c'.envelope.transactionId = c.envelope.transactionId →
        (c.precommitCancellation.isSome = true → c'.expiredCommitRetirement = none
          ∧ c'.committedFailure = none ∧ c'.committedIsolation = none)
        ∧ (c.expiredCommitRetirement.isSome = true → c'.precommitCancellation = none
          ∧ c'.committedFailure = none ∧ c'.committedIsolation = none))
    ∧ (c.Marked → ∀ request, .sent request ∈ later → asksOwner request = true →
      request.transactionId ≠ c.envelope.transactionId) := by
  have hbook := (moves_steady (A := A) (E := E)
    (Party.start_steady origin process controller tokenSha256) ms).book
  have horderly := hbook.orderly
  rw [h, List.pairwise_append, List.pairwise_cons] at horderly
  obtain ⟨_, ⟨hearlier, _⟩, hlater⟩ := horderly
  have hafter (e : Event) (he : e ∈ later) : After e (.journaled c) :=
    hlater e he _ List.mem_cons_self
  have hin : .journaled c ∈ later ++ .journaled c :: earlier :=
    List.mem_append_right _ List.mem_cons_self
  refine ⟨fun hc b hb => (hafter _ hb).1 hc, fun hc b hb => ?_, fun c' hc' hid => ?_,
    fun hc request hrequest hasks => hafter _ hrequest hc hasks⟩
  · rcases hb with hb | hb
    · exact (hafter _ hb).2 hc
    · exact hearlier _ hb hc
  · rw [← h] at hin hc'
    exact hbook.exclusive hin hc' hid

/-- Nothing is lost and nothing fails. -/
def smooth : AgentCall where
  before := []
  delivery := .answered
  write := .done
  works := true

def onePeer : PeerExpectation where
  attachmentId := Vector.replicate 16 1
  selector := ⟨Bytes32.zero, 1, 1, Bytes32.zero, InstanceId.zero, 1, 1, 1⟩
  barrier := ⟨Bytes32.zero, 1, 1, Bytes32.zero⟩

/-- A transaction is registered, its staging reaches TUNIO, and it is cancelled. -/
def cancelledParty : Party :=
  moves (fun _ => smooth) (fun _ => calm)
    [.tunio .register, .register secondAuthority (some firstBinding) 20000 [onePeer],
      .stage (secondRequest .stageAuthority none), .recover (secondRequest .stageAuthority none)]
    (.start firstOrigin tunioProcess agentProcess "token")

/-- The run ends with a journaled cancellation, before the manager changes once more. -/
def journalsCancellation : List Event → Bool
  | .manager _ :: .journaled c :: _ => c.precommitCancellation.isSome
  | _ => false

/-- A run in which a cancellation is journaled, and what the agreement says at that write. -/
theorem owner_transaction_agreement_cancelled :
    ∃ b c earlier, cancelledParty.trace = [.manager b] ++ .journaled c :: earlier
      ∧ c.precommitCancellation.isSome = true
      ∧ ¬ b.Holds c.envelope.authorityRevision
      ∧ ¬ b.HasCommitted c.envelope.authorityRevision := by
  have hrun : journalsCancellation cancelledParty.trace = true := by decide
  unfold journalsCancellation at hrun
  split at hrun
  · next b c earlier htrace =>
    obtain ⟨hcancelled, _⟩ := owner_transaction_agreement firstOrigin tunioProcess agentProcess
      "token" _ earlier [.manager b] c htrace
    exact ⟨b, c, earlier, htrace, hrun, hcancelled hrun b List.mem_cons_self⟩
  · cases hrun

end CandyRuntime.Agent
