import CandyRuntime.Tunio.Deeds

/-!
# What every deed keeps

A deed keeps the invariant (`Deed.inv`), and it is a small move (`Deed.keeps`): no high-water
falls, nothing becomes pending, only what was pending becomes active, and an owner the manager
has given up does not come back.
-/

namespace CandyRuntime.Tunio

open Lib Lib.Proc NetdProto NetdV2

variable {b b' : Bridge} {s s' s'' : AuthorityState} {e : AuthorityEnvelope}

/-! ## The manager -/

theorem Bridge.Inv.drifts (h : b.Inv) (hd : b.Drifts b') : b'.Inv := by
  cases hd with
  | rests hr =>
    refine ⟨?_, ?_, ?_⟩
    · intro o ho
      rw [hr.epoch, hr.generation]
      rcases hr.owner with hsame | hnone
      · exact h.owner o (hsame ▸ ho)
      · rw [hnone] at ho
        cases ho
    · intro l hl
      rw [hr.lastTransaction] at hl
      rw [hr.revision, hr.pending]
      exact h.last l hl
    · intro p hp
      rw [hr.pending] at hp
      rw [hr.revision, hr.epoch]
      exact h.pending p hp
  | ends hp _ =>
    refine ⟨h.owner, ?_, ?_⟩
    · intro l hl
      cases hl
      exact ⟨(h.pending _ hp).1.le, fun _ hnone => by cases hnone⟩
    · intro p hnone
      cases hnone

theorem Bridge.Inv.prepares (h : b.Inv) {t : OwnerTransaction}
    {authorization : AuthorizationCheck} (hrevision : b.highestTransactionRevision < t.revision)
    (hepoch : b.highestOwnerEpoch < t.binding.ownerEpoch) :
    Bridge.Inv { b with
      highestTransactionRevision := t.revision
      pending := some ⟨t, authorization⟩ } := by
  refine ⟨h.owner, ?_, ?_⟩
  · intro l hl
    have hle := (h.last l hl).1
    refine ⟨by show l.transaction.revision ≤ t.revision; omega, ?_⟩
    intro p hp
    cases hp
    show l.transaction.revision < t.revision
    omega
  · intro p hp
    cases hp
    exact ⟨rfl, hepoch⟩

theorem Bridge.Inv.committed (h : b.Inv) {p : PendingOwner} (hp : b.pending = some p) :
    (b.committed p.transaction).Inv := by
  refine ⟨?_, ?_, ?_⟩
  · intro o ho
    cases ho
    exact ⟨rfl, rfl⟩
  · intro l hl
    cases hl
    exact ⟨(h.pending p hp).1.le, fun _ hnone => by cases hnone⟩
  · intro q hnone
    cases hnone

theorem Bridge.Inv.attached (h : b.Inv) {port : PacketPortBinding} {authDeadline : ℕ}
    (hpending : b.pending = none) : (b.attached port authDeadline).Inv := by
  refine ⟨?_, h.last, ?_⟩
  · intro o ho
    cases ho
    exact ⟨rfl, rfl⟩
  · intro p hp
    change b.pending = some p at hp
    rw [hpending] at hp
    cases hp

/-! ## The server, while the manager moves -/

theorem Attached.rests (h : Attached e b) (hr : b.Rests b') : Attached e b' := by
  refine ⟨by rw [hr.epoch, h.epoch], by rw [hr.generation, h.generation], ?_⟩
  intro o ho
  rcases hr.owner with hsame | hnone
  · exact h.owner o (hsame ▸ ho)
  · rw [hnone] at ho
    cases ho

/-- The transaction the manager holds is not the one of the terminal record. -/
theorem AuthorityState.Inv.terminal_ne (h : s.Inv b) {p : PendingOwner} (hp : b.pending = some p)
    {r : OwnerAuthority} {phase : OwnerTransactionPhase}
    (hr : s.ownerTerminal = some (r, phase)) : r.transaction ≠ p.transaction := by
  intro heq
  obtain ⟨r₀, hr₀, ht⟩ := h.prepared p hp
  have hcandidate := h.candidate r₀ hr₀
  have hterminal := h.terminal r phase hr
  have hlt := hterminal.2.2.1 _ hcandidate.1
  have hrevision := hterminal.1.revision
  rw [heq, ← ht, hcandidate.2.1.revision] at hrevision
  omega

theorem AuthorityState.Inv.drifts (h : s.Inv b) (hb : b.Inv) (hd : b.Drifts b') : s.Inv b' := by
  cases hd with
  | rests hr =>
    refine ⟨?_, ?_, ?_, ?_, ?_, ?_, ?_, ?_⟩
    · intro e he
      obtain ⟨hrevision, hahead | hattached⟩ := h.staged e he
      · exact ⟨hrevision, .inl (hr.epoch ▸ hahead)⟩
      · exact ⟨hrevision, .inr (hattached.rests hr)⟩
    · intro a ha
      obtain ⟨hrevision, hbelow, hbehind | hattached⟩ := h.active a ha
      · exact ⟨hrevision, hbelow, .inl (hr.epoch ▸ hbehind)⟩
      · exact ⟨hrevision, hbelow, .inr (hattached.rests hr)⟩
    · intro a o ha ho
      rcases hr.owner with hsame | hnone
      · exact h.owned a o ha (hsame ▸ ho)
      · rw [hnone] at ho
        cases ho
    · intro r hcandidate
      rw [hr.epoch, hr.lastTransaction]
      exact h.candidate r hcandidate
    · intro p hp
      exact h.prepared p (hr.pending ▸ hp)
    · intro r phase hterminal
      rw [hr.revision]
      exact h.terminal r phase hterminal
    · intro r phase hterminal
      rw [hr.lastTransaction]
      exact h.ended r phase hterminal
    · rw [hr.revision]
      exact h.revision
  | @ends p phase hp _ =>
    refine ⟨?_, ?_, h.owned, ?_, ?_, h.terminal, ?_, h.revision⟩
    · intro e he
      obtain ⟨hrevision, hahead | hattached⟩ := h.staged e he
      · exact ⟨hrevision, .inl hahead⟩
      · exact ⟨hrevision, .inr ⟨hattached.epoch, hattached.generation, hattached.owner⟩⟩
    · intro a ha
      obtain ⟨hrevision, hbelow, hbehind | hattached⟩ := h.active a ha
      · exact ⟨hrevision, hbelow, .inl hbehind⟩
      · exact ⟨hrevision, hbelow, .inr ⟨hattached.epoch, hattached.generation, hattached.owner⟩⟩
    · intro r hcandidate
      obtain ⟨hstaged, hexact, hahead | hlast⟩ := h.candidate r hcandidate
      · exact ⟨hstaged, hexact, .inl hahead⟩
      · -- A candidate the manager still holds has not been committed before.
        obtain ⟨r₀, hr₀, ht⟩ := h.prepared p hp
        rw [hcandidate] at hr₀
        cases hr₀
        have hlt := (hb.last _ hlast).2 p hp
        rw [ht] at hlt
        exact absurd hlt (lt_irrefl _)
    · intro q hnone
      cases hnone
    · intro r phase' hterminal
      refine ⟨(h.ended r phase' hterminal).1, ?_⟩
      intro l hl ht
      cases hl
      exact absurd ht.symm (h.terminal_ne hp hterminal)

theorem AuthorityState.Inv.prepares (h : s.Inv b) {r : OwnerAuthority}
    {authorization : AuthorizationCheck}
    (hrecord : s.ownerCandidate = some r ∨ ∃ phase, s.ownerTerminal = some (r, phase))
    (hrevision : b.highestTransactionRevision < r.transaction.revision) :
    s.Inv { b with
      highestTransactionRevision := r.transaction.revision
      pending := some ⟨r.transaction, authorization⟩ } := by
  have hcandidate : s.ownerCandidate = some r := by
    rcases hrecord with hcandidate | ⟨phase, hterminal⟩
    · exact hcandidate
    · have hle := (h.terminal r phase hterminal).2.2.2
      omega
  refine ⟨?_, ?_, h.owned, h.candidate, ?_, ?_, h.ended, ?_⟩
  · intro e he
    obtain ⟨hstaged, hahead | hattached⟩ := h.staged e he
    · exact ⟨hstaged, .inl hahead⟩
    · exact ⟨hstaged, .inr ⟨hattached.epoch, hattached.generation, hattached.owner⟩⟩
  · intro a ha
    obtain ⟨hle, hbelow, hbehind | hattached⟩ := h.active a ha
    · exact ⟨hle, hbelow, .inl hbehind⟩
    · exact ⟨hle, hbelow, .inr ⟨hattached.epoch, hattached.generation, hattached.owner⟩⟩
  · intro p hp
    cases hp
    exact ⟨r, hcandidate, rfl⟩
  · intro r' phase hterminal
    obtain ⟨hexact, hle, hbelow, hhigh⟩ := h.terminal r' phase hterminal
    refine ⟨hexact, hle, hbelow, ?_⟩
    show r'.transaction.revision ≤ r.transaction.revision
    omega
  · have hle := h.revision
    show s.ownerHighestRevision ≤ r.transaction.revision
    omega

/-- What was active before a newer owner came in is behind. -/
theorem AuthorityState.Inv.active_lt (h : s.Inv b) {a : AuthorityEnvelope}
    (ha : s.active = some a) {n : ℕ} (hn : b.highestOwnerEpoch < n) : a.binding.ownerEpoch < n := by
  obtain ⟨_, _, hbehind | hattached⟩ := h.active a ha
  · omega
  · rw [hattached.epoch]
    exact hn

theorem AuthorityState.Inv.committed (h : s.Inv b) (hb : b.Inv) {p : PendingOwner}
    (hp : b.pending = some p) : s.Inv (b.committed p.transaction) := by
  obtain ⟨r₀, hr₀, ht⟩ := h.prepared p hp
  obtain ⟨hpending, hexact, _⟩ := h.candidate r₀ hr₀
  have hbinding : p.transaction.binding = r₀.envelope.binding := by rw [← ht, hexact.binding]
  have hepoch := (hb.pending p hp).2
  refine ⟨?_, ?_, ?_, ?_, ?_, h.terminal, ?_, h.revision⟩
  · intro e he
    rw [hpending] at he
    cases he
    refine ⟨(h.staged _ hpending).1, .inr ⟨?_, ?_, ?_⟩⟩
    · show r₀.envelope.binding.ownerEpoch = p.transaction.binding.ownerEpoch
      rw [hbinding]
    · show r₀.envelope.binding.policyGeneration = p.transaction.binding.policyGeneration
      rw [hbinding]
    · intro o ho
      cases ho
      exact hbinding
  · intro a ha
    obtain ⟨hle, hbelow, _⟩ := h.active a ha
    exact ⟨hle, hbelow, .inl (h.active_lt ha hepoch)⟩
  · intro a o _ ho
    cases ho
    exact .inr ⟨r₀.envelope, hpending, hbinding⟩
  · intro r hr
    rw [hr₀] at hr
    cases hr
    exact ⟨hpending, hexact, .inr (by rw [ht]; rfl)⟩
  · intro q hnone
    cases hnone
  · intro r phase hterminal
    refine ⟨(h.ended r phase hterminal).1, ?_⟩
    intro l hl hl'
    cases hl
    exact absurd hl'.symm (h.terminal_ne hp hterminal)

/-- While the staged authority is ahead of the manager, the owner is the active one. -/
theorem AuthorityState.Inv.owned_of_ahead (h : s.Inv b) (hb : b.Inv)
    (hahead : ∀ p, s.pending = some p → b.highestOwnerEpoch < p.binding.ownerEpoch)
    {a : AuthorityEnvelope} {o : Owner} (ha : s.active = some a) (ho : b.owner = some o) :
    o.binding = a.binding := by
  rcases h.owned a o ha ho with hsame | ⟨p, hp, hbinding⟩
  · exact hsame
  · have hlt := hahead p hp
    have howner := (hb.owner o ho).1
    rw [hbinding] at howner
    omega

theorem AuthorityState.Inv.no_pending (h : s.Inv b) (hcandidate : s.ownerCandidate = none) :
    b.pending = none := by
  cases hp : b.pending with
  | none => rfl
  | some p =>
    obtain ⟨r, hr, _⟩ := h.prepared p hp
    rw [hcandidate] at hr
    cases hr

theorem AuthorityState.Inv.attached (h : s.Inv b) {port : PacketPortBinding} {authDeadline : ℕ}
    (hcandidate : s.ownerCandidate = none)
    (hstaged : (∃ e, s.pending = some e ∧ e.binding = port) ∨ s.pending = none ∧ s.active = none)
    (hepoch : b.highestOwnerEpoch < port.ownerEpoch) : s.Inv (b.attached port authDeadline) := by
  refine ⟨?_, ?_, ?_, ?_, ?_, h.terminal, h.ended, h.revision⟩
  · intro e he
    refine ⟨(h.staged e he).1, .inr ?_⟩
    rcases hstaged with ⟨e', he', rfl⟩ | ⟨hnone, _⟩
    · rw [he] at he'
      cases he'
      refine ⟨rfl, rfl, ?_⟩
      intro o ho
      cases ho
      rfl
    · rw [hnone] at he
      cases he
  · intro a ha
    obtain ⟨hle, hbelow, _⟩ := h.active a ha
    exact ⟨hle, hbelow, .inl (h.active_lt ha hepoch)⟩
  · intro a o ha ho
    cases ho
    rcases hstaged with ⟨e, he, hport⟩ | ⟨_, hnone⟩
    · exact .inr ⟨e, he, hport.symm⟩
    · rw [hnone] at ha
      cases ha
  · intro r hr
    rw [hcandidate] at hr
    cases hr
  · intro p hp
    have hnone := h.no_pending hcandidate
    change b.pending = some p at hp
    rw [hnone] at hp
    cases hp

/-! ## Reconciliation -/

/-- A change of the authority fields that stages nothing: no high-water falls, and only what was
pending becomes active. -/
structure AuthorityState.Moves (s s' : AuthorityState) : Prop where
  revision : s.highestRevision ≤ s'.highestRevision
  epoch : s.highestOwnerEpoch ≤ s'.highestOwnerEpoch
  generation : s.highestPolicyGeneration ≤ s'.highestPolicyGeneration
  pending : ∀ e, s'.pending = some e → s.pending = some e
  active : ∀ e, s'.active = some e → s.active = some e ∨ s.pending = some e

theorem AuthorityState.Moves.trans (h : s.Moves s') (h' : s'.Moves s'') : s.Moves s'' where
  revision := h.revision.trans h'.revision
  epoch := h.epoch.trans h'.epoch
  generation := h.generation.trans h'.generation
  pending e he := h.pending e (h'.pending e he)
  active e he := by
    rcases h'.active e he with hactive | hpending
    · exact h.active e hactive
    · exact .inr (h.pending e hpending)

theorem AuthorityState.Moves.refl (s : AuthorityState) : s.Moves s :=
  ⟨le_rfl, le_rfl, le_rfl, fun _ h => h, fun _ h => .inl h⟩

theorem Spent.moves (h : Spent s e) (hm : s.Moves s') : Spent s' e where
  revision := h.revision.trans hm.revision
  pending hp := h.pending (hm.pending e hp)
  active ha := (hm.active e ha).elim h.active h.pending

theorem AuthorityState.Marks.moves (h : s.Marks) (hm : s.Moves s')
    (hcancelled : s'.precommitCancelled = s.precommitCancelled)
    (hisolated : s'.isolatedCommitted = s.isolatedCommitted)
    (hretired : s'.retiredExpiredCommit = s.retiredExpiredCommit) : s'.Marks where
  cancelled e he := (h.cancelled e (hcancelled ▸ he)).moves hm
  isolated e he := (h.isolated e (hisolated ▸ he)).moves hm
  retired e he := (h.retired e (hretired ▸ he)).moves hm

/-- The invariant only reads six fields, and an active authority or a terminal record may be
missing. -/
theorem AuthorityState.Inv.weaken (h : s.Inv b) (hpending : s'.pending = s.pending)
    (hcandidate : s'.ownerCandidate = s.ownerCandidate)
    (hhighest : s'.highestRevision = s.highestRevision)
    (hactive : ∀ a, s'.active = some a → s.active = some a)
    (hterminal : ∀ r, s'.ownerTerminal = some r → s.ownerTerminal = some r)
    (hrevision : s'.ownerHighestRevision ≤ b.highestTransactionRevision) : s'.Inv b := by
  refine ⟨?_, ?_, ?_, ?_, ?_, ?_, ?_, hrevision⟩
  · rw [hpending, hhighest]
    exact h.staged
  · rw [hpending, hhighest]
    exact fun a ha => h.active a (hactive a ha)
  · rw [hpending]
    exact fun a o ha => h.owned a o (hactive a ha)
  · rw [hpending, hcandidate]
    exact h.candidate
  · rw [hcandidate]
    exact h.prepared
  · rw [hpending, hhighest]
    exact fun r phase hr => h.terminal r phase (hterminal _ hr)
  · intro r phase hr
    obtain ⟨hne, hlast⟩ := h.ended r phase (hterminal _ hr)
    exact ⟨fun hphase ha => hne hphase (hactive _ ha), hlast⟩

/-- Every candidate of the server is the one the manager holds. -/
def AuthorityState.Resolved (s : AuthorityState) (b : Bridge) : Prop :=
  ∀ r, s.ownerCandidate = some r → ∃ p, b.pending = some p ∧ p.transaction = r.transaction

theorem receipt_pending_any {t : OwnerTransaction} :
    b.receipt.pending.any (·.transaction = t) = true
      ↔ ∃ p, b.pending = some p ∧ p.transaction = t := by
  unfold Bridge.receipt
  cases b.pending <;> simp

theorem resolveCandidate_moves (actual : PacketPortReceipt) (h : s.Inv b) :
    s.Moves (resolveCandidate actual s) := by
  unfold resolveCandidate
  split
  · exact .refl s
  rename_i record hrecord
  split
  · exact ⟨le_rfl, le_rfl, le_rfl, fun _ h => h, fun _ h => .inl h⟩
  split
  · exact ⟨le_rfl, le_rfl, le_rfl, fun _ h => h, fun _ h => .inl h⟩
  refine ⟨le_rfl, le_rfl, le_rfl, ?_, ?_⟩
  · intro e he
    dsimp only at he
    split at he
    · cases he
    · exact he
  · intro e he
    dsimp only at he
    split at he
    · split at he
      · cases he
        exact .inr (h.candidate record hrecord).1
      · cases he
    · exact .inl he

theorem resolveCandidate_resolved (s : AuthorityState) :
    (resolveCandidate b.receipt s).Resolved b := by
  unfold resolveCandidate
  split
  · next hnone =>
    intro r hr
    rw [hnone] at hr
    cases hr
  split
  · next record _ hany =>
    intro r hr
    cases hr
    exact receipt_pending_any.mp hany
  split
  · intro r hr
    cases hr
  · intro r hr
    cases hr

theorem resolveCandidate_inv (h : s.Inv b) (hb : b.Inv) :
    (resolveCandidate b.receipt s).Inv b := by
  unfold resolveCandidate
  split
  · exact h
  rename_i record hrecord
  obtain ⟨hpending, hexact, hahead⟩ := h.candidate record hrecord
  split
  · -- The manager holds the candidate: only its mark changes.
    refine ⟨h.staged, h.active, h.owned, ?_, ?_, h.terminal, h.ended, h.revision⟩
    · intro r hr
      cases hr
      exact ⟨hpending, ⟨hexact.binding, hexact.revision, hexact.transactionId⟩, hahead⟩
    · intro p hp
      obtain ⟨r, hr, ht⟩ := h.prepared p hp
      rw [hrecord] at hr
      cases hr
      exact ⟨_, rfl, ht⟩
  rename_i hnone
  -- From here on the manager holds no candidate at all.
  have hfree : ∀ p, b.pending ≠ some p := by
    intro p hp
    obtain ⟨r, hr, ht⟩ := h.prepared p hp
    rw [hrecord] at hr
    cases hr
    exact hnone (receipt_pending_any.mpr ⟨p, hp, ht.symm⟩)
  split
  · refine ⟨h.staged, h.active, h.owned, ?_, ?_, h.terminal, h.ended, h.revision⟩
    · intro r hr
      cases hr
    · intro p hp
      exact absurd hp (hfree p)
  rename_i last hlast
  rw [Option.filter_eq_some_iff] at hlast
  obtain ⟨hlast, ht⟩ := hlast
  replace ht : last.transaction = record.transaction := by simpa using ht
  change b.lastTransaction = some last at hlast
  refine ⟨?_, ?_, ?_, ?_, ?_, ?_, ?_, h.revision⟩
  · intro e he
    cases he
  · intro a ha
    dsimp only at ha
    split at ha
    · split at ha
      · cases ha
        rename_i howner
        refine ⟨(h.staged _ hpending).1.le, fun _ hp => (by cases hp), .inr ?_⟩
        obtain ⟨o, ho, hbinding⟩ := Option.map_eq_some_iff.mp howner
        obtain ⟨hepoch, hgeneration⟩ := hb.owner o ho
        refine ⟨hbinding ▸ hepoch, hbinding ▸ hgeneration, ?_⟩
        intro o' ho'
        rw [ho] at ho'
        cases ho'
        exact hbinding
      · cases ha
    · obtain ⟨hle, _, hattached⟩ := h.active a ha
      exact ⟨hle, fun _ hp => (by cases hp), hattached⟩
  · intro a o ha ho
    dsimp only at ha
    split at ha
    · split at ha
      · cases ha
        rename_i howner
        change b.owner.map (·.binding) = _ at howner
        rw [ho] at howner
        exact .inl (Option.some.inj howner)
      · cases ha
    · rename_i hphase
      rcases h.owned a o ha ho with hsame | ⟨e, he, hbinding⟩
      · exact .inl hsame
      · -- The owner is not the candidate that ended without a commit.
        rw [hpending] at he
        cases he
        have hepoch := (hb.owner o ho).1
        rcases hahead with hahead | hcommitted
        · rw [hbinding] at hepoch
          omega
        · rw [hlast] at hcommitted
          cases hcommitted
          exact absurd rfl hphase
  · intro r hr
    cases hr
  · intro p hp
    exact absurd hp (hfree p)
  · intro r phase hr
    cases hr
    refine ⟨hexact, (h.staged _ hpending).1.le, fun _ hp => (by cases hp), ?_⟩
    have hle := (hb.last last hlast).1
    rw [ht] at hle
    exact hle
  · intro r phase hr
    cases hr
    constructor
    · intro hphase ha
      dsimp only at ha
      rw [if_neg hphase] at ha
      exact absurd ((h.active _ ha).2.1 _ hpending) (lt_irrefl _)
    · intro l hl _
      change b.lastTransaction = some l at hl
      rw [hlast] at hl
      cases hl
      rfl

theorem settleTerminal_inv (actual : PacketPortReceipt) (h : s.Inv b) :
    (settleTerminal actual s).Inv b := by
  unfold settleTerminal
  split
  · exact h
  refine h.weaken rfl rfl rfl ?_ ?_ h.revision
  · intro a ha
    dsimp only at ha
    split at ha
    · cases ha
    · exact ha
  · intro r hr
    dsimp only at hr
    split at hr
    · cases hr
    · exact hr

theorem settleTerminal_moves (actual : PacketPortReceipt) : s.Moves (settleTerminal actual s) := by
  unfold settleTerminal
  split
  · exact .refl s
  refine ⟨le_rfl, le_rfl, le_rfl, fun _ h => h, ?_⟩
  intro e he
  dsimp only at he
  split at he
  · cases he
  · exact .inl he

theorem settleTerminal_candidate (actual : PacketPortReceipt) (s : AuthorityState) :
    (settleTerminal actual s).ownerCandidate = s.ownerCandidate := by
  unfold settleTerminal
  split <;> rfl

theorem reconcileOwner_inv (h : s.Inv b) (hb : b.Inv) : (reconcileOwner s b.receipt).Inv b := by
  have h₁ : AuthorityState.Inv { s with
      actualOwnerBinding := b.receipt.binding
      ownerHighestRevision := b.receipt.highestTransactionRevision
      retainedOwnerBinding := b.receipt.retainedOwnerBinding
      oldOwnerDrained := b.receipt.oldOwnerDrained
      forcedRetirement := b.receipt.forcedRetirement } b :=
    h.weaken rfl rfl rfl (fun _ h => h) (fun _ h => h) le_rfl
  have h₂ := settleTerminal_inv b.receipt (resolveCandidate_inv h₁ hb)
  exact h₂.weaken rfl rfl rfl (fun _ h => h) (fun _ h => h) h₂.revision

theorem reconcileOwner_moves (h : s.Inv b) : s.Moves (reconcileOwner s b.receipt) := by
  have h₁ : AuthorityState.Inv { s with
      actualOwnerBinding := b.receipt.binding
      ownerHighestRevision := b.receipt.highestTransactionRevision
      retainedOwnerBinding := b.receipt.retainedOwnerBinding
      oldOwnerDrained := b.receipt.oldOwnerDrained
      forcedRetirement := b.receipt.forcedRetirement } b :=
    h.weaken rfl rfl rfl (fun _ h => h) (fun _ h => h) le_rfl
  have h₂ := (resolveCandidate_moves b.receipt h₁).trans (settleTerminal_moves b.receipt)
  exact ⟨h₂.revision, h₂.epoch, h₂.generation, h₂.pending, h₂.active⟩

theorem reconcileOwner_resolved (s : AuthorityState) :
    (reconcileOwner s b.receipt).Resolved b := by
  intro r hr
  unfold reconcileOwner at hr
  dsimp only at hr
  rw [settleTerminal_candidate] at hr
  exact resolveCandidate_resolved _ r hr

theorem promotePending_inv (h : s.Inv b) (hb : b.Inv) (hresolved : s.Resolved b) :
    (promotePending b.receipt s).Inv b := by
  unfold promotePending
  split
  · exact h
  rename_i pending hpending
  split
  swap
  · exact h
  rename_i hreached
  obtain ⟨hrevision, hahead | hattached⟩ := h.staged pending hpending
  · exact absurd hreached.1 (Nat.ne_of_gt hahead)
  refine ⟨?_, ?_, ?_, ?_, h.prepared, ?_, ?_, h.revision⟩
  · intro e he
    cases he
  · intro a ha
    cases ha
    exact ⟨hrevision.le, fun _ hp => (by cases hp), .inr hattached⟩
  · intro a o ha ho
    cases ha
    exact .inl (hattached.owner o ho)
  · -- The candidate of the server is still to be committed, so it is not the one promoted.
    intro r hr
    exfalso
    obtain ⟨hstaged, _, hcandidate⟩ := h.candidate r hr
    rw [hpending] at hstaged
    cases hstaged
    obtain ⟨p, hp, ht⟩ := hresolved r hr
    rcases hcandidate with hlt | hcommitted
    · exact absurd hattached.epoch (Nat.ne_of_gt hlt)
    · have hlt := (hb.last _ hcommitted).2 p hp
      rw [ht] at hlt
      exact lt_irrefl _ hlt
  · intro r phase hr
    obtain ⟨hexact, hle, _, hhigh⟩ := h.terminal r phase hr
    exact ⟨hexact, hle, fun _ hp => (by cases hp), hhigh⟩
  · intro r phase hr
    refine ⟨?_, (h.ended r phase hr).2⟩
    intro _ ha
    cases ha
    exact absurd ((h.terminal r phase hr).2.2.1 _ hpending) (lt_irrefl _)

theorem promotePending_moves (actual : PacketPortReceipt) : s.Moves (promotePending actual s) := by
  unfold promotePending
  split
  · exact .refl s
  rename_i pending hpending
  split
  · refine ⟨le_rfl, le_rfl, le_rfl, ?_, ?_⟩
    · intro e he
      cases he
    · intro e he
      cases he
      exact .inr hpending
  · exact .refl s

/-- A staged authority that stays so is not the one the manager has reached. -/
theorem promotePending_staged (s : AuthorityState) (he : (promotePending b.receipt s).pending = some e) :
    ¬ (e.binding.ownerEpoch = b.highestOwnerEpoch
      ∧ e.binding.policyGeneration = b.highestPolicyGeneration) := by
  unfold promotePending at he
  split at he
  · next hnone =>
    rw [hnone] at he
    cases he
  rename_i pending hpending
  split at he
  · cases he
  · rename_i hother
    rw [hpending] at he
    cases he
    exact hother

theorem promotePending_candidate (actual : PacketPortReceipt) (s : AuthorityState) :
    (promotePending actual s).ownerCandidate = s.ownerCandidate := by
  unfold promotePending
  split
  · rfl
  split <;> rfl

theorem promotePending_marks (actual : PacketPortReceipt) (s : AuthorityState) :
    (promotePending actual s).precommitCancelled = s.precommitCancelled
      ∧ (promotePending actual s).isolatedCommitted = s.isolatedCommitted
      ∧ (promotePending actual s).retiredExpiredCommit = s.retiredExpiredCommit
      ∧ (promotePending actual s).ownerHighestRevision = s.ownerHighestRevision
      ∧ (promotePending actual s).actualOwnerBinding = s.actualOwnerBinding
      ∧ (promotePending actual s).ownerTerminal = s.ownerTerminal := by
  unfold promotePending
  split
  · exact ⟨rfl, rfl, rfl, rfl, rfl, rfl⟩
  split <;> exact ⟨rfl, rfl, rfl, rfl, rfl, rfl⟩

theorem resolveCandidate_marks (actual : PacketPortReceipt) (s : AuthorityState) :
    (resolveCandidate actual s).precommitCancelled = s.precommitCancelled
      ∧ (resolveCandidate actual s).isolatedCommitted = s.isolatedCommitted
      ∧ (resolveCandidate actual s).retiredExpiredCommit = s.retiredExpiredCommit
      ∧ (resolveCandidate actual s).ownerHighestRevision = s.ownerHighestRevision
      ∧ (resolveCandidate actual s).actualOwnerBinding = s.actualOwnerBinding := by
  unfold resolveCandidate
  split
  · exact ⟨rfl, rfl, rfl, rfl, rfl⟩
  split
  · exact ⟨rfl, rfl, rfl, rfl, rfl⟩
  split <;> exact ⟨rfl, rfl, rfl, rfl, rfl⟩

theorem settleTerminal_marks (actual : PacketPortReceipt) (s : AuthorityState) :
    (settleTerminal actual s).precommitCancelled = s.precommitCancelled
      ∧ (settleTerminal actual s).isolatedCommitted = s.isolatedCommitted
      ∧ (settleTerminal actual s).retiredExpiredCommit = s.retiredExpiredCommit
      ∧ (settleTerminal actual s).ownerHighestRevision = s.ownerHighestRevision
      ∧ (settleTerminal actual s).actualOwnerBinding = s.actualOwnerBinding := by
  unfold settleTerminal
  split <;> exact ⟨rfl, rfl, rfl, rfl, rfl⟩

/-- A receipt does not touch what the server remembers of ended transactions, and the server
takes the owner and the revision of the manager over. -/
theorem reconcileOwner_marks (s : AuthorityState) (actual : PacketPortReceipt) :
    (reconcileOwner s actual).precommitCancelled = s.precommitCancelled
      ∧ (reconcileOwner s actual).isolatedCommitted = s.isolatedCommitted
      ∧ (reconcileOwner s actual).retiredExpiredCommit = s.retiredExpiredCommit
      ∧ (reconcileOwner s actual).ownerHighestRevision = actual.highestTransactionRevision
      ∧ (reconcileOwner s actual).actualOwnerBinding = actual.binding := by
  unfold reconcileOwner
  dsimp only
  have hresolve := resolveCandidate_marks actual { s with
    actualOwnerBinding := actual.binding
    ownerHighestRevision := actual.highestTransactionRevision
    retainedOwnerBinding := actual.retainedOwnerBinding
    oldOwnerDrained := actual.oldOwnerDrained
    forcedRetirement := actual.forcedRetirement }
  have hsettle := settleTerminal_marks actual (resolveCandidate actual { s with
    actualOwnerBinding := actual.binding
    ownerHighestRevision := actual.highestTransactionRevision
    retainedOwnerBinding := actual.retainedOwnerBinding
    oldOwnerDrained := actual.oldOwnerDrained
    forcedRetirement := actual.forcedRetirement })
  exact ⟨hsettle.1.trans hresolve.1, hsettle.2.1.trans hresolve.2.1,
    hsettle.2.2.1.trans hresolve.2.2.1, hsettle.2.2.2.1.trans hresolve.2.2.2.1,
    hsettle.2.2.2.2.trans hresolve.2.2.2.2⟩

/-! ## The whole deed -/

/-- The server serves this authority. -/
def InForce (c : Controller) (e : AuthorityEnvelope) : Prop :=
  c.ownerActive = true ∧ c.authority.active = some e

/-- A binding the manager has used and given up. -/
structure Gone (b : Bridge) (binding : PacketPortBinding) : Prop where
  epoch : binding.ownerEpoch ≤ b.highestOwnerEpoch
  owner : b.owner.map (·.binding) ≠ some binding

/-- A change of the server and the manager that stages nothing. -/
structure Keeps (x y : Controller × Bridge) : Prop where
  authority : x.1.authority.Moves y.1.authority
  ownerRevision : x.1.authority.ownerHighestRevision ≤ y.1.authority.ownerHighestRevision
  bindingEpoch : x.1.binding.ownerEpoch ≤ y.1.binding.ownerEpoch
  bindingGeneration : x.1.binding.policyGeneration ≤ y.1.binding.policyGeneration
  revision : x.2.highestTransactionRevision ≤ y.2.highestTransactionRevision
  epoch : x.2.highestOwnerEpoch ≤ y.2.highestOwnerEpoch
  generation : x.2.highestPolicyGeneration ≤ y.2.highestPolicyGeneration
  gone : ∀ binding, Gone x.2 binding → Gone y.2 binding
  force : ∀ e, Gone x.2 e.binding → ¬ InForce x.1 e → ¬ InForce y.1 e

theorem Keeps.refl (x : Controller × Bridge) : Keeps x x :=
  ⟨.refl _, le_rfl, le_rfl, le_rfl, le_rfl, le_rfl, le_rfl, fun _ h => h, fun _ _ h => h⟩

theorem Keeps.trans {x y z : Controller × Bridge} (h : Keeps x y) (h' : Keeps y z) :
    Keeps x z where
  authority := h.authority.trans h'.authority
  ownerRevision := h.ownerRevision.trans h'.ownerRevision
  bindingEpoch := h.bindingEpoch.trans h'.bindingEpoch
  bindingGeneration := h.bindingGeneration.trans h'.bindingGeneration
  revision := h.revision.trans h'.revision
  epoch := h.epoch.trans h'.epoch
  generation := h.generation.trans h'.generation
  gone binding hg := h'.gone binding (h.gone binding hg)
  force e hg hf := h'.force e (h.gone _ hg) (h.force e hg hf)

/-- Only the bridge has changed. -/
theorem Keeps.bridge {c : Controller}
    (hrevision : b.highestTransactionRevision ≤ b'.highestTransactionRevision)
    (hepoch : b.highestOwnerEpoch ≤ b'.highestOwnerEpoch)
    (hgeneration : b.highestPolicyGeneration ≤ b'.highestPolicyGeneration)
    (hgone : ∀ binding, Gone b binding → Gone b' binding) : Keeps (c, b) (c, b') :=
  ⟨.refl _, le_rfl, le_rfl, le_rfl, hrevision, hepoch, hgeneration, hgone, fun _ _ h => h⟩

/-- Only the authority fields have changed. -/
theorem Keeps.authorityOnly {c : Controller} (hmoves : c.authority.Moves s')
    (hrevision : s'.ownerHighestRevision = c.authority.ownerHighestRevision)
    (hactive : ∀ e, s'.active = some e → c.authority.active = some e) :
    Keeps (c, b) ({ c with authority := s' }, b) where
  authority := hmoves
  ownerRevision := hrevision.ge
  bindingEpoch := le_rfl
  bindingGeneration := le_rfl
  revision := le_rfl
  epoch := le_rfl
  generation := le_rfl
  gone _ h := h
  force e _ hf hin := hf ⟨hin.1, hactive e hin.2⟩

theorem Gone.drifts {binding : PacketPortBinding} (h : Gone b binding) (hd : b.Drifts b') :
    Gone b' binding := by
  cases hd with
  | rests hr =>
    refine ⟨by rw [hr.epoch]; exact h.epoch, ?_⟩
    rcases hr.owner with hsame | hnone
    · rw [hsame]
      exact h.owner
    · rw [hnone]
      simp
  | ends _ _ => exact ⟨h.epoch, h.owner⟩

/-- A newer owner is none of those the manager has given up. -/
theorem Gone.replaced {binding port : PacketPortBinding} (h : Gone b binding)
    (hepoch : b.highestOwnerEpoch < port.ownerEpoch) (hb : b'.highestOwnerEpoch = port.ownerEpoch)
    (howner : b'.owner.map (·.binding) = some port) : Gone b' binding := by
  have hle := h.epoch
  refine ⟨by omega, ?_⟩
  rw [howner]
  intro heq
  cases heq
  omega

theorem Deed.drifts_keeps {c : Controller} (hd : b.Drifts b') : Keeps (c, b) (c, b') := by
  refine Keeps.bridge ?_ ?_ ?_ fun binding hg => hg.drifts hd
  · cases hd with
    | rests hr => exact hr.revision.ge
    | ends _ _ => exact le_rfl
  · cases hd with
    | rests hr => exact hr.epoch.ge
    | ends _ _ => exact le_rfl
  · cases hd with
    | rests hr => exact hr.generation.ge
    | ends _ _ => exact le_rfl

theorem Inv.drifts {c : Controller} (h : Inv (c, b)) (hd : b.Drifts b') : Inv (c, b') := by
  have hkeeps := Deed.drifts_keeps (c := c) hd
  exact ⟨h.bridge.drifts hd, h.authority.drifts h.bridge hd, h.marks,
    h.epoch.trans hkeeps.epoch, h.generation.trans hkeeps.generation⟩

section Reconcile

variable {c : Controller}

/-- The authority fields after the reconciliation, before the high-waters are raised. -/
theorem reconciled_inv (h : Inv (c, b)) :
    (promotePending b.receipt (reconcileOwner c.authority b.receipt)).Inv b :=
  promotePending_inv (reconcileOwner_inv h.authority h.bridge) h.bridge
    (reconcileOwner_resolved c.authority)

theorem reconcileBinding_authority_inv (h : Inv (c, b)) (now : ℕ) :
    (reconcileBinding b.receipt now c).authority.Inv b := by
  have hinv := reconciled_inv h
  exact hinv.weaken rfl rfl rfl (fun _ h => h) (fun _ h => h) hinv.revision

theorem reconcileBinding_moves (h : Inv (c, b)) (now : ℕ) :
    c.authority.Moves (reconcileBinding b.receipt now c).authority := by
  have hmoves := (reconcileOwner_moves h.authority).trans (promotePending_moves b.receipt)
  exact ⟨hmoves.revision, hmoves.epoch.trans (le_max_left _ _),
    hmoves.generation.trans (le_max_left _ _), hmoves.pending, hmoves.active⟩

/-- The server follows the manager to its last owner, or stays where it is. -/
theorem reconcileBinding_binding (h : Inv (c, b)) (now : ℕ) :
    (reconcileBinding b.receipt now c).binding = c.binding
      ∨ (reconcileBinding b.receipt now c).binding.ownerEpoch = b.highestOwnerEpoch
        ∧ (reconcileBinding b.receipt now c).binding.policyGeneration
          = b.highestPolicyGeneration := by
  unfold reconcileBinding
  dsimp only
  cases ho : b.owner with
  | some o =>
    have hbinding : b.receipt.binding = some o.binding := by
      show b.owner.map (·.binding) = _
      rw [ho]
      rfl
    rw [hbinding]
    exact .inr (h.bridge.owner o ho)
  | none =>
    have hbinding : b.receipt.binding = none := by
      show b.owner.map (·.binding) = _
      rw [ho]
      rfl
    rw [hbinding]
    dsimp only [Option.getD_none]
    split
    · rename_i active hactive
      rw [Option.filter_eq_some_iff] at hactive
      obtain ⟨ha, hepoch⟩ := hactive
      replace hepoch : active.binding.ownerEpoch = b.highestOwnerEpoch := of_decide_eq_true hepoch
      obtain ⟨_, _, hbehind | hattached⟩ := (reconciled_inv h).active active ha
      · exact absurd hepoch (Nat.ne_of_lt hbehind)
      · exact .inr ⟨hepoch, hattached.generation⟩
    · exact .inl rfl

/-- Once the server has reconciled, it serves nothing but the owner the manager has. -/
theorem reconcileBinding_inForce (h : Inv (c, b)) {now : ℕ}
    (hin : InForce (reconcileBinding b.receipt now c) e) :
    b.owner.map (·.binding) = some e.binding := by
  obtain ⟨hactive, ha⟩ := hin
  cases ho : b.owner with
  | none =>
    have hbinding : b.receipt.binding = none := by
      show b.owner.map (·.binding) = _
      rw [ho]
      rfl
    unfold reconcileBinding at hactive
    dsimp only at hactive
    rw [hbinding] at hactive
    cases hactive
  | some o =>
    rcases (reconciled_inv h).owned e o ha ho with hsame | ⟨p, hp, hbinding⟩
    · show some o.binding = some e.binding
      rw [hsame]
    · -- A staged authority the manager had taken in would be the active one.
      have howner := h.bridge.owner o ho
      rw [hbinding] at howner
      exact absurd howner (promotePending_staged _ hp)

theorem reconcileBinding_marks (now : ℕ) :
    (reconcileBinding b.receipt now c).authority.precommitCancelled
        = c.authority.precommitCancelled
      ∧ (reconcileBinding b.receipt now c).authority.isolatedCommitted
        = c.authority.isolatedCommitted
      ∧ (reconcileBinding b.receipt now c).authority.retiredExpiredCommit
        = c.authority.retiredExpiredCommit
      ∧ (reconcileBinding b.receipt now c).authority.ownerHighestRevision
        = b.highestTransactionRevision := by
  have hpromote := promotePending_marks b.receipt (reconcileOwner c.authority b.receipt)
  have howner := reconcileOwner_marks c.authority b.receipt
  exact ⟨hpromote.1.trans howner.1, hpromote.2.1.trans howner.2.1,
    hpromote.2.2.1.trans howner.2.2.1, hpromote.2.2.2.1.trans howner.2.2.2.1⟩

theorem reconcileBinding_keeps (h : Inv (c, b)) (now : ℕ) :
    Keeps (c, b) (reconcileBinding b.receipt now c, b) where
  authority := reconcileBinding_moves h now
  ownerRevision := by
    show _ ≤ (reconcileBinding b.receipt now c).authority.ownerHighestRevision
    rw [(reconcileBinding_marks now).2.2.2]
    exact h.authority.revision
  bindingEpoch := by
    rcases reconcileBinding_binding h now with hsame | ⟨hepoch, _⟩
    · exact (congrArg (·.ownerEpoch) hsame).ge
    · exact h.epoch.trans hepoch.ge
  bindingGeneration := by
    rcases reconcileBinding_binding h now with hsame | ⟨_, hgeneration⟩
    · exact (congrArg (·.policyGeneration) hsame).ge
    · exact h.generation.trans hgeneration.ge
  revision := le_rfl
  epoch := le_rfl
  generation := le_rfl
  gone _ hg := hg
  force e hg _ hin := hg.owner (reconcileBinding_inForce h hin)

theorem reconcileBinding_inv (h : Inv (c, b)) (now : ℕ) :
    Inv (reconcileBinding b.receipt now c, b) where
  bridge := h.bridge
  authority := reconcileBinding_authority_inv h now
  marks :=
    have hmarks := reconcileBinding_marks (c := c) (b := b) now
    h.marks.moves (reconcileBinding_moves h now) hmarks.1 hmarks.2.1 hmarks.2.2.1
  epoch := by
    rcases reconcileBinding_binding h now with hsame | ⟨hepoch, _⟩
    · exact (congrArg (·.ownerEpoch) hsame).le.trans h.epoch
    · exact hepoch.le
  generation := by
    rcases reconcileBinding_binding h now with hsame | ⟨_, hgeneration⟩
    · exact (congrArg (·.policyGeneration) hsame).le.trans h.generation
    · exact hgeneration.le

/-- Measuring the deadline of the owner changes nothing the invariant reads. -/
theorem reconcileDeadline_fields (actual : PacketPortReceipt) (monotonic now : ℕ) :
    ∃ deadline authDeadlineUnix, reconcileDeadline actual monotonic now c
      = { c with
          authDeadlineUnix
          authority := { c.authority with actualDeadlineMonoMs := deadline } } := by
  unfold reconcileDeadline
  dsimp only
  split
  · exact ⟨_, c.authDeadlineUnix, rfl⟩
  · exact ⟨_, _, rfl⟩

end Reconcile

/-! ## Every deed -/

theorem Inv.keeps_of {c : Controller} (hb : b.Inv) (ha : c.authority.Inv b)
    (hm : c.authority.Marks) {x : Controller × Bridge} (hx : Inv x) (h : Keeps x (c, b))
    (hepoch : c.binding = x.1.binding) : Inv (c, b) where
  bridge := hb
  authority := ha
  marks := hm
  epoch := by
    show c.binding.ownerEpoch ≤ b.highestOwnerEpoch
    rw [hepoch]
    exact hx.epoch.trans h.epoch
  generation := by
    show c.binding.policyGeneration ≤ b.highestPolicyGeneration
    rw [hepoch]
    exact hx.generation.trans h.generation

/-- A deed is a small move. -/
theorem Deed.keeps {x y : Controller × Bridge} (hd : Deed x y) (h : Inv x) : Keeps x y := by
  cases hd with
  | drifts hdrifts => exact Deed.drifts_keeps hdrifts
  | prepares _ _ hrevision _ => exact .bridge hrevision.le le_rfl le_rfl fun _ hg => ⟨hg.epoch, hg.owner⟩
  | commits hpending hgeneration =>
    have hepoch := (h.bridge.pending _ hpending).2
    exact .bridge le_rfl hepoch.le hgeneration fun _ hg => hg.replaced hepoch rfl rfl
  | attaches _ _ hepoch hgeneration =>
    exact .bridge le_rfl hepoch.le hgeneration fun _ hg => hg.replaced hepoch rfl rfl
  | rebinds _ _ hepoch hgeneration =>
    exact .bridge le_rfl hepoch.le hgeneration fun _ hg => hg.replaced hepoch rfl rfl
  | acknowledges hactive hepoch hgeneration =>
    refine ⟨.refl _, le_rfl, hepoch.1, hgeneration.1, le_rfl, le_rfl, le_rfl, fun _ hg => hg, ?_⟩
    intro e _ _ hin
    have hin := hin.2
    dsimp only at hin
    rw [hactive] at hin
    cases hin
  | reconciles now => exact reconcileBinding_keeps h now
  | @measures c b actual monotonic now =>
    obtain ⟨deadline, authDeadlineUnix, heq⟩ :=
      reconcileDeadline_fields (c := c) actual monotonic now
    rw [heq]
    exact ⟨⟨le_rfl, le_rfl, le_rfl, fun _ h => h, fun _ h => .inl h⟩, le_rfl, le_rfl, le_rfl,
      le_rfl, le_rfl, le_rfl, fun _ hg => hg, fun _ _ hf hin => hf hin⟩
  | records _ _ _ _ =>
    exact .authorityOnly ⟨le_rfl, le_rfl, le_rfl, fun _ h => h, fun _ h => .inl h⟩ rfl fun _ h => h
  | cancels _ _ _ _ =>
    refine .authorityOnly ⟨le_max_left _ _, le_max_left _ _, le_max_left _ _, ?_, ?_⟩ rfl
      fun _ h => h
    · intro e he
      cases he
    · exact fun _ h => .inl h
  | discards _ _ =>
    refine .authorityOnly ⟨le_rfl, le_rfl, le_rfl, ?_, fun _ h => .inl h⟩ rfl fun _ h => h
    intro e he
    cases he
  | retires _ _ =>
    exact .authorityOnly ⟨le_rfl, le_rfl, le_rfl, fun _ h => h, fun _ h => .inl h⟩ rfl fun _ h => h
  | isolates _ _ =>
    exact .authorityOnly ⟨le_rfl, le_rfl, le_rfl, fun _ h => h, fun _ h => .inl h⟩ rfl fun _ h => h
  | clears =>
    refine ⟨⟨le_rfl, le_rfl, le_rfl, fun _ h => h, ?_⟩, le_rfl, le_rfl, le_rfl, le_rfl, le_rfl,
      le_rfl, fun _ hg => hg, ?_⟩
    · intro e he
      cases he
    · intro e _ _ hin
      cases hin.1
  | administers _ _ _ =>
    exact ⟨.refl _, le_rfl, le_rfl, le_rfl, le_rfl, le_rfl, le_rfl, fun _ hg => hg,
      fun _ _ hf hin => hf hin⟩

/-- A deed keeps the invariant. -/
theorem Deed.inv {x y : Controller × Bridge} (hd : Deed x y) (h : Inv x) : Inv y := by
  have hkeeps := hd.keeps h
  cases hd with
  | drifts hdrifts => exact h.drifts hdrifts
  | prepares hrecord _ hrevision hepoch =>
    exact .keeps_of (h.bridge.prepares hrevision hepoch) (h.authority.prepares hrecord hrevision)
      h.marks h hkeeps rfl
  | commits hpending _ =>
    exact .keeps_of (h.bridge.committed hpending) (h.authority.committed h.bridge hpending)
      h.marks h hkeeps rfl
  | attaches hcandidate hstaged hepoch _ =>
    exact .keeps_of (h.bridge.attached (h.authority.no_pending hcandidate))
      (h.authority.attached hcandidate (.inl ⟨_, hstaged, rfl⟩) hepoch) h.marks h hkeeps rfl
  | @rebinds c b _ _ hactive hpending hepoch _ =>
    have hcandidate : c.authority.ownerCandidate = none := by
      cases hr : c.authority.ownerCandidate with
      | none => rfl
      | some r =>
        have hstaged := (h.authority.candidate r hr).1
        rw [hpending] at hstaged
        cases hstaged
    exact .keeps_of (h.bridge.attached (h.authority.no_pending hcandidate))
      (h.authority.attached hcandidate (.inr ⟨hpending, hactive⟩) hepoch) h.marks h hkeeps rfl
  | acknowledges _ hepoch hgeneration =>
    exact ⟨h.bridge, h.authority, h.marks, hepoch.2, hgeneration.2⟩
  | reconciles now => exact reconcileBinding_inv h now
  | @measures c b actual monotonic now =>
    obtain ⟨deadline, authDeadlineUnix, heq⟩ :=
      reconcileDeadline_fields (c := c) actual monotonic now
    rw [heq] at hkeeps ⊢
    exact .keeps_of h.bridge
      (h.authority.weaken rfl rfl rfl (fun _ h => h) (fun _ h => h) h.authority.revision)
      (h.marks.moves hkeeps.authority rfl rfl rfl) h hkeeps rfl
  | @records c b r hcandidate hstaged hexact hepoch =>
    refine .keeps_of h.bridge ?_ (h.marks.moves hkeeps.authority rfl rfl rfl) h hkeeps rfl
    have ha := h.authority
    refine ⟨ha.staged, ha.active, ha.owned, ?_, ?_, ha.terminal, ha.ended, ha.revision⟩
    · intro r' hr'
      cases hr'
      exact ⟨hstaged, hexact, .inl hepoch⟩
    · intro p hp
      rw [ha.no_pending hcandidate] at hp
      cases hp
  | @cancels c b e hcandidate hactive _ hstaged =>
    have ha := h.authority
    refine .keeps_of h.bridge ⟨?_, ?_, ?_, ?_, ?_, ?_, ha.ended, ha.revision⟩ ⟨?_, ?_, ?_⟩ h hkeeps rfl
    · intro p hp
      cases hp
    · intro a hA
      obtain ⟨hle, _, hattached⟩ := ha.active a hA
      exact ⟨hle.trans (le_max_left _ _), fun _ hp => (by cases hp), hattached⟩
    · intro a o hA ho
      exact .inl (ha.owned_of_ahead h.bridge (fun p hp => (hstaged p hp).2) hA ho)
    · intro r hr
      change c.authority.ownerCandidate = some r at hr
      rw [hcandidate] at hr
      cases hr
    · exact ha.prepared
    · intro r phase hr
      obtain ⟨hexact, hle, _, hhigh⟩ := ha.terminal r phase hr
      exact ⟨hexact, hle.trans (le_max_left _ _), fun _ hp => (by cases hp), hhigh⟩
    · intro e' he'
      cases he'
      exact ⟨le_max_right _ _, fun hp => (by cases hp), hactive⟩
    · exact fun e' he' => (h.marks.isolated e' he').moves hkeeps.authority
    · exact fun e' he' => (h.marks.retired e' he').moves hkeeps.authority
  | @discards c b hcandidate hstaged =>
    have ha := h.authority
    refine .keeps_of h.bridge ⟨?_, ?_, ?_, ?_, ha.prepared, ?_, ha.ended, ha.revision⟩
      (h.marks.moves hkeeps.authority rfl rfl rfl) h hkeeps rfl
    · intro p hp
      cases hp
    · intro a hA
      obtain ⟨hle, _, hattached⟩ := ha.active a hA
      exact ⟨hle, fun _ hp => (by cases hp), hattached⟩
    · intro a o hA ho
      exact .inl (ha.owned_of_ahead h.bridge hstaged hA ho)
    · intro r hr
      change c.authority.ownerCandidate = some r at hr
      rw [hcandidate] at hr
      cases hr
    · intro r phase hr
      obtain ⟨hexact, hle, _, hhigh⟩ := ha.terminal r phase hr
      exact ⟨hexact, hle, fun _ hp => (by cases hp), hhigh⟩
  | @retires c b r hterminal hpending =>
    refine .keeps_of h.bridge
      (h.authority.weaken rfl rfl rfl (fun _ h => h) (fun _ h => h) h.authority.revision)
      ⟨?_, ?_, ?_⟩ h hkeeps rfl
    · exact fun e he => (h.marks.cancelled e he).moves hkeeps.authority
    · exact fun e he => (h.marks.isolated e he).moves hkeeps.authority
    · intro e he
      cases he
      refine ⟨(h.authority.terminal r _ hterminal).2.1, ?_, ?_⟩
      · show c.authority.pending ≠ _
        rw [hpending]
        simp
      · exact (h.authority.ended r _ hterminal).1 (by decide)
  | @isolates c b r phase hterminal hactive =>
    refine .keeps_of h.bridge
      (h.authority.weaken rfl rfl rfl (fun _ h => h) (fun _ h => h) h.authority.revision)
      ⟨?_, ?_, ?_⟩ h hkeeps rfl
    · exact fun e he => (h.marks.cancelled e he).moves hkeeps.authority
    · intro e he
      cases he
      have hterminal := h.authority.terminal r _ hterminal
      refine ⟨hterminal.2.1, ?_, hactive⟩
      intro hp
      exact absurd (hterminal.2.2.1 _ hp) (lt_irrefl _)
    · exact fun e he => (h.marks.retired e he).moves hkeeps.authority
  | clears =>
    refine .keeps_of h.bridge (h.authority.weaken rfl rfl rfl ?_ (fun _ h => h) h.authority.revision)
      (h.marks.moves hkeeps.authority rfl rfl rfl) h hkeeps rfl
    intro a ha
    cases ha
  | administers _ _ _ => exact ⟨h.bridge, h.authority, h.marks, h.epoch, h.generation⟩

end CandyRuntime.Tunio
