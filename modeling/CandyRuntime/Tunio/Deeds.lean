import CandyRuntime.Tunio.Runs

/-!
# What a step can do to the server and the manager

The programs of the endpoints change two things, the controller state and the bridge. A `Deed`
is one such change together with what the code has checked for it, and the invariant `Inv` is
what every deed keeps. The state the server holds can lag behind the bridge, after an answer
that was lost; the invariant says how far.
-/

namespace CandyRuntime.Tunio

open Lib Lib.Proc NetdProto NetdV2

/-! ## The manager -/

/-- Nothing new has come into the bridge. -/
structure Bridge.Rests (b b' : Bridge) : Prop where
  owner : b'.owner = b.owner ∨ b'.owner = none
  pending : b'.pending = b.pending
  lastTransaction : b'.lastTransaction = b.lastTransaction
  revision : b'.highestTransactionRevision = b.highestTransactionRevision
  epoch : b'.highestOwnerEpoch = b.highestOwnerEpoch
  generation : b'.highestPolicyGeneration = b.highestPolicyGeneration

/-- What the bridge does without an owner or a candidate coming in: an owner goes, or the
candidate ends without a commit. -/
inductive Bridge.Drifts (b : Bridge) : Bridge → Prop where
  | rests {b' : Bridge} (h : b.Rests b') : Drifts b b'
  | ends {p : PendingOwner} {phase : OwnerTransactionPhase} (hp : b.pending = some p)
      (hphase : phase ≠ .committed) :
      Drifts b { b with pending := none, lastTransaction := some ⟨p.transaction, phase⟩ }

namespace Bridge

variable {b b' : Bridge} {c : Circumstance} {t : OwnerTransaction}

theorem Drifts.refl (b : Bridge) : b.Drifts b := .rests ⟨.inl rfl, rfl, rfl, rfl, rfl, rfl⟩

theorem Drifts.ownerless (h : b'.owner = none) (hpending : b'.pending = b.pending)
    (hlast : b'.lastTransaction = b.lastTransaction)
    (hrevision : b'.highestTransactionRevision = b.highestTransactionRevision)
    (hepoch : b'.highestOwnerEpoch = b.highestOwnerEpoch)
    (hgeneration : b'.highestPolicyGeneration = b.highestPolicyGeneration) : b.Drifts b' :=
  .rests ⟨.inr h, hpending, hlast, hrevision, hepoch, hgeneration⟩

theorem endPending_drifts {phase : OwnerTransactionPhase} (h : phase ≠ .committed) :
    b.Drifts (b.endPending phase) := by
  unfold endPending
  split
  · exact .refl b
  · next p hp => exact .ends hp h

theorem forceRetained_drifts : b.Drifts b.forceRetained :=
  .rests ⟨.inl rfl, rfl, rfl, rfl, rfl, rfl⟩

theorem happens_drifts (h : Happening) : b.Drifts (b.happens h) := by
  cases h with
  | ownerExpired now =>
    simp only [happens]
    split
    · exact .ownerless rfl rfl rfl rfl rfl rfl
    · exact .refl b
  | ownerFailed => exact .ownerless rfl rfl rfl rfl rfl rfl
  | retainedExpired now =>
    simp only [happens]
    split
    · exact forceRetained_drifts
    · exact .refl b
  | retainedFailed =>
    simp only [happens]
    split
    · exact forceRetained_drifts
    · exact .refl b
  | pendingExpired now =>
    simp only [happens]
    split
    · exact endPending_drifts (by decide)
    · exact .refl b
  | pendingFailed => exact endPending_drifts (by decide)

theorem revoke_drifts (ownerEpoch : ℕ) : b.Drifts (b.revoke ownerEpoch).2 := by
  unfold revoke
  split
  · exact .refl b
  split
  · exact .ownerless rfl rfl rfl rfl rfl rfl
  · exact .ownerless rfl rfl rfl rfl rfl rfl

/-- An acknowledged revocation leaves no owner. -/
theorem revoke_ok {ownerEpoch : ℕ} (h : (b.revoke ownerEpoch).1 = .ok ()) :
    (b.revoke ownerEpoch).2.owner = none := by
  unfold revoke at h ⊢
  split at h
  · cases h
  · rename_i hepoch
    rw [if_neg hepoch]
    split <;> rfl

theorem finishOwnerDrain_drifts : b.Drifts (b.finishOwnerDrain c t).2 := by
  unfold finishOwnerDrain
  split
  · exact .refl b
  split
  · exact .refl b
  split
  · split
    · exact .rests ⟨.inl rfl, rfl, rfl, rfl, rfl, rfl⟩
    · exact .refl b
    · exact .refl b
  · exact .rests ⟨.inl rfl, rfl, rfl, rfl, rfl, rfl⟩

theorem retireOwnerAfterFailure_drifts : b.Drifts (b.retireOwnerAfterFailure c t).2 := by
  unfold retireOwnerAfterFailure
  split
  · exact .refl b
  split
  · exact .refl b
  split
  · exact .refl b
  · exact .rests ⟨.inl rfl, rfl, rfl, rfl, rfl, rfl⟩

theorem isPending_iff : b.isPending t = true ↔ ∃ p, b.pending = some p ∧ p.transaction = t := by
  unfold isPending
  cases b.pending <;> simp

theorem abortOwner_drifts : b.Drifts (b.abortOwner t).2 := by
  unfold abortOwner
  split
  · rename_i hpending
    obtain ⟨p, hp, rfl⟩ := isPending_iff.mp hpending
    exact .ends hp (by decide)
  split
  · exact .refl b
  split <;> exact .refl b

theorem probeTransaction_snd (transactionId : InstanceId) (revision : ℕ) :
    (b.probeTransaction transactionId revision).2 = b := by
  unfold probeTransaction
  simp only
  split <;> rfl

/-- A preparation leaves the bridge alone or takes the candidate in. -/
theorem prepareOwner_cases {port : PacketPortBinding} {authorization : AuthorizationCheck}
    {result : Except String Unit}
    (h : b.prepareOwner c t port authorization = (result, b')) :
    b' = b ∨ b.pending = none ∧ b.highestTransactionRevision < t.revision
      ∧ b.highestOwnerEpoch < t.binding.ownerEpoch
      ∧ b' = { b with
          highestTransactionRevision := t.revision
          pending := some ⟨t, authorization⟩ } := by
  unfold prepareOwner at h
  -- Every branch but the last returns the bridge as it was.
  have hsame {e : Except String Unit} (h : (e, b) = (result, b')) : b' = b := by
    rw [Prod.mk.injEq] at h
    exact h.2.symm
  rcases ite_eq_iff.mp h with ⟨_, h⟩ | ⟨_, h⟩
  · exact .inl (hsame h)
  rcases ite_eq_iff.mp h with ⟨_, h⟩ | ⟨_, h⟩
  · exact .inl (hsame h)
  rcases ite_eq_iff.mp h with ⟨_, h⟩ | ⟨_, h⟩
  · exact .inl (hsame h)
  rcases ite_eq_iff.mp h with ⟨_, h⟩ | ⟨hrevision, h⟩
  · exact .inl (hsame h)
  rcases ite_eq_iff.mp h with ⟨_, h⟩ | ⟨_, h⟩
  · exact .inl (hsame h)
  rcases ite_eq_iff.mp h with ⟨_, h⟩ | ⟨hpending, h⟩
  · exact .inl (hsame h)
  rcases ite_eq_iff.mp h with ⟨_, h⟩ | ⟨_, h⟩
  · exact .inl (hsame h)
  rcases ite_eq_iff.mp h with ⟨_, h⟩ | ⟨_, h⟩
  · exact .inl (hsame h)
  rcases ite_eq_iff.mp h with ⟨_, h⟩ | ⟨hepoch, h⟩
  · exact .inl (hsame h)
  rcases ite_eq_iff.mp h with ⟨_, h⟩ | ⟨_, h⟩
  · exact .inl (hsame h)
  rcases ite_eq_iff.mp h with ⟨_, h⟩ | ⟨_, h⟩
  · exact .inl (hsame h)
  rw [Prod.mk.injEq] at h
  rw [not_or] at hepoch
  exact .inr ⟨by simpa using hpending, by omega, by omega, h.2.symm⟩

/-- The bridge after a commit. -/
def committed (b : Bridge) (t : OwnerTransaction) : Bridge :=
  { b with
    pending := none
    forcedRetirement := false
    oldOwnerDrained := b.owner.isNone
    retained := b.owner.or b.retained
    highestOwnerEpoch := t.binding.ownerEpoch
    highestPolicyGeneration := t.binding.policyGeneration
    owner := some ⟨t.binding, t.authDeadline⟩
    lastTransaction := some ⟨t, .committed⟩ }

/-- A commit leaves the bridge alone or makes its candidate the owner. -/
theorem commitOwner_cases :
    (b.commitOwner c t).2 = b
      ∨ ∃ p, b.pending = some p ∧ p.transaction = t
        ∧ b.highestPolicyGeneration ≤ t.binding.policyGeneration
        ∧ (b.commitOwner c t).2 = b.committed t := by
  unfold commitOwner
  simp only
  split
  · exact .inl rfl
  split
  · exact .inl rfl
  rename_i candidate hcandidate
  rw [Option.filter_eq_some_iff] at hcandidate
  obtain ⟨hp, ht⟩ := hcandidate
  repeat' (first | split | exact .inl rfl)
  rename_i hactive _ _ _
  rw [not_or, not_or] at hactive
  exact .inr ⟨candidate, hp, by simpa using ht, by omega, rfl⟩

/-- The bridge after an attachment. -/
def attached (b : Bridge) (port : PacketPortBinding) (authDeadline : ℕ) : Bridge :=
  { b with
    highestOwnerEpoch := port.ownerEpoch
    highestPolicyGeneration := port.policyGeneration
    owner := some ⟨port, authDeadline⟩ }

/-- An attachment leaves the bridge alone and is refused, or takes the owner in. -/
theorem attach_cases {port : PacketPortBinding} {authDeadline : ℕ}
    {authorization : AuthorizationCheck} :
    ((b.attach c port authDeadline authorization).2 = b
        ∧ (b.attach c port authDeadline authorization).1 ≠ .ok ())
      ∨ b.highestOwnerEpoch < port.ownerEpoch
        ∧ b.highestPolicyGeneration ≤ port.policyGeneration
        ∧ (b.attach c port authDeadline authorization).2 = b.attached port authDeadline := by
  unfold attach
  repeat' (first | split | exact .inl ⟨rfl, by simp⟩)
  rename_i hstale
  simp only [Bool.or_eq_true, decide_eq_true_eq, not_or] at hstale
  exact .inr ⟨by omega, by omega, rfl⟩

end Bridge

/-! ## Deeds -/

/-- The record was built for its envelope. -/
structure OwnerAuthority.Exact (r : OwnerAuthority) : Prop where
  binding : r.transaction.binding = r.envelope.binding
  revision : r.transaction.revision = r.envelope.authorityRevision
  transactionId : transactionBytes r.envelope.transactionId = some r.transaction.transactionId

/-- One change of the controller state or of the bridge, with what was checked for it. Staging
is not among them. -/
inductive Deed : Controller × Bridge → Controller × Bridge → Prop where
  | drifts {c : Controller} {b b' : Bridge} (h : b.Drifts b') : Deed (c, b) (c, b')
  | prepares {c : Controller} {b : Bridge} {r : OwnerAuthority}
      {authorization : AuthorizationCheck}
      (hrecord : c.authority.ownerCandidate = some r
        ∨ ∃ phase, c.authority.ownerTerminal = some (r, phase))
      (hpending : b.pending = none)
      (hrevision : b.highestTransactionRevision < r.transaction.revision)
      (hepoch : b.highestOwnerEpoch < r.transaction.binding.ownerEpoch) :
      Deed (c, b) (c, { b with
        highestTransactionRevision := r.transaction.revision
        pending := some ⟨r.transaction, authorization⟩ })
  | commits {c : Controller} {b : Bridge} {p : PendingOwner} (hpending : b.pending = some p)
      (hgeneration : b.highestPolicyGeneration ≤ p.transaction.binding.policyGeneration) :
      Deed (c, b) (c, b.committed p.transaction)
  | attaches {c : Controller} {b : Bridge} {e : AuthorityEnvelope} {authDeadline : ℕ}
      (hcandidate : c.authority.ownerCandidate = none) (hstaged : c.authority.pending = some e)
      (hepoch : b.highestOwnerEpoch < e.binding.ownerEpoch)
      (hgeneration : b.highestPolicyGeneration ≤ e.binding.policyGeneration) :
      Deed (c, b) (c, b.attached e.binding authDeadline)
  | rebinds {c : Controller} {b : Bridge} {port : PacketPortBinding} {authDeadline : ℕ}
      (hactive : c.authority.active = none) (hpending : c.authority.pending = none)
      (hepoch : b.highestOwnerEpoch < port.ownerEpoch)
      (hgeneration : b.highestPolicyGeneration ≤ port.policyGeneration) :
      Deed (c, b) (c, b.attached port authDeadline)
  | acknowledges {c : Controller} {b : Bridge} {binding : PacketPortBinding}
      {ownerActive : Bool} {authDeadlineUnix : ℕ} (hactive : c.authority.active = none)
      (hepoch : c.binding.ownerEpoch ≤ binding.ownerEpoch
        ∧ binding.ownerEpoch ≤ b.highestOwnerEpoch)
      (hgeneration : c.binding.policyGeneration ≤ binding.policyGeneration
        ∧ binding.policyGeneration ≤ b.highestPolicyGeneration) :
      Deed (c, b) ({ c with binding, ownerActive, authDeadlineUnix }, b)
  | reconciles {c : Controller} {b : Bridge} (now : ℕ) :
      Deed (c, b) (reconcileBinding b.receipt now c, b)
  | measures {c : Controller} {b : Bridge} (actual : PacketPortReceipt) (monotonic now : ℕ) :
      Deed (c, b) (reconcileDeadline actual monotonic now c, b)
  | records {c : Controller} {b : Bridge} {r : OwnerAuthority}
      (hcandidate : c.authority.ownerCandidate = none)
      (hstaged : c.authority.pending = some r.envelope) (hexact : r.Exact)
      (hepoch : b.highestOwnerEpoch < r.envelope.binding.ownerEpoch) :
      Deed (c, b)
        ({ c with authority := { c.authority with ownerCandidate := some r } }, b)
  | cancels {c : Controller} {b : Bridge} {e : AuthorityEnvelope}
      (hcandidate : c.authority.ownerCandidate = none) (hactive : c.authority.active ≠ some e)
      (hrevision : b.highestTransactionRevision < e.authorityRevision)
      (hstaged : ∀ p, c.authority.pending = some p →
        p = e ∧ b.highestOwnerEpoch < p.binding.ownerEpoch) :
      Deed (c, b) ({ c with authority := cancelPrecommit e c.authority }, b)
  | discards {c : Controller} {b : Bridge} (hcandidate : c.authority.ownerCandidate = none)
      (hstaged : ∀ p, c.authority.pending = some p → b.highestOwnerEpoch < p.binding.ownerEpoch) :
      Deed (c, b) ({ c with authority := { c.authority with pending := none } }, b)
  | retires {c : Controller} {b : Bridge} {r : OwnerAuthority}
      (hterminal : c.authority.ownerTerminal = some (r, .expired))
      (hpending : c.authority.pending = none) :
      Deed (c, b)
        ({ c with authority := { c.authority with retiredExpiredCommit := some r.envelope } }, b)
  | isolates {c : Controller} {b : Bridge} {r : OwnerAuthority} {phase : OwnerTransactionPhase}
      (hterminal : c.authority.ownerTerminal = some (r, phase))
      (hactive : c.authority.active ≠ some r.envelope) :
      Deed (c, b)
        ({ c with authority := { c.authority with isolatedCommitted := some r.envelope } }, b)
  | clears {c : Controller} {b : Bridge} :
      Deed (c, b) ({ c with
        ownerActive := false
        authority := { c.authority with active := none, actualDeadlineMonoMs := none } }, b)
  | administers {c : Controller} {b : Bridge} (controller : ProcessIdentity) (epoch : ℕ)
      (registered : Bool) : Deed (c, b) ({ c with controller, epoch, registered }, b)

/-! ## The invariant -/

/-- The manager has taken this authority in, and has no other owner since. -/
structure Attached (e : AuthorityEnvelope) (b : Bridge) : Prop where
  epoch : e.binding.ownerEpoch = b.highestOwnerEpoch
  generation : e.binding.policyGeneration = b.highestPolicyGeneration
  owner : ∀ o, b.owner = some o → o.binding = e.binding

/-- The authority is past its staging and is neither pending nor active. -/
structure Spent (s : AuthorityState) (e : AuthorityEnvelope) : Prop where
  revision : e.authorityRevision ≤ s.highestRevision
  pending : s.pending ≠ some e
  active : s.active ≠ some e

/-- The revisions of the manager are in order. -/
structure Bridge.Inv (b : Bridge) : Prop where
  owner : ∀ o, b.owner = some o → o.binding.ownerEpoch = b.highestOwnerEpoch
    ∧ o.binding.policyGeneration = b.highestPolicyGeneration
  last : ∀ l, b.lastTransaction = some l →
    l.transaction.revision ≤ b.highestTransactionRevision
      ∧ ∀ p, b.pending = some p → l.transaction.revision < p.transaction.revision
  pending : ∀ p, b.pending = some p →
    p.transaction.revision = b.highestTransactionRevision
      ∧ b.highestOwnerEpoch < p.transaction.binding.ownerEpoch

/-- What the server knows of the manager, and how far it can be behind. -/
structure AuthorityState.Inv (s : AuthorityState) (b : Bridge) : Prop where
  staged : ∀ e, s.pending = some e → e.authorityRevision = s.highestRevision
    ∧ (b.highestOwnerEpoch < e.binding.ownerEpoch ∨ Attached e b)
  active : ∀ a, s.active = some a → a.authorityRevision ≤ s.highestRevision
    ∧ (∀ e, s.pending = some e → a.authorityRevision < e.authorityRevision)
    ∧ (a.binding.ownerEpoch < b.highestOwnerEpoch ∨ Attached a b)
  owned : ∀ a o, s.active = some a → b.owner = some o →
    o.binding = a.binding ∨ ∃ e, s.pending = some e ∧ o.binding = e.binding
  candidate : ∀ r, s.ownerCandidate = some r → s.pending = some r.envelope ∧ r.Exact
    ∧ (b.highestOwnerEpoch < r.envelope.binding.ownerEpoch
      ∨ b.lastTransaction = some ⟨r.transaction, .committed⟩)
  prepared : ∀ p, b.pending = some p →
    ∃ r, s.ownerCandidate = some r ∧ r.transaction = p.transaction
  terminal : ∀ r phase, s.ownerTerminal = some (r, phase) → r.Exact
    ∧ r.envelope.authorityRevision ≤ s.highestRevision
    ∧ (∀ e, s.pending = some e → r.envelope.authorityRevision < e.authorityRevision)
    ∧ r.transaction.revision ≤ b.highestTransactionRevision
  ended : ∀ r phase, s.ownerTerminal = some (r, phase) →
    (phase ≠ .committed → s.active ≠ some r.envelope)
      ∧ ∀ l, b.lastTransaction = some l → l.transaction = r.transaction → l.phase = phase
  revision : s.ownerHighestRevision ≤ b.highestTransactionRevision

/-- What the server remembers as cancelled, isolated or retired has left the other fields. -/
structure AuthorityState.Marks (s : AuthorityState) : Prop where
  cancelled : ∀ e, s.precommitCancelled = some e → Spent s e
  isolated : ∀ e, s.isolatedCommitted = some e → Spent s e
  retired : ∀ e, s.retiredExpiredCommit = some e → Spent s e

/-- The invariant of the server and the manager. -/
structure Inv (x : Controller × Bridge) : Prop where
  bridge : x.2.Inv
  authority : x.1.authority.Inv x.2
  marks : x.1.authority.Marks
  epoch : x.1.binding.ownerEpoch ≤ x.2.highestOwnerEpoch
  generation : x.1.binding.policyGeneration ≤ x.2.highestPolicyGeneration

end CandyRuntime.Tunio
