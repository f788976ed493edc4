import CandyRuntime.Tunio.ReplayTheorems

/-!
# How an owner transaction ended

A revision is closed for the server when nothing with it, or before it, can be pending again.
It is sealed with an outcome when the manager and the server can only ever report that outcome
of it: a phase, or none at all for a revision the manager has never seen. Both stay so in every
run, whatever the other parties do, and what the server reports of a transaction is sealed.
-/

namespace CandyRuntime.Tunio

open Lib Lib.Proc NetdProto NetdV2

variable {E : ℕ → Moment} {n : ℕ} {p : Option OwnerTransactionPhase} {x y : Controller × Bridge}
variable {e : AuthorityEnvelope} {r : OwnerAuthority} {q : PendingOwner}

/-- The server is past the revision `n`. -/
structure Closed (n : ℕ) (s : AuthorityState) : Prop where
  revision : n ≤ s.highestRevision
  pending : ∀ e, s.pending = some e → n < e.authorityRevision

/-- The outcome of the revision `n` is `p`. -/
structure Sealed (n : ℕ) (p : Option OwnerTransactionPhase) (x : Controller × Bridge) : Prop where
  bound : n ≤ x.2.highestTransactionRevision ∨ Closed n x.1.authority
  pending : ∀ q, x.2.pending = some q → n < q.transaction.revision
  last : ∀ l, x.2.lastTransaction = some l → l.transaction.revision = n → p = some l.phase
  terminal : ∀ r q, x.1.authority.ownerTerminal = some (r, q) → r.transaction.revision = n →
    p = some q

/-- The terminal record of the server is the last transaction of the manager, or an older one. -/
def Follows (x : Controller × Bridge) : Prop :=
  ∀ r q, x.1.authority.ownerTerminal = some (r, q) → ∃ l, x.2.lastTransaction = some l
    ∧ (l = ⟨r.transaction, q⟩ ∨ r.transaction.revision < l.transaction.revision)

/-- What the server remembers as cancelled has never reached the manager. -/
def Cancelled (x : Controller × Bridge) : Prop :=
  ∀ e, x.1.authority.precommitCancelled = some e →
    Closed e.authorityRevision x.1.authority ∧ Sealed e.authorityRevision none x

/-! ## Deeds -/

theorem Closed.moves {s s' : AuthorityState} (h : Closed n s) (hm : s.Moves s') : Closed n s' :=
  ⟨h.revision.trans hm.revision, fun e he => h.pending e (hm.pending e he)⟩

theorem Closed.staged {s : AuthorityState} (h : Closed n s)
    (he : s.highestRevision < e.authorityRevision) : Closed n (stage e s) := by
  have hle := h.revision
  refine ⟨?_, ?_⟩
  · show n ≤ e.authorityRevision
    omega
  · intro e' he'
    have hsame : e = e' := Option.some.inj he'
    rw [← hsame]
    omega

/-- A candidate of the manager is of a later revision than the server is past. -/
theorem Closed.manager (h : Closed n x.1.authority) (hx : Inv x) (hq : x.2.pending = some q) :
    n < q.transaction.revision := by
  obtain ⟨r, hr, ht⟩ := hx.authority.prepared q hq
  obtain ⟨hpending, hexact, _⟩ := hx.authority.candidate r hr
  have hlt := h.pending _ hpending
  rw [← ht, hexact.revision]
  exact hlt

/-- What a reconciliation can make of the terminal record. -/
theorem reconcileBinding_terminal {c : Controller} {b : Bridge} {now : ℕ}
    {q : OwnerTransactionPhase}
    (h : (reconcileBinding b.receipt now c).authority.ownerTerminal = some (r, q)) :
    c.authority.ownerTerminal = some (r, q) ∨ b.lastTransaction = some ⟨r.transaction, q⟩ := by
  have hpromote := promotePending_marks b.receipt (reconcileOwner c.authority b.receipt)
  replace h : (reconcileOwner c.authority b.receipt).ownerTerminal = some (r, q) :=
    hpromote.2.2.2.2.2.symm.trans h
  unfold reconcileOwner settleTerminal at h
  dsimp only at h
  split at h
  · next hnone =>
    rw [hnone] at h
    cases h
  next record phase hterminal =>
  dsimp only at h
  split at h
  · cases h
  rw [hterminal] at h
  cases h
  -- The record was there, or it is the candidate that the manager has just ended.
  unfold resolveCandidate at hterminal
  split at hterminal
  · exact .inl hterminal
  split at hterminal
  · exact .inl hterminal
  split at hterminal
  · exact .inl hterminal
  next last hlast =>
  rw [Option.filter_eq_some_iff] at hlast
  obtain ⟨hlast, ht⟩ := hlast
  cases hterminal
  replace ht : last.transaction = r.transaction := by simpa using ht
  right
  rw [← ht]
  exact hlast

theorem Sealed.keeps (h : Sealed n p x) (hk : Keeps x y)
    (hpending : y.2.pending = x.2.pending)
    (hlast : y.2.lastTransaction = x.2.lastTransaction)
    (hterminal : y.1.authority.ownerTerminal = x.1.authority.ownerTerminal) : Sealed n p y where
  bound := h.bound.imp (·.trans hk.revision) (·.moves hk.authority)
  pending q hq := h.pending q (hpending ▸ hq)
  last l hl := h.last l (hlast ▸ hl)
  terminal r q hr := h.terminal r q (hterminal ▸ hr)

/-- The manager's candidate ends, in whatever phase. -/
theorem Sealed.ends (h : Sealed n p x) (hk : Keeps x y) {phase : OwnerTransactionPhase}
    (hq : x.2.pending = some q) (hpending : y.2.pending = none)
    (hlast : y.2.lastTransaction = some ⟨q.transaction, phase⟩)
    (hterminal : y.1.authority.ownerTerminal = x.1.authority.ownerTerminal) : Sealed n p y where
  bound := h.bound.imp (·.trans hk.revision) (·.moves hk.authority)
  pending q' hq' := by
    rw [hpending] at hq'
    cases hq'
  last l hl hn := by
    have hlt := h.pending q hq
    rw [hlast] at hl
    cases hl
    change q.transaction.revision = n at hn
    omega
  terminal r q' hr := h.terminal r q' (hterminal ▸ hr)

theorem Deed.sealed (hd : Deed x y) (hx : Inv x) (h : Sealed n p x) : Sealed n p y := by
  have hk := hd.keeps hx
  cases hd with
  | drifts hdrifts =>
    cases hdrifts with
    | rests hr => exact h.keeps hk hr.pending hr.lastTransaction rfl
    | ends hq _ => exact h.ends hk hq rfl rfl rfl
  | @prepares c b r authorization hrecord _ hrevision _ =>
    refine ⟨h.bound.imp (·.trans hk.revision) (·.moves hk.authority), ?_, h.last, h.terminal⟩
    intro q hq
    cases hq
    show n < r.transaction.revision
    rcases h.bound with hle | hclosed
    · change n ≤ b.highestTransactionRevision at hle
      omega
    · rcases hrecord with hcandidate | ⟨phase, hterminal⟩
      · obtain ⟨hpending, hexact, _⟩ := hx.authority.candidate r hcandidate
        rw [hexact.revision]
        exact hclosed.pending _ hpending
      · -- The terminal record is no news for the manager.
        have hle := (hx.authority.terminal r phase hterminal).2.2.2
        change r.transaction.revision ≤ b.highestTransactionRevision at hle
        omega
  | commits hq _ => exact h.ends hk hq rfl rfl rfl
  | @reconciles c b now =>
    refine ⟨h.bound.imp (·.trans hk.revision) (·.moves hk.authority), h.pending, h.last, ?_⟩
    intro r q hr hn
    rcases reconcileBinding_terminal hr with hold | hlast
    · exact h.terminal r q hold hn
    · exact h.last _ hlast hn
  | @measures c b actual monotonic now =>
    obtain ⟨deadline, authDeadlineUnix, heq⟩ :=
      reconcileDeadline_fields (c := c) actual monotonic now
    refine h.keeps hk rfl rfl ?_
    rw [heq]
  | attaches _ _ _ _ => exact h.keeps hk rfl rfl rfl
  | rebinds _ _ _ _ => exact h.keeps hk rfl rfl rfl
  | acknowledges _ _ _ => exact h.keeps hk rfl rfl rfl
  | records _ _ _ _ => exact h.keeps hk rfl rfl rfl
  | cancels _ _ _ _ => exact h.keeps hk rfl rfl rfl
  | discards _ _ => exact h.keeps hk rfl rfl rfl
  | retires _ _ => exact h.keeps hk rfl rfl rfl
  | isolates _ _ => exact h.keeps hk rfl rfl rfl
  | clears => exact h.keeps hk rfl rfl rfl
  | administers _ _ _ => exact h.keeps hk rfl rfl rfl

theorem Follows.keeps (h : Follows x) (hlast : y.2.lastTransaction = x.2.lastTransaction)
    (hterminal : y.1.authority.ownerTerminal = x.1.authority.ownerTerminal) : Follows y := by
  intro r q hr
  rw [hlast]
  exact h r q (hterminal ▸ hr)

theorem Follows.ends (h : Follows x) (hx : Inv x) {phase : OwnerTransactionPhase}
    (hq : x.2.pending = some q) (hlast : y.2.lastTransaction = some ⟨q.transaction, phase⟩)
    (hterminal : y.1.authority.ownerTerminal = x.1.authority.ownerTerminal) : Follows y := by
  intro r q' hr
  refine ⟨_, hlast, .inr ?_⟩
  show r.transaction.revision < q.transaction.revision
  obtain ⟨l, hl, hor⟩ := h r q' (hterminal ▸ hr)
  have hlt := (hx.bridge.last l hl).2 q hq
  rcases hor with rfl | hbefore
  · exact hlt
  · omega

theorem Deed.follows (hd : Deed x y) (hx : Inv x) (h : Follows x) : Follows y := by
  cases hd with
  | drifts hdrifts =>
    cases hdrifts with
    | rests hr => exact h.keeps hr.lastTransaction rfl
    | ends hq _ => exact h.ends hx hq rfl rfl
  | commits hq _ => exact h.ends hx hq rfl rfl
  | @reconciles c b now =>
    intro r q hr
    rcases reconcileBinding_terminal hr with hold | hlast
    · exact h r q hold
    · exact ⟨_, hlast, .inl rfl⟩
  | @measures c b actual monotonic now =>
    obtain ⟨deadline, authDeadlineUnix, heq⟩ :=
      reconcileDeadline_fields (c := c) actual monotonic now
    refine h.keeps rfl ?_
    rw [heq]
  | prepares _ _ _ _ => exact h.keeps rfl rfl
  | attaches _ _ _ _ => exact h.keeps rfl rfl
  | rebinds _ _ _ _ => exact h.keeps rfl rfl
  | acknowledges _ _ _ => exact h.keeps rfl rfl
  | records _ _ _ _ => exact h.keeps rfl rfl
  | cancels _ _ _ _ => exact h.keeps rfl rfl
  | discards _ _ => exact h.keeps rfl rfl
  | retires _ _ => exact h.keeps rfl rfl
  | isolates _ _ => exact h.keeps rfl rfl
  | clears => exact h.keeps rfl rfl
  | administers _ _ _ => exact h.keeps rfl rfl

theorem Deed.cancelled (hd : Deed x y) (hx : Inv x) (h : Cancelled x) : Cancelled y := by
  have hk := hd.keeps hx
  -- A mark that was there stays closed and sealed; only a cancellation sets a new one.
  have hold {e : AuthorityEnvelope} (he : x.1.authority.precommitCancelled = some e) :
      Closed e.authorityRevision y.1.authority ∧ Sealed e.authorityRevision none y :=
    ⟨(h e he).1.moves hk.authority, hd.sealed hx (h e he).2⟩
  cases hd with
  | @cancels c b e hcandidate _ hrevision _ =>
    intro e' he'
    have hsame : e = e' := Option.some.inj he'
    subst hsame
    have hclosed : Closed e.authorityRevision (cancelPrecommit e c.authority) :=
      ⟨le_max_right _ _, fun _ hp => by cases hp⟩
    refine ⟨hclosed, .inr hclosed, ?_, ?_, ?_⟩
    · intro q hq
      rw [show b.pending = none from hx.authority.no_pending hcandidate] at hq
      cases hq
    · intro l hl hn
      have hle := (hx.bridge.last l hl).1
      change l.transaction.revision ≤ b.highestTransactionRevision at hle
      omega
    · intro r q hr hn
      have hle := (hx.authority.terminal r q hr).2.2.2
      change r.transaction.revision ≤ b.highestTransactionRevision at hle
      omega
  | @reconciles c b now => exact fun e he => hold ((reconcileBinding_marks now).1 ▸ he)
  | @measures c b actual monotonic now =>
    obtain ⟨deadline, authDeadlineUnix, heq⟩ :=
      reconcileDeadline_fields (c := c) actual monotonic now
    intro e he
    refine hold ?_
    rw [heq] at he
    exact he
  | drifts _ => exact fun e he => hold he
  | prepares _ _ _ _ => exact fun e he => hold he
  | commits _ _ => exact fun e he => hold he
  | attaches _ _ _ _ => exact fun e he => hold he
  | rebinds _ _ _ _ => exact fun e he => hold he
  | acknowledges _ _ _ => exact fun e he => hold he
  | records _ _ _ _ => exact fun e he => hold he
  | discards _ _ => exact fun e he => hold he
  | retires _ _ => exact fun e he => hold he
  | isolates _ _ => exact fun e he => hold he
  | clears => exact fun e he => hold he
  | administers _ _ _ => exact fun e he => hold he

/-! ## Runs -/

/-- The invariant of the server and the manager, with what is known of ended transactions. -/
structure Outcome (x : Controller × Bridge) : Prop where
  inv : Inv x
  follows : Follows x
  cancelled : Cancelled x

/-- What every step keeps of a revision. -/
structure Settles (x y : Controller × Bridge) : Prop where
  closed : ∀ n, Closed n x.1.authority → Closed n y.1.authority
  isSealed : ∀ n p, Sealed n p x → Sealed n p y

theorem Settles.refl (x : Controller × Bridge) : Settles x x := ⟨fun _ h => h, fun _ _ h => h⟩

theorem Settles.trans {z : Controller × Bridge} (h : Settles x y) (h' : Settles y z) :
    Settles x z :=
  ⟨fun n hn => h'.closed n (h.closed n hn), fun n p hn => h'.isSealed n p (h.isSealed n p hn)⟩

theorem Deed.settles (hd : Deed x y) (hx : Inv x) : Settles x y :=
  ⟨fun _ h => h.moves (hd.keeps hx).authority, fun _ _ h => hd.sealed hx h⟩

theorem deeds_outcome (hx : Outcome x) (h : Relation.ReflTransGen Deed x y) :
    Outcome y ∧ Settles x y := by
  induction h with
  | refl => exact ⟨hx, .refl x⟩
  | tail _ hd ih =>
    obtain ⟨ho, hs⟩ := ih
    exact ⟨⟨hd.inv ho.inv, hd.follows ho.inv ho.follows, hd.cancelled ho.inv ho.cancelled⟩,
      hs.trans (hd.settles ho.inv)⟩

theorem Stageable.settles (hs : Stageable x e) :
    Settles x (staged x e) where
  closed _ h := h.staged hs.revision
  isSealed _ _ h := ⟨h.bound.imp_right (·.staged hs.revision), h.pending, h.last, h.terminal⟩

theorem Stageable.outcome (hs : Stageable x e) (hx : Outcome x) :
    Outcome (staged x e) where
  inv := hx.inv.staged hs
  follows := hx.follows
  cancelled e' he' :=
    ⟨hs.settles.closed _ (hx.cancelled e' he').1, hs.settles.isSealed _ _ (hx.cancelled e' he').2⟩

theorem Acts.outcome {asked : Option AuthorityEnvelope} (h : Acts asked x y) (hx : Outcome x) :
    Outcome y ∧ Settles x y := by
  cases h with
  | deeds h => exact deeds_outcome hx h
  | stages h _ hs =>
    obtain ⟨ho, hsettles⟩ := deeds_outcome hx h
    exact ⟨hs.outcome ho, hsettles.trans hs.settles⟩

theorem World.start_outcome (origin : Origin) (process controller : ProcessIdentity)
    (tokenSha256 : String) : Outcome (World.start origin process controller tokenSha256).pair where
  inv := World.start_inv origin process controller tokenSha256
  follows := by
    intro r q hr
    cases hr
  cancelled := by
    intro e he
    cases he

/-! ## What the server and the manager report -/

/-- The terminal record of the server is closed, and sealed with its phase. -/
theorem Outcome.terminal (hx : Outcome x) {q : OwnerTransactionPhase}
    (hr : x.1.authority.ownerTerminal = some (r, q)) :
    Closed r.transaction.revision x.1.authority ∧ Sealed r.transaction.revision (some q) x := by
  obtain ⟨hexact, hle, hbelow, _⟩ := hx.inv.authority.terminal r q hr
  have hclosed : Closed r.transaction.revision x.1.authority := by
    rw [hexact.revision]
    exact ⟨hle, hbelow⟩
  refine ⟨hclosed, .inr hclosed, fun _ hp => hclosed.manager hx.inv hp, ?_, ?_⟩
  · intro l hl hn
    obtain ⟨l', hl', hor⟩ := hx.follows r q hr
    rw [hl] at hl'
    cases hl'
    rcases hor with rfl | hlt
    · rfl
    · omega
  · intro r' q' hr' _
    rw [hr] at hr'
    cases hr'
    rfl

/-- The last transaction of the manager is sealed with its phase. -/
theorem Outcome.last (hx : Outcome x) {l : OwnerTransactionReceipt}
    (hl : x.2.lastTransaction = some l) : Sealed l.transaction.revision (some l.phase) x := by
  obtain ⟨hle, hbelow⟩ := hx.inv.bridge.last l hl
  refine ⟨.inl hle, hbelow, ?_, ?_⟩
  · intro l' hl' _
    rw [hl] at hl'
    cases hl'
    rfl
  · intro r q hr hn
    obtain ⟨l', hl', hor⟩ := hx.follows r q hr
    rw [hl] at hl'
    cases hl'
    rcases hor with rfl | hlt
    · rfl
    · omega

/-- A candidate of the server is of a revision the server is not past. -/
theorem Outcome.candidate (hx : Outcome x) (hr : x.1.authority.ownerCandidate = some r)
    (hn : r.transaction.revision = n) :
    ¬ Closed n x.1.authority := by
  intro hclosed
  obtain ⟨hpending, hexact, _⟩ := hx.inv.authority.candidate r hr
  have hlt := hclosed.pending _ hpending
  rw [← hexact.revision, hn] at hlt
  exact lt_irrefl _ hlt

/-- The manager has a candidate of this revision. -/
def Bridge.Holds (b : Bridge) (n : ℕ) : Prop :=
  ∃ q, b.pending = some q ∧ q.transaction.revision = n

/-- The last transaction of the manager has this revision, and was committed. -/
def Bridge.HasCommitted (b : Bridge) (n : ℕ) : Prop :=
  ∃ l, b.lastTransaction = some l ∧ l.transaction.revision = n ∧ l.phase = .committed

theorem Sealed.not_holds (h : Sealed n p x) : ¬ x.2.Holds n := by
  intro hholds
  obtain ⟨q, hq, hn⟩ := hholds
  have hlt := h.pending q hq
  omega

theorem Sealed.not_hasCommitted (h : Sealed n p x) (hp : p ≠ some .committed) :
    ¬ x.2.HasCommitted n := by
  intro hcommitted
  obtain ⟨l, hl, hn, hphase⟩ := hcommitted
  have hsame := h.last l hl hn
  rw [hphase] at hsame
  exact hp hsame

end CandyRuntime.Tunio
