import CandyRuntime.Tunio.DeedTheorems

/-!
# The endpoints only do deeds

Each program of the endpoints is taken apart call by call. `Does x P m Q` says that `m`, run
from `P` in a run of deeds that began in `x`, continues that run and returns into `Q`; an error
leaves some state of the run. At the end `applyRequest_acts` and its companions say what one
step of a run amounts to: deeds, and at most one staging after them.
-/

namespace CandyRuntime.Tunio

open Lib Lib.Proc NetdProto NetdV2

variable {change : OwnerChange} {c : Controller} {phase : OwnerTransactionPhase}
  {s : AuthorityState} {descriptors : ℕ} {actual : PacketPortReceipt} {e : String} {p : Prop}

/-- A run of deeds that began in `x` has come here. -/
structure Doing (x : Controller × Bridge) (P : Controller → Bridge → Prop) (w : World) :
    Prop where
  deeds : Relation.ReflTransGen Deed x (w.controller, w.bridge)
  inv : Inv (w.controller, w.bridge)
  here : P w.controller w.bridge

/-- The program `m` goes on with the deeds. -/
def Does {α : Type} (x : Controller × Bridge) (P : Controller → Bridge → Prop) (m : Srv α)
    (Q : α → Controller → Bridge → Prop) : Prop :=
  Triple (Doing x P) m (fun a => Doing x (Q a)) (fun _ => Doing x fun _ _ => True) fun _ => False

/-- A run of deeds keeps the invariant and is a small move. -/
theorem deeds_keeps {x y : Controller × Bridge} (hx : Inv x)
    (h : Relation.ReflTransGen Deed x y) : Inv y ∧ Keeps x y := by
  induction h with
  | refl => exact ⟨hx, .refl x⟩
  | tail _ hd ih => exact ⟨hd.inv ih.1, ih.2.trans (hd.keeps ih.1)⟩

section Walk

variable {r : OwnerAuthority} {b : Bridge} {peer : ProcessIdentity}
variable {E : ℕ → Moment} {α β : Type} {x : Controller × Bridge}
  {P P' : Controller → Bridge → Prop} {w w' : World}

/-- A weaker condition is met too. -/
theorem Doing.weaken (h : Doing x P w) (hP : ∀ c b, Inv (c, b) → P c b → P' c b) :
    Doing x P' w :=
  ⟨h.deeds, h.inv, hP _ _ h.inv h.here⟩

/-- Nothing need be said at the end. -/
theorem Doing.done (h : Doing x P w) : Doing x (fun _ _ => True) w := h.weaken fun _ _ _ _ => trivial

/-- The clock and the guard are no part of the run of deeds. -/
theorem Doing.same (h : Doing x P w) (hc : w'.controller = w.controller)
    (hb : w'.bridge = w.bridge) : Doing x P w' := by
  refine ⟨?_, ?_, ?_⟩
  · rw [hc, hb]
    exact h.deeds
  · rw [hc, hb]
    exact h.inv
  · rw [hc, hb]
    exact h.here

/-- More deeds may follow. -/
theorem Doing.then (h : Doing x P w)
    (hd : Relation.ReflTransGen Deed (w.controller, w.bridge) (w'.controller, w'.bridge))
    (hP : P' w'.controller w'.bridge) : Doing x P' w' := by
  exact ⟨h.deeds.trans hd, (deeds_keeps h.inv hd).1, hP⟩

namespace Does

variable {m : Srv α} {Q Q' : α → Controller → Bridge → Prop} {R : β → Controller → Bridge → Prop}

/-- The deeds of the rest follow those of the first part. -/
protected theorem bind {f : α → Srv β} (hm : Does x P m Q) (hf : ∀ a, Does x (Q a) (f a) R) :
    Does x P (m >>= f) R :=
  Triple.bind hm hf

/-- A value returned is no deed. -/
protected theorem pure {a : α} (h : ∀ c b, Inv (c, b) → P c b → Q a c b) :
    Does x P (Pure.pure a : Srv α) Q :=
  Triple.pure fun _ hw => hw.weaken h

/-- Neither is a failure. -/
protected theorem fail : Does x P (fail e : Srv α) Q := Triple.fail fun _ hw => hw.done

/-- The condition before may be strengthened. -/
theorem pre (h : Does x P m Q) (hP : ∀ c b, Inv (c, b) → P' c b → P c b) : Does x P' m Q :=
  Triple.pre h fun _ hw => hw.weaken hP

/-- The condition after may be weakened. -/
theorem post (h : Does x P m Q) (hQ : ∀ a c b, Inv (c, b) → Q a c b → Q' a c b) :
    Does x P m Q' :=
  Triple.post h fun a _ hw => hw.weaken (hQ a)

/-- What follows a test may assume it. -/
theorem ensure_bind [Decidable p] {f : Unit → Srv β} (hf : p → Does x P (f ()) R) :
    Does x P (ensure p e >>= f) R :=
  Triple.ensure_bind hf fun _ hw => hw.done

/-- A test is no deed. -/
protected theorem ensure [Decidable p] :
    Does x P (Proc.ensure p e) fun _ => P := by
  intro w hw
  rw [wp_ensure]
  exact ⟨fun _ => hw, fun _ => hw.done⟩

/-- What follows may assume that the value was there. -/
theorem okOr_bind {o : Option α} {f : α → Srv β} (hf : ∀ a, o = some a → Does x P (f a) R) :
    Does x P (okOr o e >>= f) R :=
  Triple.okOr_bind hf fun _ hw => hw.done

/-- A condition that does not depend on the state can be taken out. -/
theorem and_pre (h : p → Does x P m Q) : Does x (fun c b => P c b ∧ p) m Q := by
  intro w hw
  exact h hw.here.2 w (hw.weaken fun _ _ _ hP => hP.1)

/-- A witness may be chosen first. -/
theorem exists_pre {ι : Type} {P : ι → Controller → Bridge → Prop}
    (h : ∀ i, Does x (P i) m Q) : Does x (fun c b => ∃ i, P i c b) m Q := by
  intro w hw
  obtain ⟨i, hi⟩ := hw.here
  exact h i w ⟨hw.deeds, hw.inv, hi⟩

/-- What is not run has to meet the condition already. -/
protected theorem when [Decidable p] {m : Srv Unit} {Q : Unit → Controller → Bridge → Prop}
    (hm : p → Does x P m Q) (hn : ¬ p → ∀ c b, Inv (c, b) → P c b → Q () c b) :
    Does x P (when p m) Q :=
  Triple.when hm fun hp _ hw => hw.weaken (hn hp)

end Does

/-! ## Single calls -/

/-- A reading of the moment is no deed. -/
theorem reading_does (f : Moment → Option α) (e : String) :
    Does x P (reading E f e) fun _ => P := by
  intro w hw
  unfold wp reading
  dsimp only
  cases f (E w.clock) with
  | some a => exact hw.same rfl rfl
  | none => exact hw.done.same rfl rfl

/-- Neither is a write to a file. -/
theorem fileWorks_does (e : String) : Does x P (fileWorks E e) fun _ => P := by
  unfold fileWorks
  exact reading_does _ _

/-- Neither is publishing. -/
theorem publish_does : Does x P (publish E) fun _ => P := fileWorks_does _

theorem unixTime_does : Does x P (unixTime E) fun _ => P :=
  Does.bind (m := wallNow E) (reading_does _ _) fun _ => Does.pure fun _ _ _ h => h

/-- The state that is read is the one there is. -/
theorem controllerState_does :
    Does x P controllerState fun state c b => P c b ∧ c = state := by
  intro w hw
  exact ⟨hw.deeds, hw.inv, hw.here, rfl⟩

/-- A change of the controller has to be a deed. -/
theorem modifyController_does {f : Controller → Controller} {Q : Unit → Controller → Bridge → Prop}
    (h : ∀ c b, Inv (c, b) → P c b → Deed (c, b) (f c, b) ∧ Q () (f c) b) :
    Does x P (modifyController f) Q := by
  intro w hw
  obtain ⟨hd, hQ⟩ := h _ _ hw.inv hw.here
  show Doing x (Q ()) { w with controller := f w.controller }
  exact hw.then (.single hd) hQ

/-- The bridge moves on by itself. -/
def DriftStable (P : Controller → Bridge → Prop) : Prop :=
  ∀ c b b', b.Drifts b' → P c b → P c b'

/-- The background changes the bridge only. -/
theorem background_drifts (w : World) (g : Background) :
    (w.background g).controller = w.controller ∧ w.bridge.Drifts (w.background g).bridge := by
  cases g with
  | happening h => exact ⟨rfl, Bridge.happens_drifts h⟩
  | guardRevokes lost =>
    unfold World.background World.guardRevokes
    dsimp only
    split
    · rename_i seen _
      split
      · next bridge heq =>
        have hdrifts := Bridge.revoke_drifts (b := w.bridge) seen.binding.ownerEpoch
        rw [heq] at hdrifts
        exact ⟨rfl, hdrifts⟩
      · next bridge heq =>
        have hdrifts := Bridge.revoke_drifts (b := w.bridge) seen.binding.ownerEpoch
        rw [heq] at hdrifts
        exact ⟨rfl, hdrifts⟩
    · exact ⟨rfl, .refl _⟩

/-- A condition that survives drifting survives the background. -/
theorem Doing.background (h : Doing x P w) (hP : DriftStable P) (gs : List Background) :
    Doing x P (gs.foldl World.background w) := by
  induction gs generalizing w with
  | nil => exact h
  | cons g gs ih =>
    obtain ⟨hc, hdrifts⟩ := background_drifts w g
    apply ih
    refine h.then ?_ ?_
    · rw [hc]
      exact .single (.drifts hdrifts)
    · rw [hc]
      exact hP _ _ _ hdrifts h.here

/-- An exchange does what the manager does with the change, in the state the bridge has drifted
to. -/
theorem managerOutcome_does {Q : Except String Unit → Controller → Bridge → Prop}
    (hP : DriftStable P) (happly : ∀ c b circumstance, Inv (c, b) → P c b →
      Relation.ReflTransGen Deed (c, b) (c, (b.apply circumstance change).2)
        ∧ Q (b.apply circumstance change).1 c (b.apply circumstance change).2) :
    Does x P (managerOutcome E change) fun answer c b => Q answer.1 c b ∧ answer.2 = b.receipt := by
  intro w hw
  have hbefore : Doing x P ((E w.clock).before.foldl World.background { w with clock := w.clock + 1 }) :=
    Doing.background (w := { w with clock := w.clock + 1 }) (hw.same rfl rfl) hP _
  obtain ⟨hd, hQ⟩ := happly _ _ (E w.clock).circumstance hbefore.inv hbefore.here
  unfold wp managerOutcome
  dsimp only
  split
  · rename_i heq
    split at heq
    · cases heq
    · cases heq
    · cases heq
    · rw [Prod.mk.injEq] at heq
      obtain ⟨ha, rfl⟩ := heq
      cases ha
      exact hbefore.then hd ⟨hQ, rfl⟩
  · rename_i heq
    split at heq
    · cases heq
      exact hbefore.done
    · cases heq
      exact hbefore.done
    · cases heq
      exact hbefore.then hd trivial
    · cases heq
  · rename_i heq
    split at heq <;> cases heq

/-- A change of the manager has to consist of deeds. -/
theorem managerChange_does {Q : Controller → Bridge → Prop} (hP : DriftStable P)
    (happly : ∀ c b circumstance, Inv (c, b) → P c b →
      Relation.ReflTransGen Deed (c, b) (c, (b.apply circumstance change).2)
        ∧ ((b.apply circumstance change).1 = .ok () → Q c (b.apply circumstance change).2)) :
    Does x P (managerChange E change) fun actual c b => Q c b ∧ actual = b.receipt := by
  refine (managerOutcome_does (Q := fun answer c b => answer = .ok () → Q c b) hP happly).bind ?_
  rintro ⟨result | _, actual⟩
  · exact Does.fail
  · exact Does.pure fun _ _ _ hQ => ⟨hQ.1 rfl, hQ.2⟩

/-! ## Reconciliation -/

/-- The controller after `reconcile` with the receipt of a bridge. -/
def Reconciled (c₀ : Controller) (c : Controller) (b : Bridge) : Prop :=
  Inv (c₀, b) ∧ ∃ now deadline authDeadlineUnix, c = { reconcileBinding b.receipt now c₀ with
    authDeadlineUnix
    authority := { (reconcileBinding b.receipt now c₀).authority with
      actualDeadlineMonoMs := deadline } }

/-- What the server knows once it has reconciled. -/
structure Settled (c : Controller) (b : Bridge) : Prop where
  epoch : b.highestOwnerEpoch ≤ c.authority.highestOwnerEpoch
  generation : b.highestPolicyGeneration ≤ c.authority.highestPolicyGeneration
  candidate : c.authority.Resolved b
  staged : ∀ e, c.authority.pending = some e → b.highestOwnerEpoch < e.binding.ownerEpoch
  owner : c.authority.actualOwnerBinding = b.owner.map (·.binding)
  ownerless : b.owner = none → c.ownerActive = false

/-- After a reconciliation the two sides agree. -/
theorem Reconciled.settled {c₀ c : Controller} (h : Reconciled c₀ c b) (hinv : Inv (c, b)) :
    Settled c b := by
  obtain ⟨_, now, deadline, authDeadlineUnix, rfl⟩ := h
  have hmarks := promotePending_marks b.receipt (reconcileOwner c₀.authority b.receipt)
  have howner := reconcileOwner_marks c₀.authority b.receipt
  refine ⟨le_max_right _ _, le_max_right _ _, ?_, ?_, ?_, ?_⟩
  · intro r hr
    refine reconcileOwner_resolved c₀.authority r ?_
    rw [← promotePending_candidate b.receipt]
    exact hr
  · intro e he
    rcases (hinv.authority.staged e he).2 with hahead | hattached
    · exact hahead
    · exact absurd ⟨hattached.epoch, hattached.generation⟩ (promotePending_staged _ he)
  · exact hmarks.2.2.2.2.1.trans howner.2.2.2.2
  · intro hnone
    show (b.receipt.binding.isSome && _) = false
    have hbinding : b.receipt.binding = none := by
      show b.owner.map (·.binding) = none
      rw [hnone]
      rfl
    rw [hbinding]
    rfl

/-- A reconciliation with the receipt of the bridge itself. -/
theorem reconcile_does {Q : Controller → Bridge → Prop}
    (h : ∀ c b, P c b → actual = b.receipt ∧ ∀ c', Reconciled c c' b → Q c' b) :
    Does x P (reconcile E actual) fun _ => Q := by
  refine (reading_does _ _).bind fun now => ?_
  have hbinding : Does x P (modifyController (reconcileBinding actual now))
      fun _ c b => ∃ c₀, (P c₀ b ∧ Inv (c₀, b) ∧ actual = b.receipt)
        ∧ c = reconcileBinding b.receipt now c₀ := by
    refine modifyController_does fun c b hinv hP => ?_
    obtain ⟨rfl, _⟩ := h c b hP
    exact ⟨.reconciles now, c, ⟨hP, hinv, rfl⟩, rfl⟩
  refine hbinding.bind fun _ => (reading_does _ _).bind fun monotonic =>
    (reading_does _ _).bind fun now' => modifyController_does ?_
  rintro c b _ ⟨c₀, ⟨hP, hinv, rfl⟩, rfl⟩
  refine ⟨.measures _ _ _, (h c₀ b hP).2 _ ⟨hinv, ?_⟩⟩
  obtain ⟨deadline, authDeadlineUnix, heq⟩ :=
    reconcileDeadline_fields (c := reconcileBinding b.receipt now c₀) b.receipt monotonic now'
  exact ⟨now, deadline, authDeadlineUnix, heq⟩

/-- A probe and the reconciliation with its receipt. -/
theorem probeAndReconcile_does (hP : DriftStable P) :
    Does x P (probeAndReconcile E) fun actual c b =>
      actual = b.receipt ∧ ∃ c₀, P c₀ b ∧ Reconciled c₀ c b := by
  unfold probeAndReconcile
  have hprobe : Does x P (managerChange E .probe) fun actual c b => P c b ∧ actual = b.receipt :=
    managerChange_does hP fun _ _ _ _ h => ⟨.refl, fun _ => h⟩
  refine hprobe.bind fun actual => ?_
  refine (reconcile_does (Q := fun c b => actual = b.receipt ∧ ∃ c₀, P c₀ b ∧ Reconciled c₀ c b)
    fun c b h => ⟨h.2, fun c' hc' => ⟨h.2, c, h.1, hc'⟩⟩).bind fun _ => ?_
  exact Does.pure fun _ _ _ h => h

/-- `apply_owner_change` with a change the manager can be asked for. -/
theorem applyOwnerChange_does {Q : Except String Unit → Controller → Bridge → Prop}
    (hP : DriftStable P) (happly : ∀ c b circumstance, Inv (c, b) → P c b →
      Relation.ReflTransGen Deed (c, b) (c, (b.apply circumstance change).2)
        ∧ Q (b.apply circumstance change).1 c (b.apply circumstance change).2) :
    Does x P (applyOwnerChange E change) fun _ c b => ∃ c₀, Q (.ok ()) c₀ b ∧ Reconciled c₀ c b := by
  unfold applyOwnerChange
  refine (managerOutcome_does hP happly).bind ?_
  rintro ⟨result, actual⟩
  refine (reconcile_does (Q := fun c b => ∃ c₀, Q result c₀ b ∧ Reconciled c₀ c b)
    fun c b h => ⟨h.2, fun c' hc' => ⟨c, h.1, hc'⟩⟩).bind fun _ => ?_
  refine publish_does.bind fun _ => ?_
  cases result with
  | ok _ => exact Does.pure fun _ _ _ h => h
  | error e => exact Does.fail

/-- Nothing happens to the run in the checks of an envelope. -/
theorem validateEnvelope_does (authority : AuthorityEnvelope) :
    Does x P (validateEnvelope E authority) fun _ => P := by
  unfold validateEnvelope
  refine controllerState_does.bind fun state => ?_
  refine Does.pre (P := P) ?_ fun _ _ _ h => h.1
  refine unixTime_does.bind fun _ => (reading_does _ _).bind fun _ => Does.ensure_bind fun _ => ?_
  refine (reading_does _ _).bind fun _ => (reading_does _ _).bind fun _ => ?_
  dsimp only
  split
  · exact Does.fail
  · exact Does.pure fun _ _ _ h => h

/-- The deadline of an owner is only looked at. -/
theorem ownerDeadline_does (authority : AuthorityEnvelope) :
    Does x P (ownerDeadline E authority) fun _ => P := by
  refine (reading_does _ _).bind fun _ => (reading_does _ _).bind fun _ => ?_
  refine Does.ensure_bind fun _ => (reading_does _ _).bind fun _ => ?_
  exact Does.ensure_bind fun _ => Does.pure fun _ _ _ h => h

/-- The port is the one asked for. -/
theorem packetPort_does (binding : PacketPortBinding) :
    Does x P (packetPort E binding) fun port c b => P c b ∧ port = binding := by
  refine (fileWorks_does _).bind fun _ => Does.ensure_bind fun _ => ?_
  exact Does.pure fun _ _ _ h => ⟨h, rfl⟩

theorem prepareRecord_does (envelope : AuthorityEnvelope) (expectedActiveEpoch : Option ℕ)
    (prepareDeadlineMonoMs : ℕ) (expectedActiveBinding : Option PacketPortBinding) :
    Does x P (prepareRecord E envelope expectedActiveEpoch prepareDeadlineMonoMs
      expectedActiveBinding) fun r c b => P c b ∧ r.envelope = envelope ∧ r.Exact
        ∧ r.expectedActiveBinding = expectedActiveBinding
        ∧ r.transaction.expectedActiveEpoch = expectedActiveEpoch := by
  refine (reading_does _ _).bind fun _ => (reading_does _ _).bind fun _ => ?_
  refine Does.ensure_bind fun _ => Does.ensure_bind fun _ => ?_
  refine (ownerDeadline_does envelope).bind fun _ => Does.okOr_bind fun transactionId hid => ?_
  exact Does.pure fun _ _ _ h => ⟨h, rfl, ⟨rfl, rfl, hid⟩, rfl, rfl⟩

/-! ## Terminal records -/

/-- A record is the candidate or the terminal one. -/
theorem ownerRecord_cases {transactionId : String} (hr : ownerRecord s transactionId = some r) :
    r.envelope.transactionId = transactionId
      ∧ (s.ownerCandidate = some r ∨ ∃ phase, s.ownerTerminal = some (r, phase)) := by
  unfold ownerRecord at hr
  rw [Option.or_eq_some_iff] at hr
  rcases hr with hcandidate | ⟨_, hterminal⟩
  · rw [Option.filter_eq_some_iff] at hcandidate
    exact ⟨by simpa using hcandidate.2, .inl hcandidate.1⟩
  · rw [Option.filter_eq_some_iff, Option.map_eq_some_iff] at hterminal
    obtain ⟨⟨⟨r', phase⟩, hr', rfl⟩, hid⟩ := hterminal
    exact ⟨by simpa using hid, .inr ⟨phase, hr'⟩⟩

/-- The record of a candidate is found. -/
theorem ownerRecord_ne_none (hr : s.ownerCandidate = some r) :
    ownerRecord s r.envelope.transactionId ≠ none := by
  unfold ownerRecord
  rw [hr, Option.filter_some_pos (by simp)]
  simp

/-- The last transaction settles the phase of its record. -/
theorem settleTerminal_terminal {phase phase' : OwnerTransactionPhase}
    (hr : s.ownerTerminal = some (r, phase))
    (hlast : actual.lastTransaction = some ⟨r.transaction, phase'⟩) :
    (settleTerminal actual s).ownerTerminal = some (r, phase) := by
  unfold settleTerminal
  rw [hr, hlast]
  simp

/-- A candidate the manager has ended becomes the terminal record, and any other leaves the
terminal record as it was. -/
theorem resolveCandidate_terminal {t : OwnerTransaction}
    (hlast : actual.lastTransaction = some ⟨t, phase⟩) (hpending : actual.pending = none) :
    (resolveCandidate actual s).ownerTerminal
      = match s.ownerCandidate.filter (·.transaction = t) with
        | some k => some (k, phase)
        | none => s.ownerTerminal := by
  unfold resolveCandidate
  cases hk : s.ownerCandidate with
  | none => rfl
  | some k =>
    rw [hpending, hlast]
    dsimp only [Option.any_none]
    rw [if_neg Bool.false_ne_true]
    by_cases ht : k.transaction = t
    · have hmatch : (some (⟨t, phase⟩ : OwnerTransactionReceipt)).filter
          (·.transaction = k.transaction) = some ⟨t, phase⟩ :=
        Option.filter_some_pos (by simp [ht])
      rw [hmatch, Option.filter_some_pos (by simpa using ht)]
    · have hmatch : (some (⟨t, phase⟩ : OwnerTransactionReceipt)).filter
          (·.transaction = k.transaction) = none :=
        Option.filter_some_neg (by simp [Ne.symm ht])
      rw [hmatch, Option.filter_some_neg (by simpa using ht)]

/-- The transaction of a record that the manager has ended is the terminal one after the
reconciliation. -/
theorem Reconciled.terminal {c₀ c : Controller} (h : Reconciled c₀ c b) {transactionId : String}
    (hr : ownerRecord c₀.authority transactionId = some r)
    (hlast : b.lastTransaction = some ⟨r.transaction, phase⟩) (hpending : b.pending = none) :
    ∃ r', c.authority.ownerTerminal = some (r', phase) ∧ r'.transaction = r.transaction
      ∧ r'.envelope = r.envelope := by
  obtain ⟨hinv, now, deadline, authDeadlineUnix, rfl⟩ := h
  have hpromote := promotePending_marks b.receipt (reconcileOwner c₀.authority b.receipt)
  have hnone : b.receipt.pending = none := by
    show b.pending.map _ = none
    rw [hpending]
    rfl
  have hterminal (s : AuthorityState) := resolveCandidate_terminal (s := s) hlast hnone
  obtain ⟨_, hcandidate | ⟨phase', hrecord⟩⟩ := ownerRecord_cases hr
  · refine ⟨r, hpromote.2.2.2.2.2.trans (settleTerminal_terminal ?_ hlast), rfl, rfl⟩
    rw [hterminal]
    dsimp only
    rw [hcandidate, Option.filter_some_pos (by simp)]
  · -- A candidate with the same transaction would be newer than its own record.
    have hphase : phase' = phase := ((hinv.authority.ended r phase' hrecord).2 _ hlast rfl).symm
    refine ⟨r, hpromote.2.2.2.2.2.trans (settleTerminal_terminal ?_ hlast), rfl, rfl⟩
    rw [hterminal, ← hphase]
    dsimp only
    have hother : c₀.authority.ownerCandidate.filter (·.transaction = r.transaction) = none := by
      rw [Option.filter_eq_none_iff]
      intro k hk ht
      replace ht : k.transaction = r.transaction := by simpa using ht
      obtain ⟨hstaged, hexact, _⟩ := hinv.authority.candidate k hk
      have hold := hinv.authority.terminal r phase' hrecord
      have hlt := hold.2.2.1 _ hstaged
      rw [← hexact.revision, ht, hold.1.revision] at hlt
      exact lt_irrefl _ hlt
    rw [hother]
    exact hrecord

/-- A terminal record whose binding the manager does not have is not active after the
reconciliation. -/
theorem Reconciled.inactive {c₀ c : Controller} (h : Reconciled c₀ c b)
    (hr : c.authority.ownerTerminal = some (r, phase)) (hnone : b.owner = none) :
    c.authority.active ≠ some r.envelope := by
  obtain ⟨hinv, now, deadline, authDeadlineUnix, rfl⟩ := h
  have hpromote := promotePending_marks b.receipt (reconcileOwner c₀.authority b.receipt)
  have howner := reconcileOwner_inv hinv.authority hinv.bridge
  replace hr : (reconcileOwner c₀.authority b.receipt).ownerTerminal = some (r, phase) :=
    hpromote.2.2.2.2.2.symm.trans hr
  have hsettled : (reconcileOwner c₀.authority b.receipt).active ≠ some r.envelope := by
    have hbinding : b.receipt.binding = none := by
      show b.owner.map (·.binding) = none
      rw [hnone]
      rfl
    unfold reconcileOwner settleTerminal at hr ⊢
    dsimp only at hr ⊢
    split at hr
    · next heq =>
      rw [heq] at hr
      cases hr
    · next record phase' heq =>
      dsimp only at hr ⊢
      split at hr
      · cases hr
      · rw [heq] at hr
        cases hr
        rw [hbinding]
        intro hactive
        split at hactive
        · cases hactive
        · rename_i hkept
          exact hkept ⟨by simp, hactive⟩
  intro hactive
  rcases (promotePending_moves b.receipt).active _ hactive with hkept | hpending
  · exact hsettled hkept
  · exact absurd ((howner.terminal r phase hr).2.2.1 _ hpending) (lt_irrefl _)

/-! ## Operations -/

/-- A condition on the controller alone does not see the bridge drift. -/
theorem driftStable_controller (p : Controller → Prop) : DriftStable fun c _ => p c :=
  fun _ _ _ _ h => h

/-- Changes after which the bridge has only drifted. -/
theorem drifts_apply {b b' : Bridge} (h : b.Drifts b') :
    Relation.ReflTransGen Deed (c, b) (c, b') :=
  .single (.drifts h)

variable {request : AuthorityControlRequest}

/-- The manager has no candidate when its receipt has none. -/
theorem no_pending_of_receipt (h : b.receipt.pending = none) : b.pending = none := by
  cases hp : b.pending with
  | none => rfl
  | some p =>
    change b.pending.map _ = none at h
    rw [hp] at h
    cases h

/-- Nothing is pending on either side. -/
theorem Settled.no_candidate (h : Settled c b) (hpending : b.pending = none) :
    c.authority.ownerCandidate = none := by
  cases hk : c.authority.ownerCandidate with
  | none => rfl
  | some k =>
    obtain ⟨p, hp, _⟩ := h.candidate k hk
    rw [hpending] at hp
    cases hp

theorem retireExpiredCommit_does (expectedActive : PacketPortBinding) :
    Does x P (retireExpiredCommit E request expectedActive) fun _ _ _ => True := by
  unfold retireExpiredCommit
  refine Does.okOr_bind fun envelope _ => controllerState_does.bind fun state => ?_
  refine Does.okOr_bind fun record hrecord => ?_
  refine Does.pre (P := fun c _ => c = state) ?_ fun _ _ _ h => h.2
  refine (probeAndReconcile_does (driftStable_controller (· = state))).bind fun actual => ?_
  refine controllerState_does.bind fun state' => Does.ensure_bind fun hchecked => ?_
  obtain ⟨henvelope, _, _, _, hlast, _, _, _, hpending, _, hstaged⟩ := hchecked
  refine modifyController_does ?_
  rintro c b _ ⟨⟨rfl, c₀, rfl, hreconciled⟩, rfl⟩
  obtain ⟨r, hr, _, hsame⟩ :=
    hreconciled.terminal hrecord hlast (no_pending_of_receipt hpending)
  rw [← henvelope, ← hsame]
  exact ⟨.retires hr hstaged, trivial⟩

/-- The committed record of the isolation: it is the terminal one, and the manager has no other
business. -/
structure Isolating (r : OwnerAuthority) (c : Controller) (b : Bridge) : Prop where
  candidate : c.authority.ownerCandidate = none
  terminal : c.authority.ownerTerminal = some (r, .committed)
  pending : b.pending = none
  last : b.lastTransaction = some ⟨r.transaction, .committed⟩

/-- Drifting does not disturb an isolation. -/
theorem driftStable_isolating (r : OwnerAuthority) : DriftStable (Isolating r) := by
  intro c b b' hd h
  cases hd with
  | rests hr =>
    exact ⟨h.candidate, h.terminal, hr.pending.trans h.pending, hr.lastTransaction.trans h.last⟩
  | ends hp _ =>
    rw [h.pending] at hp
    cases hp

/-- The record that is isolated is found. -/
theorem Isolating.record (h : Isolating r c b) :
    ownerRecord c.authority r.envelope.transactionId = some r := by
  unfold ownerRecord
  rw [h.candidate, h.terminal]
  simp

/-- The revocation of the isolated owner. -/
theorem isolating_revoke (r : OwnerAuthority) (ownerEpoch : ℕ) :
    Does x (Isolating r) (applyOwnerChange E (.revoke ownerEpoch)) fun _ c _ =>
      ∃ r', c.authority.ownerTerminal = some (r', .committed) ∧ r'.envelope = r.envelope
        ∧ c.authority.active ≠ some r'.envelope := by
  refine (applyOwnerChange_does
    (Q := fun answer c b => Isolating r c b ∧ (answer = .ok () → b.owner = none))
    (driftStable_isolating r) ?_).post ?_
  · intro c b circumstance _ h
    have hdrifts := Bridge.revoke_drifts (b := b) ownerEpoch
    exact ⟨drifts_apply hdrifts, driftStable_isolating r _ _ _ hdrifts h, Bridge.revoke_ok⟩
  · rintro _ c b _ ⟨c₀, ⟨h, howner⟩, hreconciled⟩
    obtain ⟨r', hr', _, henvelope⟩ := hreconciled.terminal h.record h.last h.pending
    exact ⟨r', hr', henvelope, hreconciled.inactive hr' (howner rfl)⟩

theorem isolateCommittedOwner_does (expectedActive : PacketPortBinding) :
    Does x P (isolateCommittedOwner E request expectedActive) fun _ _ _ => True := by
  unfold isolateCommittedOwner
  refine Does.okOr_bind fun envelope _ => controllerState_does.bind fun state => ?_
  refine Does.okOr_bind fun record hrecord => ?_
  refine Does.pre (P := fun c _ => c = state) ?_ fun _ _ _ h => h.2
  refine (probeAndReconcile_does (driftStable_controller (· = state))).bind fun actual => ?_
  refine Does.ensure_bind fun hchecked => ?_
  obtain ⟨henvelope, _, _, _, _, hlast, _, _, hpending, _, _⟩ := hchecked
  refine Does.pre (P := fun c b => ∃ r, Isolating r c b ∧ r.envelope = envelope) ?_ ?_
  swap
  · rintro c b hinv ⟨rfl, c₀, rfl, hreconciled⟩
    have hfree := no_pending_of_receipt hpending
    obtain ⟨r, hr, ht, hsame⟩ := hreconciled.terminal hrecord hlast hfree
    refine ⟨r, ⟨(hreconciled.settled hinv).no_candidate hfree, hr, hfree, ?_⟩, hsame.trans henvelope⟩
    rw [ht]
    exact hlast
  refine Does.exists_pre fun r => Does.and_pre fun hr => ?_
  subst hr
  refine controllerState_does.bind fun state' => ?_
  refine Does.pre (P := Isolating r) ?_ fun _ _ _ h => h.1
  -- The candidate is asked for only while its owner is active.
  have hrest : Does x (Isolating r) (do
      applyOwnerChange E (.revoke r.envelope.binding.ownerEpoch)
      let state ← controllerState
      ensure (state.ownerActive = false ∧ state.authority.actualOwnerBinding = none
          ∧ state.authority.retainedOwnerBinding = none ∧ state.authority.ownerPending = none)
        "code=owner_isolation_unconfirmed"
      modifyAuthority fun s => { s with isolatedCommitted := some r.envelope })
      fun _ _ _ => True := by
    refine (isolating_revoke r _).bind fun _ => controllerState_does.bind fun _ => ?_
    refine Does.ensure_bind fun _ => modifyController_does ?_
    rintro c b _ ⟨⟨r', hr', henvelope, hactive⟩, _⟩
    rw [← henvelope]
    exact ⟨.isolates hr' hactive, trivial⟩
  dsimp only
  split
  · exact Does.bind (m := processIsCurrentConfirmed E _) (reading_does _ _) fun _ =>
      Does.ensure_bind fun _ => hrest
  · exact hrest

theorem recoverPrecommit_does (expectedActive : PacketPortBinding) :
    Does x P (recoverPrecommit E request expectedActive) fun _ _ _ => True := by
  unfold recoverPrecommit
  refine Does.okOr_bind fun envelope _ => Does.ensure_bind fun _ => ?_
  refine Does.pre (P := fun _ _ => True) ?_ fun _ _ _ _ => trivial
  refine (probeAndReconcile_does (driftStable_controller fun _ => True)).bind fun actual => ?_
  refine Does.okOr_bind fun transactionId _ => controllerState_does.bind fun state => ?_
  split
  · refine Does.okOr_bind fun exact _ => Does.ensure_bind fun _ => ?_
    exact publish_does.bind fun _ => Does.pure fun _ _ _ _ => trivial
  · refine Does.ensure_bind fun hchecked => ?_
    obtain ⟨_, _, hpending, _, hrevision, hactive, hstaged, _, _, _, _⟩ := hchecked
    refine Does.bind (Q := fun _ _ _ => True) (modifyController_does ?_) fun _ =>
      Does.pure fun _ _ _ _ => trivial
    rintro c b hinv ⟨⟨rfl, c₀, _, hreconciled⟩, rfl⟩
    have hsettled := hreconciled.settled hinv
    refine ⟨.cancels (hsettled.no_candidate (no_pending_of_receipt hpending)) hactive hrevision ?_,
      trivial⟩
    intro p hp
    exact ⟨hstaged p hp, hsettled.staged p hp⟩

theorem probeTransaction_does :
    Does x P (probeTransaction E request) fun _ _ _ => True := by
  unfold probeTransaction
  refine Does.ensure_bind fun _ => ?_
  split
  · exact publish_does.bind fun _ => Does.pure fun _ _ _ _ => trivial
  refine Does.pre (P := fun _ _ => True) ?_ fun _ _ _ _ => trivial
  refine (probeAndReconcile_does (driftStable_controller fun _ => True)).bind fun actual => ?_
  refine Does.okOr_bind fun id _ => Does.okOr_bind fun history _ => ?_
  refine Does.pre (P := fun _ _ => True) ?_ fun _ _ _ _ => trivial
  refine (applyOwnerChange_does (Q := fun _ _ _ => True) (driftStable_controller fun _ => True) ?_).bind
    fun _ => Does.pure fun _ _ _ _ => trivial
  intro c b circumstance _ _
  refine ⟨?_, trivial⟩
  show Relation.ReflTransGen Deed (c, b) (c, (b.probeTransaction _ _).2)
  rw [Bridge.probeTransaction_snd]

/-- The record a preparation goes on with: a known one, or a new one for what is staged. -/
theorem preparationOf_does {envelope : AuthorityEnvelope} {expectedActiveEpoch : Option ℕ}
    {prepareDeadlineMonoMs : ℕ} {state : Controller} :
    Does x P (preparationOf E request envelope expectedActiveEpoch prepareDeadlineMonoMs state)
      fun r c b => P c b ∧ (ownerRecord state.authority request.transactionId = some r
        ∨ ownerRecord state.authority request.transactionId = none
          ∧ state.authority.pending = some r.envelope ∧ r.envelope = envelope ∧ r.Exact) := by
  unfold preparationOf
  split
  · rename_i record hrecord
    refine Does.ensure_bind fun _ => Does.pure fun _ _ _ h => ⟨h, .inl hrecord⟩
  · rename_i hnone
    refine Does.ensure_bind fun _ => Does.ensure_bind fun hstaged => ?_
    refine (prepareRecord_does _ _ _ _).post fun r c b _ h => ⟨h.1, .inr ⟨hnone, ?_, h.2.1, h.2.2.1⟩⟩
    rw [h.2.1]
    exact hstaged

/-- What the bridge does to prepare an owner. -/
theorem prepareOwner_deeds (circumstance : Circumstance) {port : PacketPortBinding}
    {authorization : AuthorizationCheck} (hrecord : c.authority.ownerCandidate = some r
      ∨ ∃ phase, c.authority.ownerTerminal = some (r, phase)) :
    Relation.ReflTransGen Deed (c, b)
      (c, (b.apply circumstance (.prepareOwner r.transaction port authorization)).2) := by
  show Relation.ReflTransGen Deed (c, b)
    (c, (b.prepareOwner circumstance r.transaction port authorization).2)
  cases hresult : b.prepareOwner circumstance r.transaction port authorization with
  | mk result b' =>
    rcases Bridge.prepareOwner_cases hresult with rfl | ⟨hpending, hrevision, hepoch, rfl⟩
    · exact .refl
    · exact .single (.prepares hrecord hpending hrevision hepoch)

theorem prepareOwner_does (expectedActiveEpoch : Option ℕ) (prepareDeadlineMonoMs : ℕ) :
    Does x Settled (prepareOwner E request expectedActiveEpoch prepareDeadlineMonoMs)
      fun _ _ _ => True := by
  unfold prepareOwner
  refine Does.okOr_bind fun envelope _ => Does.ensure_bind fun hid => ?_
  refine (validateEnvelope_does envelope).bind fun _ => controllerState_does.bind fun state => ?_
  refine Does.ensure_bind fun _ => Does.ensure_bind fun _ => ?_
  refine preparationOf_does.bind fun record => (packetPort_does _).bind fun port => ?_
  -- Whether it was known or is kept now, the record belongs to the server before the change.
  have hkept : Does x (fun c b => ((Settled c b ∧ c = state)
        ∧ (ownerRecord state.authority request.transactionId = some record
          ∨ ownerRecord state.authority request.transactionId = none
            ∧ state.authority.pending = some record.envelope ∧ record.envelope = envelope
            ∧ record.Exact)) ∧ port = envelope.binding)
      (when (ownerRecord state.authority request.transactionId = none) do
        modifyAuthority fun s => { s with ownerCandidate := some record })
      fun _ c _ => c.authority.ownerCandidate = some record
        ∨ ∃ phase, c.authority.ownerTerminal = some (record, phase) := by
    refine Does.when (fun hnone => modifyController_does ?_) ?_
    · rintro c b hinv ⟨⟨⟨hsettled, rfl⟩, hrecord⟩, _⟩
      rw [hnone] at hrecord
      obtain hrecord | ⟨_, hstaged, henvelope, hexact⟩ := hrecord
      · cases hrecord
      refine ⟨.records ?_ hstaged hexact (hsettled.staged _ hstaged), .inl rfl⟩
      cases hk : c.authority.ownerCandidate with
      | none => rfl
      | some k =>
        -- The candidate would be the staged authority, and so a known record.
        have hsame := (hinv.authority.candidate k hk).1
        change c.authority.pending = some k.envelope at hsame
        rw [hstaged] at hsame
        have hknown := ownerRecord_ne_none hk
        rw [← Option.some.inj hsame, henvelope, hid] at hknown
        exact absurd hnone hknown
    · rintro hsome c b _ ⟨⟨⟨_, rfl⟩, hrecord⟩, _⟩
      obtain hrecord | ⟨hnone, _⟩ := hrecord
      · exact (ownerRecord_cases hrecord).2
      · exact absurd hnone hsome
  refine hkept.bind fun _ => ?_
  refine (applyOwnerChange_does (Q := fun _ _ _ => True)
    (driftStable_controller fun c => c.authority.ownerCandidate = some record
      ∨ ∃ phase, c.authority.ownerTerminal = some (record, phase)) ?_).post fun _ _ _ _ _ => trivial
  exact fun c b circumstance _ hrecord => ⟨prepareOwner_deeds circumstance hrecord, trivial⟩

/-- What the bridge does to commit one. -/
theorem commitOwner_deeds (circumstance : Circumstance) (t : OwnerTransaction) :
    Relation.ReflTransGen Deed (c, b) (c, (b.apply circumstance (.commitOwner t)).2) := by
  show Relation.ReflTransGen Deed (c, b) (c, (b.commitOwner circumstance t).2)
  rcases Bridge.commitOwner_cases (b := b) (c := circumstance) (t := t) with
    hsame | ⟨p, hp, rfl, hgeneration, hb'⟩
  · rw [hsame]
  · rw [hb']
    exact .single (.commits hp hgeneration)

theorem ownerTransaction_does {change : OwnerTransaction → OwnerChange}
    (hchange : ∀ (c : Controller) (b : Bridge) circumstance t,
      Relation.ReflTransGen Deed (c, b) (c, (b.apply circumstance (change t)).2)) :
    Does x P (ownerTransaction E request change) fun _ _ _ => True := by
  unfold ownerTransaction
  refine controllerState_does.bind fun state => Does.ensure_bind fun _ => ?_
  refine Does.okOr_bind fun record _ => Does.ensure_bind fun _ => ?_
  refine Does.pre (P := fun _ _ => True) ?_ fun _ _ _ _ => trivial
  refine (Does.when (fun _ => validateEnvelope_does _) fun _ _ _ _ _ => trivial :
    Does x (fun _ _ => True) _ fun _ _ _ => True).bind fun _ => ?_
  exact (applyOwnerChange_does (Q := fun _ _ _ => True) (driftStable_controller fun _ => True)
    fun c b circumstance _ _ => ⟨hchange c b circumstance _, trivial⟩).post fun _ _ _ _ _ => trivial

theorem abortOwner_does : Does x P (abortOwner E request) fun _ _ _ => True := by
  unfold abortOwner
  refine controllerState_does.bind fun state => Does.okOr_bind fun record _ => ?_
  refine Does.ensure_bind fun _ => ?_
  refine Does.pre (P := fun _ _ => True) ?_ fun _ _ _ _ => trivial
  exact (applyOwnerChange_does (Q := fun _ _ _ => True) (driftStable_controller fun _ => True)
    fun c b circumstance _ _ => ⟨drifts_apply Bridge.abortOwner_drifts, trivial⟩).post
      fun _ _ _ _ _ => trivial

theorem attachAuthorized_does : Does x P (attachAuthorized E request) fun _ _ _ => True := by
  unfold attachAuthorized
  refine controllerState_does.bind fun state => Does.ensure_bind fun hcandidate => ?_
  refine Does.okOr_bind fun envelope _ => Does.ensure_bind fun hstaged => ?_
  refine Does.pre (P := fun c _ => c = state) ?_ fun _ _ _ h => h.2
  refine (validateEnvelope_does envelope).bind fun _ =>
    (ownerDeadline_does envelope).bind fun authDeadline => ?_
  refine (packetPort_does _).bind fun port => Does.and_pre fun hport => ?_
  subst hport
  have hattach : Does x (fun c _ => c = state)
      (managerChange E (.attach envelope.binding authDeadline (authorizationCheck envelope)))
      fun actual _ b => True ∧ actual = b.receipt := by
    refine managerChange_does (Q := fun _ _ => True) (driftStable_controller (· = state)) ?_
    rintro c b circumstance _ rfl
    refine ⟨?_, fun _ => trivial⟩
    show Relation.ReflTransGen Deed (c, b) (c, (b.attach circumstance _ _ _).2)
    rcases @Bridge.attach_cases b circumstance envelope.binding authDeadline
      (authorizationCheck envelope) with
      ⟨hsame, _⟩ | ⟨hepoch, hgeneration, hb'⟩
    · rw [hsame]
    · rw [hb']
      exact .single (.attaches hcandidate hstaged.2 hepoch hgeneration)
  refine hattach.bind fun actual => ?_
  refine (reconcile_does (Q := fun _ _ => True) fun c b h => ⟨h.2, fun _ _ => trivial⟩).bind fun _ => ?_
  refine controllerState_does.bind fun _ => ?_
  exact Does.ensure.post fun _ _ _ _ _ => trivial

/-- An accepted revocation leaves no owner, and the server knows it. -/
theorem revokeExact_does :
    Does x P (revokeExact E request) fun _ c b => b.owner = none ∧ c.ownerActive = false := by
  unfold revokeExact
  refine Does.ensure_bind fun _ => controllerState_does.bind fun state => ?_
  refine Does.okOr_bind fun active _ => Does.ensure_bind fun _ => ?_
  refine Does.pre (P := fun _ _ => True) ?_ fun _ _ _ _ => trivial
  have hrevoke : Does x (fun _ _ => True) (managerChange E (.revoke active.binding.ownerEpoch))
      fun actual _ b => b.owner = none ∧ actual = b.receipt :=
    managerChange_does (Q := fun _ b => b.owner = none) (driftStable_controller fun _ => True)
      fun c b circumstance _ _ => ⟨drifts_apply (Bridge.revoke_drifts _), Bridge.revoke_ok⟩
  refine hrevoke.bind fun actual => (reconcile_does
    (Q := fun c b => b.owner = none ∧ ∃ c₀, Reconciled c₀ c b) ?_).post ?_
  · exact fun c b h => ⟨h.2, fun c' hc' => ⟨h.1, c, hc'⟩⟩
  · rintro _ c b hinv ⟨hnone, c₀, hreconciled⟩
    exact ⟨hnone, (hreconciled.settled hinv).ownerless hnone⟩

/-- What was pending when it was discarded is spent. -/
theorem discardAuthority_does (hx : Inv x) :
    Does x Settled (discardAuthority request) fun _ c _ =>
      c.authority.pending = none
        ∧ ∃ e, x.1.authority.pending = some e ∧ Spent c.authority e := by
  unfold discardAuthority
  refine Does.ensure_bind fun _ => controllerState_does.bind fun state => ?_
  refine Does.ensure_bind fun hcandidate => Does.ensure_bind fun hpending => ?_
  obtain ⟨e, he, hid⟩ := (Option.any_eq_true _ _).mp hpending
  replace hid : e.transactionId = request.transactionId := by simpa using hid
  intro w hw
  obtain ⟨hsettled, rfl⟩ := hw.here
  have hnone : w.controller.authority.ownerCandidate = none := by
    cases hk : w.controller.authority.ownerCandidate with
    | none => rfl
    | some k =>
      -- The candidate would be the authority that is discarded.
      have hsame := (hw.inv.authority.candidate k hk).1
      change w.controller.authority.pending = some k.envelope at hsame
      rw [he] at hsame
      rw [hk] at hcandidate
      have hother : k.envelope.transactionId ≠ request.transactionId := by simpa using hcandidate
      rw [← Option.some.inj hsame] at hother
      exact absurd hid hother
  have hdeed : Deed (w.controller, w.bridge)
      ({ w.controller with authority := { w.controller.authority with pending := none } }, w.bridge) :=
    .discards hnone hsettled.staged
  have hbegan := (deeds_keeps hx hw.deeds).2.authority.pending e he
  refine hw.then (.single hdeed) ⟨rfl, e, hbegan, ?_⟩
  refine ⟨(hw.inv.authority.staged e he).1.le, fun hp => (by cases hp), fun ha => ?_⟩
  exact absurd ((hw.inv.authority.active e ha).2.1 e he) (lt_irrefl _)

/-! ## Staging -/

/-- An authority that can be staged: ahead of everything the server and the manager know. -/
structure Stageable (x : Controller × Bridge) (e : AuthorityEnvelope) : Prop where
  pending : x.1.authority.pending = none
  revision : x.1.authority.highestRevision < e.authorityRevision
  epoch : x.2.highestOwnerEpoch < e.binding.ownerEpoch

/-- The server after the staging. -/
def staged (x : Controller × Bridge) (e : AuthorityEnvelope) : Controller × Bridge :=
  ({ x.1 with authority := stage e x.1.authority }, x.2)

/-- The authority a request asks to stage. -/
def AuthorityControlRequest.staging (request : AuthorityControlRequest) :
    Option AuthorityEnvelope :=
  if request.operation = .stageAuthority then request.envelope else none

/-- What one step of a run amounts to: deeds, and after them at most the staging that was asked
for. -/
inductive Acts (asked : Option AuthorityEnvelope) (x : Controller × Bridge) :
    Controller × Bridge → Prop where
  | deeds {y : Controller × Bridge} (h : Relation.ReflTransGen Deed x y) : Acts asked x y
  | stages {z : Controller × Bridge} {e : AuthorityEnvelope} (h : Relation.ReflTransGen Deed x z)
      (hasked : asked = some e) (hs : Stageable z e) : Acts asked x (staged z e)

/-- What has been done since `x` is an act. -/
def Acted (asked : Option AuthorityEnvelope) (x : Controller × Bridge) (w : World) : Prop :=
  Acts asked x (w.controller, w.bridge)

variable {asked : Option AuthorityEnvelope}

/-- Deeds are acts. -/
theorem Doing.acted (h : Doing x P w) : Acted asked x w := .deeds h.deeds

/-- A condition that only reads the controller and the bridge. -/
def Pairwise (R : World → Prop) : Prop :=
  ∀ w w' : World, w'.controller = w.controller → w'.bridge = w.bridge → R w → R w'

/-- Acts are read off the controller and the bridge. -/
theorem pairwise_acted : Pairwise (Acted asked x) := by
  intro w w' hc hb h
  unfold Acted
  rw [hc, hb]
  exact h

theorem reading_pairwise {R : World → Prop} (hR : Pairwise R) (f : Moment → Option α)
    (e : String) : Triple R (reading E f e) (fun _ => R) (fun _ => R) fun _ => False := by
  intro w hw
  unfold wp reading
  dsimp only
  cases f (E w.clock) with
  | some a => exact hR w _ rfl rfl hw
  | none => exact hR w _ rfl rfl hw

theorem fileWorks_pairwise {R : World → Prop} (hR : Pairwise R) (e : String) :
    Triple R (fileWorks E e) (fun _ => R) (fun _ => R) fun _ => False := by
  unfold fileWorks
  exact reading_pairwise hR _ _

theorem stageAuthority_acts (hop : request.operation = .stageAuthority) :
    Triple (Doing x Settled) (stageAuthority E request) (fun _ => Acted request.staging x)
      (fun _ => Acted request.staging x) fun _ => False := by
  have hfail {Q : Controller → Bridge → Prop} : ∀ w, Doing x Q w → Acted request.staging x w :=
    fun _ hw => hw.acted
  unfold stageAuthority
  refine Triple.okOr_bind (fun envelope henvelope => ?_) hfail
  refine Triple.ensure_bind (fun _ => ?_) hfail
  refine Triple.bind ((validateEnvelope_does envelope).conseq (fun _ h => h) (fun _ _ h => h)
    (fun _ _ h => h.acted) fun _ h => h) fun _ => ?_
  refine Triple.bind (controllerState_does.conseq (fun _ h => h) (fun _ _ h => h)
    (fun _ _ h => h.acted) fun _ h => h) fun state => ?_
  dsimp only
  refine Triple.ensure_bind (fun _ => ?_) hfail
  refine Triple.ensure_bind (fun _ => ?_) hfail
  split
  · exact Triple.pure fun _ hw => hw.acted
  refine Triple.ensure_bind (fun hchecked => ?_) hfail
  obtain ⟨hpending, hrevision, _, hepoch⟩ := hchecked
  intro w hw
  obtain ⟨hsettled, rfl⟩ := hw.here
  have hlt : w.bridge.highestOwnerEpoch < envelope.binding.ownerEpoch := by
    have hle := hsettled.epoch
    have hmax := (max_lt_iff.mp hepoch).2
    omega
  have hasked : request.staging = some envelope := by
    unfold AuthorityControlRequest.staging
    rw [if_pos hop, henvelope]
  exact Acts.stages hw.deeds hasked ⟨hpending, hrevision, hlt⟩

theorem operate_acts (hx : Inv x) :
    Triple (Doing x Settled) (operate E request) (fun _ => Acted request.staging x)
      (fun _ => Acted request.staging x) fun _ => False := by
  have hacts {m : Srv Unit} {Q : Unit → Controller → Bridge → Prop}
      (hm : Does x Settled m Q) :
      Triple (Doing x Settled) (m >>= fun _ => Pure.pure false) (fun _ : Bool => Acted request.staging x)
        (fun _ => Acted request.staging x) fun _ => False := by
    refine Triple.bind (hm.conseq (fun _ h => h) (fun _ _ h => h) (fun _ _ h => h.acted)
      fun _ h => h) fun _ => ?_
    exact Triple.pure fun _ hw => hw.acted
  have hacts' {m : Srv Bool} {Q : Bool → Controller → Bridge → Prop} (hm : Does x Settled m Q) :
      Triple (Doing x Settled) m (fun _ => Acted request.staging x)
        (fun _ => Acted request.staging x) fun _ => False :=
    hm.conseq (fun _ h => h) (fun _ _ h => h.acted) (fun _ _ h => h.acted) fun _ h => h
  unfold operate
  split
  · exact hacts (retireExpiredCommit_does _)
  · exact hacts (isolateCommittedOwner_does _)
  · exact hacts' (recoverPrecommit_does _)
  · exact hacts' probeTransaction_does
  · exact hacts (prepareOwner_does _ _)
  · exact hacts (ownerTransaction_does fun _ _ circumstance t => commitOwner_deeds circumstance t)
  · exact hacts (ownerTransaction_does fun _ _ _ _ => drifts_apply Bridge.finishOwnerDrain_drifts)
  · exact hacts (ownerTransaction_does fun _ _ _ _ =>
      drifts_apply Bridge.retireOwnerAfterFailure_drifts)
  · exact hacts abortOwner_does
  · next hop => exact stageAuthority_acts hop
  · exact hacts attachAuthorized_does
  · exact hacts revokeExact_does
  · exact hacts (discardAuthority_does hx)

/-! ## Requests -/

/-- The state a request starts from. -/
def Starts (x : Controller × Bridge) (w : World) : Prop := (w.controller, w.bridge) = x

/-- A request is checked, reconciled with the manager, operated and published. -/
theorem applyRequest_triple (hx : Inv x) {R : World → Prop} (hR : Pairwise R)
    (hacted : ∀ w, R w → Acted request.staging x w)
    (hoperate : Triple (Doing x Settled) (operate E request) (fun _ => R)
      (fun _ => Acted request.staging x) fun _ => False) :
    Triple (Starts x) (applyRequest E request peer descriptors) (fun _ => R)
      (fun _ => Acted request.staging x) fun _ => False := by
  have hdone {Q : Controller → Bridge → Prop} : ∀ w, Doing x Q w → Acted request.staging x w :=
    fun _ hw => hw.acted
  refine Triple.pre (P := Doing x fun _ _ => True) ?_ ?_
  swap
  · intro w hw
    exact ⟨hw ▸ .refl, hw ▸ hx, trivial⟩
  unfold applyRequest
  refine Triple.bind (controllerState_does.conseq (fun _ h => h) (fun _ _ h => h)
    (fun _ _ h => h.acted) fun _ h => h) fun state => ?_
  refine Triple.bind (Q := fun _ => Doing x fun _ _ => True) ((reading_does _ _).conseq
    (fun _ h => h) (fun _ _ h => h.done) (fun _ _ h => h.acted) fun _ h => h) fun _ => ?_
  refine Triple.ensure_bind (fun _ => ?_) hdone
  refine Triple.ensure_bind (fun _ => ?_) hdone
  refine Triple.ensure_bind (fun _ => ?_) hdone
  have hprobe := probeAndReconcile_does (E := E) (x := x) (driftStable_controller fun _ => True)
  refine Triple.bind (Q := fun _ => Doing x Settled) (hprobe.conseq (fun _ h => h) ?_
    (fun _ _ h => h.acted) fun _ h => h) fun _ => ?_
  · intro _ w hw
    obtain ⟨_, c₀, _, hreconciled⟩ := hw.here
    exact ⟨hw.deeds, hw.inv, hreconciled.settled hw.inv⟩
  refine Triple.bind hoperate fun early => ?_
  split
  · exact Triple.pure fun _ hw => hw
  refine Triple.bind (Q := fun _ => R) ((fileWorks_pairwise hR _).conseq (fun _ h => h)
    (fun _ _ h => h) (fun _ => hacted) fun _ h => h) fun _ => ?_
  refine Triple.when (fun _ => ?_) fun _ _ hw => hw
  exact (fileWorks_pairwise hR _).conseq (fun _ h => h) (fun _ _ h => h) (fun _ => hacted)
    fun _ h => h

/-- One request of the authority endpoint. -/
theorem applyRequest_acts (hx : Inv x) :
    Triple (Starts x) (applyRequest E request peer descriptors) (fun _ => Acted request.staging x)
      (fun _ => Acted request.staging x) fun _ => False :=
  applyRequest_triple hx pairwise_acted (fun _ h => h) (operate_acts hx)

/-- An accepted revocation. -/
theorem applyRequest_revokes (hx : Inv x) (hop : request.operation = .revokeExact) :
    Triple (Starts x) (applyRequest E request peer descriptors)
      (fun _ w => Acted request.staging x w ∧ w.bridge.owner = none ∧ w.controller.ownerActive = false)
      (fun _ => Acted request.staging x) fun _ => False := by
  refine applyRequest_triple hx ?_ (fun _ h => h.1) ?_
  · intro w w' hc hb h
    rw [hb, hc]
    exact ⟨pairwise_acted w w' hc hb h.1, h.2⟩
  · unfold operate
    rw [hop]
    refine Triple.bind (revokeExact_does.conseq (fun _ h => h) (fun _ _ h => h)
      (fun _ _ h => h.acted) fun _ h => h) fun _ => ?_
    exact Triple.pure fun _ hw => ⟨hw.acted, hw.here⟩

/-- An accepted discard. -/
theorem applyRequest_discards (hx : Inv x) (hop : request.operation = .discardAuthority) :
    Triple (Starts x) (applyRequest E request peer descriptors)
      (fun _ w => Acted request.staging x w
        ∧ ∃ e, x.1.authority.pending = some e ∧ Spent w.controller.authority e)
      (fun _ => Acted request.staging x) fun _ => False := by
  refine applyRequest_triple hx ?_ (fun _ h => h.1) ?_
  · intro w w' hc hb h
    rw [hc]
    exact ⟨pairwise_acted w w' hc hb h.1, h.2⟩
  · unfold operate
    rw [hop]
    refine Triple.bind ((discardAuthority_does hx).conseq (fun _ h => h) (fun _ _ h => h)
      (fun _ _ h => h.acted) fun _ h => h) fun _ => ?_
    exact Triple.pure fun _ hw => ⟨hw.acted, hw.here.2⟩

/-! ## The other endpoints -/

theorem takeover_does (peer : ProcessIdentity) :
    Does x P (takeover E peer) fun _ _ _ => True := by
  unfold takeover
  refine controllerState_does.bind fun state => Does.bind (m := processIsCurrent E _)
    (reading_does _ _) fun current => ?_
  split
  · exact Does.pure fun _ _ _ _ => trivial
  split
  swap
  · exact Does.pure fun _ _ _ _ => trivial
  refine Does.bind (Q := fun _ _ _ => True) (modifyController_does ?_) fun _ => ?_
  · exact fun c b _ _ => ⟨.administers peer (c.epoch + 1) c.registered, trivial⟩
  have hback : Does x (fun _ _ => True) (do
      modifyController fun c => { c with controller := state.controller, epoch := state.epoch }
      return false) fun _ _ _ => True := by
    refine Does.bind (Q := fun _ _ _ => True) (modifyController_does ?_) fun _ =>
      Does.pure fun _ _ _ _ => trivial
    exact fun c b _ _ => ⟨.administers state.controller state.epoch c.registered, trivial⟩
  exact Triple.attempt_bind publish_does (fun _ => Does.pure fun _ _ _ _ => trivial)
    fun _ => hback

theorem controlRequest_does (request : ControlRequest) (peer : ProcessIdentity) :
    Does x P (controlRequest E request peer) fun _ _ _ => True := by
  unfold controlRequest
  refine controllerState_does.bind fun state => ?_
  split
  swap
  · exact Does.pure fun _ _ _ _ => trivial
  split
  · exact Does.pure fun _ _ _ _ => trivial
  · split
    · exact Does.pure fun _ _ _ _ => trivial
    split
    · exact Does.pure fun _ _ _ _ => trivial
    · exact takeover_does peer
  · exact Does.pure fun _ _ _ _ => trivial

theorem register_does : Does x P (register E) fun _ _ _ => True := by
  unfold register
  refine controllerState_does.bind fun state => Does.bind (m := processIsCurrent E _)
    (reading_does _ _) fun current => Does.ensure_bind fun _ => ?_
  refine Does.bind (Q := fun _ _ _ => True) (modifyController_does ?_) fun _ => publish_does
  exact fun c b _ _ => ⟨.administers c.controller c.epoch true, trivial⟩

theorem reboundDeadline_does (request : PacketControlRequest) (origin : Origin) :
    Does x P (reboundDeadline E request origin) fun _ => P := by
  unfold reboundDeadline
  refine Does.ensure_bind fun _ => Does.bind (m := instantNow E) (reading_does _ _) fun _ => ?_
  refine Does.bind (m := wallNow E) (reading_does _ _) fun _ => Does.ensure_bind fun _ => ?_
  refine Does.bind (m := instantNow E) (reading_does _ _) fun _ => Does.ensure_bind fun _ => ?_
  exact Does.pure fun _ _ _ h => h

theorem bootstrapCheck_does (deadline : ℕ) (inherited : Option ℕ) :
    Does x P (bootstrapCheck E deadline inherited) fun _ => P := by
  unfold bootstrapCheck
  refine Does.bind (m := monotonicMs E) (reading_does _ _) fun _ => ?_
  refine Does.bind (m := wallNow E) (reading_does _ _) fun _ => ?_
  refine Does.bind (m := instantNow E) (reading_does _ _) fun _ => Does.ensure_bind fun _ => ?_
  exact Does.pure fun _ _ _ h => h

/-- A packet request asks for an attachment ahead of the server, or for a revocation of what it
has. -/
theorem packetChange_does (request : PacketControlRequest) (descriptors : ℕ) (origin : Origin)
    (state : Controller) :
    Does x P (packetChange E request descriptors origin state) fun change c b => P c b
      ∧ ∀ ch, change = some ch → request.operation ≠ .probe
        ∧ ((∃ authDeadline authorization, ch = .attach request.binding authDeadline authorization
            ∧ state.binding.ownerEpoch < request.binding.ownerEpoch)
          ∨ ch = .revoke request.binding.ownerEpoch ∧ request.binding = state.binding) := by
  unfold packetChange
  split
  · refine Does.ensure_bind fun _ => Does.pure fun _ _ _ h => ⟨h, fun _ hch => ?_⟩
    cases hch
  · refine Does.ensure_bind fun hepoch => (reboundDeadline_does _ _).bind fun deadline => ?_
    refine (packetPort_does _).bind fun port => (bootstrapCheck_does _ _).bind fun check => ?_
    refine Does.pure fun _ _ _ h => ⟨h.1, fun ch hch => ?_⟩
    cases hch
    rw [h.2]
    rename_i hop _ _ _
    exact ⟨by rw [hop]; decide, .inl ⟨_, _, rfl, hepoch.2⟩⟩
  · rename_i hop
    refine Does.ensure_bind fun hsame => Does.pure fun _ _ _ h => ⟨h, fun ch hch => ?_⟩
    cases hch
    exact ⟨by rw [hop]; decide, .inr ⟨rfl, hsame.2⟩⟩

/-- The manager takes a packet request that the server may send: without an authority of its
own. -/
theorem packetExchange_does {state : Controller} {binding : PacketPortBinding}
    (hfree : state.authority.active = none ∧ state.authority.pending = none)
    (hchange : (∃ authDeadline authorization, change = .attach binding authDeadline authorization
        ∧ state.binding.ownerEpoch < binding.ownerEpoch)
      ∨ change = .revoke binding.ownerEpoch ∧ binding = state.binding) :
    Does x (fun c _ => c = state) (managerChange E change) fun _ c b => c = state
      ∧ (c.binding.ownerEpoch ≤ binding.ownerEpoch
        ∧ binding.ownerEpoch ≤ b.highestOwnerEpoch)
      ∧ c.binding.policyGeneration ≤ binding.policyGeneration
      ∧ binding.policyGeneration ≤ b.highestPolicyGeneration := by
  refine (managerChange_does (Q := fun c b => c = state
      ∧ (c.binding.ownerEpoch ≤ binding.ownerEpoch
        ∧ binding.ownerEpoch ≤ b.highestOwnerEpoch)
      ∧ c.binding.policyGeneration ≤ binding.policyGeneration
      ∧ binding.policyGeneration ≤ b.highestPolicyGeneration)
    (driftStable_controller (· = state)) ?_).post fun _ _ _ _ h => h.1
  rintro c b circumstance hinv rfl
  rcases hchange with ⟨authDeadline, authorization, rfl, hahead⟩ | ⟨rfl, hsame⟩
  · show Relation.ReflTransGen Deed (c, b) (c, (b.attach circumstance _ _ _).2)
      ∧ ((b.attach circumstance _ _ _).1 = .ok () → _)
    rcases @Bridge.attach_cases b circumstance binding authDeadline
      authorization with
      ⟨hb', hrefused⟩ | ⟨hepoch, hgeneration, hb'⟩
    · rw [hb']
      exact ⟨.refl, fun hok => absurd hok hrefused⟩
    · refine ⟨?_, fun _ => ?_⟩
      · rw [hb']
        exact .single (.rebinds hfree.1 hfree.2 hepoch hgeneration)
      · change c = c
          ∧ (_ ∧ _ ≤ (b.attach circumstance binding authDeadline authorization).2.highestOwnerEpoch)
          ∧ _ ∧ _ ≤ (b.attach circumstance binding authDeadline authorization).2.highestPolicyGeneration
        rw [hb']
        exact ⟨rfl, ⟨hahead.le, le_rfl⟩, hinv.generation.trans hgeneration, le_rfl⟩
  · have hdrifts := Bridge.revoke_drifts (b := b) binding.ownerEpoch
    have hkeeps := Deed.drifts_keeps (c := c) hdrifts
    refine ⟨drifts_apply hdrifts, fun _ => ⟨rfl, ?_, ?_⟩⟩
    · rw [hsame]
      exact ⟨le_rfl, hinv.epoch.trans (hsame ▸ hkeeps.epoch)⟩
    · rw [hsame]
      exact ⟨le_rfl, hinv.generation.trans (hsame ▸ hkeeps.generation)⟩

theorem packetRequest_does (request : PacketControlRequest) (peer : ProcessIdentity)
    (descriptors : ℕ) : Does x P (packetRequest E request peer descriptors) fun _ _ _ => True := by
  unfold packetRequest packetAdmission packetCommit
  simp only [Proc.bind_assoc]
  refine controllerState_does.bind fun state => ?_
  have hget : Does x (fun c b => P c b ∧ c = state) get fun _ c b => P c b ∧ c = state :=
    fun _ hw => hw
  refine hget.bind fun world => ?_
  refine Does.bind (m := processIsCurrent E peer) (reading_does _ _) fun _ => ?_
  refine Does.ensure_bind fun _ => Does.ensure_bind fun _ => Does.ensure_bind fun _ => ?_
  refine Does.ensure_bind fun hfree => ?_
  refine (packetChange_does request descriptors world.origin state).bind fun change => ?_
  cases change with
  | none => exact Does.pure fun _ _ _ _ => trivial
  | some change =>
    simp only [Proc.bind_assoc, Proc.pure_bind]
    refine Does.bind (m := processIsCurrent E peer) (reading_does _ _) fun _ => ?_
    refine Does.ensure_bind fun _ => ?_
    refine Does.and_pre fun hsent => ?_
    obtain ⟨hop, hchange⟩ := hsent change rfl
    replace hfree := hfree.resolve_right hop
    refine Does.pre (P := fun c _ => c = state) ?_ fun _ _ _ h => h.2
    refine (packetExchange_does hfree hchange).bind fun _ => ?_
    refine Does.bind (Q := fun _ _ _ => True) (modifyController_does ?_) fun _ => publish_does
    rintro c b _ ⟨rfl, hepoch, hgeneration⟩
    exact ⟨.acknowledges hfree.1 hepoch hgeneration, trivial⟩

end Walk

end CandyRuntime.Tunio
