import CandyRuntime.Tunio.ServerTheorems

/-!
# An authority that has ended does not come back

Over every run of the control process the high-waters only grow, a revision is staged once, and
only the staged authority becomes active. What was discarded, cancelled, aborted, retired or
cleared is neither pending nor active again. A revoked authority is different: the server keeps
it as the last applied one, but it is never in force again (`authority_never_returns`).
-/

namespace CandyRuntime.Tunio

open Lib Lib.Proc NetdProto NetdV2

variable {e : AuthorityEnvelope} {w : World} {x : Controller × Bridge}
variable {E : ℕ → Moment}

/-- The part of a world the deeds are about. -/
def World.pair (w : World) : Controller × Bridge := (w.controller, w.bridge)

/-! ## Steps -/

theorem after_of_triple {α : Type} {m : Srv α} {P R : World → Prop}
    (h : Triple P m (fun _ => R) (fun _ => R) fun _ => False) (hw : P w) :
    R (after m w) := by
  have hwp := h w hw
  unfold wp at hwp
  unfold after
  split at hwp
  · next heq => rw [heq]; exact hwp
  · next heq => rw [heq]; exact hwp
  · exact hwp.elim

/-- The state after a program that has returned. -/
theorem ok_of_triple {α : Type} {m : Srv α} {P : World → Prop} {Q : α → World → Prop}
    {R : String → World → Prop} {S : World → Prop} (h : Triple P m Q R S) (hw : P w) {a : α}
    (hok : (m w).1 = .ok a) : Q a (after m w) := by
  have hwp := h w hw
  unfold wp at hwp
  unfold after
  split at hwp
  · next heq =>
    rw [heq] at hok ⊢
    cases hok
    exact hwp
  · next heq =>
    rw [heq] at hok
    cases hok
  · next heq =>
    rw [heq] at hok
    cases hok

/-- The authority a step asks to stage. -/
def Label.staging : Label → Option AuthorityEnvelope
  | .authority request _ _ => request.staging
  | _ => none

theorem acts_of_does {α : Type} {m : Srv α} {Q : α → Controller → Bridge → Prop}
    {asked : Option AuthorityEnvelope} (h : Does w.pair (fun _ _ => True) m Q) (hw : Inv w.pair) :
    Acted asked w.pair (after m w) :=
  after_of_triple (h.conseq (fun _ h => h) (fun _ _ h => h.acted) (fun _ _ h => h.acted)
    fun _ h => h) ⟨.refl, hw, trivial⟩

/-- Every step of a run is made of deeds and at most the staging it asks for. -/
theorem step_acts (hw : Inv w.pair) (l : Label) :
    Acts l.staging w.pair (step E l w).pair := by
  cases l with
  | authority request peer descriptors => exact after_of_triple (applyRequest_acts hw) rfl
  | packet request peer descriptors => exact acts_of_does (packetRequest_does _ _ _) hw
  | control request peer => exact acts_of_does (controlRequest_does _ _) hw
  | register => exact acts_of_does register_does hw
  | background g =>
    obtain ⟨hc, hdrifts⟩ := background_drifts w g
    refine .deeds ?_
    show Relation.ReflTransGen Deed w.pair ((w.background g).controller, (w.background g).bridge)
    rw [hc]
    exact .single (.drifts hdrifts)
  | guardLooks clock =>
    refine .deeds ?_
    show Relation.ReflTransGen Deed w.pair (w.guardLooks clock).pair
    unfold World.guardLooks
    split <;> exact .refl
  | guardClears missed =>
    refine .deeds ?_
    show Relation.ReflTransGen Deed w.pair (w.guardClears missed).pair
    unfold World.guardClears
    split
    · split
      · exact .single .clears
      · exact .refl
    · split <;> exact .refl
    · exact .refl

/-- A staging keeps the invariant. -/
theorem Inv.staged (h : Inv x) (hs : Stageable x e) : Inv (staged x e) := by
  have ha := h.authority
  have hlt := hs.revision
  have hnone (p : AuthorityEnvelope) (hp : (some e : Option AuthorityEnvelope) = some p) : p = e :=
    (Option.some.inj hp).symm
  have hspent (p : AuthorityEnvelope) (hp : Spent x.1.authority p) :
      Spent (stage e x.1.authority) p := by
    have hle := hp.revision
    refine ⟨by show p.authorityRevision ≤ e.authorityRevision; omega, ?_, hp.active⟩
    intro heq
    rw [hnone p heq] at hle
    omega
  refine ⟨h.bridge, ⟨?_, ?_, ?_, ?_, ha.prepared, ?_, ha.ended, ha.revision⟩, ⟨?_, ?_, ?_⟩,
    h.epoch, h.generation⟩
  · intro p hp
    rw [hnone p hp]
    exact ⟨rfl, .inl hs.epoch⟩
  · intro a haa
    obtain ⟨hle, _, hattached⟩ := ha.active a haa
    refine ⟨by show a.authorityRevision ≤ e.authorityRevision; omega, ?_, hattached⟩
    intro p hp
    rw [hnone p hp]
    omega
  · intro a o haa ho
    rcases ha.owned a o haa ho with hsame | ⟨p, hp, _⟩
    · exact .inl hsame
    · rw [hs.pending] at hp
      cases hp
  · intro r hr
    have hpending := (ha.candidate r hr).1
    rw [hs.pending] at hpending
    cases hpending
  · intro r phase hr
    obtain ⟨hexact, hle, _, hhigh⟩ := ha.terminal r phase hr
    refine ⟨hexact, by show r.envelope.authorityRevision ≤ e.authorityRevision; omega, ?_, hhigh⟩
    intro p hp
    rw [hnone p hp]
    omega
  · exact fun p hp => hspent p (h.marks.cancelled p hp)
  · exact fun p hp => hspent p (h.marks.isolated p hp)
  · exact fun p hp => hspent p (h.marks.retired p hp)

/-! ## What only grows -/

/-- What a step keeps, also one that stages: the high-waters grow, and what has left the fields
or the manager stays away. -/
structure Grows (x y : Controller × Bridge) : Prop where
  highestRevision : x.1.authority.highestRevision ≤ y.1.authority.highestRevision
  ownerHighestRevision : x.1.authority.ownerHighestRevision ≤ y.1.authority.ownerHighestRevision
  highestOwnerEpoch : x.1.authority.highestOwnerEpoch ≤ y.1.authority.highestOwnerEpoch
  highestPolicyGeneration :
    x.1.authority.highestPolicyGeneration ≤ y.1.authority.highestPolicyGeneration
  bindingEpoch : x.1.binding.ownerEpoch ≤ y.1.binding.ownerEpoch
  bindingGeneration : x.1.binding.policyGeneration ≤ y.1.binding.policyGeneration
  managerRevision : x.2.highestTransactionRevision ≤ y.2.highestTransactionRevision
  managerEpoch : x.2.highestOwnerEpoch ≤ y.2.highestOwnerEpoch
  managerGeneration : x.2.highestPolicyGeneration ≤ y.2.highestPolicyGeneration
  unstaged : ∀ e, e.authorityRevision ≤ x.1.authority.highestRevision →
    x.1.authority.pending ≠ some e → y.1.authority.pending ≠ some e
  spent : ∀ e, Spent x.1.authority e → Spent y.1.authority e
  gone : ∀ binding, Gone x.2 binding → Gone y.2 binding
  force : ∀ e, Gone x.2 e.binding → ¬ InForce x.1 e → ¬ InForce y.1 e

theorem Grows.trans {x y z : Controller × Bridge} (h : Grows x y) (h' : Grows y z) :
    Grows x z where
  highestRevision := h.highestRevision.trans h'.highestRevision
  ownerHighestRevision := h.ownerHighestRevision.trans h'.ownerHighestRevision
  highestOwnerEpoch := h.highestOwnerEpoch.trans h'.highestOwnerEpoch
  highestPolicyGeneration := h.highestPolicyGeneration.trans h'.highestPolicyGeneration
  bindingEpoch := h.bindingEpoch.trans h'.bindingEpoch
  bindingGeneration := h.bindingGeneration.trans h'.bindingGeneration
  managerRevision := h.managerRevision.trans h'.managerRevision
  managerEpoch := h.managerEpoch.trans h'.managerEpoch
  managerGeneration := h.managerGeneration.trans h'.managerGeneration
  unstaged e he hp := h'.unstaged e (he.trans h.highestRevision) (h.unstaged e he hp)
  spent e he := h'.spent e (h.spent e he)
  gone binding hg := h'.gone binding (h.gone binding hg)
  force e hg hf := h'.force e (h.gone _ hg) (h.force e hg hf)

theorem Keeps.grows {x y : Controller × Bridge} (h : Keeps x y) : Grows x y where
  highestRevision := h.authority.revision
  ownerHighestRevision := h.ownerRevision
  highestOwnerEpoch := h.authority.epoch
  highestPolicyGeneration := h.authority.generation
  bindingEpoch := h.bindingEpoch
  bindingGeneration := h.bindingGeneration
  managerRevision := h.revision
  managerEpoch := h.epoch
  managerGeneration := h.generation
  unstaged e _ hp hp' := hp (h.authority.pending e hp')
  spent _ he := he.moves h.authority
  gone := h.gone
  force := h.force

theorem Stageable.grows (hs : Stageable x e) :
    Grows x (staged x e) where
  highestRevision := hs.revision.le
  ownerHighestRevision := le_rfl
  highestOwnerEpoch := le_max_left _ _
  highestPolicyGeneration := le_max_left _ _
  bindingEpoch := le_rfl
  bindingGeneration := le_rfl
  managerRevision := le_rfl
  managerEpoch := le_rfl
  managerGeneration := le_rfl
  unstaged p hp _ heq := by
    have hlt := hs.revision
    have hsame : e = p := Option.some.inj heq
    rw [hsame] at hlt
    omega
  spent p hp := by
    have hlt := hs.revision
    have hle := hp.revision
    refine ⟨hle.trans hlt.le, fun heq => ?_, hp.active⟩
    cases heq
    omega
  gone _ hg := hg
  force _ _ hf hin := hf hin

section Acts

variable {asked : Option AuthorityEnvelope} {x y : Controller × Bridge} {e : AuthorityEnvelope}

theorem Acts.inv (h : Acts asked x y) (hx : Inv x) : Inv y := by
  cases h with
  | deeds h => exact (deeds_keeps hx h).1
  | stages h _ hs => exact (deeds_keeps hx h).1.staged hs

theorem Acts.grows (h : Acts asked x y) (hx : Inv x) : Grows x y := by
  cases h with
  | deeds h => exact (deeds_keeps hx h).2.grows
  | stages h _ hs => exact (deeds_keeps hx h).2.grows.trans hs.grows

/-- What is pending after a step was so before, or is staged by it with a new revision. -/
theorem Acts.pending (h : Acts asked x y) (hx : Inv x) (he : y.1.authority.pending = some e) :
    x.1.authority.pending = some e
      ∨ asked = some e ∧ x.1.authority.highestRevision < e.authorityRevision := by
  cases h with
  | deeds h => exact .inl ((deeds_keeps hx h).2.authority.pending e he)
  | @stages z e' h hasked hs =>
    have hsame : e' = e := Option.some.inj he
    have hgrows := (deeds_keeps hx h).2.authority.revision
    have hlt := hs.revision
    rw [hsame] at hasked hlt
    exact .inr ⟨hasked, by omega⟩

/-- What is active after a step was so before, or was pending. -/
theorem Acts.active (h : Acts asked x y) (hx : Inv x) (he : y.1.authority.active = some e) :
    x.1.authority.active = some e ∨ x.1.authority.pending = some e := by
  cases h with
  | deeds h => exact (deeds_keeps hx h).2.authority.active e he
  | stages h _ _ => exact (deeds_keeps hx h).2.authority.active e he

end Acts

/-! ## Runs -/

theorem World.start_inv (origin : Origin) (process controller : ProcessIdentity)
    (tokenSha256 : String) : Inv (World.start origin process controller tokenSha256).pair where
  bridge := by
    refine ⟨?_, ?_, ?_⟩
    · intro o ho
      cases ho
      exact ⟨rfl, rfl⟩
    · intro l hl
      cases hl
    · intro p hp
      cases hp
  authority := by
    refine ⟨?_, ?_, ?_, ?_, ?_, ?_, ?_, le_rfl⟩
    all_goals intros
    all_goals contradiction
  marks := by
    refine ⟨?_, ?_, ?_⟩
    all_goals intros
    all_goals contradiction
  epoch := le_rfl
  generation := le_rfl

/-- A run keeps the invariant, and its states only grow. -/
theorem run_grows (hw : Inv w.pair) (labels : List Label) :
    Inv (run E labels w).pair ∧ Grows w.pair (run E labels w).pair := by
  induction labels generalizing w with
  | nil => exact ⟨hw, (Keeps.refl w.pair).grows⟩
  | cons l labels ih =>
    have hacts := step_acts (E := E) hw l
    obtain ⟨hinv, hgrows⟩ := ih (hacts.inv hw)
    exact ⟨hinv, (hacts.grows hw).trans hgrows⟩

/-! ## What a step stages, ends and revokes -/

section Steps

variable (E : ℕ → Moment) (l : Label) (w : World) (e : AuthorityEnvelope)

/-- The step is an authority request that the server accepts. -/
def Accepts (operation : AuthorityOperation) : Prop :=
  ∃ request peer descriptors, l = .authority request peer descriptors
    ∧ request.operation = operation ∧ (applyRequest E request peer descriptors w).1 = .ok ()

/-- The step stages `e`, as its request asks. -/
def Stages : Prop :=
  l.staging = some e ∧ w.controller.authority.pending ≠ some e
    ∧ (step E l w).controller.authority.pending = some e

/-- The step makes `e` the active authority. -/
def Activates : Prop :=
  w.controller.authority.active ≠ some e
    ∧ (step E l w).controller.authority.active = some e

/-- The fields of `s` say that `e` has ended without a commit, or after it. -/
inductive AuthorityState.Tells (s : AuthorityState) (e : AuthorityEnvelope) : Prop where
  | cancelled (h : s.precommitCancelled = some e)
  | isolated (h : s.isolatedCommitted = some e)
  | retired (h : s.retiredExpiredCommit = some e)
  | ended (r : OwnerAuthority) (phase : OwnerTransactionPhase) (hphase : phase ≠ .committed)
      (hr : r.envelope = e) (h : s.ownerTerminal = some (r, phase))

/-- After the step `e` has ended: it is discarded, it has left the fields that held it, or the
server has noted its end. -/
inductive Ends : Prop where
  | discarded (h : Accepts E l w .discardAuthority)
      (he : w.controller.authority.pending = some e)
  | left (h : w.controller.authority.pending = some e ∨ w.controller.authority.active = some e)
      (hpending : (step E l w).controller.authority.pending ≠ some e)
      (hactive : (step E l w).controller.authority.active ≠ some e)
  | told (h : (step E l w).controller.authority.Tells e)

/-- The manager has taken `e` in and has given it up. -/
structure Lapsed : Prop where
  active : w.controller.authority.active = some e
  owner : w.bridge.owner.map (·.binding) ≠ some e.binding

end Steps

theorem Inv.tells (h : Inv x) (ht : x.1.authority.Tells e) : Spent x.1.authority e := by
  cases ht with
  | cancelled ht => exact h.marks.cancelled e ht
  | isolated ht => exact h.marks.isolated e ht
  | retired ht => exact h.marks.retired e ht
  | ended r phase hphase hr ht =>
    subst hr
    obtain ⟨_, hle, hbelow, _⟩ := h.authority.terminal r phase ht
    refine ⟨hle, ?_, (h.authority.ended r phase ht).1 hphase⟩
    intro hp
    exact absurd (hbelow _ hp) (lt_irrefl _)

/-- An authority that is pending or active is past its staging. -/
theorem Inv.revision_le (h : Inv x)
    (he : x.1.authority.pending = some e ∨ x.1.authority.active = some e) :
    e.authorityRevision ≤ x.1.authority.highestRevision := by
  rcases he with hp | ha
  · exact (h.authority.staged e hp).1.le
  · exact (h.authority.active e ha).1

theorem Inv.active_not_pending (h : Inv x) (ha : x.1.authority.active = some e) :
    x.1.authority.pending ≠ some e := by
  intro hp
  exact absurd ((h.authority.active e ha).2.1 e hp) (lt_irrefl _)

theorem Inv.lapsed (h : Inv w.pair) (he : Lapsed w e) :
    Gone w.bridge e.binding := by
  refine ⟨?_, he.owner⟩
  obtain ⟨_, _, hbehind | hattached⟩ := h.authority.active e he.active
  · exact hbehind.le
  · exact hattached.epoch.le

/-- After an accepted discard the authority that was pending is spent. -/
theorem discards_spent (hw : Inv w.pair) {l : Label} (h : Accepts E l w .discardAuthority)
    (he : w.controller.authority.pending = some e) :
    Spent (step E l w).controller.authority e := by
  obtain ⟨request, peer, descriptors, rfl, hop, hok⟩ := h
  obtain ⟨_, e', he', hspent⟩ := ok_of_triple (applyRequest_discards hw hop) rfl hok
  change w.controller.authority.pending = some e' at he'
  rw [he] at he'
  cases he'
  exact hspent

/-- After an accepted revocation there is no owner, in the manager and in the server. -/
theorem revokes_ownerless (hw : Inv w.pair) {l : Label} (h : Accepts E l w .revokeExact) :
    (step E l w).bridge.owner = none ∧ (step E l w).controller.ownerActive = false := by
  obtain ⟨request, peer, descriptors, rfl, hop, hok⟩ := h
  exact (ok_of_triple (applyRequest_revokes hw hop) rfl hok).2

/-- What has ended is spent after the step. -/
theorem Ends.spent (hw : Inv w.pair) {l : Label} (h : Ends E l w e) :
    Spent (step E l w).controller.authority e := by
  have hacts := step_acts (E := E) hw l
  cases h with
  | discarded haccepts he => exact discards_spent hw haccepts he
  | left he hpending hactive =>
    have hle := hw.revision_le he
    have hgrows := (hacts.grows hw).highestRevision
    exact ⟨hle.trans hgrows, hpending, hactive⟩
  | told ht => exact (hacts.inv hw).tells ht

/-! ## No return -/

/-- What a run keeps between a state `w`, the step `l` in it and a later state `w'`. -/
structure NoReturn (E : ℕ → Moment) (w : World) (l : Label) (w' : World) : Prop where
  highestRevision :
    w.controller.authority.highestRevision ≤ w'.controller.authority.highestRevision
  ownerHighestRevision :
    w.controller.authority.ownerHighestRevision ≤ w'.controller.authority.ownerHighestRevision
  highestOwnerEpoch :
    w.controller.authority.highestOwnerEpoch ≤ w'.controller.authority.highestOwnerEpoch
  highestPolicyGeneration : w.controller.authority.highestPolicyGeneration
    ≤ w'.controller.authority.highestPolicyGeneration
  ownerEpoch : w.controller.binding.ownerEpoch ≤ w'.controller.binding.ownerEpoch
  policyGeneration :
    w.controller.binding.policyGeneration ≤ w'.controller.binding.policyGeneration
  manager : w.bridge.highestTransactionRevision ≤ w'.bridge.highestTransactionRevision
    ∧ w.bridge.highestOwnerEpoch ≤ w'.bridge.highestOwnerEpoch
    ∧ w.bridge.highestPolicyGeneration ≤ w'.bridge.highestPolicyGeneration
  -- A later staging has a greater revision, so no revision is staged twice.
  stages : ∀ e l' e', Stages E l w e → Stages E l' w' e' →
    e.authorityRevision < e'.authorityRevision
  activates : ∀ e, Activates E l w e → w.controller.authority.pending = some e
  ends : ∀ e, Ends E l w e →
    w'.controller.authority.pending ≠ some e ∧ w'.controller.authority.active ≠ some e
  revokes : Accepts E l w .revokeExact → ∀ e, (step E l w).controller.authority.active = some e →
    Lapsed (step E l w) e ∧ ¬ InForce (step E l w).controller e
  -- What the manager has given up can stay as the last applied authority, but not in force.
  lapses : ∀ e, Lapsed (step E l w) e → w'.controller.authority.pending ≠ some e
    ∧ w'.bridge.owner.map (·.binding) ≠ some e.binding
    ∧ (¬ InForce (step E l w).controller e → ¬ InForce w'.controller e)

theorem run_noReturn (hw : Inv w.pair) (l : Label) (labels : List Label) :
    NoReturn E w l (run E labels (step E l w)) := by
  have hacts := step_acts (E := E) hw l
  have hinv := hacts.inv hw
  have hstep := hacts.grows hw
  obtain ⟨hinv', hrun⟩ := run_grows (E := E) hinv labels
  have hgrows := hstep.trans hrun
  refine ⟨hgrows.highestRevision, hgrows.ownerHighestRevision, hgrows.highestOwnerEpoch,
    hgrows.highestPolicyGeneration, hgrows.bindingEpoch, hgrows.bindingGeneration,
    ⟨hgrows.managerRevision, hgrows.managerEpoch, hgrows.managerGeneration⟩, ?_, ?_, ?_, ?_, ?_⟩
  · rintro e l' e' ⟨_, _, he⟩ ⟨_, hfresh, he'⟩
    have hrevision : e.authorityRevision
        = (step E l w).controller.authority.highestRevision := (hinv.authority.staged e he).1
    have hle := hrun.highestRevision
    rcases (step_acts hinv' l').pending hinv' he' with hold | ⟨_, hlt⟩
    · exact absurd hold hfresh
    · change (step E l w).controller.authority.highestRevision ≤ _ at hle
      omega
  · rintro e ⟨hfresh, he⟩
    exact (hacts.active hw he).resolve_left hfresh
  · intro e he
    have hspent := hrun.spent e (he.spent hw)
    exact ⟨hspent.pending, hspent.active⟩
  · intro haccepts e he
    obtain ⟨hnone, hinactive⟩ := revokes_ownerless hw haccepts
    refine ⟨⟨he, ?_⟩, ?_⟩
    · rw [hnone]
      simp
    · rintro ⟨hactive, _⟩
      rw [hinactive] at hactive
      cases hactive
  · intro e he
    have hgone := hinv.lapsed he
    have hle := hinv.revision_le (.inr he.active)
    exact ⟨hrun.unstaged e hle (hinv.active_not_pending he.active),
      (hrun.gone e.binding hgone).owner, hrun.force e hgone⟩

/-- What is pending or active in a run was so at its beginning, or was staged in it. -/
theorem run_staged (hw : Inv w.pair) (labels : List Label)
    (he : (run E labels w).controller.authority.pending = some e ∨
      (run E labels w).controller.authority.active = some e) :
    (w.controller.authority.pending = some e ∨ w.controller.authority.active = some e)
      ∨ ∃ before l rest, labels = before ++ l :: rest ∧ Stages E l (run E before w) e := by
  induction labels generalizing w with
  | nil => exact .inl he
  | cons l labels ih =>
    have hacts := step_acts (E := E) hw l
    rcases ih (hacts.inv hw) he with hfirst | ⟨before, l', rest, rfl, hstages⟩
    · by_cases hpending : w.controller.authority.pending = some e
      · exact .inl (.inl hpending)
      rcases hfirst with hp | ha
      · rcases hacts.pending hw hp with hold | ⟨hasked, _⟩
        · exact absurd hold hpending
        · exact .inr ⟨[], l, labels, rfl, hasked, hpending, hp⟩
      · exact .inl (.inr ((hacts.active hw ha).resolve_right hpending))
    · exact .inr ⟨l :: before, l', rest, rfl, hstages⟩

/-- Over every run of the control process: the high-waters never fall, no revision is staged
twice, what is pending or active was staged in this run, and what has ended does not come back.
A revoked authority stays as the last applied one, but it is not in force again. -/
theorem authority_never_returns (E : ℕ → Moment) (origin : Origin)
    (process controller : ProcessIdentity) (tokenSha256 : String) (before : List Label)
    (l : Label) (labels : List Label) :
    NoReturn E (run E before (.start origin process controller tokenSha256)) l
        (run E (before ++ l :: labels) (.start origin process controller tokenSha256))
      ∧ ∀ e, ((run E before (.start origin process controller tokenSha256)).controller.authority.pending
            = some e
          ∨ (run E before (.start origin process controller tokenSha256)).controller.authority.active
            = some e) →
        ∃ first l' rest, before = first ++ l' :: rest
          ∧ Stages E l' (run E first (.start origin process controller tokenSha256)) e := by
  have hinv := World.start_inv origin process controller tokenSha256
  refine ⟨?_, ?_⟩
  · have happend : run E (before ++ l :: labels) (.start origin process controller tokenSha256)
        = run E labels (step E l (run E before (.start origin process controller tokenSha256))) := by
      unfold run
      rw [List.foldl_append]
      rfl
    rw [happend]
    exact run_noReturn (run_grows hinv before).1 l labels
  · intro e he
    rcases run_staged hinv before he with hstart | hstaged
    · rcases hstart with hp | ha
      · cases hp
      · cases ha
    · exact hstaged

/-! ## A revoked authority -/

/-- Calls that all work, one second after the boot. -/
def calm : Moment where
  clock := ⟨1000000000, some 1000, some 100000000000⟩
  bootId := some "boot"
  current _ := true
  confirmed _ := some true
  works := true
  before := []
  fate := .answered
  circumstance := ⟨⟨1000000000, some 1000, some 100000000000⟩, false, false, some true⟩

/-- The binding the process starts with. -/
def firstBinding : PacketPortBinding :=
  ⟨Vector.replicate 16 1, Vector.replicate 16 2, 1, 1, 1, 1⟩

def firstOrigin : Origin := ⟨firstBinding, 200, 101000000000, [], none⟩

def tunioProcess : ProcessIdentity := ⟨1, 1⟩

def agentProcess : ProcessIdentity := ⟨2, 1⟩

/-- An authority for the second owner. -/
def secondAuthority : AuthorityEnvelope where
  transactionId := "00000000000000000000000000000001"
  authorityRevision := 1
  binding := { firstBinding with ownerEpoch := 2 }
  candidate := ⟨3, 1⟩
  controller := agentProcess
  controllerEpoch := 1
  signedControlHash := "0000000000000000000000000000000000000000000000000000000000000000"
  declarationHash := "0000000000000000000000000000000000000000000000000000000000000000"
  verificationReportHash := "0000000000000000000000000000000000000000000000000000000000000000"
  snapshotClosureHash := "0000000000000000000000000000000000000000000000000000000000000000"
  signedMinExpiryUnix := 200
  effectiveExpiryUnix := 200
  verifiedAtUnix := 100
  verifiedAtMonoMs := 1000
  effectiveDeadlineMonoMs := 100000
  bootId := "boot"

/-- A request of the agent for the second owner. -/
def secondRequest (operation : AuthorityOperation) (envelope : Option AuthorityEnvelope) :
    AuthorityControlRequest where
  schemaVersion := 3
  process := tunioProcess
  controller := agentProcess
  controllerEpoch := 1
  tokenSha256 := "token"
  nonce := "00000000000000000000000000000000"
  operation
  envelope
  transactionId := "00000000000000000000000000000001"

def stageSecond : Label :=
  .authority (secondRequest .stageAuthority (some secondAuthority)) agentProcess 0

def attachSecond : Label :=
  .authority (secondRequest .attachAuthorized (some secondAuthority)) agentProcess 1

def revokeSecond : Label := .authority (secondRequest .revokeExact none) agentProcess 0

def secondServed : World :=
  run (fun _ => calm) [.register, stageSecond, attachSecond]
    (.start firstOrigin tunioProcess agentProcess "token")

/-- An authority that was attached and then revoked is still the active one, also when its
staging is sent again: `owner_active` alone says that it is out of force. -/
theorem revoked_authority_stays_active :
    InForce secondServed.controller secondAuthority
      ∧ Accepts (fun _ => calm) revokeSecond secondServed .revokeExact
      ∧ (step (fun _ => calm) revokeSecond secondServed).controller.authority.active
        = some secondAuthority
      ∧ Accepts (fun _ => calm) stageSecond (step (fun _ => calm) revokeSecond secondServed)
        .stageAuthority
      ∧ (run (fun _ => calm) [revokeSecond, stageSecond] secondServed).controller.authority.active
        = some secondAuthority := by
  -- One evaluation of the run.
  have hrun : (secondServed.controller.ownerActive = true
      ∧ secondServed.controller.authority.active = some secondAuthority)
      ∧ (applyRequest (fun _ => calm) (secondRequest .revokeExact none) agentProcess 0
        secondServed).1 = .ok ()
      ∧ (step (fun _ => calm) revokeSecond secondServed).controller.authority.active
        = some secondAuthority
      ∧ (applyRequest (fun _ => calm) (secondRequest .stageAuthority (some secondAuthority))
        agentProcess 0 (step (fun _ => calm) revokeSecond secondServed)).1 = .ok ()
      ∧ (run (fun _ => calm) [revokeSecond, stageSecond] secondServed).controller.authority.active
        = some secondAuthority := by decide
  obtain ⟨hforce, hrevoked, hactive, hstaged, hactive'⟩ := hrun
  exact ⟨hforce, ⟨_, _, _, rfl, rfl, hrevoked⟩, hactive, ⟨_, _, _, rfl, rfl, hstaged⟩, hactive'⟩

end CandyRuntime.Tunio
