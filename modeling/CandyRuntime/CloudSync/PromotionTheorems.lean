import CandyRuntime.CloudSync.SyncTheorems

/-!
# Promotions that stop half way

A promotion replaces two files one after the other: the active pointer, and the proof of the commit.
Every later invocation holds the one against the other before it asks Cloud for anything, and takes a
difference as an error. The files are read without an error exactly as long as no promotion stops
between them while the proof of another activation is there, and as long as the processes that a
receipt names can be looked at (`reads_answer_iff`).
-/

namespace CandyRuntime.CloudSync.Sync

open Lib Lib.Proc NetdV2

/-! ## The other processes -/

/-- What an agent that was started on an activation writes about it. -/
structure ActivationReadyReceipt.WrittenFor (r : ActivationReadyReceipt)
    (d : ActivationDescriptor) : Prop where
  schema : r.schemaVersion = if r.coreProof.isSome then 2 else 1
  activationId : r.activationId = d.activationId
  candidateTarget : r.candidateTarget = target r.activationId
  generation : r.generation = d.projectionGeneration
  agentPid : r.agentPid ≠ 0
  result : (r.state = "committed" ∨ r.state = "rejected") ∧ r.resultIsValid = true
  token : ∀ proof, r.coreProof = some proof → isHex proof.readinessTokenSha256 64 = true

/-- What can happen on a host besides the synchronizer: the agent replaces its receipt or removes
it, processes come and go, and time passes. -/
structure Host.Others (h h' : Host) : Prop where
  state : h'.state = h.state
  candidate : h'.candidate = h.candidate
  active : h'.active = h.active
  activations : h'.activations = h.activations
  proof : h'.proof = h.proof
  receipt : h'.receipt = h.receipt ∨ h'.receipt = .absent ∨ ∃ r d, h'.receipt = .present r
    ∧ h.activations.lookup r.activationId = some d ∧ r.WrittenFor d
  clock : h'.now ≠ 0

/-- A delivery that passes the checks of its form has generations and digests, and grants that are
refreshed before they expire. -/
structure Delivery.Genuine (d : Delivery) : Prop where
  digest : isHex d.digest 64 = true
  activationId : isHex d.activationId 64 = true
  contentHash : d.wellFormed = true → isHex d.configuration.projectionContentHash 64 = true
  segmentGeneration : d.wellFormed = true → d.configuration.segmentGeneration ≠ 0
  projectionGeneration : d.wellFormed = true → d.configuration.projectionGeneration ≠ 0
  grants : d.grantRefreshAfterUnix ≤ d.grantExpiresAtUnix

/-- An environment in which only agents, processes and Cloud act. -/
structure Moment.Steady (m : Moment) : Prop where
  others : ∀ h : Host, h.Others (m.others h)
  answer : ∀ d, m.answer = .ok d → d.Genuine

/-- A state directory that is empty. -/
structure Host.Fresh (h : Host) : Prop where
  state : h.state = .absent
  candidate : h.candidate = none
  active : h.active = none
  activations : h.activations = []
  receipt : h.receipt = .absent
  proof : h.proof = .absent

/-! ## The law and its condition -/

/-- The reads at the start of an invocation succeed. -/
def Answers (sha256 : String → String) : FileOp → List FileOp → Prop
  | .reads h, _ => ∃ look, h.lookAtReceipt sha256 = .ok look
  | .recalls h, _ => ∃ outcome, h.readCommittedActivationOutcome = .ok outcome
  | _, _ => True

/-- Whether a result is there can be decided. -/
def decidableOk {α : Type} : ∀ result : Except String α, Decidable (∃ a, result = .ok a)
  | .ok a => isTrue ⟨a, rfl⟩
  | .error _ => isFalse nofun

instance decidableAnswers (sha256 : String → String) :
    ∀ op earlier, Decidable (Answers sha256 op earlier)
  | .reads h, _ => decidableOk (h.lookAtReceipt sha256)
  | .recalls h, _ => decidableOk h.readCommittedActivationOutcome
  | .published _ _, _ => isTrue trivial
  | .withdrawn, _ => isTrue trivial
  | .begins, _ => isTrue trivial
  | .removes _, _ => isTrue trivial
  | .points _ _, _ => isTrue trivial
  | .proves _ _, _ => isTrue trivial

/-- The proof that is there is not of the active activation. -/
def Host.Mismatch (h : Host) : Prop :=
  ∃ id proof, h.active = some id ∧ h.proof = .present proof ∧ proof.activationId ≠ id

/-- The last promotion has set the pointer, and has not written its proof in the place of the proof
of another activation. -/
def Interrupted : List FileOp → Prop
  | .proves _ _ :: _ => False
  | .points id h :: _ => Host.Mismatch { h with active := some id }
  | _ :: earlier => Interrupted earlier
  | [] => False

/-- The processes that a committed receipt of the candidate names are not of another user, and the
status of its Core can be read. -/
def Host.Identified (h : Host) : Prop :=
  ∀ r, h.receipt = .present r → r.state = "committed" →
    h.candidate.map target = some r.candidateTarget →
    h.agents.lookup r.agentPid ≠ some false ∧
    (h.agents.lookup r.agentPid = some true → ∀ proof, r.coreProof = some proof →
      proof.pid ≠ 0 → proof.pid ≤ 2 ^ 31 - 1 → proof.statusPath.startsWith "/" = true →
      h.cores.any (fun core => core.pid = proof.pid && core.foreign) = false ∧
      (h.cores.any (·.isNamed proof) = true →
        ∀ error, h.statuses.lookup proof.statusPath ≠ some (.unreadable error)))

/-- The receipt is read only while its processes can be looked at, and the proof only while no
promotion is half done. -/
def Finished : FileOp → List FileOp → Prop
  | .reads h, _ => h.Identified
  | .recalls _, earlier => ¬ Interrupted earlier
  | _, _ => True

/-! ## The files of a host -/

/-- The descriptor of an activation of this name is valid. -/
structure ActivationDescriptor.Sound (d : ActivationDescriptor) (id : String) : Prop where
  name : isHex id 64 = true
  activationId : d.activationId = id
  active : Host.validActiveDescriptor d id = true

theorem ActivationDescriptor.Sound.candidate {d : ActivationDescriptor} {id : String}
    (hd : d.Sound id) :
    (isHex d.activationId 64 && isHex d.deliverySha256 64 && decide (d.schemaVersion = 1)
      && decide (d.activationId = id) && decide (d.deliveryEtag = etagOf d.deliverySha256)
      && decide (d.segmentGeneration ≠ 0) && decide (d.projectionGeneration ≠ 0)
      && decide (d.grantRefreshAfterUnix ≤ d.grantExpiresAtUnix)) = true := by
  have hactive := hd.active
  simp only [Host.validActiveDescriptor, Bool.and_eq_true, decide_eq_true_eq] at hactive ⊢
  obtain ⟨⟨⟨⟨⟨⟨⟨⟨⟨⟨hsha, _⟩, hschema⟩, hid⟩, hetag⟩, hsegment⟩, hprojection⟩, _⟩, _⟩, _⟩, hgrant⟩ :=
    hactive
  refine ⟨⟨⟨⟨⟨⟨⟨?_, hsha⟩, hschema⟩, hid⟩, hetag⟩, by omega⟩, by omega⟩, hgrant⟩
  rw [hid]
  exact hd.name

/-- A proof of the commit of this activation. -/
structure ActiveActivationProof.Of (proof : ActiveActivationProof)
    (d : ActivationDescriptor) : Prop where
  schema : proof.schemaVersion = 1
  activationId : proof.activationId = d.activationId
  candidateTarget : proof.candidateTarget = target proof.activationId
  generation : proof.projectionGeneration = d.projectionGeneration
  etag : proof.deliveryEtag = d.deliveryEtag
  agentPid : proof.agentPid ≠ 0
  state : proof.state = "committed"
  time : proof.committedAtUnix ≠ 0

/-- Pointers lead to activations, and the receipt and the proof are about activations. -/
structure Host.Sound (h : Host) : Prop where
  descriptor : ∀ id d, h.activations.lookup id = some d → d.Sound id
  candidate : ∀ id, h.candidate = some id → (h.activations.lookup id).isSome = true
  active : ∀ id, h.active = some id → (h.activations.lookup id).isSome = true
  receipt : h.receipt = .absent ∨ ∃ r d, h.receipt = .present r
    ∧ h.activations.lookup r.activationId = some d ∧ r.WrittenFor d
  proof : h.proof = .absent ∨ ∃ p d, h.proof = .present p
    ∧ h.activations.lookup p.activationId = some d ∧ p.Of d

theorem Host.Fresh.sound {h : Host} (hh : h.Fresh) : h.Sound where
  descriptor id d hlookup := by
    rw [hh.activations] at hlookup
    cases hlookup
  candidate id hid := by
    rw [hh.candidate] at hid
    cases hid
  active id hid := by
    rw [hh.active] at hid
    cases hid
  receipt := .inl hh.receipt
  proof := .inl hh.proof

theorem Host.Sound.others {h h' : Host} (hs : h.Sound) (ho : h.Others h') : h'.Sound where
  descriptor id d hlookup := hs.descriptor id d (by rwa [← ho.activations])
  candidate id hid := by
    rw [ho.activations]
    exact hs.candidate id (by rwa [← ho.candidate])
  active id hid := by
    rw [ho.activations]
    exact hs.active id (by rwa [← ho.active])
  receipt := by
    rw [ho.activations]
    rcases ho.receipt with hsame | hgone | hnew
    · rw [hsame]
      exact hs.receipt
    · exact .inl hgone
    · exact .inr hnew
  proof := by
    rw [ho.proof, ho.activations]
    exact hs.proof

/-! ## The reads -/

theorem target_injective {id id' : String} (h : target id = target id') : id = id' := by
  unfold target at h
  have hlist := congrArg String.toList h
  simp only [String.toList_append] at hlist
  exact String.toList_inj.mp (List.append_cancel_left hlist)

theorem Host.Sound.candidateDescriptor {h : Host} (hs : h.Sound) {id : String}
    (hid : h.candidate = some id) :
    ∃ d, h.activations.lookup id = some d ∧ h.candidateDescriptor = .ok (some d) := by
  obtain ⟨d, hd⟩ := Option.isSome_iff_exists.mp (hs.candidate id hid)
  have hsound := hs.descriptor id d hd
  refine ⟨d, hd, ?_⟩
  unfold Host.candidateDescriptor
  rw [hid]
  simp only [hsound.name, Bool.not_true, Bool.false_eq_true, if_false, hd]
  rw [if_pos hsound.candidate]

/-- The metadata of a receipt of the agent is valid. -/
theorem ActivationReadyReceipt.WrittenFor.metadata {r : ActivationReadyReceipt}
    {d : ActivationDescriptor} (hr : r.WrittenFor d) (hd : d.Sound r.activationId) :
    r.metadataIsValid = true := by
  have hactive := hd.active
  simp only [Host.validActiveDescriptor, Bool.and_eq_true, decide_eq_true_eq] at hactive
  have hgeneration : r.generation ≠ 0 := by
    rw [hr.generation]
    omega
  have hschema : r.schemaVersion = 1 ∨ r.schemaVersion = 2 := by
    rw [hr.schema]
    by_cases hproof : r.coreProof.isSome = true
    · exact .inr (if_pos hproof)
    · exact .inl (if_neg hproof)
  simp only [ActivationReadyReceipt.metadataIsValid, Bool.and_eq_true, Bool.or_eq_true,
    decide_eq_true_eq]
  exact ⟨⟨⟨⟨⟨hd.name, hschema⟩, hr.result.1⟩, hr.candidateTarget⟩, hgeneration⟩, hr.agentPid⟩

variable {outcome : ActivationOutcome} {d : ActivationDescriptor} {h : Host}
variable {sha256 : String → String}

/-- A look at the Core that a receipt names fails exactly if the process is of another user, or its
status cannot be read. -/
theorem receiptCoreIsCurrent_ok_iff {r : ActivationReadyReceipt} (hr : r.WrittenFor d) :
    (∃ current, h.receiptCoreIsCurrent sha256 r = .ok current) ↔
      ∀ proof, r.coreProof = some proof → proof.pid ≠ 0 → proof.pid ≤ 2 ^ 31 - 1 →
        proof.statusPath.startsWith "/" = true →
        h.cores.any (fun core => core.pid = proof.pid && core.foreign) = false ∧
        (h.cores.any (·.isNamed proof) = true →
          ∀ error, h.statuses.lookup proof.statusPath ≠ some (.unreadable error)) := by
  have hschema := hr.schema
  have htoken := hr.token
  unfold Host.receiptCoreIsCurrent
  cases hproof : r.coreProof with
  | none => simp
  | some proof =>
    rw [hproof] at hschema
    have hhex := htoken proof hproof
    simp only [hschema, Option.isSome_some, if_true, ne_eq, not_true_eq_false, false_or, hhex,
      Bool.not_true, Bool.false_eq_true, if_false, Option.some.injEq, forall_eq']
    by_cases hform : proof.pid = 0 ∨ 2 ^ 31 - 1 < proof.pid
        ∨ (!proof.statusPath.startsWith "/") = true
    · rw [if_pos hform]
      refine ⟨fun _ hpid hmax hpath => ?_, fun _ => ⟨false, rfl⟩⟩
      rcases hform with hzero | hlarge | hrelative
      · exact absurd hzero hpid
      · omega
      · rw [hpath] at hrelative
        cases hrelative
    · rw [if_neg hform]
      push Not at hform
      have hpath : proof.statusPath.startsWith "/" = true := by simpa using hform.2.2
      simp only [hpath, hform.1, hform.2.1, not_false_eq_true, forall_const]
      cases hforeign : h.cores.any (fun core => core.pid = proof.pid && core.foreign) with
      | true => simp
      | false =>
        cases hnamed : h.cores.any (·.isNamed proof) with
        | false => simp
        | true =>
          cases hstatus : h.statuses.lookup proof.statusPath with
          | none => simp
          | some status => cases status <;> simp

theorem receiptIsCurrent_ok_iff {r : ActivationReadyReceipt} :
    (∃ current, h.receiptIsCurrent sha256 r d = .ok current) ↔
      (r.state = "committed" → ∃ current, h.receiptCoreIsCurrent sha256 r = .ok current) := by
  unfold Host.receiptIsCurrent
  by_cases hcommitted : r.state = "committed"
  · rw [if_pos hcommitted]
    cases hcore : h.receiptCoreIsCurrent sha256 r with
    | error e => simp [hcommitted, Bind.bind, Except.bind]
    | ok current =>
      cases current <;> simp [Bind.bind, Except.bind, Pure.pure, Except.pure]
  · rw [if_neg hcommitted]
    simp [hcommitted, Pure.pure, Except.pure]

/-- The receipt of the agent is read without an error exactly if the processes it names can be
looked at. -/
theorem Host.Sound.lookAtReceipt_ok_iff (hs : h.Sound) :
    (∃ look, h.lookAtReceipt sha256 = .ok look) ↔ h.Identified := by
  rcases hs.receipt with hnone | ⟨r, d, hreceipt, hlookup, hr⟩
  · have hlook : h.lookAtReceipt sha256 = .ok .nothing := by
      unfold Host.lookAtReceipt
      rw [hnone]
      rfl
    refine ⟨fun _ r' hr' => ?_, fun _ => ⟨_, hlook⟩⟩
    rw [hnone] at hr'
    cases hr'
  have hmetadata := hr.metadata (hs.descriptor _ _ hlookup)
  have hidentified : h.Identified ↔ (r.state = "committed" →
      h.candidate.map target = some r.candidateTarget →
      h.agents.lookup r.agentPid ≠ some false ∧ (h.agents.lookup r.agentPid = some true →
        ∃ current, h.receiptCoreIsCurrent sha256 r = .ok current)) := by
    unfold Host.Identified
    rw [receiptCoreIsCurrent_ok_iff hr, hreceipt]
    simp only [File.present.injEq, forall_eq']
  rw [hidentified]
  unfold Host.lookAtReceipt
  rw [hreceipt]
  simp only [File.read, Bind.bind, Except.bind, hmetadata, Bool.not_true, Bool.false_eq_true, if_false]
  by_cases hcandidate : h.candidate.map target = some r.candidateTarget
  · rw [if_neg (not_not_intro hcandidate)]
    -- The candidate is the activation that the receipt is about.
    obtain ⟨id, hid, htarget⟩ := Option.map_eq_some_iff.mp hcandidate
    rw [hr.candidateTarget] at htarget
    obtain ⟨d', hd', hdescriptor⟩ := hs.candidateDescriptor hid
    rw [target_injective htarget, hlookup] at hd'
    obtain rfl := Option.some.inj hd'
    have hmatch : ¬ (d.activationId ≠ r.activationId ∨ d.projectionGeneration ≠ r.generation) := by
      rw [hr.activationId, hr.generation]
      simp
    have hrest : (∃ look, (do
        if ← h.receiptIsCurrent sha256 r d then return Look.accepted ⟨r, d⟩
        else return Look.nothing : Except String Look) = .ok look) ↔
        (r.state = "committed" → ∃ current, h.receiptCoreIsCurrent sha256 r = .ok current) := by
      rw [← receiptIsCurrent_ok_iff (d := d)]
      cases h.receiptIsCurrent sha256 r d with
      | error e => simp [Bind.bind, Except.bind]
      | ok current => cases current <;> simp [Bind.bind, Except.bind, Pure.pure, Except.pure]
    by_cases hcommitted : r.state = "committed"
    · cases hagent : h.agents.lookup r.agentPid with
      | none => simp [hcommitted, Pure.pure, Except.pure]
      | some owned =>
        cases owned with
        | false => simp [hcommitted, hcandidate, throw, throwThe, MonadExceptOf.throw]
        | true =>
          simp only [hcommitted, reduceCtorEq, and_false, if_false, Option.some.injEq,
            Bool.true_eq_false, hdescriptor, if_neg hmatch, hr.result.2, Bool.not_true,
            Bool.false_eq_true, ne_eq, not_false_eq_true, true_and, forall_const, hcandidate]
          rw [hcommitted] at hrest
          simpa [Bind.bind, Except.bind] using hrest
    · simp only [hcommitted, false_and, if_false, hdescriptor, if_neg hmatch, hr.result.2,
        Bool.not_true, Bool.false_eq_true, false_imp_iff, iff_true]
      exact hrest.mpr fun h => absurd h hcommitted
  · rw [if_pos hcandidate]
    simp [hcandidate, Pure.pure, Except.pure]

/-- The proof is recalled without an error exactly if it is of the active activation. -/
theorem Host.Sound.readCommittedActivationOutcome_ok_iff (hs : h.Sound) :
    (∃ outcome, h.readCommittedActivationOutcome = .ok outcome) ↔ ¬ h.Mismatch := by
  unfold Host.readCommittedActivationOutcome Host.readActiveActivation Host.Mismatch
  cases hactive : h.active with
  | none => simp [Bind.bind, Except.bind, Pure.pure, Except.pure]
  | some id =>
    obtain ⟨d, hd⟩ := Option.isSome_iff_exists.mp (hs.active id hactive)
    have hsound := hs.descriptor id d hd
    simp only [hsound.name, hd, hsound.active, Bool.not_true, Bool.false_eq_true, if_false,
      Host.activeActivationProof]
    rcases hs.proof with hnone | ⟨proof, d', hproof, hd', hof⟩
    · simp [hnone, File.read, Bind.bind, Except.bind, Pure.pure, Except.pure]
    rw [hproof]
    by_cases hsame : proof.activationId = id
    · rw [hsame, hd] at hd'
      obtain rfl := Option.some.inj hd'
      have hmatch : proof.schemaVersion = 1 ∧ proof.activationId = d.activationId
          ∧ proof.candidateTarget = target id ∧ proof.projectionGeneration = d.projectionGeneration
          ∧ proof.deliveryEtag = d.deliveryEtag ∧ proof.agentPid ≠ 0
          ∧ proof.state = "committed" ∧ proof.committedAtUnix ≠ 0 :=
        ⟨hof.schema, hof.activationId, by rw [hof.candidateTarget, hsame], hof.generation, hof.etag,
          hof.agentPid, hof.state, hof.time⟩
      simp only [File.read, Bind.bind, Except.bind, Pure.pure, Except.pure]
      rw [if_pos hmatch]
      simp [hsame]
    · have hother : ¬ (proof.schemaVersion = 1 ∧ proof.activationId = d.activationId
          ∧ proof.candidateTarget = target id ∧ proof.projectionGeneration = d.projectionGeneration
          ∧ proof.deliveryEtag = d.deliveryEtag ∧ proof.agentPid ≠ 0
          ∧ proof.state = "committed" ∧ proof.committedAtUnix ≠ 0) := by
        intro hmatch
        exact hsame (hmatch.2.1.trans hsound.activationId)
      simp only [File.read, Bind.bind, Except.bind, Pure.pure, Except.pure]
      rw [if_neg hother]
      simp [hsame, throw, throwThe, MonadExceptOf.throw]

/-! ## What every operation keeps -/

/-- The files are sound, the pointer and the proof differ exactly if a promotion is half done, and
so far the reads have succeeded exactly as the condition says. -/
structure Kept (sha256 : String → String) (w : World) : Prop where
  steady : ∀ n, (w.moments n).Steady
  sound : w.host.Sound
  linked : Interrupted w.ops ↔ w.host.Mismatch
  answered : Always (Answers sha256) w.ops ↔ Always Finished w.ops

/-- The others do not make `F` false. -/
def Undisturbed (F : Host → Prop) : Prop := ∀ h h', F h → h.Others h' → F h'

theorem undisturbed_true : Undisturbed fun _ => True := fun _ _ _ _ => trivial

theorem undisturbed_lookup (id : String) (d : ActivationDescriptor) :
    Undisturbed fun h => h.activations.lookup id = some d := by
  intro h h' hd ho
  rw [ho.activations]
  exact hd

theorem undisturbed_missing (id : String) :
    Undisturbed fun h => h.activations.lookup id = none := by
  intro h h' hd ho
  rw [ho.activations]
  exact hd

theorem undisturbed_active (id : String) : Undisturbed fun h => h.active = some id := by
  intro h h' hd ho
  rw [ho.active]
  exact hd

theorem Undisturbed.and {F G : Host → Prop} (hF : Undisturbed F) (hG : Undisturbed G) :
    Undisturbed fun h => F h ∧ G h :=
  fun h h' hFG ho => ⟨hF h h' hFG.1 ho, hG h h' hFG.2 ho⟩

theorem Host.Mismatch.congr {h h' : Host} (hactive : h'.active = h.active)
    (hproof : h'.proof = h.proof) : h'.Mismatch ↔ h.Mismatch := by
  unfold Host.Mismatch
  rw [hactive, hproof]

theorem interrupted_receiptActs {h h' : Host} {ops : List FileOp} :
    Interrupted (h.receiptActs h' ++ ops) ↔ Interrupted ops := by
  unfold Host.receiptActs
  split_ifs
  · exact Iff.rfl
  · split <;> exact Iff.rfl

theorem always_receiptActs {P : FileOp → List FileOp → Prop} {h h' : Host} {ops : List FileOp}
    (hpublished : ∀ r after earlier, P (.published r after) earlier)
    (hwithdrawn : ∀ earlier, P .withdrawn earlier) :
    Always P (h.receiptActs h' ++ ops) ↔ Always P ops := by
  unfold Host.receiptActs
  split_ifs
  · exact Iff.rfl
  · split
    · exact and_iff_right (hpublished _ _ _)
    · exact and_iff_right (hwithdrawn _)

variable {F G : Host → Prop}

/-- However an operation ends, `Kept` holds; if it returns, `Q` does as well. -/
def Yields {α : Type} (sha256 : String → String) (F : Host → Prop) (m : Syn α)
    (Q : α → Host → Prop) : Prop :=
  Triple (fun w => Kept sha256 w ∧ F w.host) m (fun a w => Kept sha256 w ∧ Q a w.host)
    (fun _ w => Kept sha256 w) (fun w => Kept sha256 w)

theorem moment_yields (hF : Undisturbed F) :
    Yields sha256 F moment fun m h => m.Steady ∧ F h ∧ h.now ≠ 0 := by
  rintro w ⟨hw, hfact⟩
  have ho := (hw.steady 0).others w.host
  refine ⟨⟨fun n => hw.steady (n + 1), hw.sound.others ho, ?_, ?_⟩, hw.steady 0,
    hF _ _ hfact ho, ho.clock⟩
  · rw [interrupted_receiptActs, hw.linked]
    exact (Host.Mismatch.congr ho.active ho.proof).symm
  · rw [always_receiptActs (fun _ _ _ => trivial) fun _ => trivial,
      always_receiptActs (fun _ _ _ => trivial) fun _ => trivial]
    exact hw.answered

namespace Yields

variable {α β : Type} {m : Syn α} {Q Q' : α → Host → Prop} {R : β → Host → Prop}

protected theorem bind {f : α → Syn β} (hm : Yields sha256 F m Q)
    (hf : ∀ a, Yields sha256 (Q a) (f a) R) : Yields sha256 F (m >>= f) R :=
  Triple.bind hm hf

protected theorem pure {a : α} (h : ∀ host, F host → Q a host) :
    Yields sha256 F (Pure.pure a) Q :=
  fun _ hw => ⟨hw.1, h _ hw.2⟩

protected theorem fail (e : String) : Yields sha256 F (fail e : Syn α) Q := fun _ hw => hw.1

theorem pre (hm : Yields sha256 G m Q) (h : ∀ host, F host → G host) : Yields sha256 F m Q :=
  Triple.pre hm fun _ hw => ⟨hw.1, h _ hw.2⟩

theorem post (hm : Yields sha256 F m Q') (h : ∀ a host, Q' a host → Q a host) :
    Yields sha256 F m Q :=
  Triple.post hm fun _ _ hw => ⟨hw.1, h _ _ hw.2⟩

protected theorem ite {c : Prop} [Decidable c] {n : Syn α} (hm : c → Yields sha256 F m Q)
    (hn : ¬ c → Yields sha256 F n Q) : Yields sha256 F (if c then m else n) Q :=
  Triple.ite hm hn

theorem ensure_bind {c : Prop} [Decidable c] {e : String} {f : Unit → Syn β}
    (hf : c → Yields sha256 F (f ()) R) : Yields sha256 F (ensure c e >>= f) R :=
  Triple.ensure_bind hf fun _ hw => hw.1

theorem okOr_bind {o : Option α} {e : String} {f : α → Syn β}
    (hf : ∀ a, o = some a → Yields sha256 F (f a) R) : Yields sha256 F (okOr o e >>= f) R :=
  Triple.okOr_bind hf fun _ hw => hw.1

theorem lift_bind {r : Except String α} {f : α → Syn β}
    (hf : ∀ a, r = .ok a → Yields sha256 F (f a) R) : Yields sha256 F (lift r >>= f) R :=
  Triple.lift_bind hf fun _ _ hw => hw.1

theorem and_pre {p : Prop} (h : p → Yields sha256 F m Q) :
    Yields sha256 (fun host => F host ∧ p) m Q :=
  fun w hw => h hw.2.2 w ⟨hw.1, hw.2.1⟩

end Yields

theorem killed_yields {α : Type} {Q : α → Host → Prop} : Yields sha256 F (killed : Syn α) Q :=
  fun _ hw => hw.1

theorem looks_yields (hF : Undisturbed F) :
    Yields sha256 F looks fun h host => (F host ∧ host.now ≠ 0) ∧ host = h := by
  refine (moment_yields hF).bind fun m => ?_
  exact fun w hw => ⟨hw.1, hw.2.2, rfl⟩

theorem durable_yields {write : Write} {error : String} {f : World → World}
    (hf : ∀ w, Kept sha256 w → F w.host → Kept sha256 (f w) ∧ G (f w).host) :
    Yields sha256 F (durable write error f) fun _ => G := by
  rintro w ⟨hw, hfact⟩
  have hdone := hf w hw hfact
  cases write with
  | done => exact hdone
  | failed landed => cases landed with
    | true => exact hdone.1
    | false => exact hw
  | killed landed => cases landed with
    | true => exact hdone.1
    | false => exact hw

/-- A change of the files that leaves them sound, and the active pointer and its proof as they
are. -/
structure Change (F : Host → Prop) (f : Host → Host) (G : Host → Prop) : Prop where
  sound : ∀ h, h.Sound → F h → (f h).Sound
  active : ∀ h, (f h).active = h.active
  proof : ∀ h, (f h).proof = h.proof
  yields : ∀ h, F h → G (f h)

theorem Change.kept {f : Host → Host} (hf : Change F f G) {w : World} (hw : Kept sha256 w)
    (hfact : F w.host) : Kept sha256 { w with host := f w.host } where
  steady := hw.steady
  sound := hf.sound w.host hw.sound hfact
  linked := hw.linked.trans (Host.Mismatch.congr (hf.active w.host) (hf.proof w.host)).symm
  answered := hw.answered

theorem writes_yields {error : String} {f : Host → Host} (hF : Undisturbed F)
    (hf : Change F f G) : Yields sha256 F (writes error f) fun _ => G := by
  refine (moment_yields hF).bind fun m => durable_yields fun w hw hfact => ?_
  exact ⟨hf.kept hw hfact.2.1, hf.yields _ hfact.2.1⟩

theorem writesNoted_yields {error : String} {op : Host → FileOp} {f : Host → Host}
    (hF : Undisturbed F) (hf : ∀ w, Kept sha256 w → F w.host →
      Kept sha256 { w with host := f w.host, ops := op w.host :: w.ops } ∧ G (f w.host)) :
    Yields sha256 F (writesNoted error op f) fun _ => G := by
  refine (moment_yields hF).bind fun m => durable_yields fun w hw hfact => ?_
  exact hf w hw hfact.2.1

/-- Changes of files that the reads do not look at. -/
theorem change_bookkeeping {f : Host → Host} (hf : Bookkeeping f) : Change F f fun _ => True where
  sound h hs _ := by
    refine ⟨?_, fun id hid => ?_, ?_, ?_, ?_⟩
    · rw [hf.activations]
      exact hs.descriptor
    · rw [hf.activations]
      rcases hf.candidate h with hsame | hnone
      · exact hs.candidate id (hsame ▸ hid)
      · rw [hnone] at hid
        cases hid
    · rw [hf.activations, hf.active]
      exact hs.active
    · rw [hf.activations, hf.receipt]
      exact hs.receipt
    · rw [hf.activations, hf.proof]
      exact hs.proof
  active := hf.active
  proof := hf.proof
  yields _ _ := trivial

theorem change_candidate {id : String} :
    Change (fun h => h.activations.lookup id = some d) (fun h => { h with candidate := some id })
      fun _ => True where
  sound h hs hd := by
    refine ⟨hs.descriptor, fun id' hid' => ?_, hs.active, hs.receipt, hs.proof⟩
    rw [← Option.some.inj hid', hd]
    rfl
  active _ := rfl
  proof _ := rfl
  yields _ _ := trivial

/-- An activation is added under a name that is free. -/
theorem change_activations {id : String} (hd : d.Sound id) :
    Change (fun h => h.activations.lookup id = none)
      (fun h => { h with activations := (id, d) :: h.activations })
      fun h => h.activations.lookup id = some d where
  sound h hs hfree := by
    have hgrows : ∀ id' d', h.activations.lookup id' = some d'
        → List.lookup id' ((id, d) :: h.activations) = some d' := by
      intro id' d' hd'
      have hne : id' ≠ id := by
        rintro rfl
        rw [hfree] at hd'
        cases hd'
      rw [List.lookup_cons, beq_false_of_ne hne]
      exact hd'
    have hsome : ∀ id', (h.activations.lookup id').isSome = true
        → (List.lookup id' ((id, d) :: h.activations)).isSome = true := by
      intro id' hid'
      obtain ⟨d', hd'⟩ := Option.isSome_iff_exists.mp hid'
      rw [hgrows id' d' hd']
      rfl
    refine ⟨fun id' d' hd' => ?_, fun id' hid' => hsome id' (hs.candidate id' hid'),
      fun id' hid' => hsome id' (hs.active id' hid'), ?_, ?_⟩
    · rw [List.lookup_cons] at hd'
      by_cases heq : id' = id
      · subst heq
        rw [beq_self_eq_true] at hd'
        rw [← Option.some.inj hd']
        exact hd
      · rw [beq_false_of_ne heq] at hd'
        exact hs.descriptor id' d' hd'
    · rcases hs.receipt with hnone | ⟨r, d', hreceipt, hd', hr⟩
      · exact .inl hnone
      · exact .inr ⟨r, d', hreceipt, hgrows _ _ hd', hr⟩
    · rcases hs.proof with hnone | ⟨proof, d', hproof, hd', hof⟩
      · exact .inl hnone
      · exact .inr ⟨proof, d', hproof, hgrows _ _ hd', hof⟩
  active _ := rfl
  proof _ := rfl
  yields h _ := by
    rw [List.lookup_cons, beq_self_eq_true]

/-! ## Operations -/

theorem Yields.preserves {α : Type} {m : Syn α} {Q : α → Host → Prop}
    (hm : Yields sha256 (fun _ => True) m Q) : Preserves (Kept sha256) m :=
  Triple.conseq hm (fun _ hw => ⟨hw, trivial⟩) (fun _ _ hw => hw.1) (fun _ _ hw => hw) fun _ hw => hw

/-- An operation of which nothing more is known. -/
theorem yields_of_preserves {α : Type} {m : Syn α} (hm : Preserves (Kept sha256) m) :
    Yields sha256 F m fun _ _ => True :=
  Triple.conseq hm (fun _ hw => hw.1) (fun _ _ hw => ⟨hw, trivial⟩) (fun _ _ hw => hw) fun _ hw => hw

theorem unseen_kept : Unseen (Kept sha256) where
  moment := (moment_yields undisturbed_true).preserves
  writes hf := (writes_yields undisturbed_true (change_bookkeeping hf)).preserves
  log _ hw := ⟨hw.steady, hw.sound, hw.linked, hw.answered⟩

theorem kept_clearActivationReadyReceipt :
    Preserves (Kept sha256) clearActivationReadyReceipt := by
  have hremove : Preserves (Kept sha256) (writesNoted "remove committed SD-WAN activation receipt"
      .removes fun h => { h with receipt := .absent }) := by
    refine Yields.preserves (Q := fun _ _ => True) ?_
    refine writesNoted_yields undisturbed_true fun w hw _ => ⟨⟨hw.steady, ?_, hw.linked, ?_⟩, trivial⟩
    · exact ⟨hw.sound.descriptor, hw.sound.candidate, hw.sound.active, .inl rfl, hw.sound.proof⟩
    · exact Iff.and Iff.rfl hw.answered
  refine unseen_kept.looks.bind fun h => ?_
  split
  · exact .pure _
  · exact .fail _
  · exact hremove
  · exact hremove

/-! ## Outcomes -/

/-- The outcome is about this activation of the host. -/
structure ActivationOutcome.Of (outcome : ActivationOutcome) (h : Host) : Prop where
  lookup : h.activations.lookup outcome.receipt.activationId = some outcome.descriptor
  candidateTarget : outcome.receipt.candidateTarget = target outcome.receipt.activationId
  generation : outcome.receipt.generation = outcome.descriptor.projectionGeneration
  agentPid : outcome.receipt.agentPid ≠ 0

theorem undisturbed_outcome (outcome : ActivationOutcome) : Undisturbed outcome.Of := by
  intro h h' hof ho
  refine ⟨?_, hof.candidateTarget, hof.generation, hof.agentPid⟩
  rw [ho.activations]
  exact hof.lookup

/-- What a look that accepts the receipt has seen. -/
theorem Host.lookAtReceipt_accepted (haccepted : h.lookAtReceipt sha256 = .ok (.accepted outcome)) :
    h.receipt = .present outcome.receipt
      ∧ h.candidate.map target = some outcome.receipt.candidateTarget
      ∧ h.candidateDescriptor = .ok (some outcome.descriptor) := by
  unfold Host.lookAtReceipt at haccepted
  cases hreceipt : h.receipt with
  | absent => simp [hreceipt, File.read, Bind.bind, Except.bind, Pure.pure, Except.pure] at haccepted
  | irregular => simp [hreceipt, File.read, Bind.bind, Except.bind] at haccepted
  | invalid => simp [hreceipt, File.read, Bind.bind, Except.bind] at haccepted
  | present r =>
    simp only [hreceipt, File.read, Bind.bind, Except.bind, Pure.pure, Except.pure, throw,
      throwThe, MonadExceptOf.throw] at haccepted
    cases hdescriptor : h.candidateDescriptor with
    | error e =>
      rw [hdescriptor] at haccepted
      split_ifs at haccepted <;> simp at haccepted
    | ok descriptor =>
      rw [hdescriptor] at haccepted
      cases descriptor with
      | none => split_ifs at haccepted <;> simp at haccepted
      | some d =>
        dsimp only at haccepted
        cases hcurrent : h.receiptIsCurrent sha256 r d with
        | error e =>
          rw [hcurrent] at haccepted
          split_ifs at haccepted <;> simp at haccepted
        | ok current =>
          rw [hcurrent] at haccepted
          cases current with
          | false => split_ifs at haccepted <;> simp at haccepted
          | true =>
            dsimp only at haccepted
            split_ifs at haccepted with _ hcandidate <;> cases haccepted
            exact ⟨rfl, not_not.mp hcandidate, rfl⟩

theorem Host.Sound.accepted (hs : h.Sound)
    (haccepted : h.lookAtReceipt sha256 = .ok (.accepted outcome)) : outcome.Of h := by
  obtain ⟨hreceipt, hcandidate, hdescriptor⟩ := Host.lookAtReceipt_accepted haccepted
  rcases hs.receipt with hnone | ⟨r, d, hr, hd, hwritten⟩
  · rw [hnone] at hreceipt
    cases hreceipt
  rw [hreceipt] at hr
  obtain rfl := File.present.inj hr
  obtain ⟨id, hid, htarget⟩ := Option.map_eq_some_iff.mp hcandidate
  rw [hwritten.candidateTarget] at htarget
  obtain ⟨d', hd', hdescriptor'⟩ := hs.candidateDescriptor hid
  rw [target_injective htarget] at hd'
  rw [hdescriptor'] at hdescriptor
  obtain rfl := Option.some.inj (Except.ok.inj hdescriptor)
  rw [hd] at hd'
  obtain rfl := Option.some.inj hd'
  exact ⟨hd, hwritten.candidateTarget, hwritten.generation, hwritten.agentPid⟩

theorem Host.Sound.recalled (hs : h.Sound)
    (hrecalled : h.readCommittedActivationOutcome = .ok (some outcome)) : outcome.Of h := by
  have hmatch := hs.readCommittedActivationOutcome_ok_iff.mp ⟨_, hrecalled⟩
  unfold Host.readCommittedActivationOutcome Host.readActiveActivation at hrecalled
  cases hactive : h.active with
  | none => simp [hactive, Bind.bind, Except.bind, Pure.pure, Except.pure] at hrecalled
  | some id =>
    obtain ⟨d, hd⟩ := Option.isSome_iff_exists.mp (hs.active id hactive)
    have hsound := hs.descriptor id d hd
    simp only [hactive, hsound.name, hd, hsound.active, Bool.not_true, Bool.false_eq_true, if_false,
      Host.activeActivationProof] at hrecalled
    rcases hs.proof with hnone | ⟨proof, d', hproof, hd', hof⟩
    · simp [hnone, File.read, Bind.bind, Except.bind, Pure.pure, Except.pure] at hrecalled
    have hsame : proof.activationId = id := by
      by_contra hne
      exact hmatch ⟨id, proof, hactive, hproof, hne⟩
    rw [hsame, hd] at hd'
    obtain rfl := Option.some.inj hd'
    simp only [hproof, File.read, Bind.bind, Except.bind, Pure.pure, Except.pure] at hrecalled
    split_ifs at hrecalled
    simp only [Option.map_some, Except.ok.injEq, Option.some.injEq] at hrecalled
    subst hrecalled
    refine ⟨?_, hof.candidateTarget, hof.generation, hof.agentPid⟩
    rw [hsame]
    exact hd

/-- The receipt is read. -/
theorem noteReads_yields :
    Yields sha256 (fun host => F host ∧ host = h) (note .reads) fun _ host => F host ∧ host = h := by
  rintro w ⟨hw, hfact⟩
  refine ⟨⟨hw.steady, hw.sound, hw.linked, ?_⟩, hfact⟩
  exact Iff.and hw.sound.lookAtReceipt_ok_iff hw.answered

/-- The proof is recalled. -/
theorem noteRecalls_yields :
    Yields sha256 (fun host => F host ∧ host = h) (note .recalls) fun _ host =>
      F host ∧ host = h := by
  rintro w ⟨hw, hfact⟩
  refine ⟨⟨hw.steady, hw.sound, hw.linked, ?_⟩, hfact⟩
  refine Iff.and ?_ hw.answered
  exact hw.sound.readCommittedActivationOutcome_ok_iff.trans (not_congr hw.linked).symm

/-- An outcome that is read is about an activation of the host. -/
theorem readActivationReadyReceipt_yields (hF : Undisturbed F) :
    Yields sha256 F (readActivationReadyReceipt sha256) fun result host =>
      (result = none ∨ F host) ∧ ∀ outcome, result = some outcome → outcome.Of host := by
  refine (looks_yields hF).bind fun h => noteReads_yields.bind fun _ => ?_
  refine Yields.lift_bind fun look hlook => ?_
  cases look with
  | nothing => exact Yields.pure fun _ _ => ⟨.inl rfl, nofun⟩
  | superseded =>
    refine (yields_of_preserves kept_clearActivationReadyReceipt).bind fun _ => ?_
    exact Yields.pure fun _ _ => ⟨.inl rfl, nofun⟩
  | accepted outcome =>
    intro w hw
    refine ⟨hw.1, .inr hw.2.1.1, fun other hother => ?_⟩
    rw [← Option.some.inj hother]
    have hlook' : Host.lookAtReceipt sha256 w.host = .ok (.accepted outcome) := by
      rw [hw.2.2]
      exact hlook
    exact hw.1.sound.accepted hlook'

theorem findOutcome_yields :
    Yields sha256 (fun _ => True) (findOutcome sha256) fun result host =>
      ∀ outcome, result = some outcome → outcome.Of host := by
  refine (readActivationReadyReceipt_yields undisturbed_true).bind fun result => ?_
  cases result with
  | some outcome =>
    intro w hw
    refine ⟨⟨hw.1.steady, hw.1.sound, hw.1.linked, hw.1.answered⟩, fun other hother => ?_⟩
    rw [← Option.some.inj hother]
    exact hw.2.2 outcome rfl
  | none =>
    refine Yields.pre (G := fun _ => True) ?_ fun _ _ => trivial
    refine (looks_yields undisturbed_true).bind fun h => noteRecalls_yields.bind fun _ => ?_
    refine Yields.lift_bind fun result hresult => ?_
    cases result with
    | none => exact Yields.pure fun _ _ => nofun
    | some outcome =>
      intro w hw
      refine ⟨⟨hw.1.steady, hw.1.sound, hw.1.linked, hw.1.answered⟩, fun other hother => ?_⟩
      rw [← Option.some.inj hother]
      refine hw.1.sound.recalled ?_
      rw [hw.2.2]
      exact hresult

/-! ## Promotion -/

/-- The pointer is set: from now on the promotion is half done if the proof is of another
activation. -/
theorem publishActive_yields {id : String} (hid : id = outcome.receipt.activationId) :
    Yields sha256 outcome.Of (publishActive id) fun _ host =>
      outcome.Of host ∧ host.active = some id := by
  refine writesNoted_yields (undisturbed_outcome outcome) fun w hw hof => ?_
  refine ⟨⟨hw.steady, ?_, Iff.rfl, Iff.and Iff.rfl hw.answered⟩,
    ⟨hof.lookup, hof.candidateTarget, hof.generation, hof.agentPid⟩, rfl⟩
  refine ⟨hw.sound.descriptor, hw.sound.candidate, fun id' hid' => ?_, hw.sound.receipt,
    hw.sound.proof⟩
  rw [← Option.some.inj hid', hid, hof.lookup]
  rfl

theorem promoteCommittedActivation_yields :
    Yields sha256 outcome.Of (promoteCommittedActivation outcome) fun _ _ => True := by
  refine (looks_yields (undisturbed_outcome outcome)).bind fun h => ?_
  refine Yields.okOr_bind fun id _ => Yields.ensure_bind fun htarget => ?_
  refine Yields.ensure_bind fun _ => ?_
  -- The clock and the name of the candidate are those of the look before.
  have hlook : ∀ host : Host, (outcome.Of host ∧ host.now ≠ 0) ∧ host = h →
      outcome.Of host ∧ (h.now ≠ 0 ∧ id = outcome.receipt.activationId) := by
    rintro host ⟨⟨hof, hnow⟩, rfl⟩
    rw [hof.candidateTarget] at htarget
    exact ⟨hof, hnow, target_injective htarget⟩
  refine Yields.pre (Yields.and_pre fun hfacts => ?_) hlook
  obtain ⟨hnow, hid⟩ := hfacts
  have hundisturbed : Undisturbed fun host => outcome.Of host ∧ host.active = some id :=
    (undisturbed_outcome outcome).and (undisturbed_active id)
  refine (publishActive_yields hid).bind fun _ => ?_
  refine writesNoted_yields hundisturbed fun w hw hfact => ⟨⟨hw.steady, ?_, ?_, ?_⟩, trivial⟩
  · refine ⟨hw.sound.descriptor, hw.sound.candidate, hw.sound.active, hw.sound.receipt, .inr ?_⟩
    have hsound := hw.sound.descriptor _ _ hfact.1.lookup
    refine ⟨_, outcome.descriptor, rfl, hfact.1.lookup, rfl, hsound.activationId.symm,
      hfact.1.candidateTarget, hfact.1.generation, rfl, hfact.1.agentPid, rfl, hnow⟩
  · refine iff_of_false (fun h => h) ?_
    rintro ⟨id', proof, hactive, hproof, hne⟩
    apply hne
    have hactive : w.host.active = some id' := hactive
    rw [hfact.2] at hactive
    rw [← File.present.inj hproof, ← Option.some.inj hactive]
    exact hid.symm
  · exact Iff.and Iff.rfl hw.answered

theorem reportCommitted_yields {state : SyncState} :
    Yields sha256 outcome.Of (reportCommitted sha256 state outcome) fun _ _ => True := by
  refine (readActivationReadyReceipt_yields (undisturbed_outcome outcome)).bind fun again => ?_
  refine Yields.bind (Q := fun _ _ => True) ?_ fun _ => ?_
  · cases again with
    | none => exact Yields.pure fun _ _ => trivial
    | some other =>
      refine Yields.pre promoteCommittedActivation_yields fun host hfact => ?_
      exact hfact.1.resolve_left nofun
  · exact yields_of_preserves (unseen_kept.reportActivationStatus.bind fun _ => .pure _)

theorem kept_consumeOutcome {state : SyncState} :
    Preserves (Kept sha256) (consumeOutcome sha256 state) := by
  refine Preserves.ite (Yields.preserves (Q := fun _ _ => True) ?_) (.pure _)
  refine findOutcome_yields.bind fun result => ?_
  cases result with
  | none => exact Yields.pure fun _ _ => trivial
  | some outcome =>
    refine Yields.ite (fun _ => ?_) fun _ => Yields.pure fun _ _ => trivial
    refine Yields.bind (Q := fun _ _ => True) ?_ fun state => ?_
    · refine Yields.pre (G := outcome.Of) ?_ fun _ hof => hof outcome rfl
      refine Yields.ite (fun _ => reportCommitted_yields) fun _ => ?_
      exact yields_of_preserves unseen_kept.reportRejected
    · refine yields_of_preserves (kept_clearActivationReadyReceipt.bind fun _ => ?_)
      exact unseen_kept.persist.bind fun _ => .pure _

/-! ## The answers of Cloud -/

/-- The descriptor that is put together for a delivery is valid. -/
theorem Delivery.Genuine.descriptor {d : Delivery} (hd : d.Genuine) (hform : d.wellFormed = true)
    {etag role : String} (hetag : etag = etagOf d.digest)
    (hrole : role = "client_sdwan" ∨ role = "server") :
    (d.descriptor etag role).Sound d.activationId := by
  have hsegment := Nat.pos_of_ne_zero (hd.segmentGeneration hform)
  have hprojection := Nat.pos_of_ne_zero (hd.projectionGeneration hform)
  refine ⟨hd.activationId, rfl, ?_⟩
  simp [Host.validActiveDescriptor, Delivery.descriptor, hd.digest, hd.contentHash hform, hetag,
    hsegment, hprojection, hrole, hd.grants]

theorem kept_publishActivation {d : Delivery} (hd : d.Genuine) (hform : d.wellFormed = true)
    {etag role : String} (hetag : etag = etagOf d.digest)
    (hrole : role = "client_sdwan" ∨ role = "server") :
    Preserves (Kept sha256) (publishActivation d etag role) := by
  refine Yields.preserves (Q := fun _ _ => True) (Yields.ensure_bind fun _ => ?_)
  refine (looks_yields undisturbed_true).bind fun h => ?_
  have hpublish : ∀ descriptor, Yields sha256
      (fun host => host.activations.lookup d.activationId = some descriptor)
      (publishCandidate d.activationId) fun _ _ => True :=
    fun descriptor => writes_yields (undisturbed_lookup _ _) change_candidate
  by_cases hfree : h.activations.lookup d.activationId = none
  · rw [when, if_pos hfree]
    refine Yields.pre (G := fun host => host.activations.lookup d.activationId = none) ?_ ?_
    · refine Yields.bind (Q := fun _ host =>
        host.activations.lookup d.activationId = some (d.descriptor etag role)) ?_ fun _ => hpublish _
      exact writes_yields (undisturbed_missing _)
        (change_activations (hd.descriptor hform hetag hrole))
    · rintro host ⟨_, rfl⟩
      exact hfree
  · -- The activation is there already, and is used as it is.
    obtain ⟨descriptor, hdescriptor⟩ := Option.ne_none_iff_exists'.mp hfree
    rw [when, if_neg hfree]
    refine Yields.pre (G := fun host =>
      host.activations.lookup d.activationId = some descriptor) ?_ ?_
    · exact Yields.bind (Yields.pure fun _ hhost => hhost) fun _ => hpublish descriptor
    · rintro host ⟨_, rfl⟩
      exact hdescriptor

/-! ## Runs -/

/-- Every part of an invocation keeps what is kept. -/
theorem upheld_kept : Upheld sha256 Delivery.Genuine (Kept sha256) where
  toMaintained := unseen_kept.toMaintained
  answer := Triple.conseq (moment_yields undisturbed_true) (fun _ hw => ⟨hw, trivial⟩)
    (fun _ _ hw => ⟨hw.1, hw.2.1.answer⟩) (fun _ _ hw => hw) fun _ hw => hw
  consumeOutcome := kept_consumeOutcome
  report _ := unseen_kept.reportConfigurationStatusFields
  handleNotModified hagain := unseen_kept.handleNotModified hagain
  publishActivation hd hform hetag hrole := kept_publishActivation hd hform hetag hrole

theorem begins_kept (w : World) (hw : Kept sha256 w) : Kept sha256 { w with ops := .begins :: w.ops } :=
  ⟨hw.steady, hw.sound, hw.linked, (and_iff_right trivial).trans (hw.answered.trans
    (and_iff_right trivial).symm)⟩

theorem start_kept {host : Host} (hhost : host.Fresh) {moments : ℕ → Moment}
    (hmoments : ∀ n, (moments n).Steady) : Kept sha256 (World.start host moments) where
  steady := hmoments
  sound := hhost.sound
  linked := by
    refine iff_of_false (fun h => h) ?_
    rintro ⟨id, proof, hactive, _⟩
    have hactive : host.active = some id := hactive
    rw [hhost.active] at hactive
    cases hactive
  answered := Iff.rfl

/-- On a host that begins with an empty state directory, and on which only the synchronizer and
agents change it, all reads of the receipt and of the proof succeed exactly if each of them finds the
processes of the receipt identified and no promotion interrupted. -/
theorem reads_answer_iff (sha256 : String → String) (host : Host) (hhost : host.Fresh)
    (moments : ℕ → Moment) (hmoments : ∀ n, (moments n).Steady) (invocations : List Args) :
    Always (Answers sha256) ((World.start host moments).runs sha256 invocations).ops
      ↔ Always Finished ((World.start host moments).runs sha256 invocations).ops :=
  (upheld_kept.runs begins_kept (start_kept hhost hmoments)).answered

/-! ### A promotion that is killed after the pointer -/

namespace Halfway

/-- The digest of the second delivery, and the name of its activation. -/
def digest : String := "ffeeddccbbaa99887766554433221100ffeeddccbbaa99887766554433221100"

/-- A second delivery, with grants that expire at 2000. -/
def delivery : Delivery :=
  { Pending.delivery with
    etag := some (etagOf digest)
    digest
    activationId := digest
    grantRefreshAfterUnix := 1500
    grantExpiresAtUnix := 2000 }

/-- The agent commits each of the two activations as soon as it is the candidate; then time
passes, and the grants of the second one expire. -/
def others (n : ℕ) : Host → Host :=
  if n = 11 then Pending.commits Pending.digest
  else if n = 30 then Pending.commits digest
  else if n < 35 then fun h => { h with now := 1000 }
  else fun h => { h with now := 3000 }

/-- The synchronizer is killed in the third invocation, after the pointer and before the proof. -/
def moments (n : ℕ) : Moment where
  others := others n
  ready := true
  serverDigest := none
  write := if n = 34 then .killed false else .done
  reply := .noContent
  answer := if n = 2 then .ok Pending.delivery else .ok delivery

/-- Time passes. -/
theorem passes_others (h : Host) (now : ℕ) : h.Others { h with now := now + 1 } :=
  ⟨rfl, rfl, rfl, rfl, rfl, .inl rfl, Nat.succ_ne_zero now⟩

theorem commits_others (id : String) (h : Host) : h.Others (Pending.commits id h) := by
  unfold Pending.commits
  split
  · exact passes_others h 999
  next d hlookup =>
    split_ifs with hname
    · refine ⟨rfl, rfl, rfl, rfl, rfl, .inr (.inr ⟨Pending.receipt d, d, rfl, ?_, ?_⟩),
        Nat.succ_ne_zero 999⟩
      · show h.activations.lookup d.activationId = some d
        rw [hname]
        exact hlookup
      · refine ⟨rfl, rfl, rfl, rfl, Nat.succ_ne_zero 99, ⟨.inl rfl, rfl⟩, fun proof hproof => ?_⟩
        rw [← Option.some.inj hproof]
        decide
    · exact passes_others h 999

theorem moments_steady (n : ℕ) : (moments n).Steady where
  others h := by
    show h.Others (others n h)
    unfold others
    split_ifs
    · exact commits_others _ h
    · exact commits_others _ h
    · exact passes_others h 999
    · exact passes_others h 2999
  answer d hd := by
    have hanswer : (if n = 2 then Answer.ok Pending.delivery else .ok delivery) = .ok d := hd
    split_ifs at hanswer <;> cases hanswer
    · refine ⟨?_, ?_, fun _ => ?_, nofun, nofun, by decide⟩ <;> decide
    · refine ⟨?_, ?_, fun _ => ?_, nofun, nofun, by decide⟩ <;> decide

/-- Invocations on a client. -/
def run (invocations : ℕ) : World :=
  (World.start Pending.host moments).runs id (List.replicate invocations ⟨false⟩)

end Halfway

/-- The reads of this run succeed exactly as far as no promotion is interrupted. -/
theorem halfway_reads_answer_iff : Pending.host.Fresh ∧ (∀ n, (Halfway.moments n).Steady)
    ∧ (Always (Answers id) (Halfway.run 5).ops ↔ Always Finished (Halfway.run 5).ops) := by
  have hfresh : Pending.host.Fresh := ⟨rfl, rfl, rfl, rfl, rfl, rfl⟩
  exact ⟨hfresh, Halfway.moments_steady,
    reads_answer_iff id _ hfresh _ Halfway.moments_steady _⟩

/-- A promotion that is killed between the pointer and the proof: once the grants have expired, the
proof of the activation before is an error for the next invocation. -/
theorem halfway_wedged : ¬ Always (Answers id) (Halfway.run 4).ops := by
  decide +kernel

end CandyRuntime.CloudSync.Sync
