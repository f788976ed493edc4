import CandyRuntime.CloudEnroll.Runs
import CandyRuntime.Lib.Success

/-!
# Which enrollments can be resumed

A transaction is pending from its state file to its identity, with at most one challenge and at most one
device at Cloud. One walk through `run` says how it ends from there: it is refused only because of a
disturbance, or because what Cloud has recorded is too old; and then every later run is refused too.
-/

namespace CandyRuntime.CloudEnroll

open Lib Lib.Proc

variable {state : EnrollmentState} {issued : Option Challenge} {done : Option CompleteResponse}
  {v : World}
variable {c : Codec} {a : Answers}
variable {completed : CompleteResponse} {w' : World} {E : String → World → Prop}
  {P : World → Prop} {C : World → Prop} {α : Type}

/-! ## States between runs -/

/-- The files of a device, without the document that names it. -/
structure Installed (completed : CompleteResponse) (files : Files) : Prop where
  certificateDer : files.certificateDer = some completed.certificate
  certificatePem : files.certificatePem = some completed.certificate
  chain : files.chain = some completed.certificateChainPem
  mtls : ∃ key, files.operationalKey = some key
    ∧ files.mtls = some ⟨completed.certificate, completed.certificateChainPem, key⟩

/-- A device that Cloud has made for the operational key of a transaction. -/
structure Certified (state : EnrollmentState) (completed : CompleteResponse) : Prop where
  publicKey : completed.certificate.publicKey = state.operationalPublicKey
  deviceId : completed.certificate.deviceId = completed.deviceId
  deviceKeyId : completed.certificate.deviceKeyId = completed.deviceKeyId
  chain : validPemChain completed.certificateChainPem = true

/-- A pending transaction, with the challenge and the device that Cloud has recorded for it. -/
structure Pending (c : Codec) (state : EnrollmentState) (issued : Option Challenge)
    (done : Option CompleteResponse) (w : World) : Prop where
  file : w.files.state = some state
  keys : KeysMatch c w.files state
  installationId : w.files.installationId = some state.enrollmentInstanceId
  validId : validInstallationInstanceId state.enrollmentInstanceId = true
  challenges : w.cloud.challenges = issued.toList.map fun challenge =>
    (state.challengeRequestId, ⟨challenge, state.operationalPublicKey⟩)
  completions : w.cloud.completions = done.toList.map fun completed =>
    (state.completionRequestId, completed)
  nonce : ∀ challenge, issued = some challenge → c.isBase64UrlOf32 challenge.serverNonce = true
  persisted : ∀ challenge, state.challenge = some challenge → issued = some challenge
  obtained : ∀ completed, done = some completed → state.challenge ≠ none
  certified : ∀ completed, done = some completed → Certified state completed
  identity : ∀ identity, w.files.identity = some identity → ∃ completed, done = some completed
    ∧ Installed completed w.files ∧ identity.deviceId = completed.deviceId
    ∧ identity.deviceKeyId = completed.deviceKeyId

/-- The transaction is over, and its device is installed. -/
structure Ended (c : Codec) (w : World) : Prop where
  state : w.files.state = none
  identity : ∃ identity, w.files.identity = some identity ∧ BelongsTo c w.files identity
  oneDevice : w.cloud.completions.length ≤ 1

/-- What holds between runs. -/
def Invariant (c : Codec) (w : World) : Prop :=
  Start w ∨ (∃ state issued done, Pending c state issued done w) ∨ Ended c w

/-- What a run can make of a transaction. -/
def Progress (c : Codec) (state : EnrollmentState) (w : World) : Prop :=
  (∃ state' issued done, SameTransaction state state' ∧ Pending c state' issued done w) ∨ Ended c w

theorem SameTransaction.refl (state : EnrollmentState) : SameTransaction state state :=
  ⟨rfl, rfl, rfl, rfl, rfl, rfl⟩

theorem SameTransaction.trans {first second third : EnrollmentState} (h : SameTransaction first second)
    (h' : SameTransaction second third) : SameTransaction first third :=
  ⟨h'.1.trans h.1, h'.2.trans h.2, h'.3.trans h.3, h'.4.trans h.4, h'.5.trans h.5, h'.6.trans h.6⟩

/-- What Cloud has recorded is too old for a run. -/
def Late (a : Answers) (issued : Option Challenge) (done : Option CompleteResponse) : Prop :=
  (done = none ∧ ∃ challenge, issued = some challenge ∧ challenge.expiresAt ≤ a.completedAt)
    ∨ ∃ completed, done = some completed ∧ completed.certificate.notAfter < a.checkedAt

/-! ## Changes and requests -/

/-- A change of the files: a failure leaves the old files or the new ones, and it is a disturbance. -/
theorem change_triple {place : Change} {f : Files → Files} {P Q : World → Prop}
    (h : ∀ w, P w → Q { w with files := f w.files }) :
    Triple P (change a place f) (fun _ => Q) (fun _ w => (P w ∨ Q w) ∧ ¬ Undisturbed a v)
      fun w => (P w ∨ Q w) ∧ ¬ Undisturbed a v := by
  intro w hw
  unfold change wp durable
  cases hplace : a.changes place with
  | done => exact h w hw
  | failed landed =>
    have hdisturbed : ¬ Undisturbed a v := fun hundisturbed => by
      rw [hundisturbed.changes place] at hplace
      cases hplace
    cases landed with
    | true => exact ⟨.inr (h w hw), hdisturbed⟩
    | false => exact ⟨.inl hw, hdisturbed⟩
  | killed landed =>
    have hdisturbed : ¬ Undisturbed a v := fun hundisturbed => by
      rw [hundisturbed.changes place] at hplace
      cases hplace
    cases landed with
    | true => exact ⟨.inr (h w hw), hdisturbed⟩
    | false => exact ⟨.inl hw, hdisturbed⟩

/-- A change, and what follows it. -/
theorem change_bind {place : Change} {f : Files → Files} {P Q : World → Prop}
    {k : Unit → Proc World String α} {R : α → World → Prop} {F : World → Prop}
    (h : ∀ w, P w → Q { w with files := f w.files })
    (hF : ∀ w, P w ∨ Q w → ¬ Undisturbed a v → F w) (hk : Triple Q (k ()) R (fun _ => F) F) :
    Triple P (change a place f >>= k) R (fun _ => F) F :=
  Triple.bind (Triple.conseq (change_triple (v := v) h) (fun _ hw => hw) (fun _ _ hw => hw)
    (fun _ w hw => hF w hw.1 hw.2) fun w hw => hF w hw.1 hw.2) fun _ => hk

/-- A request: Cloud refuses it, or it has recorded its answer, or the request has not reached it. -/
theorem post_triple {P F : World → Prop} {Q : α → World → Prop} {request : Write} {error : String}
    {answer : Cloud → Option (α × Cloud)}
    (hanswer : ∀ w, P w → ∀ value cloud, answer w.cloud = some (value, cloud) →
      Q value { w with cloud }) (hrefused : ∀ w, P w → answer w.cloud = none → F w)
    (hF : ∀ w, P w → request ≠ .done → F w) (hF' : ∀ value w, Q value w → request ≠ .done → F w) :
    Triple P (post request error answer) Q (fun _ => F) F := by
  intro w hw
  unfold post
  rw [wp_bind, wp_get]
  cases hcloud : answer w.cloud with
  | none =>
    have hnone := hrefused w hw hcloud
    unfold durable wp
    cases request with
    | done => exact hnone
    | failed landed => cases landed <;> exact hnone
    | killed landed => cases landed <;> exact hnone
  | some result =>
    obtain ⟨value, cloud⟩ := result
    have hnew := hanswer w hw value cloud hcloud
    unfold durable wp
    cases request with
    | done => exact hnew
    | failed landed =>
      cases landed with
      | true => exact hF' value _ hnew (fun h => by cases h)
      | false => exact hF w hw (fun h => by cases h)
    | killed landed =>
      cases landed with
      | true => exact hF' value _ hnew (fun h => by cases h)
      | false => exact hF w hw (fun h => by cases h)

/-- A request that Cloud has answered without a record. -/
theorem exchange_triple :
    Triple P (durable a.exchange "bootstrap exchange failed" id) (fun _ => P)
      (fun _ w => P w ∧ ¬ Undisturbed a v) fun w => P w ∧ ¬ Undisturbed a v := by
  have hdisturbed : a.exchange ≠ .done → ¬ Undisturbed a v := fun h hundisturbed =>
    h hundisturbed.exchange
  intro w hw
  unfold durable wp
  cases hexchange : a.exchange with
  | done => exact hw
  | failed landed =>
    have hlost := hdisturbed (by rw [hexchange]; exact fun h => by cases h)
    cases landed <;> exact ⟨hw, hlost⟩
  | killed landed =>
    have hlost := hdisturbed (by rw [hexchange]; exact fun h => by cases h)
    cases landed <;> exact ⟨hw, hlost⟩

theorem check_bind {cond : Prop} [Decidable cond] {e : String} {f : Unit → Proc World String α}
    {R : α → World → Prop} (hf : cond → Triple P (f ()) R E C) (he : ¬ cond → ∀ w, P w → E e w) :
    Triple P (ensure cond e >>= f) R E C := by
  intro w hw
  rw [wp_bind, wp_ensure]
  exact ⟨fun hcond => hf hcond w hw, fun hcond => he hcond w hw⟩

theorem okOr_bind {α β : Type} {o : Option α} {e : String} {f : α → Proc World String β}
    {R : β → World → Prop} (hf : ∀ a, o = some a → Triple P (f a) R E C)
    (he : o = none → ∀ w, P w → E e w) : Triple P (okOr o e >>= f) R E C := by
  cases o with
  | none => exact fun w hw => he rfl w hw
  | some a => exact hf a rfl

theorem get_bind {f : World → Proc World String α} {R : α → World → Prop}
    (h : ∀ w, P w → Triple (fun w' => P w' ∧ w' = w) (f w) R E C) : Triple P (get >>= f) R E C := by
  intro w hw
  rw [wp_bind, wp_get]
  exact h w hw w ⟨hw, rfl⟩

/-! ## The transaction is opened -/

/-- A pending transaction is taken up as it is. -/
theorem resume_triple (h₀ : v.files.state = some state) {document : BootstrapDocument}
    (hdocument : a.bootstrap = some document) :
    Triple (Pending c state issued done) (resume a document state)
      (fun state' w => state' = state ∧ Pending c state issued done w)
      (fun _ w => Pending c state issued done w ∧ ¬ Undisturbed a v)
      fun w => Pending c state issued done w ∧ ¬ Undisturbed a v := by
  refine Triple.bind (Q := fun _ => Pending c state issued done) ?_ fun _ => ?_
  · intro w hw
    unfold persistInstallationInstanceId
    rw [wp_bind, wp_ensure]
    refine ⟨fun _ => ?_, fun hvalid => absurd hw.validId hvalid⟩
    rw [wp_bind, wp_get, hw.installationId]
    show wp _ _ _ _ w
    rw [wp_bind, wp_ensure]
    refine ⟨fun _ => ?_, fun hvalid => absurd hw.validId hvalid⟩
    rw [wp_ensure]
    exact ⟨fun _ => hw, fun hsame => absurd rfl hsame⟩
  · intro w hw
    rw [wp_bind, wp_ensure]
    refine ⟨fun _ => ⟨rfl, hw⟩, fun hother => ⟨hw, fun hundisturbed => hother ?_⟩⟩
    obtain ⟨document', hdocument', haddress⟩ := hundisturbed.bootstrap
    obtain rfl := Option.some.inj (hdocument.symm.trans hdocument')
    exact haddress state h₀

/-- The key files and the installation id of a transaction that begins. -/
structure Prepared (a : Answers) (instanceId : String) (w : World) : Prop where
  start : Start w
  rootKey : w.files.rootKey = some a.rootKey
  operationalKey : w.files.operationalKey = some a.operationalKey
  installationId : w.files.installationId = some instanceId
  validId : validInstallationInstanceId instanceId = true

/-- Nothing has been written that a later run would keep, or the new transaction is pending. -/
def Opening (c : Codec) (w : World) : Prop := Start w ∨ ∃ state, Pending c state none none w

theorem loadOrCreate_triple :
    Triple (fun w => Start w ∧ w.files.rootKey = some a.rootKey
        ∧ w.files.operationalKey = some a.operationalKey)
      (loadOrCreateInstallationInstanceId a) (fun instanceId => Prepared a instanceId)
      (fun _ w => Opening c w ∧ ¬ Undisturbed a v) fun w => Opening c w ∧ ¬ Undisturbed a v := by
  refine get_bind fun w hw => ?_
  cases hid : w.files.installationId with
  | some persisted =>
    rintro w' ⟨⟨hstart, hroot, hoperational⟩, rfl⟩
    have hvalid := hstart.installationId persisted hid
    rw [wp_bind, wp_ensure]
    exact ⟨fun _ => ⟨hstart, hroot, hoperational, hid, hvalid⟩, fun h => absurd hvalid h⟩
  | none =>
    refine change_bind (v := v) (Q := Prepared a a.instanceId.val) ?_ ?_ ?_
    · rintro w' ⟨⟨hstart, hroot, hoperational⟩, rfl⟩
      refine ⟨⟨hstart.state, hstart.identity, fun value hvalue => ?_, hstart.cloud⟩, hroot,
        hoperational, rfl, a.instanceId.property⟩
      obtain rfl := Option.some.inj hvalue
      exact a.instanceId.property
    · rintro w' (⟨⟨hstart, _⟩, _⟩ | hprepared) hdisturbed
      · exact ⟨.inl hstart, hdisturbed⟩
      · exact ⟨.inl hprepared.start, hdisturbed⟩
    · exact Triple.pure fun _ hw => hw

/-- The keys are written before the state, so a state file always has its keys. -/
theorem create_triple (document : BootstrapDocument) :
    Triple Start (create c a document) (fun state w => Pending c state none none w)
      (fun _ w => Opening c w ∧ ¬ Undisturbed a v) fun w => Opening c w ∧ ¬ Undisturbed a v := by
  refine check_bind (fun _ => ?_) fun hname w hw =>
    ⟨.inl hw, fun hundisturbed => hname hundisturbed.displayName⟩
  refine change_bind (v := v) (Q := fun w => Start w ∧ w.files.rootKey = some a.rootKey) ?_ ?_ ?_
  · exact fun w hw => ⟨⟨hw.state, hw.identity, hw.installationId, hw.cloud⟩, rfl⟩
  · exact fun w hw hdisturbed => ⟨.inl (hw.elim id And.left), hdisturbed⟩
  refine change_bind (v := v) (Q := fun w => Start w ∧ w.files.rootKey = some a.rootKey
    ∧ w.files.operationalKey = some a.operationalKey) ?_ ?_ ?_
  · exact fun w hw =>
      ⟨⟨hw.1.state, hw.1.identity, hw.1.installationId, hw.1.cloud⟩, hw.2, rfl⟩
  · exact fun w hw hdisturbed => ⟨.inl (hw.elim And.left And.left), hdisturbed⟩
  refine Triple.bind loadOrCreate_triple fun instanceId => ?_
  refine change_bind (v := v) (Q := fun w => Pending c _ none none w) ?_ ?_
    (Triple.pure fun _ hw => hw)
  · exact fun w hw =>
      { file := rfl
        keys := ⟨a.rootKey, a.operationalKey, hw.rootKey, hw.operationalKey, rfl, rfl⟩
        installationId := hw.installationId
        validId := hw.validId
        challenges := by
          rw [hw.start.cloud]
          rfl
        completions := by
          rw [hw.start.cloud]
          rfl
        nonce := fun _ h => by cases h
        persisted := fun _ h => by cases h
        obtained := fun _ h => by cases h
        certified := fun _ h => by cases h
        identity := fun identity h => by
          have hnone : w.files.identity = none := hw.start.identity
          rw [hnone] at h
          cases h }
  · exact fun w hw hdisturbed =>
      ⟨hw.elim (fun h => .inl h.start) fun h => .inr ⟨_, h⟩, hdisturbed⟩

/-- The checks after the transaction is opened. -/
theorem checks_triple :
    Triple (Pending c state issued done) (checkTransaction c a state)
      (fun state' w => state' = state ∧ Pending c state issued done w)
      (fun _ w => Pending c state issued done w ∧ ¬ Undisturbed a v)
      fun w => Pending c state issued done w ∧ ¬ Undisturbed a v := by
  refine get_bind fun w hw => ?_
  obtain ⟨root, operational, hroot, hoperational, hrootKey, hoperationalKey⟩ := hw.keys
  rw [hroot, hoperational]
  refine check_bind (fun _ => ?_) fun h => absurd hrootKey h
  refine check_bind (fun _ => ?_) fun h => absurd hoperationalKey h
  refine check_bind (fun _ => ?_) fun h => absurd hw.validId h
  refine check_bind (fun _ => Triple.pure fun w' hw' => ⟨rfl, hw'.1⟩) fun hclient w' hw' =>
    ⟨hw'.1, fun hundisturbed => hclient hundisturbed.client⟩

theorem openTransaction_of_pending (h₀ : v.files.state = some state) :
    Triple (Pending c state issued done) (openTransaction c a)
      (fun state' w => state' = state ∧ Pending c state issued done w)
      (fun _ w => Pending c state issued done w ∧ ¬ Undisturbed a v)
      fun w => Pending c state issued done w ∧ ¬ Undisturbed a v := by
  refine okOr_bind (fun document hdocument => ?_) fun hnone w hw => ⟨hw, fun hundisturbed => ?_⟩
  · refine check_bind (fun _ => ?_) fun hdir w hw =>
      ⟨hw, fun hundisturbed => hdir hundisturbed.stateDir⟩
    refine get_bind fun w hw => ?_
    rw [hw.file]
    refine check_bind (fun _ => ?_) fun h => absurd (fun hregistered => by cases hregistered.1) h
    refine Triple.bind (Triple.pre (resume_triple h₀ hdocument) fun _ hw' => hw'.1) fun state' => ?_
    rintro w' ⟨rfl, hw'⟩
    exact checks_triple w' hw'
  · obtain ⟨document, hdocument, _⟩ := hundisturbed.bootstrap
    rw [hnone] at hdocument
    cases hdocument

theorem openTransaction_of_start :
    Triple Start (openTransaction c a) (fun state w => Pending c state none none w)
      (fun _ w => Opening c w ∧ ¬ Undisturbed a v) fun w => Opening c w ∧ ¬ Undisturbed a v := by
  refine okOr_bind (fun document hdocument => ?_) fun hnone w hw => ⟨.inl hw, fun hundisturbed => ?_⟩
  · refine check_bind (fun _ => ?_) fun hdir w hw =>
      ⟨.inl hw, fun hundisturbed => hdir hundisturbed.stateDir⟩
    refine get_bind fun w hw => ?_
    rw [hw.state, hw.identity]
    refine check_bind (fun _ => ?_) fun h => absurd (fun hregistered => by cases hregistered.2) h
    refine Triple.bind (Triple.pre (create_triple document) fun _ hw' => hw'.1) fun state => ?_
    refine Triple.conseq (checks_triple (v := v)) (fun _ hw' => hw') ?_ ?_ ?_
    · rintro state' w' ⟨rfl, hw'⟩
      exact hw'
    · exact fun _ w' hw' => ⟨.inr ⟨state, hw'.1⟩, hw'.2⟩
    · exact fun w' hw' => ⟨.inr ⟨state, hw'.1⟩, hw'.2⟩
  · obtain ⟨document, hdocument, _⟩ := hundisturbed.bootstrap
    rw [hnone] at hdocument
    cases hdocument

/-! ## The challenge -/

/-- The transaction is still pending, with the challenge and the device that it had, and with no new
device if what Cloud had recorded was too old. -/
def Held (c : Codec) (a : Answers) (state : EnrollmentState) (issued : Option Challenge)
    (done : Option CompleteResponse) (w : World) : Prop :=
  ∃ state' issued' done', SameTransaction state state' ∧ Pending c state' issued' done' w
    ∧ (∀ challenge, issued = some challenge → issued' = issued)
    ∧ (∀ completed, done = some completed → done' = done) ∧ (Late a issued done → done' = done)

theorem Pending.held {w : World} (h : Pending c state issued done w) :
    Held c a state issued done w :=
  ⟨state, issued, done, SameTransaction.refl state, h, fun _ _ => rfl, fun _ _ => rfl, fun _ => rfl⟩

/-- Cloud has one challenge for a transaction: the first one. -/
theorem issue_triple (hnonce : c.isBase64UrlOf32 a.challenge.serverNonce = true)
    (hnone : state.challenge = none) :
    Triple (Pending c state issued none)
      (post a.challengeRequest "Cloud enrollment request failed" fun cloud =>
        some (cloud.issue state.challengeRequestId state.operationalPublicKey a.challenge))
      (fun challenge w => Pending c state (some challenge) none w
        ∧ (∀ old, issued = some old → challenge = old) ∧ (issued = none → challenge = a.challenge))
      (fun _ w => Held c a state issued none w ∧ ¬ Undisturbed a v)
      fun w => Held c a state issued none w ∧ ¬ Undisturbed a v := by
  have hdisturbed : a.challengeRequest ≠ .done → ¬ Undisturbed a v := fun h hundisturbed =>
    h hundisturbed.challengeRequest
  refine post_triple ?_ ?_ ?_ ?_
  · intro w hw challenge cloud hcloud
    have hissue := Option.some.inj hcloud
    unfold Cloud.issue at hissue
    rw [hw.challenges] at hissue
    cases issued with
    | some old =>
      have hlookup : ((some old).toList.map fun challenge : Challenge =>
          (state.challengeRequestId, (⟨challenge, state.operationalPublicKey⟩ : Issued))).lookup
          state.challengeRequestId = some ⟨old, state.operationalPublicKey⟩ := by
        simp
      rw [hlookup] at hissue
      obtain ⟨rfl, rfl⟩ := Prod.mk.inj hissue
      exact ⟨hw, fun _ h => Option.some.inj h, fun h => by cases h⟩
    | none =>
      obtain ⟨rfl, rfl⟩ := Prod.mk.inj hissue
      refine ⟨?_, (fun _ h => by cases h), fun _ => rfl⟩
      exact
        { hw with
          challenges := rfl
          nonce := fun challenge h => by
            obtain rfl := Option.some.inj h
            exact hnonce
          persisted := fun challenge h => by
            rw [hnone] at h
            cases h }
  · intro w _ h
    cases h
  · exact fun w hw h => ⟨hw.held, hdisturbed h⟩
  · intro challenge w hw h
    refine ⟨⟨state, some challenge, none, SameTransaction.refl state, hw.1, ?_, (fun _ _ => rfl),
      fun _ => rfl⟩, hdisturbed h⟩
    intro old hold
    rw [hold, hw.2.1 old hold]

/-- A pending transaction with other contents of its state. -/
theorem Pending.rewrite {state state' : EnrollmentState} {w : World}
    (h : Pending c state issued done w) (hsame : SameTransaction state state')
    (hpersisted : ∀ challenge, state'.challenge = some challenge → issued = some challenge)
    (hobtained : ∀ completed, done = some completed → state'.challenge ≠ none) :
    Pending c state' issued done { w with files := { w.files with state := some state' } } where
  file := rfl
  keys := by
    obtain ⟨root, operational, hroot, hoperational, hrootKey, hoperationalKey⟩ := h.keys
    exact ⟨root, operational, hroot, hoperational, hrootKey.trans hsame.rootPublicKey.symm,
      hoperationalKey.trans hsame.operationalPublicKey.symm⟩
  installationId := by
    rw [hsame.enrollmentInstanceId]
    exact h.installationId
  validId := by
    rw [hsame.enrollmentInstanceId]
    exact h.validId
  challenges := by
    rw [hsame.challengeRequestId, hsame.operationalPublicKey]
    exact h.challenges
  completions := by
    rw [hsame.completionRequestId]
    exact h.completions
  nonce := h.nonce
  persisted := hpersisted
  obtained := hobtained
  certified := fun completed hdone => by
    have hold := h.certified completed hdone
    exact ⟨hold.publicKey.trans hsame.operationalPublicKey.symm, hold.deviceId, hold.deviceKeyId,
      hold.chain⟩
  identity := fun identity hidentity => by
    obtain ⟨completed, hdone, hinstalled, hids⟩ := h.identity identity hidentity
    exact ⟨completed, hdone, ⟨hinstalled.1, hinstalled.2, hinstalled.3, hinstalled.4⟩, hids⟩

theorem Held.of_same {state state' : EnrollmentState} {w : World}
    (hsame : SameTransaction state state') (h : Held c a state' issued done w) :
    Held c a state issued done w := by
  obtain ⟨next, issued', done', hnext, hpending, hissued, hdone, hlate⟩ := h
  exact ⟨next, issued', done', hsame.trans hnext, hpending, hissued, hdone, hlate⟩

/-- The run has a challenge; if there was one already it is that one. -/
structure Challenged (c : Codec) (a : Answers) (state : EnrollmentState) (issued : Option Challenge)
    (done : Option CompleteResponse) (state' : EnrollmentState) (challenge : Challenge) (w : World) :
    Prop where
  same : SameTransaction state state'
  pending : Pending c state' (some challenge) done w
  persisted : state'.challenge = some challenge
  old : ∀ challenge', issued = some challenge' → challenge = challenge'
  new : issued = none → challenge = a.challenge

theorem requestChallenge_triple (hnonce : c.isBase64UrlOf32 a.challenge.serverNonce = true)
    (hnone : state.challenge = none) :
    Triple (Pending c state issued none) (requestChallenge c a state)
      (fun result w => Challenged c a state issued none result.1 result.2 w)
      (fun _ w => Held c a state issued none w ∧ ¬ Undisturbed a v)
      fun w => Held c a state issued none w ∧ ¬ Undisturbed a v := by
  refine Triple.bind (Triple.conseq exchange_triple (fun _ hw => hw) (fun _ _ hw => hw)
    (fun _ w hw => ⟨hw.1.held, hw.2⟩) fun w hw => ⟨hw.1.held, hw.2⟩) fun _ => ?_
  refine okOr_bind (fun manifest _ => ?_) fun hmanifest w hw =>
    ⟨hw.held, fun hundisturbed => hundisturbed.manifest hmanifest⟩
  have hsame : SameTransaction state (state.withManifest c manifest) := ⟨rfl, rfl, rfl, rfl, rfl, rfl⟩
  have hstill : (state.withManifest c manifest).challenge = none := hnone
  refine change_bind (v := v) (Q := Pending c (state.withManifest c manifest) issued none)
    (fun w hw => hw.rewrite hsame (fun _ h => ?_) fun _ h => by cases h) ?_ ?_
  · rw [hstill] at h
    cases h
  · rintro w (hw | hw) hdisturbed
    · exact ⟨hw.held, hdisturbed⟩
    · exact ⟨hw.held.of_same hsame, hdisturbed⟩
  refine Triple.bind (Triple.conseq (issue_triple (v := v) hnonce hstill) (fun _ hw => hw)
    (fun _ _ hw => hw) (fun _ w hw => ⟨hw.1.of_same hsame, hw.2⟩)
    fun w hw => ⟨hw.1.of_same hsame, hw.2⟩) fun challenge => ?_
  refine check_bind (fun _ => ?_) fun h w hw => absurd (hw.1.nonce challenge rfl) h
  have hlast : SameTransaction state ((state.withManifest c manifest).withChallenge challenge) :=
    ⟨rfl, rfl, rfl, rfl, rfl, rfl⟩
  refine change_bind (v := v) (Q := fun w => Challenged c a state issued none
    ((state.withManifest c manifest).withChallenge challenge) challenge w) (fun w hw => ?_) ?_
    (Triple.pure fun _ hw => hw)
  · exact ⟨hlast, hw.1.rewrite ⟨rfl, rfl, rfl, rfl, rfl, rfl⟩ (fun _ h => h) (fun _ h => by cases h),
      rfl, hw.2.1, hw.2.2⟩
  · rintro w (hw | hw) hdisturbed
    · refine ⟨⟨_, some challenge, none, hsame, hw.1, fun old hold => ?_, (fun _ _ => rfl),
        fun _ => rfl⟩, hdisturbed⟩
      rw [hold, hw.2.1 old hold]
    · refine ⟨⟨_, some challenge, none, hlast, hw.pending, fun old hold => ?_, (fun _ _ => rfl),
        fun _ => rfl⟩, hdisturbed⟩
      rw [hold, hw.old old hold]

theorem obtainChallenge_triple (hnonce : c.isBase64UrlOf32 a.challenge.serverNonce = true) :
    Triple (Pending c state issued done) (obtainChallenge c a state)
      (fun result w => Challenged c a state issued done result.1 result.2 w)
      (fun _ w => Held c a state issued done w ∧ ¬ Undisturbed a v)
      fun w => Held c a state issued done w ∧ ¬ Undisturbed a v := by
  unfold obtainChallenge
  split
  · next challenge hchallenge =>
    refine Triple.pure fun w hw => ?_
    have hissued := hw.persisted challenge hchallenge
    refine ⟨SameTransaction.refl state, ?_, hchallenge, fun old hold => ?_, fun hnone => ?_⟩
    · rw [← hissued]
      exact hw
    · exact Option.some.inj (hissued.symm.trans hold)
    · rw [hissued] at hnone
      cases hnone
  · next hchallenge =>
    -- no device can have been made, as the challenge is persisted before the completion
    cases done with
    | some completed => exact fun w hw => absurd hchallenge (hw.obtained completed rfl)
    | none => exact requestChallenge_triple hnonce hchallenge

/-! ## The device -/

/-- A device that was made in time is not made from an expired challenge. -/
theorem late_keeps {challenge : Challenge} (hold : ∀ old, done = some old → completed = old)
    (hnew : done = none → a.completedAt < challenge.expiresAt)
    (hlate : Late a (some challenge) done) :
    some completed = done := by
  obtain ⟨hnone, _, heq, hexpired⟩ | ⟨old, hdone, _⟩ := hlate
  · obtain rfl := Option.some.inj heq
    exact absurd hexpired (Nat.not_le.mpr (hnew hnone))
  · rw [hdone, hold old hdone]

/-- Cloud makes one device for a transaction, and none from an expired challenge. -/
theorem complete_triple {challenge : Challenge}
    (hchain : validPemChain a.device.certificateChainPem = true)
    (hpersisted : state.challenge = some challenge) :
    Triple (Pending c state (some challenge) done)
      (post a.completeRequest "Cloud enrollment request failed" fun cloud =>
        cloud.complete challenge.challengeId state.completionRequestId a.completedAt a.device)
      (fun completed w => Pending c state (some challenge) (some completed) w
        ∧ (∀ old, done = some old → completed = old)
        ∧ (done = none → completed.certificate.notAfter = a.device.certificateNotAfter
          ∧ a.completedAt < challenge.expiresAt))
      (fun _ w => Held c a state (some challenge) done w
        ∧ (¬ Undisturbed a v ∨ Late a (some challenge) done))
      fun w => Held c a state (some challenge) done w
        ∧ (¬ Undisturbed a v ∨ Late a (some challenge) done) := by
  have hdisturbed : a.completeRequest ≠ .done → ¬ Undisturbed a v := fun h hundisturbed =>
    h hundisturbed.completeRequest
  refine post_triple ?_ ?_ ?_ ?_
  · intro w hw completed cloud hcloud
    unfold Cloud.complete at hcloud
    rw [hw.completions] at hcloud
    cases done with
    | some old =>
      have hlookup : ((some old).toList.map fun completed : CompleteResponse =>
          (state.completionRequestId, completed)).lookup state.completionRequestId = some old := by
        simp
      rw [hlookup] at hcloud
      obtain ⟨rfl, rfl⟩ := Prod.mk.inj (Option.some.inj hcloud)
      exact ⟨hw, fun _ h => Option.some.inj h, fun h => by cases h⟩
    | none =>
      rw [hw.challenges] at hcloud
      simp only [Option.toList_none, List.map_nil, List.lookup_nil, Option.toList_some, List.map_cons,
        List.find?_cons, decide_true, List.nil_append] at hcloud
      by_cases hexpired : challenge.expiresAt ≤ a.completedAt
      · rw [if_pos hexpired] at hcloud
        cases hcloud
      · rw [if_neg hexpired] at hcloud
        obtain ⟨rfl, rfl⟩ := Prod.mk.inj (Option.some.inj hcloud)
        refine ⟨?_, (fun _ h => by cases h), fun _ => ⟨rfl, Nat.lt_of_not_le hexpired⟩⟩
        exact
          { hw with
            challenges := rfl
            completions := rfl
            obtained := fun _ _ h => by
              rw [hpersisted] at h
              cases h
            certified := fun completed h => by
              obtain rfl := Option.some.inj h
              exact ⟨rfl, rfl, rfl, hchain⟩
            identity := fun identity h => by
              obtain ⟨completed, hcompleted, _⟩ := hw.identity identity h
              cases hcompleted }
  · intro w hw hnone
    refine ⟨hw.held, .inr ?_⟩
    unfold Cloud.complete at hnone
    rw [hw.completions] at hnone
    cases done with
    | some old => simp at hnone
    | none =>
      rw [hw.challenges] at hnone
      simp only [Option.toList_none, List.map_nil, List.lookup_nil, Option.toList_some, List.map_cons,
        List.find?_cons, decide_true, List.nil_append] at hnone
      by_cases hexpired : challenge.expiresAt ≤ a.completedAt
      · exact .inl ⟨rfl, challenge, rfl, hexpired⟩
      · rw [if_neg hexpired] at hnone
        cases hnone
  · exact fun w hw h => ⟨hw.held, .inl (hdisturbed h)⟩
  · intro completed w hw h
    refine ⟨⟨state, some challenge, some completed, SameTransaction.refl state, hw.1, fun _ _ => rfl,
      fun old hold => ?_, fun hlate => ?_⟩, .inl (hdisturbed h)⟩
    · rw [hold, hw.2.1 old hold]
    · exact late_keeps hw.2.1 (fun hnone => (hw.2.2 hnone).2) hlate

theorem validDeviceCertificate_iff {certificate : Certificate} {publicKey : String}
    {deviceId deviceKeyId : Uuid} {now : ℕ} :
    validDeviceCertificate certificate publicKey deviceId deviceKeyId now = true
      ↔ certificate.publicKey = publicKey ∧ now ≤ certificate.notAfter
        ∧ certificate.deviceId = deviceId ∧ certificate.deviceKeyId = deviceKeyId := by
  simp [validDeviceCertificate, and_assoc]

/-- The run has its device, and nothing that Cloud has recorded was too old. -/
theorem completeEnrollment_triple {challenge : Challenge}
    (hchain : validPemChain a.device.certificateChainPem = true)
    (hpersisted : state.challenge = some challenge) :
    Triple (Pending c state (some challenge) done) (completeEnrollment a state challenge)
      (fun completed w => Pending c state (some challenge) (some completed) w
        ∧ (∀ old, done = some old → completed = old) ∧ ¬ Late a (some challenge) done)
      (fun _ w => Held c a state (some challenge) done w
        ∧ (¬ Undisturbed a v ∨ Late a (some challenge) done))
      fun w => Held c a state (some challenge) done w
        ∧ (¬ Undisturbed a v ∨ Late a (some challenge) done) := by
  refine Triple.bind (complete_triple hchain hpersisted) fun completed => ?_
  refine check_bind (fun _ => ?_) fun h w hw => absurd (hw.1.certified completed rfl).chain h
  refine check_bind (fun hvalid => Triple.pure fun w hw => ⟨hw.1, hw.2.1, ?_⟩) fun hvalid w hw => ?_
  · rw [validDeviceCertificate_iff] at hvalid
    rintro (⟨hnone, _, heq, hexpired⟩ | ⟨old, hold, hexpired⟩)
    · obtain rfl := Option.some.inj heq
      exact absurd hexpired (Nat.not_le.mpr (hw.2.2 hnone).2)
    · rw [← hw.2.1 old hold] at hexpired
      exact absurd hvalid.2.1 (Nat.not_le.mpr hexpired)
  · have hcertified := hw.1.certified completed rfl
    have hexpired : completed.certificate.notAfter < a.checkedAt := by
      refine Nat.lt_of_not_le fun hle => hvalid ?_
      rw [validDeviceCertificate_iff]
      exact ⟨hcertified.publicKey, hle, hcertified.deviceId, hcertified.deviceKeyId⟩
    refine ⟨⟨state, some challenge, some completed, SameTransaction.refl state, hw.1,
      fun _ _ => rfl, fun old hold => ?_, fun hlate => ?_⟩, ?_⟩
    · rw [hold, hw.2.1 old hold]
    · exact late_keeps hw.2.1 (fun hnone => (hw.2.2 hnone).2) hlate
    · cases done with
      | some old =>
        refine .inr (.inr ⟨old, rfl, ?_⟩)
        rw [← hw.2.1 old rfl]
        exact hexpired
      | none =>
        refine .inl fun hundisturbed => ?_
        rw [(hw.2.2 rfl).1] at hexpired
        exact absurd hundisturbed.device (Nat.not_le.mpr hexpired)

/-! ## The installation -/

/-- One file of the identity is written: a transaction that has its device still has it. -/
theorem Pending.install {w : World} (h : Pending c state issued (some completed) w)
    {files : Files} (hstate : files.state = w.files.state)
    (hinstallation : files.installationId = w.files.installationId)
    (hroot : files.rootKey = w.files.rootKey)
    (hoperational : files.operationalKey = w.files.operationalKey)
    (hidentity : ∀ identity, files.identity = some identity → Installed completed files
      ∧ identity.deviceId = completed.deviceId ∧ identity.deviceKeyId = completed.deviceKeyId) :
    Pending c state issued (some completed) { w with files } :=
  { h with
    file := hstate.trans h.file
    keys := by
      obtain ⟨root, operational, hroot', hoperational', hkeys⟩ := h.keys
      exact ⟨root, operational, hroot.trans hroot', hoperational.trans hoperational', hkeys⟩
    installationId := hinstallation.trans h.installationId
    identity := fun identity hsome => ⟨completed, rfl, hidentity identity hsome⟩ }

theorem Pending.installed {w : World} (h : Pending c state issued (some completed) w)
    {identity : DeviceIdentity} (hidentity : w.files.identity = some identity) :
    Installed completed w.files ∧ identity.deviceId = completed.deviceId
      ∧ identity.deviceKeyId = completed.deviceKeyId := by
  obtain ⟨found, hfound, hrest⟩ := h.identity identity hidentity
  obtain rfl := Option.some.inj hfound
  exact hrest

/-- An identity whose files are all there belongs to the operational key. -/
theorem belongsTo_of_installed {files : Files} {identity : DeviceIdentity}
    (hkeys : KeysMatch c files state) (hcertified : Certified state completed)
    (hinstalled : Installed completed files) (hdevice : identity.deviceId = completed.deviceId)
    (hkey : identity.deviceKeyId = completed.deviceKeyId) : BelongsTo c files identity := by
  obtain ⟨key, hoperational, hmtls⟩ := hinstalled.mtls
  obtain ⟨_, operational, _, hoperational', _, hpublic⟩ := hkeys
  obtain rfl := Option.some.inj (hoperational.symm.trans hoperational')
  exact ⟨completed.certificate, completed.certificateChainPem, key, hinstalled.certificateDer,
    hinstalled.certificatePem, hinstalled.chain, hmtls, hoperational,
    hcertified.publicKey.trans hpublic.symm, hcertified.deviceId.trans hdevice.symm,
    hcertified.deviceKeyId.trans hkey.symm⟩

/-- The identity is written when its files are there, and the state goes when the identity is there. -/
theorem install_triple {challenge : Challenge} :
    Triple (Pending c state issued (some completed)) (install a state challenge completed)
      (fun _ w => Ended c w)
      (fun _ w => (Pending c state issued (some completed) w ∨ Ended c w) ∧ ¬ Undisturbed a v)
      fun w => (Pending c state issued (some completed) w ∨ Ended c w) ∧ ¬ Undisturbed a v := by
  refine change_bind (v := v) (Q := fun w => Pending c state issued (some completed) w
    ∧ w.files.certificateDer = some completed.certificate) (fun w hw => ⟨?_, rfl⟩) ?_ ?_
  · refine hw.install rfl rfl rfl rfl fun identity hidentity => ?_
    obtain ⟨hinstalled, hids⟩ := hw.installed hidentity
    exact ⟨⟨rfl, hinstalled.2, hinstalled.3, hinstalled.4⟩, hids⟩
  · exact fun w hw hdisturbed => ⟨.inl (hw.elim id And.left), hdisturbed⟩
  refine change_bind (v := v) (Q := fun w => Pending c state issued (some completed) w
    ∧ w.files.certificateDer = some completed.certificate
    ∧ w.files.certificatePem = some completed.certificate) (fun w hw => ⟨?_, hw.2, rfl⟩) ?_ ?_
  · refine hw.1.install rfl rfl rfl rfl fun identity hidentity => ?_
    obtain ⟨hinstalled, hids⟩ := hw.1.installed hidentity
    exact ⟨⟨hinstalled.1, rfl, hinstalled.3, hinstalled.4⟩, hids⟩
  · exact fun w hw hdisturbed => ⟨.inl (hw.elim And.left And.left), hdisturbed⟩
  refine change_bind (v := v) (Q := fun w => Pending c state issued (some completed) w
    ∧ w.files.certificateDer = some completed.certificate
    ∧ w.files.certificatePem = some completed.certificate
    ∧ w.files.chain = some completed.certificateChainPem) (fun w hw => ⟨?_, hw.2.1, hw.2.2, rfl⟩) ?_ ?_
  · refine hw.1.install rfl rfl rfl rfl fun identity hidentity => ?_
    obtain ⟨hinstalled, hids⟩ := hw.1.installed hidentity
    exact ⟨⟨hinstalled.1, hinstalled.2, rfl, hinstalled.4⟩, hids⟩
  · exact fun w hw hdisturbed => ⟨.inl (hw.elim And.left And.left), hdisturbed⟩
  refine get_bind fun w hw => ?_
  obtain ⟨_, key, _, hkey, _⟩ := hw.1.keys
  rw [hkey]
  refine change_bind (v := v) (Q := fun w => Pending c state issued (some completed) w
    ∧ Installed completed w.files) ?_ ?_ ?_
  · rintro w' ⟨hw', rfl⟩
    have hall : Installed completed { w'.files with
        mtls := some ⟨completed.certificate, completed.certificateChainPem, key⟩ } :=
      ⟨hw'.2.1, hw'.2.2.1, hw'.2.2.2, key, hkey, rfl⟩
    exact ⟨hw'.1.install rfl rfl rfl rfl fun identity hidentity =>
      ⟨hall, (hw'.1.installed hidentity).2⟩, hall⟩
  · exact fun w' hw' hdisturbed => ⟨.inl (hw'.elim (fun h => h.1.1) And.left), hdisturbed⟩
  refine change_bind (v := v) (Q := fun w => Pending c state issued (some completed) w
    ∧ w.files.identity ≠ none) (fun w' hw' => ⟨?_, Option.some_ne_none _⟩) ?_ ?_
  · refine hw'.1.install rfl rfl rfl rfl fun identity hidentity => ?_
    obtain rfl := Option.some.inj hidentity
    exact ⟨⟨hw'.2.1, hw'.2.2, hw'.2.3, hw'.2.4⟩, rfl, rfl⟩
  · exact fun w' hw' hdisturbed => ⟨.inl (hw'.elim And.left And.left), hdisturbed⟩
  refine change_bind (v := v) (Q := Ended c) (fun w' hw' => ?_) ?_ ?_
  · obtain ⟨hpending, hidentity⟩ := hw'
    obtain ⟨identity, hsome⟩ := Option.ne_none_iff_exists'.mp hidentity
    obtain ⟨hinstalled, hdevice, hkeyId⟩ := hpending.installed hsome
    refine ⟨rfl, ⟨identity, hsome, ?_⟩, ?_⟩
    · obtain ⟨certificate, chain, key', hbelongs⟩ := belongsTo_of_installed hpending.keys
        (hpending.certified completed rfl) hinstalled hdevice hkeyId
      exact ⟨certificate, chain, key', hbelongs⟩
    · show w'.cloud.completions.length ≤ 1
      rw [hpending.completions]
      exact Nat.le_refl 1
  · exact fun w' hw' hdisturbed => ⟨hw'.imp And.left id, hdisturbed⟩
  refine Triple.conseq (change_triple (v := v) (P := Ended c) (Q := Ended c) fun w' hw' => ?_)
    (fun _ hw' => hw') (fun _ _ hw' => hw') ?_ ?_
  · obtain ⟨hstate, ⟨identity, hidentity, certificate, chain, key', hbelongs⟩, hdevice⟩ := hw'
    exact ⟨hstate, ⟨identity, hidentity, certificate, chain, key', hbelongs⟩, hdevice⟩
  · exact fun _ w' hw' => ⟨.inr (hw'.1.elim id id), hw'.2⟩
  · exact fun w' hw' => ⟨.inr (hw'.1.elim id id), hw'.2⟩

/-! ## A whole run -/

section

variable {state' : EnrollmentState} {challenge : Challenge} {w : World}

theorem Challenged.held (h : Challenged c a state issued done state' challenge w)
    (hheld : Held c a state' (some challenge) done w') : Held c a state issued done w' := by
  obtain ⟨next, issued', done', hnext, hpending, hissued, hdone, hlate⟩ := hheld
  refine ⟨next, issued', done', h.same.trans hnext, hpending, fun old hold => ?_, hdone,
    fun hlate' => hlate ?_⟩
  · rw [hissued challenge rfl, hold, h.old old hold]
  · obtain ⟨hnone, old, hold, hexpired⟩ | hcompleted := hlate'
    · exact .inl ⟨hnone, challenge, rfl, h.old old hold ▸ hexpired⟩
    · exact .inr hcompleted

/-- A new challenge is not too old for an undisturbed run. -/
theorem Challenged.late (h : Challenged c a state issued done state' challenge w)
    (hlate : Late a (some challenge) done) : Late a issued done ∨ ¬ Undisturbed a v := by
  obtain ⟨hnone, _, heq, hexpired⟩ | hold := hlate
  · obtain rfl := Option.some.inj heq
    cases issued with
    | some old => exact .inl (.inl ⟨hnone, old, rfl, h.old old rfl ▸ hexpired⟩)
    | none =>
      refine .inr fun hundisturbed => absurd hexpired (Nat.not_le.mpr ?_)
      rw [h.new rfl]
      exact hundisturbed.challenge
  · exact .inl (.inr hold)

theorem Challenged.not_late (h : Challenged c a state issued done state' challenge w)
    (hlate : ¬ Late a (some challenge) done) : ¬ Late a issued done := by
  rintro (⟨hnone, old, hold, hexpired⟩ | hcompleted)
  · exact hlate (.inl ⟨hnone, challenge, rfl, h.old old hold ▸ hexpired⟩)
  · exact hlate (.inr hcompleted)

/-- How a run that has not ended the transaction leaves it. -/
def Refused (c : Codec) (a : Answers) (v : World) (state : EnrollmentState)
    (issued : Option Challenge) (done : Option CompleteResponse) (w : World) : Prop :=
  (Held c a state issued done w ∧ (¬ Undisturbed a v ∨ Late a issued done))
    ∨ (Ended c w ∧ ¬ Late a issued done ∧ ¬ Undisturbed a v)

/-- The device is made and installed. -/
theorem finish_triple (hallowed : Allowed c a v)
    (h : Challenged c a state issued done state' challenge w) :
    Triple (Pending c state' (some challenge) done) (do
        let completed ← completeEnrollment a state' challenge
        install a state' challenge completed)
      (fun _ w => Ended c w ∧ ¬ Late a issued done)
      (fun _ w => Refused c a v state issued done w) fun w => Refused c a v state issued done w := by
  have hrefused : ∀ w', Held c a state' (some challenge) done w'
      ∧ (¬ Undisturbed a v ∨ Late a (some challenge) done) → Refused c a v state issued done w' := by
    rintro w' ⟨hheld, hdisturbed | hlate⟩
    · exact .inl ⟨h.held hheld, .inl hdisturbed⟩
    · exact .inl ⟨h.held hheld, (h.late hlate).symm⟩
  refine Triple.bind (Triple.conseq (completeEnrollment_triple (v := v) hallowed.chain h.persisted)
    (fun _ hw => hw) (fun _ _ hw => hw) (fun _ => hrefused) hrefused) fun completed => ?_
  rintro w' ⟨hpending, hold, hlate⟩
  have hstopped : ∀ w', (Pending c state' (some challenge) (some completed) w' ∨ Ended c w')
      ∧ ¬ Undisturbed a v → Refused c a v state issued done w' := by
    rintro w' ⟨hpending' | hended, hdisturbed⟩
    · refine .inl ⟨h.held ⟨state', some challenge, some completed, SameTransaction.refl state',
        hpending', fun _ _ => rfl, fun old hdone => ?_, fun hlate' => absurd hlate' hlate⟩,
        .inl hdisturbed⟩
      rw [hdone, hold old hdone]
    · exact .inr ⟨hended, h.not_late hlate, hdisturbed⟩
  exact Triple.conseq (install_triple (v := v)) (fun _ hw => hw)
    (fun _ _ hended => ⟨hended, h.not_late hlate⟩) (fun _ => hstopped) hstopped w' hpending

/-- A run after its transaction is open. -/
theorem proceed_triple (hallowed : Allowed c a v) :
    Triple (Pending c state issued done) (do
        let (state, challenge) ← obtainChallenge c a state
        let completed ← completeEnrollment a state challenge
        install a state challenge completed)
      (fun _ w => Ended c w ∧ ¬ Late a issued done)
      (fun _ w => Refused c a v state issued done w) fun w => Refused c a v state issued done w := by
  refine Triple.bind (Triple.conseq (obtainChallenge_triple (v := v) hallowed.nonce)
    (fun _ hw => hw) (fun _ _ hw => hw) (fun _ w hw => .inl ⟨hw.1, .inl hw.2⟩)
    fun w hw => .inl ⟨hw.1, .inl hw.2⟩) fun result => ?_
  exact fun w hw => finish_triple hallowed hw w hw.pending

/-- A run from a pending transaction: it ends it unless it is disturbed or what Cloud has recorded is too
old, and then the transaction keeps what Cloud has recorded. -/
theorem run_of_pending (hallowed : Allowed c a v) (h₀ : v.files.state = some state) :
    Triple (Pending c state issued done) (run c a) (fun _ w => Ended c w ∧ ¬ Late a issued done)
      (fun _ w => Refused c a v state issued done w) fun w => Refused c a v state issued done w := by
  refine Triple.bind (Triple.conseq (openTransaction_of_pending h₀) (fun _ hw => hw)
    (fun _ _ hw => hw) (fun _ w hw => .inl ⟨hw.1.held, .inl hw.2⟩)
    fun w hw => .inl ⟨hw.1.held, .inl hw.2⟩) fun opened => ?_
  rintro w ⟨rfl, hpending⟩
  exact proceed_triple hallowed w hpending

/-- A first run. -/
theorem run_of_start (hallowed : Allowed c a v) :
    Triple Start (run c a) (fun _ w => Ended c w)
      (fun _ w => Invariant c w ∧ ¬ Undisturbed a v) fun w => Invariant c w ∧ ¬ Undisturbed a v := by
  have hopening : ∀ w, Opening c w ∧ ¬ Undisturbed a v → Invariant c w ∧ ¬ Undisturbed a v := by
    rintro w ⟨hstart | ⟨state, hpending⟩, hdisturbed⟩
    · exact ⟨.inl hstart, hdisturbed⟩
    · exact ⟨.inr (.inl ⟨state, none, none, hpending⟩), hdisturbed⟩
  have hrefused : ∀ state w, Refused c a v state none none w →
      Invariant c w ∧ ¬ Undisturbed a v := by
    rintro state w (⟨⟨state', issued, done, _, hpending, _⟩, hdisturbed | hlate⟩
      | ⟨hended, _, hdisturbed⟩)
    · exact ⟨.inr (.inl ⟨state', issued, done, hpending⟩), hdisturbed⟩
    · obtain ⟨_, _, h, _⟩ | ⟨_, h, _⟩ := hlate
      · cases h
      · cases h
    · exact ⟨.inr (.inr hended), hdisturbed⟩
  refine Triple.bind (Triple.conseq (openTransaction_of_start (v := v)) (fun _ hw => hw)
    (fun _ _ hw => hw) (fun _ => hopening) hopening) fun state => ?_
  exact Triple.conseq (proceed_triple hallowed) (fun _ hw => hw) (fun _ _ hw => hw.1)
    (fun _ => hrefused state) (hrefused state)

/-- After the end, a run is refused before it changes anything. -/
theorem run_of_ended : Triple (Ended c) (run c a) (fun _ _ => False) (fun _ w => Ended c w)
    fun w => Ended c w := by
  refine Triple.bind (Q := fun _ _ => False) ?_ fun _ _ h => h.elim
  refine okOr_bind (fun document _ => ?_) fun _ _ hw => hw
  refine check_bind (fun _ => ?_) fun _ _ hw => hw
  refine get_bind fun w hw => ?_
  obtain ⟨identity, hidentity, _⟩ := hw.identity
  rw [hw.state, hidentity]
  exact check_bind (fun h => absurd ⟨rfl, rfl⟩ h) fun _ _ hw' => hw'.1

/-! ## Runs after each other -/

theorem Pending.at_time (h : Pending c state issued done w) (t : ℕ) :
    Pending c state issued done { w with now := t } :=
  ⟨h.file, h.keys, h.installationId, h.validId, h.challenges, h.completions, h.nonce, h.persisted,
    h.obtained, h.certified, h.identity⟩

theorem Ended.at_time (h : Ended c w) (t : ℕ) : Ended c { w with now := t } :=
  ⟨h.state, h.identity, h.oneDevice⟩

theorem Invariant.at_time (h : Invariant c w) (t : ℕ) : Invariant c { w with now := t } := by
  obtain hstart | ⟨state, issued, done, hpending⟩ | hended := h
  · exact .inl ⟨hstart.state, hstart.identity, hstart.installationId, hstart.cloud⟩
  · exact .inr (.inl ⟨state, issued, done, hpending.at_time t⟩)
  · exact .inr (.inr (hended.at_time t))

/-- A pending transaction has lapsed if its challenge or its certificate is too old. -/
theorem Pending.lapsed_iff (h : Pending c state issued done w) :
    Lapsed w ↔ (done = none ∧ ∃ challenge, issued = some challenge ∧ challenge.expiresAt ≤ w.now)
      ∨ ∃ completed, done = some completed ∧ completed.certificate.notAfter < w.now := by
  have hdone : w.cloud.completions.lookup state.completionRequestId = done := by
    rw [h.completions]
    cases done with
    | none => rfl
    | some completed => simp
  have hissued : w.cloud.challenges.lookup state.challengeRequestId
      = issued.map fun challenge => ⟨challenge, state.operationalPublicKey⟩ := by
    rw [h.challenges]
    cases issued with
    | none => rfl
    | some challenge => simp
  constructor
  · rintro ⟨state', hstate', hlapsed⟩
    obtain rfl := Option.some.inj (h.file.symm.trans hstate')
    rw [hdone, hissued] at hlapsed
    obtain ⟨hnone, found, hfound, hexpired⟩ | hcompleted := hlapsed
    · obtain ⟨challenge, hchallenge, rfl⟩ := Option.map_eq_some_iff.mp hfound
      exact .inl ⟨hnone, challenge, hchallenge, hexpired⟩
    · exact .inr hcompleted
  · intro hlapsed
    refine ⟨state, h.file, ?_⟩
    rw [hdone, hissued]
    obtain ⟨hnone, challenge, rfl, hexpired⟩ | hcompleted := hlapsed
    · exact .inl ⟨hnone, _, rfl, hexpired⟩
    · exact .inr hcompleted

/-- What has lapsed is too old for every later run. -/
theorem Pending.late (h : Pending c state issued done w) (hallowed : Allowed c a w) (hlapsed : Lapsed w) :
    Late a issued done := by
  obtain ⟨hnone, challenge, hchallenge, hexpired⟩ | ⟨completed, hcompleted, hexpired⟩ :=
    h.lapsed_iff.mp hlapsed
  · exact .inl ⟨hnone, challenge, hchallenge, hexpired.trans hallowed.completed⟩
  · exact .inr ⟨completed, hcompleted, hexpired.trans_le (hallowed.completed.trans hallowed.checked)⟩

/-- The next run leaves the transaction pending, or it ends one that has not lapsed. -/
theorem step_pending (h : Pending c state issued done w) (hstep : Step c w w') :
    (∃ state' issued' done', SameTransaction state state' ∧ Pending c state' issued' done' w'
        ∧ (Lapsed w → Lapsed w'))
      ∨ (Ended c w' ∧ ¬ Lapsed w) := by
  obtain ⟨a, hallowed, rfl⟩ := hstep
  have hwp := run_of_pending hallowed h.file w h
  have hrefused : ∀ s, Refused c a w state issued done s →
      (∃ state' issued' done', SameTransaction state state'
          ∧ Pending c state' issued' done' { s with now := a.checkedAt }
          ∧ (Lapsed w → Lapsed { s with now := a.checkedAt }))
        ∨ (Ended c { s with now := a.checkedAt } ∧ ¬ Lapsed w) := by
    rintro s (⟨⟨state', issued', done', hsame, hpending, hissued, hdone, hkept⟩, _⟩
      | ⟨hended, hlate, _⟩)
    · have hlater := hpending.at_time a.checkedAt
      refine .inl ⟨state', issued', done', hsame, hlater, fun hlapsed => hlater.lapsed_iff.mpr ?_⟩
      have hlate := h.late hallowed hlapsed
      rw [hkept hlate]
      obtain ⟨hnone, challenge, hchallenge, hexpired⟩ | hcompleted := hlate
      · rw [hissued challenge hchallenge]
        exact .inl ⟨hnone, challenge, hchallenge, hexpired.trans hallowed.checked⟩
      · exact .inr hcompleted
    · exact .inr ⟨hended.at_time _, fun hlapsed => hlate (h.late hallowed hlapsed)⟩
  unfold wp at hwp
  rcases hrun : run c a w with ⟨_ | _ | _, s⟩ <;> rw [hrun] at hwp
  · exact .inr ⟨hwp.1.at_time _, fun hlapsed => hwp.2 (h.late hallowed hlapsed)⟩
  · exact hrefused s hwp
  · exact hrefused s hwp

theorem step_ended (h : Ended c w) (hstep : Step c w w') : Ended c w' := by
  obtain ⟨a, _, rfl⟩ := hstep
  have hwp := run_of_ended (a := a) w h
  unfold wp at hwp
  rcases hrun : run c a w with ⟨_ | _ | _, s⟩ <;> rw [hrun] at hwp
  · exact hwp.elim
  · exact hwp.at_time _
  · exact hwp.at_time _

theorem step_invariant (h : Invariant c w) (hstep : Step c w w') : Invariant c w' := by
  obtain hstart | ⟨state, issued, done, hpending⟩ | hended := h
  · obtain ⟨a, hallowed, rfl⟩ := hstep
    have hwp := run_of_start (c := c) hallowed w hstart
    unfold wp at hwp
    rcases hrun : run c a w with ⟨_ | _ | _, s⟩ <;> rw [hrun] at hwp
    · exact Invariant.at_time (.inr (.inr hwp)) _
    · exact hwp.1.at_time _
    · exact hwp.1.at_time _
  · obtain ⟨state', issued', done', _, hpending', _⟩ | ⟨hended, _⟩ := step_pending hpending hstep
    · exact .inr (.inl ⟨state', issued', done', hpending'⟩)
    · exact .inr (.inr hended)
  · exact .inr (.inr (step_ended hended hstep))

theorem invariant_of_later (h : Invariant c w) (hlater : Later c w w') :
    Invariant c w' :=
  reachable_induction hlater h fun _ _ hs hstep => step_invariant hs hstep

/-- The transaction of a state file stays, until it has ended. -/
theorem progress_of_later (h : Pending c state issued done w) (hlater : Later c w w') :
    Progress c state w' := by
  refine reachable_induction hlater (.inl ⟨state, issued, done, SameTransaction.refl state, h⟩) ?_
  rintro s s' (⟨state', issued', done', hsame, hpending⟩ | hended) hstep
  · obtain ⟨next, issued'', done'', hnext, hpending', _⟩ | ⟨hended, _⟩ := step_pending hpending hstep
    · exact .inl ⟨next, issued'', done'', hsame.trans hnext, hpending'⟩
    · exact .inr hended
  · exact .inr (step_ended hended hstep)

/-- A transaction that has lapsed stays so. -/
theorem lapsed_of_later (h : Invariant c w) (hlapsed : Lapsed w) (hlater : Later c w w') :
    Invariant c w' ∧ Lapsed w' := by
  refine reachable_induction hlater (I := fun s => Invariant c s ∧ Lapsed s) ⟨h, hlapsed⟩ ?_
  rintro s s' ⟨hs, hslapsed⟩ hstep
  refine ⟨step_invariant hs hstep, ?_⟩
  obtain hstart | ⟨state, issued, done, hpending⟩ | hended := hs
  · obtain ⟨state, hstate, _⟩ := hslapsed
    rw [hstart.state] at hstate
    cases hstate
  · obtain ⟨_, _, _, _, _, hkept⟩ | ⟨_, hnot⟩ := step_pending hpending hstep
    · exact hkept hslapsed
    · exact absurd hslapsed hnot
  · obtain ⟨state, hstate, _⟩ := hslapsed
    rw [hended.state] at hstate
    cases hstate

/-- Nothing completes a transaction that has lapsed. -/
theorem refused_of_lapsed (h : Invariant c w) (hlapsed : Lapsed w) : RefusedForEver c w := by
  intro w' a hlater hallowed _ s hrun
  obtain ⟨hinvariant, hlapsed'⟩ := lapsed_of_later h hlapsed hlater
  obtain hstart | ⟨state, issued, done, hpending⟩ | hended := hinvariant
  · obtain ⟨state, hstate, _⟩ := hlapsed'
    rw [hstart.state] at hstate
    cases hstate
  · have hwp := run_of_pending hallowed hpending.file w' hpending
    rw [wp, hrun] at hwp
    exact hwp.2 (hpending.late hallowed hlapsed')
  · obtain ⟨state, hstate, _⟩ := hlapsed'
    rw [hended.state] at hstate
    cases hstate

end

end CandyRuntime.CloudEnroll
