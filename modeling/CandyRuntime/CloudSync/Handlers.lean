import CandyRuntime.CloudSync.Sync

/-!
# Invariants of the synchronizer

An invariant of the synchronizer holds however an invocation ends, with whatever the other processes
do meanwhile. It is enough that the parts of the invocation preserve it: the moments in which the
others work, the writes that are only bookkeeping, the consumption of the outcome, the publication
of an activation, the reports, and the answer 304 (`Upheld.runs`).
-/

namespace CandyRuntime.CloudSync.Sync

open Lib Lib.Proc

variable {sha256 : String → String} {G : Delivery → Prop} {I : World → Prop}
  {again : Option (Syn Unit)} {state : SyncState} {etag : String} {args : Args}
variable {outcome : ActivationOutcome} {required : Bool} {d : Delivery}

/-- A change of the files that leaves the receipt, the proof, the activations and the active pointer
as they are, and at most removes the candidate. -/
structure Bookkeeping (f : Host → Host) : Prop where
  receipt : ∀ h, (f h).receipt = h.receipt
  proof : ∀ h, (f h).proof = h.proof
  activations : ∀ h, (f h).activations = h.activations
  active : ∀ h, (f h).active = h.active
  candidate : ∀ h, (f h).candidate = h.candidate ∨ (f h).candidate = none

/-- The work of the others and all bookkeeping preserve `I`. -/
structure Maintained (I : World → Prop) : Prop where
  moment : Preserves I moment
  writes : ∀ {error : String} {f : Host → Host}, Bookkeeping f → Preserves I (writes error f)

/-- The retry that is passed on preserves `I`. -/
def RetryPreserves (I : World → Prop) (again : Option (Syn Unit)) : Prop :=
  ∀ retry, again = some retry → Preserves I retry

theorem preserves_killed {α : Type} : Preserves I (killed : Syn α) := fun _ hw => hw

theorem preserves_durable {write : Write} {error : String} {f : World → World}
    (hf : ∀ w, I w → I (f w)) : Preserves I (durable write error f) :=
  Triple.durable hf (fun w hw => ⟨hf w hw, hw⟩) fun w hw => ⟨hf w hw, hw⟩

theorem preserves_requiredEtag {etag : Option String} : Preserves I (requiredEtag etag) :=
  (Preserves.okOr _ _).bind fun _ => (Preserves.ensure _ _).bind fun _ => .pure _

namespace Maintained

/-! ## Bookkeeping -/

theorem looks (hI : Maintained I) : Preserves I looks :=
  hI.moment.bind fun _ => Preserves.get.bind fun _ => .pure _

theorem persist (hI : Maintained I) : Preserves I (persist state) :=
  hI.writes ⟨fun _ => rfl, fun _ => rfl, fun _ => rfl, fun _ => rfl, fun _ => .inl rfl⟩

theorem writeLocalSyncStatus (hI : Maintained I) : Preserves I writeLocalSyncStatus :=
  hI.writes ⟨fun _ => rfl, fun _ => rfl, fun _ => rfl, fun _ => rfl, fun _ => .inl rfl⟩

theorem removeCandidate (hI : Maintained I) {error : String} :
    Preserves I (Sync.writes error fun h => { h with candidate := none }) :=
  hI.writes ⟨fun _ => rfl, fun _ => rfl, fun _ => rfl, fun _ => rfl, fun _ => .inr rfl⟩

theorem removeCandidateIfMatches (hI : Maintained I) :
    Preserves I (removeCandidateIfMatches outcome) :=
  hI.looks.bind fun _ => .ite hI.removeCandidate (.pure _)

theorem requestLocalActivationWithdrawal (hI : Maintained I) :
    Preserves I requestLocalActivationWithdrawal := by
  refine hI.looks.bind fun h => (Preserves.ensure _ _).bind fun _ => ?_
  refine (Preserves.ensure _ _).bind fun _ => .ite (.pure _) (.ite (.pure _) ?_)
  refine Preserves.bind (hI.writes ?_) fun _ => hI.removeCandidate
  exact ⟨fun _ => rfl, fun _ => rfl, fun _ => rfl, fun _ => rfl, fun _ => .inl rfl⟩

theorem handleNoContent (hI : Maintained I) : Preserves I (handleNoContent state) :=
  hI.requestLocalActivationWithdrawal.bind fun _ => hI.persist.bind fun _ => hI.writeLocalSyncStatus

theorem handleRejected (hI : Maintained I) (hagain : RetryPreserves I again) {now : ℕ} :
    Preserves I (handleRejected again state now) := by
  have hstays (state : SyncState) :
      Preserves I (Sync.persist state >>= fun _ => Sync.writeLocalSyncStatus) :=
    hI.persist.bind fun _ => hI.writeLocalSyncStatus
  unfold Sync.handleRejected
  cases again with
  | none => exact hstays _
  | some retry =>
    refine Preserves.ite ?_ (hstays _)
    exact hI.persist.bind fun _ => hI.writeLocalSyncStatus.bind fun _ => hagain retry rfl

theorem needsRevalidation (hI : Maintained I) : Preserves I (needsRevalidation state etag) := by
  refine .ite (hI.looks.bind fun _ => (Preserves.lift _).bind fun _ => .ite ?_ (.pure _)) (.pure _)
  exact hI.looks.bind fun _ => .lift _

/-- The answer 304 up to the point where it is settled that nothing has to be fetched again; from
there on `unchanged` goes on. -/
theorem notModified (hI : Maintained I) (hagain : RetryPreserves I again)
    (hunchanged : ∀ etag arrived, Preserves I (log (fun _ => .unchanged etag state arrived) >>=
      fun _ => if state.activationRejectedEtag = some etag then Sync.looks >>= fun h =>
        Sync.handleRejected again state h.now else Sync.reportUnchanged again state etag))
    {header : Option String} : Preserves I (handleNotModified again state header) := by
  refine Preserves.get.bind fun arrived => preserves_requiredEtag.bind fun etag => ?_
  refine (Preserves.ensure _ _).bind fun _ => hI.needsRevalidation.bind fun needed => .ite ?_ ?_
  · cases again with
    | none => exact .fail _
    | some retry =>
      exact hI.persist.bind fun _ => hI.writeLocalSyncStatus.bind fun _ => hagain retry rfl
  · exact hunchanged etag arrived.host

end Maintained

/-! ## Invariants that do not look at the reports -/

/-- What is seen of the synchronizer does not matter for `I` either. -/
structure Unseen (I : World → Prop) : Prop extends Maintained I where
  log : ∀ {event : Host → Event}, Preserves I (log event)

namespace Unseen

theorem putStatus (hI : Unseen I) {status : ConfigurationStatus} :
    Preserves I (putStatus status etag required) := by
  refine hI.moment.bind fun _ => hI.log.bind fun _ => hI.moment.bind fun m => ?_
  split
  · exact preserves_killed
  · exact .fail _
  · exact .pure _

theorem reportConfigurationStatusFields (hI : Unseen I) {publicationId : Uuid}
    {contentHash : String} {status : Status} {errorCode : Option String} :
    Preserves I (reportConfigurationStatusFields publicationId contentHash etag status errorCode
      required) :=
  hI.putStatus.bind fun _ => .ensure _ _

theorem reportActivationStatus (hI : Unseen I) {status : Status} {errorCode : Option String} :
    Preserves I (reportActivationStatus outcome status errorCode required) := by
  refine hI.putStatus.bind fun reply => .ite (.pure _) ?_
  exact (Preserves.ensure _ _).bind fun _ => .pure _

theorem reportRejected (hI : Unseen I) :
    Preserves I (reportRejected state outcome) := by
  refine hI.reportActivationStatus.bind fun taken => .ite ?_ (.pure _)
  exact hI.removeCandidateIfMatches.bind fun _ => hI.looks.bind fun _ => .pure _

theorem reportUnchanged (hI : Unseen I) (hagain : RetryPreserves I again) :
    Preserves I (reportUnchanged again state etag) := by
  unfold Sync.reportUnchanged
  have hreport (publicationId : Uuid) (contentHash : String) (status : Status) :
      Preserves I (Sync.reportConfigurationStatusFields publicationId contentHash etag status none
        state.activationRequired >>= fun _ => Sync.writeLocalSyncStatus) :=
    hI.reportConfigurationStatusFields.bind fun _ => hI.writeLocalSyncStatus
  split
  · refine Preserves.ite (hreport _ _ _) (Preserves.ite (hreport _ _ _) ?_)
    cases again with
    | none => exact .fail _
    | some retry => exact hI.persist.bind fun _ => hagain retry rfl
  · cases again with
    | none => exact hI.writeLocalSyncStatus
    | some retry => exact hI.persist.bind fun _ => hagain retry rfl

theorem handleNotModified (hI : Unseen I) (hagain : RetryPreserves I again)
    {header : Option String} : Preserves I (handleNotModified again state header) := by
  refine hI.notModified hagain fun etag arrived => ?_
  refine hI.log.bind fun _ => .ite ?_ (hI.reportUnchanged hagain)
  exact hI.looks.bind fun _ => hI.handleRejected hagain

end Unseen

/-! ## Whole runs -/

/-- The parts of an invocation preserve `I`, if the deliveries of Cloud are as `G` says. -/
structure Upheld (sha256 : String → String) (G : Delivery → Prop) (I : World → Prop) : Prop
    extends Maintained I where
  answer : Triple I Sync.moment (fun m w => I w ∧ ∀ d, m.answer = .ok d → G d) (fun _ => I) I
  consumeOutcome : ∀ {state}, Preserves I (consumeOutcome sha256 state)
  report : ∀ {configuration etag status errorCode required}, status ≠ .active →
    Preserves I (reportConfigurationStatus configuration etag status errorCode required)
  handleNotModified : ∀ {again state header}, RetryPreserves I again →
    Preserves I (handleNotModified again state header)
  publishActivation : ∀ {d etag role}, G d → d.wellFormed = true → etag = etagOf d.digest →
    role = "client_sdwan" ∨ role = "server" → Preserves I (publishActivation d etag role)

namespace Upheld

theorem checked (hI : Upheld sha256 G I) {check : Check} {code : String} :
    Preserves I (checked check code d etag state) := by
  cases check with
  | passed => exact .pure _
  | unavailable error => exact .fail _
  | failed error => exact (hI.report (by decide)).bind fun _ => .fail _

theorem handleUnresolved (hI : Upheld sha256 G I) (hagain : RetryPreserves I again)
    {code : String} {retryable : Bool} :
    Preserves I (handleUnresolved again d etag state code retryable) := by
  have hrefuse : Preserves I (if retryable = true then (fail code : Syn Unit) else do
      reportConfigurationStatus d.configuration etag .rejected (some code) state.activationRequired
      fail code) :=
    .ite (.fail _) ((hI.report (by decide)).bind fun _ => .fail _)
  refine Preserves.ite ?_ hrefuse
  refine hI.persist.bind fun _ => hI.writeLocalSyncStatus.bind fun _ => ?_
  cases again with
  | none => exact hrefuse
  | some retry => exact hagain retry rfl

theorem handleDelivery (hI : Upheld sha256 G I) (hagain : RetryPreserves I again)
    {serverDigest : Option String} (hd : G d) :
    Preserves I (handleDelivery args again serverDigest state d) := by
  refine Triple.ensure_bind (fun hform => ?_) fun _ hw => hw
  refine preserves_requiredEtag.bind fun etag => (Preserves.ensure _ _).bind fun _ => ?_
  refine Triple.ensure_bind (fun hetag => ?_) fun _ hw => hw
  refine hI.checked.bind fun _ => hI.checked.bind fun _ => hI.checked.bind fun _ => ?_
  cases d.grants with
  | failed code retryable => exact hI.handleUnresolved hagain
  | resolved =>
    refine Preserves.bind (hI.writes ?_) fun _ => Preserves.ite ?_ ?_
    · exact ⟨fun _ => rfl, fun _ => rfl, fun _ => rfl, fun _ => rfl, fun _ => .inl rfl⟩
    · refine (hI.report (by decide)).bind fun _ => ?_
      exact hI.persist.bind fun _ => hI.writeLocalSyncStatus
    · refine Preserves.bind (.ite ?_ hI.requestLocalActivationWithdrawal) fun _ =>
        hI.persist.bind fun _ => hI.writeLocalSyncStatus
      refine hI.publishActivation hd hform hetag ?_
      cases args.serverConfig with
      | true => exact .inr rfl
      | false => exact .inl rfl

theorem requestAndHandle (hI : Upheld sha256 G I) (hagain : RetryPreserves I again)
    {serverDigest : Option String} :
    Preserves I (requestAndHandle args again serverDigest state) := by
  have hrequest : Triple I (requestConfiguration state)
      (fun answer w => I w ∧ ∀ d, answer = .ok d → G d) (fun _ => I) I := by
    refine Triple.ensure_bind (fun _ => hI.answer.bind fun m => ?_) fun _ hw => hw
    split
    · exact fun _ hw => hw.1
    · exact fun _ hw => hw.1
    · exact fun _ hw => hw
  refine Triple.bind hrequest fun answer => ?_
  cases answer with
  | noContent => exact Triple.pre hI.handleNoContent fun _ hw => hw.1
  | notModified header => exact Triple.pre (hI.handleNotModified hagain) fun _ hw => hw.1
  | ok d => exact Triple.and_pre fun hd => hI.handleDelivery hagain (hd d rfl)
  | other => exact fun _ hw => hw.1
  | lost => exact fun _ hw => hw.1
  | killed => exact fun _ hw => hw.1

theorem syncWith (hI : Upheld sha256 G I) (hagain : RetryPreserves I again) :
    Preserves I (syncWith sha256 args again) := by
  have hdigest : Preserves I (serverConfigurationDigest args) :=
    .ite (hI.moment.bind fun _ => (Preserves.okOr _ _).bind fun _ => .pure _) (.pure _)
  refine hI.moment.bind fun m => (Preserves.ensure _ _).bind fun _ => ?_
  refine hI.looks.bind fun h => (Preserves.lift _).bind fun state => ?_
  refine hdigest.bind fun serverDigest => hI.consumeOutcome.bind fun state => ?_
  exact hI.requestAndHandle hagain

theorem syncOnceWithRetry (hI : Upheld sha256 G I) {allow : Bool} :
    Preserves I (syncOnceWithRetry sha256 args allow) := by
  have honce : Preserves I (Sync.syncWith sha256 args none) := hI.syncWith nofun
  refine Preserves.ite (hI.syncWith fun retry hretry => ?_) honce
  rw [← Option.some.inj hretry]
  exact honce

end Upheld

/-- However an invocation ends, it has led to `S`. -/
theorem invokes_of_triple {P S : World → Prop} {w : World}
    (h : Triple P (syncOnceWithRetry sha256 args true) (fun _ => S) (fun _ => S) S)
    (hw : P { w with ops := .begins :: w.ops }) : S (w.invokes sha256 args) := by
  have hwp := h _ hw
  unfold World.invokes
  unfold wp at hwp
  split at hwp
  next heq => rw [heq]; exact hwp
  next heq => rw [heq]; exact hwp
  next heq => rw [heq]; exact hwp

/-- By induction on the invocations. -/
theorem Upheld.runs (hI : Upheld sha256 G I)
    (hbegins : ∀ w, I w → I { w with ops := .begins :: w.ops }) {invocations : List Args} {w : World}
    (hw : I w) : I (w.runs sha256 invocations) := by
  induction invocations generalizing w with
  | nil => exact hw
  | cons args invocations ih =>
    exact ih (invokes_of_triple hI.syncOnceWithRetry (hbegins w hw))

end CandyRuntime.CloudSync.Sync
