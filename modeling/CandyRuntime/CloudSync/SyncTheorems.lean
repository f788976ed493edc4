import CandyRuntime.CloudSync.Handlers
import CandyRuntime.Lib.Trace

/-!
# What Cloud is told of an activation

A report of `active` has to rest on a commit of the agent: its receipt, or the proof that the
synchronizer has made of it. The report after a consumed outcome always does. The report after an
answer 304 goes by the recorded phase of the delivery alone, so it rests on a commit as long as the
agent has committed before the answer arrives, and nobody takes that away before the report
(`activeReports_justified`).
-/

namespace CandyRuntime.CloudSync.Sync

open Lib Lib.Proc

variable {errorCode : Option String} {required : Bool}

section

variable (sha256 : String → String)

/-- The outcome that the look has accepted, if any. -/
def Look.outcome : Look → Option ActivationOutcome
  | .accepted outcome => some outcome
  | .nothing | .superseded => none

/-- What was read is a commit of this delivery. -/
def CommitOf (etag : String) : Except String (Option ActivationOutcome) → Prop
  | .ok (some outcome) =>
    outcome.receipt.state = "committed" ∧ outcome.descriptor.deliveryEtag = etag
  | .ok none | .error _ => False

instance decidableCommitOf (etag : String) : ∀ read, Decidable (CommitOf etag read)
  | .ok (some _) => inferInstanceAs (Decidable (_ ∧ _))
  | .ok none => isFalse id
  | .error _ => isFalse id

/-- There is a committed receipt that is accepted, or a committed proof, for this delivery. -/
def Host.Committed (h : Host) (etag : String) : Prop :=
  CommitOf etag ((h.lookAtReceipt sha256).map (·.outcome))
    ∨ CommitOf etag h.readCommittedActivationOutcome

instance (h : Host) (etag : String) : Decidable (h.Committed sha256 etag) :=
  inferInstanceAs (Decidable (_ ∨ _))

/-- A required activation is reported active only if its delivery is committed at that moment, or
was at the look directly before. -/
def Justified : Event → List Event → Prop
  | .reported status etag required h, earlier =>
    status.state = .active → required = true →
      h.Committed sha256 etag
        ∨ ∃ outcome h' before, earlier = .found outcome h' :: before ∧ h'.Committed sha256 etag
  | _, _ => True

/-- The recorded phase of this delivery is commit, its activation is required and not recorded as
rejected, and its publication is known: an answer 304 is reported as active. -/
structure SyncState.Unquestioned (state : SyncState) (etag : String) : Prop where
  required : state.activationRequired = true
  phase : state.activationPhase = some "commit"
  rejected : state.activationRejectedEtag ≠ some etag
  publicationId : state.projectionPublicationId.isSome = true
  contentHash : state.projectionContentHash.isSome = true

/-- An answer 304 for such a delivery does not arrive before the commit of the agent, and the other
processes do not take the receipt or the proof away between the answer and the report. -/
def Timely : Event → List Event → Prop
  | .unchanged etag state arrived, _ => state.Unquestioned etag → arrived.Committed sha256 etag
  | .reported _ etag _ h, .unchanged _ state arrived :: _ =>
    state.Unquestioned etag → arrived.Committed sha256 etag → h.Committed sha256 etag
  | _, _ => True

instance (state : SyncState) (etag : String) : Decidable (state.Unquestioned etag) :=
  decidable_of_iff (state.activationRequired = true ∧ state.activationPhase = some "commit"
      ∧ state.activationRejectedEtag ≠ some etag ∧ state.projectionPublicationId.isSome = true
      ∧ state.projectionContentHash.isSome = true)
    ⟨fun ⟨h₁, h₂, h₃, h₄, h₅⟩ => ⟨h₁, h₂, h₃, h₄, h₅⟩, fun ⟨h₁, h₂, h₃, h₄, h₅⟩ => ⟨h₁, h₂, h₃, h₄, h₅⟩⟩

instance decidableTimely : ∀ event earlier, Decidable (Timely sha256 event earlier)
  | .unchanged _ _ _, _ => inferInstanceAs (Decidable (_ → _))
  | .reported _ _ _ _, .unchanged _ _ _ :: _ => inferInstanceAs (Decidable (_ → _ → _))
  | .reported _ _ _ _, .reported _ _ _ _ :: _ => isTrue trivial
  | .reported _ _ _ _, .found _ _ :: _ => isTrue trivial
  | .reported _ _ _ _, [] => isTrue trivial
  | .found _ _, _ => isTrue trivial

/-- What was reported so far is justified, as long as the answers were timely. -/
def Matched (trace : List Event) : Prop :=
  Always (Timely sha256) trace → Always (Justified sha256) trace

end

variable {outcome : ActivationOutcome} {trace : List Event}
variable {sha256 : String → String}

/-! ## Operations that are not seen -/

section

variable (P : List Event → Prop)

theorem quiet_moment : Preserves (fun w => P w.trace) moment := fun _ hw => hw

theorem quiet_writes {error : String} {f : Host → Host} :
    Preserves (fun w => P w.trace) (writes error f) :=
  (quiet_moment P).bind fun _ => preserves_durable fun _ hw => hw

theorem quiet_writesNoted {error : String} {op : Host → FileOp} {f : Host → Host} :
    Preserves (fun w => P w.trace) (writesNoted error op f) :=
  (quiet_moment P).bind fun _ => preserves_durable fun _ hw => hw

/-- What is said of the reports only is maintained. -/
theorem maintained_trace : Maintained fun w => P w.trace := ⟨quiet_moment P, fun _ => quiet_writes P⟩

theorem quiet_clearActivationReadyReceipt :
    Preserves (fun w => P w.trace) clearActivationReadyReceipt := by
  refine (maintained_trace P).looks.bind fun h => ?_
  split
  · exact .pure _
  · exact .fail _
  · exact quiet_writesNoted P
  · exact quiet_writesNoted P

theorem quiet_readActivationReadyReceipt :
    Preserves (fun w => P w.trace) (readActivationReadyReceipt sha256) := by
  refine (maintained_trace P).looks.bind fun h => ?_
  refine Preserves.bind (fun _ hw => hw) fun _ => (Preserves.lift _).bind fun look => ?_
  cases look with
  | nothing => exact .pure _
  | superseded => exact (quiet_clearActivationReadyReceipt P).bind fun _ => .pure _
  | accepted outcome => exact .pure _

theorem quiet_promoteCommittedActivation :
    Preserves (fun w => P w.trace) (promoteCommittedActivation outcome) := by
  refine (maintained_trace P).looks.bind fun h => (Preserves.okOr _ _).bind fun id => ?_
  refine (Preserves.ensure _ _).bind fun _ => (Preserves.ensure _ _).bind fun _ => ?_
  exact (quiet_writesNoted P).bind fun _ => quiet_writesNoted P

end

/-! ## Reports -/

/-- However `m` ends, what happened so far is matched, if it was. -/
def Keeps {α : Type} (sha256 : String → String) (m : Syn α) : Prop :=
  Preserves (fun w => Matched sha256 w.trace) m

/-- An event that is justified. -/
theorem Matched.cons {event : Event} (h : Matched sha256 trace)
    (hjustified : Justified sha256 event trace) : Matched sha256 (event :: trace) :=
  fun hall => ⟨hjustified, h hall.2⟩

/-- The report is sent after the others have worked, and nothing else is seen meanwhile. -/
theorem putStatus_triple {status : ConfigurationStatus} {etag : String} {P Q : List Event → Prop}
    (h : ∀ trace host, P trace → Q (.reported status etag required host :: trace)) :
    Triple (fun w => P w.trace) (putStatus status etag required) (fun _ w => Q w.trace)
      (fun _ w => Q w.trace) (fun w => Q w.trace) := by
  intro w hw
  unfold putStatus
  rw [wp_bind]
  show wp (log _ >>= _) _ _ _ _
  rw [wp_bind, log, wp_modify]
  refine (quiet_moment Q).bind (fun m => ?_) _ (h w.trace _ hw)
  split
  · exact preserves_killed
  · exact .fail _
  · exact .pure _

theorem reportFields_triple {publicationId : Uuid} {contentHash etag : String} {state : Status}
    {P Q : List Event → Prop} (h : ∀ trace host, P trace →
      Q (.reported ⟨publicationId, contentHash, state, errorCode⟩ etag required host :: trace)) :
    Triple (fun w => P w.trace) (reportConfigurationStatusFields publicationId contentHash etag state
      errorCode required) (fun _ w => Q w.trace) (fun _ w => Q w.trace) (fun w => Q w.trace) :=
  (putStatus_triple h).bind fun _ => Preserves.ensure _ _

/-- A report of another state than `active` needs no commit. -/
theorem reportConfigurationStatus_keeps {configuration : RuntimeConfiguration} {etag : String}
    {state : Status} (hstate : state ≠ .active) :
    Keeps sha256 (reportConfigurationStatus configuration etag state errorCode required) :=
  reportFields_triple fun _ _ hw => hw.cons fun hactive => absurd hactive hstate

theorem reportActivationStatus_triple {state : Status} {P Q : List Event → Prop}
    (h : ∀ trace host, P trace → Q (.reported ⟨outcome.descriptor.projectionPublicationId,
      outcome.descriptor.projectionContentHash, state, errorCode⟩ outcome.descriptor.deliveryEtag
      required host :: trace)) :
    Triple (fun w => P w.trace) (reportActivationStatus outcome state errorCode required)
      (fun _ w => Q w.trace) (fun _ w => Q w.trace) (fun w => Q w.trace) := by
  refine (putStatus_triple h).bind fun reply => ?_
  refine Triple.ite (fun _ => Preserves.pure _) fun _ => ?_
  exact Triple.bind (Preserves.ensure _ _) fun _ => Preserves.pure _

/-! ## The outcome of the candidate -/

/-- The last event is the look that has accepted this outcome. -/
def Found (sha256 : String → String) (outcome : ActivationOutcome) (trace : List Event) : Prop :=
  Matched sha256 trace ∧ ∃ h before, trace = .found outcome h :: before
    ∧ (outcome.receipt.state = "committed" → h.Committed sha256 outcome.descriptor.deliveryEtag)

theorem Matched.found {h : Host} (hmatched : Matched sha256 trace)
    (hcommitted : outcome.receipt.state = "committed"
      → h.Committed sha256 outcome.descriptor.deliveryEtag) :
    Found sha256 outcome (.found outcome h :: trace) :=
  ⟨hmatched.cons trivial, h, trace, rfl, hcommitted⟩

/-- What a look shows is the host as it is then. -/
theorem looks_triple (P : List Event → Prop) :
    Triple (fun w => P w.trace) looks (fun h w => P w.trace ∧ w.host = h) (fun _ w => P w.trace)
      (fun w => P w.trace) := by
  intro w hw
  exact ⟨hw, rfl⟩

/-- The receipt that is read is accepted on the host as it is then. -/
theorem readReceipt_triple (P : List Event → Prop) :
    Triple (fun w => P w.trace) (readActivationReadyReceipt sha256)
      (fun result w => P w.trace ∧ ∀ outcome, result = some outcome
        → w.host.lookAtReceipt sha256 = .ok (.accepted outcome))
      (fun _ w => P w.trace) (fun w => P w.trace) := by
  refine (looks_triple P).bind fun h => ?_
  refine Triple.bind (Q := fun _ (w : World) => P w.trace ∧ w.host = h) (fun w hw => hw) fun _ => ?_
  refine Triple.lift_bind (fun look hlook => ?_) fun _ _ hw => hw.1
  cases look with
  | nothing => exact fun w hw => ⟨hw.1, nofun⟩
  | superseded =>
    refine Triple.bind (Triple.pre (quiet_clearActivationReadyReceipt P) fun _ hw => hw.1) ?_
    exact fun _ w hw => ⟨hw, nofun⟩
  | accepted outcome =>
    intro w hw
    refine ⟨hw.1, fun other hother => ?_⟩
    rw [← Option.some.inj hother, hw.2]
    exact hlook

/-- The outcome that is found is accepted by one of the readers. -/
theorem findOutcome_triple :
    Triple (fun w => Matched sha256 w.trace) (findOutcome sha256)
      (fun result w => match result with
        | some outcome => Found sha256 outcome w.trace
        | none => Matched sha256 w.trace)
      (fun _ w => Matched sha256 w.trace) (fun w => Matched sha256 w.trace) := by
  refine (readReceipt_triple (Matched sha256)).bind fun result => ?_
  cases result with
  | some outcome =>
    intro w hw
    refine hw.1.found fun hcommitted => .inl ?_
    show CommitOf _ ((w.host.lookAtReceipt sha256).map _)
    rw [hw.2 outcome rfl]
    exact ⟨hcommitted, rfl⟩
  | none =>
    refine Triple.pre (P := fun w => Matched sha256 w.trace) ?_ fun _ hw => hw.1
    refine (looks_triple (Matched sha256)).bind fun h => ?_
    refine Triple.bind (Q := fun _ (w : World) => Matched sha256 w.trace ∧ w.host = h)
      (fun w hw => hw) fun _ => ?_
    refine Triple.lift_bind (fun result hresult => ?_) fun _ _ hw => hw.1
    cases result with
    | some outcome =>
      intro w hw
      refine hw.1.found fun hcommitted => .inr ?_
      rw [hw.2, hresult]
      exact ⟨hcommitted, rfl⟩
    | none => exact fun w hw => hw.1

/-- What is found stays found, if the operation is not seen. -/
theorem Found.quiet {α : Type} {m : Syn α}
    (hm : Preserves (fun w => Found sha256 outcome w.trace) m) :
    Triple (fun w => Found sha256 outcome w.trace) m (fun _ w => Found sha256 outcome w.trace)
      (fun _ w => Matched sha256 w.trace) (fun w => Matched sha256 w.trace) :=
  Triple.conseq hm (fun _ hw => hw) (fun _ _ hw => hw) (fun _ _ hw => hw.1) fun _ hw => hw.1

/-- The report of a committed outcome rests on the look that has found it. -/
theorem reportCommitted_keeps {state : SyncState}
    (hcommitted : outcome.receipt.state = "committed") :
    Triple (fun w => Found sha256 outcome w.trace) (reportCommitted sha256 state outcome)
      (fun _ w => Matched sha256 w.trace) (fun _ w => Matched sha256 w.trace)
      (fun w => Matched sha256 w.trace) := by
  refine (Found.quiet (quiet_readActivationReadyReceipt _)).bind fun again => ?_
  refine (Found.quiet (.when _ (quiet_promoteCommittedActivation _))).bind fun _ => ?_
  refine Triple.bind (reportActivationStatus_triple (P := Found sha256 outcome)
    (Q := Matched sha256) fun trace host hw => ?_) fun _ => Preserves.pure _
  obtain ⟨hmatched, h, before, htrace, hfound⟩ := hw
  refine hmatched.cons fun _ _ => ?_
  exact .inr ⟨outcome, h, before, htrace, hfound hcommitted⟩

theorem reportRejected_keeps {state : SyncState} :
    Keeps sha256 (reportRejected state outcome) := by
  refine Preserves.bind (reportActivationStatus_triple (P := Matched sha256) fun _ _ hw => ?_)
    fun taken => ?_
  · exact hw.cons nofun
  have hmaintained := maintained_trace (Matched sha256)
  refine Preserves.ite ?_ (Preserves.pure _)
  exact hmaintained.removeCandidateIfMatches.bind fun _ => hmaintained.looks.bind fun _ => .pure _

theorem reportOutcome_keeps {state : SyncState} :
    Triple (fun w => Found sha256 outcome w.trace) (reportOutcome sha256 state outcome)
      (fun _ w => Matched sha256 w.trace) (fun _ w => Matched sha256 w.trace)
      (fun w => Matched sha256 w.trace) := by
  refine Triple.ite (fun hcommitted => reportCommitted_keeps hcommitted) fun _ => ?_
  exact Triple.pre reportRejected_keeps fun _ hw => hw.1

theorem consumeOutcome_keeps {state : SyncState} : Keeps sha256 (consumeOutcome sha256 state) := by
  refine Preserves.ite ?_ (Preserves.pure _)
  refine findOutcome_triple.bind fun result => ?_
  cases result with
  | none => exact Preserves.pure _
  | some outcome =>
    refine Triple.ite (fun _ => ?_) fun _ w hw => hw.1
    refine reportOutcome_keeps.bind fun state => ?_
    refine Preserves.bind (quiet_clearActivationReadyReceipt _) fun _ => ?_
    exact (maintained_trace (Matched sha256)).persist.bind fun _ => .pure _

/-! ## The answers of Cloud -/

/-- The last event is an answer 304 that needs no revalidation. -/
def Answered (sha256 : String → String) (etag : String) (state : SyncState) (arrived : Host)
    (trace : List Event) : Prop :=
  ∃ before, trace = .unchanged etag state arrived :: before ∧ Matched sha256 before

theorem Answered.matched {etag : String} {state : SyncState} {arrived : Host}
    (h : Answered sha256 etag state arrived trace) : Matched sha256 trace := by
  obtain ⟨before, rfl, hbefore⟩ := h
  exact hbefore.cons trivial

/-- The report of an unquestioned delivery rests on what was there when the answer arrived. -/
theorem Answered.reported {etag : String} {state : SyncState} {arrived host : Host}
    {status : ConfigurationStatus} (h : Answered sha256 etag state arrived trace)
    (hactive : status.state = .active → state.activationRequired = true → state.Unquestioned etag) :
    Matched sha256 (.reported status etag state.activationRequired host :: trace) := by
  have hmatched := h.matched
  obtain ⟨before, rfl, -⟩ := h
  rintro ⟨hlasts, htimely⟩
  refine ⟨fun hstate hrequired => .inl ?_, hmatched htimely⟩
  have hunquestioned := hactive hstate hrequired
  exact hlasts hunquestioned (htimely.1 hunquestioned)

variable {α : Type} {etag : String} {state : SyncState} {arrived : Host}

/-- The rest of the handler, if it does not report. -/
theorem Keeps.answered {m : Syn α} (hm : Keeps sha256 m) :
    Triple (fun w => Answered sha256 etag state arrived w.trace) m
      (fun _ w => Matched sha256 w.trace) (fun _ w => Matched sha256 w.trace)
      (fun w => Matched sha256 w.trace) :=
  Triple.pre hm fun _ hw => hw.matched

/-- A report that is made from the recorded phase. -/
theorem reportPhase_keeps {publicationId : Uuid} {contentHash : String} {status : Status}
    (hactive : status = .active → state.activationRequired = true → state.Unquestioned etag) :
    Triple (fun w => Answered sha256 etag state arrived w.trace)
      (reportConfigurationStatusFields publicationId contentHash etag status none
        state.activationRequired >>= fun _ => writeLocalSyncStatus)
      (fun _ w => Matched sha256 w.trace) (fun _ w => Matched sha256 w.trace)
      (fun w => Matched sha256 w.trace) :=
  Triple.bind (reportFields_triple (P := Answered sha256 etag state arrived) (Q := Matched sha256)
    fun _ _ hw => hw.reported hactive) fun _ => (maintained_trace _).writeLocalSyncStatus

theorem reportUnchanged_keeps {again : Option (Syn Unit)}
    (hagain : RetryPreserves (fun w => Matched sha256 w.trace) again)
    (hrejected : state.activationRejectedEtag ≠ some etag) :
    Triple (fun w => Answered sha256 etag state arrived w.trace) (reportUnchanged again state etag)
      (fun _ w => Matched sha256 w.trace) (fun _ w => Matched sha256 w.trace)
      (fun w => Matched sha256 w.trace) := by
  have hmaintained := maintained_trace (Matched sha256)
  unfold reportUnchanged
  split
  next publicationId contentHash hid hhash =>
    refine Triple.ite (fun _ => reportPhase_keeps nofun) fun _ => Triple.ite (fun hcommit => ?_) ?_
    · refine reportPhase_keeps fun _ hrequired => ?_
      exact ⟨hrequired, hcommit, hrejected, by rw [hid]; rfl, by rw [hhash]; rfl⟩
    · intro _
      cases again with
      | none => exact Keeps.answered (Preserves.fail _)
      | some retry => exact Keeps.answered (hmaintained.persist.bind fun _ => hagain retry rfl)
  next =>
    cases again with
    | none => exact Keeps.answered hmaintained.writeLocalSyncStatus
    | some retry => exact Keeps.answered (hmaintained.persist.bind fun _ => hagain retry rfl)

/-! ## Runs -/

/-- Every part of an invocation keeps what happened matched. -/
theorem upheld_matched :
    Upheld sha256 (fun _ => True) fun w => Matched sha256 w.trace where
  toMaintained := maintained_trace _
  answer _ hw := ⟨hw, fun _ _ => trivial⟩
  consumeOutcome := consumeOutcome_keeps
  report := reportConfigurationStatus_keeps
  handleNotModified {again state header} hagain := by
    have hmaintained := maintained_trace (Matched sha256)
    refine hmaintained.notModified hagain fun etag arrived => ?_
    refine Triple.bind (Q := fun _ w => Answered sha256 etag state arrived w.trace)
      (fun w hw => ⟨w.trace, rfl, hw⟩) fun _ => ?_
    refine Triple.ite (fun _ => Keeps.answered ?_) fun hrejected =>
      reportUnchanged_keeps hagain hrejected
    exact hmaintained.looks.bind fun _ => hmaintained.handleRejected hagain
  publishActivation _ _ _ _ := by
    have hmaintained := maintained_trace (Matched sha256)
    refine (Preserves.ensure _ _).bind fun _ => hmaintained.looks.bind fun h => ?_
    exact (Preserves.when _ (quiet_writes _)).bind fun _ => quiet_writes _

namespace Pending

/-- The digest of the delivery, and the name of its activation. -/
def digest : String := "00112233445566778899aabbccddeeff00112233445566778899aabbccddeeff"

def delivery : Delivery where
  etag := some (etagOf digest)
  wellFormed := true
  digest
  configuration := {
    activationPhase := "commit"
    projectionPublicationId := Vector.replicate 16 7
    projectionContentHash := digest
    segmentGeneration := 1
    projectionGeneration := 1
    peerProjectionCatalog := [] }
  verifyControl := .passed
  verifyCompatibility := .passed
  discoverControl := .passed
  discovery := ⟨[], ["peer"]⟩
  grants := .resolved
  publishable := true
  activationId := digest
  grantRefreshAfterUnix := 0
  grantExpiresAtUnix := 0

def host : Host where
  state := .absent
  candidate := none
  active := none
  activations := []
  receipt := .absent
  proof := .absent
  withdrawal := .absent
  agents := []
  cores := []
  statuses := []
  now := 1000

/-- What the agent publishes once it has committed an activation. -/
def receipt (d : ActivationDescriptor) : ActivationReadyReceipt where
  schemaVersion := 2
  activationId := d.activationId
  candidateTarget := target d.activationId
  generation := d.projectionGeneration
  agentPid := 100
  state := "committed"
  errorCode := none
  coreProof := some {
    pid := 200
    statusPath := "/run/candy/core.json"
    readinessTokenSha256 := digest
    processStartTicks := some 5 }

def status (d : ActivationDescriptor) : CoreStatus where
  schemaVersion := 3
  pid := 200
  generation := none
  policyGeneration := some d.projectionGeneration
  readinessToken := some digest
  lifecycle := "active"
  inboundListenerReady := true
  inboundListenerConfigured := true

/-- The agent commits this activation. -/
def commits (id : String) (h : Host) : Host :=
  match h.activations.lookup id with
  | none => { h with now := 1000 }
  | some d =>
    if d.activationId = id then
      { h with
        receipt := .present (receipt d)
        agents := [(100, true)]
        cores := [⟨200, false, "S", some 5⟩]
        statuses := [("/run/candy/core.json", .status (status d))]
        now := 1000 }
    else { h with now := 1000 }

/-- The agent commits after the first invocation. -/
def committing (n : ℕ) : Host → Host := if n = 11 then commits digest else id

/-- Cloud delivers a configuration in the first invocation and answers 304 in the second. -/
def moments (others : ℕ → Host → Host) (n : ℕ) : Moment where
  others := others n
  ready := true
  serverDigest := none
  write := .done
  reply := .noContent
  answer := if n = 2 then .ok delivery else .notModified (some (etagOf digest))

/-- Two invocations on a client. -/
def run (others : ℕ → Host → Host) : World :=
  (World.start host (moments others)).runs id [⟨false⟩, ⟨false⟩]

/-- The host once the candidate is published. -/
def published : Host :=
  { host with
    state := .present { SyncState.initial.delivered delivery (etagOf digest) true with
      serverConfigurationSha256 := none }
    candidate := some digest
    activations := [(digest, delivery.descriptor (etagOf digest) "client_sdwan")] }

theorem run_reports :
    ∃ status : ConfigurationStatus, status.state = .active ∧ ∃ state earlier,
      (run fun _ => id).trace = .reported status (etagOf digest) true published
        :: .unchanged (etagOf digest) state published :: earlier := by
  refine ⟨⟨Vector.replicate 16 7, digest, .active, none⟩, rfl,
    SyncState.initial.delivered delivery (etagOf digest) true, [], ?_⟩
  decide

theorem not_committed (sha256 : String → String) :
    ¬ published.Committed sha256 (etagOf digest) := by
  rintro (hreceipt | hproof)
  · exact hreceipt
  · exact hproof

end Pending

end CandyRuntime.CloudSync.Sync
