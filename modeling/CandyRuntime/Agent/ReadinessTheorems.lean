import CandyRuntime.Agent.Readiness

/-!
# What the classification of a readiness report means

One equation for each lifecycle takes the place of the ordered arms of `classify_core_readiness`;
`spare` are the arms that the lifecycles share. On them rests which reports the classification admits
(`classified_iff`): it is sound on all of them, but two gaps between its guards lead to the arm for
unknown lifecycles, and a few missing probes end a committed tunnel.
-/

namespace CandyRuntime.Agent.V1

open NetdProto CoreReadinessStatus

variable {status : CoreReadinessStatus} {policy : ReadinessPolicy}

/-! ## The lifecycles -/

/-- The lifecycles that Core reports. -/
def knownLifecycles : List String := ["starting", "active", "failed", "stopping", "stopped"]

/-- The arms about a loss of peers, before the others. -/
def spare (status : CoreReadinessStatus) (policy : ReadinessPolicy)
    (other : Except ReadinessError ReadinessState) : Except ReadinessError ReadinessState :=
  if status.recoverableCommittedPartialLoss policy then .ok .degraded
  else if status.recoverableCommittedPeerLoss policy then .ok .recoverablePeerLoss
  else if policy == .strict && status.recoverable && 0 < status.configuredPeers
      && 0 < status.requiredRouteOwners then .ok .waiting
  else other

theorem classify_starting (h : status.lifecycle = "starting") :
    classifyCoreReadiness status policy
      = if status.failOpenRequired then spare status policy (.error invalidLifecycle)
        else if status.listenerReady then .ok .listenerReady else .ok .waiting := by
  have hrunning : status.running = true := by simp [running, h]
  simp only [classifyCoreReadiness, h, hrunning, spare]
  grind

/-- The last two arms for an active Core. -/
def CoreReadinessStatus.unmatched (status : CoreReadinessStatus) : ReadinessError :=
  if status.failOpenRequired || status.requiredRouteOwners == 0 || status.readyRouteOwners == 0 then
    status.failed
  else invalidLifecycle

theorem classify_active (h : status.lifecycle = "active") :
    classifyCoreReadiness status policy
      = if !status.failOpenRequired && 0 < status.requiredRouteOwners
            && status.readyRouteOwners == 0 && status.lastErrorCode == some "stream_not_ready" then
          if status.listenerReady then .ok .listenerReady else .ok .waiting
        else if !status.failOpenRequired && 0 < status.requiredRouteOwners
            && status.readyRouteOwners == status.requiredRouteOwners
            && status.hasAuthenticatedPathEvidence then .ok .ready
        else if status.recoverableCommittedPartialLoss policy then .ok .degraded
        else if status.partlyReady then
          if status.listenerReady then .ok .degraded else .ok .waiting
        else spare status policy (.error status.unmatched) := by
  have hrunning : status.running = true := by simp [running, h]
  simp only [classifyCoreReadiness, h, hrunning, spare, unmatched]
  grind

theorem classify_failed (h : status.lifecycle = "failed") :
    classifyCoreReadiness status policy = spare status policy (.error status.failed) := by
  have hrunning : status.running = true := by simp [running, h]
  simp only [classifyCoreReadiness, h, hrunning, spare]
  grind

theorem classify_stopped (h : status.lifecycle = "stopping" ∨ status.lifecycle = "stopped") :
    classifyCoreReadiness status policy = .error status.failed := by
  rcases h with h | h
  · have hrunning : status.running = false := by simp [running, h]
    simp only [classifyCoreReadiness, h, hrunning]
    simp
  · have hrunning : status.running = false := by simp [running, h]
    simp only [classifyCoreReadiness, h, hrunning]
    simp

/-! ## Soundness -/

/-- The paths with evidence of a probe. -/
def CoreReadinessStatus.provenPaths (status : CoreReadinessStatus) : ℕ :=
  ((status.paths.getD []).filter usable).length

theorem provenPaths_of_evidence (h : status.hasAuthenticatedPathEvidence = true) :
    status.readyRouteOwners ≤ status.provenPaths := by
  unfold hasAuthenticatedPathEvidence at h
  unfold provenPaths
  cases hpaths : status.paths with
  | none => simp [hpaths] at h
  | some paths => simpa [hpaths] using h

/-- The arms about a loss of peers never admit a tunnel as a whole. -/
theorem spare_sound {e : ReadinessError} {state : ReadinessState}
    (h : spare status policy (.error e) = .ok state) :
    state ≠ .ready ∧ (state = .degraded → status.recoverableCommittedPartialLoss policy = true) := by
  unfold spare at h
  grind

theorem partial_sound (h : status.recoverableCommittedPartialLoss policy = true) :
    0 < status.readyRouteOwners ∧ status.readyRouteOwners < status.requiredRouteOwners
      ∧ status.readyRouteOwners ≤ status.provenPaths := by
  have hevidence : status.hasAuthenticatedPathEvidence = true →
      status.readyRouteOwners ≤ status.provenPaths := provenPaths_of_evidence
  simp only [recoverableCommittedPartialLoss] at h
  grind

/-- A tunnel is ready only with all its owners and as many answering paths; it is degraded only with
some of its owners. -/
theorem classify_sound (hlifecycle : status.lifecycle ∈ knownLifecycles) {state : ReadinessState}
    (h : classifyCoreReadiness status policy = .ok state) :
    (state = .ready → status.failOpenRequired = false ∧ 0 < status.requiredRouteOwners
      ∧ status.readyRouteOwners = status.requiredRouteOwners
      ∧ status.requiredRouteOwners ≤ status.provenPaths)
    ∧ (state = .degraded → 0 < status.readyRouteOwners
      ∧ status.readyRouteOwners < status.requiredRouteOwners
      ∧ status.readyRouteOwners ≤ status.provenPaths) := by
  have hevidence : status.hasAuthenticatedPathEvidence = true →
      status.readyRouteOwners ≤ status.provenPaths := provenPaths_of_evidence
  have hpartial : status.recoverableCommittedPartialLoss policy = true →
      0 < status.readyRouteOwners ∧ status.readyRouteOwners < status.requiredRouteOwners
        ∧ status.readyRouteOwners ≤ status.provenPaths := partial_sound
  have hspare : ∀ e, spare status policy (.error e) = .ok state → state ≠ .ready
      ∧ (state = .degraded → status.recoverableCommittedPartialLoss policy = true) :=
    fun e => spare_sound
  simp only [knownLifecycles, List.mem_cons, List.not_mem_nil, or_false] at hlifecycle
  rcases hlifecycle with hl | hl | hl | hl
  · rw [classify_starting hl] at h
    grind
  · rw [classify_active hl] at h
    simp only [partlyReady] at h
    grind
  · rw [classify_failed hl] at h
    grind
  · rw [classify_stopped hl] at h
    cases h

/-! ## The gaps between the guards -/

/-- The report with a sample for each owner that is ready. -/
def CoreReadinessStatus.evidenced (status : CoreReadinessStatus) : CoreReadinessStatus :=
  { status with paths := some (List.replicate status.readyRouteOwners ⟨1, 0⟩) }

/-- With enough probes the report would be admitted. -/
def CoreReadinessStatus.OnlyLacksEvidence (status : CoreReadinessStatus)
    (policy : ReadinessPolicy) : Prop :=
  status.hasAuthenticatedPathEvidence = false
    ∧ ∃ state, classifyCoreReadiness status.evidenced policy = .ok state

/-- Core starts, and reports nothing but that traffic has to go around it. -/
def CoreReadinessStatus.OnlyFailsOpen (status : CoreReadinessStatus) : Prop :=
  status.lifecycle = "starting" ∧ status.failOpenRequired = true ∧ status.lastErrorCode = none

/-- The report is classified as its fields say. -/
structure Classified (status : CoreReadinessStatus) (policy : ReadinessPolicy) : Prop where
  known : classifyCoreReadiness status policy ≠ .error invalidLifecycle
  ready : classifyCoreReadiness status policy = .ok .ready →
    status.failOpenRequired = false ∧ 0 < status.requiredRouteOwners
      ∧ status.readyRouteOwners = status.requiredRouteOwners
      ∧ status.requiredRouteOwners ≤ status.provenPaths
  degraded : classifyCoreReadiness status policy = .ok .degraded →
    0 < status.readyRouteOwners ∧ status.readyRouteOwners < status.requiredRouteOwners
      ∧ status.readyRouteOwners ≤ status.provenPaths
  spared : policy ≠ .strict → status.OnlyLacksEvidence policy ∨ status.OnlyFailsOpen →
    ∃ state ∈ [ReadinessState.waiting, .listenerReady, .recoverablePeerLoss],
      classifyCoreReadiness status policy = .ok state

/-- Some guard is about the report. -/
structure Covered (status : CoreReadinessStatus) (policy : ReadinessPolicy) : Prop where
  /-- A starting Core that fails open has lost peers that can come back. -/
  starting : status.lifecycle = "starting" → status.failOpenRequired = true →
    status.recoverable = true ∧ 0 < status.configuredPeers ∧ 0 < status.requiredRouteOwners
      ∧ (policy = .strict ∨ status.committedUnder policy = true
        ∧ (status.readyRouteOwners = 0 ∨ status.readyRouteOwners < status.requiredRouteOwners
          ∧ status.hasAuthenticatedPathEvidence = true))
  /-- The owners of an active Core that are ready have their probes. -/
  active : status.lifecycle = "active" → status.failOpenRequired = false →
    0 < status.readyRouteOwners →
    status.hasAuthenticatedPathEvidence = true ∨ policy = .strict ∧ status.recoverable = true
  /-- So have those that are left when a committed tunnel loses others. -/
  partlyLost : status.lifecycle = "active" ∨ status.lifecycle = "failed" →
    status.committedUnder policy = true → 0 < status.readyRouteOwners →
    status.readyRouteOwners < status.requiredRouteOwners →
    status.failOpenRequired = false ∨ status.recoverable = true →
    status.hasAuthenticatedPathEvidence = true

/-- The counters are those of a report that `read_core_status` takes. -/
structure CoreReadinessStatus.Counted (status : CoreReadinessStatus) : Prop where
  active : status.activePeers ≤ status.configuredPeers
  ready : status.readyRouteOwners ≤ status.activePeers
  required : status.readyRouteOwners ≤ status.requiredRouteOwners

theorem counted_of_read {file : Option CoreReadinessStatus} {generation pid : ℕ} {token : String}
    (h : readCoreStatus file generation pid token = .ok (some status)) : status.Counted := by
  unfold readCoreStatus at h
  cases file with
  | none => cases h
  | some found =>
    simp only at h
    split at h
    · cases h
    · split at h
      · cases h
      · split at h
        · cases h
        · split at h
          · cases h
          · split at h
            · cases h
            · next hcounters =>
              obtain rfl : found = status := by simpa using h
              simp only [not_or, Nat.not_lt] at hcounters
              exact ⟨hcounters.1, hcounters.2.1, hcounters.2.2⟩

/-- The arms about a loss of peers, in full. -/
theorem spare_eq (e : ReadinessError) :
    spare status policy (.error e)
      = if status.running && status.committedUnder policy && 0 < status.readyRouteOwners
            && status.readyRouteOwners < status.requiredRouteOwners
            && status.hasAuthenticatedPathEvidence
            && (!status.failOpenRequired || status.recoverable) then .ok .degraded
        else if status.running && status.committedUnder policy && status.failOpenRequired
            && status.readyRouteOwners == 0 && 0 < status.configuredPeers
            && 0 < status.requiredRouteOwners && status.recoverable then .ok .recoverablePeerLoss
        else if policy == .strict && status.recoverable && 0 < status.configuredPeers
            && 0 < status.requiredRouteOwners then .ok .waiting
        else .error e := by
  unfold spare recoverableCommittedPartialLoss recoverableCommittedPeerLoss
  grind

theorem evidence_evidenced (status : CoreReadinessStatus) :
    status.evidenced.hasAuthenticatedPathEvidence = true := by
  have husable : usable ⟨1, 0⟩ = true := by decide
  simp [evidenced, hasAuthenticatedPathEvidence, husable]

/-! ### An active Core -/

/-- Traffic has to go around Core. -/
theorem active_open (hl : status.lifecycle = "active") (hopen : status.failOpenRequired = true) :
    classifyCoreReadiness status policy = spare status policy (.error status.failed) := by
  rw [classify_active hl]
  simp only [partlyReady, unmatched, spare, hopen]
  grind

/-- No route owner is ready. -/
theorem active_idle (hl : status.lifecycle = "active") (hopen : status.failOpenRequired = false)
    (hready : status.readyRouteOwners = 0) :
    classifyCoreReadiness status policy
      = if 0 < status.requiredRouteOwners && status.lastErrorCode == some "stream_not_ready" then
          if status.listenerReady then .ok .listenerReady else .ok .waiting
        else if policy == .strict && status.recoverable && 0 < status.configuredPeers
            && 0 < status.requiredRouteOwners then .ok .waiting
        else .error status.failed := by
  rw [classify_active hl, spare_eq]
  simp only [partlyReady, unmatched, recoverableCommittedPartialLoss, hopen, hready]
  grind

/-- The ready owners have their probes. -/
theorem active_proven (hcounted : status.Counted) (hl : status.lifecycle = "active")
    (hopen : status.failOpenRequired = false) (hready : 0 < status.readyRouteOwners)
    (hevidence : status.hasAuthenticatedPathEvidence = true) :
    classifyCoreReadiness status policy
      = .ok (if status.readyRouteOwners == status.requiredRouteOwners then .ready
        else if status.recoverableCommittedPartialLoss policy || status.listenerReady then .degraded
        else .waiting) := by
  have hrequired := hcounted.required
  rw [classify_active hl]
  simp only [partlyReady, hopen, hevidence]
  grind

/-- They have not. -/
theorem active_unproven (hcounted : status.Counted) (hl : status.lifecycle = "active")
    (hopen : status.failOpenRequired = false) (hready : 0 < status.readyRouteOwners)
    (hevidence : status.hasAuthenticatedPathEvidence = false) :
    classifyCoreReadiness status policy
      = if policy == .strict && status.recoverable then .ok .waiting
        else .error invalidLifecycle := by
  have hconfigured := hcounted.active
  have hactive := hcounted.ready
  have hrequired := hcounted.required
  rw [classify_active hl, spare_eq]
  simp only [partlyReady, unmatched, recoverableCommittedPartialLoss, hopen, hevidence]
  grind

/-! ## Exactly the reports that a guard is about -/

theorem known_of_covered (hcounted : status.Counted) (hlifecycle : status.lifecycle ∈ knownLifecycles)
    (h : Covered status policy) : classifyCoreReadiness status policy ≠ .error invalidLifecycle := by
  have hfailed : status.failed ≠ invalidLifecycle := by simp [failed, invalidLifecycle]
  simp only [knownLifecycles, List.mem_cons, List.not_mem_nil, or_false] at hlifecycle
  rcases hlifecycle with hl | hl | hl | hl
  · have hrunning : status.running = true := by simp [running, hl]
    have hstarting := h.starting hl
    have hcounters := hcounted.required
    rw [classify_starting hl, spare_eq]
    grind
  · cases hopen : status.failOpenRequired with
    | true =>
      rw [active_open hl hopen, spare_eq]
      grind
    | false =>
      rcases Nat.eq_zero_or_pos status.readyRouteOwners with hzero | hready
      · rw [active_idle hl hopen hzero]
        grind
      · have hactive := h.active hl hopen hready
        cases hevidence : status.hasAuthenticatedPathEvidence with
        | true =>
          rw [active_proven hcounted hl hopen hready hevidence]
          exact nofun
        | false =>
          rw [active_unproven hcounted hl hopen hready hevidence]
          grind
  · rw [classify_failed hl, spare_eq]
    grind
  · rw [classify_stopped hl]
    simpa using hfailed

/-- With its probes, the report is spared if it names a loss of peers. -/
theorem spare_evidenced (hpolicy : policy ≠ .strict) (e : ReadinessError) :
    spare status.evidenced policy (.error e)
      = if status.running && status.committedUnder policy && 0 < status.readyRouteOwners
            && status.readyRouteOwners < status.requiredRouteOwners
            && (!status.failOpenRequired || status.recoverable) then .ok .degraded
        else if status.running && status.committedUnder policy && status.failOpenRequired
            && status.readyRouteOwners == 0 && 0 < status.configuredPeers
            && 0 < status.requiredRouteOwners && status.recoverable then .ok .recoverablePeerLoss
        else .error e := by
  have hevidence := evidence_evidenced status
  have hrunning : status.evidenced.running = status.running := rfl
  have hunder : status.evidenced.committedUnder policy = status.committedUnder policy := rfl
  have hrecoverable : status.evidenced.recoverable = status.recoverable := rfl
  rw [spare_eq, hevidence, hrunning, hunder, hrecoverable]
  simp only [evidenced]
  grind

/-- Without them it is spared only if no owner is ready. -/
theorem spare_unproven (hpolicy : policy ≠ .strict)
    (hevidence : status.hasAuthenticatedPathEvidence = false) (e : ReadinessError) :
    spare status policy (.error e)
      = if status.running && status.committedUnder policy && status.failOpenRequired
            && status.readyRouteOwners == 0 && 0 < status.configuredPeers
            && 0 < status.requiredRouteOwners && status.recoverable then .ok .recoverablePeerLoss
        else .error e := by
  rw [spare_eq, hevidence]
  grind

theorem spared_of_covered
    (hlifecycle : status.lifecycle ∈ knownLifecycles) (h : Covered status policy)
    (hpolicy : policy ≠ .strict) (hlacks : status.OnlyLacksEvidence policy) :
    ∃ state ∈ [ReadinessState.waiting, .listenerReady, .recoverablePeerLoss],
      classifyCoreReadiness status policy = .ok state := by
  obtain ⟨hevidence, state, hstate⟩ := hlacks
  simp only [knownLifecycles, List.mem_cons, List.not_mem_nil, or_false] at hlifecycle
  rcases hlifecycle with hl | hl | hl | hl
  · rw [classify_starting hl]
    cases hopen : status.failOpenRequired with
    | true =>
      have hrunning : status.running = true := by simp [running, hl]
      obtain ⟨hrecoverable, hconfigured, hrequired, hcommitted⟩ := h.starting hl hopen
      refine ⟨.recoverablePeerLoss, by simp, ?_⟩
      rw [if_pos rfl, spare_unproven hpolicy hevidence]
      grind
    | false =>
      cases status.listenerReady with
      | true => exact ⟨.listenerReady, by simp, rfl⟩
      | false => exact ⟨.waiting, by simp, rfl⟩
  · have hl' : status.evidenced.lifecycle = "active" := hl
    cases hopen : status.failOpenRequired with
    | true =>
      rw [active_open hl' hopen, spare_evidenced hpolicy] at hstate
      have hpartly := h.partlyLost (.inl hl)
      refine ⟨.recoverablePeerLoss, by simp, ?_⟩
      rw [active_open hl hopen, spare_unproven hpolicy hevidence]
      grind
    | false =>
      rcases Nat.eq_zero_or_pos status.readyRouteOwners with hzero | hready
      · -- no owner is ready, and the paths are not looked at
        have hsame : classifyCoreReadiness status.evidenced policy
            = classifyCoreReadiness status policy := by
          rw [active_idle hl' hopen hzero, active_idle hl hopen hzero]
          rfl
        rw [hsame] at hstate
        refine ⟨state, ?_, hstate⟩
        rw [active_idle hl hopen hzero] at hstate
        grind
      · have hactive := h.active hl hopen hready
        grind
  · have hl' : status.evidenced.lifecycle = "failed" := hl
    rw [classify_failed hl', spare_evidenced hpolicy] at hstate
    have hpartly := h.partlyLost (.inr hl)
    refine ⟨.recoverablePeerLoss, by simp, ?_⟩
    rw [classify_failed hl, spare_unproven hpolicy hevidence]
    grind
  · have hl' : status.evidenced.lifecycle = "stopping" ∨ status.evidenced.lifecycle = "stopped" := hl
    rw [classify_stopped hl'] at hstate
    cases hstate

theorem recoverable_of_none (h : status.lastErrorCode = none) : status.recoverable = false := by
  simp [recoverable, recoverablePeerLossCode, recoverableStreamNotReady, h]

theorem classified_of_covered (hcounted : status.Counted)
    (hlifecycle : status.lifecycle ∈ knownLifecycles) (h : Covered status policy) :
    Classified status policy where
  known := known_of_covered hcounted hlifecycle h
  ready hready := (classify_sound hlifecycle hready).1 rfl
  degraded hdegraded := (classify_sound hlifecycle hdegraded).2 rfl
  spared hpolicy honly := by
    rcases honly with hlacks | ⟨hl, hopen, hcode⟩
    · exact spared_of_covered hlifecycle h hpolicy hlacks
    · -- a report without an error code names no loss of peers
      have hrecoverable := (h.starting hl hopen).1
      rw [recoverable_of_none hcode] at hrecoverable
      cases hrecoverable

theorem covered_of_classified (hcounted : status.Counted) (h : Classified status policy) :
    Covered status policy where
  starting hl hopen := by
    have hrunning : status.running = true := by simp [running, hl]
    have hknown := h.known
    have hactive := hcounted.active
    have hready := hcounted.ready
    rw [classify_starting hl, if_pos hopen, spare_eq] at hknown
    grind
  active hl hopen hready := by
    cases hevidence : status.hasAuthenticatedPathEvidence with
    | true => exact .inl rfl
    | false =>
      have hknown := h.known
      rw [active_unproven hcounted hl hopen hready hevidence] at hknown
      grind
  partlyLost hl hunder hready hrequired hloss := by
    have hpolicy : policy ≠ .strict := by
      rintro rfl
      simp [committedUnder] at hunder
    by_contra hevidence
    rw [Bool.not_eq_true] at hevidence
    have hrunning : status.running = true := by
      unfold running
      grind
    have hspare : ∀ e, spare status.evidenced policy (.error e) = .ok .degraded := by
      intro e
      rw [spare_evidenced hpolicy]
      grind
    rcases hl with hl | hl
    · have hl' : status.evidenced.lifecycle = "active" := hl
      cases hopen : status.failOpenRequired with
      | true =>
        have hlacks : status.OnlyLacksEvidence policy :=
          ⟨hevidence, .degraded, by rw [active_open hl' hopen, hspare]⟩
        obtain ⟨state, -, hstate⟩ := h.spared hpolicy (.inl hlacks)
        rw [active_open hl hopen, spare_unproven hpolicy hevidence] at hstate
        grind
      | false =>
        have hknown := h.known
        rw [active_unproven hcounted hl hopen hready hevidence] at hknown
        grind
    · have hl' : status.evidenced.lifecycle = "failed" := hl
      have hlacks : status.OnlyLacksEvidence policy :=
        ⟨hevidence, .degraded, by rw [classify_failed hl', hspare]⟩
      obtain ⟨state, -, hstate⟩ := h.spared hpolicy (.inl hlacks)
      rw [classify_failed hl, spare_unproven hpolicy hevidence] at hstate
      grind

/-- A report that `read_core_status` takes is classified as its fields say exactly if one of the
guards is about it. -/
theorem classified_iff {generation pid : ℕ} {token : String}
    (hread : readCoreStatus (some status) generation pid token = .ok (some status))
    (hlifecycle : status.lifecycle ∈ knownLifecycles) :
    Classified status policy ↔ Covered status policy :=
  ⟨covered_of_classified (counted_of_read hread),
    classified_of_covered (counted_of_read hread) hlifecycle⟩

/-- Two owners are ready, and both paths answer. -/
def twoOwners : CoreReadinessStatus where
  schemaVersion := 3
  generation := 9
  policyGeneration := 0
  pid := 42
  readinessToken := "00112233445566778899aabbccddeeff"
  lifecycle := "active"
  configuredPeers := 2
  activePeers := 2
  requiredRouteOwners := 2
  readyRouteOwners := 2
  failedPrefixes := some []
  inboundListenerConfigured := false
  inboundListenerReady := false
  inboundListenerEndpoints := []
  failOpenRequired := false
  lastErrorCode := none
  lastErrorDetail := none
  paths := some [⟨1, 0⟩, ⟨2, 0⟩]

theorem classified_twoOwners :
    Classified twoOwners .committed ↔ Covered twoOwners .committed :=
  classified_iff (show readCoreStatus (some twoOwners) 9 42 "00112233445566778899aabbccddeeff"
    = .ok (some twoOwners) by decide) (by decide)

/-- One of the paths has missed three probes in a row. -/
def silentPath : CoreReadinessStatus := { twoOwners with paths := some [⟨1, 0⟩, ⟨2, 3⟩] }

theorem not_classified_silentPath :
    readCoreStatus (some silentPath) 9 42 "00112233445566778899aabbccddeeff" = .ok (some silentPath)
      ∧ silentPath.lifecycle ∈ knownLifecycles ∧ ¬ Classified silentPath .committed := by
  refine ⟨by decide, by decide, fun h => h.known ?_⟩
  decide

end CandyRuntime.Agent.V1
