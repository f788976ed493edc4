import CandyRuntime.CloudSync.UpgradeReceipts

/-!
# Handoff evidence of upgrade jobs

Completion evidence is a copy of a marker and names its job; failure evidence names a version only.
In a history in which every marker is written over clean ground (`Clean`), the evidence that a job
meets under its own version is its own.
-/

namespace CandyRuntime.CloudSync.Upgrade

open Lib Lib.Proc

variable {now : ℕ+} {job : Uuid} {j : Journal}

/-- No evidence of the version of the marker is there when the marker is written, and no helper is
at work. -/
def CleanGround (m : RuntimeHandoffMarker) (disk : Disk) (helpers : Helpers) : Prop :=
  (∀ c, disk.completed = some c → c.version ≠ m.version)
    ∧ (∀ f, disk.failure = some f → f.version ≠ m.version)
    ∧ helpers.holder = none ∧ helpers.waiting = []

/-- Every marker is written over clean ground. -/
def Clean (trace : List Event) : Prop :=
  ∀ m disk helpers, .marked m disk helpers ∈ trace → CleanGround m disk helpers

/-- The errors of a run that evidence can cause. -/
def evidenceErrors : List String :=
  ["runtime_handoff_completion_conflict", "runtime_handoff_failure_invalid"]

/-- What every event has to satisfy, given those before it. -/
def EvidenceLaw (openwrt : Bool) : Event → List Event → Prop
  | .submitted r _ disk, earlier =>
    (r.state = "failed" → r.phase = "runtime_handoff" →
        ∃ f, .recorded r.id f ∈ earlier ∧ r.errorCode = some f.errorCode)
      ∧ (r.state = "succeeded" → ∀ j, disk.journal = some j → j.handsOff openwrt = true →
        ∃ m, m.jobId = r.id ∧ .completed m ∈ earlier)
  | .ended (.error e), _ => e ∉ evidenceErrors
  | _, _ => True

/-- What the journal on the disk says about evidence. -/
structure JournalEvidence (trace : List Event) (j : Journal) : Prop where
  unfailed : j.phase ≠ .failed → j.failurePhase = none
  failed : j.failurePhase = some "runtime_handoff" →
    ∃ f, .recorded j.job.id f ∈ trace ∧ j.errorCode = some f.errorCode

/-- What the marker on the disk says about the evidence and the helpers. -/
structure MarkerEvidence (openwrt : Bool) (w : Node) (m : RuntimeHandoffMarker) : Prop where
  valid : m.isValid = true
  completed : ∀ c, w.disk.completed = some c → c = m ∨ c.version ≠ m.version
  failure : ∀ f, w.disk.failure = some f → f.version = m.version → .recorded m.jobId f ∈ w.trace
  waiting : ∀ id ∈ w.helpers.waiting, id = m.jobId
  holder : ∀ h, w.helpers.holder = some h → h.job = m.jobId
  journal : ∀ j, w.disk.journal = some j → j.handsOff openwrt = true →
    m.jobId = j.job.id ∧ m.version = j.job.target.version

/-- The invariant on evidence. -/
structure Evidence (openwrt : Bool) (w : Node) : Prop where
  law : Always (EvidenceLaw openwrt) w.trace
  journal : ∀ j, w.disk.journal = some j → JournalEvidence w.trace j
  marker : ∀ m, w.disk.marker = some m → MarkerEvidence openwrt w m
  completed : ∀ c, w.disk.completed = some c →
    c.schemaVersion = 1 ∧ token c.version = true ∧ .completed c ∈ w.trace
  failure : ∀ f, w.disk.failure = some f → f.isValid = true
  holder : ∀ h, w.helpers.holder = some h → token h.version = true

section Steps

variable {openwrt : Bool} {w w' : Node}

theorem token_validToken {value : String} (h : token value = true) : validToken value = true := by
  unfold token isToken at h
  unfold validToken isToken
  simp only [Bool.and_eq_true, decide_eq_true_eq] at h ⊢
  exact ⟨⟨h.1.1, by omega⟩, h.2⟩

theorem HandoffCode.token (code : HandoffCode) : token code.text = true := by
  cases code <;> decide

/-- The journal and the marker are as they were; evidence that has gone does not matter. -/
theorem Evidence.frame (h : Evidence openwrt w) (new : List Event)
    (htrace : w'.trace = new ++ w.trace) (hlaw : Always (EvidenceLaw openwrt) w'.trace)
    (hjournal : w'.disk.journal = w.disk.journal)
    (hmarker : ∀ m, w'.disk.marker = some m → MarkerEvidence openwrt w' m)
    (hcompleted : ∀ c, w'.disk.completed = some c →
      c.schemaVersion = 1 ∧ token c.version = true ∧ .completed c ∈ w'.trace)
    (hfailure : ∀ f, w'.disk.failure = some f → f.isValid = true)
    (hholder : ∀ h, w'.helpers.holder = some h → token h.version = true) :
    Evidence openwrt w' := by
  refine ⟨hlaw, fun j hj => ?_, hmarker, hcompleted, hfailure, hholder⟩
  rw [hjournal] at hj
  refine ⟨(h.journal j hj).unfailed, fun hphase => ?_⟩
  obtain ⟨f, hf, hcode⟩ := (h.journal j hj).failed hphase
  refine ⟨f, ?_, hcode⟩
  rw [htrace]
  exact List.mem_append_right new hf

/-- Failure evidence is written, and if it is of the version of the marker, it is for the job of
the marker. -/
theorem Evidence.records (h : Evidence openwrt w) {f : RuntimeHandoffFailure}
    (hvalid : f.isValid = true) (hjob : ∀ m, w.disk.marker = some m → job = m.jobId) :
    Evidence openwrt (w.records job f) := by
  refine h.frame [.recorded job f] rfl ⟨trivial, h.law⟩ rfl
    ?_ ?_ ?_ h.holder
  · intro m hm
    have hold := h.marker m hm
    refine ⟨hold.valid, hold.completed, ?_, hold.waiting, hold.holder, hold.journal⟩
    intro f' hf' _
    cases hf'
    rw [← hjob m hm]
    exact List.mem_cons_self
  · intro c hc
    obtain ⟨hschema, htoken, hmem⟩ := h.completed c hc
    exact ⟨hschema, htoken, List.mem_cons_of_mem _ hmem⟩
  · intro f' hf'
    cases hf'
    exact hvalid

/-- The helper with the lock is at another stage. -/
theorem Evidence.holds (h : Evidence openwrt w) {holder : Option Helper}
    (hjob : ∀ h', holder = some h' → ∀ m, w.disk.marker = some m → h'.job = m.jobId)
    (htoken : ∀ h', holder = some h' → token h'.version = true) :
    Evidence openwrt (w.holds holder) := by
  refine h.frame [] rfl h.law rfl ?_ h.completed h.failure htoken
  intro m hm
  have hold := h.marker m hm
  exact ⟨hold.valid, hold.completed, hold.failure, hold.waiting, fun h' hh' => hjob h' hh' m hm,
    hold.journal⟩

theorem Evidence.exits (h : Evidence openwrt w) : Evidence openwrt (w.holds none) :=
  h.holds nofun nofun

theorem Evidence.failHandoff (h : Evidence openwrt w) {code : HandoffCode} {version : String}
    (hjob : ∀ m, w.disk.marker = some m → job = m.jobId) (htoken : token version = true) :
    Evidence openwrt (w.failHandoff job code version now) := by
  refine h.records ?_ hjob
  unfold RuntimeHandoffFailure.isValid
  dsimp only
  rw [token_validToken htoken, if_pos rfl, htoken, code.token]
  simp

/-- The helper with the lock fails. -/
theorem Evidence.fails (h : Evidence openwrt w) {helper : Helper} {code : HandoffCode}
    {version : String} (hjob : ∀ m, w.disk.marker = some m → helper.job = m.jobId)
    (htoken : token version = true) : Evidence openwrt (w.fails helper code version now) :=
  (h.failHandoff hjob htoken).exits

theorem Evidence.dropsFailure (h : Evidence openwrt w) : Evidence openwrt w.dropsFailure := by
  refine h.frame [] rfl h.law rfl ?_ h.completed nofun h.holder
  intro m hm
  have hold := h.marker m hm
  exact ⟨hold.valid, hold.completed, nofun, hold.waiting, hold.holder, hold.journal⟩

theorem Evidence.dropsCompleted (h : Evidence openwrt w) : Evidence openwrt w.dropsCompleted := by
  refine h.frame [] rfl h.law rfl ?_ nofun h.failure h.holder
  intro m hm
  have hold := h.marker m hm
  exact ⟨hold.valid, nofun, hold.failure, hold.waiting, hold.holder, hold.journal⟩

theorem Evidence.dropsMarker (h : Evidence openwrt w) : Evidence openwrt w.dropsMarker :=
  h.frame [] rfl h.law rfl nofun h.completed h.failure h.holder

/-! ## The helpers -/

theorem Evidence.loads (h : Evidence openwrt w) :
    Evidence openwrt (w.loads (.starting job) now) := by
  unfold Node.loads
  split
  · next hnone =>
    refine h.fails (fun m hm => ?_) (by decide)
    rw [hnone] at hm
    cases hm
  next marker hmarker =>
  have hvalid := (h.marker marker hmarker).valid
  unfold RuntimeHandoffMarker.isValid at hvalid
  simp only [Bool.and_eq_true] at hvalid
  have hown (m : RuntimeHandoffMarker) (hm : w.disk.marker = some m) : marker.jobId = m.jobId := by
    rw [hmarker] at hm
    cases hm
    rfl
  split
  · refine h.holds ?_ ?_
    · rintro _ ⟨⟩ m hm
      exact hown m hm
    · rintro _ ⟨⟩
      exact hvalid.1.1.1.2
  · exact h.fails hown hvalid.1.1.1.2

section Holder

variable {marker : RuntimeHandoffMarker}
  (hjob : ∀ m, w.disk.marker = some m → marker.jobId = m.jobId)
  (htoken : token marker.version = true)

include hjob htoken

/-- The helper goes on with the marker it has read. -/
theorem Evidence.continues (h : Evidence openwrt w) {helper : Helper}
    (hhelper : helper.job = marker.jobId) (hversion : helper.version = marker.version) :
    Evidence openwrt (w.holds (some helper)) := by
  refine h.holds ?_ ?_
  · rintro _ ⟨⟩ m hm
    rw [hhelper]
    exact hjob m hm
  · rintro _ ⟨⟩
    rw [hversion]
    exact htoken

theorem Evidence.compares (h : Evidence openwrt w) :
    Evidence openwrt (w.compares marker now) := by
  unfold Node.compares
  split
  · exact h.continues hjob htoken rfl rfl
  split
  · exact h.dropsFailure.exits
  split
  · exact Evidence.continues (w := w.dropsCompleted) hjob htoken h.dropsCompleted rfl rfl
  · exact h.fails hjob htoken

theorem Evidence.restarts (h : Evidence openwrt w) {binary loop : String} {running : Bool} :
    Evidence openwrt (w.restarts marker binary loop running now) := by
  unfold Node.restarts
  split_ifs
  · exact h.fails hjob htoken
  · exact h.fails hjob htoken
  · exact h.fails hjob htoken
  · exact h.continues hjob htoken rfl rfl

theorem Evidence.publishes (h : Evidence openwrt w) :
    Evidence openwrt (w.publishes marker now) := by
  unfold Node.publishes
  split
  · exact h.fails hjob htoken
  next current hmarker =>
  have hold := h.marker current hmarker
  have hvalid := hold.valid
  unfold RuntimeHandoffMarker.isValid at hvalid
  simp only [Bool.and_eq_true, decide_eq_true_eq] at hvalid
  have hcopied : Evidence openwrt
      ({ w with disk := { w.disk with completed := some current } }.logs (.completed current)) := by
    refine h.frame [.completed current] rfl ⟨trivial, h.law⟩ rfl
      ?_ ?_ h.failure h.holder
    · intro m hm
      have hsame : current = m := Option.some.inj (hmarker.symm.trans hm)
      subst hsame
      refine ⟨hold.valid, ?_, ?_, hold.waiting, hold.holder, hold.journal⟩
      · rintro _ ⟨⟩
        exact .inl rfl
      · intro f hf hversion
        exact List.mem_cons_of_mem _ (hold.failure f hf hversion)
    · rintro _ ⟨⟩
      exact ⟨hvalid.1.1.1.1, hvalid.1.1.1.2, List.mem_cons_self⟩
  refine hcopied.holds ?_ ?_
  · rintro _ ⟨⟩
    exact hjob
  · rintro _ ⟨⟩
    exact htoken

end Holder

/-- A helper that has started leaves the queue. -/
theorem Evidence.leaves (h : Evidence openwrt w) {waiting : List Uuid}
    (hwaiting : w.helpers.waiting = job :: waiting) :
    Evidence openwrt { w with helpers := { w.helpers with waiting } } := by
  refine h.frame [] rfl h.law rfl ?_ h.completed h.failure h.holder
  intro m hm
  have hold := h.marker m hm
  refine ⟨hold.valid, hold.completed, hold.failure, ?_, hold.holder, hold.journal⟩
  intro id hid
  refine hold.waiting id ?_
  rw [hwaiting]
  exact List.mem_cons_of_mem job hid

theorem Evidence.moves (h : Evidence openwrt w) (move : Move) : Evidence openwrt (w.moves move) := by
  have hqueued {job : Uuid} {waiting : List Uuid} (hwaiting : w.helpers.waiting = job :: waiting)
      (m : RuntimeHandoffMarker) (hm : w.disk.marker = some m) : job = m.jobId := by
    refine (h.marker m hm).waiting job ?_
    rw [hwaiting]
    exact List.mem_cons_self
  have hheld {helper : Helper} (hholder : w.helpers.holder = some helper)
      (m : RuntimeHandoffMarker) (hm : w.disk.marker = some m) : helper.job = m.jobId :=
    (h.marker m hm).holder helper hholder
  unfold Node.moves
  cases move with
  | enter =>
    dsimp only
    split
    · next job waiting hwaiting _ =>
      refine (h.leaves hwaiting).holds ?_ ?_
      · rintro _ ⟨⟩
        exact hqueued hwaiting
      · rintro _ ⟨⟩
        exact (by decide : token "unknown" = true)
    · next hwaiting _ => exact h.leaves hwaiting
    · exact h
  | contend now =>
    dsimp only
    split
    · next job waiting hwaiting =>
      exact (h.leaves hwaiting).failHandoff (hqueued hwaiting) (by decide)
    · exact h
  | load now =>
    dsimp only
    split
    · exact h.loads
    · exact h
  | compare now =>
    dsimp only
    split
    · next marker hholder =>
      have hjob (m : RuntimeHandoffMarker) (hm : w.disk.marker = some m) :
          marker.jobId = m.jobId := hheld hholder m hm
      have htoken : token marker.version = true := h.holder (.loaded marker) hholder
      exact h.compares hjob htoken
    · exact h
  | restart binary loop running now =>
    dsimp only
    split
    · next marker hholder =>
      have hjob (m : RuntimeHandoffMarker) (hm : w.disk.marker = some m) :
          marker.jobId = m.jobId := hheld hholder m hm
      have htoken : token marker.version = true := h.holder (.cleared marker) hholder
      exact h.restarts hjob htoken
    · exact h
  | publish now =>
    dsimp only
    split
    · next marker hholder =>
      have hjob (m : RuntimeHandoffMarker) (hm : w.disk.marker = some m) :
          marker.jobId = m.jobId := hheld hholder m hm
      have htoken : token marker.version = true := h.holder (.restarted marker) hholder
      exact h.publishes hjob htoken
    · exact h
  | clear =>
    dsimp only
    split
    · exact h.dropsFailure.exits
    · exact h
  | abort code now =>
    dsimp only
    split
    · next helper hholder => exact h.fails (hheld hholder) (h.holder _ hholder)
    · exact h
  | die => exact h.exits

theorem Evidence.foldl_moves (h : Evidence openwrt w) (moves : List Move) :
    Evidence openwrt (moves.foldl Node.moves w) := by
  induction moves generalizing w with
  | nil => exact h
  | cons move moves ih => exact ih (h.moves move)

/-! ## Steps of the worker -/

/-- The marker is written over clean ground. -/
theorem Evidence.marks (h : Evidence openwrt w) {m : RuntimeHandoffMarker}
    (hclean : CleanGround m w.disk w.helpers) (hvalid : m.isValid = true)
    (hjournal : ∀ j, w.disk.journal = some j → j.handsOff openwrt = true →
      m.jobId = j.job.id ∧ m.version = j.job.target.version) : Evidence openwrt (w.marks m) := by
  obtain ⟨hcompleted, hfailure, hholder, hwaiting⟩ := hclean
  refine h.frame [.marked m w.disk w.helpers] rfl ⟨trivial, h.law⟩ rfl ?_ ?_ h.failure h.holder
  · rintro _ ⟨⟩
    refine ⟨hvalid, fun c hc => .inr (hcompleted c hc), ?_, ?_, ?_, hjournal⟩
    · intro f hf hversion
      exact absurd hversion (hfailure f hf)
    · intro id hid
      change id ∈ w.helpers.waiting at hid
      rw [hwaiting] at hid
      cases hid
    · intro helper hhelper
      change w.helpers.holder = some helper at hhelper
      rw [hholder] at hhelper
      cases hhelper
  · intro c hc
    obtain ⟨hschema, htoken, hmem⟩ := h.completed c hc
    exact ⟨hschema, htoken, List.mem_cons_of_mem _ hmem⟩

/-- A helper is started for the marker that is there. -/
theorem Evidence.starts (h : Evidence openwrt w) : Evidence openwrt w.starts := by
  unfold Node.starts
  split
  · next marker hmarker =>
    refine h.frame [] rfl h.law rfl ?_ h.completed h.failure h.holder
    intro m hm
    have hsame : marker = m := Option.some.inj (hmarker.symm.trans hm)
    have hold := h.marker m hm
    refine ⟨hold.valid, hold.completed, hold.failure, ?_, hold.holder, hold.journal⟩
    intro id hid
    rcases List.mem_append.mp hid with hbefore | hnow
    · exact hold.waiting id hbefore
    · rw [List.mem_singleton.mp hnow, hsame]
  · exact h

/-- An event of the worker. -/
theorem Evidence.logs (h : Evidence openwrt w) {event : Event}
    (hlaw : EvidenceLaw openwrt event w.trace) : Evidence openwrt (w.logs event) := by
  refine h.frame [event] rfl ⟨hlaw, h.law⟩ rfl ?_ ?_ h.failure h.holder
  · intro m hm
    have hold := h.marker m hm
    refine ⟨hold.valid, hold.completed, ?_, hold.waiting, hold.holder, hold.journal⟩
    intro f hf hversion
    exact List.mem_cons_of_mem _ (hold.failure f hf hversion)
  · intro c hc
    obtain ⟨hschema, htoken, hmem⟩ := h.completed c hc
    exact ⟨hschema, htoken, List.mem_cons_of_mem _ hmem⟩

/-- A journal is written or removed. -/
theorem Evidence.rejournals (h : Evidence openwrt w) {journal : Option Journal} {event : Event}
    (hlaw : EvidenceLaw openwrt event w.trace)
    (hjournal : ∀ j, journal = some j → JournalEvidence (event :: w.trace) j)
    (hmarker : ∀ j, journal = some j → j.handsOff openwrt = true → ∀ m, w.disk.marker = some m →
      m.jobId = j.job.id ∧ m.version = j.job.target.version) :
    Evidence openwrt ({ w with disk := { w.disk with journal } }.logs event) := by
  have hlogged := h.logs hlaw
  refine ⟨hlogged.law, hjournal, ?_, hlogged.completed, hlogged.failure, hlogged.holder⟩
  intro m hm
  have hold := hlogged.marker m hm
  exact ⟨hold.valid, hold.completed, hold.failure, hold.waiting, hold.holder,
    fun j hj hhands => hmarker j hj hhands m hm⟩

theorem Evidence.removes (h : Evidence openwrt w) :
    Evidence openwrt (w.removes j) := h.rejournals trivial nofun nofun

/-- A journal that hands nothing off is written. -/
theorem Evidence.journals (h : Evidence openwrt w)
    (hunfailed : j.phase ≠ .failed → j.failurePhase = none)
    (hfailed : j.failurePhase = some "runtime_handoff" →
      ∃ f, .recorded j.job.id f ∈ w.trace ∧ j.errorCode = some f.errorCode)
    (hmarker : j.handsOff openwrt = true → w.disk.marker = none) :
    Evidence openwrt (w.journals j) := by
  refine h.rejournals trivial ?_ ?_
  · rintro _ ⟨⟩
    refine ⟨hunfailed, fun hphase => ?_⟩
    obtain ⟨f, hf, hcode⟩ := hfailed hphase
    exact ⟨f, List.mem_cons_of_mem _ hf, hcode⟩
  · rintro _ ⟨⟩ hhands m hm
    rw [hmarker hhands] at hm
    cases hm

/-- A receipt, as the journal on the disk has it. -/
theorem Evidence.submits (h : Evidence openwrt w) (hj : w.disk.journal = some j) {state : String}
    {running : Option String} (hcompleted : state = "succeeded" → j.handsOff openwrt = true →
      ∃ m, w.disk.completed = some m ∧ m.jobId = j.job.id) :
    Evidence openwrt (w.logs (.submitted (receiptBody j state) running w.disk)) := by
  refine h.logs ⟨fun _ hphase => ?_, fun hstate j' hj' hhands => ?_⟩
  · have hfailure : j.failurePhase = some "runtime_handoff" := by
      change j.failurePhase.getD j.phase.text = "runtime_handoff" at hphase
      cases hcase : j.failurePhase with
      | some phase =>
        rw [hcase] at hphase
        exact congrArg some hphase
      | none =>
        rw [hcase] at hphase
        cases hj : j.phase <;> rw [hj] at hphase <;> exact absurd hphase (by decide)
    exact (h.journal j hj).failed hfailure
  · rw [hj] at hj'
    cases hj'
    obtain ⟨m, hm, hjob⟩ := hcompleted hstate hhands
    exact ⟨m, hjob, (h.completed m hm).2.2⟩

end Steps

end CandyRuntime.CloudSync.Upgrade
