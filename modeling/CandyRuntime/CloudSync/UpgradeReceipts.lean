import CandyRuntime.CloudSync.Upgrade
import CandyRuntime.Lib.Trace

/-!
# Receipts of upgrade jobs

What the journal on the disk says about the receipts that were submitted and acknowledged. The
helpers do not touch the journal or the marker, and completion evidence that is a copy of the
marker stays (`Moved`).
-/

namespace CandyRuntime.CloudSync.Upgrade

open Lib Lib.Proc

variable {now : ℕ+} {marker : RuntimeHandoffMarker} {id : Uuid}

/-! ## What the helpers can do -/

/-- An event that says nothing about journals, the installer or receipts. -/
def Event.plain : Event → Prop
  | .offered _ | .marked _ _ _ | .recorded _ _ | .completed _ | .ended _ => True
  | _ => False

/-- An event of the helpers. -/
def Event.ofHelper : Event → Prop
  | .recorded _ _ | .completed _ => True
  | _ => False

theorem Event.ofHelper.plain {event : Event} (h : event.ofHelper) : event.plain := by
  cases event <;> trivial

/-- From `w` to `w'` only the helpers have worked. -/
structure Moved (w w' : Node) : Prop where
  journal : w'.disk.journal = w.disk.journal
  marker : w'.disk.marker = w.disk.marker
  confirmed : ∀ m, w.disk.marker = some m → w.disk.completed = some m → w'.disk.completed = some m
  trace : ∃ new, w'.trace = new ++ w.trace ∧ ∀ event ∈ new, event.ofHelper

namespace Moved

variable {w w' w'' : Node}

theorem refl (w : Node) : Moved w w := ⟨rfl, rfl, fun _ _ h => h, [], rfl, by simp⟩

theorem trans (h : Moved w w') (h' : Moved w' w'') : Moved w w'' := by
  obtain ⟨new, htrace, hnew⟩ := h.trace
  obtain ⟨new', htrace', hnew'⟩ := h'.trace
  refine ⟨h'.journal.trans h.journal, h'.marker.trans h.marker, ?_, new' ++ new, ?_, ?_⟩
  · intro m hmarker hcompleted
    exact h'.confirmed m (h.marker.trans hmarker) (h.confirmed m hmarker hcompleted)
  · rw [htrace', htrace, List.append_assoc]
  · intro event hevent
    rcases List.mem_append.mp hevent with hlate | hearly
    · exact hnew' event hlate
    · exact hnew event hearly

/-- Only the stage of a helper has changed. -/
theorem of_helpers (hdisk : w'.disk = w.disk) (htrace : w'.trace = w.trace) : Moved w w' := by
  refine ⟨?_, ?_, ?_, [], htrace, by simp⟩
  · rw [hdisk]
  · rw [hdisk]
  · intro m _ hcompleted
    rw [hdisk]
    exact hcompleted

theorem mem (h : Moved w w') {event : Event} (hevent : event ∈ w.trace) : event ∈ w'.trace := by
  obtain ⟨new, htrace, _⟩ := h.trace
  rw [htrace]
  exact List.mem_append_right new hevent

end Moved

section Moves

variable {w : Node}

theorem failHandoff_moved {job : Uuid} {code : HandoffCode} {version : String} :
    Moved w (w.failHandoff job code version now) := by
  refine ⟨rfl, rfl, fun _ _ h => h, [_], rfl, ?_⟩
  intro event hevent
  rw [List.mem_singleton.mp hevent]
  trivial

theorem holds_moved {holder : Option Helper} : Moved w (w.holds holder) := .of_helpers rfl rfl

theorem fails_moved {h : Helper} {code : HandoffCode} {version : String} :
    Moved w (w.fails h code version now) := failHandoff_moved.trans holds_moved

theorem loads_moved {h : Helper} : Moved w (w.loads h now) := by
  unfold Node.loads
  split
  · exact fails_moved
  · split
    · exact holds_moved
    · exact fails_moved

theorem compares_moved :
    Moved w (w.compares marker now) := by
  unfold Node.compares
  split
  · exact holds_moved
  next completed hcompleted =>
  split
  · exact ⟨rfl, rfl, fun _ _ h => h, [], rfl, by simp⟩
  next hdiffers =>
  split
  · -- Evidence that is a copy of the marker is not stale.
    refine ⟨rfl, rfl, fun m hmarker hm => ?_, [], rfl, by simp⟩
    rw [hcompleted] at hm
    rw [hmarker, hm] at hdiffers
    exact absurd rfl hdiffers
  · exact fails_moved

theorem restarts_moved {binary loop : String} {running : Bool} :
    Moved w (w.restarts marker binary loop running now) := by
  unfold Node.restarts
  split_ifs
  · exact fails_moved
  · exact fails_moved
  · exact fails_moved
  · exact holds_moved

theorem publishes_moved :
    Moved w (w.publishes marker now) := by
  unfold Node.publishes
  split
  · exact fails_moved
  next current hmarker =>
  refine ⟨rfl, rfl, fun m hm _ => ?_, [_], rfl, ?_⟩
  · rw [hmarker] at hm
    exact hm
  · intro event hevent
    rw [List.mem_singleton.mp hevent]
    trivial

theorem moves_moved (move : Move) : Moved w (w.moves move) := by
  cases move with
  | enter =>
    unfold Node.moves
    dsimp only
    split
    · exact .of_helpers rfl rfl
    · exact .of_helpers rfl rfl
    · exact .refl w
  | contend now =>
    unfold Node.moves
    dsimp only
    split
    · next job waiting _ =>
      have hleft : Moved w { w with helpers := { w.helpers with waiting } } := .of_helpers rfl rfl
      exact hleft.trans failHandoff_moved
    · exact .refl w
  | load now =>
    unfold Node.moves
    dsimp only
    split
    · exact loads_moved
    · exact .refl w
  | compare now =>
    unfold Node.moves
    dsimp only
    split
    · exact compares_moved
    · exact .refl w
  | restart binary loop running now =>
    unfold Node.moves
    dsimp only
    split
    · exact restarts_moved
    · exact .refl w
  | publish now =>
    unfold Node.moves
    dsimp only
    split
    · exact publishes_moved
    · exact .refl w
  | clear =>
    unfold Node.moves
    dsimp only
    split
    · exact ⟨rfl, rfl, fun _ _ h => h, [], rfl, by simp⟩
    · exact .refl w
  | abort code now =>
    unfold Node.moves
    dsimp only
    split
    · exact fails_moved
    · exact .refl w
  | die => exact holds_moved

theorem foldl_moves_moved (moves : List Move) : Moved w (moves.foldl Node.moves w) := by
  induction moves generalizing w with
  | nil => exact .refl w
  | cons move moves ih => exact (moves_moved move).trans ih

end Moves

/-! ## What is seen of a job -/

/-- The journal of the job has been executing. -/
def Reached (trace : List Event) (id : Uuid) : Prop :=
  ∃ j, .journaled j ∈ trace ∧ j.job.id = id ∧ j.phase = .executing

/-- A terminal receipt with this state was submitted. -/
def Told (trace : List Event) (id : Uuid) (state : String) : Prop :=
  ∃ r running disk, .submitted r running disk ∈ trace ∧ r.id = id ∧ r.state = state
    ∧ state ≠ "running"

/-- A terminal receipt was acknowledged. -/
def Acked (trace : List Event) (id : Uuid) : Prop :=
  ∃ r, .acknowledged r ∈ trace ∧ r.id = id ∧ r.state ≠ "running"

section Trace

variable {trace new : List Event} {job : Uuid} {state : String} {event : Event}

theorem reached_cons : Reached (event :: trace) job
    ↔ (∃ j, event = .journaled j ∧ j.job.id = job ∧ j.phase = .executing) ∨ Reached trace job := by
  unfold Reached
  simp only [List.mem_cons, or_and_right, exists_or]
  simp only [eq_comm]

theorem told_cons : Told (event :: trace) job state
    ↔ (∃ r running disk, event = .submitted r running disk ∧ r.id = job ∧ r.state = state
      ∧ state ≠ "running") ∨ Told trace job state := by
  unfold Told
  simp only [List.mem_cons, or_and_right, exists_or]
  simp only [eq_comm]

theorem acked_cons : Acked (event :: trace) job
    ↔ (∃ r, event = .acknowledged r ∧ r.id = job ∧ r.state ≠ "running") ∨ Acked trace job := by
  unfold Acked
  simp only [List.mem_cons, or_and_right, exists_or]
  simp only [eq_comm]

theorem mem_append_plain (hnew : ∀ event ∈ new, event.plain) (hevent : ¬ event.plain) :
    event ∈ new ++ trace ↔ event ∈ trace := by
  rw [List.mem_append]
  exact or_iff_right fun hmem => hevent (hnew event hmem)

theorem reached_append (hnew : ∀ event ∈ new, event.plain) :
    Reached (new ++ trace) job ↔ Reached trace job := by
  unfold Reached
  refine exists_congr fun j => and_congr_left fun _ => ?_
  exact mem_append_plain hnew id

theorem told_append (hnew : ∀ event ∈ new, event.plain) :
    Told (new ++ trace) job state ↔ Told trace job state := by
  unfold Told
  refine exists_congr fun r => exists_congr fun running => exists_congr fun disk => ?_
  exact and_congr_left fun _ => mem_append_plain hnew id

theorem acked_append (hnew : ∀ event ∈ new, event.plain) :
    Acked (new ++ trace) job ↔ Acked trace job := by
  unfold Acked
  refine exists_congr fun r => and_congr_left fun _ => ?_
  exact mem_append_plain hnew id

end Trace

/-- Cloud does not offer a job again after it has acknowledged a terminal receipt for it. -/
def Honest (trace : List Event) : Prop :=
  Always (fun event earlier => ∀ job, event = .offered job → ¬ Acked earlier job.id) trace

/-- What every event has to satisfy, given those before it. -/
def ReceiptLaw (openwrt : Bool) : Event → List Event → Prop
  | .submitted r running disk, earlier =>
    (r.state ≠ "running" → ∀ state, Told earlier r.id state → state = r.state)
      ∧ (r.state = "succeeded" → .installed r.id ∈ earlier
        ∧ ∃ j, disk.journal = some j ∧ j.job.id = r.id
          ∧ (openwrt = true → j.job.target.component = "runtime" →
            ∃ m, disk.marker = some m ∧ m.jobId = r.id ∧ disk.completed = some m
              ∧ running = some m.syncBinarySha256))
  | .installs id, earlier => Reached earlier id ∧ .installs id ∉ earlier
  | .removed j, earlier => Reached earlier j.job.id → Acked earlier j.job.id
  | .journaled j, earlier => ∀ id, id ≠ j.job.id → Reached earlier id → Acked earlier id
  | _, _ => True

/-- What the journal on the disk says about its job. -/
structure JournalLaw (openwrt : Bool) (w : Node) (j : Journal) : Prop where
  prepared : j.phase = .prepared → ¬ Reached w.trace j.job.id
  reached : j.phase ≠ .prepared → Reached w.trace j.job.id
  executing : j.phase = .executing → ∀ state, ¬ Told w.trace j.job.id state
  failed : j.phase = .failed → ∀ state, Told w.trace j.job.id state → state = "failed"
  succeeded : j.phase = .succeeded → ∀ state, Told w.trace j.job.id state → state = "succeeded"
  installed : j.phase = .succeeded → .installed j.job.id ∈ w.trace
  confirmed : j.handsOff openwrt = true → ∀ state, Told w.trace j.job.id state →
    ∃ m, w.disk.marker = some m ∧ w.disk.completed = some m

/-- The invariant on receipts. -/
structure Receipts (openwrt : Bool) (w : Node) : Prop where
  law : Always (ReceiptLaw openwrt) w.trace
  journal : ∀ j, w.disk.journal = some j → JournalLaw openwrt w j
  here : ∀ id, Reached w.trace id → Acked w.trace id
    ∨ ∃ j, w.disk.journal = some j ∧ j.job.id = id ∧ j.phase ≠ .prepared
  told : ∀ id state, Told w.trace id state → Reached w.trace id
  installs : ∀ id, .installs id ∈ w.trace → Reached w.trace id

section Frame

variable {openwrt : Bool} {w w' : Node} {new : List Event}

theorem JournalLaw.plain {j : Journal} (h : JournalLaw openwrt w j)
    (htrace : w'.trace = new ++ w.trace) (hnew : ∀ event ∈ new, event.plain)
    (hconfirmed : j.handsOff openwrt = true → ∀ state, Told w.trace j.job.id state →
      ∃ m, w'.disk.marker = some m ∧ w'.disk.completed = some m) : JournalLaw openwrt w' j := by
  constructor <;> simp only [htrace, reached_append hnew, told_append hnew]
  · exact h.prepared
  · exact h.reached
  · exact h.executing
  · exact h.failed
  · exact h.succeeded
  · exact fun hphase => List.mem_append_right new (h.installed hphase)
  · exact hconfirmed

/-- Neither the journal nor anything about receipts has changed. -/
theorem Receipts.plain (h : Receipts openwrt w) (new : List Event)
    (hjournal : w'.disk.journal = w.disk.journal)
    (htrace : w'.trace = new ++ w.trace) (hnew : ∀ event ∈ new, event.plain)
    (hconfirmed : ∀ j, w.disk.journal = some j → j.handsOff openwrt = true →
      ∀ state, Told w.trace j.job.id state →
        ∃ m, w'.disk.marker = some m ∧ w'.disk.completed = some m) : Receipts openwrt w' := by
  constructor
  · rw [htrace]
    refine h.law.append fun event hevent earlier => ?_
    have hplain := hnew event hevent
    cases event <;> trivial
  · intro j hj
    rw [hjournal] at hj
    exact (h.journal j hj).plain htrace hnew (hconfirmed j hj)
  · intro id hreached
    rw [htrace, reached_append hnew] at hreached
    rw [htrace, acked_append hnew, hjournal]
    exact h.here id hreached
  · intro id state htold
    rw [htrace, told_append hnew] at htold
    rw [htrace, reached_append hnew]
    exact h.told id state htold
  · intro job hinstalls
    have hold : .installs job ∈ w.trace := (mem_append_plain hnew id).mp (htrace ▸ hinstalls)
    rw [htrace, reached_append hnew]
    exact h.installs job hold

theorem Receipts.moved (h : Receipts openwrt w) (hmoved : Moved w w') : Receipts openwrt w' := by
  obtain ⟨new, htrace, hnew⟩ := hmoved.trace
  refine h.plain new hmoved.journal htrace (fun event hevent => (hnew event hevent).plain) ?_
  intro j hj hhands state htold
  obtain ⟨m, hmarker, hcompleted⟩ := (h.journal j hj).confirmed hhands state htold
  exact ⟨m, hmoved.marker.trans hmarker, hmoved.confirmed m hmarker hcompleted⟩

end Frame

/-! ## Steps of the worker -/

section Steps

variable {openwrt : Bool} {w : Node} {j j' : Journal}

@[simp] theorem journals_trace : (w.journals j).trace = .journaled j :: w.trace := rfl

theorem told_journals {state : String} :
    Told (w.journals j).trace id state ↔ Told w.trace id state := by
  simp [told_cons]

theorem acked_journals : Acked (w.journals j).trace id ↔ Acked w.trace id := by
  simp [acked_cons]

theorem reached_journals :
    Reached (w.journals j).trace id ↔ (j.job.id = id ∧ j.phase = .executing) ∨ Reached w.trace id := by
  simp [reached_cons]

/-- A journal is written. The other jobs are through, and the new journal is in order. -/
theorem Receipts.journals (h : Receipts openwrt w)
    (hothers : ∀ id, id ≠ j.job.id → Reached w.trace id → Acked w.trace id)
    (hlaw : JournalLaw openwrt (w.journals j) j) : Receipts openwrt (w.journals j) := by
  constructor
  · exact ⟨hothers, h.law⟩
  · intro j₀ hj₀
    cases hj₀
    exact hlaw
  · intro id hreached
    by_cases hid : id = j.job.id
    · subst hid
      by_cases hphase : j.phase = .prepared
      · exact absurd hreached (hlaw.prepared hphase)
      · exact .inr ⟨j, rfl, rfl, hphase⟩
    · rcases reached_journals.mp hreached with hnow | hold
      · exact absurd hnow.1.symm hid
      · exact .inl (acked_journals.mpr (hothers id hid hold))
  · intro id state htold
    exact reached_journals.mpr (.inr (h.told id state (told_journals.mp htold)))
  · intro id hinstalls
    have hold : .installs id ∈ w.trace := by simpa using hinstalls
    exact reached_journals.mpr (.inr (h.installs id hold))

/-- While the journal of a job is on the disk, the other jobs are through. -/
theorem Receipts.others (h : Receipts openwrt w) (hj : w.disk.journal = some j)
    (hid : id ≠ j.job.id) (hreached : Reached w.trace id) : Acked w.trace id := by
  rcases h.here id hreached with hacked | ⟨j₀, hj₀, rfl, _⟩
  · exact hacked
  · rw [hj] at hj₀
    cases hj₀
    exact absurd rfl hid

/-- A job from Cloud is taken. -/
theorem Receipts.takes (h : Receipts openwrt w)
    (hfree : ∀ j₀, w.disk.journal = some j₀ → j₀.phase = .prepared) (hphase : j.phase = .prepared)
    (hacked : ¬ Acked w.trace j.job.id) : Receipts openwrt (w.journals j) := by
  have hothers {id : Uuid} (hreached : Reached w.trace id) : Acked w.trace id := by
    rcases h.here id hreached with hacked | ⟨j₀, hj₀, _, hnot⟩
    · exact hacked
    · exact absurd (hfree j₀ hj₀) hnot
  refine h.journals (fun id _ => hothers) ?_
  constructor
  · intro _ hreached
    rcases reached_journals.mp hreached with hnow | hold
    · rw [hphase] at hnow
      cases hnow.2
    · exact hacked (hothers hold)
  all_goals simp [hphase, Journal.handsOff]

/-- The journal of the job is executing, and nothing has been told. -/
theorem Receipts.executes (h : Receipts openwrt w) (hj : w.disk.journal = some j)
    (hphase : j.phase = .prepared) (hjob : j'.job = j.job) (hphase' : j'.phase = .executing) :
    Receipts openwrt (w.journals j') := by
  have hfresh : ¬ Reached w.trace j'.job.id := by
    rw [hjob]
    exact (h.journal j hj).prepared hphase
  refine h.journals (fun id hid => h.others hj (hjob ▸ hid)) ?_
  constructor
  · simp [hphase']
  · intro _
    exact reached_journals.mpr (.inl ⟨rfl, hphase'⟩)
  · intro _ state htold
    exact hfresh (h.told _ _ (told_journals.mp htold))
  all_goals simp [hphase', Journal.handsOff]

/-- The job is over before anything has been told. -/
theorem Receipts.settles (h : Receipts openwrt w) (hj : w.disk.journal = some j)
    (hphase : j.phase ≠ .prepared) (huntold : ∀ state, ¬ Told w.trace j.job.id state)
    (hjob : j'.job = j.job) (hphase' : j'.phase = .succeeded ∨ j'.phase = .failed)
    (hinstalled : j'.phase = .succeeded → .installed j.job.id ∈ w.trace) :
    Receipts openwrt (w.journals j') := by
  have hnever (state : String) : ¬ Told (w.journals j').trace j'.job.id state := by
    rw [told_journals, hjob]
    exact huntold state
  refine h.journals (fun id hid => h.others hj (hjob ▸ hid)) ?_
  constructor
  · intro hprepared
    rw [hprepared] at hphase'
    rcases hphase' with hsame | hsame <;> cases hsame
  · intro _
    rw [reached_journals, hjob]
    exact .inr ((h.journal j hj).reached hphase)
  · exact fun _ => hnever
  · exact fun _ state htold => absurd htold (hnever state)
  · exact fun _ state htold => absurd htold (hnever state)
  · intro hsucceeded
    rw [journals_trace, hjob]
    exact List.mem_cons_of_mem _ (hinstalled hsucceeded)
  · exact fun _ state htold => absurd htold (hnever state)

@[simp] theorem logs_trace {event : Event} : (w.logs event).trace = event :: w.trace := rfl

@[simp] theorem logs_disk {event : Event} : (w.logs event).disk = w.disk := rfl

/-- An event that is about receipts or the installer, with what it changes. -/
theorem Receipts.logs {event : Event} (h : Receipts openwrt w)
    (hlaw : ReceiptLaw openwrt event w.trace)
    (hreached : ∀ id, Reached (event :: w.trace) id ↔ Reached w.trace id)
    (htold : ∀ id state, Told (event :: w.trace) id state → Reached w.trace id)
    (hinstalls : ∀ id, event = .installs id → Reached w.trace id)
    (hjournal : ∀ j, w.disk.journal = some j → JournalLaw openwrt (w.logs event) j) :
    Receipts openwrt (w.logs event) := by
  constructor
  · exact ⟨hlaw, h.law⟩
  · exact hjournal
  · intro id hold
    rw [logs_trace, hreached] at hold
    rcases h.here id hold with hacked | hhere
    · exact .inl (acked_cons.mpr (.inr hacked))
    · exact .inr hhere
  · intro id state hsome
    rw [logs_trace, hreached]
    exact htold id state hsome
  · intro id hmem
    rw [logs_trace, hreached]
    rcases List.mem_cons.mp hmem with hnow | hold
    · exact hinstalls id hnow.symm
    · exact h.installs id hold

/-- What is told of the job on the disk is the same after an event that is no receipt. -/
theorem JournalLaw.logs {event : Event} (h : JournalLaw openwrt w j)
    (hreached : ∀ id, Reached (event :: w.trace) id ↔ Reached w.trace id)
    (htold : ∀ id state, Told (event :: w.trace) id state ↔ Told w.trace id state) :
    JournalLaw openwrt (w.logs event) j := by
  constructor <;> simp only [logs_trace, logs_disk, hreached, htold]
  · exact h.prepared
  · exact h.reached
  · exact h.executing
  · exact h.failed
  · exact h.succeeded
  · exact fun hphase => List.mem_cons_of_mem _ (h.installed hphase)
  · exact h.confirmed

theorem Receipts.acknowledges (h : Receipts openwrt w) {r : Receipt} :
    Receipts openwrt (w.logs (.acknowledged r)) := by
  have hreached (id : Uuid) : Reached (.acknowledged r :: w.trace) id ↔ Reached w.trace id := by
    simp [reached_cons]
  have htold (id : Uuid) (state : String) :
      Told (.acknowledged r :: w.trace) id state ↔ Told w.trace id state := by
    simp [told_cons]
  refine h.logs trivial hreached ?_ nofun fun j hj => (h.journal j hj).logs hreached htold
  exact fun id state hsome => h.told id state ((htold id state).mp hsome)

theorem Receipts.installStarts (h : Receipts openwrt w) (hid : Reached w.trace id)
    (hfirst : .installs id ∉ w.trace) : Receipts openwrt (w.logs (.installs id)) := by
  have hreached (id' : Uuid) : Reached (.installs id :: w.trace) id' ↔ Reached w.trace id' := by
    simp [reached_cons]
  have htold (id' : Uuid) (state : String) :
      Told (.installs id :: w.trace) id' state ↔ Told w.trace id' state := by
    simp [told_cons]
  refine h.logs ⟨hid, hfirst⟩ hreached ?_ ?_ fun j hj => (h.journal j hj).logs hreached htold
  · exact fun id' state hsome => h.told id' state ((htold id' state).mp hsome)
  · intro id' heq
    cases heq
    exact hid

theorem Receipts.installEnds (h : Receipts openwrt w) :
    Receipts openwrt (w.logs (.installed id)) := by
  have hreached (id' : Uuid) : Reached (.installed id :: w.trace) id' ↔ Reached w.trace id' := by
    simp [reached_cons]
  have htold (id' : Uuid) (state : String) :
      Told (.installed id :: w.trace) id' state ↔ Told w.trace id' state := by
    simp [told_cons]
  refine h.logs trivial hreached ?_ nofun fun j hj => (h.journal j hj).logs hreached htold
  exact fun id' state hsome => h.told id' state ((htold id' state).mp hsome)

/-- The receipt that the job is being worked on. -/
theorem Receipts.submitsRunning (h : Receipts openwrt w) {r : Receipt} (hr : r.state = "running")
    {running : Option String} : Receipts openwrt (w.logs (.submitted r running w.disk)) := by
  have hreached (id : Uuid) :
      Reached (.submitted r running w.disk :: w.trace) id ↔ Reached w.trace id := by
    simp [reached_cons]
  have htold (id : Uuid) (state : String) :
      Told (.submitted r running w.disk :: w.trace) id state ↔ Told w.trace id state := by
    rw [told_cons]
    refine or_iff_right ?_
    rintro ⟨r', _, _, heq, _, rfl, hnot⟩
    cases heq
    exact hnot hr
  refine h.logs ⟨?_, ?_⟩ hreached ?_ nofun fun j hj => (h.journal j hj).logs hreached htold
  · exact fun hnot => absurd hr hnot
  · intro hsucceeded
    rw [hr] at hsucceeded
    exact absurd hsucceeded (by decide)
  · exact fun id state hsome => h.told id state ((htold id state).mp hsome)

/-- A terminal receipt, as the journal on the disk has it. -/
theorem Receipts.submits (h : Receipts openwrt w) (hj : w.disk.journal = some j)
    (hphase : j.phase = .succeeded ∨ j.phase = .failed) {running : Option String}
    (hhands : j.handsOff openwrt = true → ∃ m, w.disk.marker = some m ∧ m.jobId = j.job.id
      ∧ w.disk.completed = some m ∧ running = some m.syncBinarySha256) :
    Receipts openwrt (w.logs (.submitted (receiptBody j j.phase.text) running w.disk)) := by
  have hlaw := h.journal j hj
  have hterminal : j.phase.text ≠ "running" := by
    rcases hphase with hphase | hphase <;> rw [hphase] <;> decide
  have hsame (state : String) (htold : Told w.trace j.job.id state) : state = j.phase.text := by
    rcases hphase with hphase | hphase
    · rw [hlaw.succeeded hphase state htold, hphase]
      rfl
    · rw [hlaw.failed hphase state htold, hphase]
      rfl
  have hreached : Reached w.trace j.job.id := by
    apply hlaw.reached
    rcases hphase with hphase | hphase <;> rw [hphase] <;> decide
  have htold {id : Uuid} {state : String}
      (hsome : Told (.submitted (receiptBody j j.phase.text) running w.disk :: w.trace) id state) :
      (id = j.job.id ∧ state = j.phase.text) ∨ Told w.trace id state := by
    rcases told_cons.mp hsome with ⟨r, _, _, heq, rfl, rfl, _⟩ | hold
    · cases heq
      exact .inl ⟨rfl, rfl⟩
    · exact .inr hold
  have hreachedCons (id : Uuid) :
      Reached (.submitted (receiptBody j j.phase.text) running w.disk :: w.trace) id
        ↔ Reached w.trace id := by
    simp [reached_cons]
  have hstate {state : String}
      (hsome : Told (.submitted (receiptBody j j.phase.text) running w.disk :: w.trace)
        j.job.id state) : state = j.phase.text := by
    rcases htold hsome with ⟨_, hstate⟩ | hold
    · exact hstate
    · exact hsame state hold
  refine h.logs ⟨fun _ => hsame, fun hsucceeded => ?_⟩ hreachedCons ?_ nofun ?_
  · have hsucc : j.phase = .succeeded := by
      rcases hphase with hphase | hphase
      · exact hphase
      · change j.phase.text = "succeeded" at hsucceeded
        rw [hphase] at hsucceeded
        exact absurd hsucceeded (by decide)
    refine ⟨hlaw.installed hsucc, j, hj, rfl, fun hopenwrt hruntime => ?_⟩
    refine hhands ?_
    simp [Journal.handsOff, hopenwrt, hsucc, hruntime]
  · intro id state hsome
    rcases htold hsome with ⟨rfl, _⟩ | hold
    · exact hreached
    · exact h.told id state hold
  · intro j₀ hj₀
    rw [hj] at hj₀
    cases hj₀
    constructor <;> simp only [logs_trace, logs_disk, hreachedCons]
    · exact hlaw.prepared
    · exact hlaw.reached
    · intro hexecuting
      rw [hexecuting] at hphase
      rcases hphase with hphase | hphase <;> cases hphase
    · intro hfailed state hsome
      rw [hstate hsome, hfailed]
      rfl
    · intro hsucc state hsome
      rw [hstate hsome, hsucc]
      rfl
    · exact fun hsucc => List.mem_cons_of_mem _ (hlaw.installed hsucc)
    · intro hands _ _
      obtain ⟨m, hmarker, _, hcompleted, _⟩ := hhands hands
      exact ⟨m, hmarker, hcompleted⟩

theorem Receipts.removes (h : Receipts openwrt w) (hj : w.disk.journal = some j)
    (hacked : Acked w.trace j.job.id) : Receipts openwrt (w.removes j) := by
  have hreached (id : Uuid) : Reached (.removed j :: w.trace) id ↔ Reached w.trace id := by
    simp [reached_cons]
  constructor
  · exact ⟨fun _ => hacked, h.law⟩
  · exact nofun
  · intro id hold
    left
    refine acked_cons.mpr (.inr ?_)
    by_cases hid : id = j.job.id
    · rw [hid]
      exact hacked
    · exact h.others hj hid ((hreached id).mp hold)
  · intro id state hsome
    refine (hreached id).mpr (h.told id state ?_)
    rcases told_cons.mp hsome with ⟨_, _, _, heq, _⟩ | hold
    · cases heq
    · exact hold
  · intro id hinstalls
    rcases List.mem_cons.mp hinstalls with heq | hold
    · cases heq
    · exact (hreached id).mpr (h.installs id hold)

/-- A marker that was not there is written. -/
theorem Receipts.marks (h : Receipts openwrt w) (hmarker : w.disk.marker = none)
    {m : RuntimeHandoffMarker} : Receipts openwrt (w.marks m) := by
  refine h.plain [.marked m w.disk w.helpers] rfl rfl ?_ ?_
  · intro event hevent
    rw [List.mem_singleton.mp hevent]
    trivial
  · intro j hj hhands state htold
    obtain ⟨m', hm', _⟩ := (h.journal j hj).confirmed hhands state htold
    rw [hmarker] at hm'
    cases hm'

/-- Evidence goes away, or comes, while nothing has been told of the job on the disk. -/
theorem Receipts.untold {w' : Node} (h : Receipts openwrt w)
    (hjournal : w'.disk.journal = w.disk.journal) (htrace : w'.trace = w.trace)
    (huntold : ∀ j, w.disk.journal = some j → j.handsOff openwrt = true →
      ∀ state, ¬ Told w.trace j.job.id state) : Receipts openwrt w' := by
  refine h.plain [] hjournal htrace (by simp) ?_
  exact fun j hj hhands state htold => absurd htold (huntold j hj hhands state)

end Steps

end CandyRuntime.CloudSync.Upgrade
