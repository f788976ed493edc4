import CandyRuntime.CloudSync.UpgradeEvidence

/-!
# Runs of the upgrade worker

Every operation of `run` keeps the invariants on receipts and on evidence, whatever the helpers do
in between. The two results are about whole histories: what is submitted for a job is consistent,
and a job is judged by its own evidence if its marker was written over clean ground.
-/

namespace CandyRuntime.CloudSync.Upgrade

open Lib Lib.Proc

variable {w : Node} {r : Round}
variable {openwrt : Bool}
variable {E : String → Node → Prop} {C : Node → Prop} {trace : List Event} {error : String}

/-- Both invariants, each under the condition on the environment it needs. -/
structure Kept (openwrt : Bool) (w : Node) : Prop where
  receipts : Honest w.trace → Receipts openwrt w
  evidence : Clean w.trace → Evidence openwrt w

/-- How an operation may fail. -/
def Fails (openwrt : Bool) (e : String) (w : Node) : Prop :=
  Kept openwrt w ∧ (Clean w.trace → e ∉ evidenceErrors)

theorem Kept.fails (h : Kept openwrt w) {e : String} (he : e ∉ evidenceErrors) :
    Fails openwrt e w := ⟨h, fun _ => he⟩

theorem Honest.tail {event : Event} (h : Honest (event :: trace)) :
    Honest trace := h.2

theorem Clean.of_append {new trace : List Event} (h : Clean (new ++ trace)) : Clean trace :=
  fun m disk helpers hmem => h m disk helpers (List.mem_append_right new hmem)

theorem Clean.tail {event : Event} (h : Clean (event :: trace)) :
    Clean trace := fun m disk helpers hmem => h m disk helpers (List.mem_cons_of_mem event hmem)

/-! ## Rules for the operations -/

/-- What the helpers leave alone. -/
def Stable (P : Node → Prop) : Prop := ∀ w w', Moved w w' → P w → P w'

theorem Stable.and {P Q : Node → Prop} (hP : Stable P) (hQ : Stable Q) :
    Stable fun w => P w ∧ Q w :=
  fun w w' hmoved h => ⟨hP w w' hmoved h.1, hQ w w' hmoved h.2⟩

theorem stable_true : Stable fun _ => True := fun _ _ _ _ => trivial

theorem Kept.moments (h : Kept openwrt w) (moments : ℕ → Moment) :
    Kept openwrt { w with moments } := by
  refine ⟨fun hhonest => (h.receipts hhonest).moved (.of_helpers rfl rfl), fun hclean => ?_⟩
  have hold := h.evidence hclean
  refine hold.frame [] rfl hold.law rfl (fun m hm => ?_) hold.completed hold.failure hold.holder
  have hmarker := hold.marker m hm
  exact ⟨hmarker.valid, hmarker.completed, hmarker.failure, hmarker.waiting, hmarker.holder,
    hmarker.journal⟩

section Rules

variable {P Q : Node → Prop} {α : Type}

theorem moment_kept (hP : Stable P) :
    Triple (fun w => Kept openwrt w ∧ P w) moment (fun _ w => Kept openwrt w ∧ P w) E C := by
  intro w ⟨hkept, hp⟩
  have hpassed := hkept.moments fun n => w.moments (n + 1)
  have hmoved : Moved { w with moments := fun n => w.moments (n + 1) }
      ((w.moments 0).moves.foldl Node.moves { w with moments := fun n => w.moments (n + 1) }) :=
    foldl_moves_moved _
  obtain ⟨new, htrace, _⟩ := hmoved.trace
  refine ⟨⟨fun hhonest => ?_, fun hclean => ?_⟩, ?_⟩
  · rw [htrace] at hhonest
    exact (hpassed.receipts hhonest.of_append).moved hmoved
  · rw [htrace] at hclean
    exact (hpassed.evidence hclean.of_append).foldl_moves _
  · have hfirst : Moved w { w with moments := fun n => w.moments (n + 1) } := .of_helpers rfl rfl
    exact hP w _ (hfirst.trans hmoved) hp

theorem moment_bind (hP : Stable P) {f : Moment → Upg α} {R : α → Node → Prop}
    (hf : ∀ m, Triple (fun w => Kept openwrt w ∧ P w) (f m) R E C) :
    Triple (fun w => Kept openwrt w ∧ P w) (moment >>= f) R E C := (moment_kept hP).bind hf

/-- A durable operation that keeps the invariants and leads from `P` to `Q`. -/
theorem writes_kept (hP : Stable P) {f : Node → Node} (herror : error ∉ evidenceErrors)
    (hf : ∀ w, Kept openwrt w → P w → Kept openwrt (f w) ∧ Q (f w)) :
    Triple (fun w => Kept openwrt w ∧ P w) (writes error f) (fun _ w => Kept openwrt w ∧ Q w)
      (Fails openwrt) (Kept openwrt) := by
  refine moment_bind hP fun m => .durable ?_ ?_ ?_
  · exact fun w hw => hf w hw.1 hw.2
  · exact fun w hw => ⟨(hf w hw.1 hw.2).1.fails herror, hw.1.fails herror⟩
  · exact fun w hw => ⟨(hf w hw.1 hw.2).1, hw.1⟩

theorem reads_bind (hP : Stable P) (herror : error ∉ evidenceErrors) {f : Node → Upg α}
    {R : α → Node → Prop} (hf : ∀ w₀, Kept openwrt w₀ → P w₀ →
      Triple (fun w => w = w₀) (f w₀) R (Fails openwrt) (Kept openwrt)) :
    Triple (fun w => Kept openwrt w ∧ P w) (reads error >>= f) R (Fails openwrt) (Kept openwrt) := by
  intro w hw
  unfold reads
  rw [wp_bind, wp_bind]
  refine wp_mono (moment_kept hP (E := Fails openwrt) (C := Kept openwrt) w hw) ?_ (fun _ _ h => h)
    (fun _ h => h)
  intro m w' hw'
  rw [wp_bind, wp_ensure]
  exact ⟨fun _ => hf w' hw'.1 hw'.2 w' rfl, fun _ => hw'.1.fails herror⟩

end Rules

/-! ## Facts about the trace that stay -/

section Facts

variable {w w' : Node}

/-- Nothing terminal has been told of a job that hands off. -/
def Untold (openwrt : Bool) (w : Node) : Prop :=
  Honest w.trace → ∀ j, w.disk.journal = some j → j.handsOff openwrt = true →
    ∀ state, ¬ Told w.trace j.job.id state

theorem untold_of_trace (htrace : w'.trace = w.trace)
    (hjournal : w'.disk.journal = w.disk.journal) (h : Untold openwrt w) : Untold openwrt w' := by
  unfold Untold
  rw [htrace, hjournal]
  exact h

theorem stable_untold : Stable (Untold openwrt) := by
  intro w w' hmoved h hhonest j hj hhands state htold
  obtain ⟨new, htrace, hnew⟩ := hmoved.trace
  rw [htrace] at hhonest htold
  rw [told_append fun event hevent => (hnew event hevent).plain] at htold
  rw [hmoved.journal] at hj
  exact h hhonest.of_append j hj hhands state htold

/-- What has happened has happened. -/
theorem stable_mem (event : Event) : Stable fun w => event ∈ w.trace :=
  fun _ _ hmoved h => hmoved.mem h

theorem stable_clean_mem (event : Event) : Stable fun w => Clean w.trace → event ∈ w.trace := by
  intro w w' hmoved h hclean
  obtain ⟨new, htrace, _⟩ := hmoved.trace
  refine hmoved.mem (h ?_)
  rw [htrace] at hclean
  exact hclean.of_append

/-- The helpers do not start an installer. -/
theorem stable_not_installs (id : Uuid) :
    Stable fun w => Honest w.trace → .installs id ∉ w.trace := by
  intro w w' hmoved h hhonest hmem
  obtain ⟨new, htrace, hnew⟩ := hmoved.trace
  rw [htrace] at hhonest hmem
  rcases List.mem_append.mp hmem with hlate | hearly
  · exact hnew _ hlate
  · exact h hhonest.of_append hearly

theorem stable_not_acked (id : Uuid) : Stable fun w => Honest w.trace → ¬ Acked w.trace id := by
  intro w w' hmoved h hhonest hacked
  obtain ⟨new, htrace, hnew⟩ := hmoved.trace
  rw [htrace] at hhonest hacked
  rw [acked_append fun event hevent => (hnew event hevent).plain] at hacked
  exact h hhonest.of_append hacked

end Facts

/-! ## The handoff -/

section Handoff

variable {J : Option Journal → Prop} {X : Node → Prop} {m : RuntimeHandoffMarker} {j : Journal}

/-- What an operation on the evidence may not change. -/
def Framed (X : Node → Prop) : Prop :=
  Stable X ∧ ∀ w w' : Node, w'.disk.journal = w.disk.journal → w'.disk.marker = w.disk.marker →
    (w'.trace = w.trace ∨ ∃ job f, w'.trace = .recorded job f :: w.trace) → X w → X w'

/-- Failure evidence is written by the worker. -/
theorem record_kept (hX : Framed X) {code : String} (hcode : token code = true) :
    Triple (fun w => Kept openwrt w ∧ w.disk.marker = some m ∧ X w)
      (recordRuntimeHandoffFailure m code)
      (fun _ w => Kept openwrt w ∧ w.disk.marker = some m ∧ X w) (Fails openwrt)
      (Kept openwrt) := by
  have hmarker : Stable fun w => w.disk.marker = some m := by
    intro w w' hmoved h
    exact hmoved.marker.trans h
  have hstable := hmarker.and hX.1
  refine moment_bind hstable fun moment => ?_
  refine writes_kept hstable (by decide) fun w hkept hw => ⟨⟨fun hhonest => ?_, fun hclean => ?_⟩,
    hw.1, ?_⟩
  · refine (hkept.receipts hhonest.tail).plain [_] rfl rfl ?_ ?_
    · intro event hevent
      rw [List.mem_singleton.mp hevent]
      trivial
    · exact fun j hj hhands state htold =>
        ((hkept.receipts hhonest.tail).journal j hj).confirmed hhands state htold
  · have hold := hkept.evidence hclean.tail
    have hvalid := (hold.marker m hw.1).valid
    unfold RuntimeHandoffMarker.isValid at hvalid
    simp only [Bool.and_eq_true] at hvalid
    refine hold.records ?_ ?_
    · unfold RuntimeHandoffFailure.isValid
      simp [hcode, hvalid.1.1.1.2]
    · intro m' hm'
      rw [hw.1] at hm'
      cases hm'
      rfl
  · exact hX.2 w _ rfl rfl (.inr ⟨_, _, rfl⟩) hw.2

/-- Evidence is removed while nothing has been told. -/
theorem Kept.drops {w w' : Node} (h : Kept openwrt w) (huntold : Untold openwrt w)
    (hjournal : w'.disk.journal = w.disk.journal) (htrace : w'.trace = w.trace)
    (hevidence : Evidence openwrt w → Evidence openwrt w') : Kept openwrt w' := by
  refine ⟨fun hhonest => ?_, fun hclean => ?_⟩
  · rw [htrace] at hhonest
    exact (h.receipts hhonest).untold hjournal htrace (huntold hhonest)
  · rw [htrace] at hclean
    exact hevidence (h.evidence hclean)

theorem stable_marker (M : Option RuntimeHandoffMarker → Prop) : Stable fun w => M w.disk.marker := by
  intro w w' hmoved h
  rw [hmoved.marker]
  exact h

theorem framed_journal (J : Option Journal → Prop) : Framed fun w => J w.disk.journal := by
  refine ⟨fun w w' hmoved h => ?_, fun w w' hjournal _ _ h => ?_⟩
  · show J w'.disk.journal
    rw [hmoved.journal]
    exact h
  · show J w'.disk.journal
    rw [hjournal]
    exact h

theorem framed_untold : Framed (Untold openwrt) := by
  refine ⟨stable_untold, fun w w' hjournal _ htrace h => ?_⟩
  rcases htrace with htrace | ⟨job, f, htrace⟩
  · exact untold_of_trace htrace hjournal h
  · intro hhonest j hj hhands state htold
    rw [htrace] at hhonest htold
    rw [hjournal] at hj
    refine h hhonest.tail j hj hhands state ?_
    simpa [told_cons] using htold

theorem Framed.and {X Y : Node → Prop} (hX : Framed X) (hY : Framed Y) :
    Framed fun w => X w ∧ Y w := by
  refine ⟨hX.1.and hY.1, fun w w' hjournal hmarker htrace h => ?_⟩
  exact ⟨hX.2 w w' hjournal hmarker htrace h.1, hY.2 w w' hjournal hmarker htrace h.2⟩

/-- While the completion evidence is not a copy of the marker, nothing has been told. -/
theorem Kept.untold (h : Kept openwrt w) (hmarker : w.disk.marker = some m)
    (hcompleted : w.disk.completed ≠ some m) : Untold openwrt w := by
  intro hhonest j hj hhands state htold
  obtain ⟨m', hm', hc'⟩ := ((h.receipts hhonest).journal j hj).confirmed hhands state htold
  rw [hmarker] at hm'
  cases hm'
  exact hcompleted hc'

variable (m) in
theorem removeCompleted_kept (hX : Framed X) :
    Triple (fun w => Kept openwrt w ∧ w.disk.marker = some m ∧ X w ∧ Untold openwrt w)
      removeCompleted
      (fun _ w => Kept openwrt w ∧ w.disk.marker = some m ∧ X w ∧ Untold openwrt w)
      (Fails openwrt) (Kept openwrt) := by
  have hstable : Stable fun w => w.disk.marker = some m ∧ X w ∧ Untold openwrt w :=
    (stable_marker (· = some m)).and (hX.and framed_untold).1
  refine writes_kept hstable (by decide) fun w hkept hw => ?_
  refine ⟨hkept.drops hw.2.2 rfl rfl (·.dropsCompleted), hw.1, ?_⟩
  exact (hX.and framed_untold).2 w _ rfl rfl (.inl rfl) hw.2

/-- `read_runtime_handoff_completion`. -/
theorem readCompletion_kept (hX : Framed X) :
    Triple (fun w => Kept openwrt w ∧ w.disk.marker = some m ∧ X w)
      (readRuntimeHandoffCompletion m)
      (fun completed w => Kept openwrt w ∧ (w.disk.marker = some m ∧ X w)
        ∧ if completed then w.disk.completed = some m else Untold openwrt w)
      (Fails openwrt) (Kept openwrt) := by
  refine reads_bind ((stable_marker (· = some m)).and hX.1) (by decide) fun w₀ hkept hw => ?_
  split
  · next hnone =>
    refine .pure fun w heq => ?_
    subst heq
    refine ⟨hkept, hw, hkept.untold hw.1 ?_⟩
    rw [hnone]
    nofun
  next c hc =>
  refine .ite (fun hdiffers => ?_) fun hsame => ?_
  · have huntold : Untold openwrt w₀ := by
      refine hkept.untold hw.1 ?_
      rw [hc]
      exact fun heq => hdiffers (Option.some.inj heq)
    refine .ite (fun _ => ?_) fun hconflict => ?_
    · refine ((removeCompleted_kept m hX).pre ?_).bind fun _ => .pure fun w hw' => ?_
      · intro w heq
        subst heq
        exact ⟨hkept, hw.1, hw.2, huntold⟩
      · exact ⟨hw'.1, ⟨hw'.2.1, hw'.2.2.1⟩, hw'.2.2.2⟩
    · -- Evidence of the version of the marker is a copy of it, and all evidence is well-formed.
      refine .fail fun w heq => ?_
      subst heq
      refine ⟨hkept, fun hclean => ?_⟩
      have hold := hkept.evidence hclean
      have hmarker := hold.marker m hw.1
      have hvalid := hmarker.valid
      unfold RuntimeHandoffMarker.isValid at hvalid
      simp only [Bool.and_eq_true, decide_eq_true_eq] at hvalid
      obtain ⟨hschema, htoken, _⟩ := hold.completed c hc
      refine absurd ⟨?_, htoken, ?_⟩ hconflict
      · rw [hschema, hvalid.1.1.1.1]
      · exact (hmarker.completed c hc).resolve_left hdiffers
  · refine .pure fun w heq => ?_
    subst heq
    rw [not_not] at hsame
    subst hsame
    exact ⟨hkept, hw, hc⟩

variable (m) in
theorem removeFailure_kept (hX : Framed X) :
    Triple (fun w => Kept openwrt w ∧ w.disk.marker = some m ∧ X w ∧ Untold openwrt w)
      removeFailure
      (fun _ w => Kept openwrt w ∧ w.disk.marker = some m ∧ X w ∧ Untold openwrt w)
      (Fails openwrt) (Kept openwrt) := by
  have hstable : Stable fun w => w.disk.marker = some m ∧ X w ∧ Untold openwrt w :=
    (stable_marker (· = some m)).and (hX.and framed_untold).1
  refine writes_kept hstable (by decide) fun w hkept hw => ?_
  refine ⟨hkept.drops hw.2.2 rfl rfl (·.dropsFailure), hw.1, ?_⟩
  exact (hX.and framed_untold).2 w _ rfl rfl (.inl rfl) hw.2

/-- `read_runtime_handoff_failure`. -/
theorem readFailure_kept (hX : Framed X) :
    Triple (fun w => Kept openwrt w ∧ w.disk.marker = some m ∧ X w ∧ Untold openwrt w)
      (readRuntimeHandoffFailure m)
      (fun failure w => Kept openwrt w ∧ (w.disk.marker = some m ∧ X w ∧ Untold openwrt w)
        ∧ ∀ f, failure = some f → Clean w.trace → .recorded m.jobId f ∈ w.trace)
      (Fails openwrt) (Kept openwrt) := by
  have hstable : Stable fun w => w.disk.marker = some m ∧ X w ∧ Untold openwrt w :=
    (stable_marker (· = some m)).and (hX.and framed_untold).1
  refine reads_bind hstable (by decide) fun w₀ hkept hw => ?_
  split
  · refine .pure fun w heq => ?_
    subst heq
    exact ⟨hkept, hw, nofun⟩
  next f hf =>
  intro w heq
  subst heq
  rw [wp_bind, wp_ensure]
  refine ⟨fun _ => ?_, fun hinvalid => ?_⟩
  · refine (wp_ite _ _ _).mpr ⟨fun _ => ?_, fun hsame => ?_⟩
    · exact (removeFailure_kept m hX).bind
        (fun _ => .pure fun w hw' => ⟨hw'.1, hw'.2, nofun⟩) w ⟨hkept, hw⟩
    · refine ⟨hkept, hw, fun f' hf' hclean => ?_⟩
      cases hf'
      rw [not_not] at hsame
      exact ((hkept.evidence hclean).marker m hw.1).failure f hf hsame
  · refine ⟨hkept, fun hclean => ?_⟩
    exact absurd ((hkept.evidence hclean).failure f hf) hinvalid

/-- The files that matter for the job are as they are. -/
def Files (J : Option Journal → Prop) (m : RuntimeHandoffMarker) (w : Node) : Prop :=
  w.disk.marker = some m ∧ J w.disk.journal

theorem Kept.starts (h : Kept openwrt w) : Kept openwrt w.starts := by
  have htrace : w.starts.trace = w.trace := by
    unfold Node.starts
    split <;> rfl
  have hmoved : Moved w w.starts := by
    refine .of_helpers ?_ htrace
    unfold Node.starts
    split <;> rfl
  refine ⟨fun hhonest => ?_, fun hclean => ?_⟩
  · rw [htrace] at hhonest
    exact (h.receipts hhonest).moved hmoved
  · rw [htrace] at hclean
    exact (h.evidence hclean).starts

theorem starts_disk : w.starts.disk = w.disk := by
  unfold Node.starts
  split <;> rfl

/-- `schedule_openwrt_runtime_handoff`. -/
theorem scheduleOpenwrt_kept (J : Option Journal → Prop) :
    Triple (fun w => Kept openwrt w ∧ Files J m w) scheduleOpenwrtRuntimeHandoff
      (fun _ w => Kept openwrt w ∧ Files J m w)
      (fun e w => e = "runtime_handoff_schedule_failed" ∧ Kept openwrt w ∧ Files J m w)
      (Kept openwrt) := by
  have hstable : Stable (Files J m) := (stable_marker (· = some m)).and (framed_journal J).1
  have hstarts {w : Node} (hw : Kept openwrt w ∧ Files J m w) :
      Kept openwrt w.starts ∧ Files J m w.starts := by
    refine ⟨hw.1.starts, ?_⟩
    unfold Files
    rw [starts_disk]
    exact hw.2
  refine moment_bind hstable fun moment => ?_
  intro w hw
  rw [wp_bind, wp_get, wp_bind, wp_ensure]
  refine ⟨fun _ => ?_, fun _ => ⟨rfl, hw⟩⟩
  cases moment.scheduled with
  | done => exact hstarts hw
  | failed started =>
    dsimp only
    rw [wp_bind, wp_when]
    exact ⟨fun _ => ⟨rfl, hstarts hw⟩, fun _ => ⟨rfl, hw⟩⟩
  | killed started =>
    dsimp only
    rw [wp_bind, wp_when]
    exact ⟨fun _ => (hstarts hw).1, fun _ => hw.1⟩

/-- `schedule_committed_runtime_handoff`. -/
theorem schedule_kept (J : Option Journal → Prop) :
    Triple (fun w => Kept openwrt w ∧ Files J m w) (scheduleCommittedRuntimeHandoff m)
      (fun _ w => Kept openwrt w ∧ Files J m w) (Fails openwrt) (Kept openwrt) := by
  refine (scheduleOpenwrt_kept J).handle fun e => ?_
  intro w ⟨he, hw⟩
  refine (record_kept (framed_journal J) (by decide)).bind (fun _ => ?_) w hw
  refine .fail fun w hw => hw.1.fails ?_
  rw [he]
  decide

/-- The marker, once it is settled which one it is. -/
theorem runtimeHandoffMarker_kept :
    Triple (fun w => Kept openwrt w ∧ w.disk.journal = some j) (runtimeHandoffMarker j)
      (fun m w => (Kept openwrt w ∧ w.disk.journal = some j)
        ∧ m.jobId = j.job.id ∧ m.version = j.job.target.version)
      (Fails openwrt) (Kept openwrt) := by
  have hstable := (framed_journal (· = some j)).1
  refine moment_bind hstable fun moment => ?_
  refine .okOr_bind (fun binary _ => ?_) fun w hw => hw.1.fails (by decide)
  refine .okOr_bind (fun loop _ => ?_) fun w hw => hw.1.fails (by decide)
  refine reads_bind hstable (by decide) fun w₀ hkept hw => ?_
  dsimp only
  split
  · refine .pure fun w heq => ?_
    subst heq
    exact ⟨⟨hkept, hw⟩, rfl, rfl⟩
  · refine .ensure_bind (fun hsame => .pure fun w heq => ?_) fun w heq => ?_
    · subst heq
      exact ⟨⟨hkept, hw⟩, hsame.2.1, hsame.2.2.1⟩
    · subst heq
      exact hkept.fails (by decide)

/-- `ensure_runtime_handoff_marker`. -/
theorem ensureMarker_kept (hjob : m.jobId = j.job.id) (hversion : m.version = j.job.target.version) :
    Triple (fun w => Kept openwrt w ∧ w.disk.journal = some j) (ensureRuntimeHandoffMarker m)
      (fun _ w => Kept openwrt w ∧ Files (· = some j) m w) (Fails openwrt) (Kept openwrt) := by
  have hstable := (framed_journal (· = some j)).1
  refine .ensure_bind (fun hvalid => ?_) fun w hw => hw.1.fails (by decide)
  refine reads_bind hstable (by decide) fun w₀ hkept hw => ?_
  split
  · next committed hcommitted =>
    intro w heq
    subst heq
    rw [wp_ensure]
    refine ⟨fun hsame => ?_, fun _ => hkept.fails (by decide)⟩
    subst hsame
    exact ⟨hkept, hcommitted, hw⟩
  · next hnone =>
    have hpre : Stable fun w => w.disk.marker = none ∧ w.disk.journal = some j :=
      (stable_marker (· = none)).and hstable
    refine Triple.pre (P := fun w => Kept openwrt w ∧ w.disk.marker = none
      ∧ w.disk.journal = some j) ?_ (fun w heq => heq ▸ ⟨hkept, hnone, hw⟩)
    refine writes_kept hpre (by decide) fun w hkept hw => ⟨⟨fun hhonest => ?_, fun hclean => ?_⟩, ?_⟩
    · exact (hkept.receipts hhonest.tail).marks hw.1
    · refine (hkept.evidence hclean.tail).marks ?_ hvalid fun j' hj' _ => ?_
      · exact hclean m w.disk w.helpers List.mem_cons_self
      · rw [hw.2] at hj'
        cases hj'
        exact ⟨hjob, hversion⟩
    · exact ⟨rfl, hw.2⟩

/-! ## Receipts -/

theorem Kept.acknowledges (h : Kept openwrt w) {r : Receipt} :
    Kept openwrt (w.logs (.acknowledged r)) :=
  ⟨fun hhonest => (h.receipts hhonest.tail).acknowledges,
    fun hclean => (h.evidence hclean.tail).logs trivial⟩

/-- `receipt`. -/
theorem receipt_kept {P : Disk → Prop} (hP : Stable fun w => P w.disk) {state : String}
    (hsubmits : ∀ w, Kept openwrt w → P w.disk →
      Kept openwrt (w.logs (.submitted (receiptBody j state) r.running w.disk))) :
    Triple (fun w => Kept openwrt w ∧ P w.disk) (receipt r j state)
      (fun _ w => Kept openwrt w ∧ P w.disk ∧ .acknowledged (receiptBody j state) ∈ w.trace)
      (Fails openwrt) (Kept openwrt) := by
  refine moment_bind hP fun moment => ?_
  intro w hw
  have hsubmitted := hsubmits w hw.1 hw.2
  unfold log
  rw [wp_bind, wp_modify]
  cases moment.reply with
  | acknowledged => exact ⟨hsubmitted.acknowledges, hw.2, List.mem_cons_self⟩
  | lost => exact hsubmitted.fails (by decide)
  | killed => exact hsubmitted

/-- The journal goes away after its receipt was acknowledged. -/
theorem removeJournal_kept (M : Option RuntimeHandoffMarker → Prop) (state : String)
    (hstate : state ≠ "running") :
    Triple (fun w => Kept openwrt w ∧ (M w.disk.marker ∧ w.disk.journal = some j)
        ∧ .acknowledged (receiptBody j state) ∈ w.trace)
      (removeJournal j)
      (fun _ w => Kept openwrt w ∧ M w.disk.marker ∧ w.disk.journal = none) (Fails openwrt)
      (Kept openwrt) := by
  have hfiles : Stable fun w => M w.disk.marker ∧ w.disk.journal = some j :=
    (stable_marker M).and (framed_journal (· = some j)).1
  refine writes_kept (hfiles.and (stable_mem _)) (by decide) fun w hkept hw => ?_
  refine ⟨⟨fun hhonest => ?_, fun hclean => ?_⟩, hw.1.1, rfl⟩
  · exact (hkept.receipts hhonest.tail).removes hw.1.2 ⟨_, hw.2, rfl, hstate⟩
  · exact (hkept.evidence hclean.tail).removes

/-- Files that can go: no job that hands off is on the disk. -/
theorem removeEvidence_kept (hJ : ∀ j, J (some j) → ¬ j.handsOff openwrt = true) :
    Triple (fun w => Kept openwrt w ∧ J w.disk.journal) removeEvidence
      (fun _ w => Kept openwrt w ∧ J w.disk.journal) (Fails openwrt) (Kept openwrt) := by
  have hstable := (framed_journal J).1
  have huntold {w : Node} (hw : J w.disk.journal) : Untold openwrt w := by
    intro _ j hj hhands
    rw [hj] at hw
    exact absurd hhands (hJ j hw)
  refine (writes_kept hstable (by decide) fun w hkept hw => ?_).bind fun _ =>
    (writes_kept hstable (by decide) fun w hkept hw => ?_).bind fun _ =>
    writes_kept hstable (by decide) fun w hkept hw => ?_
  · exact ⟨hkept.drops (huntold hw) rfl rfl (·.dropsMarker), hw⟩
  · exact ⟨hkept.drops (huntold hw) rfl rfl (·.dropsCompleted), hw⟩
  · exact ⟨hkept.drops (huntold hw) rfl rfl (·.dropsFailure), hw⟩

theorem Phase.text_ne_running (phase : Phase) : phase.text ≠ "running" := by
  cases phase <;> decide

/-- `finalize_terminal_journal`. -/
theorem finalizeTerminal_kept (hphase : j.phase = .succeeded ∨ j.phase = .failed)
    (hhands : ¬ j.handsOff openwrt = true) :
    Triple (fun w => Kept openwrt w ∧ w.disk.journal = some j) (finalizeTerminalJournal r j)
      (fun _ => Kept openwrt) (Fails openwrt) (Kept openwrt) := by
  have hstable : Stable fun w => True ∧ w.disk.journal = some j :=
    stable_true.and (framed_journal (· = some j)).1
  have hsubmitted : Triple (fun w => Kept openwrt w ∧ True ∧ w.disk.journal = some j)
      (receipt r j j.phase.text) _ (Fails openwrt) (Kept openwrt) :=
    receipt_kept (P := fun disk => True ∧ disk.journal = some j) hstable fun w hkept hw => by
      refine ⟨fun hhonest => ?_, fun hclean => ?_⟩
      · exact (hkept.receipts hhonest.tail).submits hw.2 hphase fun hands => absurd hands hhands
      · exact (hkept.evidence hclean.tail).submits hw.2 fun _ hands => absurd hands hhands
  refine (hsubmitted.pre fun w hw => ⟨hw.1, trivial, hw.2⟩).bind fun _ => ?_
  refine (removeJournal_kept (fun _ => True) _ j.phase.text_ne_running).bind fun _ => ?_
  exact .pure fun w hw => hw.1

theorem stable_confirmed :
    Stable fun w => w.disk.marker = some m ∧ w.disk.completed = some m := by
  intro w w' hmoved h
  exact ⟨hmoved.marker.trans h.1, hmoved.confirmed m h.1 h.2⟩

/-- `finalize_completed_runtime_handoff`. -/
theorem finalizeCompleted_kept (hphase : j.phase = .succeeded) (hjob : m.jobId = j.job.id)
    (hrunning : r.running = some m.syncBinarySha256) :
    Triple (fun w => Kept openwrt w ∧ (w.disk.marker = some m ∧ w.disk.completed = some m)
        ∧ w.disk.journal = some j)
      (finalizeCompletedRuntimeHandoff r j) (fun _ => Kept openwrt) (Fails openwrt)
      (Kept openwrt) := by
  have hstable : Stable fun w => (w.disk.marker = some m ∧ w.disk.completed = some m)
      ∧ w.disk.journal = some j := stable_confirmed.and (framed_journal (· = some j)).1
  have htext : "succeeded" = j.phase.text := by
    rw [hphase]
    rfl
  refine (receipt_kept (P := fun disk => (disk.marker = some m ∧ disk.completed = some m)
    ∧ disk.journal = some j) hstable fun w hkept hw => ?_).bind fun _ => ?_
  · refine ⟨fun hhonest => ?_, fun hclean => ?_⟩
    · rw [htext]
      exact (hkept.receipts hhonest.tail).submits hw.2 (.inl hphase) fun _ =>
        ⟨m, hw.1.1, hjob, hw.1.2, hrunning⟩
    · exact (hkept.evidence hclean.tail).submits hw.2 fun _ _ => ⟨m, hw.1.2, hjob⟩
  · refine ((removeJournal_kept (fun _ => True) "succeeded" (by decide)).pre ?_).bind
      fun _ => ?_
    · exact fun w hw => ⟨hw.1, ⟨trivial, hw.2.1.2⟩, hw.2.2⟩
    · refine ((removeEvidence_kept (J := (· = none)) nofun).pre ?_).bind fun _ => ?_
      · exact fun w hw => ⟨hw.1, hw.2.2⟩
      · exact .pure fun w hw => hw.1

/-- `finalize_failed_runtime_handoff`. -/
theorem finalizeFailed_kept {f : RuntimeHandoffFailure} (hhands : j.handsOff openwrt = true)
    (hjob : m.jobId = j.job.id) :
    Triple (fun w => Kept openwrt w ∧ (Files (· = some j) m w ∧ Untold openwrt w)
        ∧ (Clean w.trace → .recorded m.jobId f ∈ w.trace))
      (finalizeFailedRuntimeHandoff r j m f)
      (fun _ w => Kept openwrt w ∧ Files (· = none) m w) (Fails openwrt) (Kept openwrt) := by
  have hfiles (j : Journal) : Stable (Files (· = some j) m) :=
    (stable_marker (· = some m)).and (framed_journal (· = some j)).1
  have hstable : Stable fun w => (Files (· = some j) m w ∧ Untold openwrt w)
      ∧ (Clean w.trace → .recorded m.jobId f ∈ w.trace) :=
    ((hfiles j).and stable_untold).and (stable_clean_mem _)
  have hphase : j.phase = .succeeded := by
    unfold Journal.handsOff at hhands
    simp only [Bool.and_eq_true, decide_eq_true_eq] at hhands
    exact hhands.1.2
  have hnot : ¬ (j.handoffFailed m f).handsOff openwrt = true := by
    simp [Journal.handsOff, Journal.handoffFailed]
  have hwrite : Triple (fun w => Kept openwrt w ∧ (Files (· = some j) m w ∧ Untold openwrt w)
      ∧ (Clean w.trace → .recorded m.jobId f ∈ w.trace)) (writeJournal (j.handoffFailed m f))
      (fun _ w => Kept openwrt w ∧ Files (· = some (j.handoffFailed m f)) m w) (Fails openwrt)
      (Kept openwrt) := by
    refine writes_kept hstable (by decide) fun w hkept hw => ⟨⟨fun hhonest => ?_, fun hclean => ?_⟩,
      hw.1.1.1, rfl⟩
    · refine (hkept.receipts hhonest.tail).settles hw.1.1.2 ?_ ?_ rfl (.inr rfl)
        (fun h => by cases h)
      · rw [hphase]
        decide
      · exact hw.1.2 hhonest.tail j hw.1.1.2 hhands
    · refine (hkept.evidence hclean.tail).journals (fun h => absurd rfl h) (fun _ => ?_) ?_
      · refine ⟨f, ?_, rfl⟩
        show .recorded j.job.id f ∈ w.trace
        rw [← hjob]
        exact hw.2 hclean.tail
      · exact fun hands => absurd hands hnot
  refine hwrite.bind fun _ => ?_
  refine (receipt_kept (P := fun disk => disk.marker = some m
    ∧ disk.journal = some (j.handoffFailed m f)) (hfiles _) fun w hkept hw => ?_).bind fun _ => ?_
  · refine ⟨fun hhonest => ?_, fun hclean => ?_⟩
    · exact (hkept.receipts hhonest.tail).submits hw.2 (.inr rfl) fun hands => absurd hands hnot
    · exact (hkept.evidence hclean.tail).submits hw.2 fun _ hands => absurd hands hnot
  · exact removeJournal_kept (· = some m) "failed" (by decide)

/-- `begin_runtime_handoff`. -/
theorem beginHandoff_kept (hjob : m.jobId = j.job.id)
    (hversion : m.version = j.job.target.version) :
    Triple (fun w => Kept openwrt w ∧ w.disk.journal = some j) (beginRuntimeHandoff m)
      (fun _ => Kept openwrt) (Fails openwrt) (Kept openwrt) := by
  refine (ensureMarker_kept hjob hversion).bind fun _ => ?_
  intro w hw
  rw [wp_bind, wp_get, wp_bind, wp_ensure]
  refine ⟨fun _ => ?_, fun _ => hw.1.fails (by decide)⟩
  have hscheduled : Triple (fun w => Kept openwrt w ∧ Files (· = some j) m w)
      (scheduleCommittedRuntimeHandoff m >>= fun _ => pure UpgradeOutcome.continue)
      (fun _ => Kept openwrt) (Fails openwrt) (Kept openwrt) :=
    (schedule_kept (· = some j)).bind fun _ => .pure fun w hw => hw.1
  exact hscheduled w hw

/-- The part of `finish_terminal_upgrade` without completion evidence. -/
theorem settleHandoff_kept (hhands : j.handsOff openwrt = true) (hjob : m.jobId = j.job.id)
    (hversion : m.version = j.job.target.version) :
    Triple (fun w => Kept openwrt w ∧ w.disk.marker = some m ∧ w.disk.journal = some j
        ∧ Untold openwrt w)
      (settleHandoff r j m) (fun _ => Kept openwrt) (Fails openwrt) (Kept openwrt) := by
  have hjournal := framed_journal (· = some j)
  have hcontext : Framed fun w => w.disk.journal = some j ∧ Untold openwrt w :=
    hjournal.and framed_untold
  have hstable : Stable fun w => w.disk.marker = some m ∧ w.disk.journal = some j
      ∧ Untold openwrt w := (stable_marker (· = some m)).and hcontext.1
  unfold settleHandoff
  refine (readFailure_kept hjournal).bind fun failure => ?_
  refine Triple.pre (P := fun w => Kept openwrt w ∧ w.disk.marker = some m
    ∧ w.disk.journal = some j ∧ Untold openwrt w) ?_ (fun w hw => ⟨hw.1, hw.2.1⟩)
  refine moment_bind hstable fun moment => ?_
  refine (Triple.when (fun _ => record_kept hcontext (by decide)) fun _ w hw => hw).bind fun _ => ?_
  refine (readFailure_kept hjournal).bind fun failure => ?_
  cases failure with
  | none =>
    refine (beginHandoff_kept hjob hversion).pre fun w hw => ?_
    exact ⟨hw.1, hw.2.1.2.1⟩
  | some f =>
    refine ((finalizeFailed_kept hhands hjob).pre fun w hw => ?_).bind fun _ => ?_
    · exact ⟨hw.1, ⟨⟨hw.2.1.1, hw.2.1.2.1⟩, hw.2.1.2.2⟩, hw.2.2 f rfl⟩
    · exact (schedule_kept (· = none)).bind fun _ => .pure fun w hw => hw.1

/-- `finish_terminal_upgrade`. -/
theorem finishTerminal_kept (hphase : j.phase = .succeeded ∨ j.phase = .failed) :
    Triple (fun w => Kept openwrt w ∧ w.disk.journal = some j) (finishTerminalUpgrade openwrt r j)
      (fun _ => Kept openwrt) (Fails openwrt) (Kept openwrt) := by
  refine .ite (fun hhands => ?_) fun hhands => finalizeTerminal_kept hphase hhands
  have hsucceeded : j.phase = .succeeded := by
    unfold Journal.handsOff at hhands
    simp only [Bool.and_eq_true, decide_eq_true_eq] at hhands
    exact hhands.1.2
  refine runtimeHandoffMarker_kept.bind fun m => .and_pre fun hm => ?_
  refine (ensureMarker_kept hm.1 hm.2).bind fun _ => ?_
  refine (readCompletion_kept (framed_journal (· = some j))).bind fun completed => ?_
  cases completed with
  | true =>
    refine .okOr_bind (fun running hrunning => ?_) fun w hw => hw.1.fails (by decide)
    refine .ite (fun _ => ?_) fun hsame => ?_
    · refine ((schedule_kept (· = some j)).pre fun w hw => ?_).bind fun _ => .pure fun w hw => hw.1
      exact ⟨hw.1, hw.2.1⟩
    · rw [not_not] at hsame
      refine (finalizeCompleted_kept hsucceeded hm.1 (hsame ▸ hrunning)).pre fun w hw => ?_
      exact ⟨hw.1, ⟨hw.2.1.1, hw.2.2⟩, hw.2.1.2⟩
  | false =>
    refine (settleHandoff_kept hhands hm.1 hm.2).pre fun w hw => ?_
    exact ⟨hw.1, hw.2.1.1, hw.2.1.2, hw.2.2⟩

end Handoff

/-! ## A run -/

section Run

variable {r : Round} {job : Job} {j : Journal}

/-- `install`: the installer is started for the first time. -/
theorem install_kept {target : Target} {M : Option RuntimeHandoffMarker → Prop}
    (hphase : j.phase = .executing) (hjob : j.job = job) :
    Triple (fun w => Kept openwrt w ∧ (M w.disk.marker ∧ w.disk.journal = some j)
        ∧ (Honest w.trace → .installs job.id ∉ w.trace))
      (install r job target)
      (fun result w => Kept openwrt w ∧ (M w.disk.marker ∧ w.disk.journal = some j)
        ∧ (result = .ok () → .installed job.id ∈ w.trace))
      (Fails openwrt) (Kept openwrt) := by
  have hstable : Stable fun w => (M w.disk.marker ∧ w.disk.journal = some j)
      ∧ (Honest w.trace → .installs job.id ∉ w.trace) :=
    ((stable_marker M).and (framed_journal (· = some j)).1).and (stable_not_installs _)
  refine .ite (fun _ => .pure fun w hw => ⟨hw.1, hw.2.1, nofun⟩) fun _ => ?_
  refine moment_bind hstable fun _ => ?_
  intro w hw
  have hstarted : Kept openwrt (w.logs (.installs job.id)) := by
    refine ⟨fun hhonest => ?_, fun hclean => (hw.1.evidence hclean.tail).logs trivial⟩
    have hold := hw.1.receipts hhonest.tail
    refine hold.installStarts ?_ (hw.2.2 hhonest.tail)
    rw [← hjob]
    refine (hold.journal j hw.2.1.2).reached ?_
    rw [hphase]
    decide
  unfold log
  rw [wp_bind, wp_modify]
  refine (wp_ite _ _ _).mpr ⟨fun _ => hstarted, fun _ => ?_⟩
  cases r.install with
  | ok u =>
    refine ⟨⟨fun hhonest => ?_, fun hclean => ?_⟩, hw.2.1, fun _ => List.mem_cons_self⟩
    · exact (hstarted.receipts hhonest.tail).installEnds
    · exact (hstarted.evidence hclean.tail).logs trivial
  | error failure => exact ⟨hstarted, hw.2.1, nofun⟩

theorem afterInstall_job {result : Except UpgradeFailure Unit} :
    (j.afterInstall result).job = j.job := by
  cases result <;> rfl

theorem FailurePhase.text_ne (phase : FailurePhase) : phase.text ≠ "runtime_handoff" := by
  cases phase <;> decide

/-- The journal of a job that the installer is through with. -/
theorem writeTerminal_kept {result : Except UpgradeFailure Unit} (hphase : j.phase = .executing)
    (hfailure : j.failurePhase = none) :
    Triple (fun w => Kept openwrt w
        ∧ ((openwrt = true → w.disk.marker = none) ∧ w.disk.journal = some j)
        ∧ (result = .ok () → .installed j.job.id ∈ w.trace))
      (writeJournal (j.afterInstall result))
      (fun _ w => Kept openwrt w ∧ w.disk.journal = some (j.afterInstall result)) (Fails openwrt)
      (Kept openwrt) := by
  have hmem : Stable fun w => result = .ok () → .installed j.job.id ∈ w.trace :=
    fun w w' hmoved h hok => hmoved.mem (h hok)
  have hfiles : Stable fun w => (openwrt = true → w.disk.marker = none)
      ∧ w.disk.journal = some j :=
    (stable_marker fun marker => openwrt = true → marker = none).and
      (framed_journal (· = some j)).1
  refine writes_kept (hfiles.and hmem) (by decide) fun w hkept hw =>
    ⟨⟨fun hhonest => ?_, fun hclean => ?_⟩, rfl⟩
  · have hold := hkept.receipts hhonest.tail
    refine hold.settles hw.1.2 ?_ ((hold.journal j hw.1.2).executing hphase) afterInstall_job ?_ ?_
    · rw [hphase]
      decide
    · cases result with
      | ok u => exact .inl rfl
      | error failure => exact .inr rfl
    · intro hsucceeded
      cases result with
      | ok u => exact hw.2 rfl
      | error failure => cases hsucceeded
  · refine (hkept.evidence hclean.tail).journals ?_ ?_ ?_
    · intro hnot
      cases result with
      | ok u => exact hfailure
      | error failure => exact absurd rfl hnot
    · intro hhandoff
      cases result with
      | ok u =>
        rw [show (j.afterInstall (.ok u)).failurePhase = j.failurePhase from rfl, hfailure]
          at hhandoff
        cases hhandoff
      | error failure => exact absurd (Option.some.inj hhandoff) failure.phase.text_ne
    · intro hhands
      unfold Journal.handsOff at hhands
      simp only [Bool.and_eq_true] at hhands
      exact hw.1.1 hhands.1.1

theorem log_bind {P : Node → Prop} (P' : Node → Prop) {event : Node → Event} {α : Type}
    {f : Unit → Upg α} {R : α → Node → Prop} (hlog : ∀ w, P w → P' (w.logs (event w)))
    (hf : Triple P' (f ()) R E C) :
    Triple P (log event >>= f) R E C := by
  intro w hw
  unfold log
  rw [wp_bind, wp_modify]
  exact hf _ (hlog w hw)

/-- The marker is not there on OpenWrt. -/
abbrev Unmarked (openwrt : Bool) (marker : Option RuntimeHandoffMarker) : Prop :=
  openwrt = true → marker = none

/-- From the first journal of a job to its last. -/
theorem executeJob_kept {target : Target} (hj : j = ⟨job, .prepared, none, none, none⟩) :
    Triple (fun w => Kept openwrt w ∧ Unmarked openwrt w.disk.marker ∧ w.disk.journal = some j)
      (do
        receipt r j "running"
        writeJournal { j with phase := .executing }
        let result ← install r job target
        writeJournal (Journal.afterInstall { j with phase := .executing } result)
        finishTerminalUpgrade openwrt r (Journal.afterInstall { j with phase := .executing } result))
      (fun _ => Kept openwrt) (Fails openwrt) (Kept openwrt) := by
  subst hj
  have hfiles (j : Journal) : Stable fun w => Unmarked openwrt w.disk.marker
      ∧ w.disk.journal = some j :=
    (stable_marker (Unmarked openwrt)).and (framed_journal (· = some j)).1
  refine (receipt_kept (P := fun disk => Unmarked openwrt disk.marker
    ∧ disk.journal = some ⟨job, .prepared, none, none, none⟩) (hfiles _) ?_).bind fun _ => ?_
  · refine fun w hkept hw => ⟨fun hhonest => ?_, fun hclean => ?_⟩
    · exact (hkept.receipts hhonest.tail).submitsRunning rfl
    · exact (hkept.evidence hclean.tail).submits hw.2 fun hstate => absurd hstate (by decide)
  have hexecuting : Triple (fun w => Kept openwrt w ∧ Unmarked openwrt w.disk.marker
        ∧ w.disk.journal = some ⟨job, .prepared, none, none, none⟩)
      (writeJournal ⟨job, .executing, none, none, none⟩)
      (fun _ w => Kept openwrt w ∧ (Unmarked openwrt w.disk.marker
          ∧ w.disk.journal = some ⟨job, .executing, none, none, none⟩)
        ∧ (Honest w.trace → .installs job.id ∉ w.trace))
      (Fails openwrt) (Kept openwrt) := by
    refine writes_kept (hfiles _) (by decide) fun w hkept hw =>
      ⟨⟨fun hhonest => ?_, fun hclean => ?_⟩, ⟨hw.1, rfl⟩, fun hhonest hinstalls => ?_⟩
    · exact (hkept.receipts hhonest.tail).executes hw.2 rfl rfl rfl
    · refine (hkept.evidence hclean.tail).journals (fun _ => rfl) nofun fun hhands => ?_
      simp [Journal.handsOff] at hhands
    · -- The installer was not started before the journal was executing.
      have hold := hkept.receipts hhonest.tail
      have hbefore : .installs job.id ∈ w.trace := by simpa using hinstalls
      exact (hold.journal _ hw.2).prepared rfl (hold.installs _ hbefore)
  refine (hexecuting.pre fun w hw => ⟨hw.1, hw.2.1⟩).bind fun _ => ?_
  refine (install_kept rfl rfl).bind fun result => ?_
  refine (writeTerminal_kept rfl rfl).bind fun _ => ?_
  refine finishTerminal_kept ?_
  cases result with
  | ok u => exact .inl rfl
  | error failure => exact .inr rfl

/-- The part of `run` that asks Cloud for a job. -/
theorem pollJob_kept :
    Triple (fun w => Kept openwrt w ∧ Unmarked openwrt w.disk.marker
        ∧ ∀ j, w.disk.journal = some j → j.phase = .prepared)
      (pollJob openwrt r) (fun _ => Kept openwrt) (Fails openwrt) (Kept openwrt) := by
  have hfree : Stable fun w => Unmarked openwrt w.disk.marker
      ∧ ∀ j, w.disk.journal = some j → j.phase = .prepared :=
    (stable_marker (Unmarked openwrt)).and
      (framed_journal fun journal => ∀ j, journal = some j → j.phase = .prepared).1
  refine moment_bind hfree fun _ => ?_
  refine .okOr_bind (fun offer _ => ?_) fun w hw => hw.1.fails (by decide)
  cases offer with
  | none => exact .pure fun w hw => hw.1
  | some job =>
    have hstable := hfree.and (stable_not_acked job.id)
    refine log_bind (fun w => Kept openwrt w ∧ (Unmarked openwrt w.disk.marker
      ∧ ∀ j, w.disk.journal = some j → j.phase = .prepared)
      ∧ (Honest w.trace → ¬ Acked w.trace job.id)) (fun w hw => ?_) ?_
    · refine ⟨⟨fun hhonest => ?_, fun hclean => ?_⟩, hw.2, fun hhonest hacked => ?_⟩
      · have hold := hw.1.receipts hhonest.tail
        refine hold.plain [_] rfl rfl ?_ fun j hj => (hold.journal j hj).confirmed
        intro event hevent
        rw [List.mem_singleton.mp hevent]
        trivial
      · exact (hw.1.evidence hclean.tail).logs trivial
      · refine hhonest.1 job rfl ?_
        simpa [acked_cons] using hacked
    refine .ensure_bind (fun _ => ?_) fun w hw => hw.1.fails (by decide)
    refine .okOr_bind (fun target _ => ?_) fun w hw => hw.1.fails (by decide)
    refine reads_bind hstable (by decide) fun w₀ hkept hw => ?_
    refine Triple.pre (P := fun w => Kept openwrt w ∧ (Unmarked openwrt w.disk.marker
      ∧ ∀ j, w.disk.journal = some j → j.phase = .prepared)
      ∧ (Honest w.trace → ¬ Acked w.trace job.id)) ?_ (fun w heq => heq ▸ ⟨hkept, hw⟩)
    have htaken : Triple (fun w => Kept openwrt w ∧ (Unmarked openwrt w.disk.marker
          ∧ ∀ j, w.disk.journal = some j → j.phase = .prepared)
          ∧ (Honest w.trace → ¬ Acked w.trace job.id))
        (writeJournal ⟨job, .prepared, none, none, none⟩)
        (fun _ w => Kept openwrt w ∧ Unmarked openwrt w.disk.marker
          ∧ w.disk.journal = some ⟨job, .prepared, none, none, none⟩)
        (Fails openwrt) (Kept openwrt) := by
      refine writes_kept hstable (by decide) fun w hkept hw =>
        ⟨⟨fun hhonest => ?_, fun hclean => ?_⟩, hw.1.1, rfl⟩
      · exact (hkept.receipts hhonest.tail).takes hw.1.2 rfl (hw.2 hhonest.tail)
      · refine (hkept.evidence hclean.tail).journals (fun _ => rfl) nofun fun hhands => ?_
        simp [Journal.handsOff] at hhands
    exact htaken.bind fun _ => executeJob_kept rfl

/-- The part of `run` for a marker without a terminal journal. -/
theorem recoverHandoff_kept {m : RuntimeHandoffMarker} :
    Triple (fun w => Kept openwrt w ∧ w.disk.marker = some m
        ∧ ∀ j, w.disk.journal = some j → j.phase = .prepared)
      (recoverHandoff r m) (fun _ => Kept openwrt) (Fails openwrt) (Kept openwrt) := by
  have hfree := framed_journal fun journal => ∀ j, journal = some j → j.phase = .prepared
  have hscheduled : Triple (fun w => Kept openwrt w ∧ Files
        (fun journal => ∀ j, journal = some j → j.phase = .prepared) m w)
      (scheduleCommittedRuntimeHandoff m >>= fun _ => pure UpgradeOutcome.continue)
      (fun _ => Kept openwrt) (Fails openwrt) (Kept openwrt) :=
    (schedule_kept _).bind fun _ => .pure fun w hw => hw.1
  refine .ensure_bind (fun _ => ?_) fun w hw => hw.1.fails (by decide)
  refine (readCompletion_kept hfree).bind fun completed => ?_
  cases completed with
  | true =>
    refine .okOr_bind (fun running _ => ?_) fun w hw => hw.1.fails (by decide)
    refine .ite (fun _ => ?_) fun _ => hscheduled.pre fun w hw => ⟨hw.1, hw.2.1⟩
    have hhands (j : Journal) (hj : ∀ j', some j = some j' → j'.phase = .prepared) :
        ¬ j.handsOff openwrt = true := by
      simp [Journal.handsOff, hj j rfl]
    have hremoved := removeEvidence_kept
      (J := fun journal => ∀ j, journal = some j → j.phase = .prepared) hhands
    refine (hremoved.pre fun w hw => ⟨hw.1, hw.2.1.2⟩).bind fun _ => .pure fun w hw => hw.1
  | false => exact hscheduled.pre fun w hw => ⟨hw.1, hw.2.1⟩

/-- The part of `run` without a terminal journal. -/
theorem runWithoutTerminal_kept :
    Triple (fun w => Kept openwrt w ∧ ∀ j, w.disk.journal = some j → j.phase = .prepared)
      (runWithoutTerminal openwrt r) (fun _ => Kept openwrt) (Fails openwrt) (Kept openwrt) := by
  have hfree := framed_journal fun journal => ∀ j, journal = some j → j.phase = .prepared
  refine reads_bind hfree.1 (by decide) fun w₀ hkept hw => ?_
  split
  · next marker hmarker =>
    refine .ite (fun _ => ?_) fun hnot => ?_
    · exact recoverHandoff_kept.pre fun w heq => heq ▸ ⟨hkept, hmarker, hw⟩
    · exact pollJob_kept.pre fun w heq => heq ▸ ⟨hkept, fun h => absurd h hnot, hw⟩
  · next hnone => exact pollJob_kept.pre fun w heq => heq ▸ ⟨hkept, fun _ => hnone, hw⟩

/-- A journal that was left executing has failed. -/
theorem settleInterrupted_kept :
    Triple (fun w => Kept openwrt w ∧ w.disk.journal = some j) (settleInterrupted j)
      (fun j' w => (Kept openwrt w ∧ w.disk.journal = some j') ∧ j'.phase ≠ .executing)
      (Fails openwrt) (Kept openwrt) := by
  refine .ite (fun hphase => ?_) fun hphase => .pure fun w hw => ⟨hw, hphase⟩
  have hwritten : Triple (fun w => Kept openwrt w ∧ w.disk.journal = some j)
      (writeJournal { j with
        phase := .failed
        errorCode := some "upgrade_interrupted_verify_required" })
      (fun _ w => Kept openwrt w ∧ w.disk.journal = some { j with
        phase := .failed
        errorCode := some "upgrade_interrupted_verify_required" }) (Fails openwrt)
      (Kept openwrt) := by
    refine writes_kept (framed_journal (· = some j)).1 (by decide) fun w hkept hw =>
      ⟨⟨fun hhonest => ?_, fun hclean => ?_⟩, rfl⟩
    · have hold := hkept.receipts hhonest.tail
      refine hold.settles hw ?_ ((hold.journal j hw).executing hphase) rfl (.inr rfl)
        (fun h => by cases h)
      rw [hphase]
      decide
    · have hold := (hkept.evidence hclean.tail).journal j hw
      have hnone : j.failurePhase = none := by
        refine hold.unfailed ?_
        rw [hphase]
        decide
      refine (hkept.evidence hclean.tail).journals (fun h => absurd rfl h) (fun hhandoff => ?_) ?_
      · change j.failurePhase = some "runtime_handoff" at hhandoff
        rw [hnone] at hhandoff
        cases hhandoff
      · intro hhands
        simp [Journal.handsOff] at hhands
  exact hwritten.bind fun _ => .pure fun w hw => ⟨hw, fun h => by cases h⟩

/-- `run`. -/
theorem run_kept :
    Triple (Kept openwrt) (run openwrt r) (fun _ => Kept openwrt) (Fails openwrt)
      (Kept openwrt) := by
  refine .ensure_bind (fun _ => ?_) fun w hw => hw.fails (by decide)
  refine Triple.pre (P := fun w => Kept openwrt w ∧ True) ?_ (fun w hw => ⟨hw, trivial⟩)
  refine reads_bind stable_true (by decide) fun w₀ hkept _ => ?_
  split
  · next j hj =>
    refine .ensure_bind (fun _ => ?_) fun w heq => heq ▸ hkept.fails (by decide)
    refine (settleInterrupted_kept.pre fun w heq => heq ▸ ⟨hkept, hj⟩).bind fun j' => ?_
    refine .and_pre fun hexecuting => ?_
    refine .ite (fun hphase => finishTerminal_kept hphase) fun hphase => ?_
    refine runWithoutTerminal_kept.pre fun w hw => ⟨hw.1, fun j₀ hj₀ => ?_⟩
    rw [hw.2] at hj₀
    cases hj₀
    cases hcase : j'.phase with
    | prepared => rfl
    | executing => exact absurd hcase hexecuting
    | succeeded => exact absurd (.inl hcase) hphase
    | failed => exact absurd (.inr hcase) hphase
  · next hnone =>
    refine runWithoutTerminal_kept.pre fun w heq => heq ▸ ⟨hkept, fun j hj => ?_⟩
    rw [hnone] at hj
    cases hj

theorem Kept.ends (h : Kept openwrt w) {result : Except String UpgradeOutcome}
    (hresult : Clean w.trace → ∀ e, result = .error e → e ∉ evidenceErrors) :
    Kept openwrt { w with trace := .ended result :: w.trace } := by
  refine ⟨fun hhonest => ?_, fun hclean => ?_⟩
  · have hold := h.receipts hhonest.tail
    refine hold.plain [_] rfl rfl ?_ fun j hj => (hold.journal j hj).confirmed
    intro event hevent
    rw [List.mem_singleton.mp hevent]
    trivial
  · refine (h.evidence hclean.tail).logs ?_
    cases result with
    | ok outcome => trivial
    | error e => exact hresult hclean.tail e rfl

theorem runs_kept (h : Kept openwrt w) : Kept openwrt (w.runs openwrt r) := by
  have hrun := run_kept (r := r) w h
  unfold wp at hrun
  unfold Node.runs
  cases heq : run openwrt r w with
  | mk outcome w' =>
    rw [heq] at hrun
    cases outcome with
    | ok outcome => exact hrun.ends nofun
    | err e =>
      refine hrun.1.ends fun hclean e' he' => ?_
      cases he'
      exact hrun.2 hclean
    | crash => exact hrun

theorem rounds_kept {rs : List Round} (h : Kept openwrt w) :
    Kept openwrt (w.rounds openwrt rs) := by
  induction rs generalizing w with
  | nil => exact h
  | cons r rs ih => exact ih (runs_kept h)

theorem start_kept (moments : ℕ → Moment) : Kept openwrt (.start moments) := by
  refine ⟨fun _ => ⟨trivial, nofun, ?_, ?_, nofun⟩, fun _ => ⟨trivial, nofun, nofun, nofun, nofun, nofun⟩⟩
  · rintro id ⟨j, hj, _⟩
    cases hj
  · rintro id state ⟨r, running, disk, hmem, _⟩
    cases hmem

end Run

/-! ## Deciding what a trace says -/

instance (trace : List Event) (id : Uuid) : Decidable (Acked trace id) :=
  decidable_of_iff (trace.any fun
    | .acknowledged r => decide (r.id = id ∧ r.state ≠ "running")
    | _ => false) <| by
  induction trace with
  | nil => simp [Acked]
  | cons event trace ih =>
    rw [acked_cons, ← ih, List.any_cons]
    cases event <;> simp

instance (trace : List Event) (id : Uuid) (state : String) : Decidable (Told trace id state) :=
  decidable_of_iff (trace.any fun
    | .submitted r _ _ => decide (r.id = id ∧ r.state = state ∧ state ≠ "running")
    | _ => false) <| by
  induction trace with
  | nil => simp [Told]
  | cons event trace ih =>
    rw [told_cons, ← ih, List.any_cons]
    cases event <;> simp

instance decidableHonest : (trace : List Event) → Decidable (Honest trace)
  | [] => .isTrue trivial
  | .offered job :: trace =>
    have := decidableHonest trace
    decidable_of_iff (¬ Acked trace job.id ∧ Honest trace) <| by
      simp [Honest]
  | .journaled _ :: trace | .removed _ :: trace | .installs _ :: trace | .installed _ :: trace
  | .submitted _ _ _ :: trace | .acknowledged _ :: trace | .marked _ _ _ :: trace
  | .recorded _ _ :: trace | .completed _ :: trace | .ended _ :: trace =>
    have := decidableHonest trace
    decidable_of_iff (Honest trace) <| by
      simp [Honest]

instance (m : RuntimeHandoffMarker) (disk : Disk) (helpers : Helpers) :
    Decidable (CleanGround m disk helpers) :=
  decidable_of_iff (disk.completed.all (·.version ≠ m.version) = true
    ∧ disk.failure.all (·.version ≠ m.version) = true ∧ helpers.holder = none
    ∧ helpers.waiting = []) <| by
  unfold CleanGround
  cases disk.completed <;> cases disk.failure <;> simp

instance (trace : List Event) : Decidable (Clean trace) :=
  decidable_of_iff (trace.all fun
    | .marked m disk helpers => decide (CleanGround m disk helpers)
    | _ => true) <| by
  unfold Clean
  rw [List.all_eq_true]
  constructor
  · intro h m disk helpers hmem
    simpa using h _ hmem
  · intro h event hmem
    cases event with
    | marked m disk helpers => simpa using h m disk helpers hmem
    | _ => rfl

/-! ## The results -/

theorem told_agree (h : Always (ReceiptLaw openwrt) trace) {id : Uuid} {state state' : String}
    (htold : Told trace id state) (htold' : Told trace id state') :
    state = state' := by
  induction trace with
  | nil =>
    obtain ⟨_, _, _, hmem, _⟩ := htold
    cases hmem
  | cons event trace ih =>
    rw [told_cons] at htold htold'
    rcases htold with ⟨r, _, _, rfl, rfl, rfl, hnot⟩ | hold
    · rcases htold' with ⟨r', _, _, heq, _, rfl, _⟩ | hold'
      · cases heq
        rfl
      · exact (h.1.1 hnot state' hold').symm
    · rcases htold' with ⟨r, _, _, rfl, rfl, rfl, hnot⟩ | hold'
      · exact h.1.1 hnot state hold
      · exact ih h.2 hold hold'

/-- The receipts of upgrade jobs, in any history of the node: any rounds of the worker, killed or
failing at any write, with any receipts lost and any end of the installer, and any moves of the
helpers in between. Cloud does not offer a job again that it knows to be over. Then the terminal
receipts of a job agree; a success is reported after the installer has succeeded and, for a
runtime on OpenWrt, by the executable of the marker with the evidence in place; the installer is
started once; and a journal that was executing stays until a terminal receipt is acknowledged. -/
theorem upgrade_receipts_consistent (openwrt : Bool) (moments : ℕ → Moment) (rs : List Round)
    (hhonest : Honest ((Node.start moments).rounds openwrt rs).trace) :
    let trace := ((Node.start moments).rounds openwrt rs).trace
    (∀ id state state', Told trace id state → Told trace id state' → state = state')
      ∧ (∀ later r running disk earlier, trace = later ++ .submitted r running disk :: earlier →
        r.state = "succeeded" → .installed r.id ∈ earlier
          ∧ ∃ j, disk.journal = some j ∧ j.job.id = r.id
            ∧ (openwrt = true → j.job.target.component = "runtime" →
              ∃ m, disk.marker = some m ∧ m.jobId = r.id ∧ disk.completed = some m
                ∧ running = some m.syncBinarySha256))
      ∧ (∀ later id earlier, trace = later ++ .installs id :: earlier →
        Reached earlier id ∧ .installs id ∉ earlier)
      ∧ (∀ later j earlier, trace = later ++ .removed j :: earlier →
        Reached earlier j.job.id → Acked earlier j.job.id)
      ∧ (∀ later j earlier, trace = later ++ .journaled j :: earlier →
        ∀ id, id ≠ j.job.id → Reached earlier id → Acked earlier id) := by
  have hlaw := ((rounds_kept (start_kept moments)).receipts hhonest).law
  have hevery := always_iff.mp hlaw
  refine ⟨fun id state state' => told_agree hlaw, ?_, ?_, ?_, ?_⟩
  · intro later r running disk earlier heq
    exact (hevery later _ earlier heq).2
  · intro later id earlier heq
    exact hevery later _ earlier heq
  · intro later j earlier heq
    exact hevery later _ earlier heq
  · intro later j earlier heq
    exact hevery later _ earlier heq

/-- The digests of the installed files. -/
def oneBinary : String := "6666666666666666666666666666666666666666666666666666666666666666"

def oneLoop : String := "7777777777777777777777777777777777777777777777777777777777777777"

def oneTarget : Target where
  component := "runtime"
  currentVersion := "0.4.0-r132"
  version := "0.4.0-r133"
  versionKey := "v0_4_0_r133"
  digest := "digest"

def oneJob (n : UInt8) : Job where
  id := Vector.replicate 16 n
  deviceId := Vector.replicate 16 2
  deviceKeyId := Vector.replicate 16 3
  target := oneTarget

/-- Nothing goes wrong, and the helpers rest. -/
def calm : Moment where
  moves := []
  now := 1000
  reads := true
  write := .done
  reply := .acknowledged
  scheduled := .done
  binary := some oneBinary
  loop := some oneLoop

/-- The helper restarts the service. -/
def handsOver : List Move :=
  [.enter, .load 1000, .compare 1000, .restart oneBinary oneLoop true 1000, .publish 1000, .clear]

/-- All moments are calm but these. -/
def calmBut (exceptions : List (ℕ × Moment)) (n : ℕ) : Moment := (exceptions.lookup n).getD calm

/-- A round of the worker with this executable, in which the installer succeeds. -/
def oneRound (running : String) (offer : Option Job) : Round where
  ready := true
  deviceId := Vector.replicate 16 2
  deviceKeyId := Vector.replicate 16 3
  running := some running
  offer := some offer
  candidate := some oneTarget
  install := .ok ()
  changed := ⟨.executing, "upgrade_catalog_changed", ""⟩
  installKilled := false

/-- The old worker installs, the helper hands over, and the new worker is killed after its receipt
has left; the next one submits it again. -/
theorem upgrade_receipts_consistent_resubmitted :
    Honest ((Node.start (calmBut [(20, { calm with moves := handsOver }),
        (24, { calm with reply := .killed })])).rounds true
      [oneRound "old" (some (oneJob 4)), oneRound oneBinary none, oneRound oneBinary none]).trace
    ∧ ∀ state, Told ((Node.start (calmBut [(20, { calm with moves := handsOver }),
        (24, { calm with reply := .killed })])).rounds true
      [oneRound "old" (some (oneJob 4)), oneRound oneBinary none,
        oneRound oneBinary none]).trace (oneJob 4).id state → state = "succeeded" := by
  have hhonest : Honest ((Node.start (calmBut [(20, { calm with moves := handsOver }),
        (24, { calm with reply := .killed })])).rounds true
      [oneRound "old" (some (oneJob 4)), oneRound oneBinary none,
        oneRound oneBinary none]).trace := by decide
  refine ⟨hhonest, fun state htold => ?_⟩
  exact (upgrade_receipts_consistent true _ _ hhonest).1 (oneJob 4).id state "succeeded" htold
    (by decide)

/-- The evidence of runtime jobs on OpenWrt, in any history in which every marker is written over
clean ground: a handoff is reported to have failed or succeeded by evidence of its own job, and no
run fails over evidence. -/
theorem handoff_evidence_own (moments : ℕ → Moment) (rs : List Round)
    (hclean : Clean ((Node.start moments).rounds true rs).trace) :
    let trace := ((Node.start moments).rounds true rs).trace
    (∀ later r running disk earlier, trace = later ++ .submitted r running disk :: earlier →
        (r.state = "failed" → r.phase = "runtime_handoff" →
          ∃ f, .recorded r.id f ∈ earlier ∧ r.errorCode = some f.errorCode)
        ∧ (r.state = "succeeded" → ∀ j, disk.journal = some j → j.handsOff true = true →
          ∃ m, m.jobId = r.id ∧ .completed m ∈ earlier))
      ∧ ∀ e, .ended (.error e) ∈ trace → e ∉ evidenceErrors := by
  have hlaw := ((rounds_kept (start_kept moments)).evidence hclean).law
  have hevery := always_iff.mp hlaw
  refine ⟨fun later r running disk earlier heq => hevery later _ earlier heq, fun e he => ?_⟩
  obtain ⟨later, earlier, heq⟩ := List.append_of_mem he
  exact hevery later _ earlier heq

/-- Two jobs with the same target, one after the other. -/
theorem handoff_evidence_own_repeated :
    Clean ((Node.start (calmBut [(20, { calm with moves := handsOver }),
        (49, { calm with moves := handsOver })])).rounds true
      [oneRound "old" (some (oneJob 4)), oneRound oneBinary none,
        oneRound "old" (some (oneJob 5)), oneRound oneBinary none]).trace
    ∧ ∀ e, .ended (.error e) ∈ ((Node.start (calmBut [(20, { calm with moves := handsOver }),
        (49, { calm with moves := handsOver })])).rounds true
      [oneRound "old" (some (oneJob 4)), oneRound oneBinary none,
        oneRound "old" (some (oneJob 5)), oneRound oneBinary none]).trace →
      e ∉ evidenceErrors := by
  have hclean : Clean ((Node.start (calmBut [(20, { calm with moves := handsOver }),
        (49, { calm with moves := handsOver })])).rounds true
      [oneRound "old" (some (oneJob 4)), oneRound oneBinary none,
        oneRound "old" (some (oneJob 5)), oneRound oneBinary none]).trace := by decide
  exact ⟨hclean, (handoff_evidence_own _ _ hclean).2⟩

/-! ## Evidence of another job -/

section Stuck

variable {j : Journal} {m c : RuntimeHandoffMarker}

/-- A job has its marker, no helper is at work, and the completion evidence is of the same version
and not its own. -/
structure Stuck (j : Journal) (m c : RuntimeHandoffMarker) (w : Node) : Prop where
  journal : w.disk.journal = some j
  marker : w.disk.marker = some m
  completed : w.disk.completed = some c
  helpers : w.helpers = ⟨none, []⟩
  untold : ∀ state, ¬ Told w.trace j.job.id state

theorem Stuck.moves (h : Stuck j m c w) (move : Move) : w.moves move = w := by
  have hholder : w.helpers.holder = none := by rw [h.helpers]
  have hwaiting : w.helpers.waiting = [] := by rw [h.helpers]
  unfold Node.moves
  cases move <;> simp only [hholder, hwaiting]
  obtain ⟨disk, helpers, moments, trace⟩ := w
  obtain ⟨holder, waiting⟩ := helpers
  unfold Node.holds
  dsimp only at hholder ⊢
  rw [hholder]

theorem Stuck.moment :
    Triple (Stuck j m c) moment (fun _ => Stuck j m c) E C := by
  intro w h
  have hpassed : Stuck j m c { w with moments := fun n => w.moments (n + 1) } :=
    ⟨h.journal, h.marker, h.completed, h.helpers, h.untold⟩
  have hmoves (moves : List Move) (w : Node) (h : Stuck j m c w) :
      moves.foldl Node.moves w = w := by
    induction moves with
    | nil => rfl
    | cons move moves ih => rw [List.foldl_cons, h.moves, ih]
  show Stuck j m c ((w.moments 0).moves.foldl Node.moves _)
  rw [hmoves _ _ hpassed]
  exact hpassed

theorem Stuck.reads_bind {α : Type} {f : Node → Upg α} {Q : α → Node → Prop}
    (hf : ∀ w₀, Stuck j m c w₀ →
      Triple (fun w => w = w₀) (f w₀) Q (fun _ => Stuck j m c) (Stuck j m c)) :
    Triple (Stuck j m c) (reads error >>= f) Q (fun _ => Stuck j m c) (Stuck j m c) := by
  intro w hw
  unfold reads
  rw [wp_bind, wp_bind]
  refine wp_mono (Stuck.moment (E := fun _ => Stuck j m c) (C := Stuck j m c) w hw) ?_
    (fun _ _ h => h) (fun _ h => h)
  intro moment w' hw'
  rw [wp_bind, wp_ensure]
  exact ⟨fun _ => hf w' hw' w' rfl, fun _ => hw'⟩

/-- Every run fails and changes nothing. -/
theorem Stuck.run (hhands : j.handsOff true = true) (hdiffers : c ≠ m)
    (hversion : c.version = m.version) :
    Triple (Stuck j m c) (run true r) (fun _ _ => False) (fun _ => Stuck j m c)
      (Stuck j m c) := by
  have hphase : j.phase = .succeeded := by
    unfold Journal.handsOff at hhands
    simp only [Bool.and_eq_true, decide_eq_true_eq] at hhands
    exact hhands.1.2
  refine .ensure_bind (fun _ => ?_) fun w hw => hw
  refine Stuck.reads_bind fun w₀ hw => ?_
  rw [hw.journal]
  refine .ensure_bind (fun _ => ?_) fun w heq => heq ▸ hw
  have hsettled : settleInterrupted j = pure j := by
    unfold settleInterrupted
    rw [hphase]
    rfl
  rw [hsettled]
  show Triple _ (if j.phase = .succeeded ∨ j.phase = .failed then _ else _) _ _ _
  rw [if_pos (.inl hphase)]
  unfold finishTerminalUpgrade
  rw [if_pos hhands]
  refine Triple.pre (P := Stuck j m c) ?_ (fun w heq => heq ▸ hw)
  refine Triple.bind (Q := fun _ => Stuck j m c) ?_ fun marker => ?_
  · -- The marker on the disk is taken or there is a conflict.
    refine Stuck.moment.bind fun moment => ?_
    refine .okOr_bind (fun binary _ => ?_) fun w hw => hw
    refine .okOr_bind (fun loop _ => ?_) fun w hw => hw
    refine Stuck.reads_bind fun w₁ hw₁ => ?_
    rw [hw₁.marker]
    refine .ensure_bind (fun _ => .pure fun w heq => heq ▸ hw₁) fun w heq => heq ▸ hw₁
  refine Triple.bind (Q := fun _ w => Stuck j m c w ∧ m = marker) ?_ fun _ => ?_
  · refine .ensure_bind (fun _ => ?_) fun w hw => hw
    refine Stuck.reads_bind fun w₁ hw₁ => ?_
    rw [hw₁.marker]
    intro w heq
    subst heq
    dsimp only
    rw [wp_ensure]
    exact ⟨fun hsame => ⟨hw₁, hsame⟩, fun _ => hw₁⟩
  refine .and_pre fun hsame => ?_
  subst hsame
  refine Triple.bind (Q := fun _ _ => False) ?_ fun _ _ h => h.elim
  refine Stuck.reads_bind fun w₁ hw₁ => ?_
  rw [hw₁.completed]
  dsimp only
  rw [if_pos hdiffers, if_neg (fun h => h.2.2 hversion)]
  exact .fail fun w heq => heq ▸ hw₁

theorem Stuck.rounds (h : Stuck j m c w) (hhands : j.handsOff true = true) (hdiffers : c ≠ m)
    (hversion : c.version = m.version) (rs : List Round) :
    Stuck j m c (w.rounds true rs) := by
  induction rs generalizing w with
  | nil => exact h
  | cons r rs ih =>
    have hrun := Stuck.run (r := r) hhands hdiffers hversion w h
    refine ih ?_
    unfold wp at hrun
    unfold Node.runs
    cases heq : Upgrade.run true r w with
    | mk outcome w' =>
      rw [heq] at hrun
      cases outcome with
      | ok outcome => exact hrun.elim
      | crash => exact hrun
      | err e =>
        refine ⟨hrun.journal, hrun.marker, hrun.completed, hrun.helpers, fun state htold => ?_⟩
        refine hrun.untold state ?_
        simpa [told_cons] using htold

end Stuck

/-- The first job is reported, and the worker is killed before it removes the completion evidence.
Then the runtime is rolled back and installed again. -/
def oneConflict : Node :=
  (Node.start (calmBut [(20, { calm with moves := handsOver }),
      (27, { calm with write := .killed false })])).rounds true
    [oneRound "old" (some (oneJob 4)), oneRound oneBinary none, oneRound "old" (some (oneJob 5))]

theorem oneConflict_disk : oneConflict.disk = {
    journal := some ⟨oneJob 5, .succeeded, none, none, none⟩
    marker := some ⟨1, (oneJob 5).id, "0.4.0-r133", oneBinary, oneLoop, 1000⟩
    completed := some ⟨1, (oneJob 4).id, "0.4.0-r133", oneBinary, oneLoop, 1000⟩
    failure := none } := by
  decide

theorem oneConflict_stuck (moments : ℕ → Moment) :
    Stuck ⟨oneJob 5, .succeeded, none, none, none⟩
      ⟨1, (oneJob 5).id, "0.4.0-r133", oneBinary, oneLoop, 1000⟩
      ⟨1, (oneJob 4).id, "0.4.0-r133", oneBinary, oneLoop, 1000⟩
      { oneConflict with moments } := by
  have hreceipts : (oneConflict.trace.all fun
      | .submitted r _ _ => decide (r.id = (oneJob 5).id → r.state = "running")
      | _ => true) = true := by decide
  have hhelpers : oneConflict.helpers = ⟨none, []⟩ := by decide
  have hdisk := oneConflict_disk
  generalize oneConflict = w at hreceipts hhelpers hdisk ⊢
  refine ⟨?_, ?_, ?_, hhelpers, fun state htold => ?_⟩
  · rw [hdisk]
  · rw [hdisk]
  · rw [hdisk]
  · obtain ⟨r, running, disk, hmem, hid, rfl, hnot⟩ := htold
    have hrunning := List.all_eq_true.mp hreceipts _ hmem
    exact hnot (of_decide_eq_true hrunning hid)

/-- The command that starts the helper fails, but the helper works until it is killed before its
last move. The first job is reported, and the worker is killed before it removes the failure
evidence. -/
def oneBlame : Node :=
  (Node.start (calmBut [(18, { calm with scheduled := .failed true }),
      (22, { calm with moves := handsOver.dropLast ++ [.die] }),
      (30, { calm with write := .killed false })])).rounds true
    [oneRound "old" (some (oneJob 4)), oneRound oneBinary none, oneRound "old" (some (oneJob 5))]

/-- Completion evidence of the first job makes every run of the second fail, and failure evidence of
the first job is reported as the outcome of the second. -/
theorem handoff_evidence_of_earlier_job :
    (∀ moments rs, ({ oneConflict with moments }.rounds true rs).disk.journal
          = oneConflict.disk.journal
        ∧ oneConflict.disk.journal.map (·.job.id) = some (oneJob 5).id
        ∧ ∀ state, ¬ Told ({ oneConflict with moments }.rounds true rs).trace (oneJob 5).id state)
      ∧ (oneBlame.trace.any fun
          | .submitted r _ _ => decide (r.id = (oneJob 5).id ∧ r.state = "failed"
            ∧ r.phase = "runtime_handoff" ∧ r.errorCode = some "handoff_schedule_failed")
          | _ => false) = true
      ∧ (oneBlame.trace.all fun
          | .recorded job _ => decide (job = (oneJob 4).id)
          | _ => true) = true := by
  refine ⟨fun moments rs => ?_, by decide, by decide⟩
  have hlater := (oneConflict_stuck moments).rounds (by decide) (by decide) rfl rs
  refine ⟨?_, by decide, hlater.untold⟩
  rw [hlater.journal, oneConflict_disk]

end CandyRuntime.CloudSync.Upgrade
