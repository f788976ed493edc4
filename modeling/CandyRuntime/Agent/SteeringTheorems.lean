import CandyRuntime.Agent.DiscardTheorems

/-!
# Who gives suspended steering back

While steering is suspended, one of the two flags of the loop says who will resume it; without a
flag the loop does not even look at Core. `Owned` is that law for the end of every iteration,
together with the law for hot replacements: the operation of netd that is chosen from the flags of
the transition is one that the phase of the client admits.

The law fails on some failures of a hot replacement and after a withdrawn pointer. `Survivable` says
which steps of a run lead there, and every run without them keeps the law (`steering_owned`).
-/

namespace CandyRuntime.Agent.V1

open Lib Lib.Proc NetdProto NetdIpc
open NetdV1 (TransactionRecord exactFormat)

variable {E : AgentError → Runtime → Prop} {declaration : PrepareDeclaration} {event : Event}
  {a : Runtime}

/-! ## The law -/

/-- At the end of an iteration, suspended steering has an owner if the pointer leads to the current
activation or to a rejected one, and a flag is set only while steering is suspended; the operation
of a hot replacement is admissible. -/
def Owned : Event → List Event → Prop
  | .ended seen t peerLoss routeIntegrity, _ =>
    (t.steeringSuspended = true → seen ≠ .other → (peerLoss || routeIntegrity) = true)
      ∧ ((peerLoss || routeIntegrity) = true → t.steeringSuspended = true)
  | .replaces t phase, _ =>
    if t.complete then phase = .suspended ∨ phase = .active else phase = .active
  | _, _ => True

/-- Steering was suspended by a withdrawal and has not been given back since. -/
def awaiting : List Event → Bool
  | [] => false
  | .looked .withdrawn _ _ :: _ => true
  | .resumed :: _ => false
  | _ :: earlier => awaiting earlier

/-- A failure of this step does no harm, depending on whether the replacement began in fallback and
with a flag set. -/
def Stage.harmless (suspended fallback : Bool) : Stage → Bool
  | .admission | .prepare => !suspended || fallback
  | .files => fallback
  | .declare => !suspended || !fallback
  | .binding => suspended && !fallback
  | .commit | .promote | .ready | .rebinding | .drain => suspended
  | .resume => true
  | .receipt => false

/-- A step of the loop that does not strand steering. -/
def Survivable : Event → List Event → Prop
  | .hot stage suspended fallback ok, _ => ok = true ∨ stage.harmless suspended fallback = true
  -- netd alone may have been asked to suspend
  | .replaces t _, _ => t.steeringSuspended = true → t.coreSuspended = true
  | .looked .unchanged t fallback, earlier | .refused t fallback, earlier =>
    t.steeringSuspended = true → fallback = false → awaiting earlier = false
  | _, _ => True

instance : ∀ event earlier, Decidable (Owned event earlier)
  | .ended seen t peerLoss routeIntegrity, _ => inferInstanceAs (Decidable
    ((t.steeringSuspended = true → seen ≠ .other → (peerLoss || routeIntegrity) = true)
      ∧ ((peerLoss || routeIntegrity) = true → t.steeringSuspended = true)))
  | .replaces t phase, _ => inferInstanceAs (Decidable
    (if t.complete then phase = .suspended ∨ phase = .active else phase = .active))
  | .hot .., _ | .leaves .., _ | .resumed, _ | .committed .., _ | .deferred _, _ | .updates .., _
  | .updated .., _ | .pends .., _ | .refused .., _ | .looked .., _ => isTrue trivial

instance : ∀ event earlier, Decidable (Survivable event earlier)
  | .hot stage suspended fallback ok, _ => inferInstanceAs (Decidable
    (ok = true ∨ stage.harmless suspended fallback = true))
  | .replaces t _, _ => inferInstanceAs (Decidable
    (t.steeringSuspended = true → t.coreSuspended = true))
  | .looked .unchanged t fallback, earlier | .refused t fallback, earlier => inferInstanceAs
    (Decidable (t.steeringSuspended = true → fallback = false → awaiting earlier = false))
  | .looked .superseded .., _ | .looked .withdrawn .., _ | .leaves .., _ | .resumed, _
  | .committed .., _ | .deferred _, _ | .updates .., _ | .updated .., _ | .pends .., _
  | .ended .., _ => isTrue trivial

/-! ## The invariant -/

/-- What the loop keeps between its parts. -/
structure Standing.Sound (st : Standing) : Prop where
  phase : st.phase = if st.transition.steeringSuspended then .suspended else .active
  core : st.transition.coreSuspended = true → st.transition.steeringSuspended = true
  flagged : st.fallback = true → st.transition.steeringSuspended = true
  stranded : st.transition.steeringSuspended = true → st.fallback = false →
    awaiting st.trace = true
  owned : st.rejectedActivation ≠ none ∨ st.seen ≠ .other →
    st.transition.steeringSuspended = true → st.fallback = true

/-- In a run that was survivable so far, the law was kept and `K` holds. -/
def Under (K : Standing → Prop) (st : Standing) : Prop :=
  Always Survivable st.trace → Always Owned st.trace ∧ K st

variable {K L : Standing → Prop} {st : Standing}

/-- A weaker condition holds too. -/
theorem Under.mono (h : Under K st) (hK : K st → L st) : Under L st :=
  fun hs => ⟨(h hs).1, hK (h hs).2⟩

/-- Something else than the trace has changed. -/
theorem Under.change {st' : Standing} (h : Under K st) (htrace : st'.trace = st.trace)
    (hK : K st → L st') : Under L st' := by
  intro hs
  rw [htrace] at hs ⊢
  exact ⟨(h hs).1, hK (h hs).2⟩

/-- An event is seen that was possible. -/
theorem Under.sees (h : Under K st)
    (hkeep : Survivable event st.trace → K st → Owned event st.trace ∧ L (st.sees event)) :
    Under L (st.sees event) := by
  rintro ⟨hevent, hs⟩
  obtain ⟨hlaw, hK⟩ := h hs
  obtain ⟨hnow, hL⟩ := hkeep hevent hK
  exact ⟨⟨hnow, hlaw⟩, hL⟩

/-- An event that says nothing about steering. -/
def Event.neutral : Event → Bool
  | .leaves _ _ _ | .committed _ _ _ | .deferred _ | .updates _ _ _ _ | .updated _ _ _ _
  | .pends _ _ _ => true
  | _ => false

/-- A neutral event neither withdraws nor gives back. -/
theorem awaiting_of_neutral (h : event.neutral = true) (trace : List Event) :
    awaiting (event :: trace) = awaiting trace := by
  cases event <;> first | rfl | simp [Event.neutral] at h

/-- The law asks nothing of a neutral event. -/
theorem owned_of_neutral (h : event.neutral = true) (trace : List Event) :
    Owned event trace := by
  cases event <;> trivial

/-- An event after which nothing else is awaited. -/
theorem Standing.Sound.sees (h : st.Sound)
    (hawaiting : awaiting (event :: st.trace) = awaiting st.trace) : (st.sees event).Sound where
  phase := h.phase
  core := h.core
  flagged := h.flagged
  stranded := fun hs hf => hawaiting.trans (h.stranded hs hf)
  owned := h.owned

/-- A neutral event is one of them. -/
theorem Under.neutral (hevent : event.neutral = true) (h : Under Standing.Sound st) :
    Under Standing.Sound (st.sees event) := by
  exact h.sees fun _ hK => ⟨owned_of_neutral hevent _, hK.sees (awaiting_of_neutral hevent _)⟩

/-- Wherever the agent is killed, the law was kept so far. -/
def Dead (a : Runtime) : Prop := Under (fun _ => True) a.standing

/-- A change that leaves the trace leaves the law. -/
theorem Under.dead (h : Under K st) (htrace : a.trace = st.trace) : Dead a :=
  h.change htrace fun _ => trivial

/-- A part that leaves the standing keeps every condition on it. -/
theorem under_of_steady {α : Type} {m : Ag α}
    (hm : ∀ P : Standing → Prop, Preserves (fun a => P a.standing) m) :
    Triple (fun a => Under K a.standing) m (fun _ a => Under K a.standing)
      (fun _ a => Under K a.standing) Dead := by
  intro a ha
  exact wp_mono (hm (Under K) a ha) (fun _ _ h => h) (fun _ _ h => h) fun _ h => h.dead rfl

/-- A change of the agent's own state. -/
theorem under_modify {f : Runtime → Runtime}
    (htrace : ∀ a, (f a).standing.trace = a.standing.trace)
    (hK : ∀ a, K a.standing → L (f a).standing) :
    Triple (fun a => Under K a.standing) (modify f) (fun _ a => Under L a.standing) E
      Dead :=
  fun a ha => ha.change (htrace a) (hK a)

/-! ## Steering -/

/-- Nothing is suspended. -/
def Standing.Released (st : Standing) : Prop := st.phase = .active ∧ st.transition = ⟨false, false⟩

/-- Released without a fallback is sound. -/
theorem Standing.Released.sound (h : st.Released) (hf : st.fallback = false) : st.Sound where
  phase := by rw [h.2]; exact h.1
  core := by rw [h.2]; nofun
  flagged := by rw [hf]; nofun
  stranded := by rw [h.2]; nofun
  owned := by rw [h.2]; intro _ h; cases h

/-- Suspended steering with a flag is sound. -/
theorem sound_of_flagged (hphase : st.phase = .suspended)
    (hs : st.transition.steeringSuspended = true) (hf : st.fallback = true) : st.Sound where
  phase := by rw [if_pos hs, hphase]
  core := fun _ => hs
  flagged := fun _ => hs
  stranded := by rw [hf]; nofun
  owned := fun _ _ => hf

/-- Steering is suspended, and this is known of the flags. -/
structure Standing.Suspended (P : Bool → Bool → Prop) (st : Standing) : Prop where
  sound : st.Sound
  steering : st.transition.steeringSuspended = true
  flags : P st.peerLossFallback st.routeIntegrityFallback

/-- Nothing is suspended, and this is known of the flags. -/
structure Standing.Free (P : Bool → Bool → Prop) (st : Standing) : Prop where
  released : st.Released
  flags : P st.peerLossFallback st.routeIntegrityFallback

variable {args current replacement : RuntimeArgs} {P : Bool → Bool → Prop}

/-- The core may go up or down while suspended. -/
theorem Standing.Sound.withCore {core : Bool} (h : st.Sound)
    (hs : st.transition.steeringSuspended = true) : (st.withCore core).Sound where
  phase := h.phase
  core := fun _ => hs
  flagged := h.flagged
  stranded := h.stranded
  owned := h.owned

/-- Fallback is left, or it is not and steering stays suspended. -/
theorem under_leave :
    Triple (fun a => Under (Standing.Suspended P) a.standing)
      (leaveProxyFallback args)
      (fun _ a => Under (Standing.Free P) a.standing)
      (fun _ a => Under (Standing.Suspended P) a.standing) Dead := by
  intro a ha
  refine wp_mono (leaveProxyFallback_standing a.standing a rfl) (fun _ a' ha' => ?_)
    (fun _ a' ha' => ?_) fun a' ha' => ?_
  · obtain ⟨netd, ha'⟩ := ha'
    rw [ha']
    generalize a.standing = st at ha
    intro hs
    -- the look at steering is that of the start, so the events are those of a suspension
    by_cases hsteering : st.transition.steeringSuspended = true
    · have hleft : (st.sees (.leaves args st.transition netd)).left = (((st.sees
          (.leaves args st.transition netd)).withCore false).withSteering .active false).sees
          .resumed := if_pos hsteering
      rw [hleft] at hs ⊢
      obtain ⟨hlaw, hK⟩ := ha hs.2.2
      exact ⟨⟨trivial, trivial, hlaw⟩, ⟨rfl, rfl⟩, hK.flags⟩
    · have hleft : (st.sees (.leaves args st.transition netd)).left
          = (st.sees (.leaves args st.transition netd)).withCore false := if_neg hsteering
      rw [hleft] at hs
      exact absurd (ha hs.2).2.steering hsteering
  · obtain ⟨netd, core, ha'⟩ := ha'
    rw [ha']
    intro hs
    obtain ⟨hlaw, hK⟩ := ha hs.2
    refine ⟨⟨trivial, hlaw⟩, ?_, hK.steering, hK.flags⟩
    exact (hK.sound.sees rfl).withCore hK.steering
  · obtain ⟨netd, htrace⟩ := ha'
    have hleaves : Under (fun _ => True)
        (a.standing.sees (.leaves args a.standing.transition netd)) :=
      ha.sees fun _ _ => ⟨trivial, trivial⟩
    exact hleaves.dead htrace

/-- Fallback is entered; the flags and what was seen are as before. -/
theorem under_enter (P : Bool → Bool → Option String → Seen → List Event → Prop) :
    Triple (fun a => Under (fun st => st.Sound ∧ P st.peerLossFallback st.routeIntegrityFallback
        st.rejectedActivation st.seen st.trace) a.standing)
      (enterProxyFallback args)
      (fun _ a => Under (fun st => st.phase = .suspended ∧ st.transition = ⟨true, true⟩
        ∧ P st.peerLossFallback st.routeIntegrityFallback st.rejectedActivation st.seen st.trace)
        a.standing)
      (fun _ a => Under (fun st => (st.Sound ∨ st.phase = .suspended
          ∧ st.transition.steeringSuspended = true)
        ∧ P st.peerLossFallback st.routeIntegrityFallback st.rejectedActivation st.seen st.trace)
        a.standing) Dead := by
  intro a ha
  refine wp_mono (enterProxyFallback_standing a.standing a rfl) (fun _ a' ha' => ?_)
    (fun _ a' ha' => ?_) fun _ h => ha.dead h
  · rw [ha']
    intro hs
    obtain ⟨hlaw, hK, hP⟩ := ha hs
    refine ⟨hlaw, ?_, rfl, hP⟩
    show (if a.standing.transition.steeringSuspended then a.standing.phase else .suspended) = _
    rw [hK.phase]
    split <;> rfl
  · rcases ha' with ha' | ha'
    · rw [ha']
      intro hs
      obtain ⟨hlaw, hK, hP⟩ := ha hs
      exact ⟨hlaw, .inl hK, hP⟩
    · rw [ha']
      intro hs
      obtain ⟨hlaw, hK, hP⟩ := ha hs
      exact ⟨hlaw, .inr ⟨rfl, rfl⟩, hP⟩

/-! ## Hot replacements -/

section Hot

variable {s f : Bool} {p : Prop} {α : Type} {stage : Stage}

/-- A replacement that began in this mode, and `p` is known of it. -/
structure Standing.Held (s f : Bool) (p : Prop) (st : Standing) : Prop where
  sound : st.Sound
  transition : st.transition = ⟨s, s⟩
  fallback : st.fallback = f
  known : p

/-- Nothing is suspended, and the flags are as they were. -/
structure Standing.Resumed (f : Bool) (p : Prop) (st : Standing) : Prop where
  released : st.Released
  fallback : st.fallback = f
  known : p

/-- How a hot replacement returns. -/
def HotReturn : Bool → Standing → Prop
  | true, st => st.Released
  | false, st => st.Sound ∧ (st.transition.steeringSuspended = true → st.fallback = true)

/-- How a hot replacement fails. -/
def HotError : AgentError → Standing → Prop
  | .preparationPending, st => st.Sound
  | .appliedPending, st => st.phase = .suspended ∧ st.transition.steeringSuspended = true
  | .recoveryRequired, _ => True
  | _, st => st.Sound ∧ st.transition.complete = true ∧ st.fallback = true

/-- A step of a hot replacement with this effect. -/
def Hot (K : Standing → Prop) (m : Ag α) (L : Standing → Prop) : Prop :=
  Triple (fun a => Under K a.standing) m (fun _ a => Under L a.standing)
    (fun e a => Under (HotError e) a.standing) Dead

/-- The part of a hot replacement from here on. -/
def HotRest (K : Standing → Prop) (m : Ag Bool) : Prop :=
  Triple (fun a => Under K a.standing) m (fun b a => Under (HotReturn b) a.standing)
    (fun e a => Under (HotError e) a.standing) Dead

/-- The stages of a replacement follow each other. -/
theorem Hot.then {m : Ag α} {k : α → Ag Bool} (hm : Hot K m L) (hk : ∀ x, HotRest L (k x)) :
    HotRest K (m >>= k) := Triple.bind hm hk

/-- A stage that is noted leaves the standing. -/
theorem Standing.Held.sees {suspended fallback ok : Bool} (h : st.Held s f p) :
    (st.sees (.hot stage suspended fallback ok)).Held s f p :=
  ⟨h.sound.sees rfl, h.transition, h.fallback, h.known⟩

/-- A flag is set only while steering is suspended. -/
theorem Standing.Held.flagged (h : st.Held s f p) (hf : f = true) : s = true := by
  have hs := h.sound.flagged (h.fallback.trans hf)
  rwa [h.transition] at hs

/-- Where nothing was suspended, no flag was set. -/
theorem Standing.Held.free (h : st.Held false f p) : st.Resumed false p := by
  have hf : f = false := by
    cases f with
    | false => rfl
    | true => exact absurd (h.flagged rfl) nofun
  refine ⟨⟨?_, h.transition⟩, h.fallback.trans hf, h.known⟩
  have hphase := h.sound.phase
  rwa [h.transition] at hphase

/-- A suspended session is suspended in the daemon as well. -/
theorem Standing.Held.applied (h : st.Held s f p) (hs : s = true) :
    st.phase = .suspended ∧ st.transition.steeringSuspended = true := by
  have hsteering : st.transition.steeringSuspended = true := by rw [h.transition, hs]
  have hphase := h.sound.phase
  rw [hsteering] at hphase
  exact ⟨hphase, hsteering⟩

/-- A plain error is one that leaves a flagged fallback as it was. -/
theorem Standing.Held.plain (h : st.Held s f p) (hf : f = true) :
    st.Sound ∧ st.transition.complete = true ∧ st.fallback = true := by
  refine ⟨h.sound, ?_, h.fallback.trans hf⟩
  rw [h.transition, h.flagged hf]
  rfl

/-- A stage that is noted leaves the standing. -/
theorem Standing.Resumed.sees {suspended fallback ok : Bool} (h : st.Resumed f p) :
    (st.sees (.hot stage suspended fallback ok)).Resumed f p := ⟨h.released, h.fallback, h.known⟩

/-- A replacement that is refused leaves a sound standing. -/
theorem Standing.Resumed.refused (h : st.Resumed false p) :
    st.Sound ∧ (st.transition.steeringSuspended = true → st.fallback = true) := by
  refine ⟨h.released.sound h.fallback, fun hs => ?_⟩
  rw [h.released.2] at hs
  cases hs

/-- A step that touches nothing else. If it fails, this was harmless. -/
theorem under_step {m : Ag α} (hm : ∀ P : Standing → Prop, Preserves (fun a => P a.standing) m)
    (hsees : ∀ st ok, K st → K (st.sees (.hot stage s st.fallback ok)))
    (hfailed : ∀ st, K st → stage.harmless s st.fallback = true → L st)
    (hL : ∀ st, L st → L (st.sees (.hot stage s st.fallback false))) :
    Triple (fun a => Under K a.standing) (step stage s m) (fun _ a => Under K a.standing)
      (fun _ a => Under L a.standing) Dead := by
  refine step_triple (Q := fun _ => Under K) (R := fun _ => Under K) (E := fun _ => Under K)
    (F := fun _ => Under L) (under_of_steady hm) (fun _ st h => ?_) fun _ st h => ?_
  · exact h.sees fun _ hK => ⟨trivial, hsees st _ hK⟩
  · refine h.sees fun hevent hK => ⟨trivial, hL st (hfailed st hK ?_)⟩
    simpa [Survivable] using hevent

/-- A stage that leaves the standing is one of the two kinds. -/
theorem held_step {m : Ag α} (hm : ∀ P : Standing → Prop, Preserves (fun a => P a.standing) m) :
    Triple (fun a => Under (Standing.Held s f p) a.standing) (step stage s m)
      (fun _ a => Under (Standing.Held s f p) a.standing)
      (fun _ a => Under (Standing.Held s f (stage.harmless s f = true)) a.standing)
      Dead := by
  refine under_step hm (fun _ _ h => h.sees) (fun st h hharmless => ?_) fun _ h => h.sees
  exact ⟨h.sound, h.transition, h.fallback, by rwa [h.fallback] at hharmless⟩

/-- A step after which nothing is suspended. -/
theorem resumed_step {m : Ag α} (hm : ∀ P : Standing → Prop, Preserves (fun a => P a.standing) m) :
    Triple (fun a => Under (Standing.Resumed f p) a.standing) (step stage s m)
      (fun _ a => Under (Standing.Resumed f p) a.standing)
      (fun _ a => Under (Standing.Resumed f (stage.harmless s f = true)) a.standing)
      Dead := by
  refine under_step hm (fun _ _ h => h.sees) (fun st h hharmless => ?_) fun _ h => h.sees
  exact ⟨h.released, h.fallback, by rwa [h.fallback] at hharmless⟩

/-- A failure that is noted by itself. -/
theorem held_note :
    Triple (fun a => Under (Standing.Held s f p) a.standing)
      (log fun a => .hot stage s a.fallback false)
      (fun _ a => Under (Standing.Held s f (stage.harmless s f = true)) a.standing)
      (fun e a => Under (HotError e) a.standing) Dead := by
  intro a ha
  refine ha.sees fun hevent h => ⟨trivial, h.sound.sees rfl, h.transition, h.fallback, ?_⟩
  have hharmless : stage.harmless s a.fallback = true := by simpa [Survivable] using hevent
  have hfallback : a.fallback = f := h.fallback
  rwa [hfallback] at hharmless

/-- A step whose errors are plain ones. -/
theorem step_error {m : Ag α} (hio : ∀ a, wp m (fun _ _ => True) (fun e _ => e = .io)
    Dead a) (a : Runtime) :
    wp (step stage s m) (fun _ _ => True) (fun e _ => e = .io) Dead a :=
  step_triple (P := fun _ => True) (Q := fun _ _ => True) (R := fun _ _ => True)
    (E := fun e _ => e = .io) (F := fun e _ => e = .io) (fun a _ => hio a) (fun _ _ h => h)
    (fun _ _ h => h) a trivial

/-- A stage that only writes files can fail with an input error only. -/
theorem hot_files {m : Ag α} (hm : ∀ P : Standing → Prop, Preserves (fun a => P a.standing) m)
    (hio : ∀ a, wp m (fun _ _ => True) (fun e _ => e = .io) Dead a) :
    Hot (Standing.Held s f p) (step .files s m) (Standing.Held s f p) := by
  intro a ha
  refine wp_mono (wp_and (held_step hm a ha) (step_error hio a)) (fun _ _ h => h.1)
    (fun e a' h => ?_) fun _ h => h.1
  obtain ⟨h, rfl⟩ := h
  exact h.mono fun hheld => hheld.plain hheld.known

/-- Writing a file fails with an input error. -/
theorem writeFile_error (a : Runtime) :
    wp writeFile (fun _ _ => True) (fun e _ => e = .io) Dead a := by
  rw [writeFile, wp_bind]
  show wp (ensure _ _) _ _ _ _
  rw [wp_ensure]
  exact ⟨fun _ => trivial, fun _ => rfl⟩

/-- So does writing the receipt of a failure. -/
theorem writeFailedActivationReceipt_error (a : Runtime) :
    wp (writeFailedActivationReceipt args) (fun _ _ => True) (fun e _ => e = .io) Dead
      a := by
  rw [writeFailedActivationReceipt, wp_bind]
  show wp (okOr _ _ >>= _) _ _ _ _
  rw [wp_bind, wp_okOr]
  exact ⟨fun _ _ => writeFile_error _, fun _ => rfl⟩

/-- A candidate that is refused at once. -/
theorem hot_refuse :
    HotRest (Standing.Held s f True)
      (do log fun a => .hot .admission s a.fallback false
          step .files s (writeFailedActivationReceipt replacement)
          return false) := by
  refine Hot.then held_note fun _ => ?_
  refine Hot.then (hot_files (fun P => steady_writeFailedActivationReceipt P replacement)
    writeFailedActivationReceipt_error) fun _ => ?_
  refine Triple.pure fun a h => h.mono fun hheld => ⟨hheld.sound, fun hs => ?_⟩
  have hknown : (!s || f) = true := hheld.known
  rw [hheld.transition] at hs
  rw [hheld.fallback]
  simpa [show s = true from hs] using hknown

/-- The preparation has failed, and steering is where it was. -/
theorem hot_refusePreparation {e : AgentError} :
    HotRest (Standing.Held s f (Stage.prepare.harmless s f = true))
      (refusePreparation replacement e) := by
  have hkeep : ∀ {m : Ag Unit}, (∀ P : Standing → Prop, Preserves (fun a => P a.standing) m) →
      Hot (Standing.Held s f (Stage.prepare.harmless s f = true)) (ignore m)
        (Standing.Held s f (Stage.prepare.harmless s f = true)) := by
    intro m hm a ha
    rw [wp_ignore]
    exact wp_mono (under_of_steady hm a ha) (fun _ _ h => h) (fun _ _ h => h) fun _ h => h
  refine Hot.then (L := Standing.Held s f (Stage.prepare.harmless s f = true))
    (fun a ha => ha) fun m => ?_
  refine Triple.ite (fun _ => Triple.fail fun a h => h.mono fun hheld => hheld.sound) fun _ => ?_
  refine Hot.then (hkeep fun P => steady_writeFailedActivationReceipt P replacement) fun _ => ?_
  refine Triple.pure fun a h => h.mono fun hheld => ⟨hheld.sound, fun hs => ?_⟩
  have hknown : (!s || f) = true := hheld.known
  rw [hheld.transition] at hs
  rw [hheld.fallback]
  simpa [show s = true from hs] using hknown

/-- Fallback is left in the course of a replacement. -/
theorem held_leave :
    Triple (fun a => Under (Standing.Held true f p) a.standing) (leaveProxyFallback args)
      (fun _ a => Under (Standing.Resumed f p) a.standing)
      (fun _ a => Under (fun st => st.phase = .suspended ∧ st.transition.steeringSuspended = true)
        a.standing) Dead := by
  refine Triple.conseq (under_leave (P := fun peerLoss routeIntegrity =>
    (peerLoss || routeIntegrity) = f ∧ p)) (fun a h => h.mono fun hheld => ?_)
    (fun _ a h => h.mono fun hfree => ?_) (fun _ a h => h.mono fun hsuspended => ?_) fun _ h => h
  · exact ⟨hheld.sound, by rw [hheld.transition], hheld.fallback, hheld.known⟩
  · exact ⟨hfree.released, hfree.flags.1, hfree.flags.2⟩
  · refine ⟨?_, hsuspended.steering⟩
    have hphase := hsuspended.sound.phase
    rwa [hsuspended.steering] at hphase

/-- Fallback is left for good or the loop is. -/
theorem hot_leave :
    Hot (Standing.Held true f p) (mapError (fun _ => .recoveryRequired) (leaveProxyFallback args))
      (Standing.Resumed f p) :=
  Triple.mapError held_leave fun _ _ h => h.mono fun _ => trivial

/-- netd has refused the declaration. -/
theorem hot_refuseDeclaration {e : AgentError} :
    HotRest (Standing.Held s f (Stage.declare.harmless s f = true))
      (refuseDeclaration current replacement s e) := by
  -- a refused declaration ends with nothing suspended and no flag
  have hfreed : Hot (Standing.Held s f (Stage.declare.harmless s f = true))
      (when (s = true) (mapError (fun _ => .recoveryRequired) (leaveProxyFallback current)))
      (Standing.Resumed false True) := by
    cases s with
    | false =>
      refine Triple.when (fun h => nomatch h) fun _ a h => h.mono fun hheld => ?_
      exact ⟨hheld.free.released, hheld.free.fallback, trivial⟩
    | true =>
      refine Triple.when (fun _ => ?_) fun h => absurd rfl h
      refine Triple.post hot_leave fun _ a h => h.mono fun hresumed => ?_
      have hf : f = false := by simpa [Stage.harmless] using hresumed.known
      exact ⟨hresumed.released, hresumed.fallback.trans hf, trivial⟩
  refine hfreed.then fun _ => ?_
  refine Hot.then (L := Standing.Resumed false True) (fun a ha => ha) fun m => ?_
  refine Triple.ite (fun _ => Triple.fail fun a h => h.mono fun hr => hr.refused.1) fun _ => ?_
  refine Hot.then (L := Standing.Resumed false True) (Triple.conseq
    (resumed_step fun P => steady_writeFailedActivationReceipt P replacement) (fun _ h => h)
    (fun _ _ h => h) (fun _ a h => h.mono fun hr => absurd hr.known nofun) fun _ h => h) fun _ => ?_
  exact Triple.pure fun a h => h.mono fun hr => hr.refused

/-- An operation of netd that at most changes who the client speaks for. -/
theorem held_netd {m : Cl TransactionRecord α} {generation : UInt64 → UInt64}
    (hm : Moves m id generation) :
    Triple (fun a => Under (Standing.Held s f p) a.standing) (netd m)
      (fun _ a => Under (Standing.Held s f p) a.standing)
      (fun _ a => Under (Standing.Held s f p) a.standing) Dead := by
  intro a ha
  refine wp_mono (moves_netd hm a.standing a rfl) (fun _ a' h => ?_) (fun _ a' h => ?_)
    fun _ h => ha.dead h
  · rw [h]
    intro hs
    obtain ⟨hlaw, hheld⟩ := ha hs
    have hsound := hheld.sound
    exact ⟨hlaw, ⟨hsound.phase, hsound.core, hsound.flagged, hsound.stranded, hsound.owned⟩,
      hheld.transition, hheld.fallback, hheld.known⟩
  · rw [h]
    exact ha

/-- The declaration of the candidate is handed to netd. -/
theorem held_declare {new : PrepareDeclaration} {deadline : UInt64} :
    Triple (fun a => Under (Standing.Held s f p) a.standing)
      (step .declare s (declareCandidate replacement new deadline s))
      (fun _ a => Under (Standing.Held s f p) a.standing)
      (fun _ a => Under (Standing.Held s f (Stage.declare.harmless s f = true)) a.standing)
      Dead := by
  refine step_triple (Q := fun _ => Under (Standing.Held s f p))
    (R := fun _ => Under (Standing.Held s f p)) (E := fun _ => Under (Standing.Held s f p))
    (F := fun _ => Under (Standing.Held s f (Stage.declare.harmless s f = true))) ?_
    (fun _ st h => h.sees fun _ hheld => ⟨trivial, hheld.sees⟩)
    fun _ st h => h.sees fun hevent hheld => ?_
  · exact Triple.ite (fun _ => held_netd moves_reconfigureWithOwner) fun _ =>
      held_netd moves_prepareReplacementWithOwner
  · have hharmless : Stage.declare.harmless s st.fallback = true := by
      simpa [Survivable] using hevent
    rw [hheld.fallback] at hharmless
    exact ⟨trivial, hheld.sound.sees rfl, hheld.transition, hheld.fallback, hharmless⟩

/-- A candidate that netd has taken is discarded. -/
theorem hot_discardCandidate {previous : PrepareDeclaration} :
    Hot (Standing.Held s f (Stage.binding.harmless s f = true))
      (discardCandidate current previous s) (Standing.Resumed false True) := by
  cases s with
  | false =>
    -- excluded: the client would stop
    rw [discardCandidate, if_neg (by decide)]
    have hfalse : ∀ st, Under (Standing.Held false f (Stage.binding.harmless false f = true)) st →
        ¬ Always Survivable st.trace := fun st h hs => absurd (h hs).2.known fun h => by cases h
    intro a ha
    rw [wp_bind]
    refine wp_mono (moves_netd moves_rollback a.standing a rfl) (fun _ a' h => ?_)
      (fun _ a' h => ?_) fun _ h => ha.dead h
    · intro hs
      have htrace : a'.standing.trace = a.standing.trace := by rw [h]
      exact absurd (htrace ▸ hs) (hfalse _ ha)
    · intro hs
      have htrace : a'.standing.trace = a.standing.trace := by rw [h]
      exact absurd (htrace ▸ hs) (hfalse _ ha)
  | true =>
    rw [discardCandidate, if_pos rfl]
    have hrestore : Triple (fun a => Under (Standing.Held true f
        (Stage.binding.harmless true f = true)) a.standing)
        (restoreUncommittedNetdActivation current previous)
        (fun _ a => Under (Standing.Resumed false True) a.standing)
        (fun _ a => Under (fun _ => True) a.standing) Dead := by
      refine Triple.bind (Q := fun _ (a : Runtime) => Under (Standing.Held true f
        (Stage.binding.harmless true f = true)) a.standing) (fun a ha => ha) fun m => ?_
      refine Triple.okOr_bind (fun deadline _ => ?_) fun a h => h.mono fun _ => trivial
      refine Triple.bind (Triple.conseq (held_netd moves_reconfigureWithOwner) (fun _ h => h)
        (fun _ _ h => h) (fun _ a h => h.mono fun _ => trivial) fun _ h => h) fun _ => ?_
      refine Triple.conseq held_leave (fun _ h => h) (fun _ a h => h.mono fun hresumed => ?_)
        (fun _ a h => h.mono fun _ => trivial) fun _ h => h
      have hf : f = false := by simpa [Stage.harmless] using hresumed.known
      exact ⟨hresumed.released, hresumed.fallback.trans hf, trivial⟩
    exact Triple.mapError hrestore fun _ _ h => h

/-- A step that Core may have got past when it fails; it is harmless in fallback. -/
theorem hot_applied {m : Ag α} (hm : ∀ P : Standing → Prop, Preserves (fun a => P a.standing) m)
    (hstage : stage.harmless s f = true → s = true) :
    Hot (Standing.Held s f True) (orApplied (step stage s m)) (Standing.Held s f True) :=
  Triple.mapError (held_step hm) fun _ _ h => h.mono fun hheld => hheld.applied (hstage hheld.known)

/-- A committed replacement is given up for now. -/
theorem hot_giveUp : HotRest (Standing.Held s f (s = true)) (giveUpReplacement s) := by
  refine Hot.then (L := Standing.Held s f (s = true)) ?_ fun _ => ?_
  · refine Triple.when (fun _ => ?_) fun _ _ h => h
    refine Triple.mapError (held_step steady_drain) fun _ _ h => h.mono fun hheld => ?_
    exact hheld.applied hheld.known
  · exact Triple.fail fun a h => h.mono fun hheld => hheld.applied hheld.known

/-- Steering goes over to the replacement. -/
theorem hot_takeOver :
    Hot (Standing.Held s f True) (takeOver replacement s) (Standing.Resumed f True) := by
  cases s with
  | false =>
    refine Triple.post (hot_applied steady_drain id) fun _ a h => h.mono fun hheld => ?_
    exact ⟨hheld.free.released, hheld.fallback, trivial⟩
  | true =>
    refine Triple.mapError (step_triple (Q := fun _ => Under (Standing.Resumed f True))
      (R := fun _ => Under (Standing.Resumed f True))
      (E := fun _ => Under (fun st => st.phase = .suspended
        ∧ st.transition.steeringSuspended = true))
      (F := fun _ => Under (fun st => st.phase = .suspended
        ∧ st.transition.steeringSuspended = true)) held_leave ?_ ?_) fun _ _ h => h
    · exact fun _ _ h => h.sees fun _ hresumed => ⟨trivial, hresumed.sees⟩
    · exact fun _ _ h => h.sees fun _ hsuspended => ⟨trivial, hsuspended⟩

/-- The receipt is written. -/
theorem hot_receipt : Triple (fun a => Under (Standing.Resumed f True) a.standing)
    (step .receipt s writeFile) (fun _ a => Under (Standing.Resumed f True) a.standing)
    (fun _ a => Under (fun _ => False) a.standing) Dead :=
  Triple.conseq (resumed_step steady_writeFile) (fun _ h => h) (fun _ _ h => h)
    (fun _ _ h => h.mono fun hresumed => absurd hresumed.known nofun) fun _ h => h

/-- The last stage of a replacement. -/
theorem hot_finish : HotRest (Standing.Held s f True) (finishReplacement replacement s) := by
  refine hot_takeOver.then fun _ => ?_
  refine Hot.then (L := Standing.Resumed f True) (Triple.conseq hot_receipt (fun _ h => h)
    (fun _ _ h => h) (fun _ a h => h.mono fun hf => hf.elim) fun _ h => h) fun _ => ?_
  refine Hot.then (L := Standing.Resumed f True) (Triple.mapError hot_receipt
    fun _ _ h => h.mono fun hf => hf.elim) fun _ => ?_
  intro a ha
  exact ha.sees fun _ hresumed => ⟨trivial, hresumed.released⟩

/-- The stages from the rebind on. -/
theorem hot_rebind : HotRest (Standing.Held s f True) (rebindReplacement replacement s) := by
  refine Hot.then (L := Standing.Held s f True) (fun a ha => ha) fun m => ?_
  refine Triple.ite (fun _ => hot_finish) fun _ => ?_
  refine Hot.then (L := Standing.Held s f (s = true)) held_note fun _ => ?_
  refine Triple.ite (fun _ => Triple.fail fun a h => h.mono fun hheld => ?_) fun _ => hot_giveUp
  exact hheld.applied hheld.known

/-- The stages from the promotion on. -/
theorem hot_promote : HotRest (Standing.Held s f True) (promoteReplacement replacement s) := by
  refine Hot.then (L := Standing.Held s f True) ?_ fun _ => ?_
  · refine Triple.when (fun hs => ?_) fun _ a h => h
    refine Triple.conseq (held_step steady_commitReplacement) (fun _ h => h) (fun _ _ h => h)
      (fun e a h => h.mono fun hheld => ?_) fun _ h => h
    have hknown : s = true := hheld.known
    exact absurd (hs.symm.trans hknown) nofun
  · refine Triple.attempt_bind (held_step fun P => steady_awaitReadiness P replacement)
      (fun _ => hot_rebind) fun _ => ?_
    exact Triple.pre hot_giveUp fun a h => h.mono fun hheld => hheld

/-- The stages from the commit on. -/
theorem hot_commit : HotRest (Standing.Held s f True) (commitCandidate replacement s) :=
  Hot.then (hot_applied (fun P => (steady_requestCore P replacement .commit).handle fun _ =>
    steady_requestCore P replacement .commit) id) fun _ => hot_promote

/-- The stages from the binding on. -/
theorem hot_bind {previous : PrepareDeclaration} :
    HotRest (Standing.Held s f True) (bindCandidate current replacement previous s) := by
  refine Hot.then (L := Standing.Held s f True) (fun a ha => ha) fun m => ?_
  refine Hot.then (L := Standing.Held s f True) ?_ fun removed => ?_
  · intro a ha
    rw [wp_errorOf]
    exact wp_mono (under_of_steady (fun P => Preserves.when _ (steady_writeFile P)) a ha)
      (fun _ _ h => h) (fun _ _ h => h) fun _ h => h
  refine Triple.ite (fun _ => hot_commit) fun _ => ?_
  refine Hot.then held_note fun _ => ?_
  refine hot_discardCandidate.then fun _ => ?_
  refine Triple.ite (fun _ => Triple.fail fun a h => h.mono fun hr => hr.refused.1) fun _ => ?_
  exact Triple.pure fun a h => h.mono fun hr => hr.refused

/-- All the stages of a replacement. -/
theorem hot_replace {previous new : PrepareDeclaration} :
    HotRest (Standing.Held s f True) (replaceActivation current replacement previous new s) := by
  refine Hot.then (hot_files steady_writeFile writeFile_error) fun _ => ?_
  refine Triple.attempt_bind (held_step fun P => steady_prepareCandidate P replacement)
    (fun _ => ?_) fun _ => hot_refusePreparation
  refine Hot.then (L := Standing.Held s f True) (fun a ha => ha) fun m => ?_
  refine Hot.then (hot_files (fun P => Preserves.okOr _ _) fun a => ?_) fun deadline => ?_
  · rw [wp_okOr]
    exact ⟨fun _ _ => trivial, fun _ => rfl⟩
  exact Triple.attempt_bind held_declare (fun _ => hot_bind) fun _ => hot_refuseDeclaration

end Hot

/-- A hot replacement begins with steering and Core both suspended or neither of them. -/
theorem hotReplaceActivation_hot :
    HotRest Standing.Sound (hotReplaceActivation current replacement) := by
  intro a ha
  rw [hotReplaceActivation, wp_bind, wp_get, wp_bind, log, wp_modify]
  have hheld : Under (Standing.Held a.transition.complete a.fallback True)
      (a.standing.sees (.replaces a.transition a.netd.client.phase)) := by
    refine ha.sees fun hevent hsound => ?_
    have hcore : a.transition.coreSuspended = a.transition.steeringSuspended := by
      rw [Bool.eq_iff_iff]
      exact ⟨hsound.core, hevent⟩
    have hcomplete : a.transition.complete = a.transition.steeringSuspended := by
      rw [HotTransitionState.complete, hcore, Bool.and_self]
    have hphase : a.netd.client.phase
        = if a.transition.steeringSuspended then .suspended else .active := hsound.phase
    refine ⟨?_, hsound.sees rfl, ?_, rfl, trivial⟩
    · show if a.transition.complete then _ else _
      rw [hcomplete]
      split
      · next h => exact .inl (by rw [hphase, if_pos h])
      · next h => rw [hphase, if_neg h]
    · show a.transition = _
      rw [hcomplete]
      exact congrArg (HotTransitionState.mk · _) hcore
  rw [wp_ite]
  refine ⟨fun _ => hot_refuse _ hheld, fun _ => ?_⟩
  refine Hot.then (hot_files (fun P => Preserves.okOr _ _) fun a => ?_) (fun previous => ?_) _ hheld
  · rw [wp_okOr]
    exact ⟨fun _ _ => trivial, fun _ => rfl⟩
  cases replacement.declaration with
  | none => exact hot_refuse
  | some new => exact hot_replace

/-! ## The parts of an iteration -/

/-- A part of an iteration keeps the standing sound; an error may leave the loop, unless it is
`handled`. -/
def Part {α : Type} (handled : Bool) (m : Ag α) : Prop :=
  Triple (fun a => Under Standing.Sound a.standing) m (fun _ a => Under Standing.Sound a.standing)
    (fun _ a => Under (fun st => handled = true → st.Sound) a.standing) Dead

section Part

variable {α β : Type} {h : Bool}

/-- Parts follow each other. -/
theorem Part.bind {m : Ag α} {k : α → Ag β} (hm : Part h m) (hk : ∀ x, Part h (k x)) :
    Part h (m >>= k) := Triple.bind hm hk

/-- A value returned is a part. -/
theorem Part.pure (x : α) : Part h (Pure.pure x : Ag α) := Triple.pure fun _ h => h

/-- A failure ends a part. -/
theorem Part.fail (e : AgentError) : Part h (fail e : Ag α) :=
  Triple.fail fun _ hs => hs.mono fun hsound _ => hsound

/-- Either branch is a part. -/
theorem Part.ite {c : Prop} [Decidable c] {m n : Ag α} (hm : Part h m) (hn : Part h n) :
    Part h (if c then m else n) := Triple.ite (fun _ => hm) fun _ => hn

/-- What is not run is a part too. -/
theorem Part.when {c : Prop} [Decidable c] {m : Ag Unit} (hm : Part h m) : Part h (when c m) :=
  Triple.when (fun _ => hm) fun _ _ h => h

/-- What leaves the standing is a part. -/
theorem part_of_steady {m : Ag α}
    (hm : ∀ P : Standing → Prop, Preserves (fun a => P a.standing) m) : Part h m :=
  Triple.conseq (under_of_steady hm) (fun _ h => h) (fun _ _ h => h)
    (fun _ _ hs => hs.mono fun hsound _ => hsound) fun _ h => h

/-- The errors of a steady operation are taken as they come. -/
theorem part_errorOf {m : Ag α} (hm : ∀ P : Standing → Prop, Preserves (fun a => P a.standing) m) :
    Part h (errorOf m) := part_of_steady fun P => (hm P).errorOf

/-- Reading the runtime. -/
theorem part_get : Part h (get : Ag Runtime) := fun _ h => h

/-- Taking a moment. -/
theorem part_moment : Part h moment := part_of_steady steady_moment

/-- Noting a neutral event. -/
theorem part_log {event : Runtime → Event} (hevent : ∀ a, (event a).neutral = true) :
    Part h (log event) := fun a h => h.neutral (hevent a)

/-- A change that is not looked at here. -/
theorem part_modify {f : Runtime → Runtime} (hf : ∀ a, (f a).standing = a.standing) :
    Part h (modify f : Ag Unit) := by
  intro a h
  show Under Standing.Sound (f a).standing
  rw [hf a]
  exact h

/-- A receipt is published with a neutral event at most. -/
theorem under_publishReceipt {receipt : PendingReceipt}
    (hK : ∀ st event, event.neutral = true → K st → K (st.sees event)) :
    Triple (fun a => Under K a.standing) (publishReceipt receipt)
      (fun _ a => Under K a.standing) (fun _ a => Under K a.standing) Dead := by
  have hlog : ∀ event : Runtime → Event, (∀ a, (event a).neutral = true) →
      Triple (fun a => Under K a.standing) (log event) (fun _ a => Under K a.standing)
        (fun _ a => Under K a.standing) Dead := by
    intro event hevent a ha
    exact ha.sees fun _ h => ⟨owned_of_neutral (hevent a) _, hK _ _ (hevent a) h⟩
  refine Triple.bind (under_of_steady fun P => (steady_writeFile P).errorOf) fun failed => ?_
  refine Triple.bind (Q := fun _ (a : Runtime) => Under K a.standing) ?_ fun _ a ha => ha
  unfold noteReceipt
  split
  · exact Triple.pure fun _ h => h
  · exact Triple.ite (fun _ => hlog _ fun _ => rfl) fun _ => hlog _ fun _ => rfl

/-- Publishing a receipt. -/
theorem part_publishReceipt {receipt : PendingReceipt} : Part h (publishReceipt receipt) :=
  Triple.conseq (under_publishReceipt fun _ _ hevent hs => hs.sees (awaiting_of_neutral hevent _))
    (fun _ hs => hs) (fun _ _ hs => hs) (fun _ _ hs => hs.mono fun hsound _ => hsound) fun _ hs => hs

/-- Publishing the receipt of a commit. -/
theorem part_publishCommitted {origin : Origin} : Part h (publishCommitted origin) :=
  part_get.bind fun _ => part_publishReceipt

/-- Publishing a receipt that failed before. -/
theorem part_retryReceipt : Part h retryReceipt := by
  refine part_get.bind fun a => ?_
  split
  · exact .pure _
  · refine part_moment.bind fun m => ?_
    split
    · exact .pure _
    · exact .ite (part_modify fun _ => rfl) (.ite part_publishReceipt (.pure _))

/-! ### Policy updates -/

/-- Asking the daemon for a policy update. -/
theorem part_updatePolicy :
    Part h (errorOf (netd (updatePolicy exactFormat declaration))) :=
  part_errorOf fun P => steady_netd stays_updatePolicy P

/-- Taking a policy update back. -/
theorem part_undoPolicyUpdate {changed uncertain : Bool} {outcome : PolicyUpdateOutcome} :
    Part h (undoPolicyUpdate declaration changed uncertain outcome) :=
  .ite (.pure _) (.ite (part_updatePolicy.bind fun _ => .ite (.pure _) (.pure _)) (.pure _))

/-- Handing the policy to the core. -/
theorem part_updateCorePolicy {changed uncertain : Bool} :
    Part h (updateCorePolicy replacement declaration changed uncertain) := by
  refine Part.bind (part_of_steady fun P =>
    (steady_requestCore P replacement .policyUpdate).attempt) fun result => ?_
  split
  · exact .pure _
  · exact part_undoPolicyUpdate
  · exact part_undoPolicyUpdate
  · exact .pure _

/-- A policy update up to its outcome. -/
theorem part_policyUpdateActivationInner {uncertain : Bool} :
    Part h (policyUpdateActivationInner current replacement uncertain) := by
  refine part_moment.bind fun m => (part_log fun _ => rfl).bind fun _ => ?_
  refine .ite (.pure _) (.ite (.pure _) ?_)
  refine Part.bind (part_of_steady fun P => .okOr _ _) fun old => ?_
  refine Part.bind (part_of_steady fun P => .okOr _ _) fun new => ?_
  refine .ite (.pure _) (.ite ?_ part_updateCorePolicy)
  exact part_updatePolicy.bind fun _ => .ite part_updateCorePolicy (.pure _)

/-- A failure may be returned. -/
theorem Part.attempt {m : Ag α} (hm : Part true m) : Part h (attempt m) := by
  intro a ha
  rw [wp_attempt]
  exact wp_mono (hm a ha) (fun _ _ hs => hs) (fun _ _ hs => hs.mono fun hsound => hsound rfl)
    fun _ hs => hs

/-- A policy update with its retry. -/
theorem part_tryPolicyUpdate {uncertain : Bool} :
    Part h (tryPolicyUpdate current replacement uncertain) := by
  refine Part.bind (Part.attempt part_policyUpdateActivationInner) fun outcome => ?_
  refine Part.bind ?_ fun _ => .pure _
  cases outcome with
  | error e => exact .pure _
  | ok outcome => exact part_log fun _ => rfl

/-- Taking the place of the current activation. -/
theorem part_adopt : Part h (adopt replacement) :=
  Part.bind (part_modify fun _ => rfl) fun _ => part_publishCommitted

/-- Leaving a policy update to the confirmation of Core. -/
theorem part_pend : Part h (pend replacement) :=
  Part.bind (part_log fun _ => rfl) fun _ => part_modify fun _ => rfl

/-- Waiting for that confirmation. -/
theorem part_awaitConfirmation : Part h (awaitConfirmation replacement) := by
  refine part_get.bind fun a => part_moment.bind fun m => ?_
  split
  · exact (Part.when part_pend).bind fun _ => .pure _
  · exact .pure _

/-- Applying the pending policy update. -/
theorem part_confirm : Part h (confirm replacement) :=
  part_adopt.bind fun _ => Part.bind (part_modify fun _ => rfl) fun _ => .pure _

/-- Looking at the pending policy update. -/
theorem part_confirmPolicy : Part h confirmPolicy := by
  refine part_get.bind fun a => ?_
  split
  · exact .pure _
  · refine part_moment.bind fun m => .ite (.fail _) (.ite ?_ (.ite ?_ part_awaitConfirmation))
    · refine Part.bind (part_log fun _ => rfl) fun _ => ?_
      exact Part.bind (part_log fun _ => rfl) fun _ => part_confirm
    · refine part_tryPolicyUpdate.bind fun outcome => ?_
      split
      · exact part_confirm
      · exact part_awaitConfirmation

/-! ### Candidates -/

/-- A target is rejected only while suspended steering has an owner. -/
theorem under_reject {target : Option String} :
    Triple (fun a => Under (HotReturn false) a.standing) (reject target)
      (fun _ a => Under Standing.Sound a.standing)
      (fun _ a => Under (fun st => h = true → st.Sound) a.standing) Dead := by
  intro a ha
  refine ha.change rfl fun hreturn => ?_
  have hsound := hreturn.1
  exact ⟨hsound.phase, hsound.core, hsound.flagged, hsound.stranded, fun _ => hreturn.2⟩

/-- Refusing the policy of a candidate. -/
theorem part_refusePolicy : Part h (refusePolicy replacement) := by
  -- the look at steering before the receipt is written
  refine Triple.bind (Q := fun _ (a : Runtime) => Under (HotReturn false) a.standing) ?_ fun _ => ?_
  · intro a ha
    refine ha.sees fun hevent hsound => ⟨trivial, hsound.sees rfl, fun hs => ?_⟩
    by_contra hf
    have hf : a.standing.fallback = false := Bool.eq_false_iff.mpr hf
    have hawaiting : awaiting a.standing.trace = false := hevent hs hf
    rw [hsound.stranded hs hf] at hawaiting
    cases hawaiting
  refine Triple.bind (Triple.conseq (under_publishReceipt fun _ _ hevent hr =>
    ⟨hr.1.sees (awaiting_of_neutral hevent _), hr.2⟩) (fun _ hs => hs) (fun _ _ hs => hs)
    (fun _ _ hs => hs.mono fun hr _ => hr.1) fun _ hs => hs) fun _ => ?_
  exact Triple.bind under_reject fun _ => Part.pure _

/-- What is done about a plain error: a flagged fallback is kept. -/
theorem under_plainError :
    Triple (fun a => Under (HotError .io) a.standing)
      (do let t := (← get).transition
          when (t.complete = false) (ignore (enterProxyFallback current))
          ignore (writeFailedActivationReceipt replacement)
          reject replacement.target)
      (fun _ a => Under Standing.Sound a.standing)
      (fun _ a => Under (fun st => h = true → st.Sound) a.standing) Dead := by
  have hrest : Triple (fun a => Under (HotReturn false) a.standing)
      (do ignore (writeFailedActivationReceipt replacement)
          reject replacement.target)
      (fun _ a => Under Standing.Sound a.standing)
      (fun _ a => Under (fun st => h = true → st.Sound) a.standing) Dead := by
    refine Triple.bind (Triple.conseq (under_of_steady fun P =>
      (steady_writeFailedActivationReceipt P replacement).ignore) (fun _ hs => hs)
      (fun _ _ hs => hs) (fun _ _ hs => hs.mono fun hr _ => hr.1) fun _ hs => hs) fun _ => ?_
    exact under_reject
  intro a ha
  rw [wp_bind, wp_get]
  by_cases hcomplete : a.transition.complete = true
  · rw [wp_bind, wp_when]
    refine ⟨fun hno => absurd (hcomplete.symm.trans hno) nofun, fun _ => hrest a ?_⟩
    exact ha.mono fun hplain => ⟨hplain.1, fun _ => hplain.2.2⟩
  · -- not the fallback of a survivable run
    have hnever : Under (fun st => st.Sound ∧ False) a.standing :=
      ha.mono fun hplain => absurd hplain.2.1 hcomplete
    refine Triple.bind (P := fun a : Runtime => Under (fun st => st.Sound ∧ False) a.standing)
      (Q := fun _ (a : Runtime) => Under (HotReturn false) a.standing)
      (Triple.when (fun _ a ha => ?_) fun _ a ha => ha.mono fun hf => hf.2.elim) (fun _ => hrest) a
      hnever
    rw [wp_ignore]
    exact wp_mono (under_enter (fun _ _ _ _ _ => False) a ha)
      (fun _ _ hs => hs.mono fun hf => hf.2.2.elim) (fun _ _ hs => hs.mono fun hf => hf.2.elim)
      fun _ hs => hs

/-- What comes of a hot replacement. -/
theorem part_followReplacement : Part false (followReplacement replacement) := by
  refine part_get.bind fun current => ?_
  refine Triple.attempt_bind hotReplaceActivation_hot (fun b => ?_) fun e => ?_
  · cases b with
    | true =>
      intro a ha
      exact ha.change rfl fun hreleased => Standing.Released.sound hreleased rfl
    | false => exact under_reject
  cases e with
  | preparationPending => exact part_modify fun _ => rfl
  | appliedPending =>
    intro a ha
    exact ha.change rfl fun hsuspended => sound_of_flagged hsuspended.1 hsuspended.2 rfl
  | recoveryRequired => exact Triple.fail fun _ hs => hs.mono fun _ => nofun
  | ipc e => exact under_plainError
  | io => exact under_plainError
  | coreRejected b => exact under_plainError
  | left => exact under_plainError

/-- Steering is suspended, and a flag has to say so. -/
def Unflagged (st : Standing) : Prop :=
  st.phase = .suspended ∧ st.transition.steeringSuspended = true

/-- After a suspension the flag is still to be set. -/
theorem under_suspend :
    Triple (fun a => Under Standing.Sound a.standing) (orLeave suspendSteering)
      (fun _ a => Under Unflagged a.standing)
      (fun _ a => Under (fun st => false = true → st.Sound) a.standing) Dead := by
  intro a ha
  rw [orLeave, wp_mapError]
  refine wp_mono (suspendSteering_standing a.standing a rfl) (fun _ a' h => ?_) (fun _ a' h => ?_)
    fun _ h => ha.dead h
  · rw [h]
    exact ha.change rfl fun _ => ⟨rfl, rfl⟩
  · rw [h]
    exact ha.mono fun _ => nofun

/-- The flag is set. -/
theorem under_flag {flag : Runtime → Runtime}
    (hflag : ∀ a, (flag a).standing.phase = a.standing.phase
      ∧ (flag a).standing.transition = a.standing.transition
      ∧ (flag a).standing.fallback = true ∧ (flag a).standing.trace = a.standing.trace) :
    Triple (fun a => Under Unflagged a.standing) (modify flag)
      (fun _ a => Under Standing.Sound a.standing) E Dead := by
  intro a ha
  obtain ⟨hphase, htransition, hfallback, htrace⟩ := hflag a
  refine ha.change htrace fun hsuspended => ?_
  exact sound_of_flagged (hphase.trans hsuspended.1) (by rw [htransition]; exact hsuspended.2)
    hfallback

/-- The path of a policy update in the loop. -/
theorem part_followPolicyUpdate : Part false (followPolicyUpdate replacement) := by
  refine part_get.bind fun a => part_tryPolicyUpdate.bind fun outcome => ?_
  split
  · exact part_refusePolicy
  · refine part_adopt.bind fun _ => Part.bind (fun a ha => ?_) fun _ => .pure _
    refine ha.change rfl fun hs => ?_
    exact ⟨hs.phase, hs.core, hs.flagged, hs.stranded,
      fun hor => hs.owned (.inr (hor.resolve_left fun hne => hne rfl))⟩
  · exact part_refusePolicy
  · exact Part.bind (part_modify fun _ => rfl) fun _ => .pure _
  · refine Triple.bind under_suspend fun _ => ?_
    refine Triple.bind (under_flag fun a => ⟨rfl, rfl, rfl, rfl⟩) fun _ => ?_
    exact part_pend.bind fun _ => .pure _
  · exact part_followReplacement.bind fun _ => .pure _

/-- What is seen of a candidate is whether it was rejected. -/
theorem part_seesCandidate (htarget : replacement.target ≠ none) :
    Part false (seesCandidate replacement) := by
  intro a ha
  refine ha.change rfl fun hs => ⟨hs.phase, hs.core, hs.flagged, hs.stranded, fun hor => ?_⟩
  refine hs.owned (.inl ?_)
  rcases hor with hrejected | hseen
  · exact hrejected
  · by_cases h : a.rejectedActivation = replacement.target
    · show a.rejectedActivation ≠ none
      rwa [h]
    · exact absurd (if_neg h) hseen

/-- A replacement has a target. -/
theorem target_of_reload {candidate : Option Candidate}
    (h : reloadRuntimeArgs current candidate = some replacement) : replacement.target ≠ none := by
  unfold reloadRuntimeArgs at h
  cases candidate with
  | none => cases h
  | some c =>
    simp only [Option.bind_some] at h
    split at h
    · obtain rfl := Option.some.inj h
      exact nofun
    · cases h

/-- A pointer that leads to another candidate. -/
theorem part_followSuperseded : Part false followSuperseded := by
  refine part_get.bind fun a => part_moment.bind fun m => ?_
  split
  · exact .pure _
  · next replacement hreload =>
    have hsees := part_seesCandidate (target_of_reload hreload)
    refine .ite ?_ (hsees.bind fun _ => .pure _)
    exact part_followPolicyUpdate.bind fun flow => hsees.bind fun _ => .pure _

/-- No flag is set and no candidate is in sight; a withdrawn pointer has taken steering away. -/
def Withdrawn (peerLoss routeIntegrity : Bool) (rejected : Option String) (seen : Seen)
    (trace : List Event) : Prop :=
  peerLoss = false ∧ routeIntegrity = false ∧ rejected = none ∧ seen = .other
    ∧ awaiting trace = true

/-- Suspended for one of the known reasons is sound. -/
theorem sound_of_withdrawn (hphase : st.phase = .suspended)
    (hs : st.transition.steeringSuspended = true)
    (h : Withdrawn st.peerLossFallback st.routeIntegrityFallback st.rejectedActivation st.seen
      st.trace) : st.Sound := by
  obtain ⟨hpeerLoss, hrouteIntegrity, hrejected, hseen, hawaiting⟩ := h
  refine ⟨?_, fun _ => hs, fun _ => hs, fun _ _ => hawaiting, fun hor => ?_⟩
  · rw [if_pos hs, hphase]
  · exact absurd hor (not_or.mpr ⟨fun h => h hrejected, fun h => h hseen⟩)

/-- The pointer is gone: nobody gives steering back until a new one leads somewhere. -/
theorem under_followWithdrawn :
    Triple (fun a => Under (fun st => st.Sound ∧ st.seen = .other ∧ awaiting st.trace = true)
        a.standing) followWithdrawn (fun _ a => Under Standing.Sound a.standing)
      (fun _ a => Under (fun st => false = true → st.Sound) a.standing) Dead := by
  have hend : ∀ failed : Option AgentError, Part false
      (if failed = none then do
        let failed ← errorOf writeFile
        return if failed = none then Flow.proceed else Flow.next
      else return Flow.next) :=
    fun failed => .ite ((part_errorOf steady_writeFile).bind fun _ => .pure _) (.pure _)
  refine Triple.bind (Q := fun _ (a : Runtime) => Under (fun st => st.Sound
    ∧ Withdrawn st.peerLossFallback st.routeIntegrityFallback st.rejectedActivation st.seen
      st.trace) a.standing) (under_modify (fun _ => rfl) fun a hK => ?_) fun _ => ?_
  · obtain ⟨hs, hseen, hawaiting⟩ := hK
    refine ⟨?_, rfl, rfl, rfl, hseen, hawaiting⟩
    refine ⟨hs.phase, hs.core, nofun, fun _ _ => hawaiting, fun hor => ?_⟩
    exact absurd hor (not_or.mpr ⟨fun h => h rfl, fun h => h hseen⟩)
  · intro a ha
    rw [wp_bind, wp_get]
    rw [wp_bind]
    refine wp_mono (Q := fun _ (a : Runtime) => Under Standing.Sound a.standing)
      (E := fun _ _ => False) (C := Dead) ?_ (fun failed a ha => hend failed a ha)
      (fun _ _ hf => hf.elim) fun _ h => h
    rw [wp_errorOf, wp_when]
    refine ⟨fun _ => ?_, fun _ => ha.mono fun hs => hs.1⟩
    refine wp_mono (under_enter Withdrawn a ha) (fun _ _ hs => hs.mono fun hentered => ?_)
      (fun _ _ hs => hs.mono fun hhalf => ?_) fun _ hs => hs
    · exact sound_of_withdrawn hentered.1 (by rw [hentered.2.1]) hentered.2.2
    · rcases hhalf.1 with hsound | hsuspended
      · exact hsound
      · exact sound_of_withdrawn hsuspended.1 hsuspended.2 hhalf.2

/-- The pointer leads to the current activation, and suspended steering has an owner. -/
theorem under_unchanged :
    Triple (fun a => Under (HotReturn false) a.standing)
      (do modify fun a => { a with seen := .unchanged }
          return Flow.proceed : Ag Flow)
      (fun _ a => Under Standing.Sound a.standing)
      (fun _ a => Under (fun st => false = true → st.Sound) a.standing) Dead := by
  refine Triple.bind (under_modify (fun _ => rfl) fun a hK => ?_) fun _ => Part.pure _
  exact ⟨hK.1.phase, hK.1.core, hK.1.flagged, hK.1.stranded, fun _ => hK.2⟩

/-- Following the pointer of the candidate. -/
theorem part_followPointer : Part false followPointer := by
  refine part_moment.bind fun m => ?_
  -- nothing is seen yet
  refine Triple.bind (Q := fun _ (a : Runtime) => Under (fun st => st.Sound ∧ st.seen = .other)
    a.standing) (under_modify (fun _ => rfl) fun a hs => ?_) fun _ => ?_
  · refine ⟨⟨hs.phase, hs.core, hs.flagged, hs.stranded, fun hor => ?_⟩, rfl⟩
    exact hs.owned (.inl (hor.resolve_right fun hne => hne rfl))
  split
  · exact Triple.pure fun _ hs => hs.mono fun hs => hs.1
  intro a ha
  rw [wp_bind, wp_get, wp_bind, log, wp_modify]
  generalize a.args.pointerState _ = state
  cases state with
  | unchanged =>
    -- suspended steering without a flag would be that of a withdrawal
    refine under_unchanged _ (ha.sees fun hevent hs => ⟨trivial, hs.1.sees rfl, fun hsteering => ?_⟩)
    by_contra hf
    have hf : a.standing.fallback = false := Bool.eq_false_iff.mpr hf
    have hawaiting : awaiting a.standing.trace = false := hevent hsteering hf
    rw [hs.1.stranded hsteering hf] at hawaiting
    cases hawaiting
  | superseded =>
    exact part_followSuperseded _ (ha.sees fun _ hs => ⟨trivial, hs.1.sees rfl⟩)
  | withdrawn =>
    refine under_followWithdrawn _ (ha.sees fun _ hs => ⟨trivial, ?_, hs.2, rfl⟩)
    exact ⟨hs.1.phase, hs.1.core, hs.1.flagged, fun _ _ => rfl, hs.1.owned⟩

/-! ### Core -/

/-- An attempt to leave fallback. -/
theorem under_errorOf_leave :
    Triple (fun a => Under (Standing.Suspended P) a.standing) (errorOf (leaveProxyFallback args))
      (fun failed a => if failed = none then Under (Standing.Free P) a.standing
        else Under (Standing.Suspended P) a.standing) E Dead := by
  intro a ha
  rw [wp_errorOf]
  refine wp_mono (under_leave a ha) (fun _ _ hs => ?_) (fun _ _ hs => ?_) fun _ hs => hs
  · rwa [if_pos rfl]
  · rwa [if_neg nofun]

/-- Core being ready again. -/
theorem part_recover : Part h recover := by
  intro a ha
  rw [recover, wp_bind, wp_get, wp_ite]
  refine ⟨fun hflags => ?_, fun _ => ha⟩
  have hsuspended : Under (Standing.Suspended fun peerLoss routeIntegrity =>
      peerLoss = true ∧ routeIntegrity = false) a.standing := by
    refine ha.mono fun hs => ⟨hs, hs.flagged ?_, hflags⟩
    show (a.peerLossFallback || a.routeIntegrityFallback) = true
    rw [hflags.1]
    rfl
  refine Triple.bind under_errorOf_leave (fun failed => Triple.ite (fun hnone => ?_) fun hsome => ?_)
    a hsuspended
  · refine Triple.bind (Q := fun _ (a : Runtime) => Under Standing.Sound a.standing)
      (fun a ha => ?_) fun _ => part_publishCommitted.bind fun _ => .pure _
    rw [if_pos hnone] at ha
    refine ha.change rfl fun hfree => Standing.Released.sound hfree.released ?_
    show (false || a.standing.routeIntegrityFallback) = false
    rw [hfree.flags.2]
    rfl
  · refine Triple.pure fun a ha => ?_
    rw [if_neg hsome] at ha
    exact ha.mono fun hs => hs.sound

/-- Core having lost its peers. -/
theorem part_losePeers : Part false losePeers := by
  refine part_get.bind fun a => Part.when ?_
  refine Triple.bind (Q := fun _ (a : Runtime) => Under Unflagged a.standing) ?_ fun _ =>
    under_flag fun a => ⟨rfl, rfl, rfl, rfl⟩
  intro a ha
  rw [orLeave, wp_mapError]
  refine wp_mono (under_enter (fun _ _ _ _ _ => True) a (ha.mono fun hs => ⟨hs, trivial⟩))
    (fun _ _ hs => hs.mono fun hentered => ⟨hentered.1, ?_⟩) (fun _ _ hs => hs.mono fun _ => nofun)
    fun _ hs => hs
  rw [hentered.2.1]

/-- Following the readiness of the core. -/
theorem part_followReadiness : Part false followReadiness := by
  refine part_get.bind fun a => part_moment.bind fun m => ?_
  split
  · exact .fail _
  · exact part_recover.bind fun _ => .pure _
  · exact part_recover.bind fun _ => .pure _
  · exact (Part.when part_losePeers).bind fun _ => .pure _
  all_goals exact part_losePeers.bind fun _ => .ite (.fail _) (.pure _)

/-- Following the integrity of the routes. -/
theorem part_followIntegrity {consistent : Bool} : Part false (followIntegrity consistent) := by
  intro a ha
  rw [followIntegrity, wp_bind, wp_get, wp_ite]
  refine ⟨fun hconsistent => ?_, fun _ => ?_⟩
  · rw [wp_ite]
    refine ⟨fun hpeerLoss => ?_, fun hpeerLoss => ?_⟩
    · -- the other flag stays
      refine ha.change rfl fun hs => ?_
      have hsteering : a.standing.transition.steeringSuspended = true :=
        hs.flagged (by show (a.peerLossFallback || _) = true; rw [hpeerLoss]; rfl)
      have hphase := hs.phase
      rw [if_pos hsteering] at hphase
      refine sound_of_flagged hphase hsteering ?_
      show (a.peerLossFallback || false) = true
      rw [hpeerLoss]
      rfl
    · have hsuspended : Under (Standing.Suspended fun peerLoss _ => peerLoss = false) a.standing := by
        refine ha.mono fun hs => ⟨hs, hs.flagged ?_, Bool.eq_false_iff.mpr hpeerLoss⟩
        show (a.peerLossFallback || a.routeIntegrityFallback) = true
        rw [hconsistent.2, Bool.or_true]
      refine Triple.bind under_errorOf_leave (fun failed => Triple.when (fun hnone a ha => ?_)
        fun hsome a ha => ?_) a hsuspended
      · rw [if_pos hnone] at ha
        refine ha.change rfl fun hfree => Standing.Released.sound hfree.released ?_
        show (a.standing.peerLossFallback || false) = false
        rw [hfree.flags]
        rfl
      · rw [if_neg hsome] at ha
        exact ha.mono fun hs => hs.sound
  · refine Part.when (h := false) ?_ a ha
    exact Triple.bind under_suspend fun _ => under_flag fun a => ⟨rfl, rfl, Bool.or_true _, rfl⟩

/-- Reconciling the routes. -/
theorem part_reconcileRoutes : Part false reconcileRoutes := by
  refine part_get.bind fun a => part_moment.bind fun m => ?_
  split
  · exact .fail _
  · exact .pure _
  · refine .ite (.pure _) ?_
    refine Part.bind (part_of_steady fun P => (Preserves.okOr _ _).mapError) fun _ => ?_
    split
    · exact .pure _
    · refine Part.when ?_
      refine Part.bind (part_of_steady fun P =>
        (steady_netd stays_setFailedPrefixes P).mapError) fun _ => ?_
      exact part_followIntegrity.bind fun _ => part_modify fun _ => rfl

/-- Following the core. -/
theorem part_followCore : Part false followCore := by
  refine Part.bind ?_ fun _ => part_get.bind fun a => .ite ?_ (.pure _)
  · exact part_moment.bind fun m => .ite (.fail _) (.pure _)
  · refine part_followReadiness.bind fun flow => ?_
    cases flow with
    | next => exact .pure _
    | proceed => exact part_reconcileRoutes

/-- One iteration of the loop. -/
theorem part_follow : Part false follow := by
  refine Part.bind (part_of_steady fun P => (steady_renewTransitionLease P).mapError) fun _ => ?_
  refine Part.bind (under_modify (fun _ => rfl) fun a hs => ?_) fun _ => ?_
  · refine ⟨hs.phase, hs.core, hs.flagged, hs.stranded, fun hor => ?_⟩
    exact hs.owned (.inl (hor.resolve_right fun hne => hne rfl))
  refine part_retryReceipt.bind fun _ => part_confirmPolicy.bind fun flow => ?_
  cases flow with
  | next => exact .pure _
  | proceed =>
    refine part_followPointer.bind fun flow => ?_
    cases flow with
    | next => exact .pure _
    | proceed => exact part_followCore

end Part

/-! ## Runs -/

/-- One iteration: the law holds at its end. -/
theorem part_iterate : Part false iterate := by
  refine part_follow.bind fun _ a ha => ha.sees fun _ hs => ⟨⟨fun hsteering hseen => ?_, ?_⟩, ?_⟩
  · exact hs.owned (.inr hseen) hsteering
  · exact hs.flagged
  · exact hs.sees rfl

/-- Any number of iterations, by induction on it. -/
theorem part_loop (n : ℕ) : Part false (loop n) := by
  induction n with
  | zero => exact .pure _
  | succ n ih => exact part_iterate.bind fun _ => ih

/-- An agent that has just started is sound. -/
theorem Runtime.Started.sound (h : a.Started) : Under Standing.Sound a.standing := by
  intro _
  have htrace : a.standing.trace = [] := h.trace
  rw [htrace]
  refine ⟨trivial, Standing.Released.sound ⟨h.phase, h.transition⟩ ?_⟩
  show (a.peerLossFallback || a.routeIntegrityFallback) = false
  rw [h.peerLossFallback, h.routeIntegrityFallback]
  rfl

/-- In every run of the loop whose steps are survivable, suspended steering has an owner at the end
of every iteration, and every hot replacement chooses an admissible operation. -/
theorem steering_owned {a : Runtime} (hstarted : a.Started) (n : ℕ)
    (hsurvivable : Always Survivable (loop n a).2.trace) : Always Owned (loop n a).2.trace := by
  have hrun := part_loop n a hstarted.sound
  unfold wp at hrun
  split at hrun
  · next heq =>
    rw [heq] at hsurvivable ⊢
    exact (hrun hsurvivable).1
  · next heq =>
    rw [heq] at hsurvivable ⊢
    exact (hrun hsurvivable).1
  · next heq =>
    rw [heq] at hsurvivable ⊢
    exact (hrun hsurvivable).1

namespace Sample

open NetdV1.Sample

/-- The pointer leads to `b` from the first look on. -/
def superseded : Moment :=
  { moment with candidate := some ⟨"b", .clientSdwan, ⟨4, 0, 0⟩, some NetdV1.Sample.replacement⟩ }

/-- `b` takes the place of `a`. -/
def replaced : Runtime := runtime fun _ => superseded

/-- Core's answers to `Commit` are lost, and then its peers. -/
def unresolved : Runtime :=
  runtime fun n =>
    { superseded with
      core := if n = 10 ∨ n = 11 then .sent true .broken else .sent true .ok
      readiness := some (some .recoverablePeerLoss) }

theorem started (moments : ℕ → Moment) : (runtime moments).Started where
  phase := rfl
  generation := rfl
  journaled := by
    show (service [.prepare declaration, .commit]).network.stored
      = (service [.prepare declaration, .commit]).network.record
    decide +kernel
  transition := rfl
  peerLossFallback := rfl
  routeIntegrityFallback := rfl
  rejectedActivation := rfl
  pendingPolicy := rfl
  pendingReceipt := nofun
  trace := rfl

theorem replaced_started : replaced.Started := started _

theorem unresolved_started : unresolved.Started := started _

end Sample

theorem replaced_owned : Always Owned (loop 1 Sample.replaced).2.trace := by
  have hlaw := @steering_owned Sample.replaced Sample.replaced_started 1
  -- the trace is kept folded while the theorem is applied
  generalize htrace : (loop 1 Sample.replaced).2.trace = trace at hlaw ⊢
  apply hlaw
  rw [← htrace]
  decide +kernel

/-- `Commit` of Core stays unresolved while steering is in place: the flag is set all the same. -/
theorem unresolved_not_owned :
    Sample.unresolved.Started ∧ ¬ Always Owned (loop 1 Sample.unresolved).2.trace := by
  refine ⟨Sample.unresolved_started, ?_⟩
  decide +kernel

end CandyRuntime.Agent.V1
