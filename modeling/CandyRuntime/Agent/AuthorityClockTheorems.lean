import CandyRuntime.Agent.AuthorityClock

/-!
# The clock checks of TUNIO on the agent's envelopes

`Timely` are the deadline inequalities of `validate_envelope`. The envelope of `run_with_plan` meets
them whenever it is sent before its deadline. The envelope of a make-before-break handoff reads both
clocks again after its worker is spawned, and there the span to the deadline can exceed the verified
duration (`envelopes_timely_iff`).
-/

namespace CandyRuntime.Agent.Renewal

open Lib Lib.Proc NetdV2 Tunio

variable {v : Verified}

/-! ## The inequalities -/

/-- The deadline inequalities of `validate_envelope`, at the clocks that TUNIO reads. -/
structure Timely (authority : AuthorityEnvelope) (nowUnix nowMono : ℕ) : Prop where
  signed : authority.effectiveExpiryUnix ≤ authority.signedMinExpiryUnix
  wall : nowUnix < authority.effectiveExpiryUnix
  verifiedWall : authority.verifiedAtUnix ≤ nowUnix
  verifiedMono : authority.verifiedAtMonoMs ≤ nowMono
  mono : nowMono < authority.effectiveDeadlineMonoMs
  ordered : authority.verifiedAtMonoMs < authority.effectiveDeadlineMonoMs
  span : authority.effectiveDeadlineMonoMs - authority.verifiedAtMonoMs
    ≤ (authority.effectiveExpiryUnix - authority.verifiedAtUnix) * 1000
  duration : (authority.effectiveExpiryUnix - authority.verifiedAtUnix) * 1000 < 2 ^ 64

/-- The checks of `validate_envelope` that are not about clocks. -/
structure Identified (E : ℕ → Tunio.Moment) (authority : AuthorityEnvelope) (w : World) : Prop where
  transactionId : isHex authority.transactionId 32 = true
  revision : authority.authorityRevision ≠ 0
  infrastructure : infrastructureMatches authority.binding w.controller.binding = true
  policyGeneration : authority.binding.policyGeneration ≠ 0
  ownerEpoch : authority.binding.ownerEpoch ≠ 0
  controller : authority.controller = w.controller.controller
  controllerEpoch : authority.controllerEpoch = w.controller.epoch
  candidate : (E (w.clock + 2)).current authority.candidate = true
  independent : authority.candidate ≠ w.controller.process
    ∧ authority.candidate ≠ w.controller.controller
  signedControlHash : isHex authority.signedControlHash 64 = true
  declarationHash : isHex authority.declarationHash 64 = true
  verificationReportHash : isHex authority.verificationReportHash 64 = true
  snapshotClosureHash : isHex authority.snapshotClosureHash 64 = true
  boot : (E (w.clock + 3)).bootId = some authority.bootId

/-- A list of named checks is passed exactly if each holds. -/
theorem checked_eq_ok_iff (checks : List (Bool × String)) (reject : String → String) (w : World) :
    ((match checks.find? (!·.1) with
      | some (_, reason) => fail (reject reason)
      | none => return () : Srv Unit) w).1 = .ok () ↔ ∀ check ∈ checks, check.1 = true := by
  cases hfound : checks.find? (!·.1) with
  | none => simpa [Pure.pure] using hfound
  | some check =>
    have hfails := List.find?_some hfound
    have hmem := List.mem_of_find?_eq_some hfound
    refine iff_of_false nofun fun h => ?_
    simp [h check hmem] at hfails

/-- An envelope that is otherwise in order is accepted exactly if it is timely. -/
theorem validateEnvelope_eq_ok_iff {E : ℕ → Tunio.Moment} {authority : AuthorityEnvelope} {w : World}
    {wall mono : ℕ} (hwall : (E w.clock).clock.wall = some wall)
    (hmono : (E (w.clock + 1)).clock.monotonicMs = some mono) (hid : Identified E authority w) :
    (validateEnvelope E authority w).1 = .ok () ↔ Timely authority (wall / 1000000000) mono := by
  have hunix : unixTime E w = (.ok (wall / 1000000000), { w with clock := w.clock + 1 }) := by
    simp [unixTime, wallNow, reading, hwall, Bind.bind, Proc.bind, Pure.pure]
  have hboot : monotonicMs E { w with clock := w.clock + 1 }
      = (.ok mono, { w with clock := w.clock + 2 }) := by
    simp [monotonicMs, reading, hmono]
  unfold validateEnvelope
  rw [bind_of_ok (show controllerState w = (.ok w.controller, w) from rfl), bind_of_ok hunix,
    bind_of_ok hboot]
  by_cases hduration : authority.verifiedAtUnix ≤ authority.effectiveExpiryUnix
      ∧ (authority.effectiveExpiryUnix - authority.verifiedAtUnix) * 1000 < 2 ^ 64
  · have hensure : (ensure (authority.verifiedAtUnix ≤ authority.effectiveExpiryUnix
        ∧ (authority.effectiveExpiryUnix - authority.verifiedAtUnix) * 1000 < 2 ^ 64)
        "invalid verified authorization duration" : Srv Unit) { w with clock := w.clock + 2 }
        = (.ok (), { w with clock := w.clock + 2 }) := by
      rw [ensure, if_pos hduration]
      rfl
    have hcandidate : processIsCurrent E authority.candidate { w with clock := w.clock + 2 }
        = (.ok true, { w with clock := w.clock + 3 }) := by
      simp [processIsCurrent, reading, hid.candidate]
    have hbootId : bootId E { w with clock := w.clock + 3 }
        = (.ok authority.bootId, { w with clock := w.clock + 4 }) := by
      simp [bootId, reading, hid.boot]
    rw [bind_of_ok hensure, bind_of_ok hcandidate, bind_of_ok hbootId]
    refine (checked_eq_ok_iff _ ("code=authority_envelope_rejected reason=" ++ ·) _).trans ?_
    constructor
    · intro h
      simp only [List.forall_mem_cons, decide_eq_true_eq, Bool.and_eq_true] at h
      obtain ⟨-, -, -, -, -, -, -, -, -, -, -, -, -, signed, hnow, verifiedWall, verifiedMono,
        hmono, ordered, ⟨-, span⟩, -⟩ := h
      exact ⟨signed, hnow, verifiedWall, verifiedMono, hmono, ordered, span, hduration.2⟩
    · intro h
      simp [hid.transactionId, hid.revision, hid.infrastructure, hid.policyGeneration,
        hid.ownerEpoch, hid.controller, hid.controllerEpoch, hid.independent,
        hid.signedControlHash, hid.declarationHash, hid.verificationReportHash,
        hid.snapshotClosureHash, h.signed, h.wall, h.verifiedWall, h.verifiedMono, h.mono,
        h.ordered, h.ordered.le, h.span]
  · have hensure : (ensure (authority.verifiedAtUnix ≤ authority.effectiveExpiryUnix
        ∧ (authority.effectiveExpiryUnix - authority.verifiedAtUnix) * 1000 < 2 ^ 64)
        "invalid verified authorization duration" : Srv Unit) { w with clock := w.clock + 2 }
        = (.err "invalid verified authorization duration", { w with clock := w.clock + 2 }) := by
      rw [ensure, if_neg hduration]
      rfl
    rw [bind_of_err hensure]
    constructor
    · intro h
      cases h
    · intro h
      have hwall := h.wall
      have hverified := h.verifiedWall
      exact absurd ⟨by omega, h.duration⟩ hduration

/-! ## What the cap is -/

/-- The earliest of some deadlines is none of the later ones. -/
theorem foldl_min_le (caps : List ℕ) (cap : ℕ) : caps.foldl min cap ≤ cap := by
  induction caps generalizing cap with
  | nil => rfl
  | cons first rest ih => exact (ih (min cap first)).trans (min_le_left cap first)

/-- How the fields of `run_with_plan` relate to the moments `mono` and `wall` of its two samples. -/
structure Sampled (offset mono wall : ℕ) (v : Verified) : Prop where
  signed : v.effectiveExpiryUnix ≤ v.signedMinExpiryUnix
  verifiedAtUnix : v.verifiedAtUnix = unixSeconds offset wall
  verifiedAtMonoMs : v.verifiedAtMonoMs = bootMs mono
  remains : offset + wall < v.effectiveExpiryUnix * 1000000000
  hour : v.effectiveExpiryUnix * 1000000000 ≤ offset + wall + 3600 * 1000000000
  cap : v.cap ≤ bootMs mono + (v.effectiveExpiryUnix * 1000000000 - (offset + wall)) / 1000000

theorem sampled_of_verify {offset planned signed : ℕ} {caps : List ℕ} {mono wall check : ℕ}
    (h : verify offset planned signed caps mono wall check = .ok v) :
    Sampled offset mono wall v := by
  simp only [verify, authorizationClockSample] at h
  split_ifs at h with hzero hhour hfits
  all_goals try cases h
  have hexpired : ¬(caps.foldl min (bootMs mono
      + (min planned signed * 1000000000 - (offset + wall)) / 1000000) ≤ uptimeMs check) := by
    intro hle
    simp [Bind.bind, Except.bind, hle, throw, throwThe, MonadExceptOf.throw] at h
  simp only [Bind.bind, Except.bind, if_neg hexpired, Pure.pure, Except.pure,
    Except.ok.injEq] at h
  subst h
  refine ⟨min_le_right planned signed, rfl, rfl, ?_, ?_, foldl_min_le caps _⟩
  · show offset + wall < min planned signed * 1000000000
    omega
  · show min planned signed * 1000000000 ≤ offset + wall + 3600 * 1000000000
    omega

/-- The deadline is at most at the signed expiry, if the boot clock is sampled first. -/
theorem Sampled.cap_le {offset mono wall : ℕ} (h : Sampled offset mono wall v)
    (hmono : mono ≤ wall) : offset + v.cap * 1000000 ≤ v.effectiveExpiryUnix * 1000000000 := by
  have hcap := h.cap
  have hremains := h.remains
  unfold bootMs at hcap
  omega

/-! ## Both envelopes -/

/-- How far the deadline of a verified authority is before the signed expiry, in nanoseconds. -/
def Verified.lag (v : Verified) (offset : ℕ) : ℕ :=
  v.effectiveExpiryUnix * 1000000000 - (offset + v.cap * 1000000)

/-- What the checks of `validate_envelope` compare, for an envelope with the expiry and deadline of
a verified authority and the clocks read again at `mono` and `wall`, once the deadline is ahead. -/
theorem Sampled.timely_iff {offset mono wall : ℕ} (h : Sampled offset mono wall v)
    (hmono : mono ≤ wall) {e : AuthorityEnvelope} {t₄ t₅ : ℕ}
    (hsigned : e.signedMinExpiryUnix = v.signedMinExpiryUnix)
    (hexpiry : e.effectiveExpiryUnix = v.effectiveExpiryUnix)
    (hdeadline : e.effectiveDeadlineMonoMs = v.cap)
    (hverified : unixSeconds offset wall ≤ e.verifiedAtUnix)
    (hwall : e.verifiedAtUnix ≤ unixSeconds offset t₄) (ht : t₄ ≤ t₅)
    (hboot : e.verifiedAtMonoMs ≤ bootMs t₅) (hbefore : bootMs t₅ < v.cap) :
    Timely e (unixSeconds offset t₄) (bootMs t₅)
      ↔ v.cap - e.verifiedAtMonoMs ≤ (v.effectiveExpiryUnix - e.verifiedAtUnix) * 1000 := by
  have hcap := h.cap_le hmono
  have hhour := h.hour
  constructor
  · intro htimely
    have hspan := htimely.span
    rwa [hexpiry, hdeadline] at hspan
  · intro hspan
    unfold unixSeconds bootMs at *
    refine ⟨?_, ?_, hwall, hboot, ?_, ?_, ?_, ?_⟩
    · rw [hexpiry, hsigned]
      exact h.signed
    · rw [hexpiry]
      omega
    · rwa [hdeadline]
    · rw [hdeadline]
      omega
    · rwa [hexpiry, hdeadline]
    · rw [hexpiry]
      omega

/-- The envelope of a make-before-break handoff that is built. -/
theorem mbbEnvelope_eq_ok {offset reservationCap mono wall : ℕ} {base e : AuthorityEnvelope}
    (h : v.mbbEnvelope offset base reservationCap mono wall = .ok e) :
    { base with
      signedMinExpiryUnix := v.signedMinExpiryUnix
      effectiveExpiryUnix := v.effectiveExpiryUnix
      verifiedAtUnix := unixSeconds offset wall
      verifiedAtMonoMs := uptimeMs mono
      effectiveDeadlineMonoMs := v.cap } = e := by
  simp only [Verified.mbbEnvelope] at h
  split at h
  · cases h
  · simpa using h

/-- Every envelope of an authority verified at `t₀` and `t₁`, sent before its deadline, meets the
deadline inequalities of TUNIO. -/
def EnvelopesTimely (offset : ℕ) (v : Verified) (base handoff : AuthorityEnvelope)
    (t₁ t₃ : ℕ) : Prop :=
  ∀ t₄ t₅, t₄ ≤ t₅ → bootMs t₅ < v.cap →
    (t₁ ≤ t₄ → Timely (v.envelope base) (unixSeconds offset t₄) (bootMs t₅))
    ∧ (t₃ ≤ t₄ → Timely handoff (unixSeconds offset t₄) (bootMs t₅))
    ∧ (t₁ ≤ t₄ → v.cap ≤ bootMs t₅ + 3600 * 1000)

theorem envelopes_timely_iff {offset planned signed reservationCap : ℕ} {caps : List ℕ}
    {t₀ t₁ t₂ t₃ check : ℕ} {v : Verified} {base handoff : AuthorityEnvelope}
    (h₁ : t₀ ≤ t₁) (h₂ : t₁ ≤ t₂) (h₃ : t₂ ≤ t₃)
    (hverify : verify offset planned signed caps t₀ t₁ check = .ok v)
    (hhandoff : v.mbbEnvelope offset base reservationCap t₂ t₃ = .ok handoff) :
    EnvelopesTimely offset v base handoff t₁ t₃
      ↔ (bootMs t₃ < v.cap →
        t₃ - uptimeMs t₂ * 1000000 ≤ (offset + t₃) % 1000000000 + v.lag offset) := by
  have hsampled := sampled_of_verify hverify
  have hcap := hsampled.cap_le h₁
  obtain rfl := mbbEnvelope_eq_ok hhandoff
  -- The span and the duration both end at the deadline, up to the lag and the started second.
  have hspan (hbefore : bootMs t₃ < v.cap) :
      v.cap - uptimeMs t₂ ≤ (v.effectiveExpiryUnix - unixSeconds offset t₃) * 1000
        ↔ t₃ - uptimeMs t₂ * 1000000 ≤ (offset + t₃) % 1000000000 + v.lag offset := by
    unfold bootMs at hbefore
    unfold unixSeconds Verified.lag uptimeMs
    omega
  constructor
  · intro h hbefore
    have htimely := (h t₃ t₃ le_rfl hbefore).2.1 le_rfl
    exact (hspan hbefore).mp htimely.span
  · intro h t₄ t₅ ht hbefore
    refine ⟨fun hsent => ?_, fun hsent => ?_, fun hsent => ?_⟩
    · have hwall : unixSeconds offset t₁ ≤ unixSeconds offset t₄ :=
        Nat.div_le_div_right (Nat.add_le_add_left hsent offset)
      have hmono : bootMs t₀ ≤ bootMs t₅ := Nat.div_le_div_right (by omega)
      refine (hsampled.timely_iff h₁ rfl rfl rfl hsampled.verifiedAtUnix.ge ?_ ht ?_ hbefore).mpr ?_
      · exact hsampled.verifiedAtUnix.le.trans hwall
      · exact hsampled.verifiedAtMonoMs.le.trans hmono
      · show v.cap - v.verifiedAtMonoMs ≤ (v.effectiveExpiryUnix - v.verifiedAtUnix) * 1000
        have hfixed := hsampled.cap
        rw [hsampled.verifiedAtUnix, hsampled.verifiedAtMonoMs]
        unfold unixSeconds
        omega
    · have hfirst : unixSeconds offset t₁ ≤ unixSeconds offset t₃ :=
        Nat.div_le_div_right (by omega)
      have hwall : unixSeconds offset t₃ ≤ unixSeconds offset t₄ :=
        Nat.div_le_div_right (Nat.add_le_add_left hsent offset)
      have hmono : uptimeMs t₂ ≤ bootMs t₅ := by
        unfold uptimeMs bootMs
        omega
      have hsampledBefore : bootMs t₃ < v.cap :=
        (Nat.div_le_div_right (hsent.trans ht)).trans_lt hbefore
      exact (hsampled.timely_iff h₁ rfl rfl rfl hfirst hwall ht hmono hbefore).mpr
        ((hspan hsampledBefore).mpr (h hsampledBefore))
    · have hcaps := hsampled.cap
      have hhour := hsampled.hour
      have hmono : bootMs t₀ ≤ bootMs t₅ := Nat.div_le_div_right (by omega)
      omega

/-! ## A second that starts between the two samples -/

/-- The fields of an envelope that are no clocks. -/
def ownerFields : AuthorityEnvelope where
  transactionId := "00000000000000000000000000000001"
  authorityRevision := 1
  binding := ⟨Vector.replicate 16 1, Vector.replicate 16 2, 1, 1, 2, 1⟩
  candidate := ⟨3, 1⟩
  controller := ⟨2, 1⟩
  controllerEpoch := 1
  signedControlHash := "0000000000000000000000000000000000000000000000000000000000000000"
  declarationHash := "0000000000000000000000000000000000000000000000000000000000000000"
  verificationReportHash := "0000000000000000000000000000000000000000000000000000000000000000"
  snapshotClosureHash := "0000000000000000000000000000000000000000000000000000000000000000"
  signedMinExpiryUnix := 0
  effectiveExpiryUnix := 0
  verifiedAtUnix := 0
  verifiedAtMonoMs := 0
  effectiveDeadlineMonoMs := 0
  bootId := "boot"

/-- Ten minutes of authority, verified at the start of a wall clock second. -/
def tenMinutes : Verified := ⟨1601, 1601, 1001, 1000, 601000⟩

theorem verify_tenMinutes :
    verify 1000000000000 1601 1601 [] 1000000000 1000000000 1000000000 = .ok tenMinutes := by
  rfl

theorem envelopes_timely_midSecond :
    EnvelopesTimely 1000000000000 tenMinutes ownerFields
      { tenMinutes.envelope ownerFields with verifiedAtUnix := 1002, verifiedAtMonoMs := 2500 }
      1000000000 2500000000 := by
  have hhandoff : tenMinutes.mbbEnvelope 1000000000000 ownerFields 31000 2500000000 2500000000
      = .ok { tenMinutes.envelope ownerFields with
        verifiedAtUnix := 1002, verifiedAtMonoMs := 2500 } := rfl
  exact (envelopes_timely_iff (by decide) (by decide) (by decide) verify_tenMinutes
    hhandoff).mpr (by decide)

/-- The wall clock starts a second between the two samples of the handoff. -/
theorem not_envelopes_timely_newSecond :
    ¬ ∀ (offset planned signed reservationCap : ℕ) (caps : List ℕ) (t₀ t₁ t₂ t₃ check : ℕ)
      (v : Verified) (base handoff : AuthorityEnvelope), t₀ ≤ t₁ → t₁ ≤ t₂ → t₂ ≤ t₃ →
      verify offset planned signed caps t₀ t₁ check = .ok v →
      v.mbbEnvelope offset base reservationCap t₂ t₃ = .ok handoff →
      EnvelopesTimely offset v base handoff t₁ t₃ := by
  intro h
  have htimely := h 1000000000000 1601 1601 31000 [] 1000000000 1000000000 1999000000 2001000000
    1000000000 tenMinutes ownerFields
    { tenMinutes.envelope ownerFields with verifiedAtUnix := 1002, verifiedAtMonoMs := 1990 }
    (by decide) (by decide) (by decide) verify_tenMinutes rfl
  have hsent := (htimely 2001000000 2001000000 le_rfl (by decide)).2.1 le_rfl
  exact absurd hsent.span (by decide)

end CandyRuntime.Agent.Renewal
