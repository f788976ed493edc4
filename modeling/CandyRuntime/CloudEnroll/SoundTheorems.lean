import CandyRuntime.CloudEnroll.RunTheorems

/-!
# Sound enrollments

A transaction that has not lapsed is completed by a calm run, so it is never refused for ever. With the
invariant of the runs this says which reachable states are sound: the ones that have not lapsed.
-/

namespace CandyRuntime.CloudEnroll

open Lib Lib.Proc

variable {c : Codec} {a : Answers} {w w₀ : World}

/-! ## A calm run -/

def emptyChain : String := "-----BEGIN CERTIFICATE-----\n-----END CERTIFICATE-----\n"

theorem emptyChain_valid : validPemChain emptyChain = true := by decide

theorem validDisplayName_device : validDisplayName "device" = true := by decide

/-- The surroundings of a run in which nothing fails and no time passes. -/
def calm (c : Codec) (cloudAddress : String) (now : ℕ) : Answers where
  bootstrap := some ⟨cloudAddress, ""⟩
  stateDir := true
  displayName := "device"
  rootKey := ⟨0⟩
  operationalKey := ⟨1⟩
  instanceId := ⟨"candy-0", by decide⟩
  challengeUuid := "0"
  completionUuid := "1"
  client := true
  changes := fun _ => .done
  exchange := .done
  manifest := some ⟨"tenant", "site", "device"⟩
  challengeRequest := .done
  challenge := ⟨"challenge", "organization", c.zeroNonce, now + 1⟩
  completeRequest := .done
  device := ⟨"device", "key", now, emptyChain, "now"⟩
  completedAt := now
  checkedAt := now

theorem calm_allowed (cloudAddress : String) (w : World) :
    Allowed c (calm c cloudAddress w.now) w where
  completed := Nat.le_refl _
  checked := Nat.le_refl _
  nonce := c.zeroNonce_valid
  chain := emptyChain_valid

theorem calm_undisturbed {cloudAddress : String} (haddress : ∀ state, w.files.state = some state →
    state.cloudAddress = cloudAddress) : Undisturbed (calm c cloudAddress w.now) w where
  bootstrap := ⟨_, rfl, haddress⟩
  stateDir := rfl
  displayName := validDisplayName_device
  client := rfl
  changes := fun _ => rfl
  exchange := rfl
  manifest := Option.some_ne_none _
  challengeRequest := rfl
  completeRequest := rfl
  challenge := Nat.lt_succ_self _
  device := Nat.le_refl _

/-- A calm run ends the transaction, so it is not refused for ever. -/
theorem not_refused_of_calm {cloudAddress : String} (haddress : ∀ state, w.files.state = some state →
    state.cloudAddress = cloudAddress) {s : World}
    (hrun : run c (calm c cloudAddress w.now) w = (.ok (), s)) :
    ¬ RefusedForEver c w := fun hrefused =>
  hrefused w (calm c cloudAddress w.now) .refl (calm_allowed cloudAddress w) (calm_undisturbed haddress) s
    hrun

/-- A run that cannot fail and cannot be killed returns. -/
theorem run_returns {P : World → Prop} {Q : Unit → World → Prop} {F : World → Prop}
    (h : Triple P (run c a) Q (fun _ => F) F) (hw : P w) (hF : ∀ s, ¬ F s) :
    ∃ s, run c a w = (.ok (), s) := by
  have hwp := h w hw
  unfold wp at hwp
  rcases hrun : run c a w with ⟨_ | _ | _, s⟩ <;> rw [hrun] at hwp
  · exact ⟨s, rfl⟩
  · exact absurd hwp (hF s)
  · exact absurd hwp (hF s)

/-- A transaction that has not lapsed can be completed, and so can one that has not begun. -/
theorem resumable_of_not_lapsed (h : Invariant c w) (hlapsed : ¬ Lapsed w)
    (hregistered : ¬ Registered w) : ¬ RefusedForEver c w := by
  obtain hstart | ⟨state, issued, done, hpending⟩ | hended := h
  · have haddress : ∀ state, w.files.state = some state → state.cloudAddress = "" :=
      fun state hstate => by
        rw [hstart.state] at hstate
        cases hstate
    obtain ⟨s, hrun⟩ := run_returns (c := c) (run_of_start (calm_allowed "" w)) hstart
      fun s hs => hs.2 (calm_undisturbed haddress)
    exact not_refused_of_calm haddress hrun
  · have haddress : ∀ state', w.files.state = some state' → state'.cloudAddress = state.cloudAddress :=
      fun state' hstate => by
        obtain rfl := Option.some.inj (hpending.file.symm.trans hstate)
        rfl
    have hundisturbed : Undisturbed (calm c state.cloudAddress w.now) w :=
      calm_undisturbed haddress
    -- no time passes, so what has not lapsed is not too old for this run
    have hlate : ¬ Late (calm c state.cloudAddress w.now) issued done := fun hlate =>
      hlapsed (hpending.lapsed_iff.mpr hlate)
    obtain ⟨s, hrun⟩ := run_returns
      (run_of_pending (calm_allowed state.cloudAddress w) hpending.file) hpending fun s hs => by
        obtain ⟨_, hdisturbed | hlate'⟩ | ⟨_, _, hdisturbed⟩ := hs
        · exact hdisturbed hundisturbed
        · exact hlate hlate'
        · exact hdisturbed hundisturbed
    exact not_refused_of_calm haddress hrun
  · obtain ⟨identity, hidentity, _⟩ := hended.identity
    exact absurd ⟨hended.state, fun hnone => by
      rw [hnone] at hidentity
      cases hidentity⟩ hregistered

/-! ## What holds in every reachable state -/

theorem Invariant.keysMatch (h : Invariant c w) {state : EnrollmentState}
    (hstate : w.files.state = some state) : KeysMatch c w.files state := by
  obtain hstart | ⟨state', issued, done, hpending⟩ | hended := h
  · rw [hstart.state] at hstate
    cases hstate
  · obtain rfl := Option.some.inj (hpending.file.symm.trans hstate)
    exact hpending.keys
  · rw [hended.state] at hstate
    cases hstate

theorem Invariant.sameTransaction {w' : World} (h : Invariant c w) {state state' : EnrollmentState}
    (hstate : w.files.state = some state) (hlater : Later c w w')
    (hstate' : w'.files.state = some state') : SameTransaction state state' := by
  obtain hstart | ⟨pending, issued, done, hpending⟩ | hended := h
  · rw [hstart.state] at hstate
    cases hstate
  · obtain rfl := Option.some.inj (hpending.file.symm.trans hstate)
    obtain ⟨next, _, _, hsame, hnext⟩ | hended := progress_of_later hpending hlater
    · obtain rfl := Option.some.inj (hnext.file.symm.trans hstate')
      exact hsame
    · rw [hended.state] at hstate'
      cases hstate'
  · rw [hended.state] at hstate
    cases hstate

theorem Invariant.oneDevice (h : Invariant c w) : w.cloud.completions.length ≤ 1 := by
  obtain hstart | ⟨state, issued, done, hpending⟩ | hended := h
  · rw [hstart.cloud]
    exact Nat.zero_le 1
  · rw [hpending.completions, List.length_map]
    cases done with
    | none => exact Nat.zero_le 1
    | some completed => exact Nat.le_refl 1
  · exact hended.oneDevice

theorem Invariant.belongsTo (h : Invariant c w) {identity : DeviceIdentity}
    (hidentity : w.files.identity = some identity) : BelongsTo c w.files identity := by
  obtain hstart | ⟨state, issued, done, hpending⟩ | hended := h
  · rw [hstart.identity] at hidentity
    cases hidentity
  · obtain ⟨completed, hdone, hinstalled, hdevice, hkey⟩ := hpending.identity identity hidentity
    exact belongsTo_of_installed hpending.keys (hpending.certified completed hdone) hinstalled hdevice
      hkey
  · obtain ⟨identity', hidentity', hbelongs⟩ := hended.identity
    obtain rfl := Option.some.inj (hidentity'.symm.trans hidentity)
    exact hbelongs

/-- What has lapsed is pending, so the enrollment is not over. -/
theorem Lapsed.not_registered (h : Lapsed w) : ¬ Registered w := by
  rintro ⟨hnone, _⟩
  obtain ⟨state, hstate, _⟩ := h
  rw [hnone] at hstate
  cases hstate

/-- In every state of every run from the first one on, the enrollment is sound exactly if the pending
transaction has not lapsed. -/
theorem sound_iff (hstart : Start w₀) (hlater : Later c w₀ w) : Sound c w ↔ ¬ Lapsed w := by
  have hinvariant : Invariant c w := invariant_of_later (.inl hstart) hlater
  constructor
  · exact fun hsound hlapsed =>
      hsound.resumable hlapsed.not_registered (refused_of_lapsed hinvariant hlapsed)
  · exact fun hlapsed =>
      { keys := fun _ hstate => hinvariant.keysMatch hstate
        requestIds := fun _ _ _ hstate hlater' hstate' =>
          hinvariant.sameTransaction hstate hlater' hstate'
        oneDevice := hinvariant.oneDevice
        identity := fun _ hidentity => hinvariant.belongsTo hidentity
        resumable := resumable_of_not_lapsed hinvariant hlapsed }

/-! ## A lost reply -/

/-- 43 characters, of which the last one stands for four bits. -/
def stands32 (value : String) : Bool :=
  value.toList.length = 43 && value.toList.getLast?.any "AEIMQUYcgkosw048".toList.contains

/-- Two key pairs, and the hashes of the installation `candy-0` with the name `device`. -/
def sampleCodec : Codec where
  verifyingKey key :=
    if key.seed = 0x2a2a2a2a2a2a2a2a2a2a2a2a2a2a2a2a2a2a2a2a2a2a2a2a2a2a2a2a2a2a2a2a then
      "GX9rI-FshTLGq8g4-s1ep4m-DHaykgM0A5v6iz02jWE"
    else if key.seed = 0x2b2b2b2b2b2b2b2b2b2b2b2b2b2b2b2b2b2b2b2b2b2b2b2b2b2b2b2b2b2b2b2b then
      "RQigeqlBcH8-stuUyIl6gLLBGXR2tt4hOsJz332GxP8"
    else ""
  metadataHash _ _ := "Mbx9RZvP5lnWPzZkpGX-PJT_L_14atKfUX-nwhG2Fz8"
  attestationHash _ := "9Xw3LjM6Xmt8gkthNmQ5JbAID2I069MlJYjODD2vpN8"
  decodesTo32 := stands32
  zeroNonce := "AAAAAAAAAAAAAAAAAAAAAAAAAAAAAAAAAAAAAAAAAAA"
  zeroNonce_valid := by decide

def freshWorld : World := ⟨⟨none, none, none, none, none, none, none, none, none⟩, ⟨[], []⟩, 0⟩

theorem freshWorld_start : Start freshWorld :=
  ⟨rfl, rfl, (fun _ h => by cases h), rfl⟩

/-- The completion does not reach Cloud, and the next run is `later` seconds away; the challenge lasts 300
of them. -/
def lostCompletion (later : ℕ) : Answers :=
  { calm sampleCodec "https://cloud.example" 0 with
    rootKey := ⟨0x2a2a2a2a2a2a2a2a2a2a2a2a2a2a2a2a2a2a2a2a2a2a2a2a2a2a2a2a2a2a2a2a⟩
    operationalKey := ⟨0x2b2b2b2b2b2b2b2b2b2b2b2b2b2b2b2b2b2b2b2b2b2b2b2b2b2b2b2b2b2b2b2b⟩
    challenge := ⟨"challenge", "organization", sampleCodec.zeroNonce, 300⟩
    completeRequest := .failed false
    checkedAt := later }

/-- After the lost completion. -/
def pendingWorld (later : ℕ) : World :=
  { (run sampleCodec (lostCompletion later) freshWorld).2 with now := later }

theorem pendingWorld_later (later : ℕ) : Later sampleCodec freshWorld (pendingWorld later) :=
  Relation.ReflTransGen.single ⟨lostCompletion later,
    ⟨Nat.le_refl 0, Nat.zero_le later, sampleCodec.zeroNonce_valid, emptyChain_valid⟩, rfl⟩

/-- One second before the challenge of a lost completion expires. -/
theorem sound_iff_pendingWorld :
    Sound sampleCodec (pendingWorld 299) ↔ ¬ Lapsed (pendingWorld 299) :=
  sound_iff freshWorld_start (pendingWorld_later 299)

/-- When it has expired every run is refused, as each of them uses the persisted challenge again. -/
theorem not_sound : ¬ ∀ c w₀ w, Start w₀ → Later c w₀ w → Sound c w := by
  intro h
  have hlater := pendingWorld_later 300
  have hlapsed : Lapsed (pendingWorld 300) := by
    refine ⟨_, rfl, .inl ⟨rfl, _, rfl, ?_⟩⟩
    decide
  exact (h sampleCodec freshWorld (pendingWorld 300) freshWorld_start hlater).resumable
    hlapsed.not_registered (refused_of_lapsed (invariant_of_later (.inl freshWorld_start) hlater) hlapsed)

end CandyRuntime.CloudEnroll
