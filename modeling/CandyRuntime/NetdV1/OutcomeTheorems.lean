import CandyRuntime.NetdV1.Runs
import Mathlib.Tactic.IntervalCases

/-!
# What the operations leave behind

One lemma for each operation of the network transaction, about the record it leaves when it
returns and when it fails, for a journal whose writes succeed and backend calls that succeed or
fail at will (`Calm`). Most operations that fail leave a record like the one they found
(`Similar`) or one that is being rolled back.

`cleanup_record` is the one worth a closer look: the record goes exactly when no failed call is
kept in it (`NothingKept`), and it returns exactly when no call failed (`AllSucceed`). The two
differ, since a failed `deactivate_link` is forgotten when its step bit was already clear.
-/

namespace CandyRuntime.NetdV1

open Lib Lib.Proc NetdProto

variable {step : UInt16} {c : BackendCall} {e : NetworkError}

/-- The fates of the calls after the next one. -/
def shift (b : ℕ → Fate) : ℕ → Fate := fun n => b (n + 1)

/-- The record is `m`, the backend calls to come have the fates `b`, no call is the last one,
and the journal works. -/
structure Calm (m : Option TransactionRecord) (b : ℕ → Fate)
    (w : NetworkTransaction TransactionRecord) : Prop where
  record : w.record = m
  backend : w.fates.backend = b
  alive : ∀ n, b n ≠ .crash
  journal : ∀ n, w.fates.journal n = .ok

/-- The program ends with a record that satisfies `Q`, or fails with one that satisfies `E`. -/
def Ends {α : Type} (m : Tx TransactionRecord α) (Q E : Option TransactionRecord → Prop)
    (w : NetworkTransaction TransactionRecord) : Prop :=
  wp m (fun _ w' => Q w'.record) (fun _ w' => E w'.record) (fun _ => False) w

section Rules

variable {k : Unit → Tx TransactionRecord α}
variable {α : Type} {m : Option TransactionRecord} {b : ℕ → Fate} {r r' : TransactionRecord}
  {w : NetworkTransaction TransactionRecord} {Q E : Option TransactionRecord → Prop}

theorem Ends.mono {p : Tx TransactionRecord α} {Q' E' : Option TransactionRecord → Prop}
    (h : Ends p Q E w) (hQ : ∀ m, Q m → Q' m) (hE : ∀ m, E m → E' m) : Ends p Q' E' w :=
  wp_mono h (fun _ _ hq => hQ _ hq) (fun _ _ he => hE _ he) (fun _ hc => hc)

/-! ## The rules -/

theorem calm_call (h : Calm m b w) (c : BackendCall) :
    wp (call c) (fun _ w' => b 0 = .ok ∧ Calm m (shift b) w')
      (fun _ w' => b 0 ≠ .ok ∧ Calm m (shift b) w') (fun _ => False) w := by
  have halive : ∀ n, shift b n ≠ .crash := fun n => h.alive (n + 1)
  rw [wp_call, h.backend]
  refine ⟨?_, ?_, ?_⟩
  · intro hok
    exact ⟨hok, h.record, rfl, halive, h.journal⟩
  · intro applied hfail
    exact ⟨by simp [hfail], h.record, rfl, halive, h.journal⟩
  · intro hcrash
    exact h.alive 0 hcrash

/-- A call does not change what the host's sysctls read. -/
theorem readings_call (w : NetworkTransaction TransactionRecord) (c : BackendCall) :
    wp (call c) (fun _ w' => w'.readings = w.readings) (fun _ _ => True) (fun _ => True) w := by
  rw [wp_call]
  exact ⟨fun _ => rfl, fun _ _ => trivial, fun _ => trivial⟩

theorem readings_replaceRecord (w : NetworkTransaction TransactionRecord) (r : TransactionRecord) :
    wp (replaceRecord exactFormat r) (fun _ w' => w'.readings = w.readings) (fun _ _ => True)
      (fun _ => True) w := by
  rw [replaceRecord, wp_bind, store]
  dsimp only [exactFormat]
  rw [wp_writeJournal]
  exact ⟨fun _ => rfl, fun _ => trivial, fun _ => trivial, fun _ => trivial⟩

theorem calm_writeJournal (h : Calm m b w) (content : Option TransactionRecord) :
    wp (writeJournal content) (fun _ => Calm m b) (fun _ _ => False) (fun _ => False) w := by
  have hok := h.journal 0
  rw [wp_writeJournal]
  refine ⟨fun _ => ?_, ?_, ?_, ?_⟩
  · exact ⟨h.record, h.backend, h.alive, fun n => h.journal (n + 1)⟩
  · simp [hok]
  · simp [hok]
  · simp [hok]

theorem calm_amend (h : Calm (some r) b w) (f : TransactionRecord → TransactionRecord) :
    wp (amend exactFormat f) (fun _ => Calm (some (f r)) b) (fun _ _ => False) (fun _ => False)
      w := by
  rw [amend, wp_bind, wp_current h.record, wp_bind, setRecord, wp_modify]
  have hw : Calm (some (f r)) b { w with record := some (f r) } :=
    ⟨rfl, h.backend, h.alive, h.journal⟩
  exact calm_writeJournal hw (some (f r))

theorem calm_replaceRecord (h : Calm m b w) (r : TransactionRecord) :
    wp (replaceRecord exactFormat r) (fun _ => Calm (some r) b) (fun _ _ => False)
      (fun _ => False) w := by
  rw [replaceRecord, wp_bind]
  refine wp_mono (calm_writeJournal h (some r)) ?_ (fun _ _ hf => hf) (fun _ hf => hf)
  intro _ w' hw'
  exact ⟨rfl, hw'.backend, hw'.alive, hw'.journal⟩

/-- A call in front of the rest, when it does not matter whether it succeeds. -/
theorem ends_call_bind (h : Calm m b w) (hE : E m)
    (hk : ∀ b' w', Calm m b' w' → Ends (k ()) Q E w') : Ends (call c >>= k) Q E w := by
  rw [Ends, wp_bind]
  refine wp_mono (calm_call h c) ?_ ?_ (fun _ hf => hf)
  · intro _ w' hw'
    exact hk (shift b) w' hw'.2
  · intro _ w' hw'
    rw [hw'.2.record]
    exact hE

theorem ends_call (h : Calm m b w) (hQ : Q m) (hE : E m) :
    Ends (call c) Q E w := by
  refine wp_mono (calm_call h c) ?_ ?_ (fun _ hf => hf)
  · intro _ w' hw'
    rwa [hw'.2.record]
  · intro _ w' hw'
    rwa [hw'.2.record]

theorem ends_amend_bind {f : TransactionRecord → TransactionRecord} (h : Calm (some r) b w)
    (hk : ∀ w', Calm (some (f r)) b w' → Ends (k ()) Q E w') :
    Ends (amend exactFormat f >>= k) Q E w := by
  rw [Ends, wp_bind]
  exact wp_mono (calm_amend h f) (fun _ w' hw' => hk w' hw') (fun _ _ hf => hf.elim)
    (fun _ hf => hf)

theorem ends_amend {f : TransactionRecord → TransactionRecord} (h : Calm (some r) b w)
    (hQ : Q (some (f r))) : Ends (amend exactFormat f) Q E w := by
  refine wp_mono (calm_amend h f) ?_ (fun _ _ hf => hf.elim) (fun _ hf => hf)
  intro _ w' hw'
  rwa [hw'.record]

theorem ends_replaceRecord (h : Calm m b w) (hQ : Q (some r)) :
    Ends (replaceRecord exactFormat r) Q E w := by
  refine wp_mono (calm_replaceRecord h r) ?_ (fun _ _ hf => hf.elim) (fun _ hf => hf)
  intro _ w' hw'
  rwa [hw'.record]

theorem ends_current_bind {k : TransactionRecord → Tx TransactionRecord α}
    (h : w.record = some r) (hk : Ends (k r) Q E w) : Ends (current >>= k) Q E w := by
  rwa [Ends, wp_bind, wp_current h]

theorem ends_lift_bind {γ : Type} {e : Except NetworkError γ} {k : γ → Tx TransactionRecord α}
    (hE : E w.record) (hk : ∀ a, e = .ok a → Ends (k a) Q E w) : Ends (lift e >>= k) Q E w := by
  rw [Ends, wp_bind, wp_lift]
  exact ⟨fun a ha => hk a ha, fun _ _ => hE⟩

theorem ends_ensure_bind {c : Prop} [Decidable c] (hE : E w.record) (hk : c → Ends (k ()) Q E w) :
    Ends (ensure c e >>= k) Q E w := by
  rw [Ends, wp_bind, wp_ensure]
  exact ⟨fun hc => hk hc, fun _ => hE⟩

theorem ends_okOr_bind {γ : Type} {o : Option γ} {k : γ → Tx TransactionRecord α}
    (hE : E w.record) (hk : ∀ a, o = some a → Ends (k a) Q E w) :
    Ends (okOr o e >>= k) Q E w := by
  rw [Ends, wp_bind, wp_okOr]
  exact ⟨fun a ha => hk a ha, fun _ => hE⟩

theorem ends_ite {c : Prop} [Decidable c] {p q : Tx TransactionRecord α}
    (hp : c → Ends p Q E w) (hq : ¬ c → Ends q Q E w) : Ends (if c then p else q) Q E w := by
  rw [Ends, wp_ite]
  exact ⟨hp, hq⟩

theorem ends_when_bind {c : Prop} [Decidable c] {call' : BackendCall} (h : Calm m b w) (hE : E m)
    (hk : ∀ b' w', Calm m b' w' → Ends (k ()) Q E w') :
    Ends (when c (call call') >>= k) Q E w := by
  rw [Ends, wp_bind, wp_when]
  refine ⟨fun _ => ?_, fun _ => hk b w h⟩
  have hbind := ends_call_bind (c := call') h hE hk
  rwa [Ends, wp_bind] at hbind

/-- A call whose error is dropped. -/
theorem ends_ignore_bind {p : Tx TransactionRecord Unit}
    (hp : wp p (fun _ w' => ∃ b', Calm m b' w') (fun _ w' => ∃ b', Calm m b' w') (fun _ => False) w)
    (hk : ∀ b' w', Calm m b' w' → Ends (k ()) Q E w') : Ends (ignore p >>= k) Q E w := by
  rw [Ends, wp_bind, wp_ignore]
  refine wp_mono hp ?_ ?_ (fun _ hf => hf)
  · rintro _ w' ⟨b', hw'⟩
    exact hk b' w' hw'
  · rintro _ w' ⟨b', hw'⟩
    exact hk b' w' hw'

/-- A call whose error is only remembered. -/
theorem ends_errorOf_bind {p : Tx TransactionRecord Unit}
    {k : Option NetworkError → Tx TransactionRecord α}
    (hp : wp p (fun _ w' => ∃ b', Calm m b' w') (fun _ w' => ∃ b', Calm m b' w') (fun _ => False) w)
    (hk : ∀ e b' w', Calm m b' w' → Ends (k e) Q E w') : Ends (errorOf p >>= k) Q E w := by
  rw [Ends, wp_bind, wp_errorOf]
  refine wp_mono hp ?_ ?_ (fun _ hf => hf)
  · rintro _ w' ⟨b', hw'⟩
    exact hk none b' w' hw'
  · rintro e w' ⟨b', hw'⟩
    exact hk (some e) b' w' hw'

theorem calm_call_any (h : Calm m b w) (c : BackendCall) :
    wp (call c) (fun _ w' => ∃ b', Calm m b' w') (fun _ w' => ∃ b', Calm m b' w')
      (fun _ => False) w :=
  wp_mono (calm_call h c) (fun _ _ hw' => ⟨_, hw'.2⟩) (fun _ _ hw' => ⟨_, hw'.2⟩) (fun _ hf => hf)

/-- The program returns with `R`, or fails with the record it started with. -/
def Attempts (m : Option TransactionRecord) (p : Tx TransactionRecord α)
    (R : Option TransactionRecord → Prop) (w : NetworkTransaction TransactionRecord) : Prop :=
  wp p (fun _ w' => R w'.record) (fun _ w' => ∃ b', Calm m b' w') (fun _ => False) w

theorem attempts_call_bind {R : Option TransactionRecord → Prop} (h : Calm m b w)
    (hk : ∀ b' w', Calm m b' w' → Attempts m (k ()) R w') :
    Attempts m (call c >>= k) R w := by
  rw [Attempts, wp_bind]
  exact wp_mono (calm_call h c) (fun _ w' hw' => hk _ w' hw'.2) (fun _ _ hw' => ⟨_, hw'.2⟩)
    (fun _ hf => hf)

theorem attempts_replaceRecord {R : Option TransactionRecord → Prop} (h : Calm m b w)
    (hR : R (some r)) : Attempts m (replaceRecord exactFormat r) R w := by
  refine wp_mono (calm_replaceRecord h r) ?_ (fun _ _ hf => hf.elim) (fun _ hf => hf)
  intro _ w' hw'
  rwa [hw'.record]

theorem ends_handle {p : Tx TransactionRecord α} {k : NetworkError → Tx TransactionRecord α}
    (hp : Attempts m p Q w) (hk : ∀ e b' w', Calm m b' w' → Ends (k e) Q E w') :
    Ends (handle p k) Q E w := by
  rw [Ends, wp_handle]
  refine wp_mono hp (fun _ _ hq => hq) ?_ (fun _ hf => hf)
  rintro e w' ⟨b', hw'⟩
  exact hk e b' w' hw'

theorem calm_when_any {c : Prop} [Decidable c] (h : Calm m b w) (call' : BackendCall) :
    wp (when c (call call')) (fun _ w' => ∃ b', Calm m b' w') (fun _ w' => ∃ b', Calm m b' w')
      (fun _ => False) w := by
  rw [wp_when]
  exact ⟨fun _ => calm_call_any h call', fun _ => ⟨b, h⟩⟩

end Rules

/-! ## The clean-up -/

/-- The steps in the order in which they are undone. -/
def allSteps : List UInt16 :=
  [stepPolicyRule, stepLinkActive, stepSysctls, stepFirewall, stepRoutes, stepLink]

/-- Only known step bits are set. -/
def Known (r : TransactionRecord) : Prop := r.completedSteps &&& ~~~ 0x3f = 0

theorem stepDone_clear_other {s step t : UInt16} (hs : s ∈ allSteps) (ht : t ∈ allSteps)
    (hne : s ≠ t) : stepDone (step &&& ~~~ t) s = stepDone step s := by
  have hall : (allSteps.all fun s => allSteps.all fun t =>
      decide (s ≠ t → ~~~ t &&& s = s)) = true := by
    decide
  have hs := List.all_eq_true.mp hall s hs
  have ht := List.all_eq_true.mp hs t ht
  exact stepDone_clear (of_decide_eq_true ht hne)

theorem known_and {r : TransactionRecord} (h : Known r) (mask : UInt16) :
    Known { r with completedSteps := r.completedSteps &&& mask } := by
  unfold Known at *
  dsimp only
  rw [UInt16.and_assoc, UInt16.and_comm mask, ← UInt16.and_assoc, h, UInt16.zero_and]

theorem known_or {r : TransactionRecord} (h : Known r) (hstep : step ∈ allSteps) :
    Known { r with completedSteps := r.completedSteps ||| step } := by
  have hall : (allSteps.all fun step => decide (step &&& ~~~ 0x3f = 0)) = true := by decide
  have hmask := of_decide_eq_true (List.all_eq_true.mp hall step hstep)
  have hdistrib : (r.completedSteps ||| step) &&& ~~~ 0x3f
      = (r.completedSteps &&& ~~~ 0x3f) ||| (step &&& ~~~ 0x3f) := by
    apply UInt16.toBitVec_inj.1
    ext i
    simp [Bool.and_or_distrib_right]
  unfold Known at *
  dsimp only
  rw [hdistrib, h, hmask, UInt16.zero_or]

theorem stepDone_or_right (steps s t : UInt16) :
    stepDone steps (s ||| t) = (stepDone steps s || stepDone steps t) := by
  have hcomm : ∀ a b : UInt16, stepDone a b = stepDone b a := by
    intro a b
    rw [stepDone, stepDone, UInt16.and_comm]
  rw [hcomm, stepDone_or, hcomm s, hcomm t]

/-- A record with none of the known steps has no step at all. -/
theorem completedSteps_eq_zero {r : TransactionRecord} (hknown : Known r)
    (h : ∀ s ∈ allSteps, stepDone r.completedSteps s = false) : r.completedSteps = 0 := by
  have hall : stepDone r.completedSteps (stepPolicyRule ||| (stepLinkActive ||| (stepSysctls
      ||| (stepFirewall ||| (stepRoutes ||| stepLink))))) = false := by
    simp only [stepDone_or_right, Bool.or_eq_false_iff]
    exact ⟨h _ (by decide), h _ (by decide), h _ (by decide), h _ (by decide), h _ (by decide),
      h _ (by decide)⟩
  have hmask : stepPolicyRule ||| (stepLinkActive ||| (stepSysctls ||| (stepFirewall
      ||| (stepRoutes ||| stepLink)))) = 0x3f := by
    decide
  have hlow : r.completedSteps &&& 0x3f = 0 := by simpa [hmask, stepDone] using hall
  have hsplit : ∀ mask : UInt16, r.completedSteps
      = (r.completedSteps &&& mask) ||| (r.completedSteps &&& ~~~ mask) := by
    intro mask
    apply UInt16.toBitVec_inj.1
    ext i
    simp only [UInt16.toBitVec_or, UInt16.toBitVec_and, UInt16.toBitVec_not, BitVec.getElem_or,
      BitVec.getElem_and, BitVec.getElem_not, ← Bool.and_or_distrib_left, Bool.or_not_self,
      Bool.and_true]
  rw [hsplit 0x3f, hlow, hknown]
  rfl

/-- The fates from the `k`-th call on. -/
def later (k : ℕ) (b : ℕ → Fate) : ℕ → Fate := fun n => b (k + n)

theorem shift_later (k : ℕ) (b : ℕ → Fate) : shift (later k b) = later (k + 1) b := by
  funext n
  rw [shift, later, later, Nat.add_assoc, Nat.add_comm 1]

/-- Whether a failure of the call that undoes `step` is kept in the record. -/
def keptBy (r : TransactionRecord) (needed : Bool) (step : UInt16) : List Bool :=
  if needed then [stepDone r.completedSteps step] else []

/-- The calls of the clean-up of a record, in order, with whether a failure is kept. It is not
when the link was prepared and its `STEP_LINK_ACTIVE` is clear: `deactivate_link` is called for
both bits and clears only the second. -/
def cleanupCalls (r : TransactionRecord) : List Bool :=
  (if r.recoveryCandidate.isSome then [true, true] else [])
    ++ keptBy r (stepDone r.completedSteps stepPolicyRule) stepPolicyRule
    ++ keptBy r (stepDone r.completedSteps (stepLink ||| stepLinkActive)) stepLinkActive
    ++ keptBy r (stepDone r.completedSteps stepSysctls) stepSysctls
    ++ keptBy r (stepDone r.completedSteps stepFirewall) stepFirewall
    ++ keptBy r (stepDone r.completedSteps stepRoutes) stepRoutes
    ++ keptBy r (stepDone r.completedSteps stepLink) stepLink

/-- Every one of the calls succeeds. -/
def AllSucceed (b : ℕ → Fate) (calls : List Bool) : Prop := ∀ n < calls.length, b n = .ok

/-- Every call whose failure is kept succeeds. -/
def NothingKept (b : ℕ → Fate) (calls : List Bool) : Prop :=
  ∀ n, calls[n]? = some true → b n = .ok

theorem allSucceed_append {b : ℕ → Fate} {calls : List Bool} {kept : Bool} :
    AllSucceed b (calls ++ [kept]) ↔ AllSucceed b calls ∧ b calls.length = .ok := by
  unfold AllSucceed
  rw [List.length_append, List.length_singleton]
  constructor
  · intro h
    exact ⟨fun n hn => h n (by omega), h _ (by omega)⟩
  · intro h n hn
    rcases Nat.lt_succ_iff_lt_or_eq.mp hn with hlt | rfl
    · exact h.1 n hlt
    · exact h.2

theorem nothingKept_append {b : ℕ → Fate} {calls : List Bool} {kept : Bool} :
    NothingKept b (calls ++ [kept])
      ↔ NothingKept b calls ∧ (kept = true → b calls.length = .ok) := by
  unfold NothingKept
  constructor
  · intro h
    refine ⟨fun n hn => h n ?_, fun hkept => h _ ?_⟩
    · rw [List.getElem?_append_left (List.getElem?_eq_some_iff.mp hn).1, hn]
    · simp [hkept]
  · intro h n hn
    by_cases hlt : n < calls.length
    · rw [List.getElem?_append_left hlt] at hn
      exact h.1 n hn
    · rw [List.getElem?_append_right (by omega), List.getElem?_singleton] at hn
      split at hn
      · rename_i hzero
        have heq : n = calls.length := by omega
        rw [heq]
        exact h.2 (by simpa using hn)
      · simp at hn

theorem nothingKept_of_allSucceed {b : ℕ → Fate} {calls : List Bool} (h : AllSucceed b calls) :
    NothingKept b calls :=
  fun n hn => h n (List.getElem?_eq_some_iff.mp hn).1

/-- The state of the clean-up of `origin` after the `calls` that undo the steps `undone`: what
is left of them is what a failure has kept, and the error is that of the first failure. -/
structure Undoing (origin : TransactionRecord) (b : ℕ → Fate) (calls : List Bool)
    (undone : List UInt16) (first : Option NetworkError) (x : TransactionRecord) : Prop where
  phase : x.phase = .rollingBack
  known : Known x
  steps : ∀ s ∈ undone, s ∈ allSteps
  rest : ∀ s ∈ allSteps, s ∉ undone → stepDone x.completedSteps s = stepDone origin.completedSteps s
  left : x.recoveryCandidate = none ∧ (∀ s ∈ undone, stepDone x.completedSteps s = false)
    ↔ NothingKept b calls
  error : first = none ↔ AllSucceed b calls

section Cleanup

variable {b : ℕ → Fate} {origin x : TransactionRecord} {calls : List Bool} {undone : List UInt16}
  {first : Option NetworkError} {w : NetworkTransaction TransactionRecord}

theorem Undoing.steps_cons (h : Undoing origin b calls undone first x) (hstep : step ∈ allSteps) :
    ∀ s ∈ step :: undone, s ∈ allSteps := by
  intro s hs
  rcases List.mem_cons.mp hs with rfl | hs
  · exact hstep
  · exact h.steps s hs

/-- A step that was not done needs no call. -/
theorem Undoing.skip (h : Undoing origin b calls undone first x) (hstep : step ∈ allSteps)
    (hclear : stepDone x.completedSteps step = false) :
    Undoing origin b calls (step :: undone) first x := by
  refine ⟨h.phase, h.known, h.steps_cons hstep, ?_, ?_, h.error⟩
  · intro s hs hnot
    exact h.rest s hs (fun hmem => hnot (List.mem_cons_of_mem step hmem))
  · rw [← h.left, List.forall_mem_cons]
    exact ⟨fun hx => ⟨hx.1, hx.2.2⟩, fun hx => ⟨hx.1, hclear, hx.2⟩⟩

/-- A step that is taken back loses its bit; the bits of the others stay. -/
theorem Undoing.undo (h : Undoing origin b calls undone first x) (hstep : step ∈ allSteps)
    (hfresh : step ∉ undone) (hok : b calls.length = .ok) (kept : Bool) :
    Undoing origin b (calls ++ [kept]) (step :: undone) first
      { x with completedSteps := x.completedSteps &&& ~~~ step } := by
  have hother : ∀ s ∈ allSteps, s ≠ step →
      stepDone (x.completedSteps &&& ~~~ step) s = stepDone x.completedSteps s :=
    fun s hs hne => stepDone_clear_other hs hstep hne
  have hundone : ∀ s ∈ undone,
      stepDone (x.completedSteps &&& ~~~ step) s = stepDone x.completedSteps s := by
    intro s hs
    exact hother s (h.steps s hs) fun heq => hfresh (heq ▸ hs)
  refine ⟨h.phase, known_and h.known _, h.steps_cons hstep, ?_, ?_, ?_⟩
  · intro s hs hnot
    have hs' : s ≠ step := fun heq => hnot (heq ▸ List.mem_cons_self)
    exact (hother s hs hs').trans (h.rest s hs fun hmem => hnot (List.mem_cons_of_mem step hmem))
  · rw [nothingKept_append, ← h.left, List.forall_mem_cons]
    constructor
    · intro hx
      exact ⟨⟨hx.1, fun s hs => (hundone s hs).symm.trans (hx.2.2 s hs)⟩, fun _ => hok⟩
    · intro hx
      exact ⟨hx.1.1, stepDone_clear_self _ _, fun s hs => (hundone s hs).trans (hx.1.2 s hs)⟩
  · rw [allSucceed_append, ← h.error]
    exact ⟨fun hnone => ⟨hnone, hok⟩, fun hnone => hnone.1⟩

/-- A step that could not be taken back keeps its bit, if it had one. -/
theorem Undoing.fail (h : Undoing origin b calls undone first x) (hstep : step ∈ allSteps)
    (hfresh : step ∉ undone) (hfail : b calls.length ≠ .ok) :
    Undoing origin b (calls ++ [stepDone origin.completedSteps step]) (step :: undone)
      (first <|> some e) x := by
  have hbit := h.rest step hstep hfresh
  refine ⟨h.phase, h.known, h.steps_cons hstep, ?_, ?_, ?_⟩
  · intro s hs hnot
    exact h.rest s hs (fun hmem => hnot (List.mem_cons_of_mem step hmem))
  · rw [nothingKept_append, ← h.left, List.forall_mem_cons, hbit]
    constructor
    · intro hx
      exact ⟨⟨hx.1, hx.2.2⟩, fun hset => by simp [hx.2.1] at hset⟩
    · intro hx
      exact ⟨hx.1.1, by simpa using fun hset => hfail (hx.2 hset), hx.1.2⟩
  · rw [allSucceed_append]
    constructor
    · intro hnone
      cases first <;> simp at hnone
    · intro hok
      exact absurd hok.2 hfail

/-- One step of the clean-up. -/
theorem undoing_cleanupStep {needed : Bool} (h : Undoing origin b calls undone first x)
    (hw : Calm (some x) (later calls.length b) w) (hstep : step ∈ allSteps)
    (hfresh : step ∉ undone)
    (hneeded : needed = false → stepDone origin.completedSteps step = false) :
    wp (cleanupStep exactFormat needed c step first)
      (fun first' w' => ∃ x', Undoing origin b (calls ++ keptBy origin needed step)
          (step :: undone) first' x'
        ∧ Calm (some x') (later (calls ++ keptBy origin needed step).length b) w')
      (fun _ _ => False) (fun _ => False) w := by
  unfold cleanupStep
  cases needed with
  | false =>
    have hclear := (h.rest step hstep hfresh).trans (hneeded rfl)
    have hnil : calls ++ keptBy origin false step = calls := List.append_nil calls
    rw [hnil]
    exact ⟨x, h.skip hstep hclear, hw⟩
  | true =>
    have hlen : (calls ++ keptBy origin true step).length = calls.length + 1 := by simp [keptBy]
    rw [hlen, ← shift_later, if_pos rfl, wp_bind, wp_errorOf, wp_bind]
    refine wp_mono (calm_call hw c) ?_ ?_ (fun _ hf => hf)
    · rintro _ w₁ ⟨hok, hw₁⟩
      refine wp_mono (calm_amend hw₁ _) ?_ (fun _ _ hf => hf.elim) (fun _ hf => hf)
      intro _ w₂ hw₂
      rw [wp_pure]
      have hfirst : (first <|> none) = first := by cases first <;> rfl
      exact ⟨_, hfirst.symm ▸ h.undo hstep hfresh hok _, hw₂⟩
    · rintro e w₁ ⟨hnot, hw₁⟩
      rw [wp_pure]
      exact ⟨x, h.fail hstep hfresh hnot, hw₁⟩

/-- What `cleanup_candidate` does after the firewall of the candidate. -/
def afterFirewall (c : PrepareDeclaration) (firewall : Option NetworkError) :
    Tx TransactionRecord (Option NetworkError) := do
  let routes ← errorOf (call (.removeRoutes c))
  match firewall <|> routes with
  | some e => return some e
  | none => errorOf (amend exactFormat fun record =>
      { record with recoveryCandidate := none, recoveryCandidateOwner := none })

/-- The candidate's part of the clean-up. -/
theorem undoing_cleanupCandidate (hphase : origin.phase = .rollingBack) (hknown : Known origin)
    (hw : Calm (some origin) b w) :
    wp (cleanupCandidate exactFormat origin.recoveryCandidate)
      (fun first w' => ∃ x, Undoing origin b
          (if origin.recoveryCandidate.isSome then [true, true] else []) [] first x
        ∧ Calm (some x)
          (later (if origin.recoveryCandidate.isSome then [true, true] else []).length b) w')
      (fun _ _ => False) (fun _ => False) w := by
  cases hc : origin.recoveryCandidate with
  | none =>
    have hlater : later 0 b = b := by
      funext n
      rw [later, Nat.zero_add]
    refine ⟨origin, ⟨hphase, hknown, by simp, fun _ _ _ => rfl, ?_, ?_⟩, ?_⟩
    · simp [hc, NothingKept]
    · simp [AllSucceed]
    · simpa [hlater] using hw
  | some c =>
    have hlater : later 2 b = shift (shift b) := by
      funext n
      rw [later, shift, shift, Nat.add_comm 2]
    have htwo : ∀ {P : Prop}, (P ↔ b 0 = .ok ∧ b 1 = .ok) →
        (P ↔ NothingKept b [true, true]) ∧ (P ↔ AllSucceed b [true, true]) := by
      intro P hP
      have hkept : NothingKept b [true, true] ↔ b 0 = .ok ∧ b 1 = .ok := by
        rw [← List.singleton_append, nothingKept_append, ← List.nil_append [true],
          nothingKept_append]
        simp [NothingKept]
      have hall : AllSucceed b [true, true] ↔ b 0 = .ok ∧ b 1 = .ok := by
        rw [← List.singleton_append, allSucceed_append, ← List.nil_append [true],
          allSucceed_append]
        simp [AllSucceed]
      exact ⟨hP.trans hkept.symm, hP.trans hall.symm⟩
    -- with a failure the candidate stays, and the error is there
    have hfailed : ∀ (e : NetworkError), ¬ (b 0 = .ok ∧ b 1 = .ok) →
        Undoing origin b [true, true] [] (some e) origin := by
      intro e hnot
      refine ⟨hphase, hknown, by simp, fun _ _ _ => rfl, ?_, ?_⟩
      · exact (htwo (by simpa [hc] using hnot)).1
      · exact (htwo (by simpa using hnot)).2
    rw [Option.isSome_some, if_pos rfl, List.length_cons, List.length_singleton, hlater]
    unfold cleanupCandidate
    rw [wp_bind, wp_errorOf]
    -- the second call is made whatever the first did, and the candidate goes only with both
    have hsecond : ∀ (firewall : Option NetworkError) w₁, (firewall = none ↔ b 0 = .ok) →
        Calm (some origin) (shift b) w₁ →
        wp (afterFirewall c firewall)
        (fun first w' => ∃ x, Undoing origin b [true, true] [] first x
          ∧ Calm (some x) (shift (shift b)) w') (fun _ _ => False) (fun _ => False) w₁ := by
      intro firewall w₁ hfirst hw₁
      unfold afterFirewall
      rw [wp_bind, wp_errorOf]
      refine wp_mono (calm_call hw₁ _) ?_ ?_ (fun _ hf => hf)
      · rintro _ w₂ ⟨h1, hw₂⟩
        cases firewall with
        | some e => exact ⟨origin, hfailed e (by simpa using fun h0 _ => by simp [h0] at hfirst), hw₂⟩
        | none =>
          have hboth : b 0 = .ok ∧ b 1 = .ok := ⟨hfirst.mp rfl, h1⟩
          change wp (errorOf (amend exactFormat _)) _ _ _ w₂
          rw [wp_errorOf]
          refine wp_mono (calm_amend hw₂ _) ?_ (fun _ _ hf => hf.elim) (fun _ hf => hf)
          intro _ w₃ hw₃
          refine ⟨_, ?_, hw₃⟩
          refine ⟨hphase, hknown, by simp, fun _ _ _ => rfl, ?_, ?_⟩
          · exact (htwo (by simpa using hboth)).1
          · exact (htwo (by simpa using hboth)).2
      · rintro e w₂ ⟨h1, hw₂⟩
        have hnot : ¬ (b 0 = .ok ∧ b 1 = .ok) := fun hboth => h1 hboth.2
        cases firewall with
        | some e' => exact ⟨origin, hfailed e' hnot, hw₂⟩
        | none => exact ⟨origin, hfailed e hnot, hw₂⟩
    refine wp_mono (calm_call hw _) ?_ ?_ (fun _ hf => hf)
    · rintro _ w₁ ⟨h0, hw₁⟩
      exact hsecond none w₁ (by simpa using h0) hw₁
    · rintro e w₁ ⟨h0, hw₁⟩
      exact hsecond (some e) w₁ (by simpa using h0) hw₁

/-- A record that is being rolled back. -/
def RollingBack (m : Option TransactionRecord) : Prop :=
  ∃ r, m = some r ∧ r.phase = .rollingBack ∧ Known r

/-- What the clean-up leaves: nothing, unless a failure was kept. -/
def CleanedUp (b : ℕ → Fate) (calls : List Bool) (m : Option TransactionRecord) : Prop :=
  (NothingKept b calls ∧ m = none) ∨ (¬ NothingKept b calls ∧ RollingBack m)

theorem CleanedUp.none_or_rollingBack {m : Option TransactionRecord} (h : CleanedUp b calls m) :
    m = none ∨ RollingBack m := by
  rcases h with ⟨-, hnone⟩ | ⟨-, hrolling⟩
  · exact Or.inl hnone
  · exact Or.inr hrolling

theorem ends_cleanupFinish (h : Undoing origin b calls allSteps.reverse first x)
    {b' : ℕ → Fate} (hw : Calm (some x) b' w) :
    wp (cleanupFinish first)
      (fun first' w' => (first' = none ↔ AllSucceed b calls) ∧ CleanedUp b calls w'.record)
      (fun _ _ => False) (fun _ => False) w := by
  have hleft : x.completedSteps = 0 ∧ x.recoveryCandidate = none ↔ NothingKept b calls := by
    rw [← h.left]
    constructor
    · intro hempty
      exact ⟨hempty.2, fun s _ => by simp [hempty.1, stepDone]⟩
    · intro hclear
      refine ⟨completedSteps_eq_zero h.known fun s hs => ?_, hclear.1⟩
      exact hclear.2 s (List.mem_reverse.mpr hs)
  rw [cleanupFinish, wp_bind, wp_get, hw.record]
  dsimp only
  rw [wp_ite]
  refine ⟨fun hempty => ?_, fun hnot => ?_⟩
  · rw [wp_bind, wp_errorOf, wp_bind]
    refine wp_mono (calm_writeJournal hw none) ?_ (fun _ _ hf => hf.elim) (fun _ hf => hf)
    intro _ w₁ _
    rw [setRecord, wp_modify, wp_pure]
    have hfirst : (first <|> none) = first := by cases first <;> rfl
    exact ⟨hfirst.symm ▸ h.error, Or.inl ⟨hleft.mp hempty, rfl⟩⟩
  · rw [wp_pure]
    have hkept : ¬ NothingKept b calls := fun hnone => hnot (hleft.mpr hnone)
    exact ⟨h.error, Or.inr ⟨hkept, x, hw.record, h.phase, h.known⟩⟩

/-- The clean-up returns when every call succeeded. The record is gone when no failure was kept,
which is not the same. -/
theorem ends_cleanupRecord {r : TransactionRecord} (hknown : Known r) (hw : Calm (some r) b w) :
    Ends (cleanupRecord exactFormat) (fun m => AllSucceed b (cleanupCalls r) ∧ m = none)
      (fun m => ¬ AllSucceed b (cleanupCalls r) ∧ CleanedUp b (cleanupCalls r) m) w := by
  unfold cleanupRecord
  refine ends_amend_bind hw fun w₁ hw₁ => ?_
  refine ends_current_bind hw₁.record ?_
  have horigin : Known { r with phase := .rollingBack } := hknown
  dsimp only
  have hcandidate := undoing_cleanupCandidate rfl horigin hw₁
  rw [Ends, wp_bind]
  refine wp_mono hcandidate ?_ (fun _ _ hf => hf.elim) (fun _ hf => hf)
  rintro first₁ w₂ ⟨x₁, hx₁, hw₂⟩
  rw [wp_bind]
  refine wp_mono (undoing_cleanupStep hx₁ hw₂ (by decide) (by simp) id) ?_
    (fun _ _ hf => hf.elim) (fun _ hf => hf)
  rintro first₂ w₃ ⟨x₂, hx₂, hw₃⟩
  rw [wp_bind]
  refine wp_mono (undoing_cleanupStep hx₂ hw₃ (by decide) (by decide) ?_) ?_
    (fun _ _ hf => hf.elim) (fun _ hf => hf)
  · intro hneeded
    rw [stepDone_or_right, Bool.or_eq_false_iff] at hneeded
    exact hneeded.2
  rintro first₃ w₄ ⟨x₃, hx₃, hw₄⟩
  rw [wp_bind]
  refine wp_mono (undoing_cleanupStep hx₃ hw₄ (by decide) (by decide) id) ?_
    (fun _ _ hf => hf.elim) (fun _ hf => hf)
  rintro first₄ w₅ ⟨x₄, hx₄, hw₅⟩
  rw [wp_bind]
  refine wp_mono (undoing_cleanupStep hx₄ hw₅ (by decide) (by decide) id) ?_
    (fun _ _ hf => hf.elim) (fun _ hf => hf)
  rintro first₅ w₆ ⟨x₅, hx₅, hw₆⟩
  rw [wp_bind]
  refine wp_mono (undoing_cleanupStep hx₅ hw₆ (by decide) (by decide) id) ?_
    (fun _ _ hf => hf.elim) (fun _ hf => hf)
  rintro first₆ w₇ ⟨x₆, hx₆, hw₇⟩
  rw [wp_bind]
  refine wp_mono (undoing_cleanupStep hx₆ hw₇ (by decide) (by decide) id) ?_
    (fun _ _ hf => hf.elim) (fun _ hf => hf)
  rintro first₇ w₈ ⟨x₇, hx₇, hw₈⟩
  rw [wp_bind]
  refine wp_mono (ends_cleanupFinish hx₇ hw₈) ?_ (fun _ _ hf => hf.elim) (fun _ hf => hf)
  rintro first w₉ ⟨herror, hend⟩
  change (first = none ↔ AllSucceed b (cleanupCalls r)) at herror
  change CleanedUp b (cleanupCalls r) w₉.record at hend
  cases first with
  | none =>
    have hall := herror.mp rfl
    refine ⟨hall, ?_⟩
    rcases hend with ⟨-, hnone⟩ | ⟨hkept, -⟩
    · exact hnone
    · exact absurd (nothingKept_of_allSucceed hall) hkept
  | some e =>
    have hfailed : ¬ AllSucceed b (cleanupCalls r) := fun hall => by
      have hnone := herror.mpr hall
      simp at hnone
    exact ⟨hfailed, hend⟩

end Cleanup

/-! ## The operations -/

/-- The same record as far as owners, declarations, phase and steps go. -/
structure Similar (r r' : TransactionRecord) : Prop where
  owner : r'.owner = r.owner
  declaration : r'.declaration = r.declaration
  phase : r'.phase = r.phase
  candidate : r'.recoveryCandidate = r.recoveryCandidate
  candidateOwner : r'.recoveryCandidateOwner = r.recoveryCandidateOwner
  steps : r'.completedSteps = r.completedSteps

theorem Similar.refl (r : TransactionRecord) : Similar r r := ⟨rfl, rfl, rfl, rfl, rfl, rfl⟩

/-- What an operation that fails leaves. -/
def Left (r : TransactionRecord) (m : Option TransactionRecord) : Prop :=
  RollingBack m ∨ ∃ r', m = some r' ∧ Similar r r'

theorem left_self (r : TransactionRecord) : Left r (some r) := Or.inr ⟨r, rfl, Similar.refl r⟩

section Operations

variable {b : ℕ → Fate} {r : TransactionRecord} {w : NetworkTransaction TransactionRecord}
  {owner : LeaseOwner} {declaration : PrepareDeclaration}

/-- The record `prepare` leaves. -/
def PreparedFor (owner : LeaseOwner) (declaration : PrepareDeclaration)
    (m : Option TransactionRecord) : Prop :=
  ∃ r, m = some r ∧ r.phase = .prepared ∧ r.owner = owner ∧ r.declaration = declaration
    ∧ r.recoveryCandidate = none ∧ r.recoveryCandidateOwner = none ∧ Known r

/-- The six backend calls of `prepare` succeed, and its sysctls can be read. -/
def PrepareSucceeds (declaration : PrepareDeclaration) (b : ℕ → Fate)
    (readings : SysctlKey → Option (Fin 3)) : Prop :=
  (∀ n < 6, b n = .ok) ∧ ∃ sysctls, snapshotSysctls readings declaration = .ok sysctls

/-- The record while it is prepared. -/
structure Preparation (owner : LeaseOwner) (declaration : PrepareDeclaration)
    (r : TransactionRecord) : Prop where
  owner : r.owner = owner
  declaration : r.declaration = declaration
  candidate : r.recoveryCandidate = none
  candidateOwner : r.recoveryCandidateOwner = none
  known : Known r

theorem Preparation.complete (h : Preparation owner declaration r) (hstep : step ∈ allSteps) :
    Preparation owner declaration { r with completedSteps := r.completedSteps ||| step } :=
  ⟨h.owner, h.declaration, h.candidate, h.candidateOwner, known_or h.known hstep⟩

theorem Preparation.withSysctls (h : Preparation owner declaration r)
    (sysctls : List SysctlChange) : Preparation owner declaration { r with sysctls } :=
  ⟨h.owner, h.declaration, h.candidate, h.candidateOwner, h.known⟩

theorem Preparation.preparedFor (h : Preparation owner declaration r) :
    PreparedFor owner declaration (some { r with phase := .prepared }) :=
  ⟨_, rfl, rfl, h.owner, h.declaration, h.candidate, h.candidateOwner, h.known⟩

/-- A preparation that was interrupted can be cleaned up. -/
def Interrupted (owner : LeaseOwner) (declaration : PrepareDeclaration)
    (w : NetworkTransaction TransactionRecord) : Prop :=
  ∃ x b, Preparation owner declaration x ∧ Calm (some x) b w

/-- The steps of `prepare`: whatever fails, the record can be cleaned up. -/
theorem wp_prepareSteps_calm (h : Preparation owner declaration r) (hw : Calm (some r) b w) :
    wp (prepareSteps exactFormat)
      (fun _ w' => PreparedFor owner declaration w'.record
        ∧ PrepareSucceeds declaration b w.readings)
      (fun _ => Interrupted owner declaration) (fun _ => False) w := by
  -- a call under a stage name, with the rest of the steps behind it
  have hcall : ∀ {x b'} {w' : NetworkTransaction TransactionRecord} {c : BackendCall}
      {stage : BackendStage} {k : Unit → Tx TransactionRecord Unit}
      {Q : Unit → NetworkTransaction TransactionRecord → Prop},
      Preparation owner declaration x → Calm (some x) b' w' →
      (∀ w'', b' 0 = .ok → Calm (some x) (shift b') w'' →
        wp (k ()) Q (fun _ => Interrupted owner declaration) (fun _ => False) w'') →
      wp (atStage (call c) stage >>= k) Q (fun _ => Interrupted owner declaration)
        (fun _ => False) w' := by
    intro x b' w' c stage k Q hx hw' hk
    rw [wp_bind, atStage, wp_mapError]
    refine wp_mono (calm_call hw' c) ?_ ?_ (fun _ hf => hf)
    · rintro _ w'' ⟨hok, hw''⟩
      exact hk w'' hok hw''
    · rintro _ w'' ⟨-, hw''⟩
      exact ⟨x, _, hx, hw''⟩
  have hcomplete : ∀ {x b'} {w' : NetworkTransaction TransactionRecord} {step : UInt16}
      {k : Unit → Tx TransactionRecord Unit}
      {Q : Unit → NetworkTransaction TransactionRecord → Prop}, step ∈ allSteps →
      Preparation owner declaration x → Calm (some x) b' w' →
      (∀ x' w'', Preparation owner declaration x' → Calm (some x') b' w'' →
        wp (k ()) Q (fun _ => Interrupted owner declaration) (fun _ => False) w'') →
      wp (completeStep exactFormat step >>= k) Q (fun _ => Interrupted owner declaration)
        (fun _ => False) w' := by
    intro x b' w' step k Q hstep hx hw' hk
    rw [wp_bind]
    refine wp_mono (calm_amend hw' _) ?_ (fun _ _ hf => hf.elim) (fun _ hf => hf)
    intro _ w'' hw''
    exact hk _ w'' (hx.complete hstep) hw''
  rw [prepareSteps, wp_bind, wp_current hw.record, wp_bind, atStage, wp_mapError, preflight,
    wp_bind]
  refine wp_mono (wp_and (calm_call hw _) (readings_call w _)) ?_ ?_ (fun _ hf => hf.1)
  · rintro _ w₁ ⟨⟨h0, hw₁⟩, hreadings⟩
    rw [wp_bind, wp_get, wp_lift, hreadings]
    refine ⟨fun sysctls hsnapshot => ?_, fun _ _ => ⟨r, _, h, hw₁⟩⟩
    rw [wp_bind]
    refine wp_mono (calm_amend hw₁ _) ?_ (fun _ _ hf => hf.elim) (fun _ hf => hf)
    intro _ w₂ hw₂
    refine hcomplete (by decide) (h.withSysctls sysctls) hw₂ fun x₃ w₃ hx₃ hw₃ => ?_
    rw [wp_bind, wp_current hw₃.record]
    refine hcall hx₃ hw₃ fun w₄ h1 hw₄ => ?_
    refine hcomplete (by decide) hx₃ hw₄ fun x₅ w₅ hx₅ hw₅ => ?_
    refine hcall hx₅ hw₅ fun w₆ h2 hw₆ => ?_
    refine hcomplete (by decide) hx₅ hw₆ fun x₇ w₇ hx₇ hw₇ => ?_
    refine hcall hx₇ hw₇ fun w₈ h3 hw₈ => ?_
    refine hcomplete (by decide) hx₇ hw₈ fun x₉ w₉ hx₉ hw₉ => ?_
    refine hcall hx₉ hw₉ fun w₁₀ h4 hw₁₀ => ?_
    refine hcomplete (by decide) hx₉ hw₁₀ fun x₁₁ w₁₁ hx₁₁ hw₁₁ => ?_
    refine hcall hx₁₁ hw₁₁ fun w₁₂ h5 hw₁₂ => ?_
    refine wp_mono (calm_amend hw₁₂ _) ?_ (fun _ _ hf => hf.elim) (fun _ hf => hf)
    intro _ w₁₃ hw₁₃
    rw [hw₁₃.record]
    refine ⟨hx₁₁.preparedFor, fun n hn => ?_, sysctls, h.declaration ▸ hsnapshot⟩
    interval_cases n
    · exact h0
    · exact h1
    · exact h2
    · exact h3
    · exact h4
    · exact h5
  · rintro _ w₁ ⟨⟨-, hw₁⟩, -⟩
    exact ⟨r, _, h, hw₁⟩

theorem ends_prepare (hw : Calm none b w) :
    Ends (prepare exactFormat owner declaration)
      (fun m => PreparedFor owner declaration m ∧ PrepareSucceeds declaration b w.readings)
      (fun m => m = none ∨ RollingBack m) w := by
  rw [prepare, Ends, wp_bind, wp_get, hw.record]
  dsimp only
  rw [wp_bind, wp_lift]
  refine ⟨fun _ _ => ?_, fun _ _ => Or.inl hw.record⟩
  rw [wp_bind]
  refine wp_mono (wp_and (calm_replaceRecord hw _) (readings_replaceRecord w _)) ?_
    (fun _ _ hf => hf.1.elim) (fun _ hf => hf.1)
  rintro _ w₁ ⟨hw₁, hreadings⟩
  have hfresh : Preparation owner declaration (freshRecord owner declaration) :=
    ⟨rfl, rfl, rfl, rfl, UInt16.zero_and⟩
  rw [wp_handle, ← hreadings]
  refine wp_mono (wp_prepareSteps_calm hfresh hw₁) (fun _ _ hq => hq) ?_ (fun _ hf => hf)
  rintro e w₂ ⟨x, b', hx, hw₂⟩
  rw [wp_bind, wp_ignore]
  refine wp_mono (ends_cleanupRecord hx.known hw₂) ?_ ?_ (fun _ hf => hf)
  · rintro _ w₃ ⟨-, hnone⟩
    exact Or.inl hnone
  · rintro _ w₃ ⟨-, hend⟩
    exact hend.none_or_rollingBack

/-- A repeated `prepare` changes nothing. -/
theorem ends_prepare_again (hw : Calm (some r) b w) :
    Ends (prepare exactFormat owner declaration)
      (fun m => (r.phase = .prepared ∨ r.phase = .active) ∧ m = some r) (fun m => m = some r)
      w := by
  rw [prepare, Ends, wp_bind, wp_get, hw.record]
  dsimp only
  rw [wp_bind, wp_lift]
  refine ⟨fun _ _ => ?_, fun _ _ => hw.record⟩
  rw [wp_bind, wp_ensure]
  refine ⟨fun _ => ?_, fun _ => hw.record⟩
  rw [wp_ensure]
  exact ⟨fun hphase => ⟨hphase, hw.record⟩, fun _ => hw.record⟩

/-- The record `commit_with_drain` works on until its policy rule is installed. -/
def committing (r : TransactionRecord) : TransactionRecord :=
  { r with completedSteps := r.completedSteps ||| stepPolicyRule }

theorem ends_commitWithDrain {now timeout : UInt64} (hknown : Known r) (hw : Calm (some r) b w)
    (hreplacement : ensureStagedOwner r owner = .ok () → r.phase = .prepared →
      r.recoveryCandidate ≠ none → b 0 = .ok ∧ b 1 = .ok) :
    Ends (commitWithDrain exactFormat owner now timeout)
      (fun m => ensureStagedOwner r owner = .ok ()
        ∧ (((r.phase = .active ∨ r.phase = .draining) ∧ m = some r)
          ∨ (r.phase = .prepared ∧ r.recoveryCandidate ≠ none
            ∧ m = some (drainingFrom now timeout r))
          ∨ (r.phase = .prepared ∧ r.recoveryCandidate = none
            ∧ m = some { committing r with phase := .active })))
      (fun m => m = some r ∨ RollingBack m ∨ (ensureStagedOwner r owner = .ok ()
        ∧ r.phase = .prepared ∧ r.recoveryCandidate = none ∧ b 0 ≠ .ok
        ∧ NothingKept (shift b) (cleanupCalls (committing r)) ∧ m = none)) w := by
  unfold commitWithDrain
  refine ends_current_bind hw.record ?_
  refine ends_lift_bind (Or.inl hw.record) fun _ howner => ?_
  split
  · rename_i hphase
    exact ⟨howner, Or.inl ⟨Or.inr hphase, hw.record⟩⟩
  · rename_i candidate hphase hc
    obtain ⟨h0, h1⟩ := hreplacement howner hphase (by simp [hc])
    rw [commitReplacement, Ends, wp_handle, wp_bind]
    refine wp_mono (calm_call hw _) ?_ (fun _ _ hf => absurd h0 hf.1) (fun _ hf => hf)
    rintro _ w₁ ⟨-, hw₁⟩
    rw [wp_bind]
    refine wp_mono (calm_call hw₁ _) ?_ (fun _ _ hf => absurd h1 hf.1) (fun _ hf => hf)
    rintro _ w₂ ⟨-, hw₂⟩
    refine wp_mono (calm_amend hw₂ _) ?_ (fun _ _ hf => hf.elim) (fun _ hf => hf)
    intro _ w₃ hw₃
    exact ⟨howner, Or.inr (Or.inl ⟨hphase, by simp [hc], hw₃.record⟩)⟩
  · rename_i hphase
    exact ⟨howner, Or.inl ⟨Or.inl hphase, hw.record⟩⟩
  · rename_i hphase hc
    rw [commitInitial, Ends, wp_handle, wp_bind]
    refine wp_mono (calm_amend hw _) ?_ (fun _ _ hf => hf.elim) (fun _ hf => hf)
    intro _ w₁ hw₁
    rw [wp_bind, atStage, wp_mapError]
    refine wp_mono (calm_call hw₁ _) ?_ ?_ (fun _ hf => hf)
    · rintro _ w₂ ⟨-, hw₂⟩
      refine wp_mono (calm_amend hw₂ _) ?_ (fun _ _ hf => hf.elim) (fun _ hf => hf)
      intro _ w₃ hw₃
      exact ⟨howner, Or.inr (Or.inr ⟨hphase, hc, hw₃.record⟩)⟩
    · rintro _ w₂ ⟨h0, hw₂⟩
      have hknown' : Known (committing r) := known_or hknown (by decide)
      rw [wp_bind, wp_ignore]
      refine wp_mono (ends_cleanupRecord hknown' hw₂) ?_ ?_ (fun _ hf => hf)
      · rintro _ w₃ ⟨hall, hnone⟩
        have hkept := nothingKept_of_allSucceed hall
        exact Or.inr (Or.inr ⟨howner, hphase, hc, h0, hkept, hnone⟩)
      · rintro _ w₃ ⟨-, ⟨hkept, hnone⟩ | ⟨-, hrolling⟩⟩
        · exact Or.inr (Or.inr ⟨howner, hphase, hc, h0, hkept, hnone⟩)
        · exact Or.inr (Or.inl hrolling)
  · exact Or.inl hw.record

theorem ends_rollback (hknown : Known r) (hw : Calm (some r) b w)
    (hstaged : stagedCandidate r ≠ none → ensureReconfigureOwner r.owner owner = .ok () →
      ¬ (b 0 = .ok ∧ b 1 = .ok)) :
    Ends (rollback exactFormat owner) (fun m => m = none)
      (fun m => m = some r ∨ RollingBack m ∨ (stagedCandidate r = none
        ∧ ensureOwner r.owner owner = .ok () ∧ NothingKept b (cleanupCalls r)
        ∧ ¬ AllSucceed b (cleanupCalls r) ∧ m = none)) w := by
  unfold rollback
  refine ends_current_bind hw.record ?_
  cases hc : stagedCandidate r with
  | some c =>
    refine ends_lift_bind (Or.inl hw.record) fun _ howner => ?_
    have hfails := hstaged (by simp [hc]) howner
    rw [withdrawCandidate, Ends, wp_bind]
    refine wp_mono (calm_call hw _) ?_ (fun _ _ hw₁ => Or.inl hw₁.2.record) (fun _ hf => hf)
    rintro _ w₁ ⟨h0, hw₁⟩
    rw [wp_bind]
    refine wp_mono (calm_call hw₁ _) ?_ (fun _ _ hw₂ => Or.inl hw₂.2.record) (fun _ hf => hf)
    rintro _ w₂ ⟨h1, -⟩
    exact absurd ⟨h0, h1⟩ hfails
  | none =>
    refine ends_lift_bind (Or.inl hw.record) fun _ howner => ?_
    refine (ends_cleanupRecord hknown hw).mono (fun _ hq => hq.2) fun m hend => ?_
    rcases hend with ⟨hsome, ⟨hkept, hnone⟩ | ⟨-, hrolling⟩⟩
    · exact Or.inr (Or.inr ⟨rfl, howner, hkept, hsome, hnone⟩)
    · exact Or.inr (Or.inl hrolling)

theorem ends_renewLease (hw : Calm (some r) b w) :
    Ends (renewLease exactFormat owner)
      (fun m => ensureStagedOwner r owner = .ok () ∧ m = some { r with
        owner := { r.owner with leaseDeadlineMonoMs := owner.leaseDeadlineMonoMs } })
      (fun m => m = some r) w := by
  unfold renewLease
  refine ends_current_bind hw.record ?_
  refine ends_lift_bind hw.record fun _ howner => ?_
  exact ends_amend hw ⟨howner, rfl⟩

theorem ends_updateMtu {effectiveMtu : UInt16} (hw : Calm (some r) b w) :
    Ends (updateMtu exactFormat owner effectiveMtu)
      (fun m => r.phase = .active
        ∧ m = some { r with declaration := { r.declaration with effectiveMtu } })
      (fun m => m = some r) w := by
  unfold updateMtu
  refine ends_ensure_bind hw.record fun _ => ?_
  refine ends_current_bind hw.record ?_
  refine ends_lift_bind hw.record fun _ _ => ?_
  refine ends_ensure_bind hw.record fun hactive => ?_
  refine ends_call_bind hw rfl fun b' w' hw' => ?_
  exact ends_amend hw' ⟨hactive.1, rfl⟩

theorem ends_suspend (hw : Calm (some r) b w) :
    Ends (suspend exactFormat owner)
      (fun m => (r.phase = .suspended ∧ m = some r) ∨ (r.phase = .active ∧ m = some { r with
        phase := .suspended, completedSteps := r.completedSteps &&& ~~~ stepPolicyRule }))
      (fun m => m = some r) w := by
  unfold suspend
  refine ends_current_bind hw.record ?_
  refine ends_lift_bind hw.record fun _ _ => ?_
  refine ends_ite (fun hphase => Or.inl ⟨hphase, hw.record⟩) fun _ => ?_
  refine ends_ensure_bind hw.record fun hphase => ?_
  refine ends_call_bind hw rfl fun b' w' hw' => ?_
  refine ends_amend_bind hw' fun w'' hw'' => ?_
  exact ends_amend hw'' (Or.inr ⟨hphase, rfl⟩)

theorem ends_resume (hw : Calm (some r) b w) :
    Ends (resume exactFormat owner)
      (fun m => (r.phase = .active ∧ m = some r) ∨ (r.phase = .suspended ∧ m = some { r with
        phase := .active, completedSteps := r.completedSteps ||| stepPolicyRule }))
      (fun m => m = some r) w := by
  unfold resume
  refine ends_current_bind hw.record ?_
  refine ends_lift_bind hw.record fun _ _ => ?_
  refine ends_ite (fun hphase => Or.inl ⟨hphase, hw.record⟩) fun _ => ?_
  refine ends_ensure_bind hw.record fun hphase => ?_
  refine ends_call_bind hw rfl fun b' w' hw' => ?_
  refine ends_amend_bind hw' fun w'' hw'' => ?_
  exact ends_amend hw'' (Or.inr ⟨hphase, rfl⟩)

theorem ends_drainOld {now : UInt64} (hw : Calm (some r) b w) :
    Ends (drainOld exactFormat owner now)
      (fun m => (r.phase = .active ∧ m = some r)
        ∨ (r.phase = .draining ∧ ∃ c, r.recoveryCandidate = some c
          ∧ m = some (promoteCandidate (r.recoveryCandidateOwner.getD owner) c r)))
      (fun m => m = some r) w := by
  unfold drainOld
  refine ends_current_bind hw.record ?_
  refine ends_lift_bind hw.record fun _ _ => ?_
  refine ends_ite (fun hphase => Or.inl ⟨hphase.1, hw.record⟩) fun _ => ?_
  refine ends_ensure_bind hw.record fun hphase => ?_
  refine ends_ensure_bind hw.record fun _ => ?_
  refine ends_okOr_bind hw.record fun c hc => ?_
  refine ends_call_bind hw rfl fun b₁ w₁ hw₁ => ?_
  refine ends_call_bind hw₁ rfl fun b₂ w₂ hw₂ => ?_
  refine ends_call_bind hw₂ rfl fun b₃ w₃ hw₃ => ?_
  exact ends_amend hw₃ (Or.inr ⟨hphase, c, hc, rfl⟩)

theorem ends_setFailedPrefixes {prefixes : List Ipv4Prefix} (hw : Calm (some r) b w) :
    Ends (setFailedPrefixes exactFormat owner prefixes)
      (fun m => (r.phase = .active ∨ r.phase = .suspended)
        ∧ m = some { r with failedPrefixes := sortDedup prefixes })
      (fun m => m = some r) w := by
  unfold setFailedPrefixes
  refine ends_current_bind hw.record ?_
  refine ends_lift_bind hw.record fun _ _ => ?_
  refine ends_ensure_bind hw.record fun hphase => ?_
  refine ends_ensure_bind hw.record fun _ => ?_
  refine ends_call_bind hw rfl fun b₁ w₁ hw₁ => ?_
  refine ends_when_bind hw₁ rfl fun b₂ w₂ hw₂ => ?_
  exact ends_amend hw₂ ⟨hphase, rfl⟩

/-- Staging a replacement beside an active declaration. -/
theorem ends_stageReplacement (hc : r.recoveryCandidate = none)
    (ho : r.recoveryCandidateOwner = none) (hphase : r.phase = .active) (hw : Calm (some r) b w) :
    Ends (stageReplacement exactFormat owner declaration)
      (fun m => m = some { stageCandidate owner declaration r with phase := .prepared })
      (Left r) w := by
  -- after a failure the candidate is forgotten and the old declaration is active again
  have hunstage : ∀ e b' w', Calm (some (stageCandidate owner declaration r)) b' w' →
      Ends (unstageCandidate exactFormat declaration e) (fun _ => False) (Left r) w' := by
    intro e b' w' hw'
    unfold unstageCandidate
    refine ends_ignore_bind (calm_call_any hw' _) fun b₂ w₂ hw₂ => ?_
    refine ends_ignore_bind (calm_call_any hw₂ _) fun b₃ w₃ hw₃ => ?_
    rw [Ends, wp_bind, wp_ignore]
    refine wp_mono (calm_amend hw₃ _) ?_ (fun _ _ hf => hf.elim) (fun _ hf => hf)
    intro _ w₄ hw₄
    exact Or.inr ⟨_, hw₄.record, ⟨rfl, rfl, hphase.symm, hc.symm, ho.symm, rfl⟩⟩
  have hcalls : ∀ w', Calm (some (stageCandidate owner declaration r)) b w' →
      wp (do
        lift (validDeclaration declaration)
        let _ ← preflight declaration
        call (.prepareLink declaration)
        call (.prepareRoutes declaration)
        call (.prepareFirewall declaration))
      (fun _ w'' => ∃ b', Calm (some (stageCandidate owner declaration r)) b' w'')
      (fun _ w'' => ∃ b', Calm (some (stageCandidate owner declaration r)) b' w'')
      (fun _ => False) w' := by
    intro w' hw'
    rw [wp_bind, wp_lift]
    refine ⟨fun _ _ => ?_, fun _ _ => ⟨b, hw'⟩⟩
    rw [wp_bind, preflight, wp_bind]
    refine wp_mono (calm_call_any hw' _) ?_ (fun _ _ he => he) (fun _ hf => hf)
    rintro _ w₂ ⟨b₂, hw₂⟩
    rw [wp_bind, wp_get, wp_lift]
    refine ⟨fun _ _ => ?_, fun _ _ => ⟨b₂, hw₂⟩⟩
    rw [wp_bind]
    refine wp_mono (calm_call_any hw₂ _) ?_ (fun _ _ he => he) (fun _ hf => hf)
    rintro _ w₃ ⟨b₃, hw₃⟩
    rw [wp_bind]
    refine wp_mono (calm_call_any hw₃ _) ?_ (fun _ _ he => he) (fun _ hf => hf)
    rintro _ w₄ ⟨b₄, hw₄⟩
    exact calm_call_any hw₄ _
  unfold stageReplacement
  refine ends_amend_bind hw fun w₁ hw₁ => ?_
  rw [Ends, wp_bind, wp_handle]
  refine wp_mono (hcalls w₁ hw₁) ?_ ?_ (fun _ hf => hf)
  · rintro _ w₂ ⟨b₂, hw₂⟩
    refine wp_mono (calm_amend hw₂ _) (fun _ w₃ hw₃ => ?_) (fun _ _ hf => hf.elim) (fun _ hf => hf)
    exact hw₃.record
  · rintro e w₂ ⟨b₂, hw₂⟩
    exact wp_mono (hunstage e b₂ w₂ hw₂) (fun _ _ hf => hf.elim) (fun _ _ hl => hl) (fun _ hf => hf)

theorem ends_prepareReplacement (hc : r.recoveryCandidate = none)
    (ho : r.recoveryCandidateOwner = none) (hphase : r.phase = .active) (hw : Calm (some r) b w) :
    Ends (prepareReplacement exactFormat owner declaration)
      (fun m => (r.declaration = declaration ∧ m = some { r with owner })
        ∨ (r.declaration ≠ declaration
          ∧ m = some { stageCandidate owner declaration r with phase := .prepared }))
      (Left r) w := by
  have hleft : Left r w.record := hw.record ▸ left_self r
  unfold prepareReplacement
  refine ends_current_bind hw.record ?_
  refine ends_lift_bind hleft fun _ _ => ?_
  refine ends_ite (fun heq => ends_replaceRecord hw (Or.inl ⟨heq, rfl⟩)) fun hne => ?_
  refine ends_ensure_bind hleft fun _ => ?_
  rw [hc]
  exact (ends_stageReplacement hc ho hphase hw).mono (fun _ hq => Or.inr ⟨hne, hq⟩) fun _ he => he

/-- An operation that has put its intent into the record, as long as it has not come back. -/
theorem rollingBack_intent (hknown : Known r) :
    RollingBack (some (rollingBackTo owner declaration r)) :=
  ⟨_, rfl, rfl, hknown⟩

theorem ends_reconfigureSuspended (hknown : Known r) (hw : Calm (some r) b w) :
    Ends (reconfigureSuspended exactFormat owner declaration r)
      (fun m => m = some { r with
        owner, declaration, failedPrefixes := [], drainDeadlineMonoMs := 0 })
      (Left r) w := by
  have hintent : Left r (some (rollingBackTo owner declaration r)) :=
    Or.inl (rollingBack_intent hknown)
  -- the way back: five calls, and the old record if all of them succeed
  have hrestore : ∀ e b' w', Calm (some (rollingBackTo owner declaration r)) b' w' →
      Ends (do
        restoreSuspendedAfterReconfigure exactFormat r declaration
        fail e : Tx TransactionRecord Unit) (fun _ => False) (Left r) w' := by
    intro e b' w' hw'
    have hback : Ends (restoreSuspendedAfterReconfigure exactFormat r declaration)
        (fun m => m = some r) (Left r) w' := by
      unfold restoreSuspendedAfterReconfigure
      refine ends_errorOf_bind (calm_call_any hw' _) fun e1 b₁ w₁ hw₁ => ?_
      refine ends_errorOf_bind (calm_call_any hw₁ _) fun e2 b₂ w₂ hw₂ => ?_
      refine ends_errorOf_bind (calm_call_any hw₂ _) fun e3 b₃ w₃ hw₃ => ?_
      refine ends_errorOf_bind (calm_call_any hw₃ _) fun e4 b₄ w₄ hw₄ => ?_
      refine ends_errorOf_bind (calm_call_any hw₄ _) fun e5 b₅ w₅ hw₅ => ?_
      split
      · rw [Ends, wp_fail, hw₅.record]
        exact hintent
      · exact ends_replaceRecord hw₅ rfl
    rw [Ends, wp_bind]
    refine wp_mono hback ?_ (fun _ _ hl => hl) (fun _ hf => hf)
    intro _ w₁ heq
    rw [wp_fail, heq]
    exact left_self r
  unfold reconfigureSuspended
  refine ends_ensure_bind (hw.record ▸ left_self r) fun _ => ?_
  refine ends_amend_bind hw fun w₁ hw₁ => ?_
  refine ends_handle ?_ fun e b' w' hw' => (hrestore e b' w' hw').mono (fun _ hf => hf.elim)
    fun _ hl => hl
  refine attempts_call_bind hw₁ fun b₂ w₂ hw₂ => ?_
  refine attempts_call_bind hw₂ fun b₃ w₃ hw₃ => ?_
  refine attempts_call_bind hw₃ fun b₄ w₄ hw₄ => ?_
  refine attempts_call_bind hw₄ fun b₅ w₅ hw₅ => ?_
  refine attempts_call_bind hw₅ fun b₆ w₆ hw₆ => ?_
  exact attempts_replaceRecord hw₆ rfl

theorem ends_reconfigure (hknown : Known r) (hc : r.recoveryCandidate = none)
    (ho : r.recoveryCandidateOwner = none) (hw : Calm (some r) b w) :
    Ends (reconfigure exactFormat owner declaration)
      (fun m => (r.phase = .active ∧ r.declaration ≠ declaration
          ∧ m = some { stageCandidate owner declaration r with phase := .prepared })
        ∨ ((r.phase = .active ∨ r.phase = .suspended) ∧ r.declaration = declaration
          ∧ m = some { r with owner })
        ∨ (r.phase = .suspended ∧ r.declaration ≠ declaration ∧ m = some { r with
          owner, declaration, failedPrefixes := [], drainDeadlineMonoMs := 0 }))
      (Left r) w := by
  have hleft : Left r w.record := hw.record ▸ left_self r
  unfold reconfigure
  refine ends_lift_bind hleft fun _ _ => ?_
  refine ends_current_bind hw.record ?_
  refine ends_lift_bind hleft fun _ _ => ?_
  refine ends_ite (fun hphase => ?_) fun _ => ?_
  · refine (ends_prepareReplacement hc ho hphase hw).mono ?_ fun _ he => he
    intro m hm
    rcases hm with ⟨heq, hm⟩ | ⟨hne, hm⟩
    · exact Or.inr (Or.inl ⟨Or.inl hphase, heq, hm⟩)
    · exact Or.inl ⟨hphase, hne, hm⟩
  · refine ends_ensure_bind hleft fun hphase => ?_
    refine ends_ite (fun heq => ?_) fun hne => ?_
    · exact ends_replaceRecord hw (Or.inr (Or.inl ⟨Or.inr hphase, heq, rfl⟩))
    · refine (ends_reconfigureSuspended hknown hw).mono ?_ fun _ he => he
      intro m hm
      exact Or.inr (Or.inr ⟨hphase, hne, hm⟩)

/-- The calls of a policy update touch no record. -/
theorem calm_applyPolicy {m : Option TransactionRecord} {retained : List Ipv4Prefix}
    (hw : Calm m b w) :
    wp (applyPolicy r declaration retained) (fun _ w' => ∃ b', Calm m b' w')
      (fun _ w' => ∃ b', Calm m b' w') (fun _ => False) w := by
  unfold applyPolicy
  rw [wp_bind]
  refine wp_mono (calm_when_any hw _) ?_ (fun _ _ he => he) (fun _ hf => hf)
  rintro _ w₁ ⟨b₁, hw₁⟩
  rw [wp_bind]
  refine wp_mono (calm_when_any hw₁ _) ?_ (fun _ _ he => he) (fun _ hf => hf)
  rintro _ w₂ ⟨b₂, hw₂⟩
  exact calm_when_any hw₂ _

/-- Only an active or a suspended transaction can be reconfigured. -/
theorem ends_reconfigure_refused (hactive : r.phase ≠ .active) (hsuspended : r.phase ≠ .suspended)
    (hw : Calm (some r) b w) :
    Ends (reconfigure exactFormat owner declaration) (fun _ => False) (fun m => m = some r) w := by
  unfold reconfigure
  refine ends_lift_bind hw.record fun _ _ => ?_
  refine ends_current_bind hw.record ?_
  refine ends_lift_bind hw.record fun _ _ => ?_
  refine ends_ite (fun hphase => absurd hphase hactive) fun _ => ?_
  exact ends_ensure_bind hw.record fun hphase => absurd hphase hsuspended

/-- Without a record there is nothing to roll back. -/
theorem ends_rollback_none (hw : w.record = none) :
    Ends (rollback exactFormat owner) (fun _ => False) (fun m => m = none) w := by
  rw [rollback, Ends, wp_bind, current, wp_bind, wp_get, hw, wp_okOr_none, hw]

theorem ends_renewLease_none (hw : w.record = none) :
    Ends (renewLease exactFormat owner) (fun _ => False) (fun m => m = none) w := by
  rw [renewLease, Ends, wp_bind, current, wp_bind, wp_get, hw, wp_okOr_none, hw]

/-- What `update_policy` makes of a record. -/
def PolicyUpdated (declaration : PrepareDeclaration) (r : TransactionRecord)
    (m : Option TransactionRecord) : Prop :=
  (r.phase = .active ∨ r.phase = .suspended) ∧ r.recoveryCandidate = none
    ∧ ((r.declaration = declaration ∧ m = some r)
      ∨ m = some { r with
        declaration, failedPrefixes := r.failedPrefixes.filter (inScope declaration),
        recoveryCandidate := none, recoveryCandidateOwner := none })

theorem ends_updatePolicy (hknown : Known r) (hw : Calm (some r) b w) :
    Ends (updatePolicy exactFormat owner declaration) (PolicyUpdated declaration r) (Left r)
      w := by
  have hleft : Left r w.record := hw.record ▸ left_self r
  have hintent : Left r (some (rollingBackTo owner declaration r)) :=
    Or.inl (rollingBack_intent hknown)
  have hrestore : ∀ e b' w', Calm (some (rollingBackTo owner declaration r)) b' w' →
      Ends (do
        restorePolicyAfterUpdate exactFormat r declaration
        fail e : Tx TransactionRecord Unit) (fun _ => False) (Left r) w' := by
    intro e b' w' hw'
    have hback : Ends (restorePolicyAfterUpdate exactFormat r declaration)
        (fun m => m = some r) (Left r) w' := by
      unfold restorePolicyAfterUpdate
      refine ends_errorOf_bind (calm_when_any hw' _) fun e1 b₁ w₁ hw₁ => ?_
      refine ends_errorOf_bind (calm_when_any hw₁ _) fun e2 b₂ w₂ hw₂ => ?_
      refine ends_when_bind hw₂ hintent fun b₃ w₃ hw₃ => ?_
      split
      · rw [Ends, wp_fail, hw₃.record]
        exact hintent
      · exact ends_replaceRecord hw₃ rfl
    rw [Ends, wp_bind]
    refine wp_mono hback ?_ (fun _ _ hl => hl) (fun _ hf => hf)
    intro _ w₁ heq
    rw [wp_fail, heq]
    exact left_self r
  unfold updatePolicy
  refine ends_lift_bind hleft fun _ _ => ?_
  refine ends_current_bind hw.record ?_
  refine ends_lift_bind hleft fun _ _ => ?_
  refine ends_ensure_bind hleft fun hchecks => ?_
  obtain ⟨hphase, hc, -⟩ := hchecks
  refine ends_ite (fun heq => ?_) fun _ => ?_
  · rw [Ends, wp_when]
    refine ⟨fun _ => ?_, fun _ => ⟨hphase, hc, Or.inl ⟨heq, hw.record⟩⟩⟩
    have hdone : PolicyUpdated declaration r (some r) := ⟨hphase, hc, Or.inl ⟨heq, rfl⟩⟩
    exact ends_call hw hdone (left_self r)
  · unfold changePolicy
    refine ends_amend_bind hw fun w₁ hw₁ => ?_
    refine ends_handle ?_ fun e b' w' hw' => (hrestore e b' w' hw').mono (fun _ hf => hf.elim)
      fun _ hl => hl
    rw [Attempts, wp_bind]
    refine wp_mono (calm_applyPolicy hw₁) ?_ (fun _ _ hw₂ => hw₂) (fun _ hf => hf)
    rintro _ w₂ ⟨b₂, hw₂⟩
    exact attempts_replaceRecord (R := PolicyUpdated declaration r) hw₂
      ⟨hphase, hc, Or.inr rfl⟩

end Operations

end CandyRuntime.NetdV1
