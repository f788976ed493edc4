import Mathlib.Logic.Basic
import Mathlib.Logic.Relation

/-!
# Processes that can fail and can be killed

A `Proc σ ε α` is a state-passing computation with three endings: it returns a value, it
returns an error the caller can inspect, or the process is killed (`Outcome.crash`) and the
state is left as it was at that moment. Errors can be caught with `attempt`; a kill cannot.

* `wp` is the weakest precondition with one postcondition per ending; the `wp_*` lemmas
  compute it along the structure of a program, and `wp_mono` is the rule of consequence;
* `Preserves` is the special case in which one invariant holds at every ending, and `Triple`
  the form in which a program is taken apart call by call;
* `reachable_induction` carries an invariant of single steps to every state of a run.
-/

namespace CandyRuntime.Lib

/-- The three ways a computation of a killable process can end. -/
inductive Outcome (ε α : Type) where
  | ok (a : α)
  | err (e : ε)
  | crash
deriving DecidableEq, Repr

/-- A computation over the state `σ` with errors in `ε`. -/
def Proc (σ ε α : Type) : Type := σ → Outcome ε α × σ

namespace Proc

variable {σ ε α β : Type} {f : α → Proc σ ε β}

/-! ## Programs -/

/-- Run `m`, then `f` on its value; an error or a kill of `m` ends the whole program. -/
def bind (m : Proc σ ε α) (f : α → Proc σ ε β) : Proc σ ε β := fun s =>
  match m s with
  | (.ok a, s') => f a s'
  | (.err e, s') => (.err e, s')
  | (.crash, s') => (.crash, s')

instance : Monad (Proc σ ε) where
  pure a := fun s => (.ok a, s)
  bind := bind

/-- Nested sequences may be bracketed either way. -/
protected theorem bind_assoc {γ : Type} (m : Proc σ ε α) (f : α → Proc σ ε β) (g : β → Proc σ ε γ) :
    (m >>= f) >>= g = m >>= fun a => f a >>= g := by
  funext s
  simp only [Bind.bind, Proc.bind]
  cases m s with
  | mk outcome s' => cases outcome <;> rfl

/-- A value returned is handed on. -/
protected theorem pure_bind (a : α) (f : α → Proc σ ε β) : (pure a : Proc σ ε α) >>= f = f a := rfl

/-! How a composition ends is decided by the outcome of its first part. -/

/-- A first part that returns is followed by the rest. -/
theorem bind_of_ok {m : Proc σ ε α} {s s' : σ} {a : α} (h : m s = (.ok a, s')) : (m >>= f) s = f a s' := by
  show bind m f s = _
  unfold bind
  rw [h]

/-- A first part that fails ends the whole. -/
theorem bind_of_err {m : Proc σ ε α} {s s' : σ} {e : ε} (h : m s = (.err e, s')) :
    (m >>= f) s = (.err e, s') := by
  show bind m f s = _
  unfold bind
  rw [h]

/-- Nothing runs after a crash. -/
theorem bind_of_crash {m : Proc σ ε α} {s s' : σ} (h : m s = (.crash, s')) : (m >>= f) s = (.crash, s') := by
  show bind m f s = _
  unfold bind
  rw [h]

/-- End with the error `e`. -/
def fail (e : ε) : Proc σ ε α := fun s => (.err e, s)

/-- Run `m` and hand its error, if any, to the caller as a value. -/
def attempt (m : Proc σ ε α) : Proc σ ε (Except ε α) := fun s =>
  match m s with
  | (.ok a, s') => (.ok (.ok a), s')
  | (.err e, s') => (.ok (.error e), s')
  | (.crash, s') => (.crash, s')

/-- The current state. -/
def get : Proc σ ε σ := fun s => (.ok s, s)

/-- Replace the state. -/
def modify (f : σ → σ) : Proc σ ε Unit := fun s => (.ok (), f s)

/-- Fail with `e` unless `c` holds. -/
def ensure (c : Prop) [Decidable c] (e : ε) : Proc σ ε Unit :=
  if c then pure () else fail e

/-- Run `m` only if `c` holds. -/
def when (c : Prop) [Decidable c] (m : Proc σ ε Unit) : Proc σ ε Unit :=
  if c then m else pure ()

/-- The value of an option, or the error `e`. -/
def okOr (o : Option α) (e : ε) : Proc σ ε α :=
  match o with
  | some a => pure a
  | none => fail e

/-- A result that was computed without touching the state. -/
def lift (r : Except ε α) : Proc σ ε α :=
  match r with
  | .ok a => pure a
  | .error e => fail e

/-- Run `m`; if it fails, go on with `h`. -/
def handle (m : Proc σ ε α) (h : ε → Proc σ ε α) : Proc σ ε α := fun s =>
  match m s with
  | (.ok a, s') => (.ok a, s')
  | (.err e, s') => h e s'
  | (.crash, s') => (.crash, s')

/-- Run `m` for its effect; its error, if any, is dropped. -/
def ignore (m : Proc σ ε α) : Proc σ ε Unit := fun s =>
  match m s with
  | (.ok _, s') => (.ok (), s')
  | (.err _, s') => (.ok (), s')
  | (.crash, s') => (.crash, s')

/-- Run `m` for its effect; its error, if any, is the value. -/
def errorOf (m : Proc σ ε α) : Proc σ ε (Option ε) := fun s =>
  match m s with
  | (.ok _, s') => (.ok none, s')
  | (.err e, s') => (.ok (some e), s')
  | (.crash, s') => (.crash, s')

/-- Run `m` and translate its error. -/
def mapError (f : ε → ε) (m : Proc σ ε α) : Proc σ ε α := fun s =>
  match m s with
  | (.ok a, s') => (.ok a, s')
  | (.err e, s') => (.err (f e), s')
  | (.crash, s') => (.crash, s')

/-- How a durable write ends: it reports success, it reports an error, or the process is killed
in it. The last two may have taken effect (`landed`). -/
inductive Write where
  | done
  | failed (landed : Bool)
  | killed (landed : Bool)
deriving DecidableEq, Repr

/-- A durable write with the effect `f` and the error `e`. -/
def durable (write : Write) (e : ε) (f : σ → σ) : Proc σ ε Unit := fun s =>
  match write with
  | .done => (.ok (), f s)
  | .failed landed => (.err e, if landed then f s else s)
  | .killed landed => (.crash, if landed then f s else s)

/-! ## Weakest preconditions -/

/-- `wp m Q E C s`: run from `s`, the program `m` returns into `Q`, fails into `E`, or is
killed in `C`. -/
def wp (m : Proc σ ε α) (Q : α → σ → Prop) (E : ε → σ → Prop) (C : σ → Prop) (s : σ) : Prop :=
  match m s with
  | (.ok a, s') => Q a s'
  | (.err e, s') => E e s'
  | (.crash, s') => C s'

section Rules

variable {Q : α → σ → Prop} {R : β → σ → Prop} {E : ε → σ → Prop} {C : σ → Prop} {s : σ}

/-- A value returned leaves the state. -/
@[simp] theorem wp_pure (a : α) : wp (pure a : Proc σ ε α) Q E C s ↔ Q a s := Iff.rfl

/-- The rest starts where the first part returns. -/
@[simp] theorem wp_bind (m : Proc σ ε α) (f : α → Proc σ ε β) :
    wp (m >>= f) R E C s ↔ wp m (fun a => wp (f a) R E C) E C s := by
  change wp (bind m f) R E C s ↔ _
  unfold wp bind
  split <;> rename_i h <;> split at h <;> simp_all

/-- The first part of a program has run already. -/
theorem wp_bind_of_eq {m : Proc σ ε α} {a : α} {s' : σ} (h : m s = (.ok a, s')) :
    wp (m >>= f) R E C s ↔ wp (f a) R E C s' := by
  rw [wp_bind]
  show (match m s with
    | (.ok a, s') => wp (f a) R E C s'
    | (.err e, s') => E e s'
    | (.crash, s') => C s') ↔ _
  rw [h]

/-- A failure leaves the state. -/
@[simp] theorem wp_fail (e : ε) : wp (fail e : Proc σ ε α) Q E C s ↔ E e s := Iff.rfl

/-- Both outcomes are returned, a crash is not. -/
@[simp] theorem wp_attempt (m : Proc σ ε α) {Q : Except ε α → σ → Prop} :
    wp (attempt m) Q E C s
      ↔ wp m (fun a => Q (.ok a)) (fun e => Q (.error e)) C s := by
  unfold wp attempt
  split <;> rename_i h <;> split at h <;> simp_all

/-- Only a failure is handled. -/
@[simp] theorem wp_handle (m : Proc σ ε α) (h : ε → Proc σ ε α) :
    wp (handle m h) Q E C s ↔ wp m Q (fun e => wp (h e) Q E C) C s := by
  unfold wp handle
  split <;> rename_i h <;> split at h <;> simp_all

/-- A failure counts as a return. -/
@[simp] theorem wp_ignore (m : Proc σ ε α) {Q : Unit → σ → Prop} :
    wp (ignore m) Q E C s ↔ wp m (fun _ => Q ()) (fun _ => Q ()) C s := by
  unfold wp ignore
  split <;> rename_i h <;> split at h <;> simp_all

/-- A failure is returned as a value. -/
@[simp] theorem wp_errorOf (m : Proc σ ε α) {Q : Option ε → σ → Prop} :
    wp (errorOf m) Q E C s ↔ wp m (fun _ => Q none) (fun e => Q (some e)) C s := by
  unfold wp errorOf
  split <;> rename_i h <;> split at h <;> simp_all

/-- Only the error is changed. -/
@[simp] theorem wp_mapError (f : ε → ε) (m : Proc σ ε α) :
    wp (mapError f m) Q E C s ↔ wp m Q (fun e => E (f e)) C s := by
  unfold wp mapError
  split <;> rename_i h <;> split at h <;> simp_all

/-- Reading leaves the state. -/
@[simp] theorem wp_get {Q : σ → σ → Prop} : wp (get : Proc σ ε σ) Q E C s ↔ Q s s := Iff.rfl

/-- Writing returns nothing. -/
@[simp] theorem wp_modify (f : σ → σ) {Q : Unit → σ → Prop} :
    wp (modify f : Proc σ ε Unit) Q E C s ↔ Q () (f s) := Iff.rfl

/-- A test passes or fails with its error. -/
@[simp] theorem wp_ensure (c : Prop) [Decidable c] (e : ε) {Q : Unit → σ → Prop} :
    wp (ensure c e : Proc σ ε Unit) Q E C s ↔ (c → Q () s) ∧ (¬ c → E e s) := by
  unfold ensure
  by_cases h : c
  · rw [if_pos h]; simp [h]
  · rw [if_neg h]; simp [h]

/-- What is not asked for is not run. -/
@[simp] theorem wp_when (c : Prop) [Decidable c] (m : Proc σ ε Unit) {Q : Unit → σ → Prop} :
    wp (when c m) Q E C s ↔ (c → wp m Q E C s) ∧ (¬ c → Q () s) := by
  unfold when
  by_cases h : c
  · rw [if_pos h]; simp [h]
  · rw [if_neg h]; simp [h]

/-- A value that is there is returned. -/
@[simp] theorem wp_okOr_some (a : α) (e : ε) :
    wp (okOr (some a) e : Proc σ ε α) Q E C s ↔ Q a s := Iff.rfl

/-- A value that is missing is an error. -/
@[simp] theorem wp_okOr_none (e : ε) :
    wp (okOr none e : Proc σ ε α) Q E C s ↔ E e s := Iff.rfl

/-- The two cases of `okOr` together. -/
theorem wp_okOr (o : Option α) (e : ε) :
    wp (okOr o e : Proc σ ε α) Q E C s ↔ (∀ a, o = some a → Q a s) ∧ (o = none → E e s) := by
  cases o <;> simp

/-- A pure result leaves the state. -/
theorem wp_lift (r : Except ε α) :
    wp (lift r : Proc σ ε α) Q E C s
      ↔ (∀ a, r = .ok a → Q a s) ∧ (∀ e, r = .error e → E e s) := by
  cases r <;> simp [lift]

/-- Each branch under its own condition. -/
theorem wp_ite (c : Prop) [Decidable c] (m n : Proc σ ε α) :
    wp (if c then m else n) Q E C s ↔ (c → wp m Q E C s) ∧ (¬ c → wp n Q E C s) := by
  by_cases h : c <;> simp [h]

/-- The rule of consequence, at one state. -/
theorem wp_mono {m : Proc σ ε α} {Q' : α → σ → Prop} {E' : ε → σ → Prop} {C' : σ → Prop}
    (h : wp m Q E C s) (hQ : ∀ a s', Q a s' → Q' a s') (hE : ∀ e s', E e s' → E' e s')
    (hC : ∀ s', C s' → C' s') : wp m Q' E' C' s := by
  unfold wp at *
  split <;> rename_i heq <;> rw [heq] at h
  · exact hQ _ _ h
  · exact hE _ _ h
  · exact hC _ h

/-- Two facts about one program can be proved apart. -/
theorem wp_and {m : Proc σ ε α} {Q' : α → σ → Prop} {E' : ε → σ → Prop} {C' : σ → Prop}
    (h : wp m Q E C s) (h' : wp m Q' E' C' s) :
    wp m (fun a s' => Q a s' ∧ Q' a s') (fun e s' => E e s' ∧ E' e s')
      (fun s' => C s' ∧ C' s') s := by
  unfold wp at *
  split <;> rename_i heq <;> rw [heq] at h h' <;> exact ⟨h, h'⟩

/-- What holds at both ends of a program holds of the result of an attempt. -/
theorem of_attempt {m : Proc σ ε α} {Q : Except ε α → σ → Prop} {result : Except ε α} {s' : σ}
    (h : wp m (fun a => Q (.ok a)) (fun e => Q (.error e)) C s)
    (hrun : attempt m s = (.ok result, s')) : Q result s' := by
  have hattempt : wp (attempt m) Q (fun _ _ => True) C s := (wp_attempt m).mpr h
  unfold wp at hattempt
  rw [hrun] at hattempt
  exact hattempt

end Rules

/-- `m` keeps the invariant `I`, however it ends. -/
def Preserves (I : σ → Prop) (m : Proc σ ε α) : Prop :=
  ∀ s, I s → wp m (fun _ => I) (fun _ => I) I s

namespace Preserves

variable {I : σ → Prop} {m : Proc σ ε α}

/-- A value returned keeps every invariant. -/
protected theorem pure (a : α) : Preserves I (Pure.pure a : Proc σ ε α) := fun _ hs => hs

/-- A failure keeps every invariant. -/
protected theorem fail (e : ε) : Preserves I (fail e : Proc σ ε α) := fun _ hs => hs

/-- Reading keeps every invariant. -/
protected theorem get : Preserves I (get : Proc σ ε σ) := fun _ hs => hs

/-- Sequences keep what both parts keep. -/
protected theorem bind (hm : Preserves I m) (hf : ∀ a, Preserves I (f a)) :
    Preserves I (m >>= f) := by
  intro s hs
  rw [wp_bind]
  exact wp_mono (hm s hs) (fun a s' h => hf a s' h) (fun _ _ h => h) (fun _ h => h)

/-- The handler has to keep it as well. -/
protected theorem handle {h : ε → Proc σ ε α} (hm : Preserves I m) (hh : ∀ e, Preserves I (h e)) :
    Preserves I (handle m h) := by
  intro s hs
  rw [wp_handle]
  exact wp_mono (hm s hs) (fun _ _ h => h) (fun e s' h => hh e s' h) (fun _ h => h)

/-- Ignoring a failure keeps it. -/
protected theorem ignore (hm : Preserves I m) : Preserves I (ignore m) := by
  intro s hs
  rw [wp_ignore]
  exact hm s hs

/-- Returning the error keeps it. -/
protected theorem errorOf (hm : Preserves I m) : Preserves I (errorOf m) := by
  intro s hs
  rw [wp_errorOf]
  exact hm s hs

/-- Returning the outcome keeps it. -/
protected theorem attempt (hm : Preserves I m) : Preserves I (attempt m) := by
  intro s hs
  rw [wp_attempt]
  exact hm s hs

/-- Changing the error keeps it. -/
protected theorem mapError {f : ε → ε} (hm : Preserves I m) : Preserves I (mapError f m) := by
  intro s hs
  rw [wp_mapError]
  exact hm s hs

/-- Kept whether or not it is run. -/
protected theorem when {m : Proc σ ε Unit} (c : Prop) [Decidable c] (hm : Preserves I m) :
    Preserves I (when c m) := by
  intro s hs
  rw [wp_when]
  exact ⟨fun _ => hm s hs, fun _ => hs⟩

/-- A test keeps every invariant. -/
protected theorem ensure (c : Prop) [Decidable c] (e : ε) :
    Preserves I (ensure c e : Proc σ ε Unit) := by
  intro s hs
  rw [wp_ensure]
  exact ⟨fun _ => hs, fun _ => hs⟩

/-- So does looking for a value. -/
protected theorem okOr (o : Option α) (e : ε) : Preserves I (okOr o e : Proc σ ε α) := by
  intro s hs
  rw [wp_okOr]
  exact ⟨fun _ _ => hs, fun _ => hs⟩

/-- So does a pure result. -/
protected theorem lift (r : Except ε α) : Preserves I (lift r : Proc σ ε α) := by
  intro s hs
  rw [wp_lift]
  exact ⟨fun _ _ => hs, fun _ _ => hs⟩

/-- Kept when both branches keep it. -/
protected theorem ite {c : Prop} [Decidable c] {n : Proc σ ε α} (hm : Preserves I m)
    (hn : Preserves I n) : Preserves I (if c then m else n) := by
  by_cases h : c
  · rw [if_pos h]
    exact hm
  · rw [if_neg h]
    exact hn

end Preserves

/-! ## Triples -/

/-- Started in `P`, the program `m` returns into `Q`, fails into `E`, or is killed in `C`. -/
def Triple (P : σ → Prop) (m : Proc σ ε α) (Q : α → σ → Prop) (E : ε → σ → Prop)
    (C : σ → Prop) : Prop :=
  ∀ s, P s → wp m Q E C s

namespace Triple

variable {P : σ → Prop} {m : Proc σ ε α} {Q : α → σ → Prop} {R : β → σ → Prop}
  {E : ε → σ → Prop} {C : σ → Prop}

/-- The postcondition of the first part is the precondition of the rest. -/
protected theorem bind (hm : Triple P m Q E C) (hf : ∀ a, Triple (Q a) (f a) R E C) :
    Triple P (m >>= f) R E C := by
  intro s hs
  rw [wp_bind]
  exact wp_mono (hm s hs) (fun a s' h => hf a s' h) (fun _ _ h => h) (fun _ h => h)

/-- A value returned has to meet the postcondition already. -/
protected theorem pure {a : α} (h : ∀ s, P s → Q a s) :
    Triple P (Pure.pure a : Proc σ ε α) Q E C := h

/-- A failure has to meet the error condition already. -/
protected theorem fail {e : ε} (h : ∀ s, P s → E e s) : Triple P (fail e : Proc σ ε α) Q E C := h

/-- The rule of consequence. -/
theorem conseq {P' : σ → Prop} {Q' : α → σ → Prop} {E' : ε → σ → Prop} {C' : σ → Prop}
    (h : Triple P m Q E C) (hP : ∀ s, P' s → P s) (hQ : ∀ a s, Q a s → Q' a s)
    (hE : ∀ e s, E e s → E' e s) (hC : ∀ s, C s → C' s) : Triple P' m Q' E' C' :=
  fun s hs => wp_mono (h s (hP s hs)) hQ hE hC

/-- The precondition may be strengthened. -/
theorem pre {P' : σ → Prop} (h : Triple P m Q E C) (hP : ∀ s, P' s → P s) :
    Triple P' m Q E C :=
  fun s hs => h s (hP s hs)

/-- The postcondition may be weakened. -/
theorem post {Q' : α → σ → Prop} (h : Triple P m Q E C) (hQ : ∀ a s, Q a s → Q' a s) :
    Triple P m Q' E C :=
  fun s hs => wp_mono (h s hs) hQ (fun _ _ h => h) (fun _ h => h)

/-- What holds of no state but a given one can be taken out of the precondition. -/
theorem exists_pre {ι : Type} {P : ι → σ → Prop} (h : ∀ i, Triple (P i) m Q E C) :
    Triple (fun s => ∃ i, P i s) m Q E C :=
  fun s hs => hs.elim fun i hi => h i s hi

/-- What does not speak of the state may be assumed. -/
theorem and_pre {p : Prop} (h : p → Triple P m Q E C) : Triple (fun s => P s ∧ p) m Q E C :=
  fun s hs => h hs.2 s hs.1

/-- Each branch may assume its condition. -/
protected theorem ite {c : Prop} [Decidable c] {n : Proc σ ε α} (hm : c → Triple P m Q E C)
    (hn : ¬ c → Triple P n Q E C) : Triple P (if c then m else n) Q E C := by
  by_cases h : c
  · rw [if_pos h]
    exact hm h
  · rw [if_neg h]
    exact hn h

/-- What follows a test may assume it. -/
theorem ensure_bind {c : Prop} [Decidable c] {e : ε} {f : Unit → Proc σ ε β}
    (hf : c → Triple P (f ()) R E C) (he : ∀ s, P s → E e s) :
    Triple P (ensure c e >>= f) R E C := by
  intro s hs
  rw [wp_bind, wp_ensure]
  exact ⟨fun hc => hf hc s hs, fun _ => he s hs⟩

/-- What follows may assume that the value was there. -/
theorem okOr_bind {o : Option α} {e : ε} (hf : ∀ a, o = some a → Triple P (f a) R E C)
    (he : ∀ s, P s → E e s) :
    Triple P (okOr o e >>= f) R E C := by
  intro s hs
  rw [wp_bind, wp_okOr]
  exact ⟨fun a ha => hf a ha s hs, fun _ => he s hs⟩

/-- What follows may assume the pure result. -/
theorem lift_bind {r : Except ε α} (hf : ∀ a, r = .ok a → Triple P (f a) R E C)
    (he : ∀ e s, P s → E e s) :
    Triple P (lift r >>= f) R E C := by
  intro s hs
  rw [wp_bind, wp_lift]
  exact ⟨fun a ha => hf a ha s hs, fun e _ => he e s hs⟩

/-- What is not run has to meet the postcondition already. -/
protected theorem when {c : Prop} [Decidable c] {m : Proc σ ε Unit} {Q : Unit → σ → Prop}
    (hm : c → Triple P m Q E C) (hn : ¬ c → ∀ s, P s → Q () s) :
    Triple P (when c m) Q E C := by
  intro s hs
  rw [wp_when]
  exact ⟨fun hc => hm hc s hs, fun hc => hn hc s hs⟩

/-- The handler starts under the error condition. -/
protected theorem handle {h : ε → Proc σ ε α} {E' : ε → σ → Prop} (hm : Triple P m Q E' C)
    (hh : ∀ e, Triple (E' e) (h e) Q E C) : Triple P (handle m h) Q E C := by
  intro s hs
  rw [wp_handle]
  exact wp_mono (hm s hs) (fun _ _ h => h) (fun e s' h => hh e s' h) (fun _ h => h)

/-- The error condition is asked of the new error. -/
protected theorem mapError {f : ε → ε} {E' : ε → σ → Prop} (hm : Triple P m Q E' C)
    (he : ∀ e s, E' e s → E (f e) s) : Triple P (mapError f m) Q E C := by
  intro s hs
  rw [wp_mapError]
  exact wp_mono (hm s hs) (fun _ _ h => h) he (fun _ h => h)

/-- The rest is proved for a return and for a failure. -/
theorem attempt_bind {f : Except ε α → Proc σ ε β} {E' : ε → σ → Prop}
    (hm : Triple P m Q E' C) (hok : ∀ a, Triple (Q a) (f (.ok a)) R E C)
    (herr : ∀ e, Triple (E' e) (f (.error e)) R E C) : Triple P (attempt m >>= f) R E C := by
  intro s hs
  rw [wp_bind, wp_attempt]
  exact wp_mono (hm s hs) (fun a s' h => hok a s' h) (fun e s' h => herr e s' h) (fun _ h => h)

/-- A durable write: whatever it reports, the state is the old one or the new one. -/
protected theorem durable {write : Write} {e : ε} {f : σ → σ} {Q : Unit → σ → Prop}
    (hQ : ∀ s, P s → Q () (f s)) (hE : ∀ s, P s → E e (f s) ∧ E e s)
    (hC : ∀ s, P s → C (f s) ∧ C s) : Triple P (durable write e f) Q E C := by
  intro s hs
  unfold wp durable
  cases write with
  | done => exact hQ s hs
  | failed landed =>
    cases landed with
    | true => exact (hE s hs).1
    | false => exact (hE s hs).2
  | killed landed =>
    cases landed with
    | true => exact (hC s hs).1
    | false => exact (hC s hs).2

end Triple

end Proc

/-! ## Runs -/

/-- An invariant of the start state that every step keeps holds in every state of a run. -/
theorem reachable_induction {σ : Type} {step : σ → σ → Prop} {I : σ → Prop} {s₀ s : σ}
    (hrun : Relation.ReflTransGen step s₀ s) (h₀ : I s₀)
    (hstep : ∀ s s', I s → step s s' → I s') : I s := by
  induction hrun with
  | refl => exact h₀
  | tail _ h ih => exact hstep _ _ ih h

end CandyRuntime.Lib
