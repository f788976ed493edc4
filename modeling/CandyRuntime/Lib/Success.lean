import CandyRuntime.Lib.Proc

/-!
# Programs that return

`Succeeds m Q s` says that `m`, run from `s`, returns a value and leaves a state that satisfy
`Q`: no error and no kill. Its rules are equivalences, so rewriting with them turns the success
of a program into the conjunction of everything the program asks for on its way.
-/

namespace CandyRuntime.Lib.Proc

variable {σ ε α β : Type} {Q : α → σ → Prop} {R : β → σ → Prop} {s : σ} {f : α → Proc σ ε β}

/-- Run from `s`, the program `m` returns into `Q`. -/
def Succeeds (m : Proc σ ε α) (Q : α → σ → Prop) (s : σ) : Prop :=
  wp m Q (fun _ _ => False) (fun _ => False) s

/-- Success as an equation of the run. -/
theorem succeeds_iff (m : Proc σ ε α) :
    Succeeds m Q s ↔ ∃ a s', m s = (.ok a, s') ∧ Q a s' := by
  unfold Succeeds wp
  constructor
  · intro h
    split at h
    · next a s' heq => exact ⟨a, s', heq, h⟩
    · exact h.elim
    · exact h.elim
  · rintro ⟨a, s', heq, h⟩
    rw [heq]
    exact h

@[simp] theorem succeeds_pure (a : α) : Succeeds (pure a : Proc σ ε α) Q s ↔ Q a s := Iff.rfl

/-- A sequence returns if its second part returns from wherever the first one does. -/
@[simp] theorem succeeds_bind (m : Proc σ ε α) (f : α → Proc σ ε β) :
    Succeeds (m >>= f) R s ↔ Succeeds m (fun a => Succeeds (f a) R) s := by
  unfold Succeeds
  rw [wp_bind]

@[simp] theorem succeeds_fail (e : ε) : Succeeds (fail e : Proc σ ε α) Q s ↔ False := Iff.rfl

@[simp] theorem succeeds_get {Q : σ → σ → Prop} : Succeeds (get : Proc σ ε σ) Q s ↔ Q s s :=
  Iff.rfl

@[simp] theorem succeeds_modify (f : σ → σ) {Q : Unit → σ → Prop} :
    Succeeds (modify f : Proc σ ε Unit) Q s ↔ Q () (f s) := Iff.rfl

/-- A check asks for its condition. -/
@[simp] theorem succeeds_ensure (c : Prop) [Decidable c] (e : ε) {Q : Unit → σ → Prop} :
    Succeeds (ensure c e : Proc σ ε Unit) Q s ↔ c ∧ Q () s := by
  unfold Succeeds
  rw [wp_ensure]
  by_cases h : c
  · simp [h]
  · simp [h]

/-- A conditional step asks for something only if it is taken. -/
@[simp] theorem succeeds_when (c : Prop) [Decidable c] (m : Proc σ ε Unit)
    {Q : Unit → σ → Prop} :
    Succeeds (when c m) Q s ↔ (c → Succeeds m Q s) ∧ (¬ c → Q () s) := by
  unfold Succeeds
  rw [wp_when]

/-- An option asks for a value. -/
@[simp] theorem succeeds_okOr (o : Option α) (e : ε) :
    Succeeds (okOr o e : Proc σ ε α) Q s ↔ ∃ a, o = some a ∧ Q a s := by
  unfold Succeeds
  rw [wp_okOr]
  cases o with
  | none => simp
  | some a => simp

/-- A result asks for a value. -/
theorem succeeds_lift (r : Except ε α) :
    Succeeds (lift r : Proc σ ε α) Q s ↔ ∃ a, r = .ok a ∧ Q a s := by
  unfold Succeeds
  rw [wp_lift]
  cases r with
  | ok a => simp
  | error e => simp

/-- A branch asks for what it does. -/
theorem succeeds_ite (c : Prop) [Decidable c] (m n : Proc σ ε α) :
    Succeeds (if c then m else n) Q s ↔ (c → Succeeds m Q s) ∧ (¬ c → Succeeds n Q s) :=
  wp_ite c m n

/-! ## Programs that may return -/

/-- Started in `P`, the program `m` returns into `Q` if it returns at all. -/
def Yields (P : σ → Prop) (m : Proc σ ε α) (Q : α → σ → Prop) : Prop :=
  Triple P m Q (fun _ _ => True) (fun _ => True)

/-- The program ends in an error or is killed. -/
def NeverReturns (m : Proc σ ε α) : Prop := ∀ s a s', m s ≠ (.ok a, s')

theorem neverReturns_fail (e : ε) : NeverReturns (fail e : Proc σ ε α) := by
  intro s a s' h
  cases h

/-- Nothing returns if what comes last does not. -/
theorem neverReturns_bind {m : Proc σ ε α} (hf : ∀ a, NeverReturns (f a)) :
    NeverReturns (m >>= f) := by
  intro s b s' h
  rcases hm : m s with ⟨a | e | _, t⟩
  · rw [bind_of_ok hm] at h
    exact hf a t b s' h
  · rw [bind_of_err hm] at h
    cases h
  · rw [bind_of_crash hm] at h
    cases h

/-- Nothing follows a program that does not return. -/
theorem neverReturns_of_first {m : Proc σ ε α} (hm : NeverReturns m) :
    NeverReturns (m >>= f) := by
  intro s b s' h
  rcases hrun : m s with ⟨a | e | _, t⟩
  · exact hm s a t hrun
  · rw [bind_of_err hrun] at h
    cases h
  · rw [bind_of_crash hrun] at h
    cases h

/-- A check that is not met ends the program. -/
theorem neverReturns_ensure {c : Prop} [Decidable c] {e : ε} (hc : ¬ c) :
    NeverReturns (ensure c e : Proc σ ε Unit) := by
  rw [ensure, if_neg hc]
  exact neverReturns_fail e

namespace Yields

variable {P : σ → Prop} {m : Proc σ ε α}

/-- A run that has returned is in the postcondition. -/
theorem of_eq {a : α} {s' : σ} (h : Yields P m Q) (hs : P s) (hrun : m s = (.ok a, s')) :
    Q a s' := by
  have hwp := h s hs
  rwa [wp, hrun] at hwp

/-- A program that never returns returns into anything. -/
theorem of_neverReturns (h : NeverReturns m) : Yields P m Q := by
  intro s _
  unfold wp
  split
  · next a s' heq => exact absurd heq (h s a s')
  · trivial
  · trivial

/-- What is preserved holds at the return. -/
theorem of_preserves (hm : Preserves P m) : Yields P m fun _ => P :=
  fun s hs => wp_mono (hm s hs) (fun _ _ h => h) (fun _ _ _ => trivial) fun _ _ => trivial

protected theorem pure {a : α} (h : ∀ s, P s → Q a s) :
    Yields P (Pure.pure a : Proc σ ε α) Q := h

protected theorem bind (hm : Yields P m Q) (hf : ∀ a, Yields (Q a) (f a) R) :
    Yields P (m >>= f) R :=
  Triple.bind hm hf

theorem pre {P' : σ → Prop} (h : Yields P m Q) (hP : ∀ s, P' s → P s) : Yields P' m Q :=
  Triple.pre h hP

theorem post {Q' : α → σ → Prop} (h : Yields P m Q) (hQ : ∀ a s, Q a s → Q' a s) :
    Yields P m Q' :=
  Triple.post h hQ

theorem ensure_bind {c : Prop} [Decidable c] {e : ε} {f : Unit → Proc σ ε β}
    (hf : c → Yields P (f ()) R) : Yields P (ensure c e >>= f) R :=
  Triple.ensure_bind hf fun _ _ => trivial

theorem lift_bind {r : Except ε α} (hf : ∀ a, r = .ok a → Yields P (f a) R) : Yields P (lift r >>= f) R :=
  Triple.lift_bind hf fun _ _ _ => trivial

theorem okOr_bind {o : Option α} {e : ε} (hf : ∀ a, o = some a → Yields P (f a) R) :
    Yields P (okOr o e >>= f) R :=
  Triple.okOr_bind hf fun _ _ => trivial

protected theorem when {c : Prop} [Decidable c] {m : Proc σ ε Unit} {Q : Unit → σ → Prop}
    (hm : c → Yields P m Q) (hn : ¬ c → ∀ s, P s → Q () s) : Yields P (when c m) Q :=
  Triple.when hm hn

protected theorem mapError {f : ε → ε} (hm : Yields P m Q) : Yields P (mapError f m) Q :=
  Triple.mapError hm fun _ _ _ => trivial

/-- The handler does not return, so the program returns as `m` does. -/
protected theorem handle {h : ε → Proc σ ε α} (hm : Yields P m Q) (hh : ∀ e, NeverReturns (h e)) :
    Yields P (handle m h) Q :=
  Triple.handle hm fun e => of_neverReturns (hh e)

end Yields

/-! ## Programs that do return -/

/-- Started in `P`, the program `m` returns into `Q`. -/
def Delivers (P : σ → Prop) (m : Proc σ ε α) (Q : α → σ → Prop) : Prop :=
  Triple P m Q (fun _ _ => False) (fun _ => False)

namespace Delivers

variable {P : σ → Prop} {m : Proc σ ε α}

/-- The run of a program that does return. -/
theorem eq (h : Delivers P m Q) (hs : P s) : ∃ a s', m s = (.ok a, s') ∧ Q a s' :=
  (succeeds_iff m).mp (h s hs)

protected theorem pure {a : α} (h : ∀ s, P s → Q a s) :
    Delivers P (Pure.pure a : Proc σ ε α) Q := h

protected theorem bind (hm : Delivers P m Q) (hf : ∀ a, Delivers (Q a) (f a) R) : Delivers P (m >>= f) R :=
  Triple.bind hm hf

theorem ensure_bind {c : Prop} [Decidable c] {e : ε} {f : Unit → Proc σ ε β} (hc : c)
    (hf : Delivers P (f ()) R) : Delivers P (ensure c e >>= f) R := by
  intro s hs
  rw [wp_bind, wp_ensure]
  exact ⟨fun _ => hf s hs, fun h => (h hc).elim⟩

theorem okOr_bind {o : Option α} {e : ε} {a : α} (ha : o = some a)
    (hf : Delivers P (f a) R) : Delivers P (okOr o e >>= f) R := by
  intro s hs
  rw [ha, wp_bind, wp_okOr_some]
  exact hf s hs

theorem lift_bind {r : Except ε α} {a : α} (ha : r = .ok a)
    (hf : Delivers P (f a) R) : Delivers P (lift r >>= f) R := by
  intro s hs
  rw [ha]
  exact hf s hs

/-- A conditional step that is not taken. -/
theorem when_false {c : Prop} [Decidable c] {m : Proc σ ε Unit} {Q : Unit → σ → Prop}
    (hc : ¬ c) (h : ∀ s, P s → Q () s) : Delivers P (when c m) Q := by
  intro s hs
  rw [wp_when]
  exact ⟨fun h' => (hc h').elim, fun _ => h s hs⟩

end Delivers

end CandyRuntime.Lib.Proc
