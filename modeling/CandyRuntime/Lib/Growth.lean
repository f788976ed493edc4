import CandyRuntime.Lib.Success
import Mathlib.Order.Basic

/-!
# Programs over a state that grows

`Establishes m Q` says that a program only adds to its state, and that a value which it returns satisfies
`Q` in every later state: so what the parts of a program establish holds together at its end. `Lockstep`
compares two programs that write the same log: they go on in the same state as long as their logs can
still be the same.
-/

namespace CandyRuntime.Lib.Proc

variable {σ ε α β γ δ : Type} [Preorder σ]

/-! ## Facts that stay -/

/-- If `m` returns, its state has grown, and its value satisfies `Q` from then on. -/
def Establishes (m : Proc σ ε α) (Q : σ → α → Prop) : Prop :=
  ∀ s a t, m s = (.ok a, t) → s ≤ t ∧ ∀ u, t ≤ u → Q u a

namespace Establishes

variable {m : Proc σ ε α} {Q : σ → α → Prop} {R : α → σ → β → Prop}

protected theorem mono {Q' : σ → α → Prop} (h : Establishes m Q) (hQ : ∀ u a, Q u a → Q' u a) :
    Establishes m Q' := by
  intro s a t hrun
  obtain ⟨hle, hlater⟩ := h s a t hrun
  exact ⟨hle, fun u hu => hQ u a (hlater u hu)⟩

protected theorem pure {a : α} (h : ∀ u, Q u a) : Establishes (Pure.pure a : Proc σ ε α) Q := by
  intro s b t hrun
  cases hrun
  exact ⟨le_rfl, fun u _ => h u⟩

protected theorem fail {e : ε} : Establishes (fail e : Proc σ ε α) Q := by
  intro s a t hrun
  cases hrun

/-- What both parts establish holds at the end. -/
protected theorem bind {f : α → Proc σ ε β} {S : σ → β → Prop} (hm : Establishes m Q)
    (hf : ∀ a, Establishes (f a) (R a)) (hS : ∀ u a b, Q u a → R a u b → S u b) :
    Establishes (m >>= f) S := by
  intro s b t hrun
  rcases hfirst : m s with ⟨a | e | _, s'⟩
  · rw [bind_of_ok hfirst] at hrun
    obtain ⟨hle, hlater⟩ := hm s a s' hfirst
    obtain ⟨hle', hlater'⟩ := hf a s' b t hrun
    exact ⟨hle.trans hle', fun u hu => hS u a b (hlater u (hle'.trans hu)) (hlater' u hu)⟩
  · rw [bind_of_err hfirst] at hrun
    cases hrun
  · rw [bind_of_crash hfirst] at hrun
    cases hrun

theorem andThen {f : α → Proc σ ε β} (hm : Establishes m Q) (hf : ∀ a, Establishes (f a) (R a)) :
    Establishes (m >>= f) fun u b => ∃ a, Q u a ∧ R a u b :=
  hm.bind hf fun _ a _ hQ hR => ⟨a, hQ, hR⟩

/-- A last step that only computes. -/
protected theorem map {f : α → β} {S : σ → β → Prop} (hm : Establishes m Q)
    (hS : ∀ u a, Q u a → S u (f a)) : Establishes (m >>= fun a => Pure.pure (f a)) S :=
  hm.bind (R := fun a _ b => b = f a) (fun _ => Establishes.pure fun _ => rfl)
    fun u a _ hQ hb => hb ▸ hS u a hQ

theorem okOr_bind {o : Option α} {e : ε} {f : α → Proc σ ε β} {S : σ → β → Prop}
    (hf : ∀ a, o = some a → Establishes (f a) S) : Establishes (okOr o e >>= f) S := by
  cases o with
  | none => exact fun _ _ _ hrun => by cases hrun
  | some a => exact hf a rfl

theorem ensure_bind {c : Prop} [Decidable c] {e : ε} {f : Unit → Proc σ ε β} {S : σ → β → Prop}
    (hf : c → Establishes (f ()) S) : Establishes (ensure c e >>= f) S := by
  unfold ensure
  by_cases h : c
  · rw [if_pos h]
    exact hf h
  · rw [if_neg h]
    exact fun _ _ _ hrun => by cases hrun

theorem get_bind {f : σ → Proc σ ε β} {S : σ → β → Prop} (hf : ∀ s, Establishes (f s) S) :
    Establishes (get >>= f) S :=
  fun s b t hrun => hf s s b t hrun

end Establishes

/-- A program that only adds to its state. -/
def Grows (m : Proc σ ε α) : Prop := Establishes m fun _ _ => True

namespace Grows

variable {m : Proc σ ε α}

theorem of_establishes {Q : σ → α → Prop} (h : Establishes m Q) : Grows m :=
  h.mono fun _ _ _ => trivial

protected theorem pure (a : α) : Grows (Pure.pure a : Proc σ ε α) := Establishes.pure fun _ => trivial

protected theorem fail (e : ε) : Grows (fail e : Proc σ ε α) := Establishes.fail

protected theorem bind {f : α → Proc σ ε β} (hm : Grows m) (hf : ∀ a, Grows (f a)) :
    Grows (m >>= f) :=
  Establishes.bind hm hf fun _ _ _ _ _ => trivial

protected theorem okOr (o : Option α) (e : ε) : Grows (okOr o e : Proc σ ε α) := by
  cases o with
  | none => exact Grows.fail e
  | some a => exact Grows.pure a

protected theorem ensure (c : Prop) [Decidable c] (e : ε) : Grows (ensure c e : Proc σ ε Unit) := by
  unfold ensure
  by_cases h : c
  · rw [if_pos h]
    exact Grows.pure ()
  · rw [if_neg h]
    exact Grows.fail e

protected theorem get : Grows (get : Proc σ ε σ) := by
  intro s a t hrun
  cases hrun
  exact ⟨le_rfl, fun _ _ => trivial⟩

protected theorem modify {f : σ → σ} (hf : ∀ s, s ≤ f s) : Grows (modify f : Proc σ ε Unit) := by
  intro s a t hrun
  cases hrun
  exact ⟨hf s, fun _ _ => trivial⟩

end Grows

/-! ## Two programs in lockstep -/

/-- Started in one state, two programs that end below one state end in the same state, and their values
are related. -/
def Lockstep (m : Proc σ ε α) (m' : Proc σ ε β) (R : α → β → Prop) : Prop :=
  ∀ s u a t b t', m s = (.ok a, t) → m' s = (.ok b, t') → t ≤ u → t' ≤ u → R a b ∧ t = t'

namespace Lockstep

variable {m : Proc σ ε α} {m' : Proc σ ε β} {R : α → β → Prop}

protected theorem mono {R' : α → β → Prop} (h : Lockstep m m' R) (hR : ∀ a b, R a b → R' a b) :
    Lockstep m m' R' := by
  intro s u a t b t' hrun hrun' ht ht'
  obtain ⟨hab, heq⟩ := h s u a t b t' hrun hrun' ht ht'
  exact ⟨hR a b hab, heq⟩

protected theorem pure {a : α} {b : β} (h : R a b) :
    Lockstep (Pure.pure a : Proc σ ε α) (Pure.pure b) R := by
  intro s u a' t b' t' hrun hrun' _ _
  cases hrun
  cases hrun'
  exact ⟨h, rfl⟩

protected theorem bind {f : α → Proc σ ε γ} {f' : β → Proc σ ε δ} {S : γ → δ → Prop}
    (hm : Lockstep m m' R) (hf : ∀ a b, R a b → Lockstep (f a) (f' b) S) (hgrows : ∀ a, Grows (f a))
    (hgrows' : ∀ b, Grows (f' b)) : Lockstep (m >>= f) (m' >>= f') S := by
  intro s u c t d t' hrun hrun' ht ht'
  rcases hfirst : m s with ⟨a | e | _, s₁⟩
  · rcases hfirst' : m' s with ⟨b | e | _, s₁'⟩
    · rw [bind_of_ok hfirst] at hrun
      rw [bind_of_ok hfirst'] at hrun'
      -- the middle states are below the last ones, so they are the same
      have hle : s₁ ≤ t := (hgrows a s₁ c t hrun).1
      have hle' : s₁' ≤ t' := (hgrows' b s₁' d t' hrun').1
      obtain ⟨hab, heq⟩ :=
        hm s u a s₁ b s₁' hfirst hfirst' (hle.trans ht) (hle'.trans ht')
      rw [← heq] at hrun'
      exact hf a b hab s₁ u c t d t' hrun hrun' ht ht'
    · rw [bind_of_err hfirst'] at hrun'
      cases hrun'
    · rw [bind_of_crash hfirst'] at hrun'
      cases hrun'
  · rw [bind_of_err hfirst] at hrun
    cases hrun
  · rw [bind_of_crash hfirst] at hrun
    cases hrun

/-- One program after the other, when the values do not matter. -/
theorem seq {n : Proc σ ε γ} {n' : Proc σ ε δ} {P Q : Prop} (hm : Lockstep m m' fun _ _ => P)
    (hn : Lockstep n n' fun _ _ => Q) (hgrows : Grows n) (hgrows' : Grows n') :
    Lockstep (m >>= fun _ => n) (m' >>= fun _ => n') fun _ _ => P ∧ Q :=
  hm.bind (fun _ _ hP => hn.mono fun _ _ hQ => ⟨hP, hQ⟩) (fun _ => hgrows) fun _ => hgrows'

protected theorem okOr (o : Option α) (e e' : ε) :
    Lockstep (okOr o e : Proc σ ε α) (okOr o e') fun a b => a = b ∧ o = some a := by
  cases o with
  | none => exact fun _ _ _ _ _ _ hrun => by cases hrun
  | some a => exact Lockstep.pure ⟨rfl, rfl⟩

protected theorem ensure (c c' : Prop) [Decidable c] [Decidable c'] (e e' : ε) :
    Lockstep (ensure c e : Proc σ ε Unit) (ensure c' e') fun _ _ => c ∧ c' := by
  unfold ensure
  by_cases h : c
  · by_cases h' : c'
    · rw [if_pos h, if_pos h']
      exact Lockstep.pure ⟨h, h'⟩
    · rw [if_neg h']
      exact fun _ _ _ _ _ _ _ hrun => by cases hrun
  · rw [if_neg h]
    exact fun _ _ _ _ _ _ hrun => by cases hrun

protected theorem get : Lockstep (get : Proc σ ε σ) get fun s s' => s = s' := by
  intro s u a t b t' hrun hrun' _ _
  cases hrun
  cases hrun'
  exact ⟨rfl, rfl⟩

protected theorem modify (f : σ → σ) :
    Lockstep (modify f : Proc σ ε Unit) (modify f) fun _ _ => True := by
  intro s u a t b t' hrun hrun' _ _
  cases hrun
  cases hrun'
  exact ⟨trivial, rfl⟩

end Lockstep

end CandyRuntime.Lib.Proc
