import Mathlib.Logic.Relation

/-!
# Runs of a system that steps on events

The events of several parties happen in any order. `step` is `none` for an event that cannot happen.
-/

namespace CandyRuntime.Lib.Interleaving

variable {σ ε : Type} {step : σ → ε → Option σ} {s t : σ}

/-- One state after another. -/
def Reaches (step : σ → ε → Option σ) : σ → σ → Prop :=
  Relation.ReflTransGen fun s t => ∃ event, step s event = some t

/-- The state after these events, `none` if one of them cannot happen. -/
def run (step : σ → ε → Option σ) (s : σ) (events : List ε) : Option σ := events.foldlM step s

theorem Reaches.single {event : ε} (h : step s event = some t) : Reaches step s t :=
  Relation.ReflTransGen.single ⟨event, h⟩

theorem reaches_of_run (events : List ε) (h : run step s events = some t) : Reaches step s t := by
  induction events generalizing s with
  | nil => exact Option.some.inj h ▸ .refl
  | cons event events ih =>
    unfold run at h
    rw [List.foldlM_cons] at h
    obtain ⟨s', hstep, hrest⟩ := Option.bind_eq_some_iff.mp h
    exact (Reaches.single hstep).trans (ih hrest)

theorem reaches_run (events : List ε) (h : (run step s events).isSome) :
    Reaches step s ((run step s events).get h) :=
  reaches_of_run events (Option.some_get h).symm

/-- What each step keeps, every run keeps. -/
theorem Reaches.invariant {P : σ → Prop} (h : Reaches step s t) (hs : P s)
    (hstep : ∀ s t event, P s → step s event = some t → P t) : P t := by
  induction h with
  | refl => exact hs
  | tail _ hlast ih =>
    obtain ⟨event, hevent⟩ := hlast
    exact hstep _ _ event ih hevent

end CandyRuntime.Lib.Interleaving
