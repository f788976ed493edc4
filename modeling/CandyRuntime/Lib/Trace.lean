import Mathlib.Data.List.Basic

/-!
# Traces

A trace is a list of events with the latest one first. `Always P` says of every event that it and
what came before it are related by `P`: a safety property of the whole history that can be checked
as the events happen.
-/

namespace CandyRuntime.Lib

variable {α : Type} {P Q : α → List α → Prop} {trace : List α}

/-- Every event of the trace satisfies `P`, together with the events before it. -/
def Always (P : α → List α → Prop) : List α → Prop
  | [] => True
  | a :: earlier => P a earlier ∧ Always P earlier

@[simp] theorem always_nil : Always P [] := trivial

@[simp] theorem always_cons {a : α} : Always P (a :: trace) ↔ P a trace ∧ Always P trace := Iff.rfl

instance decidableAlways [∀ a earlier, Decidable (P a earlier)] :
    ∀ trace, Decidable (Always P trace)
  | [] => isTrue trivial
  | a :: earlier =>
    have : Decidable (Always P earlier) := decidableAlways earlier
    inferInstanceAs (Decidable (P a earlier ∧ Always P earlier))

theorem always_iff :
    Always P trace ↔ ∀ later a earlier, trace = later ++ a :: earlier → P a earlier := by
  induction trace with
  | nil => simp
  | cons a trace ih =>
    rw [always_cons, ih]
    constructor
    · rintro ⟨hnow, hbefore⟩ later b earlier heq
      cases later with
      | nil =>
        obtain ⟨rfl, rfl⟩ := List.cons.inj heq
        exact hnow
      | cons c later => exact hbefore later b earlier (List.cons.inj heq).2
    · intro h
      refine ⟨h [] a trace rfl, fun later b earlier heq => ?_⟩
      exact h (a :: later) b earlier (by rw [heq]; rfl)

theorem Always.of_append {new : List α} (h : Always P (new ++ trace)) : Always P trace := by
  induction new with
  | nil => exact h
  | cons a new ih => exact ih h.2

/-- Events about which `P` has nothing to say can be added. -/
theorem Always.append {new : List α} (h : Always P trace)
    (hnew : ∀ a ∈ new, ∀ earlier, P a earlier) : Always P (new ++ trace) := by
  induction new with
  | nil => exact h
  | cons a new ih =>
    refine ⟨hnew a List.mem_cons_self _, ih fun b hb => ?_⟩
    exact hnew b (List.mem_cons_of_mem a hb)

end CandyRuntime.Lib
