import Mathlib.Data.List.ReduceOption
import Mathlib.Algebra.BigOperators.Group.Multiset.Basic

/-!
# Arenas

A list of cells; a cell is filled when it is allocated, can be written while it is in use, and
is freed once. `live` is what the cells in use hold, each as often as it is held, so that a
count or a sum kept beside the arena can be compared with a count or a sum over `live`.
-/

namespace CandyRuntime.Lib

/-- The cells of an arena; a freed cell holds nothing. -/
abbrev Arena (α : Type) : Type := List (Option α)

namespace Arena

variable {α : Type} {a : Arena α} {i : ℕ} {x y : α}

/-- What the cell holds, if it is in use. -/
def get (a : Arena α) (i : ℕ) : Option α := a[i]?.join

/-- A new cell. Its index is the length of the old arena. -/
def alloc (a : Arena α) (x : α) : Arena α := a ++ [some x]

/-- The cell is written. -/
def write (a : Arena α) (i : ℕ) (y : α) : Arena α := a.set i (some y)

/-- The cell is freed. -/
def free (a : Arena α) (i : ℕ) : Arena α := a.set i none

/-- What the cells in use hold. -/
def live (a : Arena α) : Multiset α := (a.reduceOption : Multiset α)

theorem live_cons_some (a : Arena α) : live (some x :: a) = x ::ₘ live a := by
  simp [live, List.reduceOption_cons_of_some]

theorem live_cons_none (a : Arena α) : live (none :: a) = live a := by
  simp [live, List.reduceOption_cons_of_none]

theorem live_alloc (a : Arena α) (x : α) : (a.alloc x).live = x ::ₘ a.live := by
  induction a with
  | nil => rfl
  | cons c a ih =>
    cases c with
    | none =>
      show live (none :: alloc a x) = _
      rw [live_cons_none, live_cons_none, ih]
    | some z =>
      show live (some z :: alloc a x) = _
      rw [live_cons_some, live_cons_some, ih, Multiset.cons_swap]

/-- A cell in use is one of the live values, and the others do not depend on it. -/
theorem live_of_get (h : a.get i = some x) :
    ∃ rest : Multiset α, a.live = x ::ₘ rest ∧ (a.free i).live = rest
      ∧ ∀ y, (a.write i y).live = y ::ₘ rest := by
  induction a generalizing i with
  | nil => simp [get] at h
  | cons c a ih =>
    cases i with
    | zero =>
      have hc : c = some x := by simpa [get] using h
      subst hc
      refine ⟨live a, live_cons_some a, ?_, fun y => ?_⟩
      · exact live_cons_none a
      · exact live_cons_some a
    | succ i =>
      obtain ⟨rest, hlive, hfree, hwrite⟩ := ih (i := i) (by simpa [get] using h)
      cases c with
      | none =>
        refine ⟨rest, ?_, ?_, fun y => ?_⟩
        · rw [live_cons_none, hlive]
        · show live (none :: free a i) = rest
          rw [live_cons_none, hfree]
        · show live (none :: write a i y) = _
          rw [live_cons_none, hwrite]
      | some z =>
        refine ⟨z ::ₘ rest, ?_, ?_, fun y => ?_⟩
        · rw [live_cons_some, hlive, Multiset.cons_swap]
        · show live (some z :: free a i) = _
          rw [live_cons_some, hfree]
        · show live (some z :: write a i y) = _
          rw [live_cons_some, hwrite, Multiset.cons_swap]

theorem get_free (a : Arena α) (i j : ℕ) :
    (a.free i).get j = if j = i then none else a.get j := by
  by_cases hij : j = i
  · by_cases hlt : i < a.length <;> simp [get, free, hij, hlt]
  · rw [if_neg hij]
    simp [get, free, List.getElem?_set_ne (Ne.symm hij)]

/-- Every live value is in a cell. -/
theorem get_of_mem_live (h : x ∈ a.live) : ∃ i, a.get i = some x := by
  have hmem : some x ∈ a := List.reduceOption_mem_iff.mp (by simpa [live] using h)
  obtain ⟨i, hi⟩ := List.getElem?_of_mem hmem
  exact ⟨i, by simp [get, hi]⟩

end Arena

end CandyRuntime.Lib
