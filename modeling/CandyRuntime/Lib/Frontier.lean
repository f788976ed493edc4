import Mathlib.Data.Finset.Card
import Mathlib.Data.Nat.Notation

/-!
# The contiguous frontier of a set of numbers

Numbers that are settled in any order, and the frontier below which none is missing. `catchUp` moves
the frontier over the settled numbers behind it and takes them out of the set.
-/

namespace CandyRuntime.Lib

/-- Moves the frontier on while the next number is settled, at most `fuel` times. -/
def catchUp : ℕ → ℕ → Finset ℕ → ℕ × Finset ℕ
  | 0, frontier, settled => (frontier, settled)
  | fuel + 1, frontier, settled =>
    if frontier + 1 ∈ settled then catchUp fuel (frontier + 1) (settled.erase (frontier + 1))
    else (frontier, settled)

variable {fuel frontier n : ℕ} {settled : Finset ℕ}

/-- What is left was there. -/
theorem catchUp_subset (fuel frontier : ℕ) (settled : Finset ℕ) :
    (catchUp fuel frontier settled).2 ⊆ settled := by
  induction fuel generalizing frontier settled with
  | zero => exact Finset.Subset.rfl
  | succ fuel ih =>
    unfold catchUp
    split_ifs
    · exact (ih _ _).trans (Finset.erase_subset _ _)
    · exact Finset.Subset.rfl

/-- The frontier passes settled numbers only. -/
theorem mem_of_le_catchUp (hlt : frontier < n) (hle : n ≤ (catchUp fuel frontier settled).1) :
    n ∈ settled := by
  induction fuel generalizing frontier settled with
  | zero => exact absurd (show n ≤ frontier from hle) (Nat.not_le.mpr hlt)
  | succ fuel ih =>
    unfold catchUp at hle
    split_ifs at hle with hnext
    · by_cases hn : n = frontier + 1
      · exact hn ▸ hnext
      · exact Finset.mem_of_mem_erase (ih (by omega) hle)
    · exact absurd hle (Nat.not_le.mpr hlt)

end CandyRuntime.Lib
