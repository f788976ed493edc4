import Mathlib.Data.Fintype.EquivFin

/-!
# Matching two lists

A check that looks up each entry of one list in another list of the same length. When every search
finds one entry, and no entry is found by two searches, the lists are matched one to one, and there
is no other way to match them.
-/

namespace CandyRuntime.Lib

variable {α β : Type}

/-- A search that finds one entry finds it at one place. -/
theorem exists_index_of_filter {p : β → Bool} {ys : List β} {y : β} (h : ys.filter p = [y]) :
    ∃ j : Fin ys.length, ys[j] = y ∧ ∀ k : Fin ys.length, p ys[k] = true → k = j := by
  have hy : y ∈ ys.filter p := by simp [h]
  obtain ⟨n, hn, hget⟩ := List.getElem_of_mem (List.mem_filter.mp hy).1
  have hpy : p y = true := (List.mem_filter.mp hy).2
  refine ⟨⟨n, hn⟩, hget, fun k hk => ?_⟩
  by_contra hne
  -- two places would leave two entries
  have hne : (k : ℕ) ≠ n := fun heq => hne (Fin.ext heq)
  have hcount : ys.countP p = 1 := by rw [List.countP_eq_length_filter, h]; rfl
  have htwo : 2 ≤ ys.countP p := by
    rcases Nat.lt_or_gt_of_ne hne with hlt | hlt
    · exact two_le_countP hlt hn hk (by rw [hget]; exact hpy)
    · exact two_le_countP hlt k.isLt (by rw [hget]; exact hpy) hk
  omega
where
  two_le_countP {p : β → Bool} {ys : List β} {i j : ℕ} (hij : i < j) (hj : j < ys.length)
      (hi : p ys[i] = true) (hpj : p ys[j] = true) : 2 ≤ ys.countP p := by
    have hsplit : ys = ys.take (i + 1) ++ ys.drop (i + 1) := (List.take_append_drop _ _).symm
    have hfirst : 0 < (ys.take (i + 1)).countP p := by
      refine List.countP_pos_iff.mpr ⟨ys[i], ?_, hi⟩
      exact List.mem_take_iff_getElem.mpr ⟨i, by omega, rfl⟩
    have hsecond : 0 < (ys.drop (i + 1)).countP p := by
      refine List.countP_pos_iff.mpr ⟨ys[j], ?_, hpj⟩
      exact List.mem_drop_iff_getElem.mpr ⟨j - (i + 1), by omega, by congr 1; omega⟩
    rw [hsplit, List.countP_append]
    omega

section

variable {xs : List α} {ys : List β} {finds : α → β → Bool}

/-- The lists are matched in exactly one way. -/
theorem existsUnique_matching (agree : α → β → Prop) (hlength : xs.length = ys.length)
    (hfound : ∀ i : Fin xs.length, ∃ y, ys.filter (finds xs[i]) = [y] ∧ agree xs[i] y)
    (hfinds : ∀ x y, agree x y → finds x y = true)
    (hdistinct : ∀ i j : Fin xs.length, ∀ y, finds xs[i] y = true → finds xs[j] y = true → i = j) :
    ∃! σ : Fin xs.length ≃ Fin ys.length, ∀ i, agree xs[i] ys[σ i] := by
  have hindex : ∀ i : Fin xs.length, ∃ j : Fin ys.length, agree xs[i] ys[j]
      ∧ ∀ k : Fin ys.length, finds xs[i] ys[k] = true → k = j := by
    intro i
    obtain ⟨y, hfilter, hagree⟩ := hfound i
    obtain ⟨j, hj, hunique⟩ := exists_index_of_filter hfilter
    exact ⟨j, hj ▸ hagree, hunique⟩
  choose f hf hunique using hindex
  have hinjective : Function.Injective f := by
    intro i j hij
    have hj := hfinds _ _ (hf j)
    simp only [← hij] at hj
    exact hdistinct i j ys[f i] (hfinds _ _ (hf i)) hj
  have hbijective : Function.Bijective f :=
    (Fintype.bijective_iff_injective_and_card f).mpr ⟨hinjective, by simpa using hlength⟩
  refine ⟨Equiv.ofBijective f hbijective, hf, fun τ hτ => ?_⟩
  refine Equiv.ext fun i => ?_
  exact hunique i (τ i) (hfinds _ _ (hτ i))

/-- What holds of every matched pair holds of every entry of the second list. -/
theorem forall_of_matching {σ : Fin xs.length ≃ Fin ys.length} {q : β → Prop}
    (h : ∀ i, q ys[σ i]) : ∀ y ∈ ys, q y := by
  intro y hy
  obtain ⟨n, hn, rfl⟩ := List.getElem_of_mem hy
  have hq := h (σ.symm ⟨n, hn⟩)
  simpa using hq

end

end CandyRuntime.Lib
