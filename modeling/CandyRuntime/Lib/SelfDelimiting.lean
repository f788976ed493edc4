import CandyRuntime.Lib.Bytes

/-!
# Texts that say where they end

`W a x` says that the value `a` is written as the text `x`. It is self-delimiting if a text that
starts with a written value starts with no other one, and nothing can move between the value and what
follows it.

* `SelfDelimiting.flatten`, several values behind one another, when it is known how many they are;
* `SelfDelimiting.counted`, a list behind its length;
* `framed_append_inj`, a byte string behind its length.
-/

namespace CandyRuntime.Lib

section
variable {α σ : Type} {W : α → List σ → Prop}

/-- What starts a text is the only value that starts it, and ends at the same place. -/
def SelfDelimiting (W : α → List σ → Prop) : Prop :=
  ∀ ⦃a b : α⦄ ⦃x y s t : List σ⦄, W a x → W b y → x ++ s = y ++ t → a = b ∧ s = t

/-- All values take the same room, and different ones are written differently. -/
theorem selfDelimiting_of_length {n : ℕ} (hlength : ∀ a x, W a x → x.length = n)
    (hinj : ∀ a b x, W a x → W b x → a = b) : SelfDelimiting W := by
  intro a b x y s t hx hy h
  have hsame : x.length = y.length := by rw [hlength a x hx, hlength b y hy]
  obtain ⟨rfl, hrest⟩ := List.append_inj h hsame
  exact ⟨hinj a b x hx hy, hrest⟩

namespace SelfDelimiting

/-- Values behind one another, as many on both sides. -/
theorem flatten (hW : SelfDelimiting W) {as bs : List α} {xs ys : List (List σ)} {s t : List σ}
    (hxs : List.Forall₂ W as xs) (hys : List.Forall₂ W bs ys) (hlength : as.length = bs.length)
    (h : xs.flatten ++ s = ys.flatten ++ t) : as = bs ∧ s = t := by
  induction hxs generalizing bs ys with
  | nil =>
    cases hys with
    | nil => exact ⟨rfl, h⟩
    | cons => cases hlength
  | cons ha _ ih =>
    cases hys with
    | nil => cases hlength
    | cons hb hys =>
      rw [List.flatten_cons, List.flatten_cons, List.append_assoc, List.append_assoc] at h
      obtain ⟨rfl, hrest⟩ := hW ha hb h
      obtain ⟨rfl, hend⟩ := ih hys (Nat.succ.inj hlength) hrest
      exact ⟨rfl, hend⟩

end SelfDelimiting

end

/-! ## Behind a length -/

theorem toBE_inj {k m n : ℕ} (hm : m < 256 ^ k) (hn : n < 256 ^ k) (h : toBE k m = toBE k n) :
    m = n := by
  rw [← fromBE_toBE hm, h, fromBE_toBE hn]

theorem toBE_append_inj {k m n : ℕ} {s t : Bytes} (hm : m < 256 ^ k) (hn : n < 256 ^ k)
    (h : toBE k m ++ s = toBE k n ++ t) : m = n ∧ s = t := by
  obtain ⟨hnumber, hrest⟩ := List.append_inj h (by rw [length_toBE, length_toBE])
  exact ⟨toBE_inj hm hn hnumber, hrest⟩

/-- A byte string behind its length. -/
def framed (k : ℕ) (bytes : Bytes) : Bytes := toBE k bytes.length ++ bytes

theorem framed_append_inj {k : ℕ} {x y s t : Bytes} (hx : x.length < 256 ^ k)
    (hy : y.length < 256 ^ k) (h : framed k x ++ s = framed k y ++ t) : x = y ∧ s = t := by
  unfold framed at h
  rw [List.append_assoc, List.append_assoc] at h
  obtain ⟨hlength, hrest⟩ := toBE_append_inj hx hy h
  exact List.append_inj hrest hlength

/-- A list behind its length, its entries behind one another. -/
def Counted {α : Type} (k : ℕ) (W : α → Bytes → Prop) (as : List α) (x : Bytes) : Prop :=
  as.length < 256 ^ k ∧ ∃ xs, List.Forall₂ W as xs ∧ x = toBE k as.length ++ xs.flatten

theorem SelfDelimiting.counted {α : Type} {k : ℕ} {W : α → Bytes → Prop} (hW : SelfDelimiting W) :
    SelfDelimiting (Counted k W) := by
  rintro as bs _ _ s t ⟨has, xs, hxs, rfl⟩ ⟨hbs, ys, hys, rfl⟩ h
  rw [List.append_assoc, List.append_assoc] at h
  obtain ⟨hlength, hrest⟩ := toBE_append_inj has hbs h
  exact hW.flatten hxs hys hlength hrest

end CandyRuntime.Lib
