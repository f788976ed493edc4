import Mathlib.Data.List.Nodup
import Mathlib.Logic.Function.Basic

/-!
# Reservations that can be rolled back

A table with at most one entry a key. An entry is put into the table by a reservation, which
remembers the entry it replaced, and a reservation that comes to nothing is rolled back: the
entry it replaced is put back, if the table still holds the entry of the reservation. Entries
are told apart by their tokens; token zero is left to the entries the table started with.

* `Sound` is what the operations keep, as long as only the open reservation of a key is rolled
  back for the first time;
* `Exclusive` is what they keep when a reservation is only made over dead entries and against
  no live entry of another key.
-/

namespace CandyRuntime.Lib

variable {κ β : Type} [DecidableEq κ]

/-- A reservation: the entry, and the one it replaced. -/
structure Reservation (κ β : Type) where
  key : κ
  entry : β
  previous : Option β
deriving DecidableEq, Repr

/-- The table, the open reservation of each key, all reservations with the newest first, and
the tokens of those that were rolled back. -/
structure Ledger (κ β : Type) where
  slot : κ → Option β
  opened : κ → Option (Reservation κ β)
  history : List (Reservation κ β)
  failed : List ℕ

/-- Put the replaced entry back, if the table holds the token at that key. -/
def restore (token : β → ℕ) (slot : κ → Option β) (k : κ) (t : ℕ) (previous : Option β) :
    κ → Option β :=
  if (slot k).any (fun e => decide (token e = t)) then Function.update slot k previous else slot

/-- A reservation of the same key was made later. -/
def Newer (history : List (Reservation κ β)) (ρ : Reservation κ β) : Prop :=
  ∃ newer older, history = newer ++ ρ :: older ∧ ∃ ρ' ∈ newer, ρ'.key = ρ.key

/-- No reservation of the same key was made later. -/
def Newest (history : List (Reservation κ β)) (ρ : Reservation κ β) : Prop :=
  ∃ newer older, history = newer ++ ρ :: older ∧ ∀ ρ' ∈ newer, ρ'.key ≠ ρ.key

omit [DecidableEq κ] in
theorem Newer.cons (h : Newer history ρ) (ρ₀ : Reservation κ β) : Newer (ρ₀ :: history) ρ := by
  obtain ⟨newer, older, rfl, ρ', hmem, hkey⟩ := h
  exact ⟨ρ₀ :: newer, older, rfl, ρ', List.mem_cons_of_mem _ hmem, hkey⟩

omit [DecidableEq κ] in
theorem newer_cons_of_mem {ρ ρ₀ : Reservation κ β} (h : ρ ∈ history) (hkey : ρ₀.key = ρ.key) :
    Newer (ρ₀ :: history) ρ := by
  obtain ⟨newer, older, rfl⟩ := List.append_of_mem h
  exact ⟨ρ₀ :: newer, older, rfl, ρ₀, List.mem_cons_self, hkey⟩

omit [DecidableEq κ] in
theorem newest_cons_self (history : List (Reservation κ β)) (ρ : Reservation κ β) :
    Newest (ρ :: history) ρ :=
  ⟨[], history, rfl, fun _ h => absurd h (by simp)⟩

omit [DecidableEq κ] in
theorem Newest.cons {ρ ρ₀ : Reservation κ β} (h : Newest history ρ) (hkey : ρ₀.key ≠ ρ.key) :
    Newest (ρ₀ :: history) ρ := by
  obtain ⟨newer, older, rfl, hnewer⟩ := h
  refine ⟨ρ₀ :: newer, older, rfl, ?_⟩
  intro ρ' hmem
  rcases List.mem_cons.mp hmem with rfl | hmem
  · exact hkey
  · exact hnewer ρ' hmem

omit [DecidableEq κ] in
theorem Newest.mem (h : Newest history ρ) : ρ ∈ history := by
  obtain ⟨newer, older, rfl, _⟩ := h
  simp

omit [DecidableEq κ] in
/-- Every other reservation of the key is older than the newest one. -/
theorem Newest.newer {ρ ρ' : Reservation κ β} (h : Newest history ρ) (hmem : ρ' ∈ history)
    (hne : ρ' ≠ ρ) (hkey : ρ'.key = ρ.key) :
    Newer history ρ' := by
  obtain ⟨newer, older, rfl, hnewer⟩ := h
  have holder : ρ' ∈ older := by
    rcases List.mem_append.mp hmem with hmem | hmem
    · exact absurd hkey (hnewer ρ' hmem)
    · rcases List.mem_cons.mp hmem with heq | hmem
      · exact absurd heq hne
      · exact hmem
  obtain ⟨front, back, rfl⟩ := List.append_of_mem holder
  exact ⟨newer ++ ρ :: front, back, by simp, ρ, by simp, hkey.symm⟩

namespace Ledger

/-! ## Operations -/

/-- A reservation is opened. -/
def reserve (L : Ledger κ β) (k : κ) (e : β) : Ledger κ β :=
  let ρ : Reservation κ β := { key := k, entry := e, previous := L.slot k }
  { L with
    slot := Function.update L.slot k (some e)
    opened := Function.update L.opened k (some ρ)
    history := ρ :: L.history }

/-- The open reservation of a key, if there is one, has come to something. -/
def settle (L : Ledger κ β) (k : κ) : Ledger κ β :=
  { L with opened := Function.update L.opened k none }

/-- A reservation is rolled back. -/
def rollBack (token : β → ℕ) (L : Ledger κ β) (ρ : Reservation κ β) : Ledger κ β :=
  { L with
    slot := restore token L.slot ρ.key (token ρ.entry) ρ.previous
    failed := token ρ.entry :: L.failed }

/-! ## Soundness -/

/-- What the operations keep. -/
structure Sound (token : β → ℕ) (L : Ledger κ β) : Prop where
  nodup : (L.history.map fun ρ => token ρ.entry).Nodup
  positive : ∀ ρ ∈ L.history, 0 < token ρ.entry
  origin : ∀ k e, L.slot k = some e →
    token e = 0 ∨ ∃ ρ ∈ L.history, ρ.key = k ∧ ρ.entry = e
  previous : ∀ ρ ∈ L.history, ∀ e, ρ.previous = some e →
    token e = 0 ∨ ∃ ρ' ∈ L.history, ρ'.key = ρ.key ∧ ρ'.entry = e ∧ token e ≠ token ρ.entry
  opened : ∀ k ρ, L.opened k = some ρ → ρ.key = k ∧ Newest L.history ρ
    ∧ L.slot k = some ρ.entry ∧ token ρ.entry ∉ L.failed
  recorded : ∀ t ∈ L.failed, ∃ ρ ∈ L.history, token ρ.entry = t
  gone : ∀ t ∈ L.failed, (∀ k e, L.slot k = some e → token e ≠ t)
    ∧ ∀ k ρ e, L.opened k = some ρ → ρ.previous = some e → token e ≠ t
  settled : ∀ ρ ∈ L.history, token ρ.entry ∈ L.failed →
    L.slot ρ.key = ρ.previous ∨ Newer L.history ρ

variable {ρ : Reservation κ β} {history : List (Reservation κ β)}
variable {token : β → ℕ} {L : Ledger κ β}

omit [DecidableEq κ] in
/-- Reservations are told apart by their tokens. -/
theorem Sound.eq_of_token (h : Sound token L) {ρ ρ' : Reservation κ β} (hρ : ρ ∈ L.history)
    (hρ' : ρ' ∈ L.history) (htoken : token ρ.entry = token ρ'.entry) : ρ = ρ' :=
  List.inj_on_of_nodup_map h.nodup hρ hρ' htoken

omit [DecidableEq κ] in
/-- The token of a reservation is found at its own key only, and with its own entry. -/
theorem Sound.slot_eq (h : Sound token L) (hρ : ρ ∈ L.history) {k : κ} {e : β}
    (hslot : L.slot k = some e) (htoken : token e = token ρ.entry) :
    k = ρ.key ∧ e = ρ.entry := by
  have hpos := h.positive ρ hρ
  rcases h.origin k e hslot with hzero | ⟨ρ', hρ', hkey, hentry⟩
  · omega
  · have heq : ρ' = ρ := h.eq_of_token hρ' hρ (by rw [hentry, htoken])
    rw [← heq]
    exact ⟨hkey.symm, hentry.symm⟩

/-- A rollback changes nothing but the entry of its own reservation. -/
theorem Sound.restore_eq (h : Sound token L) (hρ : ρ ∈ L.history) {k : κ}
    (hchanged : restore token L.slot ρ.key (token ρ.entry) ρ.previous k ≠ L.slot k) :
    k = ρ.key ∧ L.slot k = some ρ.entry := by
  unfold restore at hchanged
  split at hchanged
  · rename_i hany
    obtain ⟨e, hslot, htoken⟩ := (Option.any_eq_true _ _).mp hany
    rw [decide_eq_true_eq] at htoken
    have hk : k = ρ.key := by
      by_contra hne
      exact hchanged (Function.update_of_ne hne _ _)
    rw [hk]
    exact ⟨rfl, by rw [hslot, (h.slot_eq hρ hslot htoken).2]⟩
  · exact absurd rfl hchanged

/-- A rollback after the first one finds nothing to do. -/
theorem Sound.restore_of_failed (h : Sound token L) (hfailed : token ρ.entry ∈ L.failed) :
    restore token L.slot ρ.key (token ρ.entry) ρ.previous = L.slot := by
  unfold restore
  split
  · rename_i hany
    obtain ⟨e, hslot, htoken⟩ := (Option.any_eq_true _ _).mp hany
    exact absurd (of_decide_eq_true htoken) ((h.gone _ hfailed).1 ρ.key e hslot)
  · rfl

theorem Sound.reserve (h : Sound token L) {k : κ} {e : β}
    (hpos : 0 < token e) (hfresh : ∀ ρ ∈ L.history, token ρ.entry ≠ token e) :
    Sound token (L.reserve k e) where
  nodup := by
    simp only [Ledger.reserve, List.map_cons, List.nodup_cons, List.mem_map, not_exists, not_and]
    exact ⟨hfresh, h.nodup⟩
  positive := by
    simp only [Ledger.reserve, List.mem_cons]
    rintro ρ (rfl | hρ)
    · exact hpos
    · exact h.positive ρ hρ
  origin := by
    intro k' e' hslot
    by_cases hk : k' = k
    · right
      refine ⟨_, List.mem_cons_self, hk.symm, ?_⟩
      simpa [Ledger.reserve, hk] using hslot
    · simp only [Ledger.reserve, Function.update_of_ne hk] at hslot
      rcases h.origin k' e' hslot with hzero | ⟨ρ, hρ, hsame⟩
      · exact Or.inl hzero
      · exact Or.inr ⟨ρ, List.mem_cons_of_mem _ hρ, hsame⟩
  previous := by
    have hlift : ∀ ρ : Reservation κ β, ∀ e', (token e' = 0 ∨ ∃ ρ' ∈ L.history, ρ'.key = ρ.key
        ∧ ρ'.entry = e' ∧ token e' ≠ token ρ.entry) → (token e' = 0 ∨ ∃ ρ' ∈ (L.reserve k e).history,
        ρ'.key = ρ.key ∧ ρ'.entry = e' ∧ token e' ≠ token ρ.entry) := by
      rintro ρ e' (hzero | ⟨ρ', hρ', hsame⟩)
      · exact Or.inl hzero
      · exact Or.inr ⟨ρ', List.mem_cons_of_mem _ hρ', hsame⟩
    intro ρ hρ e' hprevious
    apply hlift
    rcases List.mem_cons.mp hρ with rfl | hρ
    · rcases h.origin k e' hprevious with hzero | ⟨ρ', hρ', hkey, hentry⟩
      · exact Or.inl hzero
      · exact Or.inr ⟨ρ', hρ', hkey, hentry, by rw [← hentry]; exact hfresh ρ' hρ'⟩
    · exact h.previous ρ hρ e' hprevious
  opened := by
    have hunfailed : token e ∉ L.failed := by
      intro hmem
      obtain ⟨ρ, hρ, htoken⟩ := h.recorded _ hmem
      exact hfresh ρ hρ htoken
    intro k' ρ hρ
    by_cases hk : k' = k
    · simp only [Ledger.reserve, hk, Function.update_self, Option.some.injEq] at hρ ⊢
      rw [← hρ]
      exact ⟨rfl, newest_cons_self _ _, rfl, hunfailed⟩
    · simp only [Ledger.reserve, Function.update_of_ne hk] at hρ ⊢
      obtain ⟨hkey, hnewest, hslot, hnot⟩ := h.opened k' ρ hρ
      exact ⟨hkey, hnewest.cons (by rw [hkey]; exact fun heq => hk heq.symm), hslot, hnot⟩
  recorded := by
    intro t ht
    obtain ⟨ρ, hρ, htoken⟩ := h.recorded t ht
    exact ⟨ρ, List.mem_cons_of_mem _ hρ, htoken⟩
  gone := by
    intro t ht
    obtain ⟨ρ₀, hρ₀, htoken⟩ := h.recorded t ht
    obtain ⟨hslots, hopens⟩ := h.gone t ht
    constructor
    · intro k' e' hslot
      by_cases hk : k' = k
      · simp only [Ledger.reserve, hk, Function.update_self, Option.some.injEq] at hslot
        rw [← hslot, ← htoken]
        exact (hfresh ρ₀ hρ₀).symm
      · simp only [Ledger.reserve, Function.update_of_ne hk] at hslot
        exact hslots k' e' hslot
    · intro k' ρ e' hρ hprevious
      by_cases hk : k' = k
      · simp only [Ledger.reserve, hk, Function.update_self, Option.some.injEq] at hρ
        rw [← hρ] at hprevious
        exact hslots k e' hprevious
      · simp only [Ledger.reserve, Function.update_of_ne hk] at hρ
        exact hopens k' ρ e' hρ hprevious
  settled := by
    intro ρ hρ hfailed
    rcases List.mem_cons.mp hρ with rfl | hρ
    · obtain ⟨ρ', hρ', htoken⟩ := h.recorded _ hfailed
      exact absurd htoken (hfresh ρ' hρ')
    · by_cases hk : ρ.key = k
      · exact Or.inr (newer_cons_of_mem hρ hk.symm)
      · rcases h.settled ρ hρ hfailed with hslot | hnewer
        · left
          simp only [Ledger.reserve, Function.update_of_ne hk]
          exact hslot
        · exact Or.inr (hnewer.cons _)

/-- The rollback of the open reservation of a key. -/
theorem Sound.rollBack (h : Sound token L) (hopened : L.opened ρ.key = some ρ) :
    Sound token ((L.rollBack token ρ).settle ρ.key) := by
  obtain ⟨_, hnewest, hslot, hnot⟩ := h.opened ρ.key ρ hopened
  have hρ := hnewest.mem
  have hpos := h.positive ρ hρ
  have hrestored : restore token L.slot ρ.key (token ρ.entry) ρ.previous
      = Function.update L.slot ρ.key ρ.previous := by
    rw [restore, hslot, Option.any_some, if_pos (by simp)]
  -- the token of the reservation is in no other slot and was replaced by no other reservation
  have hprevious : ∀ ρ' ∈ L.history, ∀ e, ρ'.previous = some e → ρ'.key = ρ.key → ρ' = ρ →
      token e ≠ token ρ.entry := by
    intro ρ' hρ' e he _ heq
    rcases h.previous ρ' hρ' e he with hzero | ⟨ρ'', hρ'', _, _, hne⟩
    · omega
    · rw [heq] at hne
      exact hne
  have hothers : ∀ k e, k ≠ ρ.key → L.slot k = some e → token e ≠ token ρ.entry :=
    fun k e hk he htoken => hk (h.slot_eq hρ he htoken).1
  refine ⟨h.nodup, h.positive, ?_, h.previous, ?_, ?_, ?_, ?_⟩
  · intro k e he
    simp only [Ledger.settle, Ledger.rollBack, hrestored] at he
    by_cases hk : k = ρ.key
    · rw [hk, Function.update_self] at he
      rcases h.previous ρ hρ e he with hzero | ⟨ρ', hρ', hkey, hentry, _⟩
      · exact Or.inl hzero
      · exact Or.inr ⟨ρ', hρ', hkey.trans hk.symm, hentry⟩
    · rw [Function.update_of_ne hk] at he
      exact h.origin k e he
  · intro k ρ' hρ'
    by_cases hk : k = ρ.key
    · simp [Ledger.settle, hk] at hρ'
    · simp only [Ledger.settle, Ledger.rollBack, hrestored, Function.update_of_ne hk] at hρ' ⊢
      obtain ⟨hkey, hnewest', hslot', hnot'⟩ := h.opened k ρ' hρ'
      refine ⟨hkey, hnewest', hslot', ?_⟩
      intro hmem
      rcases List.mem_cons.mp hmem with htoken | hmem
      · exact hothers k _ hk hslot' htoken
      · exact hnot' hmem
  · intro t ht
    rcases List.mem_cons.mp ht with rfl | ht
    · exact ⟨ρ, hρ, rfl⟩
    · exact h.recorded t ht
  · intro t ht
    have hopen : ∀ k ρ', ((L.rollBack token ρ).settle ρ.key).opened k = some ρ' →
        k ≠ ρ.key ∧ L.opened k = some ρ' := by
      intro k ρ' hρ'
      by_cases hk : k = ρ.key
      · simp [Ledger.settle, hk] at hρ'
      · exact ⟨hk, by simpa [Ledger.settle, Ledger.rollBack, Function.update_of_ne hk] using hρ'⟩
    rcases List.mem_cons.mp ht with rfl | ht
    · constructor
      · intro k e he
        simp only [Ledger.settle, Ledger.rollBack, hrestored] at he
        by_cases hk : k = ρ.key
        · rw [hk, Function.update_self] at he
          exact hprevious ρ hρ e he rfl rfl
        · rw [Function.update_of_ne hk] at he
          exact hothers k e hk he
      · intro k ρ' e hρ' he htoken
        obtain ⟨hk, hρ'⟩ := hopen k ρ' hρ'
        obtain ⟨hkey, hnewest', _, _⟩ := h.opened k ρ' hρ'
        rcases h.previous ρ' hnewest'.mem e he with hzero | ⟨ρ'', hρ'', hkey', hentry, _⟩
        · omega
        · have heq : ρ'' = ρ := h.eq_of_token hρ'' hρ (by rw [hentry, htoken])
          rw [heq, hkey] at hkey'
          exact hk hkey'.symm
    · obtain ⟨hslots, hopens⟩ := h.gone t ht
      constructor
      · intro k e he
        simp only [Ledger.settle, Ledger.rollBack, hrestored] at he
        by_cases hk : k = ρ.key
        · rw [hk, Function.update_self] at he
          exact hopens ρ.key ρ e hopened he
        · rw [Function.update_of_ne hk] at he
          exact hslots k e he
      · intro k ρ' e hρ' he
        exact hopens k ρ' e (hopen k ρ' hρ').2 he
  · intro ρ' hρ' hfailed
    simp only [Ledger.settle, Ledger.rollBack, hrestored]
    by_cases heq : ρ' = ρ
    · left
      rw [heq, Function.update_self]
    · by_cases hk : ρ'.key = ρ.key
      · exact Or.inr (hnewest.newer hρ' heq hk)
      · rw [Function.update_of_ne hk]
        rcases List.mem_cons.mp hfailed with htoken | hmem
        · exact absurd (h.eq_of_token hρ' hρ htoken) heq
        · exact h.settled ρ' hρ' hmem

/-- The rollback of a reservation that was rolled back before. -/
theorem Sound.rollBack_again (h : Sound token L) (hfailed : token ρ.entry ∈ L.failed) :
    Sound token (L.rollBack token ρ) := by
  have hmem : ∀ t, t ∈ token ρ.entry :: L.failed → t ∈ L.failed := by
    intro t ht
    rcases List.mem_cons.mp ht with rfl | ht
    · exact hfailed
    · exact ht
  have hsame := h.restore_of_failed hfailed
  refine ⟨h.nodup, h.positive, ?_, h.previous, ?_, fun t ht => h.recorded t (hmem t ht), ?_, ?_⟩
  · simp only [Ledger.rollBack, hsame]
    exact h.origin
  · intro k ρ' hρ'
    simp only [Ledger.rollBack, hsame] at hρ' ⊢
    obtain ⟨hkey, hnewest, hslot, hnot⟩ := h.opened k ρ' hρ'
    exact ⟨hkey, hnewest, hslot, fun ht => hnot (hmem _ ht)⟩
  · intro t ht
    simp only [Ledger.rollBack, hsame]
    exact h.gone t (hmem t ht)
  · intro ρ' hρ' ht
    simp only [Ledger.rollBack, hsame]
    exact h.settled ρ' hρ' (hmem _ ht)

/-! ## Exclusiveness -/

/-- Two live entries of different keys do not clash, and what an open reservation replaced is
dead. -/
structure Exclusive (dead : β → Prop) (clash : β → β → Prop) (L : Ledger κ β) : Prop where
  apart : ∀ k k' e e', k ≠ k' → L.slot k = some e → L.slot k' = some e' → clash e e' →
    dead e ∨ dead e'
  replaced : ∀ k ρ e, L.opened k = some ρ → ρ.previous = some e → dead e

variable {dead : β → Prop} {clash : β → β → Prop}

omit [DecidableEq κ] in
theorem Exclusive.mono {dead' : β → Prop} (h : Exclusive dead clash L)
    (hslots : ∀ k e, L.slot k = some e → dead e → dead' e)
    (hopened : ∀ k ρ e, L.opened k = some ρ → ρ.previous = some e → dead e → dead' e) :
    Exclusive dead' clash L where
  apart := by
    intro k k' e e' hk he he' hclash
    rcases h.apart k k' e e' hk he he' hclash with hdead | hdead
    · exact Or.inl (hslots k e he hdead)
    · exact Or.inr (hslots k' e' he' hdead)
  replaced := fun k ρ e hρ he => hopened k ρ e hρ he (h.replaced k ρ e hρ he)

theorem Exclusive.reserve (h : Exclusive dead clash L) (hsymm : ∀ e e', clash e e' → clash e' e)
    {k : κ} {e : β} (hown : ∀ e', L.slot k = some e' → dead e')
    (hothers : ∀ k' e', k' ≠ k → L.slot k' = some e' → clash e' e → dead e') :
    Exclusive dead clash (L.reserve k e) where
  apart := by
    intro k₁ k₂ e₁ e₂ hne h₁ h₂ hclash
    simp only [Ledger.reserve] at h₁ h₂
    by_cases hk₁ : k₁ = k
    · have hk₂ : k₂ ≠ k := fun heq => hne (hk₁.trans heq.symm)
      rw [hk₁, Function.update_self, Option.some.injEq] at h₁
      rw [Function.update_of_ne hk₂] at h₂
      rw [← h₁] at hclash
      exact Or.inr (hothers k₂ e₂ hk₂ h₂ (hsymm _ _ hclash))
    · rw [Function.update_of_ne hk₁] at h₁
      by_cases hk₂ : k₂ = k
      · rw [hk₂, Function.update_self, Option.some.injEq] at h₂
        rw [← h₂] at hclash
        exact Or.inl (hothers k₁ e₁ hk₁ h₁ hclash)
      · rw [Function.update_of_ne hk₂] at h₂
        exact h.apart k₁ k₂ e₁ e₂ hne h₁ h₂ hclash
  replaced := by
    intro k' ρ e' hρ he'
    by_cases hk : k' = k
    · simp only [Ledger.reserve, hk, Function.update_self, Option.some.injEq] at hρ
      rw [← hρ] at he'
      exact hown e' he'
    · simp only [Ledger.reserve, Function.update_of_ne hk] at hρ
      exact h.replaced k' ρ e' hρ he'

theorem Exclusive.settle (h : Exclusive dead clash L) (k : κ) :
    Exclusive dead clash (L.settle k) where
  apart := h.apart
  replaced := by
    intro k' ρ e hρ he
    by_cases hk : k' = k
    · simp [Ledger.settle, hk] at hρ
    · simp only [Ledger.settle, Function.update_of_ne hk] at hρ
      exact h.replaced k' ρ e hρ he

theorem Exclusive.rollBack (h : Exclusive dead clash L)
    (hdead : ∀ e, ρ.previous = some e → dead e) : Exclusive dead clash (L.rollBack token ρ) where
  apart := by
    intro k k' e e' hne he he' hclash
    simp only [Ledger.rollBack, restore] at he he'
    split at he <;> rename_i hany
    · rw [if_pos hany] at he'
      by_cases hk : k = ρ.key
      · rw [hk, Function.update_self] at he
        exact Or.inl (hdead e he)
      · rw [Function.update_of_ne hk] at he
        by_cases hk' : k' = ρ.key
        · rw [hk', Function.update_self] at he'
          exact Or.inr (hdead e' he')
        · rw [Function.update_of_ne hk'] at he'
          exact h.apart k k' e e' hne he he' hclash
    · rw [if_neg hany] at he'
      exact h.apart k k' e e' hne he he' hclash
  replaced := h.replaced

end Ledger

end CandyRuntime.Lib
