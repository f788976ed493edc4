import CandyRuntime.NetdV2.ControlBudget
import CandyRuntime.Lib.Success

/-!
# The pending-control budget is exact

`Accounted` ties the two counters to the leases in use. Every step keeps it, so it holds after
every interleaving; what the claims of a single section need (no panic, no admission above a
limit, nothing changed by a refusal) is read off from it.
-/

namespace CandyRuntime.NetdV2

open Lib Lib.Proc

/-- The number and the bytes of the leases in use. -/
def charge (live : Multiset ControlLease) : PendingBudget where
  requests := live.card
  bytes := (live.map (·.bytes)).sum

@[simp] theorem charge_cons (lease : ControlLease) (live : Multiset ControlLease) :
    charge (lease ::ₘ live)
      = { requests := (charge live).requests + 1, bytes := lease.bytes + (charge live).bytes } := by
  simp [charge]

/-- The counters are those of the leases in use, and within the limits. -/
structure Accounted (limits : DomainBudgets) (g : ControlBudget) : Prop where
  configured : g.limits = limits
  unpoisoned : g.poisoned = false
  pending : g.pending = charge g.leases.live
  requests : g.pending.requests ≤ limits.maxPendingControlRequests
  bytes : g.pending.bytes ≤ limits.maxPendingControlBytes

variable {usizeMax : ℕ} {limits : DomainBudgets} {g : ControlBudget} {i bytes : ℕ}
  {lease : ControlLease}

theorem accounted_new : Accounted limits (.new limits) :=
  ⟨rfl, rfl, rfl, Nat.zero_le _, Nat.zero_le _⟩

/-! ## Single sections -/

/-- A refused admission changes nothing; an admission enters one lease. -/
theorem reserve_wp (usizeMax bytes : ℕ) (g : ControlBudget) :
    wp (ControlBudget.reserve usizeMax bytes)
      (fun cell g' => cell = g.leases.length
        ∧ g.pending.requests + 1 ≤ g.limits.maxPendingControlRequests
        ∧ g.pending.bytes + bytes ≤ g.limits.maxPendingControlBytes
        ∧ g' = { g with
          pending := { requests := g.pending.requests + 1, bytes := g.pending.bytes + bytes }
          leases := g.leases.alloc { bytes, permits := 1 } })
      (fun _ g' => g' = g) (fun _ => False) g := by
  unfold ControlBudget.reserve lockPending budget
  simp only [wp_bind, wp_get, wp_ensure, wp_pure, wp_okOr, wp_modify]
  refine ⟨fun _ => ⟨?_, fun _ => trivial⟩, fun _ => trivial⟩
  intro requests hrequests
  refine ⟨?_, fun _ => trivial⟩
  intro total htotal
  simp only [usizeAdd, Option.ite_none_right_eq_some, Option.some.injEq] at hrequests htotal
  refine ⟨fun hr => ⟨fun hb => ?_, fun _ => trivial⟩, fun _ => trivial⟩
  rw [← hrequests.2] at hr ⊢
  rw [← htotal.2] at hb ⊢
  exact ⟨trivial, hr, hb, rfl⟩

/-- A refused resize changes nothing; another one exchanges the charge of the lease. -/
theorem resize_wp (usizeMax i bytes : ℕ) (lease : ControlLease) (g : ControlBudget) :
    wp (ControlPermit.resize usizeMax i lease bytes)
      (fun _ g' => lease.bytes ≤ g.pending.bytes
        ∧ g.pending.bytes - lease.bytes + bytes ≤ g.limits.maxPendingControlBytes
        ∧ g' = { g with
          pending := { g.pending with bytes := g.pending.bytes - lease.bytes + bytes }
          leases := g.leases.write i { lease with bytes } })
      (fun _ g' => g' = g) (fun _ => False) g := by
  unfold ControlPermit.resize lockPending budget
  simp only [wp_bind, wp_get, wp_ensure, wp_pure, wp_okOr, wp_modify]
  refine ⟨fun _ => ⟨?_, fun _ => trivial⟩, fun _ => trivial⟩
  intro total htotal
  obtain ⟨rest, hrest, hadd⟩ := Option.bind_eq_some_iff.mp htotal
  simp only [checkedSub, usizeAdd, Option.ite_none_right_eq_some, Option.some.injEq] at hrest hadd
  refine ⟨fun hb => ?_, fun _ => trivial⟩
  rw [← hadd.2, ← hrest.2] at hb ⊢
  exact ⟨hrest.1, hb, rfl⟩

/-- The charge of a lease in use is part of the counters. -/
theorem Accounted.covers (h : Accounted limits g) (hlease : g.leases.get i = some lease) :
    1 ≤ g.pending.requests ∧ lease.bytes ≤ g.pending.bytes := by
  obtain ⟨rest, hlive, _⟩ := Arena.live_of_get hlease
  rw [h.pending, hlive, charge_cons]
  exact ⟨Nat.le_add_left 1 _, Nat.le_add_right _ _⟩

/-- The subtractions of `ControlLease::drop` do not underflow. -/
theorem drop_eq (h : Accounted limits g) (hlease : g.leases.get i = some lease) :
    ControlLease.drop i lease g = (.ok (), { g with
      pending := ⟨g.pending.requests - 1, g.pending.bytes - lease.bytes⟩
      leases := g.leases.free i }) := by
  obtain ⟨hrequests, hbytes⟩ := h.covers hlease
  have hsucceeds : Succeeds (ControlLease.drop i lease) (fun _ g' => g' = { g with
      pending := ⟨g.pending.requests - 1, g.pending.bytes - lease.bytes⟩
      leases := g.leases.free i }) g := by
    unfold ControlLease.drop
    simp only [succeeds_bind, succeeds_modify, succeeds_get, succeeds_when, h.unpoisoned]
    refine ⟨fun _ => ?_, fun h => absurd trivial h⟩
    unfold Succeeds wp subtract
    simp [checkedSub, hrequests, hbytes]
  obtain ⟨_, g', hrun, rfl⟩ := (succeeds_iff _).mp hsucceeds
  exact hrun

/-! ## Steps -/

theorem held_eq_some (h : g.held i = some lease) :
    g.leases.get i = some lease ∧ 0 < lease.permits := by
  simpa [ControlBudget.held, Option.filter_eq_some_iff] using h

theorem abandoned_eq_some (h : g.abandoned i = some lease) :
    g.leases.get i = some lease ∧ lease.permits = 0 := by
  simpa [ControlBudget.abandoned, Option.filter_eq_some_iff] using h

theorem Accounted.reserve (h : Accounted limits g) :
    Accounted limits (ControlBudget.reserve usizeMax bytes g).2 := by
  have hwp := reserve_wp usizeMax bytes g
  unfold wp at hwp
  split at hwp
  · next heq =>
    rw [heq]
    obtain ⟨_, hr, hb, rfl⟩ := hwp
    rw [h.configured] at hr hb
    refine ⟨h.configured, h.unpoisoned, ?_, hr, hb⟩
    rw [Arena.live_alloc, charge_cons, ← h.pending, Nat.add_comm bytes]
  · next heq =>
    rw [heq, hwp]
    exact h
  · exact hwp.elim

theorem Accounted.resize (h : Accounted limits g) (hlease : g.leases.get i = some lease) :
    Accounted limits (ControlPermit.resize usizeMax i lease bytes g).2 := by
  have hwp := resize_wp usizeMax i bytes lease g
  unfold wp at hwp
  split at hwp
  · next heq =>
    rw [heq]
    obtain ⟨_, hb, rfl⟩ := hwp
    rw [h.configured] at hb
    obtain ⟨rest, hlive, _, hwrite⟩ := Arena.live_of_get hlease
    refine ⟨h.configured, h.unpoisoned, ?_, h.requests, hb⟩
    have hpending := h.pending
    rw [hlive, charge_cons] at hpending
    -- the old charge goes and the new one comes; the number of leases stays
    rw [hwrite, charge_cons]
    simp only [hpending, PendingBudget.mk.injEq, true_and]
    omega
  · next heq =>
    rw [heq, hwp]
    exact h
  · exact hwp.elim

/-- The number of permits of a lease is no part of its charge. -/
theorem Accounted.share (h : Accounted limits g) (hlease : g.leases.get i = some lease)
    (permits : ℕ) :
    Accounted limits { g with leases := g.leases.write i { lease with permits } } := by
  obtain ⟨rest, hlive, _, hwrite⟩ := Arena.live_of_get hlease
  refine ⟨h.configured, h.unpoisoned, ?_, h.requests, h.bytes⟩
  rw [hwrite, charge_cons, h.pending, hlive, charge_cons]

theorem Accounted.release (h : Accounted limits g) (hlease : g.leases.get i = some lease) :
    Accounted limits (ControlLease.drop i lease g).2 := by
  rw [drop_eq h hlease]
  obtain ⟨rest, hlive, hfree, _⟩ := Arena.live_of_get hlease
  have hpending := h.pending
  rw [hlive, charge_cons] at hpending
  refine ⟨h.configured, h.unpoisoned, ?_, ?_, ?_⟩
  · simp only [hfree, hpending, Nat.add_sub_cancel, Nat.add_sub_cancel_left]
  · exact (Nat.sub_le _ _).trans h.requests
  · exact (Nat.sub_le _ _).trans h.bytes

theorem Accounted.clone (h : Accounted limits g) (hlease : g.leases.get i = some lease) :
    Accounted limits (ControlPermit.clone i lease g).2 :=
  h.share hlease (lease.permits + 1)

theorem Accounted.drop (h : Accounted limits g) (hlease : g.leases.get i = some lease) :
    Accounted limits (ControlPermit.drop i lease g).2 :=
  h.share hlease (lease.permits - 1)

theorem Accounted.step (h : Accounted limits g) (step : ControlStep) :
    Accounted limits (g.step usizeMax step) := by
  cases step with
  | reserve bytes => exact h.reserve
  | clone i =>
    cases hheld : g.held i with
    | none => simpa only [ControlBudget.step, hheld] using h
    | some lease => simpa only [ControlBudget.step, hheld] using h.clone (held_eq_some hheld).1
  | resize i bytes =>
    cases hheld : g.held i with
    | none => simpa only [ControlBudget.step, hheld] using h
    | some lease => simpa only [ControlBudget.step, hheld] using h.resize (held_eq_some hheld).1
  | drop i =>
    cases hheld : g.held i with
    | none => simpa only [ControlBudget.step, hheld] using h
    | some lease => simpa only [ControlBudget.step, hheld] using h.drop (held_eq_some hheld).1
  | release i =>
    cases habandoned : g.abandoned i with
    | none => simpa only [ControlBudget.step, habandoned] using h
    | some lease =>
      simpa only [ControlBudget.step, habandoned] using h.release (abandoned_eq_some habandoned).1

/-- After every interleaving. -/
theorem accounted_run (usizeMax : ℕ) (limits : DomainBudgets) (steps : List ControlStep) :
    Accounted limits (steps.foldl (·.step usizeMax) (.new limits)) := by
  have hrun : ∀ g : ControlBudget, Accounted limits g →
      Accounted limits (steps.foldl (·.step usizeMax) g) := by
    induction steps with
    | nil => exact fun _ h => h
    | cons step steps ih => exact fun g h => ih _ (h.step step)
  exact hrun _ accounted_new

/-! ## The last permits -/

/-- `ControlLease::drop` runs for every lease that has no permit left. -/
def ControlBudget.settled (usizeMax : ℕ) (g : ControlBudget) : ControlBudget :=
  (List.range g.leases.length).foldl (fun g i => g.step usizeMax (.release i)) g

/-- A lease without a permit is freed, and the other cells stay. -/
theorem get_release (usizeMax : ℕ) (h : Accounted limits g) (hheld : g.held i = none) (j : ℕ) :
    (g.step usizeMax (.release i)).leases.get j = if j = i then none else g.leases.get j := by
  cases habandoned : g.abandoned i with
  | some lease =>
    rw [ControlBudget.step, habandoned]
    dsimp only
    rw [drop_eq h (abandoned_eq_some habandoned).1]
    exact Arena.get_free g.leases i j
  | none =>
    rw [ControlBudget.step, habandoned]
    -- no permit and no lease to drop: the cell is empty
    have hnone : g.leases.get i = none := by
      by_contra hsome
      obtain ⟨lease, hlease⟩ := Option.ne_none_iff_exists'.mp hsome
      simp only [ControlBudget.held, hlease, Option.filter_some] at hheld
      simp only [ControlBudget.abandoned, hlease, Option.filter_some] at habandoned
      by_cases hpermits : lease.permits = 0 <;> simp_all
    by_cases hij : j = i
    · rw [if_pos hij, hij, hnone]
    · rw [if_neg hij]

/-- One lease after the other. -/
theorem get_releases (l : List ℕ) (h : Accounted limits g) (hheld : ∀ i, g.held i = none) :
    let g' := l.foldl (fun g i => g.step usizeMax (.release i)) g
    Accounted limits g' ∧ ∀ j, g'.leases.get j = if j ∈ l then none else g.leases.get j := by
  induction l generalizing g with
  | nil => exact ⟨h, fun _ => rfl⟩
  | cons i l ih =>
    have hget := get_release usizeMax h (hheld i)
    have hstill : ∀ j, (g.step usizeMax (.release i)).held j = none := by
      intro j
      unfold ControlBudget.held
      rw [hget]
      split_ifs
      · rfl
      · exact hheld j
    obtain ⟨haccounted, hrest⟩ := ih (h.step (.release i)) hstill
    refine ⟨haccounted, fun j => ?_⟩
    rw [List.foldl_cons, hrest, hget]
    by_cases hij : j = i <;> by_cases hj : j ∈ l <;> simp [hij, hj]

/-- When no lease is left, nothing is charged. -/
theorem Accounted.empty (h : Accounted limits g) (hnone : ∀ i, g.leases.get i = none) :
    g.pending = ⟨0, 0⟩ := by
  have hlive : g.leases.live = 0 := by
    refine Multiset.eq_zero_of_forall_notMem fun lease hmem => ?_
    obtain ⟨i, hi⟩ := Arena.get_of_mem_live hmem
    simp [hnone i] at hi
  rw [h.pending, hlive]
  rfl

/-- When no permit is left, the leases give everything back. -/
theorem Accounted.settled (h : Accounted limits g) (hheld : ∀ i, g.held i = none) :
    (g.settled usizeMax).pending = ⟨0, 0⟩ := by
  obtain ⟨haccounted, hget⟩ := get_releases (List.range g.leases.length) h hheld
  refine haccounted.empty fun i => ?_
  rw [hget]
  by_cases hlt : i < g.leases.length
  · rw [if_pos (List.mem_range.mpr hlt)]
  · rw [if_neg (mt List.mem_range.mp hlt), Arena.get, List.getElem?_eq_none (not_lt.mp hlt)]
    rfl

/-! ## Exactness -/

/-- The accounting of a budget is exact. -/
structure Exact (usizeMax : ℕ) (limits : DomainBudgets) (g : ControlBudget) : Prop where
  requests : g.pending.requests = g.leases.live.card
  bytes : g.pending.bytes = (g.leases.live.map (·.bytes)).sum
  within : g.pending.requests ≤ limits.maxPendingControlRequests
    ∧ g.pending.bytes ≤ limits.maxPendingControlBytes
  admitted : ∀ bytes i g', ControlBudget.reserve usizeMax bytes g = (.ok i, g') →
    g'.pending = ⟨g.pending.requests + 1, g.pending.bytes + bytes⟩
      ∧ i = g.leases.length ∧ g'.leases = g.leases.alloc ⟨bytes, 1⟩
  refusedReserve : ∀ bytes e g', ControlBudget.reserve usizeMax bytes g = (.err e, g') → g' = g
  resized : ∀ i lease bytes g', g.held i = some lease →
    ControlPermit.resize usizeMax i lease bytes g = (.ok (), g') →
    g'.pending = ⟨g.pending.requests, g.pending.bytes - lease.bytes + bytes⟩
      ∧ g'.leases = g.leases.write i { lease with bytes }
  refusedResize : ∀ i lease bytes e g', g.held i = some lease →
    ControlPermit.resize usizeMax i lease bytes g = (.err e, g') → g' = g
  dropped : ∀ i lease, g.leases.get i = some lease →
    1 ≤ g.pending.requests ∧ lease.bytes ≤ g.pending.bytes
      ∧ ∃ g', ControlLease.drop i lease g = (.ok (), g')
        ∧ g'.pending = ⟨g.pending.requests - 1, g.pending.bytes - lease.bytes⟩
  released : (∀ i, g.leases.get i = none) → g.pending = ⟨0, 0⟩
  settled : (∀ i, g.held i = none) → (g.settled usizeMax).pending = ⟨0, 0⟩

theorem control_budget_exact (usizeMax : ℕ) (limits : DomainBudgets) (steps : List ControlStep) :
    Exact usizeMax limits (steps.foldl (·.step usizeMax) (.new limits)) := by
  have h := accounted_run usizeMax limits steps
  generalize steps.foldl (fun g step => g.step usizeMax step) (ControlBudget.new limits) = g at h ⊢
  constructor
  · rw [h.pending]
    rfl
  · rw [h.pending]
    rfl
  · exact ⟨h.requests, h.bytes⟩
  · intro bytes i g' hrun
    have hwp := reserve_wp usizeMax bytes g
    rw [wp, hrun] at hwp
    obtain ⟨hcell, -, -, rfl⟩ := hwp
    exact ⟨rfl, hcell, rfl⟩
  · intro bytes e g' hrun
    have hwp := reserve_wp usizeMax bytes g
    rwa [wp, hrun] at hwp
  · intro i lease bytes g' _ hrun
    have hwp := resize_wp usizeMax i bytes lease g
    rw [wp, hrun] at hwp
    obtain ⟨-, -, rfl⟩ := hwp
    exact ⟨rfl, rfl⟩
  · intro i lease bytes e g' _ hrun
    have hwp := resize_wp usizeMax i bytes lease g
    rwa [wp, hrun] at hwp
  · intro i lease hlease
    obtain ⟨hr, hb⟩ := h.covers hlease
    exact ⟨hr, hb, _, drop_eq h hlease, rfl⟩
  · exact h.empty
  · exact h.settled

/-- Two requests are admitted and the third is refused; the first is resized by a clone of its
permit, and all its permits are dropped. -/
example :
    let steps : List ControlStep := [.reserve 2048, .reserve 2048, .reserve 0, .clone 0, .drop 0,
      .resize 0 1024, .drop 0, .release 0]
    let g := steps.foldl (fun g step => g.step (2 ^ 64 - 1) step) (ControlBudget.new ⟨2, 4096⟩)
    g.pending = ⟨1, 2048⟩ := by
  decide

end CandyRuntime.NetdV2
