import CandyRuntime.PacketPort.Progress
import Mathlib.Algebra.Order.BigOperators.Group.Finset
import Mathlib.Order.Interval.Finset.Nat

/-!
# The frontier and the history of failures

`System.Inv` is what every interleaving of the calls of `complete` keeps, however late the other calls
see the stores of `completion_gaps`: nothing is counted before its packet is dropped. With the history
of failures, a drain that is reported was one (`drained_delivered`). No call waits for ever
(`calls_return`). That a frontier may stay behind packets that are settled is `frontier_left_behind`.
-/

namespace CandyRuntime.PacketPort

open Lib

variable {s s' t : System} {n m : ℕ} {call : Call}
variable {delivered : Bool} {stage : Stage}

@[simp] theorem put_progress : (s.put n call).progress = s.progress := rfl
@[simp] theorem put_lock : (s.put n call).lock = s.lock := rfl
@[simp] theorem put_calls_self : (s.put n call).calls n = some call := Function.update_self ..

theorem put_calls (s : System) (n : ℕ) (call : Call) (m : ℕ) :
    (s.put n call).calls m = if m = n then some call else s.calls m :=
  Function.update_apply s.calls n (some call) m

theorem calls_of_put {other : Call} (h : (s.put n call).calls m = some other) :
    m = n ∧ call = other ∨ m ≠ n ∧ s.calls m = some other := by
  rw [put_calls] at h
  by_cases hm : m = n
  · rw [if_pos hm] at h
    exact .inl ⟨hm, Option.some.inj h⟩
  · rw [if_neg hm] at h
    exact .inr ⟨hm, h⟩

theorem put_calls_of_ne (h : m ≠ n) : (s.put n call).calls m = s.calls m :=
  Function.update_of_ne h ..

/-! ## Steps -/

/-- What a step can be. -/
inductive Step (s : System) : System → Prop
  | accept : Step s { s with progress := { s.progress with accepted := s.progress.accepted + 1 } }
  | flush (completionGaps : Bool) (gapStores : List Bool) :
      Step s { s with progress := { s.progress with completionGaps }, gapStores }
  | drop (n : ℕ) (delivered : Bool) (hpos : 1 ≤ n) (hle : n ≤ s.progress.accepted)
      (hcall : s.calls n = none) : Step s (s.put n ⟨delivered, .entered⟩)
  | exchange (n : ℕ) (hcall : s.calls n = some ⟨true, .entered⟩)
      (hnext : s.progress.completed = n - 1) :
      Step s ((s.withCompleted n).put n ⟨true, .exchanged⟩)
  | queue (n : ℕ) (delivered : Bool) (hcall : s.calls n = some ⟨delivered, .entered⟩) :
      Step s (s.put n ⟨delivered, .waiting⟩)
  | rejoin (n : ℕ) (delivered : Bool) (hcall : s.calls n = some ⟨delivered, .exchanged⟩)
      (hgaps : s.progress.completionGaps = true) : Step s (s.put n ⟨delivered, .waiting⟩)
  | finish (n : ℕ) (delivered : Bool) (hcall : s.calls n = some ⟨delivered, .exchanged⟩)
      (hgaps : s.progress.completionGaps = false) : Step s (s.put n ⟨delivered, .finished⟩)
  | enter (n : ℕ) (delivered : Bool) (hcall : s.calls n = some ⟨delivered, .waiting⟩)
      (hlock : s.lock = none) :
      Step s (((s.withFailures (if delivered then s.progress.failures
        else s.progress.failures.remember n)).withLock (some ⟨n, .recorded⟩)).put n
          ⟨delivered, .critical⟩)
  | mark (n : ℕ) (hlock : s.lock = some ⟨n, .recorded⟩) :
      Step s ((s.storeGaps true).withLock (some ⟨n, .marked⟩))
  | merge (n : ℕ) (hlock : s.lock = some ⟨n, .marked⟩) :
      Step s ((s.withFailures { s.progress.failures with
        settled := (s.progress.failures.settle s.progress.completed n).2 }).withLock
          (some ⟨n, .merged (s.progress.failures.settle s.progress.completed n).1⟩))
  | publish (n frontier : ℕ) (hlock : s.lock = some ⟨n, .merged frontier⟩) :
      Step s ((s.withCompleted (max s.progress.completed frontier)).withLock (some ⟨n, .published⟩))
  | clear (n : ℕ) (hlock : s.lock = some ⟨n, .published⟩) :
      Step s ((s.storeGaps (decide (s.progress.failures.settled ≠ ∅))).withLock (some ⟨n, .leaving⟩))
  | leave (n : ℕ) (delivered : Bool) (hcall : s.calls n = some ⟨delivered, .critical⟩)
      (hlock : s.lock = some ⟨n, .leaving⟩) : Step s ((s.withLock none).put n ⟨delivered, .finished⟩)

theorem step_of_advance (hcall : s.calls n = some call) (h : s.advance n call = some s') :
    Step s s' := by
  obtain ⟨delivered, stage⟩ := call
  unfold System.advance at h
  cases stage with
  | entered =>
    dsimp only at h
    split_ifs at h with hnext
    · rw [Bool.and_eq_true, decide_eq_true_eq] at hnext
      obtain ⟨rfl, hnext⟩ := hnext
      exact Option.some.inj h ▸ .exchange n hcall hnext
    · exact Option.some.inj h ▸ .queue n delivered hcall
  | exchanged =>
    dsimp only at h
    split_ifs at h with hgaps
    · exact Option.some.inj h ▸ .rejoin n delivered hcall hgaps
    · exact Option.some.inj h ▸ .finish n delivered hcall (Bool.eq_false_of_not_eq_true hgaps)
  | waiting =>
    by_cases hlock : s.lock.isNone = true
    · rw [show (if s.lock.isNone = true then _ else none : Option System) = _ from if_pos hlock] at h
      exact Option.some.inj h ▸ .enter n delivered hcall (Option.isNone_iff_eq_none.mp hlock)
    · rw [show (if s.lock.isNone = true then _ else none : Option System) = _ from if_neg hlock] at h
      cases h
  | critical =>
    dsimp only at h
    cases hlock : s.lock with
    | none =>
      rw [hlock] at h
      cases h
    | some critical =>
      rw [hlock] at h
      dsimp only at h
      split_ifs at h with hserial
      obtain ⟨serial, phase⟩ := critical
      obtain rfl : serial = n := hserial
      rw [← Option.some.inj h]
      cases phase with
      | recorded => exact .mark serial hlock
      | marked => exact .merge serial hlock
      | merged frontier => exact .publish serial frontier hlock
      | published => exact .clear serial hlock
      | leaving => exact .leave serial delivered hcall hlock
  | finished => cases h

theorem step_cases {event : Event} (h : s.step event = some s') : Step s s' := by
  cases event with
  | accept => exact Option.some.inj h ▸ .accept
  | flush =>
    unfold System.step at h
    dsimp only at h
    split at h
    · cases h
    · exact Option.some.inj h ▸ .flush _ _
  | drop serial delivered =>
    unfold System.step at h
    dsimp only at h
    split_ifs at h with hdrop
    exact Option.some.inj h ▸ .drop serial delivered hdrop.1 hdrop.2.1 hdrop.2.2
  | advance serial =>
    obtain ⟨call, hcall, hadvance⟩ := Option.bind_eq_some_iff.mp h
    exact step_of_advance hcall hadvance

@[simp] theorem settled_remember (failures : OutputFailures) (serial : ℕ) :
    (failures.remember serial).settled = failures.settled := by
  unfold OutputFailures.remember
  split
  · split_ifs <;> rfl
  · rfl

/-! ## The frontier -/

/-- The serial is behind the frontier, or is about to be, or is remembered as settled. -/
def System.Counted (s : System) (n : ℕ) : Prop :=
  n ≤ s.progress.completed ∨ n ∈ s.progress.failures.settled
    ∨ ∃ k frontier, s.lock = some ⟨k, .merged frontier⟩ ∧ n ≤ frontier

/-- What every interleaving keeps. -/
structure System.Inv (s : System) : Prop where
  bounded : ∀ n call, s.calls n = some call → 1 ≤ n ∧ n ≤ s.progress.accepted
  -- the call in the critical section holds the lock
  locked : ∀ n delivered, s.calls n = some ⟨delivered, .critical⟩ → ∃ phase, s.lock = some ⟨n, phase⟩
  holder : ∀ k, s.lock = some k → ∃ delivered, s.calls k.serial = some ⟨delivered, .critical⟩
  exchanged : ∀ n delivered, s.calls n = some ⟨delivered, .exchanged⟩ → delivered = true
  -- nothing is counted before its call, and a failure not before it is in the history
  started : ∀ n, 1 ≤ n → s.Counted n → ∃ delivered stage, s.calls n = some ⟨delivered, stage⟩
    ∧ stage ≠ .entered ∧ (delivered = false → stage ≠ .waiting)

theorem inv_start : System.start.Inv where
  bounded n call h := by cases h
  locked n delivered h := by cases h
  holder k h := by cases h
  exchanged n delivered h := by cases h
  started n hpos h := by
    rcases h with h | h | ⟨_, _, h, _⟩
    · exact absurd (show n ≤ 0 from h) (by omega)
    · exact absurd h (Finset.notMem_empty n)
    · cases h

/-- A lock that is not in the middle of a merge counts nothing. -/
theorem counted_of_eq (hcompleted : t.progress.completed = s.progress.completed)
    (hsettled : t.progress.failures.settled = s.progress.failures.settled)
    (ht : ∀ k frontier, t.lock ≠ some ⟨k, .merged frontier⟩) (n : ℕ) (h : t.Counted n) :
    s.Counted n := by
  unfold System.Counted at h
  rw [hcompleted, hsettled] at h
  rcases h with h | h | ⟨k, f, hk, _⟩
  · exact .inl h
  · exact .inr (.inl h)
  · exact absurd hk (ht k f)

/-! ### The steps of one call outside the critical section -/

/-- The call of `n` goes on, and nothing else changes. -/
theorem System.Inv.put (h : s.Inv) (hserial : 1 ≤ n ∧ n ≤ s.progress.accepted)
    (hold : ∀ d, s.calls n ≠ some ⟨d, .critical⟩) (hcritical : stage ≠ .critical)
    (hexchanged : stage = .exchanged → delivered = true)
    (hstarted : s.Counted n → stage ≠ .entered ∧ (delivered = false → stage ≠ .waiting)) :
    (s.put n ⟨delivered, stage⟩).Inv where
  bounded m call hcall := by
    rcases calls_of_put hcall with ⟨rfl, _⟩ | ⟨_, hm⟩
    · exact hserial
    · exact h.bounded m call hm
  locked m d hcall := by
    rcases calls_of_put hcall with ⟨_, heq⟩ | ⟨_, hm⟩
    · exact absurd (Call.mk.inj heq).2 hcritical
    · exact h.locked m d hm
  holder k hk := by
    obtain ⟨d, hd⟩ := h.holder k hk
    have hne : k.serial ≠ n := fun heq => hold d (heq ▸ hd)
    exact ⟨d, (put_calls_of_ne hne).trans hd⟩
  exchanged m d hcall := by
    rcases calls_of_put hcall with ⟨rfl, heq⟩ | ⟨_, hm⟩
    · obtain ⟨hd, hstage⟩ := Call.mk.inj heq
      exact hd ▸ hexchanged hstage
    · exact h.exchanged m d hm
  started m hpos hm := by
    by_cases hmn : m = n
    · subst hmn
      exact ⟨delivered, stage, put_calls_self, hstarted hm⟩
    · obtain ⟨d, st, hcall, hstage⟩ := h.started m hpos hm
      exact ⟨d, st, (put_calls_of_ne hmn).trans hcall, hstage⟩

/-- A delivered packet that is next in order moves the frontier. -/
theorem System.Inv.exchange (h : s.Inv) (hcall : s.calls n = some ⟨true, .entered⟩)
    (hnext : s.progress.completed = n - 1) :
    ((s.withCompleted n).put n ⟨true, .exchanged⟩).Inv := by
  have hserial := h.bounded n _ hcall
  have hcounted : ∀ m, (s.withCompleted n).Counted m → m = n ∨ s.Counted m := by
    rintro m (hm | hm | hm)
    · have hle : m ≤ n := hm
      by_cases hmn : m = n
      · exact .inl hmn
      · exact .inr (.inl (by omega))
    · exact .inr (.inr (.inl hm))
    · exact .inr (.inr (.inr hm))
  refine ⟨fun m c hm => ?_, fun m d hm => ?_, fun k hk => ?_, fun m d hm => ?_, fun m hpos hm => ?_⟩
  · rcases calls_of_put hm with ⟨rfl, _⟩ | ⟨_, hm⟩
    · exact hserial
    · exact h.bounded m c hm
  · rcases calls_of_put hm with ⟨_, heq⟩ | ⟨_, hm⟩
    · cases heq
    · exact h.locked m d hm
  · obtain ⟨d, hd⟩ := h.holder k hk
    have hne : k.serial ≠ n := by
      intro heq
      rw [heq, hcall] at hd
      cases hd
    exact ⟨d, (put_calls_of_ne hne).trans hd⟩
  · rcases calls_of_put hm with ⟨rfl, heq⟩ | ⟨_, hm⟩
    · exact (Call.mk.inj heq).1.symm
    · exact h.exchanged m d hm
  · by_cases hmn : m = n
    · rw [hmn]
      exact ⟨true, .exchanged, put_calls_self, (fun h => by cases h), fun h => by cases h⟩
    · obtain ⟨d, st, hold, hstage⟩ := h.started m hpos ((hcounted m hm).resolve_left hmn)
      exact ⟨d, st, (put_calls_of_ne hmn).trans hold, hstage⟩

/-! ### The critical section -/

/-- The lock is taken. The frontier and the settled serials stay. -/
theorem System.Inv.enter (h : s.Inv) (hcall : s.calls n = some ⟨delivered, .waiting⟩)
    (hlock : s.lock = none) {failures : OutputFailures}
    (hsettled : failures.settled = s.progress.failures.settled) :
    (((s.withFailures failures).withLock (some ⟨n, .recorded⟩)).put n ⟨delivered, .critical⟩).Inv := by
  have hcounted := counted_of_eq (t := ((s.withFailures failures).withLock (some ⟨n, .recorded⟩)).put n
    ⟨delivered, .critical⟩) (s := s) rfl hsettled fun k f hk => by cases hk
  refine ⟨fun m c hm => ?_, fun m d hm => ?_, fun k hk => ?_, fun m d hm => ?_, fun m hpos hm => ?_⟩
  · rcases calls_of_put hm with ⟨rfl, _⟩ | ⟨_, hm⟩
    · exact h.bounded m _ hcall
    · exact h.bounded m c hm
  · rcases calls_of_put hm with ⟨rfl, _⟩ | ⟨_, hm⟩
    · exact ⟨.recorded, rfl⟩
    · obtain ⟨phase, hphase⟩ := h.locked m d hm
      rw [hlock] at hphase
      cases hphase
  · obtain rfl : (⟨n, .recorded⟩ : Critical) = k := Option.some.inj hk
    exact ⟨delivered, put_calls_self⟩
  · rcases calls_of_put hm with ⟨_, heq⟩ | ⟨_, hm⟩
    · cases heq
    · exact h.exchanged m d hm
  · by_cases hmn : m = n
    · rw [hmn]
      exact ⟨delivered, .critical, put_calls_self, (fun h => by cases h), fun _ h => by cases h⟩
    · obtain ⟨d, st, hold, hstage⟩ := h.started m hpos (hcounted m hm)
      exact ⟨d, st, (put_calls_of_ne hmn).trans hold, hstage⟩

/-- The call that holds the lock goes on in the critical section. -/
theorem System.Inv.inside {phase phase' : Phase} {progress : OutputProgress} {gapStores : List Bool}
    (h : s.Inv) (hlock : s.lock = some ⟨n, phase⟩)
    (ht : t = ⟨progress, gapStores, some ⟨n, phase'⟩, s.calls⟩)
    (haccepted : progress.accepted = s.progress.accepted)
    (hcounted : ∀ m, t.Counted m → m = n ∨ s.Counted m) : t.Inv := by
  obtain ⟨delivered, hcritical⟩ := h.holder _ hlock
  have hcalls : t.calls = s.calls := by rw [ht]
  refine ⟨fun m c hm => ?_, fun m d hm => ?_, fun k hk => ?_, fun m d hm => ?_, fun m hpos hm => ?_⟩
  · rw [hcalls] at hm
    rw [ht]
    exact haccepted ▸ h.bounded m c hm
  · rw [hcalls] at hm
    obtain ⟨p, hp⟩ := h.locked m d hm
    obtain ⟨rfl, _⟩ := Critical.mk.inj (Option.some.inj (hlock.symm.trans hp))
    exact ⟨phase', by rw [ht]⟩
  · rw [ht] at hk
    obtain rfl : (⟨n, phase'⟩ : Critical) = k := Option.some.inj hk
    exact ⟨delivered, hcalls ▸ hcritical⟩
  · exact h.exchanged m d (hcalls ▸ hm)
  · rw [hcalls]
    rcases hcounted m hm with rfl | hm
    · exact ⟨delivered, .critical, hcritical, (fun h => by cases h), fun _ h => by cases h⟩
    · exact h.started m hpos hm

/-- The frontier that is read moves over what is settled, the serial of the call included. -/
theorem System.Inv.merge (h : s.Inv) (hlock : s.lock = some ⟨n, .marked⟩) :
    ((s.withFailures { s.progress.failures with
      settled := (s.progress.failures.settle s.progress.completed n).2 }).withLock
        (some ⟨n, .merged (s.progress.failures.settle s.progress.completed n).1⟩)).Inv := by
  unfold OutputFailures.settle
  generalize hS : (if s.progress.completed < n then insert n s.progress.failures.settled
    else s.progress.failures.settled) = S
  have hmem : ∀ m ∈ S, m = n ∨ m ∈ s.progress.failures.settled := by
    intro m hm
    rw [← hS] at hm
    split_ifs at hm
    · exact Finset.mem_insert.mp hm
    · exact .inr hm
  refine h.inside hlock rfl rfl ?_
  rintro m (hm | hm | ⟨_, f, heq, hm⟩)
  · exact .inr (.inl hm)
  · rcases hmem m (catchUp_subset _ _ _ hm) with rfl | hm
    · exact .inl rfl
    · exact .inr (.inr (.inl hm))
  · obtain rfl := Phase.merged.inj (Critical.mk.inj (Option.some.inj heq)).2
    by_cases hlt : s.progress.completed < m
    · rcases hmem m (mem_of_le_catchUp hlt hm) with rfl | hm
      · exact .inl rfl
      · exact .inr (.inr (.inl hm))
    · exact .inr (.inl (Nat.not_lt.mp hlt))

/-- The frontier that the call has found is published, unless it has moved on. -/
theorem System.Inv.publish {frontier : ℕ} (h : s.Inv) (hlock : s.lock = some ⟨n, .merged frontier⟩) :
    ((s.withCompleted (max s.progress.completed frontier)).withLock (some ⟨n, .published⟩)).Inv := by
  refine h.inside hlock rfl rfl ?_
  rintro m (hm | hm | ⟨_, _, heq, _⟩)
  · rcases le_max_iff.mp hm with hm | hm
    · exact .inr (.inl hm)
    · exact .inr (.inr (.inr ⟨n, frontier, hlock, hm⟩))
  · exact .inr (.inr (.inl hm))
  · cases heq

/-- A store of `completion_gaps`, which nothing depends on. -/
theorem System.Inv.storeGaps {phase phase' : Phase} (h : s.Inv) (hlock : s.lock = some ⟨n, phase⟩)
    (hphase : ∀ frontier, phase' ≠ .merged frontier) (completionGaps : Bool) :
    ((s.storeGaps completionGaps).withLock (some ⟨n, phase'⟩)).Inv := by
  have hcounted := counted_of_eq (t := (s.storeGaps completionGaps).withLock (some ⟨n, phase'⟩))
    (s := s) rfl rfl fun k f hk => hphase f (Critical.mk.inj (Option.some.inj hk)).2
  exact h.inside hlock rfl rfl fun m hm => .inr (hcounted m hm)

/-- The lock is given back, and the call returns. -/
theorem System.Inv.leave (h : s.Inv) (hcall : s.calls n = some ⟨delivered, .critical⟩)
    (hlock : s.lock = some ⟨n, .leaving⟩) :
    ((s.withLock none).put n ⟨delivered, .finished⟩).Inv := by
  have hcounted := counted_of_eq (t := (s.withLock none).put n ⟨delivered, .finished⟩) (s := s) rfl rfl
    fun k f hk => by cases hk
  refine ⟨fun m c hm => ?_, fun m d hm => ?_, (fun k hk => by cases hk), fun m d hm => ?_,
    fun m hpos hm => ?_⟩
  · rcases calls_of_put hm with ⟨rfl, _⟩ | ⟨_, hm⟩
    · exact h.bounded m _ hcall
    · exact h.bounded m c hm
  · rcases calls_of_put hm with ⟨_, heq⟩ | ⟨hne, hm⟩
    · cases heq
    · obtain ⟨p, hp⟩ := h.locked m d hm
      exact absurd (Critical.mk.inj (Option.some.inj (hlock.symm.trans hp))).1.symm hne
  · rcases calls_of_put hm with ⟨_, heq⟩ | ⟨_, hm⟩
    · cases heq
    · exact h.exchanged m d hm
  · by_cases hmn : m = n
    · rw [hmn]
      exact ⟨delivered, .finished, put_calls_self, (fun h => by cases h), fun _ h => by cases h⟩
    · obtain ⟨d, st, hold, hstage⟩ := h.started m hpos (hcounted m hm)
      exact ⟨d, st, (put_calls_of_ne hmn).trans hold, hstage⟩

/-! ### Runs -/

theorem System.Inv.step (h : s.Inv) (hstep : Step s s') : s'.Inv := by
  cases hstep with
  | accept =>
    exact ⟨fun m c hm => ⟨(h.bounded m c hm).1, (h.bounded m c hm).2.trans (Nat.le_succ _)⟩, h.locked,
      h.holder, h.exchanged, h.started⟩
  | flush completionGaps gapStores =>
    exact ⟨h.bounded, h.locked, h.holder, h.exchanged, h.started⟩
  | drop n delivered hpos hle hcall =>
    refine h.put ⟨hpos, hle⟩ (fun d hd => ?_) (fun h => by cases h) (fun h => by cases h)
      fun hcounted => ?_
    · rw [hcall] at hd
      cases hd
    · obtain ⟨d, stage, hold, _⟩ := h.started n hpos hcounted
      rw [hcall] at hold
      cases hold
  | exchange n hcall hnext => exact h.exchange hcall hnext
  | queue n delivered hcall =>
    have hserial := h.bounded n _ hcall
    refine h.put hserial (fun d hd => ?_) (fun h => by cases h) (fun h => by cases h)
      fun hcounted => ?_
    · rw [hcall] at hd
      cases hd
    · obtain ⟨d, stage, hold, hne, _⟩ := h.started n hserial.1 hcounted
      rw [hcall] at hold
      exact absurd (Call.mk.inj (Option.some.inj hold)).2.symm hne
  | rejoin n delivered hcall _ =>
    have hdelivered := h.exchanged n delivered hcall
    refine h.put (h.bounded n _ hcall) (fun d hd => ?_) (fun h => by cases h) (fun h => by cases h)
      fun _ => ⟨(fun h => by cases h), fun hfalse => ?_⟩
    · rw [hcall] at hd
      cases hd
    · exact absurd (hfalse.symm.trans hdelivered) Bool.false_ne_true
  | finish n delivered hcall _ =>
    refine h.put (h.bounded n _ hcall) (fun d hd => ?_) (fun h => by cases h) (fun h => by cases h)
      fun _ => ⟨(fun h => by cases h), fun _ h => by cases h⟩
    rw [hcall] at hd
    cases hd
  | enter n delivered hcall hlock =>
    refine h.enter hcall hlock ?_
    cases delivered with
    | true => rfl
    | false => exact settled_remember _ _
  | mark n hlock => exact h.storeGaps hlock (fun _ h => by cases h) true
  | merge n hlock => exact h.merge hlock
  | publish n frontier hlock => exact h.publish hlock
  | clear n hlock => exact h.storeGaps hlock (fun _ h => by cases h) _
  | leave n delivered hcall hlock => exact h.leave hcall hlock

theorem System.Inv.reaches (h : s.Inv) (hreaches : s.Reaches s') : s'.Inv :=
  hreaches.invariant h fun _ _ _ hinv hevent => hinv.step (step_cases hevent)

/-- The calls have all returned. -/
def System.Quiet (s : System) : Prop := ∀ n call, s.calls n = some call → call.stage = .finished

/-- Every packet behind the frontier has been dropped. -/
theorem frontier_dropped (h : System.start.Reaches s) (hpos : 1 ≤ n)
    (hle : n ≤ s.progress.completed) : (s.calls n).isSome := by
  obtain ⟨delivered, stage, hcall, _⟩ := (inv_start.reaches h).started n hpos (.inl hle)
  rw [hcall]
  rfl

/-- Two packets that are delivered out of order. The second finds its number missing, the first does
not see the gap yet, and nobody is left to move the frontier on. -/
def unseen : List Event :=
  [.accept, .accept, .drop 2 true, .advance 2, .advance 2, .advance 2, .advance 2, .drop 1 true,
    .advance 1, .advance 1, .advance 2, .advance 2, .advance 2, .flush, .flush]

theorem unseen_runs : (System.start.run unseen).isSome := by decide

/-- The gap is published before the frontier is read, but another call may see it later: both packets
are delivered, both calls have returned, and the frontier stays at the first. -/
theorem frontier_left_behind :
    ((System.start.run unseen).get unseen_runs).progress.completed = 1
      ∧ ((System.start.run unseen).get unseen_runs).progress.accepted = 2
      ∧ ∀ n, 1 ≤ n → n ≤ 2 →
        ((System.start.run unseen).get unseen_runs).calls n = some ⟨true, .finished⟩ := by
  refine ⟨by decide, by decide, fun n hpos hle => ?_⟩
  obtain rfl | rfl : n = 1 ∨ n = 2 := by omega
  · decide
  · decide

/-- The first packet moves the frontier while the second, which was dropped before it, is in the
critical section. The third fails. -/
def overlapping : List Event :=
  [.accept, .accept, .accept, .drop 2 true, .advance 2, .advance 2, .advance 2, .drop 1 true,
    .advance 1, .advance 2, .advance 2, .advance 2, .advance 2, .advance 1, .drop 3 false, .advance 3,
    .advance 3, .advance 3, .advance 3, .advance 3, .advance 3, .advance 3]

theorem overlapping_runs : (System.start.run overlapping).isSome := by decide

theorem overlapping_quiet : ((System.start.run overlapping).get overlapping_runs).Quiet := by
  intro n call hcall
  obtain ⟨hpos, hle⟩ :=
    (inv_start.reaches (Interleaving.reaches_run overlapping overlapping_runs)).bounded n call hcall
  have hle : n ≤ 3 := hle
  obtain rfl | rfl | rfl : n = 1 ∨ n = 2 ∨ n = 3 := by omega
  · exact Option.some.inj hcall ▸ rfl
  · exact Option.some.inj hcall ▸ rfl
  · exact Option.some.inj hcall ▸ rfl

/-! ## Calls return -/

/-- The accesses that are left in the critical section. -/
def Phase.left : Phase → ℕ
  | .recorded => 5
  | .marked => 4
  | .merged _ => 3
  | .published => 2
  | .leaving => 1

/-- A bound on the accesses that are left to a call. -/
def System.left (s : System) (n : ℕ) : ℕ :=
  match s.calls n with
  | none => 0
  | some call =>
    match call.stage with
    | .entered => 8
    | .exchanged => 7
    | .waiting => 6
    | .critical => s.lock.elim 0 (·.phase.left)
    | .finished => 0

theorem left_le (s : System) (n : ℕ) : s.left n ≤ 8 := by
  unfold System.left
  cases s.calls n with
  | none => exact Nat.zero_le 8
  | some call =>
    dsimp only
    cases call.stage with
    | critical =>
      cases s.lock with
      | none => exact Nat.zero_le 8
      | some k => cases hk : k.phase <;> simp [hk, Phase.left]
    | _ => simp

/-- The lock matters only to the call that holds it. -/
theorem left_congr (hcalls : t.calls m = s.calls m)
    (hlock : t.lock = s.lock ∨ ∀ d, s.calls m ≠ some ⟨d, .critical⟩) : t.left m = s.left m := by
  unfold System.left
  rw [hcalls]
  rcases hlock with hlock | hother
  · rw [hlock]
  · cases hcall : s.calls m with
    | none => rfl
    | some call =>
      obtain ⟨d, stage⟩ := call
      cases stage with
      | critical => exact absurd hcall (hother d)
      | _ => rfl

/-- An access brings its call nearer to its end, and leaves the others where they are. -/
theorem System.Inv.advances (h : s.Inv) (hstep : s.step (.advance n) = some s') :
    s'.progress.accepted = s.progress.accepted ∧ s'.left n < s.left n
      ∧ ∀ m, m ≠ n → s'.left m = s.left m := by
  obtain ⟨⟨delivered, stage⟩, hcall, hadvance⟩ := Option.bind_eq_some_iff.mp hstep
  have hput : ∀ {r : System} {new : Call}, r.calls = s.calls →
      (r.lock = s.lock ∨ ∀ m, m ≠ n → ∀ d, s.calls m ≠ some ⟨d, .critical⟩) →
      ∀ m, m ≠ n → (r.put n new).left m = s.left m := by
    intro r new hr hlock m hm
    refine left_congr ((put_calls_of_ne hm).trans (congrFun hr m)) ?_
    exact hlock.imp_right fun hother => hother m hm
  unfold System.advance at hadvance
  cases stage with
  | entered =>
    dsimp only at hadvance
    split_ifs at hadvance
    all_goals
      obtain rfl := Option.some.inj hadvance
      exact ⟨rfl, by simp [System.left, hcall], hput rfl (.inl rfl)⟩
  | exchanged =>
    dsimp only at hadvance
    split_ifs at hadvance
    all_goals
      obtain rfl := Option.some.inj hadvance
      exact ⟨rfl, by simp [System.left, hcall], hput rfl (.inl rfl)⟩
  | waiting =>
    dsimp only at hadvance
    by_cases hlock : s.lock.isNone = true
    · rw [if_pos hlock] at hadvance
      obtain rfl := Option.some.inj hadvance
      refine ⟨rfl, by simp [System.left, System.withLock, hcall, Phase.left], hput rfl (.inr ?_)⟩
      intro m _ d hd
      obtain ⟨phase, hphase⟩ := h.locked m d hd
      rw [hphase] at hlock
      cases hlock
    · rw [if_neg hlock] at hadvance
      cases hadvance
  | critical =>
    obtain ⟨phase, hlock⟩ := h.locked n delivered hcall
    have hother : ∀ m, m ≠ n → ∀ d, s.calls m ≠ some ⟨d, .critical⟩ := by
      intro m hm d hd
      obtain ⟨phase', hphase'⟩ := h.locked m d hd
      rw [hlock] at hphase'
      exact hm (Critical.mk.inj (Option.some.inj hphase')).1.symm
    rw [hlock] at hadvance
    dsimp only at hadvance
    rw [if_pos rfl] at hadvance
    obtain rfl := Option.some.inj hadvance
    cases phase with
    | leaving =>
      exact ⟨rfl, by simp [System.left, System.inside, hcall, hlock, Phase.left],
        hput rfl (.inr hother)⟩
    | _ =>
      exact ⟨rfl, by simp [System.left, System.inside, System.withLock, System.storeGaps,
        System.withFailures, System.withCompleted, hcall, hlock, Phase.left],
        fun m hm => left_congr rfl (.inr (hother m hm))⟩
  | finished => cases hadvance

/-- Where no call can go on, none is running: whoever holds the lock can. -/
theorem System.Inv.quiet (h : s.Inv) (hstuck : ∀ n, s.step (.advance n) = none) : s.Quiet := by
  have hlock : s.lock = none := by
    cases hlock : s.lock with
    | none => rfl
    | some k =>
      obtain ⟨delivered, hcall⟩ := h.holder k hlock
      have hnone := hstuck k.serial
      simp [System.step, System.advance, hcall, hlock] at hnone
  intro n call hcall
  obtain ⟨delivered, stage⟩ := call
  have hnone := hstuck n
  cases stage with
  | critical =>
    obtain ⟨phase, hphase⟩ := h.locked n delivered hcall
    rw [hlock] at hphase
    cases hphase
  | finished => rfl
  | waiting => simp [System.step, System.advance, hcall, hlock] at hnone
  | _ =>
    simp only [System.step, System.advance, hcall, Option.bind_some] at hnone
    split_ifs at hnone

/-- The accesses of a run are taken from those that were left. -/
theorem System.Inv.run_le (h : s.Inv) {serials : List ℕ}
    (hrun : s.run (serials.map .advance) = some t) :
    t.progress.accepted = s.progress.accepted
      ∧ serials.length + ∑ m ∈ Finset.Icc 1 t.progress.accepted, t.left m
        ≤ ∑ m ∈ Finset.Icc 1 s.progress.accepted, s.left m := by
  induction serials generalizing s with
  | nil =>
    obtain rfl := Option.some.inj hrun
    exact ⟨rfl, by simp⟩
  | cons n serials ih =>
    obtain ⟨s', hstep, hrest⟩ :=
      Option.bind_eq_some_iff.mp (show (s.step (.advance n)).bind _ = _ from hrun)
    obtain ⟨haccepted, hlt, hothers⟩ := h.advances hstep
    obtain ⟨hkept, hle⟩ := ih (h.step (step_cases hstep)) hrest
    refine ⟨hkept.trans haccepted, ?_⟩
    obtain ⟨call, hcall, _⟩ := Option.bind_eq_some_iff.mp hstep
    have hsum : ∑ m ∈ Finset.Icc 1 s.progress.accepted, s'.left m
        < ∑ m ∈ Finset.Icc 1 s.progress.accepted, s.left m := by
      refine Finset.sum_lt_sum (fun m _ => ?_) ⟨n, Finset.mem_Icc.mpr (h.bounded n call hcall), hlt⟩
      by_cases hm : m = n
      · exact hm ▸ hlt.le
      · exact (hothers m hm).le
    rw [haccepted] at hle
    rw [List.length_cons]
    omega

/-- The failure of this packet has entered the history. -/
def System.Recorded (s : System) (n : ℕ) : Prop :=
  ∃ stage, s.calls n = some ⟨false, stage⟩ ∧ (stage = .critical ∨ stage = .finished)

/-- The history has the recorded failures but for the oldest ones. -/
def System.History (s : System) : Prop :=
  ∀ n, s.Recorded n → n ∈ s.progress.failures.serials ∨ n ≤ s.progress.failures.evictedThrough

theorem history_start : System.start.History := by
  rintro n ⟨_, hcall, _⟩
  cases hcall

theorem recorded_put :
    (s.put n ⟨delivered, stage⟩).Recorded m ↔
      m = n ∧ delivered = false ∧ (stage = .critical ∨ stage = .finished) ∨ m ≠ n ∧ s.Recorded m := by
  constructor
  · rintro ⟨stage', hcall, hstage⟩
    rcases calls_of_put hcall with ⟨hm, heq⟩ | ⟨hm, hcall⟩
    · obtain ⟨hdelivered, rfl⟩ := Call.mk.inj heq
      exact .inl ⟨hm, hdelivered, hstage⟩
    · exact .inr ⟨hm, stage', hcall, hstage⟩
  · rintro (⟨rfl, rfl, hstage⟩ | ⟨hm, stage', hcall, hstage⟩)
    · exact ⟨stage, put_calls_self, hstage⟩
    · exact ⟨stage', (put_calls_of_ne hm).trans hcall, hstage⟩

/-- Putting a call that is recorded exactly if it was changes nothing. -/
theorem recorded_put_same {delivered delivered' : Bool} {stage stage' : Stage}
    (hcall : s.calls n = some ⟨delivered', stage'⟩)
    (hsame : (delivered = false ∧ (stage = .critical ∨ stage = .finished))
      ↔ (delivered' = false ∧ (stage' = .critical ∨ stage' = .finished))) :
    (s.put n ⟨delivered, stage⟩).Recorded m ↔ s.Recorded m := by
  rw [recorded_put]
  by_cases hm : m = n
  · rw [hm]
    unfold System.Recorded
    rw [hcall, hsame]
    grind
  · simp [hm]

theorem System.History.congr (h : s.History) (hserials : t.progress.failures.serials
      = s.progress.failures.serials)
    (hevicted : t.progress.failures.evictedThrough = s.progress.failures.evictedThrough)
    (hrecorded : ∀ m, t.Recorded m ↔ s.Recorded m) : t.History := by
  intro n hn
  rw [hserials, hevicted]
  exact h n ((hrecorded n).mp hn)

/-- What enters a history is in it, and what leaves it is evicted. -/
theorem mem_remember (failures : OutputFailures) (serial : ℕ) (hm : m = serial
      ∨ m ∈ failures.serials ∨ m ≤ failures.evictedThrough) :
    m ∈ (failures.remember serial).serials ∨ m ≤ (failures.remember serial).evictedThrough := by
  obtain ⟨serials, evictedThrough, settled⟩ := failures
  unfold OutputFailures.remember
  cases serials with
  | nil => simpa using hm
  | cons evicted rest =>
    dsimp only
    split
    · simp only [List.mem_cons, List.mem_append, List.not_mem_nil, or_false, le_max_iff] at hm ⊢
      grind
    · simp only [List.mem_append, List.mem_singleton]
      grind

/-- A failure is recorded. -/
theorem System.History.remember (h : s.History)
    (hfailures : t.progress.failures = s.progress.failures.remember n)
    (hrecorded : ∀ m, t.Recorded m ↔ m = n ∨ s.Recorded m) : t.History := by
  intro m hm
  rw [hfailures]
  exact mem_remember _ n (((hrecorded m).mp hm).imp_right (h m))

theorem System.History.step (h : s.History) (hinv : s.Inv) (hstep : Step s s') : s'.History := by
  cases hstep with
  | accept => exact h.congr rfl rfl fun m => Iff.rfl
  | flush completionGaps gapStores => exact h.congr rfl rfl fun m => Iff.rfl
  | drop n delivered _ _ hcall =>
    refine h.congr rfl rfl fun m => ?_
    rw [recorded_put]
    unfold System.Recorded
    grind
  | exchange n hcall _ =>
    exact h.congr rfl rfl fun m => recorded_put_same (s := s.withCompleted n) hcall (by simp)
  | queue n delivered hcall => exact h.congr rfl rfl fun m => recorded_put_same hcall (by simp)
  | rejoin n delivered hcall _ => exact h.congr rfl rfl fun m => recorded_put_same hcall (by simp)
  | finish n delivered hcall _ =>
    obtain rfl := hinv.exchanged n delivered hcall
    exact h.congr rfl rfl fun m => recorded_put_same hcall (by simp)
  | enter n delivered hcall _ =>
    cases delivered with
    | true =>
      refine h.congr rfl rfl fun m => ?_
      exact recorded_put_same (s := (s.withFailures s.progress.failures).withLock _) hcall (by simp)
    | false =>
      refine h.remember rfl fun m => ?_
      rw [recorded_put]
      unfold System.Recorded
      grind [System.withFailures, System.withLock]
  | mark n _ => exact h.congr rfl rfl fun m => Iff.rfl
  | merge n _ => exact h.congr rfl rfl fun m => Iff.rfl
  | publish n frontier _ => exact h.congr rfl rfl fun m => Iff.rfl
  | clear n _ => exact h.congr rfl rfl fun m => Iff.rfl
  | leave n delivered hcall _ =>
    exact h.congr rfl rfl fun m => recorded_put_same (s := s.withLock none) hcall (by simp)

theorem reaches_history (h : System.start.Reaches s) : s.Inv ∧ s.History :=
  h.invariant (P := fun s => s.Inv ∧ s.History) ⟨inv_start, history_start⟩ fun _ _ _ hs hevent =>
    ⟨hs.1.step (step_cases hevent), hs.2.step hs.1 (step_cases hevent)⟩

/-! ## Drained intervals -/

/-- Whether a packet was delivered is decided once, and a failure stays in the history. -/
theorem calls_step (hstep : Step s s') (h : s.calls n = some ⟨delivered, stage⟩) :
    ∃ stage', s'.calls n = some ⟨delivered, stage'⟩
      ∧ (stage = .critical ∨ stage = .finished → stage' = .critical ∨ stage' = .finished) := by
  have hput : ∀ {r : System} {k : ℕ} {d : Bool} {old new : Stage}, r.calls = s.calls →
      s.calls k = some ⟨d, old⟩ →
      (old = .critical ∨ old = .finished → new = .critical ∨ new = .finished) →
      ∃ stage', (r.put k ⟨d, new⟩).calls n = some ⟨delivered, stage'⟩
        ∧ (stage = .critical ∨ stage = .finished → stage' = .critical ∨ stage' = .finished) := by
    intro r k d old new hr hk hnew
    by_cases hn : n = k
    · rw [hn, hk] at h
      obtain ⟨rfl, rfl⟩ := Call.mk.inj (Option.some.inj h)
      exact ⟨new, by rw [hn]; exact put_calls_self, hnew⟩
    · exact ⟨stage, (put_calls_of_ne hn).trans ((congrFun hr n).trans h), id⟩
  cases hstep with
  | accept => exact ⟨stage, h, id⟩
  | flush completionGaps gapStores => exact ⟨stage, h, id⟩
  | drop k d _ _ hcall =>
    have hn : n ≠ k := by
      rintro rfl
      rw [hcall] at h
      cases h
    exact ⟨stage, (put_calls_of_ne hn).trans h, id⟩
  | exchange k hcall _ => exact hput rfl hcall (by simp)
  | queue k d hcall => exact hput rfl hcall (by simp)
  | rejoin k d hcall _ => exact hput rfl hcall (by simp)
  | finish k d hcall _ => exact hput rfl hcall (by simp)
  | enter k d hcall _ => exact hput rfl hcall (by simp)
  | mark k _ => exact ⟨stage, h, id⟩
  | merge k _ => exact ⟨stage, h, id⟩
  | publish k frontier _ => exact ⟨stage, h, id⟩
  | clear k _ => exact ⟨stage, h, id⟩
  | leave k d hcall _ => exact hput rfl hcall (by simp)

theorem calls_reaches (hreaches : s.Reaches t) (h : s.calls n = some ⟨delivered, stage⟩) :
    ∃ stage', t.calls n = some ⟨delivered, stage'⟩
      ∧ (stage = .critical ∨ stage = .finished → stage' = .critical ∨ stage' = .finished) := by
  refine hreaches.invariant (P := fun u => ∃ stage', u.calls n = some ⟨delivered, stage'⟩
      ∧ (stage = .critical ∨ stage = .finished → stage' = .critical ∨ stage' = .finished))
    ⟨stage, h, id⟩ fun u v event hu hevent => ?_
  obtain ⟨stage', hcall, hkept⟩ := hu
  obtain ⟨stage'', hcall', hkept'⟩ := calls_step (step_cases hevent) hcall
  exact ⟨stage'', hcall', hkept' ∘ hkept⟩

theorem System.Recorded.reaches (h : s.Recorded n) (hreaches : s.Reaches t) : t.Recorded n := by
  obtain ⟨stage, hcall, hstage⟩ := h
  obtain ⟨stage', hcall', hkept⟩ := calls_reaches hreaches hcall
  exact ⟨stage', hcall', hkept hstage⟩

/-- A packet behind the frontier is delivered, or its failure is in the history. -/
theorem System.Inv.settled (h : s.Inv) (hpos : 1 ≤ n) (hle : n ≤ s.progress.completed) :
    (∃ stage, s.calls n = some ⟨true, stage⟩) ∨ s.Recorded n := by
  obtain ⟨delivered, stage, hcall, hentered, hwaiting⟩ := h.started n hpos (.inl hle)
  cases delivered with
  | true => exact .inl ⟨stage, hcall⟩
  | false =>
    refine .inr ⟨stage, hcall, ?_⟩
    cases stage with
    | entered => exact absurd rfl hentered
    | exchanged => exact absurd (h.exchanged n false hcall) Bool.false_ne_true
    | waiting => exact absurd rfl (hwaiting rfl)
    | critical => exact .inl rfl
    | finished => exact .inr rfl

theorem drainedBetween_ok {accepted completed start checkpoint : ℕ} {failures : OutputFailures}
    {drained : Bool} :
    drainedBetween accepted completed failures start checkpoint = .ok drained ↔
      start ≤ checkpoint ∧ checkpoint ≤ accepted ∧ failures.evictedThrough ≤ start
        ∧ (∀ n ∈ failures.serials, start < n → checkpoint < n)
        ∧ drained = decide (checkpoint ≤ completed) := by
  unfold drainedBetween
  by_cases hinterval : start > checkpoint ∨ checkpoint > accepted
  · rw [if_pos hinterval]
    constructor
    · intro h
      cases h
    · intro h
      omega
  · rw [if_neg hinterval]
    by_cases hevicted : start < failures.evictedThrough
    · rw [if_pos hevicted]
      constructor
      · intro h
        cases h
      · intro h
        omega
    · rw [if_neg hevicted]
      cases hfind : failures.serials.find? fun serial => start < serial && serial ≤ checkpoint with
      | some failure =>
        have hmem := List.mem_of_find?_eq_some hfind
        have hin := List.find?_some hfind
        simp only [Bool.and_eq_true, decide_eq_true_eq] at hin
        constructor
        · intro h
          cases h
        · intro h
          have := h.2.2.2.1 failure hmem hin.1
          omega
      | none =>
        have hnone : ∀ n ∈ failures.serials, start < n → checkpoint < n := by
          intro n hn hlt
          have hin := List.find?_eq_none.mp hfind n hn
          simp only [Bool.and_eq_true, decide_eq_true_eq] at hin
          omega
        constructor
        · intro h
          exact ⟨by omega, by omega, by omega, hnone, (Except.ok.inj h).symm⟩
        · intro h
          rw [h.2.2.2.2]

/-- A drain that is reported was one, however the calls go on between the reads of the frontier and of
the failures: each packet of the interval was delivered. -/
theorem drained_delivered (accepted start checkpoint : ℕ) (hs : System.start.Reaches s)
    (ht : s.Reaches t)
    (h : drainedBetween accepted s.progress.completed t.progress.failures start checkpoint = .ok true)
    (hlt : start < n) (hle : n ≤ checkpoint) : ∃ stage, s.calls n = some ⟨true, stage⟩ := by
  obtain ⟨_, _, hevicted, hserials, hcompleted⟩ := drainedBetween_ok.mp h
  have hcheckpoint : checkpoint ≤ s.progress.completed := of_decide_eq_true hcompleted.symm
  rcases (inv_start.reaches hs).settled (by omega) (hle.trans hcheckpoint) with hdelivered | hrecorded
  · exact hdelivered
  · rcases (reaches_history (hs.trans ht)).2 n (hrecorded.reaches ht) with hmem | hle'
    · exact absurd (hserials n hmem hlt) (by omega)
    · omega

/-- The second packet is still in the interval that is reported when the third one fails between the
two reads. -/
theorem drained_delivered_overlapping :
    ∃ stage, ((System.start.run (overlapping.take 14)).get (by decide)).calls 2
      = some ⟨true, stage⟩ :=
  drained_delivered (t := (System.run ((System.start.run (overlapping.take 14)).get (by decide))
    (overlapping.drop 14)).get (by decide)) 3 0 2 (Interleaving.reaches_run _ _)
    (Interleaving.reaches_run _ _) (by decide) (by decide) (by decide)

end CandyRuntime.PacketPort
