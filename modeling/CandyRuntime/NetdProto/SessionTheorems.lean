import CandyRuntime.NetdProto.Session
import Mathlib.Logic.Relation

/-!
# What an accepted request says about the session

Inversion of `NetdSession::apply`: the owner checks come first, and they let a session that
runs keep everything but its owner. In every reachable session, whatever runs has an owner,
and an accepted `Reconfigure` is what the session retains.
-/

namespace CandyRuntime.NetdProto

variable {session fenced next : NetdSession} {request : NetdRequest}

theorem apply_eq_ok (h : session.apply request = .ok next) :
    ∃ fenced, session.fence request = .ok fenced ∧ fenced.advance request = .ok next := by
  unfold NetdSession.apply at h
  cases hv : request.validate.mapError (fun _ => NetdSessionError.invalidDeclaration) with
  | error e => simp [hv, bind, Except.bind] at h
  | ok _ =>
    cases hf : session.fence request with
    | error e => simp [hv, hf, bind, Except.bind] at h
    | ok fenced =>
      refine ⟨fenced, rfl, ?_⟩
      simpa [hv, hf, bind, Except.bind] using h

/-- A session that runs lets its owner through, or the owner of another generation that
reconfigures it or takes the next step of a replacement. -/
theorem fence_running {owner : LeaseOwner} (hphase : session.phase ≠ .stopped)
    (howner : session.owner = some owner) (h : session.fence request = .ok fenced) :
    ∃ o, fenced = { session with owner := some o } ∧ o.generation = request.owner.generation
      ∧ (owner.generation = request.owner.generation ∨ request.operation.isReconfigure = true
        ∨ (session.phase = .active ∧ request.operation.isReplacementStep = true)) := by
  have hstopped : (session.phase == .stopped) = false := by simpa using hphase
  unfold NetdSession.fence at h
  simp only [howner, hstopped, Bool.false_and, Bool.false_eq_true, if_false] at h
  split at h
  · rename_i hc
    injection h with h
    simp only [Bool.and_eq_true] at hc
    exact ⟨request.owner, h.symm, rfl, Or.inr (Or.inl hc.1.2)⟩
  split at h
  · rename_i hc
    injection h with h
    simp only [Bool.and_eq_true] at hc
    exact ⟨request.owner, h.symm, rfl, Or.inr (Or.inl hc.1.2)⟩
  split at h
  · rename_i hc
    injection h with h
    simp only [Bool.and_eq_true, beq_iff_eq] at hc
    exact ⟨request.owner, h.symm, rfl, Or.inr (Or.inr hc.1)⟩
  split at h
  · simp at h
  split at h
  · simp at h
  · rename_i hgeneration
    injection h with h
    have heq : owner.generation = request.owner.generation := by simpa using hgeneration
    refine ⟨owner, ?_, heq, Or.inl heq⟩
    rw [← h, ← howner]

/-- The owner checks touch neither the phase nor a pending replacement. -/
theorem fence_keeps (h : session.fence request = .ok fenced) :
    fenced.phase = session.phase ∧ fenced.replacementPending = session.replacementPending := by
  have hkept : session = fenced → fenced.phase = session.phase
      ∧ fenced.replacementPending = session.replacementPending := by
    intro heq
    rw [heq]
    exact ⟨rfl, rfl⟩
  have howner : ∀ o d, { session with owner := o, declaration := d } = fenced →
      fenced.phase = session.phase
        ∧ fenced.replacementPending = session.replacementPending := by
    intro o d heq
    rw [← heq]
    exact ⟨rfl, rfl⟩
  unfold NetdSession.fence at h
  cases ho : session.owner with
  | none =>
    rw [ho] at h
    injection h with h
    exact hkept h
  | some owner =>
    simp only [ho] at h
    split at h
    · injection h with h
      exact howner _ _ h
    split at h
    · injection h with h
      exact howner _ _ h
    split at h
    · injection h with h
      exact howner _ _ h
    split at h
    · injection h with h
      exact howner _ _ h
    split at h
    · injection h with h
      exact hkept h
    split at h
    · simp at h
    split at h
    · simp at h
    split at h
    · simp at h
    · injection h with h
      exact hkept h

/-- A request never takes the owner from a session, and the one that starts it sets one. -/
theorem advance_owner (h : fenced.advance request = .ok next) (hphase : next.phase ≠ .stopped)
    (howner : fenced.phase ≠ .stopped → fenced.owner ≠ none) : next.owner ≠ none := by
  unfold NetdSession.advance at h
  cases hop : request.operation with
  | prepare declaration => grind [NetdSession.applyPrepare]
  | reconfigure declaration => grind [NetdSession.applyReconfigure]
  | commit => grind
  | rollback => grind
  | status => grind
  | leaseRenew => grind
  | mtuUpdate mtu => grind
  | suspend => grind
  | resume => grind
  | drain now => grind
  | withdrawPrefixes prefixes => grind
  | policyUpdate declaration => grind

/-- The states of a session. -/
def SessionReachable (session : NetdSession) : Prop :=
  Relation.ReflTransGen (fun a b => ∃ request, NetdSession.apply a request = .ok b) .new session

/-- A session that runs has an owner. -/
theorem owner_of_reachable (h : SessionReachable session) (hphase : session.phase ≠ .stopped) :
    session.owner ≠ none := by
  induction h with
  | refl => exact absurd rfl hphase
  | tail _ hstep ih =>
    obtain ⟨request, happly⟩ := hstep
    obtain ⟨fenced, hf, ha⟩ := apply_eq_ok happly
    refine advance_owner ha hphase fun hrunning => ?_
    rw [(fence_keeps hf).1] at hrunning
    obtain ⟨owner, howner⟩ := Option.ne_none_iff_exists'.mp (ih hrunning)
    obtain ⟨o, heq, -, -⟩ := fence_running hrunning howner hf
    rw [heq]
    simp

/-- A `Reconfigure` that is accepted leaves its owner's generation and its declaration. -/
theorem retained_of_apply_reconfigure {declaration : PrepareDeclaration}
    (h : SessionReachable session) (hop : request.operation = .reconfigure declaration)
    (happly : session.apply request = .ok next) :
    (∃ o, next.owner = some o ∧ o.generation = request.owner.generation)
      ∧ next.declaration = some declaration := by
  obtain ⟨fenced, hf, ha⟩ := apply_eq_ok happly
  simp only [NetdSession.advance, hop, NetdSession.applyReconfigure] at ha
  have hrunning : session.phase ≠ .stopped := by
    intro hstopped
    simp [(fence_keeps hf).1, hstopped] at ha
  obtain ⟨owner, howner⟩ := Option.ne_none_iff_exists'.mp (owner_of_reachable h hrunning)
  obtain ⟨o, heq, hgeneration, -⟩ := fence_running hrunning howner hf
  have hfenced : fenced.owner = some o := by rw [heq]
  split at ha
  · split at ha
    · rename_i hsame
      rw [← Except.ok.inj ha]
      exact ⟨⟨o, hfenced, hgeneration⟩, hsame⟩
    · simp at ha
  split at ha
  · rw [← Except.ok.inj ha]
    exact ⟨⟨o, hfenced, hgeneration⟩, rfl⟩
  split at ha
  · split at ha
    · rw [← Except.ok.inj ha]
      exact ⟨⟨o, hfenced, hgeneration⟩, rfl⟩
    · rename_i hsame
      rw [← Except.ok.inj ha]
      exact ⟨⟨o, hfenced, hgeneration⟩, not_not.mp hsame⟩
  · simp at ha

end CandyRuntime.NetdProto
