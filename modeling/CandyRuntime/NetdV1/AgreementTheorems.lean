import CandyRuntime.NetdV1.JournalTheorems
import CandyRuntime.NetdV1.Runs
import Mathlib.Data.Nat.Count

/-!
# When memory and journal agree

An operation either stores a new record and keeps it afterwards, or changes the record in memory and
stores it then. A store that fails is harmless in the first case and leaves memory ahead of the
journal in the second, until a later store of the same operation succeeds.

`Harmless` says, operation by operation, which journal calls may fail: it reads the record before
the operation, the fates of the calls to come and nothing else. The operations that go on after a
failed call are the three that end in `cleanup_record` (`LastStored`) and the two that are taken
call by call until one fails (`stop`).
-/

namespace CandyRuntime.NetdV1

open Lib Lib.Proc NetdProto

variable {f : TransactionRecord → TransactionRecord}

/-- The record in memory is the stored one. -/
def Agrees (w : NetworkTransaction TransactionRecord) : Prop := w.record = w.stored

/-- The journal takes effect or fails without a trace. -/
def Honest (fates : Fates) : Prop := ∀ n, fates.journal n ≠ .fail true

/-! ## The fates of the calls to come -/

/-- The call fails. -/
def Fate.fails : Fate → Bool
  | .fail _ => true
  | _ => false

namespace Fates

/-- The journal call `n` fails. -/
def journalFails (fates : Fates) (n : ℕ) : Bool := (fates.journal n).fails

/-- The backend call `n` fails. -/
def backendFails (fates : Fates) (n : ℕ) : Bool := (fates.backend n).fails

/-- What is left after `j` journal calls and `b` backend calls. -/
def after (fates : Fates) (j b : ℕ) : Fates :=
  { backend := fun n => fates.backend (b + n), journal := fun n => fates.journal (j + n) }

theorem after_backend (fates : Fates) (j b : ℕ) :
    ({ fates.after j b with backend := fun n => (fates.after j b).backend (n + 1) } : Fates)
      = fates.after j (b + 1) := by
  simp [after, Nat.add_assoc, Nat.add_comm 1]

theorem after_journal (fates : Fates) (j b : ℕ) :
    ({ fates.after j b with journal := fun n => (fates.after j b).journal (n + 1) } : Fates)
      = fates.after (j + 1) b := by
  simp [after, Nat.add_assoc, Nat.add_comm 1]

theorem after_zero (fates : Fates) : fates.after 0 0 = fates := by
  simp [after]

end Fates

theorem Honest.after {fates : Fates} (h : Honest fates) (j b : ℕ) : Honest (fates.after j b) :=
  fun n => h (j + n)

/-! ## The clean-up -/

/-- The steps `cleanup_record` undoes, in its order. -/
def undoSteps : List UInt16 :=
  [stepPolicyRule, stepLink ||| stepLinkActive, stepSysctls, stepFirewall, stepRoutes, stepLink]

/-- The backend calls for the candidate. -/
def candidateCalls (candidate : Option PrepareDeclaration) : ℕ :=
  if candidate.isSome then 2 else 0

/-- The backend calls for the steps: every step that is marked is undone, whatever became of the
others. -/
def stepCalls (steps : UInt16) : ℕ := undoSteps.countP (stepDone steps)

/-- The stores behind the one of `RollingBack`: one for the candidate whose two calls succeed, one
for every step whose call succeeds. -/
def cleanupStores (steps : UInt16) (candidate : Option PrepareDeclaration) (fates : Fates) : ℕ :=
  (if candidate.isSome && !fates.backendFails 0 && !fates.backendFails 1 then 1 else 0)
    + Nat.count (fun n => fates.backendFails (candidateCalls candidate + n) = false)
      (stepCalls steps)

/-- Every call succeeds, and no step but the six is marked: the journal is cleared. -/
def Removed (steps : UInt16) (candidate : Option PrepareDeclaration) (fates : Fates) : Prop :=
  steps &&& ~~~ 0x3f = 0
    ∧ ∀ n < candidateCalls candidate + stepCalls steps, fates.backendFails n = false

/-- The last store of the clean-up succeeds; or it does not, and the journal is cleared. -/
def LastStored (steps : UInt16) (candidate : Option PrepareDeclaration) (fates : Fates) : Prop :=
  fates.journalFails (cleanupStores steps candidate fates) = false
    ∨ Removed steps candidate fates
      ∧ fates.journalFails (cleanupStores steps candidate fates + 1) = false

/-- A clean-up that starts with memory and journal in step. -/
def CleanupSpared (r : TransactionRecord) (fates : Fates) : Prop :=
  if fates.journalFails 0 then r.phase = .rollingBack
  else LastStored r.completedSteps r.recoveryCandidate fates

/-! ## Up to the first failure -/

/-- A call of a program that ends at the first one that fails. -/
inductive Stop where
  | backend
  | journal
  | check (passes : Bool)
deriving DecidableEq, Repr

/-- How many journal and backend calls are made up to the one that fails, counted from `j` and
`b`. -/
def stop (fates : Fates) : List Stop → ℕ → ℕ → Option (ℕ × ℕ)
  | [], _, _ => none
  | .backend :: rest, j, b =>
    if fates.backendFails b then some (j, b + 1) else stop fates rest j (b + 1)
  | .journal :: rest, j, b =>
    if fates.journalFails j then some (j + 1, b) else stop fates rest (j + 1) b
  | .check passes :: rest, j, b => if passes then stop fates rest j b else some (j, b)

/-- The calls of `prepare_steps`; the sysctls are read behind the first. -/
def prepareStops (readable : Bool) : List Stop :=
  [.backend, .check readable, .journal, .journal, .backend, .journal, .backend, .journal,
   .backend, .journal, .backend, .journal, .backend, .journal]

/-- The steps marked by the first `j` journal calls of `prepare`: the first two store the new record
and its sysctls. -/
def preparedSteps (j : ℕ) : UInt16 :=
  ([stepSysctls, stepLink, stepLinkActive, stepRoutes, stepFirewall].take (j - 2)).foldl
    (· ||| ·) 0

/-- The calls of the first commit. -/
def commitStops : List Stop := [.journal, .backend, .journal]

/-- A program stops where the clean-up behind it stores the phase `RollingBack` and its last
change. -/
def StopSpared (fates : Fates) (stopped : Option (ℕ × ℕ)) (marked : ℕ → UInt16) : Prop :=
  ∀ j b, stopped = some (j, b) →
    fates.journalFails j = false ∧ LastStored (marked j) none (fates.after j b)

/-! ## The operations -/

/-- A commit of the record. -/
def CommitSpared (r : TransactionRecord) (fates : Fates) : Prop :=
  match r.phase, r.recoveryCandidate with
  | .prepared, some _ =>
    -- The store that discards the candidate makes up for the one that starts the drain.
    fates.journalFails 0 = false ∨ fates.backendFails 0 = false ∧ fates.backendFails 1 = false
      ∧ fates.journalFails 1 = false
  | .prepared, none =>
    StopSpared fates (stop fates commitStops 0 0)
      fun j => if j = 0 then r.completedSteps else r.completedSteps ||| stepPolicyRule
  | _, _ => True

/-- A rollback of the record: a staged candidate is withdrawn, anything else is cleaned up. -/
def RollbackSpared (r : TransactionRecord) (fates : Fates) : Prop :=
  if (stagedCandidate r).isSome then fates.journalFails 0 = false else CleanupSpared r fates

/-- The recovery of a record that is no interrupted policy update. -/
def RecoverySpared (r : TransactionRecord) (fates : Fates) : Prop :=
  if r.phase = .draining then fates.journalFails 0 = false else RollbackSpared r fates

/-- The journal calls that fail leave memory and journal in step. A call that is not made counts as
one that succeeds. -/
def Harmless (fates : Fates) (readings : SysctlKey → Option (Fin 3)) :
    Operation → Option TransactionRecord → Prop
  | .prepare _ declaration, none =>
    -- A first store that fails leaves nothing.
    fates.journalFails 0 = false →
      StopSpared fates
        (stop fates (prepareStops (snapshotSysctls readings declaration).isOk) 1 0) preparedSteps
  | .prepare _ _, some _ => True
  | .commitWithDrain _ _ _, some r => CommitSpared r fates
  | .drainOld _ _, some _ => fates.journalFails 0 = false
  | .rollback _, some r => RollbackSpared r fates
  | .setFailedPrefixes _ prefixes, some r =>
    fates.journalFails 0 = true → sortDedup prefixes = r.failedPrefixes
  | .renewLease owner, some r =>
    fates.journalFails 0 = true → owner.leaseDeadlineMonoMs = r.owner.leaseDeadlineMonoMs
  | .updateMtu _ _, some _ => fates.journalFails 0 = false
  | .suspend _, some r =>
    if fates.journalFails 0 then r.completedSteps &&& ~~~ stepPolicyRule = r.completedSteps
    else fates.journalFails 1 = false
  | .resume _, some r =>
    if fates.journalFails 0 then r.completedSteps ||| stepPolicyRule = r.completedSteps
    else fates.journalFails 1 = false
  | .reconfigure _ declaration, some r =>
    r.declaration ≠ declaration → fates.journalFails 0 = false
      ∧ (r.phase = .active → fates.journalFails 1 = false)
  | .updatePolicy _ declaration, some r =>
    r.declaration ≠ declaration → fates.journalFails 0 = false
  | .recoverOrphan _ _, some r => isPolicyUpdate r = false → RecoverySpared r fates
  | _, none => True

/-- The journal takes effect or fails without a trace, and its failures are harmless. -/
def Careful (op : Operation) (w : NetworkTransaction TransactionRecord) : Prop :=
  Honest w.fates ∧ Harmless w.fates w.readings op w.record

/-! ## One call -/

section Rules

variable {fates : Fates} {w : NetworkTransaction TransactionRecord} {r : TransactionRecord}
  {α : Type} {j b : ℕ}

variable {Q : Unit → NetworkTransaction TransactionRecord → Prop}
  {E : NetworkError → NetworkTransaction TransactionRecord → Prop}
  {C : NetworkTransaction TransactionRecord → Prop}

/-- A backend call. -/
theorem wp_call_at (hw : w.fates = fates.after j b) (c : BackendCall)
    (hok : fates.backendFails b = false →
      ∀ calls, Q () { w with calls, fates := fates.after j (b + 1) })
    (herr : fates.backendFails b = true →
      ∀ calls, E .backend { w with calls, fates := fates.after j (b + 1) })
    (hcrash : C { w with fates := fates.after j (b + 1) }) : wp (call c) Q E C w := by
  have hfate : w.fates.backend 0 = fates.backend b := by
    rw [hw]
    rfl
  rw [wp_call, hfate, hw, Fates.after_backend]
  refine ⟨fun h => hok ?_ _, fun applied h => herr ?_ _, fun _ => hcrash⟩
  · rw [Fates.backendFails, h]
    rfl
  · rw [Fates.backendFails, h]
    rfl

/-- A store or a clear. -/
theorem wp_writeJournal_at (hhonest : Honest fates) (hw : w.fates = fates.after j b)
    (content : Option TransactionRecord)
    (hok : fates.journalFails j = false →
      Q () { w with stored := content, fates := fates.after (j + 1) b })
    (herr : fates.journalFails j = true → E .journal { w with fates := fates.after (j + 1) b })
    (hcrash : C { w with fates := fates.after (j + 1) b }) : wp (writeJournal content) Q E C w := by
  have hfate : w.fates.journal 0 = fates.journal j := by
    rw [hw]
    rfl
  rw [wp_writeJournal, hfate, hw, Fates.after_journal]
  refine ⟨fun h => hok ?_, fun h => absurd h (hhonest j), fun h => herr ?_, fun _ => hcrash⟩
  · rw [Fates.journalFails, h]
    rfl
  · rw [Fates.journalFails, h]
    rfl

/-- A change of the record: memory first. -/
theorem wp_amend_at (hhonest : Honest fates) (hw : w.fates = fates.after j b)
    (hr : w.record = some r) (f : TransactionRecord → TransactionRecord)
    (hok : fates.journalFails j = false →
      Q () { w with record := some (f r), stored := some (f r), fates := fates.after (j + 1) b })
    (herr : fates.journalFails j = true →
      E .journal { w with record := some (f r), fates := fates.after (j + 1) b }) :
    wp (amend exactFormat f) Q E (fun _ => True) w := by
  rw [amend, wp_bind, wp_current hr, wp_bind, setRecord, wp_modify]
  have hset : ({ w with record := some (f r) } : NetworkTransaction TransactionRecord).fates
      = fates.after j b := hw
  exact wp_writeJournal_at hhonest hset (some (f r)) hok herr trivial

/-- A program that reads the record it knows. -/
theorem wp_current_bind {Q : α → NetworkTransaction TransactionRecord → Prop}
    {f : TransactionRecord → Tx TransactionRecord α} (hr : w.record = some r)
    (hf : wp (f r) Q E C w) : wp (current >>= f) Q E C w := by
  rw [wp_bind, wp_current hr]
  exact hf

end Rules

/-! ## Programs that keep memory and journal in step -/

/-- Memory and journal are in step, in the midst of an operation. -/
structure Abreast (fates : Fates) (w : NetworkTransaction TransactionRecord) : Prop where
  agrees : Agrees w
  behind : ∃ j b, w.fates = fates.after j b

/-- Memory and journal hold `r`, and `j` journal calls are made. -/
structure Both (fates : Fates) (j : ℕ) (r : TransactionRecord)
    (w : NetworkTransaction TransactionRecord) : Prop where
  record : w.record = some r
  stored : w.stored = some r
  behind : ∃ b, w.fates = fates.after j b

/-- Memory holds some record, and `j` journal calls are made. -/
structure Loaded (fates : Fates) (j : ℕ) (w : NetworkTransaction TransactionRecord) : Prop where
  record : ∃ r, w.record = some r
  behind : ∃ b, w.fates = fates.after j b

section Programs

variable {fates : Fates} {w : NetworkTransaction TransactionRecord} {r : TransactionRecord}
  {α : Type} {j : ℕ}

theorem Both.abreast (h : Both fates j r w) : Abreast fates w :=
  ⟨h.record.trans h.stored.symm, j, h.behind⟩

theorem Both.loaded (h : Both fates j r w) : Loaded fates j w :=
  ⟨⟨r, h.record⟩, h.behind⟩

theorem abreast_call (c : BackendCall) :
    Preserves (Abreast fates) (call c : Tx TransactionRecord Unit) := by
  intro w ⟨hagrees, j, b, hw⟩
  exact wp_call_at hw c (fun _ _ => ⟨hagrees, j, b + 1, rfl⟩) (fun _ _ => ⟨hagrees, j, b + 1, rfl⟩)
    ⟨hagrees, j, b + 1, rfl⟩

theorem abreast_replaceRecord (hhonest : Honest fates) (r : TransactionRecord) :
    Preserves (Abreast fates) (replaceRecord exactFormat r) := by
  intro w ⟨hagrees, j, b, hw⟩
  have hsame : Abreast fates { w with fates := fates.after (j + 1) b } := ⟨hagrees, j + 1, b, rfl⟩
  rw [replaceRecord, wp_bind]
  exact wp_writeJournal_at hhonest hw (some r) (fun _ => ⟨rfl, j + 1, b, rfl⟩) (fun _ => hsame)
    hsame

theorem both_call (c : BackendCall) :
    Preserves (Both fates j r) (call c : Tx TransactionRecord Unit) := by
  intro w ⟨hrecord, hstored, b, hw⟩
  exact wp_call_at hw c (fun _ _ => ⟨hrecord, hstored, b + 1, rfl⟩)
    (fun _ _ => ⟨hrecord, hstored, b + 1, rfl⟩) ⟨hrecord, hstored, b + 1, rfl⟩

theorem loaded_call (c : BackendCall) :
    Preserves (Loaded fates j) (call c : Tx TransactionRecord Unit) := by
  intro w ⟨hrecord, b, hw⟩
  exact wp_call_at hw c (fun _ _ => ⟨hrecord, b + 1, rfl⟩) (fun _ _ => ⟨hrecord, b + 1, rfl⟩)
    ⟨hrecord, b + 1, rfl⟩

/-- Memory and journal end in step, if the operation returns. -/
def Agreed {α : Type} (P : NetworkTransaction TransactionRecord → Prop)
    (m : Tx TransactionRecord α) : Prop :=
  Triple P m (fun _ => Agrees) (fun _ => Agrees) (fun _ => True)

theorem agreed_of_preserves {m : Tx TransactionRecord α} (hm : Preserves (Abreast fates) m) :
    Agreed (Abreast fates) m :=
  Triple.conseq hm (fun _ h => h) (fun _ _ h => h.agrees) (fun _ _ h => h.agrees) fun _ _ => trivial

/-- A change whose store may fail only if it changes nothing. -/
theorem both_amend (hhonest : Honest fates) (f : TransactionRecord → TransactionRecord)
    (hspared : fates.journalFails j = true → f r = r) :
    Triple (Both fates j r) (amend exactFormat f)
      (fun _ w => Both fates (j + 1) (f r) w ∧ fates.journalFails j = false)
      (fun _ => Agrees) (fun _ => True) := by
  intro w ⟨hrecord, hstored, b, hw⟩
  refine wp_amend_at hhonest hw hrecord f (fun hstores => ⟨⟨rfl, rfl, b, rfl⟩, hstores⟩)
    fun hfails => ?_
  show some (f r) = w.stored
  rw [hspared hfails, hstored]

/-- A store that succeeds makes up for the ones before it. -/
theorem loaded_amend (hhonest : Honest fates) (hstores : fates.journalFails j = false)
    (f : TransactionRecord → TransactionRecord) :
    Agreed (Loaded fates j) (amend exactFormat f) := by
  intro w ⟨⟨r, hrecord⟩, b, hw⟩
  refine wp_amend_at hhonest hw hrecord f (fun _ => rfl) fun hfails => ?_
  rw [hstores] at hfails
  cases hfails

/-- The record read first is the one in memory. -/
theorem agreed_current_bind {f : TransactionRecord → Tx TransactionRecord α}
    (hf : Agreed (Both fates j r) (f r)) : Agreed (Both fates j r) (current >>= f) :=
  fun w hw => wp_current_bind hw.record (hf w hw)

/-- A check or a call in front of a program. -/
theorem agreed_bind {γ : Type} {m : Tx TransactionRecord γ} {f : γ → Tx TransactionRecord α}
    (hm : Preserves (Both fates j r) m) (hf : ∀ a, Agreed (Both fates j r) (f a)) :
    Agreed (Both fates j r) (m >>= f) :=
  Triple.bind (Triple.conseq hm (fun _ h => h) (fun _ _ h => h) (fun _ _ h => h.abreast.agrees)
    fun _ _ => trivial) hf

theorem agreed_pure (a : α) : Agreed (Both fates j r) (pure a : Tx TransactionRecord α) :=
  Triple.pure fun _ h => h.abreast.agrees

/-- A change as the last call. -/
theorem agreed_amend (hhonest : Honest fates) (hspared : fates.journalFails j = true → f r = r) :
    Agreed (Both fates j r) (amend exactFormat f) :=
  Triple.post (both_amend hhonest f hspared) fun _ _ h => h.1.abreast.agrees

/-- A change and what follows it. -/
theorem agreed_amend_bind (hhonest : Honest fates) {k : Unit → Tx TransactionRecord α}
    (hspared : fates.journalFails j = true → f r = r)
    (hk : fates.journalFails j = false → Agreed (Both fates (j + 1) (f r)) (k ())) :
    Agreed (Both fates j r) (amend exactFormat f >>= k) :=
  Triple.bind (both_amend hhonest f hspared) fun _ => Triple.and_pre hk

end Programs

/-! ## The clean-up keeps memory and journal in step -/

section Cleanup

variable {fates : Fates} {w : NetworkTransaction TransactionRecord} {r : TransactionRecord}
  {first offset k : ℕ} {left : UInt16}

/-- The stores made when `k` steps behind the candidate's part are undone. -/
def storesMade (fates : Fates) (first offset k : ℕ) : ℕ :=
  first + Nat.count (fun n => fates.backendFails (offset + n) = false) k

/-- In the midst of a clean-up: memory is ahead of the journal only if the last store has failed,
and has nothing but `left` to undo if no call has. -/
structure Clearing (fates : Fates) (first offset k : ℕ) (left : UInt16)
    (w : NetworkTransaction TransactionRecord) : Prop where
  behind : w.fates = fates.after (storesMade fates first offset k + 1) (offset + k)
  settled : fates.journalFails (storesMade fates first offset k) = false → Agrees w
  record : ∃ r, w.record = some r ∧ ((∀ n < offset + k, fates.backendFails n = false) →
    r.completedSteps = left ∧ r.recoveryCandidate = none)

/-- A step that is not marked is cleared already. -/
theorem clear_of_not_done {steps step : UInt16} (h : stepDone steps step = false) :
    steps &&& ~~~ step = steps := by
  have hzero : steps &&& step = 0 := by simpa [stepDone] using h
  apply UInt16.toBitVec_inj.1
  ext i hi
  have hbit := congrArg (fun x : UInt16 => x.toBitVec[i]) hzero
  simp at hbit ⊢
  intro hs
  rw [hbit hs]

/-- One step of the clean-up. -/
theorem clearing_cleanupStep (hhonest : Honest fates) (needed : Bool) (c : BackendCall)
    (step : UInt16) (error : Option NetworkError)
    (hclear : needed = false → left &&& ~~~ step = left) :
    Triple (Clearing fates first offset k left) (cleanupStep exactFormat needed c step error)
      (fun _ => Clearing fates first offset (k + needed.toNat) (left &&& ~~~ step))
      (fun _ => Agrees) (fun _ => True) := by
  intro w hclearing
  unfold cleanupStep clearStep
  cases needed with
  | false =>
    rw [hclear rfl]
    exact hclearing
  | true =>
    obtain ⟨hbehind, hsettled, r, hrecord, hall⟩ := hclearing
    have hcount := Nat.count_succ (fun n => fates.backendFails (offset + n) = false) k
    show wp _ (fun _ => Clearing fates first offset (k + 1) (left &&& ~~~ step)) _ _ _
    rw [if_pos rfl, wp_bind, wp_errorOf, wp_bind]
    refine wp_call_at hbehind c (fun hok calls => ?_) (fun hfails calls => ?_) trivial
    · have hmade : storesMade fates first offset (k + 1) = storesMade fates first offset k + 1 := by
        simp only [storesMade, hcount, hok, if_true, Nat.add_assoc]
      have hrecord' : (∀ n < offset + (k + 1), fates.backendFails n = false) →
          r.completedSteps &&& ~~~ step = left &&& ~~~ step ∧ r.recoveryCandidate = none := by
        intro hsucceed
        have hleft := hall fun n hn => hsucceed n (by omega)
        exact ⟨by rw [hleft.1], hleft.2⟩
      show wp (amend exactFormat _) _ _ _ _
      refine wp_amend_at (j := storesMade fates first offset k + 1) (b := offset + k + 1) (r := r)
        hhonest rfl ?_ _ (fun _ => ?_) fun hfails => ?_
      · exact hrecord
      · exact ⟨by rw [hmade]; rfl, fun _ => rfl, _, rfl, hrecord'⟩
      · refine ⟨by rw [hmade]; rfl, fun hstores => ?_, _, rfl, hrecord'⟩
        rw [hmade, hfails] at hstores
        cases hstores
    · -- The call has failed: memory is left as it is, and no longer holds what is left to undo.
      have hmade : storesMade fates first offset (k + 1) = storesMade fates first offset k := by
        simp only [storesMade, hcount, hfails, Bool.true_eq_false, if_false, Nat.add_zero]
      refine ⟨by rw [hmade]; rfl, fun hstores => ?_, r, hrecord, fun hsucceed => ?_⟩
      · rw [hmade] at hstores
        exact hsettled hstores
      · rw [hsucceed (offset + k) (by simp)] at hfails
        cases hfails

/-- The candidate's part of the clean-up. -/
theorem clearing_cleanupCandidate (hhonest : Honest fates) :
    Triple (fun w => w.fates = fates.after 1 0 ∧ w.record = some r ∧ Agrees w)
      (cleanupCandidate exactFormat r.recoveryCandidate)
      (fun _ => Clearing fates (if r.recoveryCandidate.isSome && !fates.backendFails 0
        && !fates.backendFails 1 then 1 else 0) (candidateCalls r.recoveryCandidate) 0
        r.completedSteps)
      (fun _ => Agrees) (fun _ => True) := by
  intro w ⟨hbehind, hrecord, hagrees⟩
  cases hcandidate : r.recoveryCandidate with
  | none => exact ⟨hbehind, fun _ => hagrees, r, hrecord, fun _ => ⟨rfl, hcandidate⟩⟩
  | some candidate =>
    rw [cleanupCandidate, wp_bind, wp_errorOf]
    -- A call for the candidate fails: the candidate stays in the record.
    have hstays : ∀ calls : List (BackendCall × Bool),
        (fates.backendFails 0 || fates.backendFails 1) = true →
        Clearing fates (if (some candidate).isSome && !fates.backendFails 0
          && !fates.backendFails 1 then 1 else 0) (candidateCalls (some candidate)) 0
          r.completedSteps { w with calls, fates := fates.after 1 2 } := by
      intro calls hfails
      have hzero : ((some candidate).isSome && !fates.backendFails 0 && !fates.backendFails 1)
          = false := by
        cases h0 : fates.backendFails 0 <;> cases h1 : fates.backendFails 1 <;> simp_all
      rw [hzero]
      refine ⟨rfl, fun _ => hagrees, r, hrecord, fun hsucceed => ?_⟩
      have h0 : fates.backendFails 0 = false := hsucceed 0 (by simp [candidateCalls])
      have h1 : fates.backendFails 1 = false := hsucceed 1 (by simp [candidateCalls])
      rw [h0, h1] at hfails
      cases hfails
    refine wp_call_at hbehind _ (fun hok calls => ?_) (fun hfails calls => ?_) trivial
    · rw [wp_bind, wp_errorOf]
      refine wp_call_at (j := 1) (b := 1) rfl _ (fun hok' calls' => ?_) (fun hfails' calls' => ?_)
        trivial
      · show wp (errorOf (amend exactFormat _)) _ _ _ _
        have hone : (if (some candidate).isSome && !fates.backendFails 0 && !fates.backendFails 1
            then 1 else 0) = 1 := by
          rw [hok, hok']
          rfl
        rw [wp_errorOf, hone]
        refine wp_amend_at (j := 1) (b := 2) (r := r) hhonest rfl ?_ _ (fun _ => ?_)
          fun hfails => ?_
        · exact hrecord
        · exact ⟨rfl, fun _ => rfl, _, rfl, fun _ => ⟨rfl, rfl⟩⟩
        · refine ⟨rfl, fun hstores => ?_, _, rfl, fun _ => ⟨rfl, rfl⟩⟩
          have hlast : fates.journalFails 1 = false := hstores
          rw [hlast] at hfails
          cases hfails
      · exact hstays calls' (by rw [hfails', Bool.or_true])
    · rw [wp_bind, wp_errorOf]
      refine wp_call_at (j := 1) (b := 1) rfl _ (fun _ calls' => ?_) (fun _ calls' => ?_) trivial
      · exact hstays calls' (by rw [hfails, Bool.true_or])
      · exact hstays calls' (by rw [hfails, Bool.true_or])

/-- The end of the clean-up. -/
theorem agrees_cleanupFinish (hhonest : Honest fates) (error : Option NetworkError)
    (hspared : fates.journalFails (storesMade fates first offset k) = false
      ∨ (left = 0 ∧ ∀ n < offset + k, fates.backendFails n = false)
        ∧ fates.journalFails (storesMade fates first offset k + 1) = false) :
    Triple (Clearing fates first offset k left) (cleanupFinish error : Tx TransactionRecord _)
      (fun _ => Agrees) (fun _ => Agrees) (fun _ => True) := by
  intro w ⟨hbehind, hsettled, r, hrecord, hall⟩
  rw [cleanupFinish, wp_bind, wp_get, hrecord]
  by_cases hnothing : r.completedSteps = 0 ∧ r.recoveryCandidate = none
  · show wp (if r.completedSteps = 0 ∧ r.recoveryCandidate = none then _ else _) _ _ _ _
    rw [if_pos hnothing, wp_bind, wp_errorOf, wp_bind]
    refine wp_writeJournal_at hhonest hbehind none (fun _ => rfl) (fun hfails => ?_) trivial
    -- The clear has failed: the last store has not.
    rcases hspared with hstored | ⟨_, hcleared⟩
    · exact hsettled hstored
    · rw [hcleared] at hfails
      cases hfails
  · show wp (if r.completedSteps = 0 ∧ r.recoveryCandidate = none then _ else _) _ _ _ _
    rw [if_neg hnothing]
    rcases hspared with hstored | ⟨⟨hleft, hsucceed⟩, _⟩
    · exact hsettled hstored
    · have hrest := hall hsucceed
      rw [hleft] at hrest
      exact absurd hrest hnothing

theorem not_done_clear {steps step : UInt16} (h : stepDone steps step = false) (cleared : UInt16) :
    stepDone (steps &&& ~~~ cleared) step = false := by
  by_contra hdone
  rw [Bool.not_eq_false] at hdone
  rw [stepDone_of_clear hdone] at h
  cases h

theorem not_done_of_le {steps s t : UInt16} (h : stepDone steps s = false) (hle : s &&& t = t) :
    stepDone steps t = false := by
  have hzero : steps &&& s = 0 := by simpa [stepDone] using h
  rw [stepDone, ← hle, ← UInt16.and_assoc, hzero, UInt16.zero_and]
  rfl

/-- The clean-up of a record whose phase is stored. -/
theorem agreed_cleanupRecord (hhonest : Honest fates) (hfirst : fates.journalFails 0 = false)
    (hlast : LastStored r.completedSteps r.recoveryCandidate fates) :
    Agreed (fun w => w.fates = fates ∧ w.record = some r) (cleanupRecord exactFormat) := by
  intro w ⟨hw, hrecord⟩
  unfold cleanupRecord
  rw [wp_bind]
  refine wp_amend_at (j := 0) (b := 0) hhonest (hw.trans fates.after_zero.symm) hrecord _
    (fun _ => ?_) fun hfails => ?_
  · refine wp_current_bind rfl ?_
    refine (Triple.bind (clearing_cleanupCandidate (r := { r with phase := .rollingBack }) hhonest)
      fun _ => ?_) _ ⟨rfl, rfl, rfl⟩
    refine Triple.bind (clearing_cleanupStep hhonest _ _ _ _ fun h => ?_) fun _ => ?_
    · exact clear_of_not_done h
    refine Triple.bind (clearing_cleanupStep hhonest _ _ _ _ fun h => ?_) fun _ => ?_
    · exact clear_of_not_done (not_done_clear (not_done_of_le h (by decide)) _)
    refine Triple.bind (clearing_cleanupStep hhonest _ _ _ _ fun h => ?_) fun _ => ?_
    · exact clear_of_not_done (not_done_clear (not_done_clear h _) _)
    refine Triple.bind (clearing_cleanupStep hhonest _ _ _ _ fun h => ?_) fun _ => ?_
    · exact clear_of_not_done (not_done_clear (not_done_clear (not_done_clear h _) _) _)
    refine Triple.bind (clearing_cleanupStep hhonest _ _ _ _ fun h => ?_) fun _ => ?_
    · exact clear_of_not_done
        (not_done_clear (not_done_clear (not_done_clear (not_done_clear h _) _) _) _)
    refine Triple.bind (clearing_cleanupStep hhonest _ _ _ _ fun h => ?_) fun _ => ?_
    · exact clear_of_not_done (not_done_clear
        (not_done_clear (not_done_clear (not_done_clear (not_done_clear h _) _) _) _) _)
    refine Triple.bind (agrees_cleanupFinish hhonest _ ?_) fun error => ?_
    · -- All six are behind, and what is left is what no step accounts for.
      have hcalls : stepCalls r.completedSteps = 0
          + (stepDone r.completedSteps stepPolicyRule).toNat
          + (stepDone r.completedSteps (stepLink ||| stepLinkActive)).toNat
          + (stepDone r.completedSteps stepSysctls).toNat
          + (stepDone r.completedSteps stepFirewall).toNat
          + (stepDone r.completedSteps stepRoutes).toNat
          + (stepDone r.completedSteps stepLink).toNat := by
        simp only [stepCalls, undoSteps, List.countP_cons, List.countP_nil, Bool.toNat,
          Bool.cond_eq_ite]
        omega
      unfold LastStored Removed cleanupStores at hlast
      rw [hcalls] at hlast
      refine hlast.imp_right fun hcleared => ⟨⟨?_, hcleared.1.2⟩, hcleared.2⟩
      rw [← hcleared.1.1]
      simp only [UInt16.and_assoc]
      rfl
    · cases error with
      | none => exact Triple.pure fun _ h => h
      | some e => exact Triple.fail fun _ h => h
  · rw [hfirst] at hfails
    cases hfails

end Cleanup

/-! ## Programs that end at the first failure -/

section Stops

variable {fates : Fates} {r : TransactionRecord} {marked : ℕ → UInt16}
  {stopped : Option (ℕ × ℕ)} {rest : List Stop} {j b : ℕ}

/-- The calls `rest` are still to come, memory and journal are in step. -/
structure Doing (fates : Fates) (marked : ℕ → UInt16) (stopped : Option (ℕ × ℕ))
    (rest : List Stop) (j b : ℕ) (w : NetworkTransaction TransactionRecord) : Prop where
  behind : w.fates = fates.after j b
  ends : stop fates rest j b = stopped
  record : ∃ r, w.record = some r ∧ w.stored = some r ∧ r.completedSteps = marked j
    ∧ r.recoveryCandidate = none

/-- A call has failed. -/
structure Halted (fates : Fates) (marked : ℕ → UInt16) (stopped : Option (ℕ × ℕ))
    (w : NetworkTransaction TransactionRecord) : Prop where
  behind : ∃ j b, w.fates = fates.after j b ∧ stopped = some (j, b)
    ∧ ∃ r, w.record = some r ∧ r.completedSteps = marked j ∧ r.recoveryCandidate = none

theorem Doing.agrees {w : NetworkTransaction TransactionRecord}
    (h : Doing fates marked stopped rest j b w) : Agrees w := by
  obtain ⟨_, _, r, hrecord, hstored, _⟩ := h
  exact hrecord.trans hstored.symm

theorem doing_call (c : BackendCall) :
    Triple (Doing fates marked stopped (.backend :: rest) j b) (call c)
      (fun _ => Doing fates marked stopped rest j (b + 1))
      (fun _ => Halted fates marked stopped) (fun _ => True) := by
  intro w ⟨hw, hends, r, hrecord, hstored, hsteps, hcandidate⟩
  refine wp_call_at hw c (fun hok _ => ⟨rfl, ?_, r, hrecord, hstored, hsteps, hcandidate⟩)
    (fun hfails _ => ⟨j, b + 1, rfl, ?_, r, hrecord, hsteps, hcandidate⟩) trivial
  · rw [← hends, stop, hok]
    rfl
  · rw [← hends, stop, hfails]
    rfl

theorem doing_amend (hhonest : Honest fates)
    (hf : ∀ r, r.completedSteps = marked j → (f r).completedSteps = marked (j + 1)
      ∧ (f r).recoveryCandidate = r.recoveryCandidate) :
    Triple (Doing fates marked stopped (.journal :: rest) j b) (amend exactFormat f)
      (fun _ => Doing fates marked stopped rest (j + 1) b)
      (fun _ => Halted fates marked stopped) (fun _ => True) := by
  intro w ⟨hw, hends, r, hrecord, _, hsteps, hcandidate⟩
  have hf' := hf r hsteps
  refine wp_amend_at hhonest hw hrecord f
    (fun hok => ⟨rfl, ?_, f r, rfl, rfl, hf'.1, hf'.2.trans hcandidate⟩)
    fun hfails => ⟨j + 1, b, rfl, ?_, f r, rfl, hf'.1, hf'.2.trans hcandidate⟩
  · rw [← hends, stop, hok]
    rfl
  · rw [← hends, stop, hfails]
    rfl

theorem doing_completeStep (hhonest : Honest fates) {step : UInt16}
    (hstep : marked j ||| step = marked (j + 1)) :
    Triple (Doing fates marked stopped (.journal :: rest) j b) (completeStep exactFormat step)
      (fun _ => Doing fates marked stopped rest (j + 1) b)
      (fun _ => Halted fates marked stopped) (fun _ => True) := by
  refine doing_amend hhonest fun r h => ⟨?_, rfl⟩
  rw [← hstep, ← h]

theorem agreed_setPhase (hhonest : Honest fates) {phase : TransactionPhase}
    (hsame : marked j = marked (j + 1)) :
    Triple (Doing fates marked stopped [.journal] j b) (setPhase exactFormat phase)
      (fun _ => Agrees) (fun _ => Halted fates marked stopped) (fun _ => True) :=
  Triple.post (doing_amend hhonest fun _ h => ⟨h.trans hsame, rfl⟩) fun _ _ h => h.agrees

/-- Reading the record. -/
theorem doing_current :
    Triple (Doing fates marked stopped rest j b) (current : Tx TransactionRecord TransactionRecord)
      (fun _ => Doing fates marked stopped rest j b) (fun _ => Halted fates marked stopped)
      (fun _ => True) := by
  intro w hw
  have hdoing := hw
  obtain ⟨_, _, r, hrecord, _⟩ := hw
  rw [wp_current hrecord]
  exact hdoing

/-- The clean-up behind the call that has failed. -/
theorem agreed_cleanup_fail (hhonest : Honest fates) (hspared : StopSpared fates stopped marked)
    (e : NetworkError) :
    Agreed (Halted fates marked stopped)
      (do ignore (cleanupRecord exactFormat); fail e : Tx TransactionRecord Unit) := by
  intro w ⟨j, b, hw, hstopped, r, hrecord, hsteps, hcandidate⟩
  obtain ⟨hfirst, hlast⟩ := hspared j b hstopped
  have hcleanup := agreed_cleanupRecord (r := r) (hhonest.after j b) hfirst
    (by rw [hsteps, hcandidate]; exact hlast)
  rw [wp_bind, wp_ignore]
  exact hcleanup w ⟨hw, hrecord⟩

end Stops

/-! ## The operations keep memory and journal in step -/

section Operations

variable {fates : Fates} {readings : SysctlKey → Option (Fin 3)} {r : TransactionRecord}
  {owner : LeaseOwner} {declaration : PrepareDeclaration}

/-- The start of an operation that finds a record. -/
structure Starts (fates : Fates) (r : TransactionRecord)
    (w : NetworkTransaction TransactionRecord) : Prop where
  fates : w.fates = fates
  record : w.record = some r
  stored : w.stored = some r

theorem Starts.both {w : NetworkTransaction TransactionRecord} (h : Starts fates r w) :
    Both fates 0 r w :=
  ⟨h.record, h.stored, 0, h.fates.trans fates.after_zero.symm⟩

/-- A store that does not fail may change the record. -/
theorem spared_of_stores {p : Prop} {j : ℕ} (h : fates.journalFails j = false) :
    fates.journalFails j = true → p :=
  fun hfails => absurd (h.symm.trans hfails) (by decide)

theorem ignored_call {j : ℕ} {E : NetworkError → NetworkTransaction TransactionRecord → Prop}
    (c : BackendCall) :
    Triple (Loaded fates j) (ignore (call c)) (fun _ => Loaded fates j) E (fun _ => True) := by
  intro w hw
  rw [wp_ignore]
  exact wp_mono (loaded_call c w hw) (fun _ _ h => h) (fun _ _ h => h) fun _ _ => trivial

variable (hhonest : Honest fates)

include hhonest

/-- The end of a handler: the candidate is discarded, and the store of that succeeds. -/
theorem ignored_amend_fail {j : ℕ} (hstores : fates.journalFails j = false)
    (f : TransactionRecord → TransactionRecord) (e : NetworkError)
    {Q : Unit → NetworkTransaction TransactionRecord → Prop} :
    Triple (Loaded fates j) (do ignore (amend exactFormat f); fail e) Q (fun _ => Agrees)
      (fun _ => True) := by
  intro w hw
  rw [wp_bind, wp_ignore]
  exact loaded_amend hhonest hstores f w hw

/-- The steps of `prepare`, and the clean-up when one of their calls fails. -/
theorem agreed_prepareSteps (hspared : StopSpared fates
      (stop fates (prepareStops (snapshotSysctls readings declaration).isOk) 1 0) preparedSteps) :
    Agreed (fun w => w.fates = fates.after 1 0 ∧ w.readings = readings
        ∧ w.record = some (freshRecord owner declaration)
        ∧ w.stored = some (freshRecord owner declaration))
      (handle (prepareSteps exactFormat) fun e => do
        ignore (cleanupRecord exactFormat)
        fail e) := by
  refine Triple.handle ?_ fun e => agreed_cleanup_fail hhonest hspared e
  intro w ⟨hw, hreadings, hrecord, hstored⟩
  have hcall : ∀ {rest : List Stop} {j b : ℕ} {stopped : Option (ℕ × ℕ)} (c : BackendCall)
      (stage : BackendStage), Triple (Doing fates preparedSteps stopped (.backend :: rest) j b)
        (atStage (call c) stage) (fun _ => Doing fates preparedSteps stopped rest j (b + 1))
        (fun _ => Halted fates preparedSteps stopped) (fun _ => True) :=
    fun c stage => Triple.mapError (doing_call c) fun _ _ h => h
  unfold prepareSteps
  refine wp_current_bind hrecord ?_
  rw [wp_bind, atStage, wp_mapError, preflight, wp_bind]
  refine wp_call_at hw _ (fun hok calls => ?_) (fun hfails calls => ?_) trivial
  · rw [wp_bind, wp_get, wp_lift]
    refine ⟨fun sysctls hread => ?_, fun e hread => ?_⟩ <;> rw [hreadings] at hread <;>
      change snapshotSysctls readings declaration = _ at hread
    · have hdoing : Doing fates preparedSteps
          (stop fates (prepareStops (snapshotSysctls readings declaration).isOk) 1 0)
          ((prepareStops true).drop 2) 1 1 { w with calls, fates := fates.after 1 (0 + 1) } := by
        refine ⟨rfl, ?_, _, hrecord, hstored, rfl, rfl⟩
        rw [hread]
        show _ = if fates.backendFails 0 then some (1, 1) else _
        rw [hok]
        rfl
      have hkept : ∀ r : TransactionRecord, r.completedSteps = preparedSteps 1 →
          r.completedSteps = preparedSteps 2 := fun _ h => h
      refine (Triple.bind (doing_amend hhonest ?_) fun _ => ?_) _ hdoing
      · exact fun r h => ⟨hkept r h, rfl⟩
      refine Triple.bind (doing_completeStep hhonest rfl) fun _ => ?_
      refine Triple.bind doing_current fun _ => Triple.bind (hcall _ _) fun _ => ?_
      refine Triple.bind (doing_completeStep hhonest rfl) fun _ => ?_
      refine Triple.bind (hcall _ _) fun _ => ?_
      refine Triple.bind (doing_completeStep hhonest rfl) fun _ => ?_
      refine Triple.bind (hcall _ _) fun _ => ?_
      refine Triple.bind (doing_completeStep hhonest rfl) fun _ => ?_
      refine Triple.bind (hcall _ _) fun _ => ?_
      refine Triple.bind (doing_completeStep hhonest rfl) fun _ => ?_
      exact Triple.bind (hcall _ _) fun _ => agreed_setPhase hhonest rfl
    · refine ⟨1, 1, rfl, ?_, _, hrecord, rfl, rfl⟩
      rw [hread, prepareStops, stop, hok]
      rfl
  · refine ⟨1, 1, rfl, ?_, _, hrecord, rfl, rfl⟩
    rw [prepareStops, stop, hfails]
    rfl

/-- The first commit, and the clean-up when one of its calls fails. -/
theorem agreed_commitInitial (hcandidate : r.recoveryCandidate = none)
    (hspared : StopSpared fates (stop fates commitStops 0 0)
      fun j => if j = 0 then r.completedSteps else r.completedSteps ||| stepPolicyRule) :
    Agreed (Starts fates r) (commitInitial exactFormat declaration) := by
  refine Triple.handle ?_ fun e => agreed_cleanup_fail hhonest hspared e
  intro w ⟨hw, hrecord, hstored⟩
  refine (Triple.bind (doing_completeStep hhonest rfl) fun _ => ?_) w
    ⟨hw.trans fates.after_zero.symm, rfl, r, hrecord, hstored, rfl, hcandidate⟩
  refine Triple.bind (Triple.mapError (doing_call _) fun _ _ h => h) fun _ => ?_
  exact agreed_setPhase hhonest rfl

/-- A replacement that is staged: the store that discards the candidate makes up for the one that
starts the drain. -/
theorem agreed_commitReplacement {candidate : PrepareDeclaration} {now timeout : UInt64}
    (hspared : fates.journalFails 0 = false ∨ fates.backendFails 0 = false
      ∧ fates.backendFails 1 = false ∧ fates.journalFails 1 = false) :
    Agreed (Starts fates r) (commitReplacement exactFormat candidate now timeout) := by
  have hfailed : ∀ (j : ℕ) (e : NetworkError), fates.journalFails j = false →
      Agreed (Loaded fates j) (commitFailed exactFormat candidate e) := by
    intro j e hstores
    refine Triple.bind (ignored_call _) fun _ => Triple.bind (ignored_call _) fun _ => ?_
    exact Triple.bind (ignored_call _) fun _ => ignored_amend_fail hhonest hstores _ e
  rcases hspared with hstores | ⟨h0, h1, hstores⟩
  · have hcall : ∀ c : BackendCall, Triple (Both fates 0 r) (call c) (fun _ => Both fates 0 r)
        (fun _ => Loaded fates 0) (fun _ => True) := fun c =>
      Triple.conseq (both_call c) (fun _ h => h) (fun _ _ h => h) (fun _ _ h => h.loaded)
        fun _ _ => trivial
    refine Triple.pre (Triple.handle (Triple.bind (hcall _) fun _ => Triple.bind (hcall _)
      fun _ => ?_) fun e => hfailed 0 e hstores) fun _ h => h.both
    intro w ⟨hrecord, _, b, hw⟩
    exact wp_amend_at hhonest hw hrecord _ (fun _ => rfl) (spared_of_stores hstores)
  · intro w ⟨hw, hrecord, _⟩
    rw [commitReplacement, wp_handle, wp_bind]
    refine wp_call_at (hw.trans fates.after_zero.symm) _ (fun _ calls => ?_)
      (fun hfails _ => absurd (h0.symm.trans hfails) (by decide)) trivial
    rw [wp_bind]
    refine wp_call_at (j := 0) (b := 1) rfl _ (fun _ calls' => ?_)
      (fun hfails _ => absurd (h1.symm.trans hfails) (by decide)) trivial
    refine wp_amend_at (j := 0) (b := 2) (r := r) hhonest rfl ?_ _ (fun _ => rfl) fun _ => ?_
    · exact hrecord
    · exact hfailed 1 .journal hstores _ ⟨⟨_, rfl⟩, 2, rfl⟩

/-- `prepare` of a first declaration: a first store that fails leaves nothing. -/
theorem agrees_prepare {w : NetworkTransaction TransactionRecord} (hw : w.fates = fates)
    (hagrees : Agrees w) (h : Harmless fates w.readings (.prepare owner declaration) w.record) :
    wp (prepare exactFormat owner declaration) (fun _ => Agrees) (fun _ => Agrees) (fun _ => True)
      w := by
  rw [prepare, wp_bind, wp_get]
  cases hrecord : w.record with
  | some r =>
    -- A transaction that exists is compared and left as it is.
    have hchecks : Preserves Agrees (do
        lift (ensureOwner r.owner owner)
        ensure (r.declaration = declaration) NetworkError.conflict
        ensure (r.phase = .prepared ∨ r.phase = .active) .invalidTransition :
          Tx TransactionRecord Unit) :=
      Preserves.bind (Preserves.lift _) fun _ => Preserves.bind (Preserves.ensure _ _) fun _ =>
        Preserves.ensure _ _
    exact wp_mono (hchecks w hagrees) (fun _ _ h => h) (fun _ _ h => h) fun _ _ => trivial
  | none =>
    rw [hrecord] at h
    show wp (lift (validDeclaration declaration) >>= _) _ _ _ w
    rw [wp_bind, wp_lift]
    refine ⟨fun _ _ => ?_, fun _ _ => hagrees⟩
    rw [replaceRecord, wp_bind, wp_bind]
    refine wp_writeJournal_at hhonest (hw.trans fates.after_zero.symm) _ (fun hstores => ?_)
      (fun _ => hagrees) trivial
    exact agreed_prepareSteps hhonest (h hstores) _ ⟨rfl, rfl, rfl, rfl⟩

theorem agreed_commitWithDrain {now timeout : UInt64}
    (h : CommitSpared r fates) :
    Agreed (Starts fates r) (commitWithDrain exactFormat owner now timeout) := by
  intro w hw
  have hagrees := hw.both.abreast.agrees
  rw [commitWithDrain]
  refine wp_current_bind hw.record ?_
  rw [wp_bind, wp_lift]
  refine ⟨fun _ _ => ?_, fun _ _ => hagrees⟩
  unfold CommitSpared at h
  split
  · exact hagrees
  · rename_i candidate hphase hcandidate
    rw [hphase, hcandidate] at h
    exact agreed_commitReplacement hhonest h w hw
  · exact hagrees
  · rename_i hphase hcandidate
    rw [hphase, hcandidate] at h
    exact agreed_commitInitial hhonest hcandidate h w hw
  · exact hagrees

theorem agreed_withdrawCandidate (h : fates.journalFails 0 = false)
    (candidate : PrepareDeclaration) :
    Agreed (Both fates 0 r) (withdrawCandidate exactFormat candidate) := by
  refine agreed_bind (both_call _) fun _ => agreed_bind (both_call _) fun _ => ?_
  exact agreed_amend hhonest (spared_of_stores h)

theorem agreed_drainOld {now : UInt64} (h : fates.journalFails 0 = false) :
    Agreed (Both fates 0 r) (drainOld exactFormat owner now) := by
  refine agreed_current_bind (agreed_bind (Preserves.lift _) fun _ => ?_)
  refine Triple.ite (fun _ => agreed_pure _) fun _ => ?_
  refine agreed_bind (Preserves.ensure _ _) fun _ => agreed_bind (Preserves.ensure _ _) fun _ => ?_
  refine agreed_bind (Preserves.okOr _ _) fun _ => agreed_bind (both_call _) fun _ => ?_
  refine agreed_bind (both_call _) fun _ => agreed_bind (both_call _) fun _ => ?_
  exact agreed_amend hhonest (spared_of_stores h)

theorem agreed_setFailedPrefixes {prefixes : List Ipv4Prefix}
    (h : fates.journalFails 0 = true → sortDedup prefixes = r.failedPrefixes) :
    Agreed (Both fates 0 r) (setFailedPrefixes exactFormat owner prefixes) := by
  refine agreed_current_bind (agreed_bind (Preserves.lift _) fun _ => ?_)
  refine agreed_bind (Preserves.ensure _ _) fun _ => agreed_bind (Preserves.ensure _ _) fun _ => ?_
  refine agreed_bind (both_call _) fun _ => agreed_bind (Preserves.when _ (both_call _)) fun _ => ?_
  refine agreed_amend hhonest fun hfails => ?_
  rw [h hfails]

theorem agreed_renewLease
    (h : fates.journalFails 0 = true → owner.leaseDeadlineMonoMs = r.owner.leaseDeadlineMonoMs) :
    Agreed (Both fates 0 r) (renewLease exactFormat owner) := by
  refine agreed_current_bind (agreed_bind (Preserves.lift _) fun _ => agreed_amend hhonest ?_)
  intro hfails
  rw [h hfails]

theorem agreed_updateMtu {effectiveMtu : UInt16} (h : fates.journalFails 0 = false) :
    Agreed (Both fates 0 r) (updateMtu exactFormat owner effectiveMtu) := by
  refine agreed_bind (Preserves.ensure _ _) fun _ => agreed_current_bind ?_
  refine agreed_bind (Preserves.lift _) fun _ => agreed_bind (Preserves.ensure _ _) fun _ => ?_
  exact agreed_bind (both_call _) fun _ => agreed_amend hhonest (spared_of_stores h)

/-- The marked steps change, then the phase. -/
theorem agreed_steps_phase (steps : UInt16 → UInt16) {phase : TransactionPhase}
    (h : if fates.journalFails 0 then steps r.completedSteps = r.completedSteps
      else fates.journalFails 1 = false) :
    Agreed (Both fates 0 r) (do
      amend exactFormat fun record => { record with completedSteps := steps record.completedSteps }
      setPhase exactFormat phase) := by
  refine agreed_amend_bind hhonest (fun hfails => ?_) fun hstores => ?_
  · rw [if_pos hfails] at h
    rw [h]
  · rw [if_neg (by rw [hstores]; decide)] at h
    exact agreed_amend hhonest (spared_of_stores h)

theorem agreed_suspend
    (h : if fates.journalFails 0 then r.completedSteps &&& ~~~ stepPolicyRule = r.completedSteps
      else fates.journalFails 1 = false) :
    Agreed (Both fates 0 r) (suspend exactFormat owner) := by
  refine agreed_current_bind (agreed_bind (Preserves.lift _) fun _ => ?_)
  refine Triple.ite (fun _ => agreed_pure _) fun _ => agreed_bind (Preserves.ensure _ _) fun _ => ?_
  exact agreed_bind (both_call _) fun _ => agreed_steps_phase hhonest (· &&& ~~~ stepPolicyRule) h

theorem agreed_resume
    (h : if fates.journalFails 0 then r.completedSteps ||| stepPolicyRule = r.completedSteps
      else fates.journalFails 1 = false) :
    Agreed (Both fates 0 r) (resume exactFormat owner) := by
  refine agreed_current_bind (agreed_bind (Preserves.lift _) fun _ => ?_)
  refine Triple.ite (fun _ => agreed_pure _) fun _ => agreed_bind (Preserves.ensure _ _) fun _ => ?_
  exact agreed_bind (both_call _) fun _ => agreed_steps_phase hhonest (· ||| stepPolicyRule) h

theorem agreed_cleanup (h : CleanupSpared r fates) :
    Agreed (Starts fates r) (cleanupRecord exactFormat) := by
  unfold CleanupSpared at h
  by_cases hfails : fates.journalFails 0 = true
  · -- The phase is stored already: the store that fails changes nothing.
    rw [if_pos hfails] at h
    refine Triple.pre (agreed_amend_bind hhonest (fun _ => ?_) fun hstores => ?_)
      fun _ hw => hw.both
    · rw [← h]
    · rw [hfails] at hstores
      cases hstores
  · rw [if_neg hfails] at h
    rw [Bool.not_eq_true] at hfails
    exact Triple.pre (agreed_cleanupRecord hhonest hfails h) fun _ hw => ⟨hw.fates, hw.record⟩

theorem agreed_rollback (h : RollbackSpared r fates) :
    Agreed (Starts fates r) (rollback exactFormat owner) := by
  intro w hw
  unfold RollbackSpared at h
  rw [rollback]
  refine wp_current_bind hw.record ?_
  cases hstaged : stagedCandidate r with
  | some candidate =>
    rw [hstaged] at h
    exact agreed_bind (Preserves.lift _) (fun _ => agreed_withdrawCandidate hhonest h _) w hw.both
  | none =>
    rw [hstaged] at h
    rw [wp_bind, wp_lift]
    exact ⟨fun _ _ => agreed_cleanup hhonest h w hw, fun _ _ => hw.both.abreast.agrees⟩

theorem agreed_stageReplacement (h : fates.journalFails 0 = false ∧ fates.journalFails 1 = false) :
    Agreed (Both fates 0 r) (stageReplacement exactFormat owner declaration) := by
  have hbody : Preserves (Both fates 1 (stageCandidate owner declaration r)) (do
      lift (validDeclaration declaration)
      let _ ← preflight declaration
      call (.prepareLink declaration)
      call (.prepareRoutes declaration)
      call (.prepareFirewall declaration)) :=
    Preserves.bind (Preserves.lift _) fun _ => Preserves.bind (Preserves.bind (both_call _)
      fun _ => Preserves.bind Preserves.get fun _ => Preserves.lift _) fun _ =>
      Preserves.bind (both_call _) fun _ => Preserves.bind (both_call _) fun _ => both_call _
  refine agreed_amend_bind hhonest (spared_of_stores h.1) fun _ => ?_
  refine Triple.bind (Triple.handle (Triple.conseq hbody (fun _ h => h) (fun _ _ h => h)
    (fun _ _ h => h.loaded) fun _ _ => trivial) fun e => ?_)
    fun _ => agreed_amend hhonest (spared_of_stores h.2)
  refine Triple.bind (ignored_call _) fun _ => Triple.bind (ignored_call _) fun _ => ?_
  exact ignored_amend_fail hhonest h.2 _ e

theorem abreast_restoreSuspended (candidate : PrepareDeclaration) :
    Preserves (Abreast fates) (restoreSuspendedAfterReconfigure exactFormat r candidate) := by
  unfold restoreSuspendedAfterReconfigure
  refine Preserves.bind (Preserves.errorOf (abreast_call _)) fun _ => ?_
  refine Preserves.bind (Preserves.errorOf (abreast_call _)) fun _ => ?_
  refine Preserves.bind (Preserves.errorOf (abreast_call _)) fun _ => ?_
  refine Preserves.bind (Preserves.errorOf (abreast_call _)) fun _ => ?_
  refine Preserves.bind (Preserves.errorOf (abreast_call _)) fun _ => ?_
  split
  · exact Preserves.fail _
  · exact abreast_replaceRecord hhonest _

theorem agreed_reconfigureSuspended (h : fates.journalFails 0 = false) :
    Agreed (Both fates 0 r) (reconfigureSuspended exactFormat owner declaration r) := by
  refine agreed_bind (Preserves.ensure _ _) fun _ => ?_
  refine agreed_amend_bind hhonest (spared_of_stores h) fun _ => ?_
  refine Triple.pre (agreed_of_preserves (Preserves.handle ?_ fun e => ?_)) fun _ hw => hw.abreast
  · refine Preserves.bind (abreast_call _) fun _ => Preserves.bind (abreast_call _) fun _ => ?_
    refine Preserves.bind (abreast_call _) fun _ => Preserves.bind (abreast_call _) fun _ => ?_
    exact Preserves.bind (abreast_call _) fun _ => abreast_replaceRecord hhonest _
  · exact Preserves.bind (abreast_restoreSuspended hhonest _) fun _ => Preserves.fail e

theorem agreed_reconfigure
    (h : r.declaration ≠ declaration → fates.journalFails 0 = false
      ∧ (r.phase = .active → fates.journalFails 1 = false)) :
    Agreed (Both fates 0 r) (reconfigure exactFormat owner declaration) := by
  have hreplace : ∀ r', Agreed (Both fates 0 r) (replaceRecord exactFormat r') := fun r' =>
    Triple.pre (agreed_of_preserves (abreast_replaceRecord hhonest r')) fun _ hw => hw.abreast
  refine agreed_bind (Preserves.lift _) fun _ => agreed_current_bind ?_
  refine agreed_bind (Preserves.lift _) fun _ => Triple.ite (fun hactive => ?_) fun _ => ?_
  · refine agreed_current_bind (agreed_bind (Preserves.lift _) fun _ => ?_)
    refine Triple.ite (fun _ => hreplace _) fun hchanged => agreed_bind (Preserves.ensure _ _) ?_
    intro _
    split
    · exact Triple.pre (agreed_of_preserves (Preserves.ensure _ _)) fun _ hw => hw.abreast
    · exact agreed_stageReplacement hhonest ⟨(h hchanged).1, (h hchanged).2 hactive⟩
  · refine agreed_bind (Preserves.ensure _ _) fun _ => Triple.ite (fun _ => hreplace _) ?_
    exact fun hchanged => agreed_reconfigureSuspended hhonest (h hchanged).1

theorem abreast_restorePolicy (candidate : PrepareDeclaration) :
    Preserves (Abreast fates) (restorePolicyAfterUpdate exactFormat r candidate) := by
  unfold restorePolicyAfterUpdate
  refine Preserves.bind (Preserves.errorOf (Preserves.when _ (abreast_call _))) fun _ => ?_
  refine Preserves.bind (Preserves.errorOf (Preserves.when _ (abreast_call _))) fun _ => ?_
  refine Preserves.bind (Preserves.when _ (abreast_call _)) fun _ => ?_
  split
  · exact Preserves.fail _
  · exact abreast_replaceRecord hhonest _

theorem agreed_updatePolicy (h : r.declaration ≠ declaration → fates.journalFails 0 = false) :
    Agreed (Both fates 0 r) (updatePolicy exactFormat owner declaration) := by
  refine agreed_bind (Preserves.lift _) fun _ => agreed_current_bind ?_
  refine agreed_bind (Preserves.lift _) fun _ => agreed_bind (Preserves.ensure _ _) fun _ => ?_
  refine Triple.ite (fun _ => ?_) fun hchanged => ?_
  · exact Triple.pre (agreed_of_preserves (Preserves.when _ (abreast_call _)))
      fun _ hw => hw.abreast
  · refine agreed_amend_bind hhonest (spared_of_stores (h hchanged)) fun _ => ?_
    refine Triple.pre (agreed_of_preserves (Preserves.handle ?_ fun e => ?_)) fun _ hw => hw.abreast
    · refine Preserves.bind ?_ fun _ => abreast_replaceRecord hhonest _
      refine Preserves.bind (Preserves.when _ (abreast_call _)) fun _ => ?_
      exact Preserves.bind (Preserves.when _ (abreast_call _)) fun _ =>
        Preserves.when _ (abreast_call _)
    · exact Preserves.bind (abreast_restorePolicy hhonest _) fun _ => Preserves.fail e

theorem agreed_recoverPolicyUpdate :
    Agreed (Both fates 0 r) (recoverPolicyUpdate exactFormat) := by
  refine agreed_current_bind (agreed_bind (Preserves.okOr _ _) fun _ => ?_)
  refine Triple.pre (agreed_of_preserves ?_) fun _ hw => hw.abreast
  refine Preserves.bind (Preserves.when _ (abreast_call _)) fun _ => ?_
  refine Preserves.bind (Preserves.when _ (abreast_call _)) fun _ => ?_
  exact Preserves.bind (Preserves.when _ (abreast_call _)) fun _ => abreast_replaceRecord hhonest _

theorem agreed_recoverOrphan {alive : Bool} {now : UInt64}
    (h : isPolicyUpdate r = false → RecoverySpared r fates) :
    Agreed (Starts fates r) (recoverOrphan exactFormat alive now) := by
  have hreturn : ∀ {P : NetworkTransaction TransactionRecord → Prop}
      {m : Tx TransactionRecord Unit}, Agreed P m → Agreed P (do m; return true) :=
    fun hm => Triple.bind hm fun _ => Triple.pure fun _ hw => hw
  intro w hw
  have hagrees := hw.both.abreast.agrees
  rw [recoverOrphan, wp_bind, wp_get, hw.record]
  show wp (if isPolicyUpdate r then _ else _) _ _ _ w
  split
  · exact hreturn (agreed_recoverPolicyUpdate hhonest) w hw.both
  · rename_i hupdate
    have hspared := h (by simpa using hupdate)
    unfold RecoverySpared RollbackSpared at hspared
    split
    · rename_i candidate hstaged
      -- What is staged is not draining.
      have hphase : r.phase ≠ .draining := by
        intro hdraining
        rw [stagedCandidate, hdraining] at hstaged
        cases hstaged
      rw [if_neg hphase, hstaged] at hspared
      split
      · exact hagrees
      · exact hreturn (agreed_withdrawCandidate hhonest hspared _) w hw.both
    · rename_i hstaged
      rw [hstaged] at hspared
      split
      · rename_i hdraining
        rw [if_pos hdraining] at hspared
        split
        · exact hagrees
        · exact hreturn (agreed_drainOld hhonest hspared) w hw.both
      · rename_i hdraining
        rw [if_neg hdraining] at hspared
        split
        · exact hagrees
        · exact hreturn (agreed_cleanup hhonest hspared) w hw

end Operations

/-- Without a record there is nothing to do. -/
theorem agreed_without_record {α : Type} (f : TransactionRecord → Tx TransactionRecord α) :
    Agreed (fun w => w.record = none ∧ Agrees w) (current >>= f) := by
  intro w ⟨hrecord, hagrees⟩
  rw [current, wp_bind, wp_bind, wp_get, hrecord]
  exact hagrees

/-- An operation whose failures are harmless. -/
theorem agrees_exec (op : Operation) {w : NetworkTransaction TransactionRecord} (hagrees : Agrees w)
    (hcareful : Careful op w) :
    wp (exec exactFormat op) (fun _ => Agrees) (fun _ => Agrees) (fun _ => True) w := by
  obtain ⟨hhonest, hharmless⟩ := hcareful
  cases hrecord : w.record with
  | none =>
    have hw : w.record = none ∧ Agrees w := ⟨hrecord, hagrees⟩
    have hlift : ∀ {α γ : Type} (e : Except NetworkError α) (f : α → TransactionRecord → Tx _ γ),
        Agreed (fun w => w.record = none ∧ Agrees w) (lift e >>= fun a => current >>= f a) :=
      fun e f => Triple.lift_bind (fun a _ => agreed_without_record (f a)) fun _ _ h => h.2
    cases op with
    | prepare owner declaration => exact agrees_prepare hhonest rfl hagrees hharmless
    | updateMtu owner effectiveMtu =>
      have hupdate : Agreed (fun w => w.record = none ∧ Agrees w)
          (updateMtu exactFormat owner effectiveMtu) :=
        Triple.ensure_bind (fun _ => agreed_without_record _) fun _ h => h.2
      exact hupdate w hw
    | reconfigure owner declaration => exact hlift _ _ w hw
    | updatePolicy owner declaration => exact hlift _ _ w hw
    | recoverOrphan alive now =>
      show wp (recoverOrphan exactFormat alive now >>= _) _ _ _ w
      rw [wp_bind, recoverOrphan, wp_bind, wp_get, hrecord]
      exact hagrees
    | _ => exact agreed_without_record _ w hw
  | some r =>
    have hw : Starts w.fates r w := ⟨rfl, hrecord, hagrees.symm.trans hrecord⟩
    rw [hrecord] at hharmless
    cases op with
    | prepare owner declaration =>
      exact agrees_prepare hhonest rfl hagrees (by rw [hrecord]; exact hharmless)
    | commitWithDrain owner now timeout => exact agreed_commitWithDrain hhonest hharmless w hw
    | drainOld owner now => exact agreed_drainOld hhonest hharmless w hw.both
    | rollback owner => exact agreed_rollback hhonest hharmless w hw
    | setFailedPrefixes owner prefixes =>
      exact agreed_setFailedPrefixes hhonest hharmless w hw.both
    | renewLease owner => exact agreed_renewLease hhonest hharmless w hw.both
    | updateMtu owner effectiveMtu => exact agreed_updateMtu hhonest hharmless w hw.both
    | suspend owner => exact agreed_suspend hhonest hharmless w hw.both
    | resume owner => exact agreed_resume hhonest hharmless w hw.both
    | reconfigure owner declaration => exact agreed_reconfigure hhonest hharmless w hw.both
    | updatePolicy owner declaration => exact agreed_updatePolicy hhonest hharmless w hw.both
    | recoverOrphan alive now =>
      exact Triple.bind (agreed_recoverOrphan hhonest hharmless) (fun _ => Triple.pure fun _ h => h)
        w hw

/-! ## Runs -/

/-- In every run whose journal calls fail only where it is harmless, memory and journal are in step
between any two operations. -/
theorem memory_and_journal_agree {w : NetworkTransaction TransactionRecord}
    (hw : Reachable exactFormat Careful w) : w.record = w.stored := by
  have hload : ∀ (stored record : Option TransactionRecord),
      load exactFormat stored = .ok record → record = stored := by
    intro stored record h
    cases stored with
    | none => exact (Except.ok.inj h).symm
    | some r => exact (Except.ok.inj h).symm
  exact reachable_of_wp (I := Agrees) (D := fun _ => True) rfl (fun _ _ _ h => h)
    (fun op _ hagrees hcareful => agrees_exec op hagrees hcareful) (fun _ _ => trivial)
    (fun w record _ h => hload w.stored record h) hw

namespace Sample

/-- The journal fails once, at its call `n`. -/
def failingAt (n : ℕ) : Fates :=
  { Fates.allOk with journal := fun m => if m = n then .fail false else .ok }

theorem honest_failingAt (n : ℕ) : Honest (failingAt n) := by
  intro m
  show (if m = n then Fate.fail false else .ok) ≠ .fail true
  split <;> simp

theorem honest_allOk : Honest .allOk := fun _ => by simp [Fates.allOk]

/-- Calls that all succeed are harmless. -/
theorem harmless_allOk (readings : SysctlKey → Option (Fin 3)) (op : Operation)
    (record : Option TransactionRecord) : Harmless .allOk readings op record := by
  have hstop : ∀ stopped marked, StopSpared .allOk stopped marked :=
    fun _ _ _ _ _ => ⟨rfl, .inl rfl⟩
  have hrollback : ∀ r, RollbackSpared r .allOk := by
    intro r
    unfold RollbackSpared
    split
    · rfl
    · exact .inl rfl
  cases record with
  | none =>
    cases op with
    | prepare => exact fun _ => hstop _ _
    | _ => trivial
  | some r =>
    cases op with
    | commitWithDrain =>
      show CommitSpared r .allOk
      unfold CommitSpared
      split
      · exact .inl rfl
      · exact hstop _ _
      · trivial
    | rollback => exact hrollback r
    | recoverOrphan =>
      intro _
      unfold RecoverySpared
      split
      · rfl
      · exact hrollback r
    | prepare => trivial
    | drainOld => rfl
    | updateMtu => rfl
    | suspend => rfl
    | resume => rfl
    | setFailedPrefixes => exact fun h => nomatch h
    | renewLease => exact fun h => nomatch h
    | reconfigure => exact fun _ => ⟨rfl, fun _ => rfl⟩
    | updatePolicy => exact fun _ => rfl

theorem careful_allOk (op : Operation) (w : NetworkTransaction TransactionRecord)
    (readings : SysctlKey → Option (Fin 3)) : Careful op (w.facing .allOk readings) :=
  ⟨honest_allOk, harmless_allOk _ _ _⟩

/-- The active transaction of the sample declaration. -/
def active : NetworkTransaction TransactionRecord :=
  [(.prepare owner declaration, failingAt 0, readings), succeeding (.prepare owner declaration),
   succeeding (.commitWithDrain owner 10 50)].foldl (stepOnce exactFormat) .fresh

/-- The third step of its clean-up is not stored: the fourth store makes up for it. -/
def retried : NetworkTransaction TransactionRecord :=
  [(.rollback owner, failingAt 3, readings), succeeding (.prepare owner declaration)].foldl
    (stepOnce exactFormat) active

theorem reachable_active {permitted : Operation → NetworkTransaction TransactionRecord → Prop}
    (hpermitted : ∀ op w, Careful op w → permitted op w) :
    Reachable exactFormat permitted active := by
  have hfirst : Reachable exactFormat permitted (stepOnce exactFormat .fresh
      (.prepare owner declaration, failingAt 0, readings)) :=
    steps_stepOnce _ _ (hpermitted _ _ ⟨honest_failingAt 0, fun h => nomatch h⟩)
  have hsecond := hfirst.trans (steps_stepOnce _ (succeeding (.prepare owner declaration))
    (hpermitted _ _ (careful_allOk _ _ _)))
  exact hsecond.trans (steps_stepOnce _ (succeeding (.commitWithDrain owner 10 50))
    (hpermitted _ _ (careful_allOk _ _ _)))

theorem careful_rollback : Careful (.rollback owner) (active.facing (failingAt 3) readings) := by
  refine ⟨honest_failingAt 3, ?_⟩
  have hactive : active.record.map (fun r => (r.phase, r.completedSteps, r.recoveryCandidate))
      = some (.active, 0x3f, none) := by decide
  show Harmless (failingAt 3) readings (.rollback owner) active.record
  cases hrecord : active.record with
  | none => trivial
  | some r =>
    rw [hrecord] at hactive
    obtain ⟨hphase, hsteps, hcandidate⟩ :
        r.phase = .active ∧ r.completedSteps = 0x3f ∧ r.recoveryCandidate = none := by
      simpa using hactive
    have hstaged : stagedCandidate r = none := by simp [stagedCandidate, hphase]
    show if (stagedCandidate r).isSome then _ else CleanupSpared r (failingAt 3)
    rw [hstaged]
    show LastStored r.completedSteps r.recoveryCandidate (failingAt 3)
    rw [hsteps, hcandidate]
    exact .inl (by decide)

end Sample

/-- Stores that fail on the way leave no trace: the first of a `prepare`, and one of those of a
clean-up. -/
theorem retried_prepare_agrees :
    Sample.retried.record.isSome = true ∧ Sample.retried.record = Sample.retried.stored := by
  refine ⟨by decide, memory_and_journal_agree ?_⟩
  have hrollback := (Sample.reachable_active fun _ _ h => h).trans (steps_stepOnce _
    (.rollback Sample.owner, Sample.failingAt 3, Sample.readings) Sample.careful_rollback)
  exact hrollback.trans (steps_stepOnce _
    (Sample.succeeding (.prepare Sample.owner Sample.declaration)) (Sample.careful_allOk _ _ _))

/-- A renewal whose store fails is kept in memory only. -/
theorem failed_renewal_kept_in_memory :
    ¬ ∀ (w : NetworkTransaction TransactionRecord),
      Reachable exactFormat (fun _ w => Honest w.fates) w → w.record = w.stored →
      ∀ (op : Operation) (fates : Fates) (readings : SysctlKey → Option (Fin 3))
        (result : Except NetworkError Unit) (w' : NetworkTransaction TransactionRecord),
        Honest fates →
        attempt (exec exactFormat op) (w.facing fates readings) = (.ok result, w') →
        w'.record = w'.stored := by
  intro h
  have hreachable : Reachable exactFormat (fun _ w => Honest w.fates) Sample.active :=
    Sample.reachable_active fun _ _ h => h.1
  generalize hrun : attempt (exec exactFormat
    (.renewLease { Sample.owner with leaseDeadlineMonoMs := 200 }))
    (Sample.active.facing (Sample.failingAt 0) Sample.readings) = run
  have hresult : run.1 = .ok (.error .journal) := by
    rw [← hrun]
    decide
  have hahead : run.2.record ≠ run.2.stored := by
    rw [← hrun]
    decide
  exact hahead (h Sample.active hreachable (by decide) _ (Sample.failingAt 0)
    Sample.readings (.error .journal) run.2 (Sample.honest_failingAt 0)
    (hrun.trans (Prod.ext hresult rfl)))

end CandyRuntime.NetdV1
