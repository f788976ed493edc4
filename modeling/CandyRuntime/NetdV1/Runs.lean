import CandyRuntime.NetdV1.Transaction

/-!
# Runs of a v1 network transaction

The public operations as one type, and the runs they form: every operation meets its own
fates and sysctl readings, a killed process is started again from the journal, and the
daemon can also be restarted between two operations. `Step` takes the condition `permitted`
under which an operation is made, so that one relation serves the unrestricted runs and the
restricted ones.

`reachable_of_wp` is the induction every result about runs goes through: it asks for the
weakest precondition of one operation, with `I` at its ends and `D` where it is killed.
-/

namespace CandyRuntime.NetdV1

open Lib Lib.Proc NetdProto

/-- The operations of `NetworkTransaction`. -/
inductive Operation where
  | prepare (owner : LeaseOwner) (declaration : PrepareDeclaration)
  | commitWithDrain (owner : LeaseOwner) (nowMonoMs drainTimeoutMs : UInt64)
  | drainOld (owner : LeaseOwner) (nowMonoMs : UInt64)
  | rollback (owner : LeaseOwner)
  | setFailedPrefixes (owner : LeaseOwner) (prefixes : List Ipv4Prefix)
  | renewLease (owner : LeaseOwner)
  | updateMtu (owner : LeaseOwner) (effectiveMtu : UInt16)
  | suspend (owner : LeaseOwner)
  | resume (owner : LeaseOwner)
  | reconfigure (owner : LeaseOwner) (declaration : PrepareDeclaration)
  | updatePolicy (owner : LeaseOwner) (declaration : PrepareDeclaration)
  | recoverOrphan (ownerIsAlive : Bool) (nowMonoMs : UInt64)
deriving DecidableEq, Repr

variable {β : Type}

/-! ## The rules of the calls -/

/-- The weakest precondition of a backend call. -/
theorem wp_call {Q : Unit → NetworkTransaction β → Prop}
    {E : NetworkError → NetworkTransaction β → Prop} {C : NetworkTransaction β → Prop}
    {w : NetworkTransaction β} {c : BackendCall} :
    wp (call c) Q E C w
      ↔ (w.fates.backend 0 = .ok → Q () { w with
          calls := (c, true) :: w.calls,
          fates := { w.fates with backend := fun n => w.fates.backend (n + 1) } })
        ∧ (∀ applied, w.fates.backend 0 = .fail applied → E .backend { w with
          calls := (c, applied) :: w.calls,
          fates := { w.fates with backend := fun n => w.fates.backend (n + 1) } })
        ∧ (w.fates.backend 0 = .crash → C { w with
          fates := { w.fates with backend := fun n => w.fates.backend (n + 1) } }) := by
  unfold wp call
  cases h : w.fates.backend 0 <;> simp

/-- The weakest precondition of a journal write. -/
theorem wp_writeJournal {Q : Unit → NetworkTransaction β → Prop}
    {E : NetworkError → NetworkTransaction β → Prop} {C : NetworkTransaction β → Prop}
    {w : NetworkTransaction β} {content : Option β} :
    wp (writeJournal content) Q E C w
      ↔ (w.fates.journal 0 = .ok → Q () { w with
          stored := content,
          fates := { w.fates with journal := fun n => w.fates.journal (n + 1) } })
        ∧ (w.fates.journal 0 = .fail true → E .journal { w with
          stored := content,
          fates := { w.fates with journal := fun n => w.fates.journal (n + 1) } })
        ∧ (w.fates.journal 0 = .fail false → E .journal { w with
          fates := { w.fates with journal := fun n => w.fates.journal (n + 1) } })
        ∧ (w.fates.journal 0 = .crash → C { w with
          fates := { w.fates with journal := fun n => w.fates.journal (n + 1) } }) := by
  unfold wp writeJournal
  rcases h : w.fates.journal 0 with _ | applied | _
  · simp
  · cases applied <;> simp
  · simp

theorem wp_current {Q : TransactionRecord → NetworkTransaction β → Prop}
    {E : NetworkError → NetworkTransaction β → Prop} {C : NetworkTransaction β → Prop}
    {w : NetworkTransaction β} {r : TransactionRecord} (h : w.record = some r) :
    wp current Q E C w ↔ Q r w := by
  rw [current, wp_bind, wp_get, h, wp_okOr_some]

/-! ## Runs -/

/-- Run an operation; whether `recover_orphan` recovered something is not kept. -/
def exec (J : JournalFormat β) : Operation → Tx β Unit
  | .prepare owner declaration => prepare J owner declaration
  | .commitWithDrain owner now timeout => commitWithDrain J owner now timeout
  | .drainOld owner now => drainOld J owner now
  | .rollback owner => rollback J owner
  | .setFailedPrefixes owner prefixes => setFailedPrefixes J owner prefixes
  | .renewLease owner => renewLease J owner
  | .updateMtu owner mtu => updateMtu J owner mtu
  | .suspend owner => suspend J owner
  | .resume owner => resume J owner
  | .reconfigure owner declaration => reconfigure J owner declaration
  | .updatePolicy owner declaration => updatePolicy J owner declaration
  | .recoverOrphan alive now => do let _ ← recoverOrphan J alive now

/-- `NetworkTransaction::new`: what is loaded from the journal. -/
def load (J : JournalFormat β) : Option β → Except NetworkError (Option TransactionRecord)
  | none => .ok none
  | some content => (J.decode content).map some

theorem decodeRecord_of_load {sha : Bytes → Vector UInt8 32} {bytes : Bytes}
    {r : TransactionRecord} (h : load (fileFormat sha) (some bytes) = .ok (some r)) :
    decodeRecord sha bytes = pure r := by
  have hdecode : (fileFormat sha).decode bytes = .ok r := by
    cases hd : (fileFormat sha).decode bytes with
    | error e => simp [load, hd, Except.map] at h
    | ok r' => simpa [load, hd, Except.map] using h
  unfold fileFormat at hdecode
  dsimp only at hdecode
  split at hdecode
  · rcases hrun : (decodeRecord sha bytes).run with _ | result
    · simp [hrun] at hdecode
    · rw [hrun, Option.getD_some] at hdecode
      rw [hdecode] at hrun
      exact hrun
  · simp at hdecode

namespace NetworkTransaction

/-- Nothing is installed, nothing is stored. -/
def fresh : NetworkTransaction β :=
  { record := none, stored := none, calls := [], readings := fun _ => none, fates := .allOk }

/-- The state in which an operation starts: the fates and readings it will meet are given. -/
def facing (w : NetworkTransaction β) (fates : Fates) (readings : SysctlKey → Option (Fin 3)) :
    NetworkTransaction β :=
  { w with fates, readings }

end NetworkTransaction

/-- One step of a run. -/
inductive Step (J : JournalFormat β) (permitted : Operation → NetworkTransaction β → Prop) :
    NetworkTransaction β → NetworkTransaction β → Prop where
  | returned {w w' : NetworkTransaction β} (op : Operation) (fates : Fates)
      (readings : SysctlKey → Option (Fin 3)) (result : Except NetworkError Unit)
      (hpermitted : permitted op (w.facing fates readings))
      (hrun : attempt (exec J op) (w.facing fates readings) = (.ok result, w')) :
      Step J permitted w w'
  | killed {w w' : NetworkTransaction β} (op : Operation) (fates : Fates)
      (readings : SysctlKey → Option (Fin 3)) (record : Option TransactionRecord)
      (hpermitted : permitted op (w.facing fates readings))
      (hrun : exec J op (w.facing fates readings) = (.crash, w'))
      (hload : load J w'.stored = .ok record) :
      Step J permitted w { w' with record }
  | restarted {w : NetworkTransaction β} (record : Option TransactionRecord)
      (hload : load J w.stored = .ok record) :
      Step J permitted w { w with record }

/-- The states of the runs from an empty journal. -/
def Reachable (J : JournalFormat β) (permitted : Operation → NetworkTransaction β → Prop)
    (w : NetworkTransaction β) : Prop :=
  Relation.ReflTransGen (Step J permitted) .fresh w

/-- An invariant of all runs. `D` is what must hold of the state in which the process is
killed, for the journal alone to restore the invariant. -/
theorem reachable_of_wp {J : JournalFormat β}
    {permitted : Operation → NetworkTransaction β → Prop} {I D : NetworkTransaction β → Prop}
    (hfresh : I .fresh)
    (hfacing : ∀ w fates readings, I w → I (w.facing fates readings))
    (hexec : ∀ op w, I w → permitted op w → wp (exec J op) (fun _ => I) (fun _ => I) D w)
    (hdurable : ∀ w, I w → D w)
    (hload : ∀ w record, D w → load J w.stored = .ok record → I { w with record })
    {w : NetworkTransaction β} (hw : Reachable J permitted w) : I w := by
  refine reachable_induction hw hfresh ?_
  intro w w' hinv hstep
  cases hstep with
  | returned op fates readings result hpermitted hrun =>
    exact of_attempt (Q := fun _ => I) (hexec op _ (hfacing _ fates readings hinv) hpermitted) hrun
  | killed op fates readings record hpermitted hrun hl =>
    have hwp := hexec op _ (hfacing _ fates readings hinv) hpermitted
    rw [wp, hrun] at hwp
    exact hload _ _ hwp hl
  | restarted record hl => exact hload _ _ (hdurable _ hinv) hl

/-! ## Runs that can be computed -/

/-- One operation with its fates and readings. -/
abbrev Planned := Operation × Fates × (SysctlKey → Option (Fin 3))

/-- One operation, and the restart when it is killed. When the journal cannot be read there is
no daemon to go on. -/
def stepOnce (J : JournalFormat β) (w : NetworkTransaction β) (step : Planned) :
    NetworkTransaction β :=
  match exec J step.1 (w.facing step.2.1 step.2.2) with
  | (.crash, w') =>
    match load J w'.stored with
    | .ok record => { w' with record }
    | .error _ => w
  | (_, w') => w'

theorem steps_stepOnce {J : JournalFormat β}
    {permitted : Operation → NetworkTransaction β → Prop} (w : NetworkTransaction β)
    (step : Planned) (h : permitted step.1 (w.facing step.2.1 step.2.2)) :
    Relation.ReflTransGen (Step J permitted) w (stepOnce J w step) := by
  unfold stepOnce
  split <;> rename_i heq
  · split <;> rename_i hload
    · exact .single (.killed step.1 step.2.1 step.2.2 _ h heq hload)
    · exact .refl
  · rename_i outcome w' hne
    rcases outcome with a | e | _
    · exact .single (.returned step.1 step.2.1 step.2.2 (.ok a) h (by rw [attempt, heq]))
    · exact .single (.returned step.1 step.2.1 step.2.2 (.error e) h (by rw [attempt, heq]))
    · exact absurd rfl hne

/-- The operations of a list, one after the other. -/
theorem reachable_foldl_stepOnce {J : JournalFormat β}
    {permitted : Operation → NetworkTransaction β → Prop} {w : NetworkTransaction β}
    (h : Reachable J permitted w) (steps : List Planned)
    (hsteps : ∀ step ∈ steps, ∀ w', permitted step.1 w') :
    Reachable J permitted (steps.foldl (stepOnce J) w) := by
  induction steps generalizing w with
  | nil => exact h
  | cons step steps ih =>
    have hstep := steps_stepOnce (J := J) w step (hsteps step List.mem_cons_self _)
    exact ih (Relation.ReflTransGen.trans h hstep)
      fun s hs => hsteps s (List.mem_cons_of_mem step hs)

namespace Sample

/-- A host whose sysctls are all zero. -/
def readings : SysctlKey → Option (Fin 3) := fun _ => some 0

/-- An operation all of whose calls succeed. -/
def succeeding (op : Operation) : Planned := (op, .allOk, readings)

end Sample

end CandyRuntime.NetdV1
