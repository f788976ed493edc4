import CandyRuntime.Lib.Frontier
import CandyRuntime.Lib.Interleaving
import Mathlib.Logic.Function.Basic

/-!
# How far the output of a packet port has got

Each accepted packet has a serial, and is completed when it is dropped, delivered or not. Packets are
dropped by the writer task and by the routing actor, so calls of `complete` overlap. A delivered packet
that is next in order moves the frontier with one atomic exchange. Everything else is done under a
lock, which covers the history of failures and the serials that are settled ahead of the frontier.

Here each atomic access is one step, and the steps of different calls interleave in any order. The
stores of `completion_gaps` are released only: other calls see them in their order, but later
(`Event.flush`). Every other write is a read-modify-write. The critical section has its own phases,
kept with the lock. Serials are unbounded.
-/

namespace CandyRuntime.PacketPort

open Lib

/-- `OUTPUT_FAILURE_HISTORY`. -/
def outputFailureHistory : ℕ := 64

/-- `OutputFailures`. -/
structure OutputFailures where
  serials : List ℕ
  evictedThrough : ℕ
  settled : Finset ℕ
deriving DecidableEq

/-- `OutputProgress`. -/
structure OutputProgress where
  accepted : ℕ
  completed : ℕ
  completionGaps : Bool
  failures : OutputFailures
deriving DecidableEq

/-- A packet that was not delivered enters the history, and the oldest one leaves a full history. -/
def OutputFailures.remember (failures : OutputFailures) (serial : ℕ) : OutputFailures :=
  match failures.serials with
  | evicted :: rest =>
    if failures.serials.length = outputFailureHistory then
      { failures with
        serials := rest ++ [serial]
        evictedThrough := max failures.evictedThrough evicted }
    else { failures with serials := failures.serials ++ [serial] }
  | [] => { failures with serials := [serial] }

/-- The frontier and the settled serials after a serial is settled, for the frontier that was read. -/
def OutputFailures.settle (failures : OutputFailures) (completed serial : ℕ) : ℕ × Finset ℕ :=
  let settled := if completed < serial then insert serial failures.settled else failures.settled
  catchUp settled.card completed settled

/-! ## Calls of `complete` -/

/-- Where a call is. `exchanged`: it has moved the frontier and has not read `completion_gaps` yet. -/
inductive Stage where
  | entered
  | exchanged
  | waiting
  | critical
  | finished
deriving DecidableEq, Repr

/-- A call of `complete`. -/
structure Call where
  delivered : Bool
  stage : Stage
deriving DecidableEq, Repr

/-- Where the critical section is: the history is written, the gap is published, the frontier was
read and moved over what is settled, it was published, and so was what is left of the gap. -/
inductive Phase where
  | recorded
  | marked
  | merged (frontier : ℕ)
  | published
  | leaving
deriving DecidableEq, Repr

/-- Who holds the lock. -/
structure Critical where
  serial : ℕ
  phase : Phase
deriving DecidableEq, Repr

/-- The shared state and the calls, by serial. `gapStores` are the stores of `completion_gaps` that
the other calls do not see yet. -/
structure System where
  progress : OutputProgress
  gapStores : List Bool
  lock : Option Critical
  calls : ℕ → Option Call

/-- Before the first packet. -/
def System.start : System := ⟨⟨0, 0, false, ⟨[], 0, ∅⟩⟩, [], none, fun _ => none⟩

def System.put (s : System) (serial : ℕ) (call : Call) : System :=
  { s with calls := Function.update s.calls serial (some call) }

def System.withFailures (s : System) (failures : OutputFailures) : System :=
  { s with progress := { s.progress with failures } }

def System.storeGaps (s : System) (completionGaps : Bool) : System :=
  { s with gapStores := s.gapStores ++ [completionGaps] }

def System.withCompleted (s : System) (completed : ℕ) : System :=
  { s with progress := { s.progress with completed } }

def System.withLock (s : System) (lock : Option Critical) : System := { s with lock }

/-- The next access of the call in the critical section. -/
def System.inside (s : System) (serial : ℕ) (call : Call) : Phase → System
  | .recorded => (s.storeGaps true).withLock (some ⟨serial, .marked⟩)
  | .marked =>
    let merge := s.progress.failures.settle s.progress.completed serial
    (s.withFailures { s.progress.failures with settled := merge.2 }).withLock
      (some ⟨serial, .merged merge.1⟩)
  | .merged frontier =>
    (s.withCompleted (max s.progress.completed frontier)).withLock (some ⟨serial, .published⟩)
  | .published =>
    (s.storeGaps (decide (s.progress.failures.settled ≠ ∅))).withLock (some ⟨serial, .leaving⟩)
  | .leaving => (s.withLock none).put serial { call with stage := .finished }

/-- The next access of a call, `none` while it waits for the lock or has returned. -/
def System.advance (s : System) (serial : ℕ) (call : Call) : Option System :=
  match call.stage with
  | .entered =>
    if call.delivered && decide (s.progress.completed = serial - 1) then
      some ((s.withCompleted serial).put serial { call with stage := .exchanged })
    else some (s.put serial { call with stage := .waiting })
  | .exchanged =>
    if s.progress.completionGaps then some (s.put serial { call with stage := .waiting })
    else some (s.put serial { call with stage := .finished })
  | .waiting =>
    if s.lock.isNone then
      let failures :=
        if call.delivered then s.progress.failures else s.progress.failures.remember serial
      some (((s.withFailures failures).withLock (some ⟨serial, .recorded⟩)).put serial
        { call with stage := .critical })
    else none
  | .critical =>
    match s.lock with
    | some critical =>
      if critical.serial = serial then some (s.inside serial call critical.phase) else none
    | none => none
  | .finished => none

/-- What happens: a packet is accepted, an accepted packet is dropped, a call goes on, or the oldest
store of `completion_gaps` reaches the other calls. -/
inductive Event where
  | accept
  | flush
  | drop (serial : ℕ) (delivered : Bool)
  | advance (serial : ℕ)
deriving DecidableEq, Repr

def System.step (s : System) : Event → Option System
  | .accept => some { s with progress := { s.progress with accepted := s.progress.accepted + 1 } }
  | .flush =>
    match s.gapStores with
    | [] => none
    | completionGaps :: gapStores =>
      some { s with progress := { s.progress with completionGaps }, gapStores }
  | .drop serial delivered =>
    if 1 ≤ serial ∧ serial ≤ s.progress.accepted ∧ s.calls serial = none then
      some (s.put serial ⟨delivered, .entered⟩)
    else none
  | .advance serial => (s.calls serial).bind (s.advance serial)

/-- One state after another, in any interleaving of the calls. -/
def System.Reaches : System → System → Prop := Interleaving.Reaches System.step

def System.run : System → List Event → Option System := Interleaving.run System.step

/-! ## Reading the progress -/

/-- Why `drained_between` reports an error. -/
inductive DrainError where
  | invalidInterval
  | evidenceExpired
  | packetFailed (serial : ℕ)
deriving DecidableEq, Repr

/-- `drained_between`, for the counters it reads and the failures it finds under the lock. -/
def drainedBetween (accepted completed : ℕ) (failures : OutputFailures) (start checkpoint : ℕ) :
    Except DrainError Bool :=
  if start > checkpoint ∨ checkpoint > accepted then .error .invalidInterval
  else if start < failures.evictedThrough then .error .evidenceExpired
  else match failures.serials.find? fun serial => start < serial && serial ≤ checkpoint with
    | some failure => .error (.packetFailed failure)
    | none => .ok (decide (checkpoint ≤ completed))

end CandyRuntime.PacketPort
