import CandyRuntime.Lib.Json
import CandyRuntime.NetdProto.Types

/-!
# The shared pool of domain hosts

`Manager::start` and `Manager::reconcile`. A reconciliation starts the hosts that are desired, then it
goes through the plan files and writes into each the placement on its host, and at the end it retires
the hosts that no plan uses. The files of plans are a list, since their paths are different. A number
of milliseconds is a time.
-/

namespace CandyRuntime.Agent.SharedPool

open Lib NetdProto

/-! ## Hosts -/

/-- `ProcessIdentity`. -/
structure ProcessIdentity where
  pid : UInt32
  startTicks : UInt64
deriving DecidableEq, Repr

/-- `SharedWorker`. -/
structure SharedWorker where
  socket : String
  identity : ProcessIdentity
deriving DecidableEq, Repr

/-- `Receipt`. -/
structure Receipt where
  host : SharedWorker
  executableDevice : ℕ
  executableInode : ℕ
deriving DecidableEq, Repr

/-- `Host`; of the child it matters that there is one. -/
structure Host where
  receipt : Receipt
  child : Bool
deriving DecidableEq, Repr

/-- `Config`. -/
structure Config where
  directory : String
  maxWorkers : ℕ
  maxDomainsPerWorker : ℕ
  maxDomainThreads : ℕ
  maxDomainStackBytes : ℕ
  maxReservedFds : ℕ
deriving DecidableEq, Repr

/-- `Desired`. -/
structure Desired where
  schemaVersion : UInt8
  revision : UInt64
  workers : ℕ
deriving DecidableEq, Repr

/-- `Manager`. -/
structure Manager where
  config : Config
  hosts : ℕ → Option Host
  retry : ℕ → Option (ℕ × ℕ)

/-! ## `Manager::start` -/

/-- The record of a host: it may be there, and it may be there but not be confirmed. -/
inductive HostRecord where
  | absent
  | unconfirmed
  | receipt (r : Receipt)
deriving DecidableEq, Repr

/-- What happens around the start of one host: the answers to probes, whether a process has exited
(nothing if that cannot be told), and what the files, the slot and the new process do. -/
structure StartAnswers where
  probes : SharedWorker → Bool
  exited : Host → Option Bool
  now : ℕ
  core : Option (ℕ × ℕ)
  record : HostRecord
  executable : Option (ℕ × ℕ)
  slotFree : Bool
  socketCleared : Bool
  spawned : Option ProcessIdentity
  ready : Bool
  gaveUpAt : ℕ
  recorded : Bool

def Manager.setHost (m : Manager) (id : ℕ) (host : Option Host) : Manager :=
  { m with hosts := fun other => if other = id then host else m.hosts other }

def Manager.setRetry (m : Manager) (id : ℕ) (entry : ℕ × ℕ) : Manager :=
  { m with retry := fun other => if other = id then some entry else m.retry other }

/-- The end of `start`: a new process behind the slot. -/
def launch (m : Manager) (id : ℕ) (expected : ℕ × ℕ) (a : StartAnswers) :
    Except String Unit × Manager :=
  if !a.slotFree then (.error "shared host slot still owned", m)
  else if !a.socketCleared then (.error "stale socket", m)
  else match a.spawned with
    | none => (.error "spawn", m)
    | some identity =>
      if !a.ready then
        let delay := match m.retry id with
          | some (_, delay) => min (delay * 2) 5000
          | none => 100
        (.error "shared host bounded readiness failed", m.setRetry id (a.gaveUpAt + delay, delay))
      else if !a.recorded then (.error "receipt not recorded", m)
      else
        let socket := m.config.directory ++ "/host-" ++ toString id ++ ".sock"
        (.ok (), m.setHost id (some ⟨⟨⟨socket, identity⟩, expected.1, expected.2⟩, true⟩))

/-- `start` of a host that the manager does not hold: it is adopted if its record is current. -/
def adopt (m : Manager) (id : ℕ) (a : StartAnswers) : Except String Unit × Manager :=
  if (m.retry id).any fun entry => decide (a.now < entry.1) then
    (.error "shared host restart backoff", m)
  else match a.core with
    | none => (.error "core metadata", m)
    | some expected =>
      match a.record with
      | .absent => launch m id expected a
      | .unconfirmed => (.error "code=shared_host_record_unconfirmed", m)
      | .receipt receipt =>
        match a.exited ⟨receipt, false⟩ with
        | none => (.error "code=shared_host_liveness_unconfirmed", m)
        | some true => launch m id expected a
        | some false =>
          if (receipt.executableDevice, receipt.executableInode) ≠ expected
              ∨ a.executable ≠ some expected then
            (.error "shared host executable identity differs", m)
          else if !a.probes receipt.host then (.error "probe", m)
          else (.ok (), m.setHost id (some ⟨receipt, false⟩))

/-- `Manager::start`. -/
def Manager.start (m : Manager) (id : ℕ) (a : StartAnswers) : Except String Unit × Manager :=
  match m.hosts id with
  | none => adopt m id a
  | some host =>
    if a.probes host.receipt.host then (.ok (), m)
    else match a.exited host with
      | none => (.error "code=shared_host_liveness_unconfirmed", m)
      | some false => (.error "code=shared_host_probe_pending", m)
      | some true => adopt (m.setHost id none) id a

/-! ## Placements -/

/-- A plan file: it may not be there, `private` may refuse it, or it is a value of JSON. -/
inductive PlanFile where
  | missing
  | refused
  | json (plan : Json)
deriving DecidableEq

/-- Insertion into the ordered fields of an object. -/
def insertField (name : String) (value : Json) : List (String × Json) → List (String × Json)
  | [] => [(name, value)]
  | (other, old) :: rest =>
    if name = other then (name, value) :: rest
    else if name < other then (name, value) :: (other, old) :: rest
    else (other, old) :: insertField name value rest

/-- `plan["placement"] = value`, which panics unless the plan is an object or `null`. -/
def setPlacement (plan value : Json) : Except String Json :=
  match plan with
  | .obj fields => .ok (.obj (insertField "placement" value fields))
  | .null => .ok (.obj [("placement", value)])
  | _ => .error "cannot access key \"placement\""

/-- The revision of the placement that a plan has. -/
def placementRevision (plan : Json) : ℕ := (((plan.field "placement").field "revision").asU64).getD 0

variable [Serialize SharedWorker]

/-- A plan has its placement: it is on this host, with at least this revision. -/
def isPlaced (revision : ℕ) (id : ℕ) (host : SharedWorker) (plan : Json) : Bool :=
  ((plan.field "placement").field "target_worker_id").isNat id
    && decide ((plan.field "placement").field "shared" = Serialize.json host)
    && decide (revision ≤ placementRevision plan)

/-- The new placement of a plan. -/
def placement (config : Config) (revision id : ℕ) (host : SharedWorker) : Json :=
  .obj [("pool_directory", .str config.directory), ("revision", .int revision),
    ("shared", Serialize.json host), ("target_worker_id", .int id)]

/-- The worker of the plan at a position. -/
def workerOf (workers index : ℕ) : ℕ := index % workers + 1

/-- What surrounds one pass over the plans: the hosts that are up and whether a plan can be written. -/
structure Pass where
  config : Config
  desired : Desired
  hosts : ℕ → Option Host
  writable : ℕ → Bool

/-- One round of the loop over the plans. -/
def Pass.place (p : Pass) (index : ℕ) : PlanFile → Except String PlanFile
  | .missing => .error "No such file or directory"
  | .refused => .error "shared pool state must be private bounded regular file"
  | .json plan =>
    let id := workerOf p.desired.workers index
    match p.hosts id with
    | none => .ok (.json plan)
    | some host =>
      if isPlaced p.desired.revision.toNat id host.receipt.host plan then .ok (.json plan)
      else do
        refuseIf (decide (2 ^ 64 ≤ placementRevision plan + 1))
          "shared pool placement revision exhausted"
        let revision := max p.desired.revision.toNat (placementRevision plan + 1)
        let plan ← setPlacement plan (placement p.config revision id host.receipt.host)
        refuseIf (!p.writable index) "plan not written"
        return .json plan

/-- The loop over the plans from a position on: an error ends it. -/
def Pass.placeFrom (p : Pass) (index : ℕ) : List PlanFile → Except String Unit × List PlanFile
  | [] => (.ok (), [])
  | file :: rest =>
    match p.place index file with
    | .error e => (.error e, file :: rest)
    | .ok placed => ((p.placeFrom (index + 1) rest).1, placed :: (p.placeFrom (index + 1) rest).2)

/-! ## `Manager::reconcile` -/

/-- A product of `usize`. -/
def checkedMul (a b : ℕ) : Option ℕ := if a * b < 2 ^ 64 then some (a * b) else none

/-- What is asked of the desired state. -/
def desiredInvalid (config : Config) (desired : Desired) : Bool :=
  !(desired.schemaVersion == 1 && decide (0 < desired.revision) && decide (1 ≤ desired.workers)
    && decide (desired.workers ≤ config.maxWorkers))

/-- The budget for a number of plans; every domain may have an old and a new instance, of three
threads and sixteen descriptors each. -/
def withinBudget (config : Config) (desired : Desired) (plans : ℕ) : Option Bool := do
  let instances ← checkedMul plans 2
  let threads ← checkedMul instances 3
  return decide (threads ≤ config.maxDomainThreads)
    && (checkedMul threads 1048576).any (fun bytes => decide (bytes ≤ config.maxDomainStackBytes))
    && (checkedMul instances 16).any (fun fds =>
      decide (fds + desired.workers * 8 ≤ config.maxReservedFds))
    && decide ((plans + desired.workers - 1) / desired.workers * 2 ≤ config.maxDomainsPerWorker)

/-- What happens around one reconciliation. -/
structure Surroundings where
  desired : Option Desired
  starts : ℕ → StartAnswers
  writable : ℕ → Bool
  retires : ℕ → Bool

/-- The starts of these hosts, with the identifiers of those that failed. -/
def startAll (starts : ℕ → StartAnswers) : List ℕ → Manager → List ℕ × Manager
  | [], m => ([], m)
  | id :: rest, m =>
    let started := m.start id (starts id)
    let others := startAll starts rest started.2
    match started.1 with
    | .ok _ => others
    | .error _ => (id :: others.1, others.2)

/-- The hosts that are beyond the desired ones and that no plan uses are retired. -/
def retireUnused (m : Manager) (desired : Desired) (plans : ℕ) (retires : ℕ → Bool) : Manager :=
  let used := (List.range plans).map (workerOf desired.workers)
  { m with hosts := fun id =>
      if id ∉ used ∧ desired.workers < id ∧ retires id = true then none else m.hosts id }

/-- The hosts that are desired. -/
def desiredIds (desired : Desired) : List ℕ := (List.range desired.workers).map (· + 1)

/-- The pass over the plans behind the starts. -/
def Manager.pass (m : Manager) (s : Surroundings) (desired : Desired) : Pass where
  config := m.config
  desired := desired
  hosts := (startAll s.starts (desiredIds desired) m).2.hosts
  writable := s.writable

/-- `Manager::reconcile`. -/
def Manager.reconcile (m : Manager) (s : Surroundings) (files : List PlanFile) :
    Except String Unit × Manager × List PlanFile :=
  match s.desired with
  | none => (.error "shared pool state must be private bounded regular file", m, files)
  | some desired =>
    if desiredInvalid m.config desired then (.error "shared pool desired budget invalid", m, files)
    else match withinBudget m.config desired files.length with
      | none => (.error "shared domain thread budget overflow", m, files)
      | some false => (.error "code=shared_pool_budget_rejected", m, files)
      | some true =>
        let started := startAll s.starts (desiredIds desired) m
        let placed := (m.pass s desired).placeFrom 0 files
        match placed.1 with
        | .error e => (.error e, started.2, placed.2)
        | .ok () =>
          let retired := retireUnused started.2 desired files.length s.retires
          if started.1 = [] then (.ok (), retired, placed.2)
          else (.error "code=shared_pool_host_pending", retired, placed.2)

/-- `runtime_agent::run` up to its tasks: they start if the first reconciliation succeeds. -/
def runStarts (pool : Option Manager) (s : Surroundings) (files : List PlanFile) : Bool :=
  match pool with
  | none => true
  | some m =>
    match (m.reconcile s files).1 with
    | .ok _ => true
    | .error _ => false

end CandyRuntime.Agent.SharedPool
