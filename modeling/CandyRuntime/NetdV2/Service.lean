import CandyRuntime.Lib.Proc
import CandyRuntime.NetdV2.Kernel

/-!
# The v2 infrastructure service

`InfrastructureService` of `v2.rs`: `process`, `recover_expired` and everything they call, in
the order in which they read the host, call the backend and write the journal.

* The surroundings are a stream of moments. Every read of the host, every backend call and
  every journal write meets its own moment: what the host looks like then, and whether the
  call succeeds, fails, or is the one at which the daemon is killed.
* A call that fails or is killed can have made the first few of its writes. A journal write is
  a single one: the file can hold the new state although `store` returned an error.
-/

namespace CandyRuntime.NetdV2

open Lib Lib.Proc NetdProto NetdV1

/-! ## The service and its surroundings -/

/-- How one call ends; `done` and `repaired` say how far it came. -/
inductive Fate where
  | ok
  | fail (done repaired : ℕ)
  | crash (done repaired : ℕ)
deriving DecidableEq, Repr

/-- A line of `/proc/PID/stat`: the state and the start time. -/
structure ProcessStat where
  state : Char
  startTicks : ℕ
deriving DecidableEq, Repr

/-- What one call meets. -/
structure Moment where
  fate : Fate
  bootId : String
  processes : UInt32 → Option ProcessStat
  interface : Option UInt32
  marker : Option String
  createdIfindex : UInt32
  nonce : String
  sysctls : List SysctlChange
  netns : ℕ × ℕ

/-- Everything that is not the service: the moments its calls will meet, and the digest of a
serialized declaration. -/
structure Surroundings where
  moment : ℕ → Moment
  declarationHash : PrepareDeclaration → String

/-- `InfrastructureService`, the journal file, the kernel, and the number of the next moment. -/
structure InfrastructureService where
  allowedUid : ℕ
  allowedGid : ℕ
  state : State
  stored : Option State
  lifecycleFd : Bool
  restartRecoveryPending : Bool
  kernel : Kernel
  clock : ℕ

/-- A step of the service. -/
abbrev Svc := Proc InfrastructureService InfrastructureError

/-- `PeerCredentials`. -/
structure PeerCredentials where
  uid : ℕ
  gid : ℕ
  pid : UInt32
deriving DecidableEq, Repr

def reject {α : Type} (code reason : String) : Svc α := fail (.rejected code reason)

variable (E : Surroundings)

/-! ## Single calls -/

/-- Read the host; `e` is the error when the read fails. -/
def read {α : Type} (f : Moment → α) (e : InfrastructureError) : Svc α := fun w =>
  let w' := { w with clock := w.clock + 1 }
  match (E.moment w.clock).fate with
  | .ok => (.ok (f (E.moment w.clock)), w')
  | .fail _ _ => (.err e, w')
  | .crash _ _ => (.crash, w')

/-- A mutating call of the backend. -/
def call (c : BackendCall) : Svc Unit := fun w =>
  let w' := { w with clock := w.clock + 1 }
  match (E.moment w.clock).fate with
  | .ok => (.ok (), { w' with kernel := w.kernel.after c.writes })
  | .fail done repaired =>
    (.err (.backend .backend), { w' with kernel := w.kernel.after (c.partialWrites done repaired) })
  | .crash done repaired =>
    (.crash, { w' with kernel := w.kernel.after (c.partialWrites done repaired) })

/-- `InfrastructureJournal::store`. -/
def store (s : State) : Svc Unit := fun w =>
  let w' := { w with clock := w.clock + 1 }
  match (E.moment w.clock).fate with
  | .ok => (.ok (), { w' with stored := some s })
  | .fail done _ => (.err .journal, if done = 0 then w' else { w' with stored := some s })
  | .crash done _ => (.crash, if done = 0 then w' else { w' with stored := some s })

/-- `persist`: the state in memory follows the file. -/
def persist (s : State) : Svc Unit := do
  store E s
  modify fun w => { w with state := s }

/-- Translate a failure of the backend into a failure of a stage of the transition. -/
def inStage (stage : String) (m : Svc Unit) : Svc Unit :=
  mapError (fun e => match e with
    | .backend cause => .transition stage cause
    | e => e) m

/-- The failure of a named stage of the preparation. -/
def inBackendStage {α : Type} (stage : BackendStage) (m : Svc α) : Svc α :=
  mapError (fun _ => .backend (.backendStage stage)) m

def setLifecycleFd (held : Bool) : Svc Unit := modify fun w => { w with lifecycleFd := held }

def setRestartRecoveryPending (pending : Bool) : Svc Unit :=
  modify fun w => { w with restartRecoveryPending := pending }

def currentState : Svc State := fun w => (.ok w.state, w)

/-- `Option::unwrap`: a panic takes the daemon down. -/
def unwrap {α : Type} : Option α → Svc α
  | some a => pure a
  | none => fun w => (.crash, w)

/-! ## Clocks and processes -/

/-- `clock::owner_is_live`. -/
def ownerIsLive (o : ForwardOwner) (now : ℕ) : Bool :=
  decide (now < min o.authDeadlineMonoMs o.leaseDeadlineMonoMs)

/-- `clock::proof_is_fresh`. -/
def proofIsFresh (now reported : ℕ) : Bool :=
  decide (reported ≤ now + 50) && decide (now - reported ≤ 5000)

/-- `ensure_live`. -/
def ensureLive (o : ForwardOwner) (now : ℕ) : Svc Unit :=
  ensure (ownerIsLive o now = true)
    (.rejected "forward_owner_expired" "authorization or forwarding lease expired")

/-- `current_boot_id`. -/
def currentBootId : Svc String := read E (·.bootId) .journal

/-- `new_ownership_marker`. -/
def newOwnershipMarker : Svc String := read E (fun m => "candy-infra-v2:" ++ m.nonce) .journal

/-- `linux_process_identity`; `none` is the error `NotFound`. -/
def linuxProcessIdentity (pid : UInt32) : Svc (Option ProcessStat) :=
  read E (fun m => m.processes pid) .journal

/-- `process_start_ticks`. -/
def processStartTicks (pid : UInt32) : Svc (Option ℕ) := do
  let stat ← okOr (← linuxProcessIdentity E pid) .journal
  return some stat.startTicks

/-- `business_process_epoch_alive`. -/
def businessProcessEpochAlive (pid : UInt32) (ticks : ℕ) : Svc Bool := do
  match ← linuxProcessIdentity E pid with
  | some stat =>
    return stat.state != 'Z' && stat.state != 'X' && stat.state != 'x' && stat.startTicks == ticks
  | none => return false

/-- `kill(pid, 0)` finds a process, or is not permitted to look. -/
def killProbe (pid : UInt32) : Svc Bool := do
  match ← attempt (read E (fun m => (m.processes pid).isSome) .journal) with
  | .ok found => return found
  | .error _ => return true

/-- `io_owner_alive`. Whatever cannot be read counts as alive. -/
def ioOwnerAlive (o : IoOwner) : Svc Bool := do
  match ← attempt (currentBootId E) with
  | .ok bootId => if bootId ≠ o.bootId then return false else examine
  | .error _ => examine
where
  /-- The part after the boot identifier was compared. -/
  examine : Svc Bool := do
    match ← attempt (linuxProcessIdentity E o.pid) with
    | .ok (some stat) =>
      if stat.state = 'Z' ∨ stat.state = 'X' ∨ some stat.startTicks ≠ o.startTicks then
        return false
      else killProbe E o.pid
    | .ok none => return false
    | .error _ => return true

/-- `next.io_owner.as_ref().is_some_and(io_owner_alive)`. -/
def heldAlive : Option IoOwner → Svc Bool
  | none => return false
  | some o => ioOwnerAlive E o

/-! ## Identity of the infrastructure -/

/-- `administrator`. -/
def administrator (request : Request) : Svc Unit := do
  ensure ((← currentState).administrator = some request.callerInstanceId)
    (.rejected "infra_owner_conflict"
      "only the retained infrastructure administrator may mutate forwarding")

/-- `interface_identity`. -/
def interfaceIdentity : Svc (Option UInt32) := read E (·.interface) (.backend .backend)

/-- `verify_device_ownership`. -/
def verifyDeviceOwnership : Svc Unit := do
  let s ← currentState
  let conflict : InfrastructureError := .rejected "infra_ownership_conflict"
    "kernel TUN marker does not match the durable creation intent"
  ensure (s.ownershipMarker ≠ none) conflict
  ensure ((← read E (·.marker) (.backend .backend)) = s.ownershipMarker) conflict

/-- `identity`. -/
def identity (infraId : InstanceId) (generation : ℕ) : Svc InfraSpec := do
  let s ← currentState
  let spec ← okOr s.spec
    (.rejected "infra_missing" "infrastructure has not been ensured")
  ensure (spec.infraId = infraId ∧ spec.generation = generation)
    (.rejected "infra_generation_conflict" "infrastructure identity does not match")
  ensure ((← interfaceIdentity E) = s.ifindex)
    (.rejected "infra_identity_conflict"
      "kernel interface identity changed; explicit recovery is required")
  verifyDeviceOwnership E
  return spec

/-- `self.identity` with the retained spec itself. -/
def ownIdentity : Svc Unit := do
  let spec ← okOr (← currentState).spec
    (.rejected "infra_missing" "infrastructure unavailable")
  let _ ← identity E spec.infraId spec.generation

/-- The network namespace of the daemon is that of the spec. -/
def ensureNamespace (spec : InfraSpec) (reason : String) : Svc Unit := do
  let netns ← read E (·.netns) .journal
  ensure (spec.netnsDevice = netns.1 ∧ spec.netnsInode = netns.2)
    (.rejected "infra_namespace_conflict" reason)

/-- The device of a creation intent: it is made, or the one that carries the marker is opened
again. The descriptor of an exclusive device is dropped when its marker cannot be published,
and the device with it. -/
def openDevice (marker : String) : Svc Unit := do
  if (← interfaceIdentity E).isNone then
    read E (fun _ => ()) .platform
    setLifecycleFd true
    handle (call E (.stampInfrastructureOwnership marker)) fun e => do
      setLifecycleFd false
      fail e
  else
    verifyDeviceOwnership E
    when ((← get).lifecycleFd = false) do
      read E (fun _ => ()) .platform
      setLifecycleFd true

/-- `complete_creation`. -/
def completeCreation : Svc Unit := do
  let s ← currentState
  when (s.creationPending = true) do
    let spec ← okOr s.spec
      (.rejected "infra_intent_invalid" "creation intent has no infrastructure spec")
    let marker ← okOr s.ownershipMarker
      (.rejected "infra_intent_invalid" "creation intent has no ownership marker")
    ensureNamespace E spec "creation recovery requires the original network namespace"
    openDevice E marker
    verifyDeviceOwnership E
    read E (fun _ => ()) .platform
    let ifindex ← read E (·.createdIfindex) (.backend .backend)
    let bootId ← currentBootId E
    persist E { s with ifindex := some ifindex, creationPending := false, bootId }

end CandyRuntime.NetdV2
