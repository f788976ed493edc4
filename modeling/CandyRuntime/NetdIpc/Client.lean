import CandyRuntime.NetdProto.Codec
import CandyRuntime.NetdV1.Service

/-!
# The v1 client

`NetdClient` of `candy-netd-client`, together with the daemon it talks to. An exchange is one
connection: the request can be lost, the reply can be lost after the daemon has handled the
request, and the daemon can be killed while it does. `Delivery` says which.

A frame that arrives is decoded to the request it was made from, so the request itself is
handed over; a request that cannot be encoded is never sent. The descriptor of a response is
kept as whether it is attached.
-/

namespace CandyRuntime.NetdIpc

open Lib Lib.Proc NetdProto NetdV1

/-- `IpcError`. -/
inductive IpcError where
  | io
  | socket
  | frameLength
  | protocol (e : NetdProtocolError)
  | descriptorMismatch
  | requestIdExhausted
  | remote (code : ErrorCode)
  | unexpectedResponse
  | invalidTransition
deriving DecidableEq, Repr

/-- `ClientPhase`. -/
inductive ClientPhase where
  | stopped
  | prepared
  | active
  | suspended
deriving DecidableEq, Repr

/-- `NetdClient`. -/
structure NetdClient where
  owner : LeaseOwner
  nextRequestId : Option UInt64
  phase : ClientPhase
deriving DecidableEq, Repr

/-- What the daemon meets while it handles a request. -/
structure Circumstances where
  env : Surroundings
  fates : Fates
  readings : SysctlKey → Option (Fin 3)

/-- How one exchange goes. -/
inductive Delivery where
  | requestLost (e : IpcError)
  | replyLost (circumstances : Circumstances) (e : IpcError)
  | replied (circumstances : Circumstances)

/-- The two parties; the daemon is down when its journal could not be read again. -/
structure Parties (β : Type) where
  client : NetdClient
  peer : PeerCredentials
  daemon : Option (NetdService β)
  deliveries : ℕ → Delivery

abbrev Cl (β : Type) := Proc (Parties β) IpcError

variable {β : Type}

/-- The daemon after it was killed and started again. -/
def restart (J : JournalFormat β) (s : NetdService β) : Option (NetdService β) :=
  match load J s.network.stored with
  | .ok record =>
    some { s with session := .new, tun := false, network := { s.network with record } }
  | .error _ => none

/-- The service in front of a request. -/
def meeting (s : NetdService β) (c : Circumstances) : NetdService β :=
  { s with network := s.network.facing c.fates c.readings }

/-- The daemon's side of a connection; without a daemon nobody answers. -/
def answer (J : JournalFormat β) (c : Circumstances) (request : NetdRequest) :
    Cl β (Option NetdResponse) := fun p =>
  match p.daemon with
  | none => (.ok none, p)
  | some s =>
    match process J c.env request p.peer (meeting s c) with
    | (.ok response, s') => (.ok (some response), { p with daemon := some s' })
    | (.err _, s') => (.ok none, { p with daemon := some s' })
    | (.crash, s') => (.ok none, { p with daemon := restart J s' })

/-- The next delivery. -/
def nextDelivery : Cl β Delivery := fun p =>
  (.ok (p.deliveries 0), { p with deliveries := fun n => p.deliveries (n + 1) })

/-- Send a request and wait for the response. -/
def deliver (J : JournalFormat β) (request : NetdRequest) : Cl β NetdResponse := do
  match ← nextDelivery with
  | .requestLost e => fail e
  | .replyLost c e =>
    let _ ← lift (request.encode.mapError .protocol)
    let _ ← answer J c request
    fail e
  | .replied c =>
    let _ ← lift (request.encode.mapError .protocol)
    okOr (← answer J c request) .io

/-- A response announces a descriptor. -/
def attached : ResponseBody → Bool
  | .prepared _ fd => fd
  | _ => false

/-- `u64::checked_add(1)`. -/
def checkedSucc (n : UInt64) : Option UInt64 :=
  if n.toNat + 1 < 2 ^ 64 then some (n + 1) else none

/-- `exchange`. -/
def exchange (J : JournalFormat β) (operation : NetdOperation) : Cl β (ResponseBody × Bool) := do
  let client := (← get).client
  let requestId ← okOr client.nextRequestId .requestIdExhausted
  let response ← deliver J { requestId, owner := client.owner, operation }
  modify fun p => { p with client := { p.client with nextRequestId := checkedSucc requestId } }
  ensure (response.requestId = requestId) .unexpectedResponse
  match response.body with
  | .error code => fail (.remote code)
  | body => return (body, attached body)

/-- `exchange_generation`. -/
def exchangeGeneration (J : JournalFormat β) (operation : NetdOperation)
    (generation : ResponseBody → Option UInt64) : Cl β UInt64 := do
  let (body, descriptor) ← exchange J operation
  ensure (descriptor = false) .descriptorMismatch
  let generation ← okOr (generation body) .unexpectedResponse
  ensure (generation = (← get).client.owner.generation) .unexpectedResponse
  return generation

def reconfiguredGeneration : ResponseBody → Option UInt64
  | .reconfigured generation => some generation
  | _ => none

def setOwner (generation leaseDeadlineMonoMs : UInt64) : Cl β Unit :=
  modify fun p => { p with client := { p.client with
    owner := { p.client.owner with generation, leaseDeadlineMonoMs } } }

/-- What `Status` has to answer for a lost `Reconfigure` to count as committed. -/
def suspendedAt (generation : UInt64) : Except IpcError (ResponseBody × Bool) → Bool
  | .ok (.status .suspended observed, false) => observed == generation
  | _ => false

/-- `reconfigure_with_owner`. -/
def reconfigureWithOwner (J : JournalFormat β) (declaration : PrepareDeclaration)
    (generation leaseDeadlineMonoMs : UInt64) : Cl β UInt64 := do
  let client := (← get).client
  ensure (client.phase = .suspended ∨ client.phase = .active) .invalidTransition
  ensure (generation ≠ 0 ∧ leaseDeadlineMonoMs ≠ 0) .invalidTransition
  setOwner generation leaseDeadlineMonoMs
  handle (exchangeGeneration J (.reconfigure declaration) reconfiguredGeneration) fun e => do
    let observed ← attempt (exchange J .status)
    if suspendedAt generation observed then return generation
    else
      setOwner client.owner.generation client.owner.leaseDeadlineMonoMs
      fail e

/-! ## The other operations -/

def setPhase (phase : ClientPhase) : Cl β Unit :=
  modify fun p => { p with client := { p.client with phase } }

/-- An operation that is answered with the generation of the owner. -/
def generationOf (operation : NetdOperation) : ResponseBody → Option UInt64 :=
  match operation with
  | .commit => fun | .committed generation => some generation | _ => none
  | .rollback => fun | .rolledBack generation => some generation | _ => none
  | .leaseRenew => fun | .leaseRenewed generation => some generation | _ => none
  | .suspend => fun | .suspended generation => some generation | _ => none
  | .reconfigure _ => reconfiguredGeneration
  | .resume => fun | .resumed generation => some generation | _ => none
  | .drain _ => fun | .drained generation => some generation | _ => none
  | .withdrawPrefixes _ => fun | .prefixesWithdrawn generation _ => some generation | _ => none
  | .policyUpdate _ => fun | .policyUpdated generation => some generation | _ => none
  | _ => fun _ => none

/-- An operation that the client makes in one of these phases. -/
def requestIn (J : JournalFormat β) (phases : List ClientPhase) (operation : NetdOperation) :
    Cl β UInt64 := do
  ensure ((← get).client.phase ∈ phases) .invalidTransition
  exchangeGeneration J operation (generationOf operation)

/-- `rollback`. -/
def rollback (J : JournalFormat β) : Cl β UInt64 := do
  let generation ← requestIn J [.prepared, .active, .suspended] .rollback
  setPhase .stopped
  return generation

/-- `set_failed_prefixes`. -/
def setFailedPrefixes (J : JournalFormat β) (prefixes : List Ipv4Prefix) : Cl β UInt64 :=
  requestIn J [.active, .suspended] (.withdrawPrefixes prefixes)

/-- `renew_lease`. -/
def renewLease (J : JournalFormat β) (leaseDeadlineMonoMs : UInt64) : Cl β UInt64 := do
  let client := (← get).client
  ensure (client.phase ≠ .stopped ∧ leaseDeadlineMonoMs ≠ 0) .invalidTransition
  setOwner client.owner.generation leaseDeadlineMonoMs
  handle (exchangeGeneration J .leaseRenew (generationOf .leaseRenew)) fun e => do
    setOwner client.owner.generation client.owner.leaseDeadlineMonoMs
    fail e

/-- `update_policy`. -/
def updatePolicy (J : JournalFormat β) (declaration : PrepareDeclaration) : Cl β UInt64 :=
  requestIn J [.active, .suspended] (.policyUpdate declaration)

/-- `suspend`. -/
def suspend (J : JournalFormat β) : Cl β UInt64 := do
  let generation ← requestIn J [.active] .suspend
  setPhase .suspended
  return generation

/-- `prepare_replacement_with_owner`. -/
def prepareReplacementWithOwner (J : JournalFormat β) (declaration : PrepareDeclaration)
    (generation leaseDeadlineMonoMs : UInt64) : Cl β UInt64 := do
  let client := (← get).client
  ensure (client.phase = .active) .invalidTransition
  setOwner generation leaseDeadlineMonoMs
  handle (exchangeGeneration J (.reconfigure declaration) reconfiguredGeneration) fun e => do
    setOwner client.owner.generation client.owner.leaseDeadlineMonoMs
    fail e

/-- `commit_replacement`. -/
def commitReplacement (J : JournalFormat β) : Cl β UInt64 := requestIn J [.active] .commit

/-- `drain_old`. -/
def drainOld (J : JournalFormat β) (nowMonoMs : UInt64) : Cl β UInt64 :=
  requestIn J [.active] (.drain nowMonoMs)

/-- `resume`. -/
def resume (J : JournalFormat β) : Cl β UInt64 := do
  let generation ← requestIn J [.suspended] .resume
  setPhase .active
  return generation

end CandyRuntime.NetdIpc
