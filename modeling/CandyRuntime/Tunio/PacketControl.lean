import CandyRuntime.Tunio.Runs

/-!
# The packet endpoint and the manager as two parties

The thread of the packet endpoint hands an update to the manager and then polls for its
acknowledgement until the deadline of the request. The manager takes the updates in order, leaves out
those nobody waits for any more, and applies the others in its own time. Here the two take their steps
one by one, in any interleaving; an acknowledgement is known by its ticket.
-/

namespace CandyRuntime.Tunio

open Lib Lib.Proc NetdProto NetdV2

variable (E : ℕ → Moment)

/-- `PacketControlResponse`, less its texts. -/
structure PacketControlResponse where
  process : ProcessIdentity
  controller : ProcessIdentity
  controllerEpoch : ℕ
  nonce : String
  accepted : Bool
  currentBinding : PacketPortBinding
  authDeadlineUnix : ℕ
deriving DecidableEq, Repr

/-- The reply `start` builds after `apply_request`. -/
def packetResponse (c : Controller) (request : PacketControlRequest) (accepted : Bool) :
    PacketControlResponse where
  process := c.process
  controller := c.controller
  controllerEpoch := c.epoch
  nonce := request.nonce
  accepted
  currentBinding := c.binding
  authDeadlineUnix := c.authDeadlineUnix

/-- `PacketPortOwnerUpdate`. -/
structure OwnerUpdate where
  ticket : ℕ
  change : OwnerChange
deriving DecidableEq, Repr

/-- A request in `wait_applied`, and what the manager has sent to it. -/
structure Awaiting where
  ticket : ℕ
  request : PacketControlRequest
  answer : Option (Except String Unit)
deriving DecidableEq

/-- The two parties. `taken` is the update the manager is at work on, past its look at the
acknowledgement. -/
structure Parties where
  world : World
  awaiting : Option Awaiting
  queue : List OwnerUpdate
  taken : Option OwnerUpdate
  tickets : ℕ
  running : Bool
  reply : Option PacketControlResponse
deriving DecidableEq

/-- A step of one party. -/
inductive PartyLabel where
  /-- A request arrives. `unavailable`: its deadline has passed, or the queue takes nothing. -/
  | accepts (request : PacketControlRequest) (peer : ProcessIdentity) (descriptors : ℕ)
      (unavailable : Bool)
  /-- One round of `wait_applied`. -/
  | polls (late : Bool)
  | takes
  | applies (circumstance : Circumstance)
  | stops
  /-- A step of the other users of the controller state. -/
  | control (request : ControlRequest) (peer : ProcessIdentity)
  | register
  | background (b : Background)
  | guardLooks (clock : Clock)
  | guardClears (missed : Bool)
deriving DecidableEq, Repr

namespace Parties

/-- The request is answered, and the endpoint waits for the next one. -/
def answers (p : Parties) (world : World) (request : PacketControlRequest) (accepted : Bool) :
    Parties :=
  { p with
    world
    awaiting := none
    reply := some (packetResponse world.controller request accepted) }

/-- A request waits for the acknowledgement of this update. -/
def awaits (p : Parties) (u : OwnerUpdate) : Bool := p.awaiting.any (·.ticket = u.ticket)

/-- A request is accepted. While another one waits, the endpoint accepts none. -/
def accepts (p : Parties) (request : PacketControlRequest) (peer : ProcessIdentity)
    (descriptors : ℕ) (unavailable : Bool) : Parties :=
  if p.awaiting.isSome then p
  else match packetAdmission E request peer descriptors p.world with
  | (.ok (some change), world) =>
    if unavailable || !p.running then p.answers world request false
    else { p with
      world
      awaiting := some ⟨p.tickets, request, none⟩
      queue := p.queue ++ [⟨p.tickets, change⟩]
      tickets := p.tickets + 1 }
  | (.ok none, world) => p.answers world request true
  | (_, world) => p.answers world request false

/-- One round of `wait_applied`. The deadline comes before the answer. -/
def polls (p : Parties) (late : Bool) : Parties :=
  match p.awaiting with
  | none => p
  | some a =>
    if late then p.answers p.world a.request false
    else match a.answer with
    | some (.ok _) =>
      match packetCommit E a.request p.world with
      | (.ok _, world) => p.answers world a.request true
      | (_, world) => p.answers world a.request false
    | some (.error _) => p.answers p.world a.request false
    | none => if p.running then p else p.answers p.world a.request false

/-- The manager takes an update. One that is abandoned is left out. -/
def takes (p : Parties) : Parties :=
  match p.taken, p.queue with
  | none, u :: rest => { p with queue := rest, taken := if p.awaits u then some u else none }
  | _, _ => p

/-- The manager applies or refuses the update it has taken, and answers. -/
def applies (p : Parties) (circumstance : Circumstance) : Parties :=
  match p.taken with
  | none => p
  | some u =>
    let (result, bridge) := p.world.bridge.apply circumstance u.change
    { p with
      world := { p.world with bridge }
      taken := none
      awaiting := p.awaiting.map fun a =>
        if a.ticket = u.ticket then { a with answer := some result } else a }

/-- The manager ends between two updates. -/
def stops (p : Parties) : Parties :=
  if p.taken.isSome then p else { p with running := false, queue := [] }

/-- A step of the world. The mutex of the controller state is held by a request that waits. -/
def locked (p : Parties) (f : World → World) : Parties :=
  if p.awaiting.isSome then p else { p with world := f p.world }

/-- One step. -/
def step : PartyLabel → Parties → Parties
  | .accepts request peer descriptors unavailable, p =>
    p.accepts E request peer descriptors unavailable
  | .polls late, p => p.polls E late
  | .takes, p => p.takes
  | .applies circumstance, p => p.applies circumstance
  | .stops, p => p.stops
  | .control request peer, p => p.locked (after (controlRequest E request peer))
  | .register, p => p.locked (after (Tunio.register E))
  | .background b, p => { p with world := p.world.background b }
  | .guardLooks clock, p => p.locked (·.guardLooks clock)
  | .guardClears missed, p =>
    { p with world := p.world.guardClears (missed || p.awaiting.isSome) }

/-- The parties after a sequence of steps. -/
def run (labels : List PartyLabel) (p : Parties) : Parties :=
  labels.foldl (fun p label => p.step E label) p

/-- The two parties at the start of the endpoint. -/
def start (origin : Origin) (process controller : ProcessIdentity) (tokenSha256 : String) :
    Parties where
  world := .start origin process controller tokenSha256
  awaiting := none
  queue := []
  taken := none
  tickets := 0
  running := true
  reply := none

/-- No request is being handled, and the manager has nothing to do. -/
def Idle (p : Parties) : Prop := p.awaiting = none ∧ p.queue = [] ∧ p.taken = none

instance (p : Parties) : Decidable p.Idle := by
  unfold Idle
  infer_instance

end Parties

end CandyRuntime.Tunio
