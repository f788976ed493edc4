import CandyRuntime.Tunio.Authority

/-!
# Runs of the TUNIO control process

The other users of the controller state and of the manager: the supervision endpoint with its
takeover, the packet endpoint of the bootstrap, and the guard of the boot deadline. A run is any
sequence of their steps, of requests of the authority endpoint and of what happens in the
manager. The endpoints hold the mutex for a whole request, so a request is one step; the
manager and the guard's revocation go on while it is at work, which is in its moments.
-/

namespace CandyRuntime.Tunio

open Lib Lib.Proc NetdProto NetdV2

variable (E : ℕ → Moment)

/-! ## Supervision -/

/-- `ControlOperation`. -/
inductive ControlOperation where
  | probe
  | takeover
  | stop
deriving DecidableEq, Repr

/-- `ControlRequest`. -/
structure ControlRequest where
  schemaVersion : ℕ
  operation : ControlOperation
  tokenSha256 : String
  nonce : String
deriving DecidableEq, Repr

/-- `char::is_ascii_hexdigit`. -/
def isHexDigit (c : Char) : Bool := isLowerHex c || ('A' ≤ c && c ≤ 'F')

/-- A nonce the older endpoints take. -/
def isNonce (nonce : String) : Bool := nonce.length == 32 && nonce.toList.all isHexDigit

/-- `Takeover` of a registered process by another peer. -/
def takeover (peer : ProcessIdentity) : Srv Bool := do
  let state ← controllerState
  if ← processIsCurrent E state.controller then return false
  if state.epoch + 1 < 2 ^ 64 then
    modifyController fun c => { c with controller := peer, epoch := c.epoch + 1 }
    match ← attempt (publish E) with
    | .ok _ => return true
    | .error _ =>
      modifyController fun c => { c with controller := state.controller, epoch := state.epoch }
      return false
  else return false

/-- `Controller::request`; the answer is whether the request was accepted. -/
def controlRequest (request : ControlRequest) (peer : ProcessIdentity) : Srv Bool := do
  let state ← controllerState
  if request.schemaVersion = 1 ∧ request.tokenSha256 = state.tokenSha256
      ∧ isNonce request.nonce then
    match request.operation with
    | .probe => return true
    | .takeover =>
      if state.registered = false then return false
      else if peer = state.controller then return true
      else takeover E peer
    | .stop => return peer = state.controller
  else return false

/-- The end of `ControlRegistration::wait`. -/
def register : Srv Unit := do
  ensure ((← processIsCurrent E (← controllerState).controller) = true)
    "controller exited before registration completed"
  modifyController fun c => { c with registered := true }
  publish E

/-! ## The packet endpoint of the bootstrap -/

/-- `PacketControlOperation`. -/
inductive PacketControlOperation where
  | attach
  | revoke
  | probe
deriving DecidableEq, Repr

/-- `PacketControlRequest`. -/
structure PacketControlRequest where
  schemaVersion : ℕ
  process : ProcessIdentity
  controller : ProcessIdentity
  controllerEpoch : ℕ
  tokenSha256 : String
  nonce : String
  operation : PacketControlOperation
  binding : PacketPortBinding
  authDeadlineUnix : ℕ
deriving DecidableEq, Repr

/-- `fixed_binding_matches`. -/
def fixedBindingMatches (actual original : PacketPortBinding) : Bool :=
  infrastructureMatches actual original && actual.policyGeneration = original.policyGeneration

/-- `owner_deadline` of `attach_control.rs`. -/
def reboundDeadline (request : PacketControlRequest) (origin : Origin) : Srv ℕ := do
  ensure (request.authDeadlineUnix ≤ origin.deadlineUnix)
    "rebind cannot extend original signed deadline"
  let anchor ← instantNow E
  let now ← wallNow E
  ensure (now < request.authDeadlineUnix * 1000000000) "owner authorization expired"
  let deadline := min (anchor + (request.authDeadlineUnix * 1000000000 - now)) origin.deadline
  ensure ((← instantNow E) < deadline) "original monotonic authorization expired"
  return deadline

/-- `bootstrap_check`. -/
def bootstrapCheck (deadline : ℕ) (inherited : Option ℕ) : Srv AuthorizationCheck := do
  let boot ← monotonicMs E
  let wall ← wallNow E
  let remaining := deadline - (← instantNow E)
  ensure (boot + remaining / 1000000 < 2 ^ 64) "bootstrap authorization clock overflow"
  let cap := boot + remaining / 1000000
  return [⟨(inherited.map (min · cap)).getD cap, wall + remaining⟩]

/-- The change a packet request asks for; a probe asks for none. -/
def packetChange (request : PacketControlRequest) (descriptors : ℕ) (origin : Origin)
    (state : Controller) : Srv (Option OwnerChange) :=
  match request.operation with
  | .probe => do
    ensure (descriptors = 0) "Probe cannot receive descriptors"
    return none
  | .attach => do
    ensure (descriptors = 1 ∧ state.binding.ownerEpoch < request.binding.ownerEpoch)
      "Attach requires one descriptor and strictly advancing owner epoch"
    let deadline ← reboundDeadline E request origin
    let port ← packetPort E request.binding
    let replacement ← bootstrapCheck E deadline origin.bootstrapCap
    return some (.attach port deadline (origin.authorization ++ replacement))
  | .revoke => do
    ensure (descriptors = 0 ∧ request.binding = state.binding)
      "Revoke requires no descriptors and the exact current binding"
    return some (.revoke request.binding.ownerEpoch)

/-- `apply_request` of `attach_control.rs` up to its update for the manager. A probe has none. -/
def packetAdmission (request : PacketControlRequest) (peer : ProcessIdentity) (descriptors : ℕ) :
    Srv (Option OwnerChange) := do
  let state ← controllerState
  let origin := (← get).origin
  let peerCurrent ← processIsCurrent E peer
  ensure (request.schemaVersion = 1 ∧ request.process = state.process
      ∧ request.controller = peer ∧ peer = state.controller
      ∧ request.controllerEpoch = state.epoch ∧ peerCurrent = true
      ∧ request.tokenSha256 = state.tokenSha256 ∧ isNonce request.nonce)
    "code=controller_fence_rejected"
  ensure (fixedBindingMatches request.binding origin.binding) "code=packet_binding_rejected"
  ensure (state.registered = true ∨ request.operation = .probe) "code=registration_incomplete"
  ensure ((state.authority.active = none ∧ state.authority.pending = none)
      ∨ request.operation = .probe) "code=authority_schema_required"
  match ← packetChange E request descriptors origin state with
  | none => return none
  | some change =>
    ensure ((← processIsCurrent E peer) = true) "controller exited before owner update"
    return some change

/-- The end of `apply_request`, after an acknowledgement. -/
def packetCommit (request : PacketControlRequest) : Srv Unit := do
  modifyController fun c => { c with
    binding := request.binding
    ownerActive := decide (request.operation = .attach)
    authDeadlineUnix :=
      if request.operation = .attach then request.authDeadlineUnix else c.authDeadlineUnix }
  publish E

/-- `apply_request`: the acknowledgement of the manager is authoritative, without a receipt. -/
def packetRequest (request : PacketControlRequest) (peer : ProcessIdentity) (descriptors : ℕ) :
    Srv Unit := do
  match ← packetAdmission E request peer descriptors with
  | none => return ()
  | some change =>
    let _ ← managerChange E change
    packetCommit E request

/-! ## The guard of the boot deadline -/

/-- The deadline of the owner the guard sees has passed. -/
def guardExpired (origin : Origin) (c : Controller) (clock : Clock) : Bool :=
  match c.authority.active with
  | some active => !authorized (authorizationCheck active) clock
  | none => !authorized origin.authorization clock
      || clock.wall.all fun wall => c.authDeadlineUnix ≤ wall / 1000000000

/-- One tick of `boot_deadline_guard`, up to its revocation. -/
def World.guardLooks (w : World) (clock : Clock) : World :=
  if w.guard = .idle ∧ w.controller.ownerActive ∧ guardExpired w.origin w.controller clock then
    { w with guard := .asked ⟨w.controller.authority.active, w.controller.binding⟩ }
  else w

/-- The end of a tick: only the exact expired transaction is cleared. `missed` is a mutex that
is taken, or a revocation that was not acknowledged. -/
def World.guardClears (w : World) (missed : Bool) : World :=
  match w.guard with
  | .acknowledged seen =>
    if missed = false ∧ w.controller.binding = seen.binding
        ∧ w.controller.authority.active = seen.active then
      { w with
        guard := .idle
        controller := { w.controller with
          ownerActive := false
          authority := { w.controller.authority with
            active := none
            actualDeadlineMonoMs := none } } }
    else { w with guard := .idle }
  | .asked _ => if missed then { w with guard := .idle } else w
  | .idle => w

/-! ## Runs -/

/-- What happens in one step of a run. -/
inductive Label where
  | authority (request : AuthorityControlRequest) (peer : ProcessIdentity) (descriptors : ℕ)
  | packet (request : PacketControlRequest) (peer : ProcessIdentity) (descriptors : ℕ)
  | control (request : ControlRequest) (peer : ProcessIdentity)
  | register
  | background (b : Background)
  | guardLooks (clock : Clock)
  | guardClears (missed : Bool)
deriving DecidableEq, Repr

/-- The state after a program, however it ended. -/
def after {α : Type} (m : Srv α) (w : World) : World := (m w).2

/-- One step. -/
def step : Label → World → World
  | .authority request peer descriptors => after (applyRequest E request peer descriptors)
  | .packet request peer descriptors => after (packetRequest E request peer descriptors)
  | .control request peer => after (controlRequest E request peer)
  | .register => after (register E)
  | .background b => fun w => w.background b
  | .guardLooks clock => fun w => w.guardLooks clock
  | .guardClears missed => fun w => w.guardClears missed

/-- A sequence of steps. -/
def run (labels : List Label) (w : World) : World := labels.foldl (fun w l => step E l w) w

/-- The process after `start_managed_infrastructure` has attached the inherited port and
`control::start` has built the controller. -/
def World.start (origin : Origin) (process controller : ProcessIdentity) (tokenSha256 : String) :
    World where
  origin
  controller := {
    process
    controller
    epoch := 1
    tokenSha256
    authDeadlineUnix := origin.deadlineUnix
    binding := origin.binding
    ownerActive := true
    registered := false
    authority := .default }
  bridge := { Bridge.fresh origin.binding with
    owner := some ⟨origin.binding, origin.deadline⟩
    highestOwnerEpoch := origin.binding.ownerEpoch
    highestPolicyGeneration := origin.binding.policyGeneration }
  guard := .idle
  clock := 0

end CandyRuntime.Tunio
