import CandyRuntime.NetdProto.Types

/-!
# The netd protocol: responses and the session state machine

The response types of `candy-netd-proto` and `NetdSession::apply`, which decides which
request a session accepts in which phase and for which owner.
-/

namespace CandyRuntime.NetdProto

/-! ## Responses -/

/-- `ErrorCode`. -/
inductive ErrorCode where
  | invalidRequest
  | unauthorizedPeer
  | generationConflict
  | preflightFailed
  | systemFailure
  | drainPending
  | linkPrepareFailed
  | routePrepareFailed
  | firewallPrepareFailed
  | sysctlPrepareFailed
  | linkActivateFailed
  | policyActivateFailed
deriving DecidableEq, Repr

/-- `SessionPhase`. -/
inductive SessionPhase where
  | stopped
  | prepared
  | active
  | suspended
  | draining
deriving DecidableEq, Repr

/-- `ResponseBody`. -/
inductive ResponseBody where
  | prepared (generation : UInt64) (tunFdAttached : Bool)
  | committed (generation : UInt64)
  | rolledBack (generation : UInt64)
  | status (phase : SessionPhase) (generation : UInt64)
  | leaseRenewed (generation : UInt64)
  | mtuUpdated (generation : UInt64) (effectiveMtu : UInt16)
  | suspended (generation : UInt64)
  | reconfigured (generation : UInt64)
  | resumed (generation : UInt64)
  | drained (generation : UInt64)
  | prefixesWithdrawn (generation count : UInt64)
  | policyUpdated (generation : UInt64)
  | error (code : ErrorCode)
deriving DecidableEq, Repr

/-- The response refuses the request. -/
def ResponseBody.isError : ResponseBody → Bool
  | .error _ => true
  | _ => false

/-- `NetdResponse`. -/
structure NetdResponse where
  requestId : UInt64
  body : ResponseBody
deriving DecidableEq, Repr

/-! ## The session -/

/-- `NetdSessionError`. -/
inductive NetdSessionError where
  | generationConflict
  | invalidTransition
  | ownerMismatch
  | invalidDeclaration
deriving DecidableEq, Repr

/-- `NetdSession`. -/
structure NetdSession where
  phase : SessionPhase
  owner : Option LeaseOwner
  declaration : Option PrepareDeclaration
  replacementPending : Bool
deriving DecidableEq, Repr

/-- `NetdSession::new`. -/
def NetdSession.new : NetdSession :=
  { phase := .stopped, owner := none, declaration := none, replacementPending := false }

/-- The same instance and process, with another generation. -/
def otherGeneration (owner request : LeaseOwner) : Bool :=
  request.instanceId == owner.instanceId && request.pid == owner.pid
    && request.generation != owner.generation

/-- `same_generation_retry_except_exclusions`. -/
def sameGenerationRetryExceptExclusions (retained retry : PrepareDeclaration) : Bool :=
  retained.tableId == retry.tableId
    && retained.overlayRouterIpv4 == retry.overlayRouterIpv4
    && retained.effectiveMtu == retry.effectiveMtu
    && retained.routes == retry.routes
    && retained.firewall == retry.firewall

/-- The immutable part of a declaration, as `PolicyUpdate` compares it. -/
def sameTunnel (current declaration : PrepareDeclaration) : Bool :=
  current.tableId == declaration.tableId
    && current.overlayRouterIpv4 == declaration.overlayRouterIpv4
    && current.effectiveMtu == declaration.effectiveMtu
    && current.exclusions == declaration.exclusions

def NetdOperation.isPrepare : NetdOperation → Bool
  | .prepare _ => true
  | _ => false

def NetdOperation.isReconfigure : NetdOperation → Bool
  | .reconfigure _ => true
  | _ => false

/-- `Commit` and `LeaseRenew`, which the owner of a staged replacement may send. -/
def NetdOperation.isReplacementStep : NetdOperation → Bool
  | .commit | .leaseRenew => true
  | _ => false

namespace NetdSession

/-- The owner checks at the head of `apply`, with the owner they leave. -/
def fence (session : NetdSession) (request : NetdRequest) :
    Except NetdSessionError NetdSession :=
  match session.owner with
  | none => .ok session
  | some owner =>
    let stoppedPrepare := session.phase == .stopped && request.operation.isPrepare
    if stoppedPrepare && decide (owner.generation < request.owner.generation) then
      -- a new generation starts without the retained owner and declaration
      .ok { session with owner := none, declaration := none }
    else if session.phase == .suspended && request.operation.isReconfigure
        && otherGeneration owner request.owner then
      .ok { session with owner := some request.owner }
    else if session.phase == .active && request.operation.isReconfigure
        && otherGeneration owner request.owner then
      .ok { session with owner := some request.owner }
    else if session.phase == .active && request.operation.isReplacementStep
        && otherGeneration owner request.owner then
      .ok { session with owner := some request.owner }
    else if stoppedPrepare && owner.generation == request.owner.generation then .ok session
    else if stoppedPrepare && decide (request.owner.generation < owner.generation) then
      .error .generationConflict
    else if owner.instanceId != request.owner.instanceId || owner.pid != request.owner.pid then
      .error .ownerMismatch
    else if owner.generation != request.owner.generation then .error .generationConflict
    else .ok session

/-- `Prepare`: the first declaration, a repetition, or a retry after a roll-back. -/
def applyPrepare (session : NetdSession) (owner : LeaseOwner) (declaration : PrepareDeclaration) :
    Except NetdSessionError NetdSession :=
  match session.declaration with
  | some existing =>
    if existing ≠ declaration && !(session.phase == .stopped
        && sameGenerationRetryExceptExclusions existing declaration) then
      .error .generationConflict
    else if session.phase = .stopped then
      .ok { session with declaration := some declaration, owner := some owner, phase := .prepared }
    else .ok session
  | none =>
    if session.phase ≠ .stopped then .error .invalidTransition
    else
      .ok { session with owner := some owner, declaration := some declaration, phase := .prepared }

/-- `Reconfigure`. -/
def applyReconfigure (session : NetdSession) (declaration : PrepareDeclaration) :
    Except NetdSessionError NetdSession :=
  if session.phase = .prepared ∧ session.replacementPending = true then
    if session.declaration = some declaration then .ok session else .error .generationConflict
  else if session.phase = .suspended then .ok { session with declaration := some declaration }
  else if session.phase = .active then
    if session.declaration ≠ some declaration then
      .ok { session with declaration := some declaration, replacementPending := true,
                         phase := .prepared }
    else .ok session
  else .error .invalidTransition

/-- The operation itself, once the owner is accepted. -/
def advance (session : NetdSession) (request : NetdRequest) :
    Except NetdSessionError NetdSession :=
  match request.operation with
  | .prepare declaration => session.applyPrepare request.owner declaration
  | .commit =>
    match session.phase with
    | .prepared =>
      .ok { session with phase := if session.replacementPending then .draining else .active }
    | .active | .draining => .ok session
    | .stopped | .suspended => .error .invalidTransition
  | .rollback =>
    if session.owner = none then .error .invalidTransition
    else .ok { session with phase := .stopped, replacementPending := false }
  | .status => .ok session
  | .leaseRenew =>
    if session.owner = none then .error .invalidTransition
    else .ok { session with owner := some request.owner }
  | .mtuUpdate effectiveMtu =>
    match session.declaration with
    | none => .error .invalidTransition
    | some declaration =>
      if session.phase ≠ .active ∨ declaration.effectiveMtu ≤ effectiveMtu then
        .error .invalidTransition
      else .ok { session with declaration := some { declaration with effectiveMtu } }
  | .suspend =>
    if session.phase ≠ .active then .error .invalidTransition
    else .ok { session with phase := .suspended }
  | .reconfigure declaration => session.applyReconfigure declaration
  | .resume =>
    if session.phase ≠ .suspended then .error .invalidTransition
    else .ok { session with phase := .active }
  | .drain _ =>
    if session.phase ≠ .draining then .error .invalidTransition
    else .ok { session with phase := .active, replacementPending := false }
  | .withdrawPrefixes _ =>
    if session.phase ≠ .active then .error .invalidTransition else .ok session
  | .policyUpdate declaration =>
    if ¬ (session.phase = .active ∨ session.phase = .suspended) then .error .invalidTransition
    else
      match session.declaration with
      | none => .error .invalidTransition
      | some current =>
        if !sameTunnel current declaration then .error .invalidTransition
        else .ok { session with declaration := some declaration }

/-- `NetdSession::apply`, on a copy: a refused request leaves the session as it was. -/
def apply (session : NetdSession) (request : NetdRequest) :
    Except NetdSessionError NetdSession := do
  request.validate.mapError fun _ => .invalidDeclaration
  let fenced ← session.fence request
  fenced.advance request

end NetdSession

end CandyRuntime.NetdProto
