import CandyRuntime.Lib.Trace
import CandyRuntime.NetdIpc.Client

/-!
# The loop of the v1 agent

`run_once` of the SD-WAN agent once netd has committed its declaration: the agent keeps Core and
netd on one activation, follows the candidate pointer of the Cloud synchronizer, and takes steering
away while Core is not ready. netd is the client together with its daemon; Core answers as the
environment says, and what it keeps is the generation of the policy it runs.

Every operation meets one `Moment`. Texts of log lines, route diagnostics and the process record
are left out; the loop is left with an error that is not looked at any further.
-/

namespace CandyRuntime.Agent.V1

open Lib Lib.Proc NetdProto NetdIpc
open NetdV1 (TransactionRecord exactFormat)

/-! ## Data -/

/-- `CoreRole`. -/
inductive CoreRole where
  | clientSdwan
  | server
deriving DecidableEq, Repr

/-- `ActivationDescriptor`, as far as the loop looks at it. -/
structure ActivationDescriptor where
  projectionGeneration : UInt64
  grantRefreshAfterUnix : ℕ
  grantExpiresAtUnix : ℕ
deriving DecidableEq, Repr

/-- `RuntimeArgs`. The declaration is what `parse_declaration` makes of its file. -/
structure RuntimeArgs where
  generation : UInt64
  coreRole : CoreRole
  target : Option String
  descriptor : Option ActivationDescriptor
  declaration : Option PrepareDeclaration
deriving DecidableEq, Repr

/-- `runtime_policy_generation`. -/
def RuntimeArgs.policyGeneration (args : RuntimeArgs) : UInt64 :=
  (args.descriptor.map (·.projectionGeneration)).getD args.generation

/-- `grant_retry_eligible`. -/
def ActivationDescriptor.grantRetryEligible (d : ActivationDescriptor) (now : ℕ) : Bool :=
  (d.grantRefreshAfterUnix = 0 && d.grantExpiresAtUnix = 0) || now < d.grantExpiresAtUnix

def RuntimeArgs.authorized (args : RuntimeArgs) (now : ℕ) : Bool :=
  args.descriptor.all (·.grantRetryEligible now)

/-- What the candidate pointer leads to. -/
structure Candidate where
  target : String
  coreRole : CoreRole
  descriptor : ActivationDescriptor
  declaration : Option PrepareDeclaration
deriving DecidableEq, Repr

/-- `reload_runtime_args`. -/
def reloadRuntimeArgs (current : RuntimeArgs) (candidate : Option Candidate) :
    Option RuntimeArgs :=
  candidate.bind fun c =>
    if c.coreRole = current.coreRole then
      some {
        generation := c.descriptor.projectionGeneration
        coreRole := current.coreRole
        target := some c.target
        descriptor := some c.descriptor
        declaration := c.declaration }
    else none

/-- `adopt_policy_activation`. -/
def adoptPolicyActivation (current replacement : RuntimeArgs) : RuntimeArgs :=
  { replacement with generation := current.generation }

/-- `ActivationPointerState`. -/
inductive ActivationPointerState where
  | unchanged
  | superseded
  | withdrawn
deriving DecidableEq, Repr

/-- `activation_pointer_state`, from what the link reads. -/
def RuntimeArgs.pointerState (args : RuntimeArgs) (link : Option String) :
    ActivationPointerState :=
  match args.target, link with
  | none, _ => .unchanged
  | some _, none => .withdrawn
  | some target, some current => if current = target then .unchanged else .superseded

/-- `HotTransitionState`. -/
structure HotTransitionState where
  coreSuspended : Bool
  steeringSuspended : Bool
deriving DecidableEq, Repr

def HotTransitionState.complete (t : HotTransitionState) : Bool :=
  t.coreSuspended && t.steeringSuspended

/-- `PolicyUpdateOutcome`. -/
inductive PolicyUpdateOutcome where
  | applied
  | requiresTunnelReplacement
  | rejected
  | retry
  | commitPending
deriving DecidableEq, Repr

/-- `ReadinessState`; a failed readiness is an error of the read. -/
inductive ReadinessState where
  | ready
  | degraded
  | listenerReady
  | waiting
  | recoverablePeerLoss
deriving DecidableEq, Repr

/-- `CoreReloadAction`. -/
inductive CoreReloadAction where
  | prepare
  | commit
  | policyUpdate
  | suspend
  | resume
deriving DecidableEq, Repr

/-- The errors of a request to Core, and those the loop tells apart. -/
inductive AgentError where
  | ipc (e : IpcError)
  /-- The socket or the process of Core, or another file. -/
  | io
  | coreRejected (replacementRequired : Bool)
  | preparationPending
  | appliedPending
  | recoveryRequired
  /-- The loop is left. -/
  | left
deriving DecidableEq, Repr

/-- An answer of Core. A refusal can ask for more time, or for a replacement of the tunnel. -/
inductive CoreReply where
  | ok
  | refused (pendingPeers replacementRequired : Bool)
  | broken
deriving DecidableEq, Repr

/-- What happens to a request to Core; `applied` counts when the answer is lost. -/
inductive CoreFate where
  | unsent
  | sent (applied : Bool) (reply : CoreReply)
deriving DecidableEq, Repr

/-- Core has done what it was asked to. -/
def CoreReply.tookEffect (applied : Bool) : CoreReply → Bool
  | .ok => true
  | .refused _ _ => false
  | .broken => applied

/-- What the traffic status of Core says about the routes. -/
structure RouteStatus where
  desired : Option (List Ipv4Prefix)
  reconcileDue : Bool
  consistent : Bool

/-! ## The world of the loop -/

/-- The steps of `hot_replace_activation`. -/
inductive Stage where
  /-- The generation and the declaration of the candidate are looked at. -/
  | admission
  /-- Local files, the clock, a rejection receipt. -/
  | files
  /-- `Prepare` of Core, and the binding of the candidate after it. -/
  | prepare
  /-- The declaration is handed to netd. -/
  | declare
  /-- The binding of the candidate and the status file, before `Commit`. -/
  | binding
  /-- `Commit` of Core. -/
  | commit
  /-- `Commit` of netd. -/
  | promote
  /-- Core becomes ready. -/
  | ready
  /-- The binding of the candidate, after `Commit`. -/
  | rebinding
  /-- The old declaration is drained. -/
  | drain
  /-- Steering is resumed. -/
  | resume
  /-- The committed receipt. -/
  | receipt
deriving DecidableEq, Repr

/-- Where a committed receipt comes from. -/
inductive Origin where
  | started
  | adopted
  | replaced
  | recovered
deriving DecidableEq, Repr

/-- What an iteration has seen of the pointer. -/
inductive Seen where
  | unchanged
  | rejectedTarget
  | other
deriving DecidableEq, Repr

/-- What netd retains: the record of the running daemon and the one of its journal. -/
structure Retained where
  memory : Option TransactionRecord
  stored : Option TransactionRecord
deriving DecidableEq, Repr

/-- What is seen of a run. `netd` is what netd retains at that moment, and `fallback` says whether
one of the two flags of the loop is set. -/
inductive Event where
  /-- A hot replacement begins. -/
  | replaces (transition : HotTransitionState) (phase : ClientPhase)
  /-- A step of a hot replacement has gone well or not. -/
  | hot (stage : Stage) (suspended fallback ok : Bool)
  /-- Fallback is about to be left. -/
  | leaves (args : RuntimeArgs) (transition : HotTransitionState) (netd : Retained)
  /-- Steering was given back. -/
  | resumed
  /-- A committed receipt is written. -/
  | committed (origin : Origin) (args : RuntimeArgs) (netd : Retained)
  /-- A committed receipt could not be written. -/
  | deferred (origin : Origin)
  /-- A policy update begins at a time, or the status of Core shows that it has been made. -/
  | updates (now : Option ℕ) (current replacement : RuntimeArgs) (netd : Retained)
  /-- A policy update ends. -/
  | updated (outcome : PolicyUpdateOutcome) (current replacement : RuntimeArgs) (netd : Retained)
  /-- A policy update is to be confirmed by Core, which runs the policy of this generation. -/
  | pends (replacement : RuntimeArgs) (core : UInt64) (netd : Retained)
  /-- The policy of a candidate is refused. -/
  | refused (transition : HotTransitionState) (fallback : Bool)
  /-- The pointer has been looked at. -/
  | looked (state : ActivationPointerState) (transition : HotTransitionState) (fallback : Bool)
  /-- An iteration is over and the loop goes on. -/
  | ended (seen : Seen) (transition : HotTransitionState) (peerLoss routeIntegrity : Bool)
deriving DecidableEq, Repr

/-- What the environment says around one operation. -/
structure Moment where
  renewalDue : Bool
  leaseDeadlineMonoMs : Option UInt64
  nowMonoMs : UInt64
  nowUnix : ℕ
  retryDue : Bool
  link : Option (Option String)
  candidate : Option Candidate
  core : CoreFate
  renewals : ℕ
  drains : ℕ
  bound : Option Bool
  shutdown : Bool
  exited : Option Bool
  file : Bool
  transient : Bool
  visible : Bool
  readiness : Option (Option ReadinessState)
  graceOver : Bool
  routes : Option (Option RouteStatus)

/-- `PendingReceipt`. -/
structure PendingReceipt where
  args : RuntimeArgs
  committed : Option Origin
deriving DecidableEq, Repr

/-- The agent with netd, and the generation of the policy that Core runs. -/
structure Runtime where
  netd : Parties TransactionRecord
  core : UInt64
  args : RuntimeArgs
  transition : HotTransitionState
  peerLossFallback : Bool
  routeIntegrityFallback : Bool
  rejectedActivation : Option String
  preparationRetryTarget : Option String
  pendingPolicy : Option RuntimeArgs
  pendingReceipt : Option PendingReceipt
  lastFailedPrefixes : Option (List Ipv4Prefix)
  seen : Seen
  moments : ℕ → Moment
  trace : List Event

/-- What netd retains; a daemon that is down retains nothing. -/
def retained (p : Parties TransactionRecord) : Retained where
  memory := p.daemon.bind (·.network.record)
  stored := p.daemon.bind (·.network.stored)

def Runtime.fallback (a : Runtime) : Bool := a.peerLossFallback || a.routeIntegrityFallback

/-- A step of the agent. -/
abbrev Ag := Proc Runtime AgentError

def moment : Ag Moment := fun a =>
  (.ok (a.moments 0), { a with moments := fun n => a.moments (n + 1) })

def log (event : Runtime → Event) : Ag Unit := modify fun a => { a with trace := event a :: a.trace }

/-- A call of netd. -/
def netd {α : Type} (m : Cl TransactionRecord α) : Ag α := fun a =>
  match m a.netd with
  | (.ok x, p) => (.ok x, { a with netd := p })
  | (.err e, p) => (.err (.ipc e), { a with netd := p })
  | (.crash, p) => (.crash, { a with netd := p })

/-- `retry_after_rollback` and the other ways out of the loop. -/
def leave {α : Type} : Ag α := fail .left

/-- `m`; if it fails, the loop is left. -/
def orLeave {α : Type} (m : Ag α) : Ag α := mapError (fun _ => .left) m

/-- `transient_runtime_error`. -/
def transientRuntimeError (transient : Bool) : AgentError → Bool
  | .io => transient
  | .ipc .io => transient
  | .ipc (.remote .systemFailure) | .ipc (.remote .generationConflict)
  | .ipc (.remote .drainPending) | .ipc (.remote .linkPrepareFailed)
  | .ipc (.remote .routePrepareFailed) | .ipc (.remote .firewallPrepareFailed)
  | .ipc (.remote .sysctlPrepareFailed) | .ipc (.remote .linkActivateFailed)
  | .ipc (.remote .policyActivateFailed) => true
  | _ => false

/-! ## Core -/

/-- `renew_transition_lease`. -/
def renewTransitionLease : Ag Unit := do
  let m ← moment
  if m.renewalDue then do
    let deadline ← okOr m.leaseDeadlineMonoMs .io
    let _ ← netd (renewLease exactFormat deadline)
    return ()
  else return ()

/-- The renewals while an answer of Core is awaited. -/
def renewals : ℕ → Ag Unit
  | 0 => return ()
  | n + 1 => do
    renewTransitionLease
    renewals n

/-- Core runs the policy of the activation it was asked to. -/
def Runtime.coreRuns (a : Runtime) (args : RuntimeArgs) (action : CoreReloadAction) : Runtime :=
  if action = .commit ∨ action = .policyUpdate then { a with core := args.policyGeneration } else a

/-- What `request_core_transaction` makes of an answer. -/
def CoreReply.result (action : CoreReloadAction) : CoreReply → Except AgentError Unit
  | .ok => .ok ()
  | .refused pendingPeers replacementRequired =>
    if action = .prepare ∧ pendingPeers then .error .preparationPending
    else .error (.coreRejected replacementRequired)
  | .broken => .error .io

/-- `request_core_transaction` and `request_core_control`. -/
def requestCore (args : RuntimeArgs) (action : CoreReloadAction) : Ag Unit := do
  let m ← moment
  match m.core with
  | .unsent => fail .io
  | .sent applied reply => do
    when (reply.tookEffect applied = true) (modify fun a => a.coreRuns args action)
    renewals m.renewals
    lift (reply.result action)

/-! ## Steering -/

def setCoreSuspended (coreSuspended : Bool) : Ag Unit :=
  modify fun a => { a with transition := { a.transition with coreSuspended } }

def setSteeringSuspended (steeringSuspended : Bool) : Ag Unit :=
  modify fun a => { a with transition := { a.transition with steeringSuspended } }

/-- netd takes steering away. -/
def suspendSteering : Ag Unit := do
  let _ ← netd (suspend exactFormat)
  setSteeringSuspended true

/-- Core stops forwarding; one that has exited does not forward. -/
def suspendCore (args : RuntimeArgs) : Ag Unit := do
  let m ← moment
  let exited ← okOr m.exited .io
  when (exited = false) (requestCore args .suspend)
  setCoreSuspended true

/-- `enter_proxy_fallback`. -/
def enterProxyFallback (args : RuntimeArgs) : Ag Unit := do
  let t := (← get).transition
  when (t.steeringSuspended = false) suspendSteering
  when (t.coreSuspended = false) (suspendCore args)

/-- netd gives steering back; if it does not, Core is suspended again. -/
def resumeSteering (args : RuntimeArgs) : Ag Unit := do
  let _ ← handle (netd (resume exactFormat)) fun e => do
    let again ← errorOf (requestCore args .suspend)
    when (again = none) (setCoreSuspended true)
    fail e
  setSteeringSuspended false
  log fun _ => .resumed

/-- `leave_proxy_fallback`. -/
def leaveProxyFallback (args : RuntimeArgs) : Ag Unit := do
  let a ← get
  log fun a => .leaves args a.transition (retained a.netd)
  when (a.transition.coreSuspended = true) (do
    requestCore args .resume
    setCoreSuspended false)
  when (a.transition.steeringSuspended = true) (resumeSteering args)

/-! ## Receipts -/

/-- The write of a file. -/
def writeFile : Ag Unit := do
  let m ← moment
  ensure (m.file = true) .io

/-- `write_failed_activation_receipt`: for a candidate that is not the current one any more, the
receipt is removed. -/
def writeFailedActivationReceipt (args : RuntimeArgs) : Ag Unit := do
  let m ← moment
  let _ ← okOr (m.link.map args.pointerState) .io
  writeFile

/-- A receipt is written or not. -/
def noteReceipt (receipt : PendingReceipt) (written : Bool) : Ag Unit :=
  match receipt.committed with
  | none => return ()
  | some origin =>
    if written then log fun a => .committed origin receipt.args (retained a.netd)
    else log fun _ => .deferred origin

/-- `PendingReceipt::publish`, `committed` and `retry`: a receipt that cannot be written stays
pending. -/
def publishReceipt (receipt : PendingReceipt) : Ag Unit := do
  let failed ← errorOf writeFile
  noteReceipt receipt (failed = none)
  modify fun a => { a with pendingReceipt := if failed = none then none else some receipt }

/-- `PendingReceipt::committed` for the current activation. -/
def publishCommitted (origin : Origin) : Ag Unit := do
  let a ← get
  publishReceipt ⟨a.args, some origin⟩

/-- The retry of a pending receipt at the head of an iteration. -/
def retryReceipt : Ag Unit := do
  match (← get).pendingReceipt with
  | none => return ()
  | some receipt => do
    let m ← moment
    match m.link with
    | none => return ()
    | some link =>
      if receipt.args.pointerState link ≠ .unchanged then
        modify fun a => { a with pendingReceipt := none }
      else if m.retryDue then publishReceipt receipt
      else return ()

/-! ## Policy updates -/

/-- `tunnel_declaration_changed`. -/
def tunnelDeclarationChanged (current replacement : PrepareDeclaration) : Bool :=
  current.tableId != replacement.tableId
    || current.overlayRouterIpv4 != replacement.overlayRouterIpv4
    || current.effectiveMtu != replacement.effectiveMtu
    || current.exclusions != replacement.exclusions

/-- The routes or the firewall mode differ. -/
def policyChanged (current replacement : PrepareDeclaration) : Bool :=
  current.routes != replacement.routes || current.firewall != replacement.firewall

/-- What is done when Core has refused a policy: netd gets the old one back. -/
def undoPolicyUpdate (current : PrepareDeclaration) (changed commitUncertain : Bool)
    (outcome : PolicyUpdateOutcome) : Ag PolicyUpdateOutcome :=
  if commitUncertain then return .commitPending
  else if changed then do
    let failed ← errorOf (netd (updatePolicy exactFormat current))
    if failed = none then return outcome else return .commitPending
  else return outcome

/-- The part of `policy_update_activation_inner` that asks Core. -/
def updateCorePolicy (replacement : RuntimeArgs) (current : PrepareDeclaration)
    (changed commitUncertain : Bool) : Ag PolicyUpdateOutcome := do
  match ← attempt (requestCore replacement .policyUpdate) with
  | .ok () => return .applied
  | .error (.coreRejected true) =>
    undoPolicyUpdate current changed commitUncertain .requiresTunnelReplacement
  | .error (.coreRejected false) => undoPolicyUpdate current changed commitUncertain .rejected
  | .error _ => return .commitPending

/-- The part of `policy_update_activation_inner` once both declarations are read. -/
def updatePolicies (replacement : RuntimeArgs) (old new : PrepareDeclaration)
    (commitUncertain : Bool) : Ag PolicyUpdateOutcome :=
  if tunnelDeclarationChanged old new then return .requiresTunnelReplacement
  else if policyChanged old new then do
    let failed ← errorOf (netd (updatePolicy exactFormat new))
    if failed = none then updateCorePolicy replacement old true commitUncertain
    else return .retry
  else updateCorePolicy replacement old false commitUncertain

/-- `policy_update_activation_inner`. -/
def policyUpdateActivationInner (current replacement : RuntimeArgs) (commitUncertain : Bool) :
    Ag PolicyUpdateOutcome := do
  let m ← moment
  log fun a => .updates (some m.nowUnix) current replacement (retained a.netd)
  if replacement.policyGeneration < current.policyGeneration then return .rejected
  else if !replacement.authorized m.nowUnix then return .rejected
  else do
    let old ← okOr current.declaration .io
    let new ← okOr replacement.declaration .io
    updatePolicies replacement old new commitUncertain

/-- What comes of a policy update is seen. -/
def noteOutcome (current replacement : RuntimeArgs) (outcome : Except AgentError PolicyUpdateOutcome) :
    Ag Unit :=
  match outcome with
  | .error _ => return ()
  | .ok outcome => log fun a => .updated outcome current replacement (retained a.netd)

/-- `policy_update_activation_inner`, with its error as a value. -/
def tryPolicyUpdate (current replacement : RuntimeArgs) (commitUncertain : Bool) :
    Ag (Except AgentError PolicyUpdateOutcome) := do
  let outcome ← attempt (policyUpdateActivationInner current replacement commitUncertain)
  noteOutcome current replacement outcome
  return outcome

/-! ## Hot replacement -/

/-- A step of a hot replacement; how it goes is seen. -/
def step {α : Type} (stage : Stage) (suspended : Bool) (m : Ag α) : Ag α := do
  let x ← handle m fun e => do
    log fun a => .hot stage suspended a.fallback false
    fail e
  log fun a => .hot stage suspended a.fallback true
  return x

/-- `Prepare` of Core, with the binding of the candidate looked at after it. -/
def prepareCandidate (replacement : RuntimeArgs) : Ag Unit := do
  requestCore replacement .prepare
  let m ← moment
  let bound ← okOr m.bound .io
  ensure (bound = true ∧ m.shutdown = false) .io

/-- The preparation has failed; nothing was changed. -/
def refusePreparation (replacement : RuntimeArgs) (e : AgentError) : Ag Bool := do
  let m ← moment
  if transientRuntimeError m.transient e ∨ e = .preparationPending then fail .preparationPending
  else do
    ignore (writeFailedActivationReceipt replacement)
    return false

/-- The declaration of the candidate is handed to netd. -/
def declareCandidate (replacement : RuntimeArgs) (declaration : PrepareDeclaration)
    (deadline : UInt64) (suspended : Bool) : Ag UInt64 :=
  if suspended then
    netd (reconfigureWithOwner exactFormat declaration replacement.generation deadline)
  else netd (prepareReplacementWithOwner exactFormat declaration replacement.generation deadline)

/-- netd has refused the declaration. -/
def refuseDeclaration (current replacement : RuntimeArgs) (suspended : Bool) (e : AgentError) :
    Ag Bool := do
  when (suspended = true) (mapError (fun _ => .recoveryRequired) (leaveProxyFallback current))
  let m ← moment
  if transientRuntimeError m.transient e then fail .preparationPending
  else do
    step .files suspended (writeFailedActivationReceipt replacement)
    return false

/-- `restore_uncommitted_netd_activation`. -/
def restoreUncommittedNetdActivation (current : RuntimeArgs) (previous : PrepareDeclaration) :
    Ag Unit := do
  let m ← moment
  let deadline ← okOr m.leaseDeadlineMonoMs .io
  let _ ← netd (reconfigureWithOwner exactFormat previous current.generation deadline)
  leaveProxyFallback current

/-- A candidate that netd has taken is discarded before Core is asked to commit it. -/
def discardCandidate (current : RuntimeArgs) (previous : PrepareDeclaration) (suspended : Bool) :
    Ag Unit :=
  if suspended then
    mapError (fun _ => .recoveryRequired) (restoreUncommittedNetdActivation current previous)
  else do
    let _ ← netd (rollback exactFormat)
    return ()

/-- `drain_old_bounded`, with this many retries left. -/
def drainOldBounded : ℕ → Ag Unit
  | 0 => do
    let m ← moment
    let _ ← netd (drainOld exactFormat m.nowMonoMs)
    return ()
  | n + 1 => do
    let m ← moment
    handle (do let _ ← netd (drainOld exactFormat m.nowMonoMs)) fun e =>
      if e = .ipc (.remote .drainPending) then drainOldBounded n else fail e

def drain : Ag Unit := do
  let m ← moment
  drainOldBounded m.drains

/-- The error of a replacement that Core may have committed. -/
def orApplied {α : Type} (m : Ag α) : Ag α := mapError (fun _ => .appliedPending) m

/-- Core becomes ready in time. -/
def awaitReadiness (replacement : RuntimeArgs) : Ag Unit := do
  let m ← moment
  renewals m.renewals
  ensure (m.exited = some false) .io
  ensure (m.readiness = some (some .ready)
    ∨ m.readiness = some (some .degraded) ∧ replacement.coreRole = .server) .io

/-- Steering goes over to the replacement. -/
def takeOver (replacement : RuntimeArgs) (suspended : Bool) : Ag Unit :=
  if suspended then orApplied (step .resume suspended (leaveProxyFallback replacement))
  else orApplied (step .drain suspended drain)

/-- The last steps of a hot replacement. -/
def finishReplacement (replacement : RuntimeArgs) (suspended : Bool) : Ag Bool := do
  takeOver replacement suspended
  step .receipt suspended writeFile
  orApplied (step .receipt suspended writeFile)
  log fun a => .committed .replaced replacement (retained a.netd)
  return true

/-- A committed replacement that does not become ready, or is not the candidate any more. -/
def giveUpReplacement (suspended : Bool) : Ag Bool := do
  when (suspended = false) (orApplied (step .drain suspended drain))
  fail .appliedPending

/-- The binding of the candidate after the commit. -/
def rebindReplacement (replacement : RuntimeArgs) (suspended : Bool) : Ag Bool := do
  let m ← moment
  if m.bound = some true ∧ m.shutdown = false then finishReplacement replacement suspended
  else do
    log fun a => .hot .rebinding suspended a.fallback false
    if m.bound = none then fail .appliedPending else giveUpReplacement suspended

/-- netd has followed the commit of Core, if it has to. -/
def promoteReplacement (replacement : RuntimeArgs) (suspended : Bool) : Ag Bool := do
  when (suspended = false)
    (step .promote suspended (do let _ ← netd (commitReplacement exactFormat)))
  match ← attempt (step .ready suspended (awaitReadiness replacement)) with
  | .ok () => rebindReplacement replacement suspended
  | .error _ => giveUpReplacement suspended

/-- `Commit` of Core. It is repeated once. -/
def commitCandidate (replacement : RuntimeArgs) (suspended : Bool) : Ag Bool := do
  orApplied (step .commit suspended
    (handle (requestCore replacement .commit) fun _ => requestCore replacement .commit))
  promoteReplacement replacement suspended

/-- The binding of the candidate and the old status file, before the commit. -/
def bindCandidate (current replacement : RuntimeArgs) (previous : PrepareDeclaration)
    (suspended : Bool) : Ag Bool := do
  let m ← moment
  let removed ← errorOf (when (m.bound = some true ∧ m.shutdown = false) writeFile)
  if m.bound = some true ∧ m.shutdown = false ∧ removed = none then
    commitCandidate replacement suspended
  else do
    log fun a => .hot .binding suspended a.fallback false
    discardCandidate current previous suspended
    if m.bound = none then fail .preparationPending else return false

/-- The part of `hot_replace_activation` once both declarations are read. -/
def replaceActivation (current replacement : RuntimeArgs) (previous new : PrepareDeclaration)
    (suspended : Bool) : Ag Bool := do
  step .files suspended writeFile
  match ← attempt (step .prepare suspended (prepareCandidate replacement)) with
  | .error e => refusePreparation replacement e
  | .ok () => do
    let m ← moment
    let deadline ← step .files suspended (okOr m.leaseDeadlineMonoMs .io)
    match ← attempt (step .declare suspended
        (declareCandidate replacement new deadline suspended)) with
    | .error e => refuseDeclaration current replacement suspended e
    | .ok _ => bindCandidate current replacement previous suspended

/-- `hot_replace_activation`. -/
def hotReplaceActivation (current replacement : RuntimeArgs) : Ag Bool := do
  let suspended := (← get).transition.complete
  log fun a => .replaces a.transition a.netd.client.phase
  let refuse : Ag Bool := do
    log fun a => .hot .admission suspended a.fallback false
    step .files suspended (writeFailedActivationReceipt replacement)
    return false
  if replacement.generation < current.generation then refuse
  else do
    let previous ← step .files suspended (okOr current.declaration .io)
    match replacement.declaration with
    | none => refuse
    | some new => replaceActivation current replacement previous new suspended

/-! ## The iterations -/

/-- Whether an iteration goes on to its next part. -/
inductive Flow where
  | proceed
  | next
deriving DecidableEq, Repr

/-- The replacement has taken the place of the current activation without a new tunnel. -/
def adopt (replacement : RuntimeArgs) : Ag Unit := do
  modify fun a => { a with
    args := adoptPolicyActivation a.args replacement
    preparationRetryTarget := none }
  publishCommitted .adopted

/-- Core has to confirm a policy update. -/
def pend (replacement : RuntimeArgs) : Ag Unit := do
  log fun a => .pends replacement a.core (retained a.netd)
  modify fun a => { a with pendingPolicy := some replacement }

/-- A policy update that stays unconfirmed; a newer candidate takes its place. -/
def awaitConfirmation (replacement : RuntimeArgs) : Ag Flow := do
  let a ← get
  let m ← moment
  match m.link.map replacement.pointerState, reloadRuntimeArgs a.args m.candidate with
  | some .superseded, some newer => do
    when (replacement.policyGeneration ≤ newer.policyGeneration) (pend newer)
    return .next
  | _, _ => return .next

/-- The pending policy update is applied. -/
def confirm (replacement : RuntimeArgs) : Ag Flow := do
  adopt replacement
  modify fun a => { a with pendingPolicy := none }
  return .proceed

/-- The part of the loop for a pending policy update. -/
def confirmPolicy : Ag Flow := do
  let a ← get
  match a.pendingPolicy with
  | none => return .proceed
  | some replacement => do
    let m ← moment
    if m.shutdown ∨ m.exited ≠ some false then leave
    else if replacement.authorized m.nowUnix ∧ m.visible
        ∧ a.core = replacement.policyGeneration then do
      log fun a => .updates none a.args replacement (retained a.netd)
      log fun a => .updated .applied a.args replacement (retained a.netd)
      confirm replacement
    else if replacement.authorized m.nowUnix ∧ m.retryDue then do
      match ← tryPolicyUpdate a.args replacement true with
      | .ok .applied => confirm replacement
      | _ => awaitConfirmation replacement
    else awaitConfirmation replacement

/-- The candidate of this target is not tried again. -/
def reject (target : Option String) : Ag Unit :=
  modify fun a => { a with rejectedActivation := target }

/-- What comes of a hot replacement. -/
def followReplacement (replacement : RuntimeArgs) : Ag Unit := do
  let a ← get
  match ← attempt (hotReplaceActivation a.args replacement) with
  | .ok true => modify fun a => { a with
      args := replacement
      peerLossFallback := false
      routeIntegrityFallback := false
      rejectedActivation := none }
  | .ok false => reject replacement.target
  | .error .preparationPending =>
    modify fun a => { a with preparationRetryTarget := replacement.target }
  | .error .appliedPending => modify fun a => { a with
      args := replacement
      peerLossFallback := true
      rejectedActivation := none }
  | .error .recoveryRequired => leave
  | .error _ => do
    let t := (← get).transition
    when (t.complete = false) (ignore (enterProxyFallback a.args))
    ignore (writeFailedActivationReceipt replacement)
    reject replacement.target

/-- The policy of a candidate is refused. -/
def refusePolicy (replacement : RuntimeArgs) : Ag Flow := do
  log fun a => .refused a.transition a.fallback
  publishReceipt ⟨replacement, none⟩
  reject replacement.target
  return .next

/-- What comes of a policy update. -/
def followPolicyUpdate (replacement : RuntimeArgs) : Ag Flow := do
  let a ← get
  match ← tryPolicyUpdate a.args replacement false with
  | .error _ => refusePolicy replacement
  | .ok .applied => do
    adopt replacement
    reject none
    return .next
  | .ok .rejected => refusePolicy replacement
  | .ok .retry => do
    modify fun a => { a with preparationRetryTarget := replacement.target }
    return .next
  | .ok .commitPending => do
    orLeave suspendSteering
    modify fun a => { a with peerLossFallback := true }
    pend replacement
    return .next
  | .ok .requiresTunnelReplacement => do
    followReplacement replacement
    return .proceed

/-- What the iteration has seen of a pointer that leads to another candidate. -/
def seesCandidate (replacement : RuntimeArgs) : Ag Unit :=
  modify fun a => { a with
    seen := if a.rejectedActivation = replacement.target then .rejectedTarget else .other }

/-- The pointer leads to another candidate. -/
def followSuperseded : Ag Flow := do
  let a ← get
  let m ← moment
  match reloadRuntimeArgs a.args m.candidate with
  | none => return .next
  | some replacement =>
    if a.rejectedActivation ≠ replacement.target
        ∧ (a.preparationRetryTarget ≠ replacement.target ∨ m.retryDue) then do
      let flow ← followPolicyUpdate replacement
      seesCandidate replacement
      return flow
    else do
      seesCandidate replacement
      return .proceed

/-- The pointer is gone. -/
def followWithdrawn : Ag Flow := do
  modify fun a => { a with
    peerLossFallback := false
    routeIntegrityFallback := false
    rejectedActivation := none }
  let a ← get
  let failed ← errorOf (when (a.transition.complete = false) (enterProxyFallback a.args))
  if failed = none then do
    -- the receipt is removed
    let failed ← errorOf writeFile
    return if failed = none then .proceed else .next
  else return .next

/-- The candidate pointer. -/
def followPointer : Ag Flow := do
  let m ← moment
  modify fun a => { a with seen := .other }
  match m.link with
  | none => return .next
  | some link => do
    let a ← get
    let state := a.args.pointerState link
    log fun a => .looked state a.transition a.fallback
    match state with
    | .unchanged => do
      modify fun a => { a with seen := .unchanged }
      return .proceed
    | .superseded => followSuperseded
    | .withdrawn => followWithdrawn

/-- Shutdown and the end of Core. -/
def checkProcess : Ag Unit := do
  let m ← moment
  if m.shutdown ∨ m.exited ≠ some false then leave else return ()

/-- Core is ready again. -/
def recover : Ag Bool := do
  let a ← get
  if a.peerLossFallback ∧ a.routeIntegrityFallback = false then do
    let failed ← errorOf (leaveProxyFallback a.args)
    if failed = none then do
      modify fun a => { a with peerLossFallback := false }
      publishCommitted .recovered
      return true
    else return false
  else return true

/-- Core has lost its peers. -/
def losePeers : Ag Unit := do
  let a ← get
  when (a.peerLossFallback = false) (do
    orLeave (enterProxyFallback a.args)
    modify fun a => { a with peerLossFallback := true })

/-- The readiness of Core. -/
def followReadiness : Ag Flow := do
  let a ← get
  let m ← moment
  match m.readiness with
  | none => leave
  | some (some .ready) => do
    let _ ← recover
    return .proceed
  | some (some .degraded) => do
    let recovered ← recover
    return if recovered ∨ a.args.coreRole = .server then .proceed else .next
  | some (some .recoverablePeerLoss) => do
    when (a.args.coreRole = .clientSdwan) losePeers
    return .proceed
  | some (some .listenerReady) | some (some .waiting) | some none => do
    losePeers
    if m.graceOver then leave else return .next

/-- The routes are what Core reports, or steering is taken away. -/
def followIntegrity (consistent : Bool) : Ag Unit := do
  let a ← get
  if consistent ∧ a.routeIntegrityFallback then
    if a.peerLossFallback then modify fun a => { a with routeIntegrityFallback := false }
    else do
      let failed ← errorOf (leaveProxyFallback a.args)
      when (failed = none) (modify fun a => { a with routeIntegrityFallback := false })
  else when (consistent = false ∧ a.routeIntegrityFallback = false) (do
    orLeave suspendSteering
    modify fun a => { a with routeIntegrityFallback := true })

/-- The failed prefixes that Core reports are withdrawn. -/
def reconcileRoutes : Ag Unit := do
  let a ← get
  let m ← moment
  match m.routes with
  | none => leave
  | some none => return ()
  | some (some status) =>
    if a.transition.steeringSuspended ∧ a.routeIntegrityFallback = false then return ()
    else do
      let _ ← orLeave (okOr a.args.declaration .io)
      match status.desired with
      | none => return ()
      | some prefixes =>
        when (a.lastFailedPrefixes ≠ some prefixes ∨ status.reconcileDue) (do
          let _ ← orLeave (netd (setFailedPrefixes exactFormat prefixes))
          followIntegrity status.consistent
          modify fun a => { a with lastFailedPrefixes := some prefixes })

/-- The part of an iteration that looks at Core. -/
def followCore : Ag Unit := do
  checkProcess
  let a ← get
  if a.transition.steeringSuspended = false ∨ a.peerLossFallback ∨ a.routeIntegrityFallback then do
    match ← followReadiness with
    | .next => return ()
    | .proceed => reconcileRoutes
  else return ()

/-- The part of an iteration that looks at the pointer. -/
def followCandidate : Ag Unit := do
  match ← followPointer with
  | .next => return ()
  | .proceed => followCore

/-- The parts of an iteration. -/
def follow : Ag Unit := do
  orLeave renewTransitionLease
  modify fun a => { a with seen := .other }
  retryReceipt
  match ← confirmPolicy with
  | .next => return ()
  | .proceed => followCandidate

/-- One iteration of the loop. -/
def iterate : Ag Unit := do
  follow
  log fun a => .ended a.seen a.transition a.peerLossFallback a.routeIntegrityFallback

/-- This many iterations, or fewer if the loop is left. -/
def loop : ℕ → Ag Unit
  | 0 => return ()
  | n + 1 => do
    iterate
    loop n

/-- The agent in front of its loop: netd has committed the declaration and journaled it. -/
structure Runtime.Started (a : Runtime) : Prop where
  phase : a.netd.client.phase = .active
  generation : a.netd.client.owner.generation = a.args.generation
  journaled : (retained a.netd).stored = (retained a.netd).memory
  transition : a.transition = ⟨false, false⟩
  peerLossFallback : a.peerLossFallback = false
  routeIntegrityFallback : a.routeIntegrityFallback = false
  rejectedActivation : a.rejectedActivation = none
  pendingPolicy : a.pendingPolicy = none
  pendingReceipt : ∀ receipt ∈ a.pendingReceipt, receipt.committed = some .started
  trace : a.trace = []

end CandyRuntime.Agent.V1
