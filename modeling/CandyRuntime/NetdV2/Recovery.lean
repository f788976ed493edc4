import CandyRuntime.NetdV2.Service

/-!
# Replacement, rollback and expiry of v2 forwarding

The parts of `InfrastructureService` that move the kernel from one declaration to another, or
take it out of service: live policy publication, candidate replacement and its rollback, and
`recover_expired`, which every request runs first.
-/

namespace CandyRuntime.NetdV2

open Lib Lib.Proc NetdProto NetdV1

variable (E : Surroundings)

/-- The pending declaration without its local routes. -/
def withoutLocalRoutes (d : PrepareDeclaration) : PrepareDeclaration :=
  { d with routes := d.routes.filter (·.kind != .localSite) }

/-- `fence_policy_intent`. -/
def fencePolicyIntent (forward : ForwardRecord) : Svc Unit := do
  call E (.rejectForwarding forward.declaration)
  match forward.pendingPolicy with
  | none => call E (.removeFirewall forward.declaration)
  | some pending => do
    let remote := withoutLocalRoutes pending.declaration
    when (remote.routes ≠ []) (call E (.rejectForwarding remote))
    call E (.removeFirewall forward.declaration)
    call E (.discardLivePolicy forward.declaration pending.declaration)

/-- The failed prefixes that are still not local after a policy is published. -/
def retainedFailures (failed : List Ipv4Prefix) (target : PrepareDeclaration) :
    List Ipv4Prefix :=
  failed.filter fun p =>
    target.routes.any fun r => decide (r.ipv4Prefix = p) && r.kind != .localSite

/-- The record after its pending policy was published. -/
def ForwardRecord.publish (r : ForwardRecord) (p : PendingPolicy) : ForwardRecord :=
  { r with
    declaration := p.declaration
    policyRevision := p.revision
    policyGeneration := some p.generation
    policyHash := some p.authorizationSnapshotSha256
    failedPrefixes := retainedFailures r.failedPrefixes p.declaration
    pendingPolicy := none }

/-- `reconcile_live_policy`. -/
def reconcileLivePolicy (now : ℕ) : Svc Unit := do
  let s ← currentState
  let forward ← okOr s.forward (.rejected "forward_missing" "policy owner absent")
  ensureLive forward.owner now
  ensure (forward.phase = .active ∧ s.candidate = none ∧ forward.pendingFailedPrefixes = none)
    (.rejected "forward_policy_repair_pending"
      "policy intent cannot run across owner or route transaction")
  let pending ← okOr forward.pendingPolicy
    (.rejected "forward_policy_intent_missing" "policy intent absent")
  ensure (pending.cancelled = false)
    (.rejected "forward_policy_cancelled" "cancelled policy cannot be replayed")
  ownIdentity E
  inStage "live_policy_routes_firewall" (call E (.updateLivePolicy forward.declaration
    pending.declaration (retainedFailures forward.failedPrefixes pending.declaration)))
  persist E (s.mapForward (·.publish pending))

/-- The first stages of a replacement: nothing is forwarded under either declaration, unless
the previous owner is guarded. -/
def guardReplacement (previous candidate : ForwardRecord) : Svc Unit := do
  if previous.phase = .guarded then
    inStage "guard_previous" (call E (.guardForwarding previous.declaration))
  else
    inStage "guard_previous" (call E (.rejectForwarding previous.declaration))
    inStage "guard_candidate" (call E (.rejectForwarding candidate.declaration))

/-- `install_replacement`. -/
def installReplacement (previous candidate : ForwardRecord) (sysctls : List SysctlChange) :
    Svc Unit := do
  guardReplacement E previous candidate
  inStage "remove_previous_firewall" (call E (.removeFirewall previous.declaration))
  inStage "candidate_sysctls" (call E (.prepareSysctls candidate.declaration sysctls))
  inStage "candidate_firewall" (call E (.prepareFirewall candidate.declaration))
  inStage "remove_previous_routes"
    (call E (.removeStaleForwarding previous.declaration candidate.declaration))
  inStage "candidate_routes"
    (call E (.restoreForwardingWithFailures candidate.declaration candidate.failedPrefixes))

/-- The owner is live, and the state was written since the last boot. -/
def liveSinceBoot (owner : ForwardOwner) (now : ℕ) : Svc Bool := do
  if ownerIsLive owner now then
    return (← currentState).bootId == (← currentBootId E)
  else return false

/-- The record is in one of the phases, and its owner is live since the last boot. -/
def retains (phases : List Phase) (previous : ForwardRecord) (now : ℕ) : Svc Bool :=
  if previous.phase ∈ phases then liveSinceBoot E previous.owner now else return false

/-- The first steps of a rollback: a guarded owner that is live keeps its routes. -/
def guardRollback (previous candidate : ForwardRecord) (guardedLive : Bool) : Svc Unit := do
  if guardedLive then
    call E (.guardForwarding previous.declaration)
  else
    call E (.rejectForwarding candidate.declaration)
    call E (.rejectForwarding previous.declaration)

/-- `rollback_replacement`. The boot identifier is only read for an owner that is live. -/
def rollbackReplacement (previous candidate : ForwardRecord) (now : ℕ) : Svc Unit := do
  guardRollback E previous candidate (← retains E [.guarded] previous now)
  call E (.removeFirewall candidate.declaration)
  let oldLive ← retains E [.active, .guarded] previous now
  when (oldLive = true) (call E (.prepareFirewall previous.declaration))
  call E (.removeStaleForwarding candidate.declaration previous.declaration)
  when (oldLive = true) (call E
    (.restoreForwardingWithFailures previous.declaration previous.failedPrefixes))
  let s ← currentState
  persist E { s with
    forward := some (if oldLive then previous else { previous with phase := .revoked })
    candidate := none }

/-! ## `recover_expired` -/

/-- A record whose pending work has been given up with its owner. -/
def ForwardRecord.revoke (r : ForwardRecord) : ForwardRecord :=
  { r with
    phase := .revoked
    pendingFailedPrefixes := none
    pendingFailureRevision := none
    pendingPolicy := none }

/-- A record whose pending failed prefixes have been installed. -/
def ForwardRecord.settleFailures (r : ForwardRecord) (target : List Ipv4Prefix)
    (revision : ℕ) : ForwardRecord :=
  { r with
    failedPrefixes := target
    failureRevision := revision
    pendingFailedPrefixes := none
    pendingFailureRevision := none }

/-- The candidate: a commit that was interrupted is rolled back, and a prepared candidate does
not outlive its owner or a restart. -/
def recoverCandidate (now : ℕ) : Svc Bool := do
  let s ← currentState
  match s.candidate with
  | none => return false
  | some candidate =>
    if candidate.phase = .preparing then
      let previous ← okOr s.forward
        (.rejected "forward_missing" "commit recovery has no previous policy")
      rollbackReplacement E previous candidate now
      return true
    else if (← get).restartRecoveryPending ∨ ownerIsLive candidate.owner now = false then
      persist E { s with candidate := none }
      return true
    else return false

/-- A cancelled policy intent is fenced. -/
def recoverCancelledPolicy : Svc Bool := do
  let s ← currentState
  match s.forward with
  | none => return false
  | some forward =>
    if forward.pendingPolicy.any (·.cancelled) then
      fencePolicyIntent E forward
      persist E (s.mapForward fun r => { r with phase := .revoked, pendingPolicy := none })
      return true
    else return false

/-- A policy intent of a live owner is published. -/
def recoverPendingPolicy (now : ℕ) : Svc Bool := do
  let s ← currentState
  match s.forward with
  | none => return false
  | some forward =>
    if forward.pendingPolicy.isSome ∧ forward.phase = .active ∧ ownerIsLive forward.owner now then
      if s.bootId = (← currentBootId E) then
        match ← attempt (reconcileLivePolicy E now) with
        | .ok _ => return true
        | .error _ => return false
      else return false
    else return false

/-- The pending failed prefixes of a live owner are installed. -/
def recoverPendingFailures (now : ℕ) : Svc Bool := do
  let s ← currentState
  match s.forward with
  | none => return false
  | some forward =>
    if forward.phase = .active ∧ ownerIsLive forward.owner now then
      if s.bootId = (← currentBootId E) then
        match forward.pendingFailedPrefixes with
        | none => return false
        | some target =>
          let spec ← unwrap s.spec
          let _ ← identity E spec.infraId spec.generation
          match ← attempt (call E (.updateFailedForwardPrefixes forward.declaration
              forward.failedPrefixes target)) with
          | .error _ => return false
          | .ok _ =>
            let revision ← unwrap forward.pendingFailureRevision
            persist E (s.mapForward (·.settleFailures target revision))
            return true
      else return false
    else return false

/-- An expired owner, or one of an earlier boot, is fenced and revoked. -/
def expire (forward : ForwardRecord) : Svc Unit := do
  let s ← currentState
  let fenced := { forward with
    pendingPolicy := forward.pendingPolicy.map fun p => { p with cancelled := true } }
  when (forward.pendingPolicy.isSome) (persist E { s with forward := some fenced })
  fencePolicyIntent E fenced
  let s ← currentState
  persist E (s.mapForward (·.revoke))

/-- What is left of `recover_expired` once the pending work has been looked at. -/
def recoverOwner (now : ℕ) (recovered : Bool) : Svc Bool := do
  let w ← get
  match w.state.forward with
  | none =>
    setRestartRecoveryPending false
    return recovered
  | some forward =>
    if forward.phase = .revoked then
      setRestartRecoveryPending false
      return recovered
    else
      let ambiguousPreparation := w.restartRecoveryPending
        ∧ (forward.phase = .preparing ∨ forward.phase = .prepared)
      let bootChanged := w.state.bootId ≠ (← currentBootId E)
      if forward.phase = .guarded ∧ ¬ bootChanged ∧ ownerIsLive forward.owner now then
        call E (.guardForwarding forward.declaration)
        setRestartRecoveryPending false
        return true
      else if ¬ ambiguousPreparation ∧ ¬ bootChanged ∧ ownerIsLive forward.owner now then
        setRestartRecoveryPending false
        return recovered
      else
        expire E forward
        setRestartRecoveryPending false
        return true

/-- `recover_expired`. -/
def recoverExpired (now : ℕ) : Svc Bool := do
  completeCreation E
  let candidate ← recoverCandidate E now
  let cancelled ← recoverCancelledPolicy E
  let policy ← recoverPendingPolicy E now
  let failures ← recoverPendingFailures E now
  recoverOwner E now (candidate || cancelled || policy || failures)

end CandyRuntime.NetdV2
