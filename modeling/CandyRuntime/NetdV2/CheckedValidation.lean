import CandyRuntime.NetdProto.PrefixTheorems
import CandyRuntime.NetdV2.Protocol

/-!
# Validation of requests with its machine arithmetic

The checks of `Request::validate` once more, in the order in which the source makes them and with
the arithmetic of `prefix_mask` visible: a subtraction below zero or a shift by the width of the
word is `none`, and what the source does not evaluate after that point is not evaluated here.
A JSON request reaches `validate` with the prefixes its text had: nothing has bounded their length.
-/

namespace CandyRuntime.NetdProto

/-! ## Masks -/

/-- `a - b` on `u8`. -/
def checkedSub (a b : UInt8) : Option UInt8 := if b ≤ a then some (a - b) else none

/-- `a << n` on `u32`. -/
def checkedShl (a : UInt32) (n : UInt8) : Option UInt32 :=
  if n < 32 then some (a <<< n.toUInt32) else none

/-- `prefix_mask`. -/
def checkedPrefixMask (prefixLen : UInt8) : Option UInt32 :=
  if prefixLen = 0 then some 0
  else if prefixLen = 32 then some 0xffffffff
  else do
    let shift ← checkedSub 32 prefixLen
    checkedShl 0xffffffff shift

/-- A disjunction of the source: what stands behind a condition that holds is not evaluated. -/
def checkedAny : List (Option Bool) → Option Bool
  | [] => some false
  | condition :: conditions => do if ← condition then some true else checkedAny conditions

/-- `Ipv4Prefix::contains`. -/
def Ipv4Prefix.checkedContains (p : Ipv4Prefix) (address : UInt32) : Option Bool := do
  let mask ← checkedPrefixMask p.prefixLen
  return address &&& mask == p.network

/-- `Ipv4Prefix::overlaps`. -/
def Ipv4Prefix.checkedOverlaps (p q : Ipv4Prefix) : Option Bool :=
  checkedAny [p.checkedContains q.network, q.checkedContains p.network]

/-- `has_prefix_overlap`: every range is computed before the first two are compared. -/
def checkedPrefixOverlap (prefixes : List Ipv4Prefix) : Option Bool := do
  let ranges ← prefixes.mapM fun p => do
    let mask ← checkedPrefixMask p.prefixLen
    return (p.network.toNat, (p.network ||| ~~~ mask).toNat)
  return hasPrefixOverlap.sweep
    (ranges.insertionSort (fun a b => a.1 < b.1 ∨ (a.1 = b.1 ∧ a.2 ≤ b.2))) none

/-- A validation that can also leave the range of its machine integers (`none`). -/
abbrev Machine (α : Type) := ExceptT NetdProtocolError Option α

/-- A check without arithmetic. -/
def Machine.ofExcept {α : Type} (result : Except NetdProtocolError α) : Machine α :=
  ExceptT.mk (some result)

/-- `Ipv4Prefix::new`. -/
def Ipv4Prefix.checkedNew (network : UInt32) (prefixLen : UInt8) : Machine Ipv4Prefix := do
  Machine.ofExcept (refuseIf (decide (32 < prefixLen)) .invalidDeclaration)
  let mask ← ExceptT.lift (checkedPrefixMask prefixLen)
  Machine.ofExcept (refuseIf (network &&& ~~~ mask != 0) .invalidDeclaration)
  return { network, prefixLen }

namespace PrepareDeclaration

/-- The first condition under which `PrepareDeclaration::validate` refuses. -/
def outOfBounds (d : PrepareDeclaration) : Bool :=
  decide (¬ (candyTableMin ≤ d.tableId.toNat ∧ d.tableId.toNat ≤ candyTableMax))
    || decide (¬ (576 ≤ d.effectiveMtu ∧ d.effectiveMtu ≤ 1400))
    || d.routes.isEmpty
    || decide (d.routes.length > maxRoutes)
    || d.exclusions.isEmpty
    || decide (d.exclusions.length > maxExclusions)

/-- The conditions on the order and the lengths of the prefixes, which compute no mask. -/
def misordered (d : PrepareDeclaration) : Bool :=
  !strictlySortedBy (fun r => r.ipv4Prefix.rank * 8 + r.kind.code) d.routes
    || !strictlySortedBy (fun e => e.ipv4Prefix.rank * 8 + e.kind.code) d.exclusions
    || d.routes.any (fun r => r.ipv4Prefix.prefixLen == 0 && r.kind != .remoteEgress)
    || d.exclusions.any (fun e => e.ipv4Prefix.prefixLen == 0)

/-- The prefixes of the routes outside the remote egress. -/
def siteRoutes (d : PrepareDeclaration) : List Ipv4Prefix :=
  (d.routes.filter (·.kind != .remoteEgress)).map (·.ipv4Prefix)

/-- `PrepareDeclaration::validate`. -/
def checkedValidate (d : PrepareDeclaration) : Machine Unit := do
  Machine.ofExcept (refuseIf d.outOfBounds .invalidDeclaration)
  let refused ← ExceptT.lift (checkedAny [
    some d.misordered,
    checkedPrefixOverlap d.siteRoutes,
    checkedPrefixOverlap (d.exclusions.map (·.ipv4Prefix)),
    checkedAny (d.siteRoutes.map fun p =>
      checkedAny (d.exclusions.map fun e => p.checkedOverlaps e.ipv4Prefix)),
    checkedAny (d.siteRoutes.map fun p => p.checkedContains d.overlayRouterIpv4),
    checkedAny (d.exclusions.map fun e => e.ipv4Prefix.checkedContains d.overlayRouterIpv4),
    some (d.overlayRouterIpv4 == 0),
    some (decide ((224 : UInt32) ≤ d.overlayRouterIpv4 >>> 24))])
  Machine.ofExcept (refuseIf refused .invalidDeclaration)

/-- The validation reaches a mask of more than 32 bits: one of a route outside the remote egress,
or one of an exclusion when these routes do not overlap. -/
def Underflows (d : PrepareDeclaration) : Prop :=
  d.outOfBounds = false ∧ d.misordered = false
    ∧ ((∃ p ∈ d.siteRoutes, 32 < p.prefixLen)
      ∨ (hasPrefixOverlap d.siteRoutes = false ∧ ∃ e ∈ d.exclusions, 32 < e.ipv4Prefix.prefixLen))

instance (d : PrepareDeclaration) : Decidable d.Underflows := by
  unfold Underflows
  infer_instance

end PrepareDeclaration

end CandyRuntime.NetdProto

namespace CandyRuntime.NetdV2

open NetdProto

/-! ## Requests -/

/-- The loop of `Ipv4Prefix::new` over the prefixes of a declaration. -/
def checkedPrefixes : List Ipv4Prefix → Machine Unit
  | [] => return ()
  | p :: prefixes => do
    let _ ← Ipv4Prefix.checkedNew p.network p.prefixLen
    checkedPrefixes prefixes

/-- The loop over the failed prefixes; `unique` are those that were seen. -/
def checkedUnique (unique : List Ipv4Prefix) : List Ipv4Prefix → Machine Unit
  | [] => return ()
  | p :: prefixes => do
    let _ ← Ipv4Prefix.checkedNew p.network p.prefixLen
    Machine.ofExcept (refuseIf (decide (p ∈ unique)) .invalidDeclaration)
    checkedUnique (p :: unique) prefixes

/-- A declaration of a request: its own checks, and then every prefix. -/
def checkedDeclaration (d : PrepareDeclaration) : Machine Unit := do
  d.checkedValidate
  checkedPrefixes (d.routes.map (·.ipv4Prefix) ++ d.exclusions.map (·.ipv4Prefix))

/-- The checks `Request::validate` makes on the operation itself. -/
def Operation.checkedValidate : Operation → Machine Unit
  | .inDomain domainId infraId operation => do
    Machine.ofExcept (refuseIf (domainId == InstanceId.zero || infraId == InstanceId.zero
      || match operation with
        | .inDomain .. => true
        | _ => false) .invalidRequest)
    operation.checkedValidate
  | .forwardPrepare infraId infraGeneration owner declaration => do
    Machine.ofExcept (refuseIf (infraId == InstanceId.zero || infraGeneration == 0)
      .invalidRequest)
    Machine.ofExcept owner.validate
    checkedDeclaration declaration
  | .forwardPolicyUpdate owner policyRevision policyGeneration hash declaration => do
    Machine.ofExcept owner.validate
    Machine.ofExcept (refuseIf (policyRevision == 0 || policyGeneration == 0 || !isHex hash 64)
      .invalidDeclaration)
    checkedDeclaration declaration
  | .forwardFailedPrefixes owner failureRevision failedPrefixes => do
    Machine.ofExcept owner.validate
    Machine.ofExcept (refuseIf (failureRevision == 0
      || decide (maxRoutes < failedPrefixes.length)) .invalidDeclaration)
    checkedUnique [] failedPrefixes
  | operation => Machine.ofExcept operation.validate

/-- `Request::validate`. -/
def Request.checkedValidate (r : Request) : Machine Unit := do
  Machine.ofExcept (refuseIf (r.requestId == 0 || r.callerInstanceId == InstanceId.zero
    || r.callerPid == 0) .invalidRequest)
  r.operation.checkedValidate

/-- The declaration that an operation carries. -/
def Operation.declaration : Operation → Option PrepareDeclaration
  | .inDomain _ _ operation => operation.declaration
  | .forwardPrepare _ _ _ declaration => some declaration
  | .forwardPolicyUpdate _ _ _ _ declaration => some declaration
  | _ => none

/-- The checks that stand in front of the declaration of an operation hold. -/
def Operation.Reaches : Operation → Prop
  | .inDomain domainId infraId operation =>
    domainId ≠ InstanceId.zero ∧ infraId ≠ InstanceId.zero
      ∧ (∀ domainId' infraId' operation', operation ≠ .inDomain domainId' infraId' operation')
      ∧ operation.Reaches
  | .forwardPrepare infraId infraGeneration owner _ =>
    infraId ≠ InstanceId.zero ∧ infraGeneration ≠ 0 ∧ owner.validate = .ok ()
  | .forwardPolicyUpdate owner policyRevision policyGeneration hash _ =>
    owner.validate = .ok () ∧ policyRevision ≠ 0 ∧ policyGeneration ≠ 0 ∧ isHex hash 64 = true
  | _ => False

/-- The validation of a request computes a mask of more than 32 bits. -/
def Request.Underflows (r : Request) : Prop :=
  r.requestId ≠ 0 ∧ r.callerInstanceId ≠ InstanceId.zero ∧ r.callerPid ≠ 0
    ∧ r.operation.Reaches ∧ ∃ d, r.operation.declaration = some d ∧ d.Underflows

/-- The validation stays inside its machine integers, and accepts only canonical prefixes. -/
def Request.SafelyValidated (r : Request) : Prop :=
  ∃ result, r.checkedValidate.run = some result
    ∧ (result = .ok () → ∀ d, r.operation.declaration = some d →
      ∀ p ∈ d.routes.map (·.ipv4Prefix) ++ d.exclusions.map (·.ipv4Prefix),
        p.Canonical ∧ p.prefixLen ≤ 32)

end CandyRuntime.NetdV2
