import CandyRuntime.NetdV1.NetworkPlan
import Mathlib.Data.Finmap
import Mathlib.Data.Finset.Basic

/-!
# What the v1 backend does to the kernel

`LinuxNetworkBackend` over the four things it shares with the host: the routes of a table, the
policy rules that lead to it, its nftables table, and the accept rules it puts into the
`DOCKER-USER` chain when there is one. `Kernel.perform` says what each call of the transaction's
log does to them, or that the call cannot return.

The routes of a table are a map from the prefix to the kind of the route: the kernel keeps one
route for each prefix of one priority, whatever its kind. The link itself is not kept. A call that
needs it fails without it, and the routes into the tunnel go when it goes.
-/

namespace CandyRuntime.NetdV1

open NetdProto

/-! ## Routes -/

/-- The routes of one table. -/
abbrev RoutingTable := Finmap fun _ : Ipv4Prefix => RouteAction

namespace RoutingTable

/-- `RTM_NEWROUTE` with `NLM_F_EXCL`: `EEXIST` counts as success. -/
def add (action : RouteAction) (table : RoutingTable) (p : Ipv4Prefix) : RoutingTable :=
  if p ∈ table then table else table.insert p action

/-- `RTM_NEWROUTE` with `NLM_F_REPLACE`. -/
def replace (action : RouteAction) (table : RoutingTable) (p : Ipv4Prefix) : RoutingTable :=
  table.insert p action

/-- `RTM_DELROUTE` of a route as it was listed; a route that is not there any more is no error. -/
def del (table : RoutingTable) (route : TableRoute) : RoutingTable :=
  if table.lookup route.ipv4Prefix = some route.action then table.erase route.ipv4Prefix
  else table

/-- The routes of the table that have one of the prefixes. -/
def list (table : RoutingTable) (prefixes : List Ipv4Prefix) : List TableRoute :=
  prefixes.filterMap fun p =>
    (table.lookup p).map fun action => { ipv4Prefix := p, action := action }

/-- `add_routes`. -/
def addRoutes (plan : LinuxNetworkPlan) (table : RoutingTable) : RoutingTable :=
  plan.throwPrefixes.foldl (add .throw) (plan.remoteRoutes.foldl (add .unicast) table)

/-- `reconcile_routes`. Routes whose prefix the plan does not know are passed over. -/
def reconcileRoutes (plan : LinuxNetworkPlan) (failed : List Ipv4Prefix) (table : RoutingTable) :
    RoutingTable :=
  let healthyRemote := plan.remoteRoutes.filter (· ∉ failed)
  let expectedThrow := plan.throwPrefixes ++ failed
  let routes := table.list (healthyRemote ++ expectedThrow)
  let presentHealthy := (routes.filter fun r =>
    r.ipv4Prefix ∈ healthyRemote ∧ r.action = .unicast).map (·.ipv4Prefix)
  let presentThrow := (routes.filter fun r =>
    r.ipv4Prefix ∉ healthyRemote ∧ r.action = .throw).map (·.ipv4Prefix)
  let staleOwned := routes.filter fun r =>
    if r.ipv4Prefix ∈ healthyRemote then r.action ≠ .unicast else r.action ≠ .throw
  let replacedHealthy := healthyRemote.filter (· ∉ presentHealthy)
  let replacedThrow := expectedThrow.filter (· ∉ presentThrow)
  let deleted := staleOwned.filter fun r =>
    ¬ (r.action = .unicast ∧ r.ipv4Prefix ∈ replacedHealthy
      ∨ r.action = .throw ∧ r.ipv4Prefix ∈ replacedThrow)
  deleted.foldl del (replacedThrow.foldl (replace .throw)
    (replacedHealthy.foldl (replace .unicast) table))

/-- `delete_routes`. -/
def deleteRoutes (plan : LinuxNetworkPlan) (table : RoutingTable) : RoutingTable :=
  let unicast := plan.remoteRoutes.map fun p => TableRoute.mk p .unicast
  let throw := plan.cleanupThrowPrefixes.map fun p => TableRoute.mk p .throw
  throw.foldl del (unicast.foldl del table)

/-- `is_owned_residual_route`. -/
def isOwnedResidualRoute (plan : LinuxNetworkPlan) (p : Ipv4Prefix) : RouteAction → Bool
  | .throw => p ∈ plan.cleanupThrowPrefixes
  | .unicast => p ∈ plan.remoteRoutes

/-- `route_conflict`. -/
def routeConflict (plan : LinuxNetworkPlan) (table : RoutingTable) : Bool :=
  decide (∃ p ∈ table.keys, ¬ (table.lookup p).any (isOwnedResidualRoute plan p))

/-- The routes that are left when the link goes down. -/
def withoutLink (table : RoutingTable) : RoutingTable where
  entries := table.entries.filter fun route => route.2 = .throw
  nodupKeys := by
    rw [← Multiset.nodup_keys]
    exact Multiset.nodup_of_le (Multiset.map_le_map (Multiset.filter_le _ _))
      (Multiset.nodup_keys.mpr table.nodupKeys)

end RoutingTable

/-! ## Rules and the firewall -/

/-- What a policy rule selects: a source, if any, and a destination. -/
abbrev Selector := Option Ipv4Prefix × Ipv4Prefix

/-- `reconcile_policy_rules`. -/
def reconcilePolicyRules (plan : LinuxNetworkPlan) (rules : Finset Selector) : Finset Selector :=
  let expected := plan.policySelectors.toFinset
  let present := rules.filter (· ∈ expected)
  let stale := rules.filter (· ∉ expected)
  (rules ∪ (expected \ present)) \ stale

/-- The nftables table of a plan, as `append_firewall_rules` builds it: besides the two accept
rules of the interface, the MSS clamp, the local networks that keep their addresses, and the
masquerade of remote egress. -/
structure Firewall where
  clampTcpMss : Bool
  identitySnat : List Ipv4Prefix
  masquerade : Bool
deriving DecidableEq, Repr

def appendFirewallRules (plan : LinuxNetworkPlan) (clampTcpMss : Bool) : Firewall :=
  { clampTcpMss, identitySnat := plan.localPrefixes, masquerade := plan.remoteEgress }

/-- Whether the `DOCKER-USER` chain accepts what comes from the interface (`-i`) and what goes to
it (`-o`). The rules name the interface only, so every declaration shares them. -/
structure DockerUser where
  acceptsIn : Bool
  acceptsOut : Bool
deriving DecidableEq, Repr

/-- `stage_docker_forward_compatibility`: each rule is inserted unless it is there. -/
def stageDockerForwardCompatibility (chain : DockerUser) : DockerUser :=
  { acceptsIn := if chain.acceptsIn then chain.acceptsIn else true
    acceptsOut := if chain.acceptsOut then chain.acceptsOut else true }

/-- `remove_docker_forward_compatibility`: each rule is deleted for as long as it is there. -/
def removeDockerForwardCompatibility (chain : DockerUser) : DockerUser :=
  { acceptsIn := if chain.acceptsIn then false else chain.acceptsIn
    acceptsOut := if chain.acceptsOut then false else chain.acceptsOut }

/-! ## The kernel -/

/-- The part of the host the backend works on; tables go by their identifier. -/
structure Kernel where
  routes : UInt32 → RoutingTable
  rules : UInt32 → Finset Selector
  firewall : UInt32 → Option Firewall
  dockerUser : Option DockerUser

namespace Kernel

/-- A host on which nothing was installed. -/
def bare : Kernel :=
  { routes := fun _ => ∅, rules := fun _ => ∅, firewall := fun _ => none, dockerUser := none }

def setRoutes (K : Kernel) (table : UInt32) (routes : RoutingTable) : Kernel :=
  { K with routes := Function.update K.routes table routes }

def setRules (K : Kernel) (table : UInt32) (rules : Finset Selector) : Kernel :=
  { K with rules := Function.update K.rules table rules }

def setFirewall (K : Kernel) (table : UInt32) (firewall : Option Firewall) : Kernel :=
  { K with firewall := Function.update K.firewall table firewall }

/-- The end of `stage_firewall` and of `replace_firewall`. -/
def writeFirewall (K : Kernel) (plan : LinuxNetworkPlan) (clampTcpMss : Bool) : Kernel :=
  { K.setFirewall plan.routeTable (some (appendFirewallRules plan clampTcpMss)) with
    dockerUser := K.dockerUser.map stageDockerForwardCompatibility }

/-- The declaration with the routes of some prefixes alone. -/
abbrev scopedTo (d : PrepareDeclaration) (prefixes : List Ipv4Prefix) : PrepareDeclaration :=
  { d with routes := d.routes.filter (·.ipv4Prefix ∈ prefixes) }

/-- What a call of the backend leaves when it returns, or the error it cannot avoid. -/
def perform (K : Kernel) : BackendCall → Except NetworkError Kernel
  | .preflight d => do
    let plan ← LinuxNetworkPlan.compile d
    refuseIf (K.firewall plan.routeTable).isSome .backend
    refuseIf (decide (K.rules plan.routeTable ≠ ∅)
      || (K.routes plan.routeTable).routeConflict plan) .backend
    return K
  | .prepareLink d => do
    let _ ← LinuxNetworkPlan.compile d
    return K
  | .prepareRoutes d => do
    let plan ← LinuxNetworkPlan.compile d
    return K.setRoutes plan.routeTable ((K.routes plan.routeTable).addRoutes plan)
  | .reconcileRoutes d failedPrefixes => do
    let plan ← LinuxNetworkPlan.compile d
    return K.setRoutes plan.routeTable
      ((K.routes plan.routeTable).reconcileRoutes plan failedPrefixes)
  | .prepareFirewall d => do
    let plan ← LinuxNetworkPlan.compile d
    refuseIf (!d.firewall.allowForward) .backend
    refuseIf (K.firewall plan.routeTable).isSome .backend
    return K.writeFirewall plan d.firewall.clampTcpMss
  | .replaceFirewall _ d => do
    let plan ← LinuxNetworkPlan.compile d
    refuseIf (!d.firewall.allowForward) .backend
    refuseIf (K.firewall plan.routeTable).isNone .backend
    return K.writeFirewall plan d.firewall.clampTcpMss
  | .installPolicyRule d => do
    let plan ← LinuxNetworkPlan.compile d
    return K.setRules plan.routeTable (reconcilePolicyRules plan (K.rules plan.routeTable))
  | .removePolicyRule d => do
    let plan ← LinuxNetworkPlan.compileForCleanup d
    return K.setRules plan.routeTable ∅
  | .removeFirewall d => do
    let plan ← LinuxNetworkPlan.compileForCleanup d
    return { K.setFirewall plan.routeTable none with
      dockerUser := K.dockerUser.map removeDockerForwardCompatibility }
  | .removeRoutes d => do
    let plan ← LinuxNetworkPlan.compileForCleanup d
    return K.setRoutes plan.routeTable ((K.routes plan.routeTable).deleteRoutes plan)
  | .deactivateLink _ | .removeLink _ =>
    return { K with routes := fun table => (K.routes table).withoutLink }
  | .activateLink _ | .updateLinkMtu .. | .prepareSysctls .. | .restoreSysctls .. => return K

/-- `withdraw_prefixes`: it deletes the routes of the declaration that is scoped to the prefixes, the
throw routes of all its exclusions among them, and then throws the prefixes. -/
def withdrawPrefixes (K : Kernel) (d : PrepareDeclaration) (prefixes : List Ipv4Prefix) :
    Except NetworkError Kernel :=
  if (scopedTo d prefixes).routes = [] then return K
  else do
    let plan ← LinuxNetworkPlan.compile (scopedTo d prefixes)
    return K.setRoutes plan.routeTable (prefixes.foldl (RoutingTable.add .throw)
      ((K.routes plan.routeTable).deleteRoutes plan))

/-- What a log of calls, newest first, leaves of the kernel they found. -/
def after (K : Kernel) : List (BackendCall × Bool) → Except NetworkError Kernel
  | [] => .ok K
  | (c, applied) :: older => do
    let before ← K.after older
    if applied then before.perform c else return before

end Kernel

end CandyRuntime.NetdV1
