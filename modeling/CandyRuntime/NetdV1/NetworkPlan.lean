import CandyRuntime.NetdV1.Transaction
import Mathlib.Data.List.MinMax

/-!
# The network plan of a declaration

`LinuxNetworkPlan` is what the backend installs for a declaration: the prefixes that go into the
tunnel, the prefixes that the table throws back to the main table, and the selectors of the policy
rules. The routing table a plan describes is looked up by the longest prefix, as the kernel does.
-/

namespace CandyRuntime.NetdV1

open NetdProto

/-! ## Plans -/

def candyPolicyPriorityMin : UInt32 := 20000

/-- `LinuxNetworkPlan`. -/
structure LinuxNetworkPlan where
  routeTable : UInt32
  policyPriority : UInt32
  localPrefixes : List Ipv4Prefix
  remoteRoutes : List Ipv4Prefix
  remoteEgressGatewayRoutes : List Ipv4Prefix
  exclusions : List UnderlayExclusion
  nftTableName : String
  routeMtu : UInt16
  tcpAdvmss : UInt16
  remoteEgress : Bool
deriving DecidableEq, Repr

/-- The prefixes of the routes of the given kinds, in the order of the declaration. -/
def routesOfKind (kinds : List RouteKind) (routes : List RouteDeclaration) : List Ipv4Prefix :=
  (routes.filter (fun r => r.kind ∈ kinds)).map (·.ipv4Prefix)

namespace LinuxNetworkPlan

/-- `LinuxNetworkPlan::compile_fields`. The table of a declaration is at least `CANDY_TABLE_MIN`
where it is called, and the MTU is at least 576. -/
def compileFields (d : PrepareDeclaration) : Except NetworkError LinuxNetworkPlan :=
  if d.tableId.toNat - candyTableMin + candyPolicyPriorityMin.toNat ≥ 2 ^ 32 then .error .backend
  else if d.effectiveMtu < 40 then .error .backend
  else .ok {
    routeTable := d.tableId
    policyPriority := candyPolicyPriorityMin + (d.tableId - 20000)
    localPrefixes := routesOfKind [.localSite] d.routes
    remoteRoutes := routesOfKind [.remote, .remoteEgress, .remoteEgressGateway] d.routes
    remoteEgressGatewayRoutes := routesOfKind [.remoteEgressGateway] d.routes
    exclusions := d.exclusions
    nftTableName := "candy_sdwan_" ++ toString d.tableId.toNat
    routeMtu := d.effectiveMtu
    tcpAdvmss := d.effectiveMtu - 40
    remoteEgress := d.routes.any (fun r => r.kind ∈ [.remoteEgress, .remoteEgressGateway]) }

/-- `LinuxNetworkPlan::compile`. -/
def compile (d : PrepareDeclaration) : Except NetworkError LinuxNetworkPlan :=
  match d.validate with
  | .error _ => .error .backend
  | .ok () => compileFields d

/-- `LinuxNetworkPlan::compile_for_cleanup`: a declaration that is not valid any more can still be
cleaned up. -/
def compileForCleanup (d : PrepareDeclaration) : Except NetworkError LinuxNetworkPlan :=
  if ¬ (candyTableMin ≤ d.tableId.toNat ∧ d.tableId.toNat ≤ candyTableMax)
      ∨ ¬ (576 ≤ d.effectiveMtu ∧ d.effectiveMtu ≤ 1400) then .error .backend
  else compileFields d

/-- `LinuxNetworkPlan::throw_prefixes`. -/
def throwPrefixes (plan : LinuxNetworkPlan) : List Ipv4Prefix :=
  sortDedup (plan.localPrefixes ++ plan.exclusions.map (·.ipv4Prefix))

/-- `LinuxNetworkPlan::cleanup_throw_prefixes`. -/
def cleanupThrowPrefixes (plan : LinuxNetworkPlan) : List Ipv4Prefix :=
  sortDedup (plan.throwPrefixes ++ plan.remoteRoutes)

/-- `LinuxNetworkPlan::policy_selectors`. -/
def policySelectors (plan : LinuxNetworkPlan) : List (Option Ipv4Prefix × Ipv4Prefix) :=
  plan.remoteRoutes.flatMap fun destination =>
    if destination ∈ plan.remoteEgressGatewayRoutes ∨ plan.localPrefixes = [] then
      [(none, destination)]
    else plan.localPrefixes.map fun source => (some source, destination)

end LinuxNetworkPlan

/-! ## The table of a plan -/

/-- What a route of the table does with a packet: into the tunnel, or back to the main table. -/
inductive RouteAction where
  | unicast
  | throw
deriving DecidableEq, Repr

/-- A route of the table. -/
structure TableRoute where
  ipv4Prefix : Ipv4Prefix
  action : RouteAction
deriving DecidableEq, Repr

/-- The table the plan describes; of two routes with one prefix the throw route stays. -/
def LinuxNetworkPlan.table (plan : LinuxNetworkPlan) : List TableRoute :=
  plan.throwPrefixes.map (fun p => { ipv4Prefix := p, action := .throw })
    ++ (plan.remoteRoutes.filter (fun p => p ∉ plan.throwPrefixes)).map
      (fun p => { ipv4Prefix := p, action := .unicast })

/-- The longest prefix of the table that contains the address. -/
def longestMatch (table : List TableRoute) (address : UInt32) : Option TableRoute :=
  (table.filter (fun route => route.ipv4Prefix.contains address)).argmax
    (fun route => route.ipv4Prefix.prefixLen.toNat)

/-- The table sends the address back to the main table. -/
def Bypasses (table : List TableRoute) (address : UInt32) : Prop :=
  (longestMatch table address).map (·.action) = some .throw

instance (table : List TableRoute) (address : UInt32) : Decidable (Bypasses table address) :=
  inferInstanceAs (Decidable (_ = _))

/-! ## Membership -/

theorem mem_routesOfKind {kinds : List RouteKind} {routes : List RouteDeclaration}
    {p : Ipv4Prefix} :
    p ∈ routesOfKind kinds routes ↔ ∃ r ∈ routes, r.kind ∈ kinds ∧ r.ipv4Prefix = p := by
  simp [routesOfKind, and_assoc]

theorem mem_destutter_ne {α : Type} [DecidableEq α] {a : α} (values : List α) :
    a ∈ values.destutter (· ≠ ·) ↔ a ∈ values := by
  cases values with
  | nil => simp
  | cons b values =>
    rw [List.destutter_cons']
    -- The value kept last is `b`, and it stands for its copies.
    induction values generalizing b with
    | nil => simp
    | cons c values ih =>
      by_cases hbc : b = c
      · rw [List.destutter'_cons_neg _ (by simpa using hbc), ih, hbc]
        simp
      · rw [List.destutter'_cons_pos _ hbc, List.mem_cons, ih, List.mem_cons (a := a) (b := b)]

@[simp] theorem mem_sortDedup {prefixes : List Ipv4Prefix} {p : Ipv4Prefix} :
    p ∈ sortDedup prefixes ↔ p ∈ prefixes := by
  rw [sortDedup, mem_destutter_ne, List.mem_insertionSort]

namespace LinuxNetworkPlan

/-- A plan that was compiled is the plan of a valid declaration. -/
theorem compile_eq_ok_iff {d : PrepareDeclaration} {plan : LinuxNetworkPlan} :
    compile d = .ok plan ↔ d.validate = .ok () ∧ compileFields d = .ok plan := by
  unfold compile
  cases d.validate <;> simp

/-- The fields of a plan that the routes and exclusions of its declaration give. -/
theorem of_compileFields {d : PrepareDeclaration} {plan : LinuxNetworkPlan}
    (h : compileFields d = .ok plan) :
    plan.routeTable = d.tableId
      ∧ plan.localPrefixes = routesOfKind [.localSite] d.routes
      ∧ plan.remoteRoutes = routesOfKind [.remote, .remoteEgress, .remoteEgressGateway] d.routes
      ∧ plan.exclusions = d.exclusions := by
  unfold compileFields at h
  split_ifs at h
  rw [← Except.ok.inj h]
  exact ⟨rfl, rfl, rfl, rfl⟩

theorem mem_table {plan : LinuxNetworkPlan} {route : TableRoute} :
    route ∈ plan.table ↔
      (route.action = .throw ∧ route.ipv4Prefix ∈ plan.throwPrefixes)
      ∨ (route.action = .unicast ∧ route.ipv4Prefix ∈ plan.remoteRoutes
        ∧ route.ipv4Prefix ∉ plan.throwPrefixes) := by
  obtain ⟨p, action⟩ := route
  unfold table
  rw [List.mem_append, List.mem_map, List.mem_map]
  cases action <;> simp

end LinuxNetworkPlan

end CandyRuntime.NetdV1
