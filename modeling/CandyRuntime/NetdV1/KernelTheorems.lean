import CandyRuntime.Lib.Success
import CandyRuntime.NetdV1.BypassTheorems
import CandyRuntime.NetdV1.Kernel
import CandyRuntime.NetdV1.Runs

/-!
# What the backend's loops come to

One lemma for each loop of the backend, about the table it leaves.

* `lookup_addRoutes` : a route that is there stays as it is, and a prefix that is both remote and
  kept out gets the route into the tunnel.
* `lookup_reconcileRoutes` : every prefix of the plan gets its route, and the throw route wins. A
  prefix the plan does not know keeps what it had.
* `lookup_deleteRoutes` : the routes of the plan's prefixes go.
* `reconcilePolicyRules_eq` : the rules are those of the plan, whatever they were.
-/

namespace CandyRuntime.NetdV1

open Lib Lib.Proc NetdProto

namespace RoutingTable

variable {table : RoutingTable} {plan : LinuxNetworkPlan} {action : RouteAction} {p q : Ipv4Prefix}

/-! ## Single routes -/

/-- A route that is there is not overwritten by `add`. -/
theorem lookup_add : (add action table q).lookup p
    = (table.lookup p).or (if p = q then some action else none) := by
  unfold add
  by_cases hmem : q ∈ table
  · rw [if_pos hmem]
    by_cases hpq : p = q
    · obtain ⟨found, hfound⟩ := Finmap.mem_iff.mp hmem
      rw [hpq, hfound, Option.some_or]
    · rw [if_neg hpq, Option.or_none]
  · rw [if_neg hmem]
    by_cases hpq : p = q
    · rw [hpq, Finmap.lookup_insert, Finmap.lookup_eq_none.mpr hmem, if_pos rfl, Option.none_or]
    · rw [Finmap.lookup_insert_of_ne _ hpq, if_neg hpq, Option.or_none]

/-- It is overwritten by `replace`. -/
theorem lookup_replace : (replace action table q).lookup p
    = if p = q then some action else table.lookup p := by
  unfold replace
  by_cases hpq : p = q
  · rw [hpq, Finmap.lookup_insert, if_pos rfl]
  · rw [Finmap.lookup_insert_of_ne _ hpq, if_neg hpq]

/-- Only a route of the same kind is deleted. -/
theorem lookup_del {route : TableRoute} : (del table route).lookup p
    = if p = route.ipv4Prefix ∧ table.lookup p = some route.action then none
      else table.lookup p := by
  unfold del
  by_cases hpq : p = route.ipv4Prefix
  · rw [← hpq]
    simp only [true_and]
    split_ifs
    · rw [Finmap.lookup_erase]
    · rfl
  · simp only [hpq, false_and, if_false]
    split_ifs
    · rw [Finmap.lookup_erase_ne hpq]
    · rfl

/-! ## Loops -/

/-- Adding a list one by one. -/
theorem lookup_foldl_add (prefixes : List Ipv4Prefix) :
    (prefixes.foldl (add action) table).lookup p
      = (table.lookup p).or (if p ∈ prefixes then some action else none) := by
  induction prefixes generalizing table with
  | nil => simp
  | cons q prefixes ih =>
    rw [List.foldl_cons, ih, lookup_add, Option.or_assoc]
    congr 1
    by_cases hpq : p = q
    · simp [hpq]
    · simp [hpq]

/-- Replacing a list one by one. -/
theorem lookup_foldl_replace (prefixes : List Ipv4Prefix) :
    (prefixes.foldl (replace action) table).lookup p
      = if p ∈ prefixes then some action else table.lookup p := by
  induction prefixes generalizing table with
  | nil => simp
  | cons q prefixes ih =>
    rw [List.foldl_cons, ih, lookup_replace]
    by_cases hpq : p = q
    · simp [hpq]
    · simp [hpq]

/-- A route is gone once a route of its prefix and kind was deleted. -/
theorem lookup_foldl_del (routes : List TableRoute) :
    (routes.foldl del table).lookup p
      = if ∃ route ∈ routes, p = route.ipv4Prefix ∧ table.lookup p = some route.action then none
        else table.lookup p := by
  induction routes generalizing table with
  | nil => simp
  | cons route routes ih =>
    rw [List.foldl_cons, ih, lookup_del]
    by_cases hroute : p = route.ipv4Prefix ∧ table.lookup p = some route.action
    · simp only [if_pos hroute, ite_self, List.mem_cons, exists_eq_or_imp]
      simp [hroute]
    · simp only [List.mem_cons, exists_eq_or_imp, hroute, false_or, if_false]

/-- The deletion of one kind. -/
theorem lookup_foldl_del_kind (prefixes : List Ipv4Prefix) :
    ((prefixes.map fun q => TableRoute.mk q action).foldl del table).lookup p
      = if table.lookup p = some action ∧ p ∈ prefixes then none else table.lookup p := by
  rw [lookup_foldl_del]
  simp only [List.mem_map, exists_exists_and_eq_and]
  congr 1
  grind

/-- A route is a prefix and an action. -/
theorem exists_route {P : TableRoute → Prop} :
    (∃ route, P route) ↔ ∃ q found, P { ipv4Prefix := q, action := found } :=
  ⟨fun ⟨⟨q, found⟩, h⟩ => ⟨q, found, h⟩, fun ⟨q, found, h⟩ => ⟨⟨q, found⟩, h⟩⟩

/-- What a listing of the table shows. -/
theorem mem_list {prefixes : List Ipv4Prefix} {route : TableRoute} :
    route ∈ table.list prefixes
      ↔ route.ipv4Prefix ∈ prefixes ∧ table.lookup route.ipv4Prefix = some route.action := by
  obtain ⟨q, found⟩ := route
  simp only [list, List.mem_filterMap, Option.map_eq_some_iff]
  constructor
  · rintro ⟨p, hp, action, haction, hroute⟩
    cases hroute
    exact ⟨hp, haction⟩
  · rintro ⟨hq, hfound⟩
    exact ⟨q, hq, found, hfound, rfl⟩

/-! ## The calls -/

/-- The table after the routes of a plan were added. -/
theorem lookup_addRoutes : (addRoutes plan table).lookup p
    = (table.lookup p).or (if p ∈ plan.remoteRoutes then some .unicast
        else if p ∈ plan.throwPrefixes then some .throw else none) := by
  unfold addRoutes
  rw [lookup_foldl_add, lookup_foldl_add, Option.or_assoc]
  congr 1
  split_ifs <;> rfl

/-- The routes that `reconcile_routes` has replaced are as they should be, and what it deletes
afterwards is of another kind. -/
theorem lookup_reconcileRoutes {failed : List Ipv4Prefix} :
    (reconcileRoutes plan failed table).lookup p
      = if p ∈ plan.throwPrefixes ∨ p ∈ failed then some .throw
        else if p ∈ plan.remoteRoutes then some .unicast
        else table.lookup p := by
  unfold reconcileRoutes
  extract_lets healthyRemote expectedThrow routes presentHealthy presentThrow staleOwned
    replacedHealthy replacedThrow deleted
  have hroutes : ∀ q found, { ipv4Prefix := q, action := found } ∈ routes
      ↔ (q ∈ healthyRemote ∨ q ∈ expectedThrow) ∧ table.lookup q = some found := by
    intro q found
    rw [mem_list, List.mem_append]
  have hreplacedHealthy : p ∈ replacedHealthy
      ↔ p ∈ healthyRemote ∧ table.lookup p ≠ some .unicast := by
    simp only [replacedHealthy, presentHealthy, List.mem_filter, List.mem_map, decide_eq_true_eq,
      exists_route, hroutes]
    grind
  have hreplacedThrow : p ∈ replacedThrow
      ↔ p ∈ expectedThrow ∧ (p ∈ healthyRemote ∨ table.lookup p ≠ some .throw) := by
    simp only [replacedThrow, presentThrow, List.mem_filter, List.mem_map, decide_eq_true_eq,
      exists_route, hroutes]
    grind
  have hhealthy : p ∈ healthyRemote ↔ p ∈ plan.remoteRoutes ∧ p ∉ failed := by
    simp [healthyRemote]
  have hthrow : p ∈ expectedThrow ↔ p ∈ plan.throwPrefixes ∨ p ∈ failed := List.mem_append
  have hdeleted : ∀ found, { ipv4Prefix := p, action := found } ∈ deleted →
      (p ∈ healthyRemote ∧ found = .throw ∧ p ∉ replacedThrow)
      ∨ (p ∉ healthyRemote ∧ p ∈ expectedThrow ∧ found = .unicast) := by
    intro found hfound
    simp only [deleted, staleOwned, List.mem_filter, decide_eq_true_eq, hroutes] at hfound
    obtain ⟨⟨⟨hknown, -⟩, hstale⟩, hkept⟩ := hfound
    cases found with
    | unicast =>
      by_cases hp : p ∈ healthyRemote
      · simp [hp] at hstale
      · exact .inr ⟨hp, hknown.resolve_left hp, rfl⟩
    | throw =>
      by_cases hp : p ∈ healthyRemote
      · exact .inl ⟨hp, rfl, fun h => hkept (.inr ⟨rfl, h⟩)⟩
      · simp [hp] at hstale
  have hreplaced : (replacedThrow.foldl (replace .throw)
      (replacedHealthy.foldl (replace .unicast) table)).lookup p
        = if p ∈ replacedThrow then some .throw
          else if p ∈ replacedHealthy then some .unicast else table.lookup p := by
    rw [lookup_foldl_replace, lookup_foldl_replace]
  clear_value deleted replacedThrow replacedHealthy healthyRemote expectedThrow
  rw [lookup_foldl_del, hreplaced, if_neg]
  · simp only [hreplacedThrow, hreplacedHealthy, hthrow, hhealthy]
    grind
  · -- What is deleted has another kind than what its prefix has now.
    rintro ⟨⟨q, found⟩, hfound, hq, hstill⟩
    cases hq
    have hkind := hdeleted found hfound
    grind

/-- The table after the routes of a plan were deleted. -/
theorem lookup_deleteRoutes : (deleteRoutes plan table).lookup p
    = if table.lookup p = some .unicast ∧ p ∈ plan.remoteRoutes
        ∨ table.lookup p = some .throw ∧ p ∈ plan.cleanupThrowPrefixes then none
      else table.lookup p := by
  unfold deleteRoutes
  simp only [lookup_foldl_del_kind]
  by_cases hunicast : table.lookup p = some .unicast ∧ p ∈ plan.remoteRoutes
  · simp [hunicast]
  · simp [hunicast]

/-- A table without conflict holds routes of the plan's prefixes only. -/
theorem routeConflict_eq_false_iff : routeConflict plan table = false
    ↔ ∀ p action, table.lookup p = some action → isOwnedResidualRoute plan p action = true := by
  unfold routeConflict
  simp only [decide_eq_false_iff_not, not_exists, not_and, not_not, Finmap.mem_keys]
  constructor
  · intro h p action hp
    simpa [hp] using h p (Finmap.mem_of_lookup_eq_some hp)
  · intro h p hp
    obtain ⟨action, haction⟩ := Finmap.mem_iff.mp hp
    simpa [haction] using h p action haction

end RoutingTable

/-- Nothing is left of the earlier rules. -/
theorem reconcilePolicyRules_eq (plan : LinuxNetworkPlan) (rules : Finset Selector) :
    reconcilePolicyRules plan rules = plan.policySelectors.toFinset := by
  unfold reconcilePolicyRules
  ext selector
  simp only [Finset.mem_sdiff, Finset.mem_union, Finset.mem_filter]
  tauto

/-! ## The prefixes of a plan -/

/-- The withdrawable prefixes are those the plan routes into the tunnel. -/
theorem inScope_iff {d : PrepareDeclaration} {plan : LinuxNetworkPlan} {p : Ipv4Prefix}
    (h : LinuxNetworkPlan.compileFields d = .ok plan) :
    inScope d p = true ↔ p ∈ plan.remoteRoutes := by
  have hkind : ∀ kind : RouteKind, withdrawable kind = true ↔ kind ≠ .localSite := by
    intro kind
    cases kind <;> decide
  rw [mem_remoteRoutes h]
  simp only [inScope, List.any_eq_true, Bool.and_eq_true, beq_iff_eq, hkind]
  exact exists_congr fun r => and_congr_right fun _ => and_comm

/-- The plan of the declaration has a route of the prefix. -/
def Covers (d : PrepareDeclaration) (p : Ipv4Prefix) : Prop := inScope d p = true ∨ KeptOut d p

/-- A declaration covers the routes of its plan. -/
theorem covers_iff {d : PrepareDeclaration} {plan : LinuxNetworkPlan} {p : Ipv4Prefix}
    (h : LinuxNetworkPlan.compileFields d = .ok plan) :
    Covers d p ↔ p ∈ plan.remoteRoutes ∨ p ∈ plan.throwPrefixes := by
  rw [Covers, inScope_iff h, mem_throwPrefixes h]

/-- The cleanup removes a throw route for every prefix covered. -/
theorem mem_cleanupThrowPrefixes {d : PrepareDeclaration} {plan : LinuxNetworkPlan} {p : Ipv4Prefix}
    (h : LinuxNetworkPlan.compileFields d = .ok plan) :
    p ∈ plan.cleanupThrowPrefixes ↔ Covers d p := by
  rw [covers_iff h, LinuxNetworkPlan.cleanupThrowPrefixes, mem_sortDedup, List.mem_append,
    or_comm]

/-- The validation changes nothing in the plan. -/
theorem LinuxNetworkPlan.compileFields_of_compile {d : PrepareDeclaration}
    {plan : LinuxNetworkPlan} (h : compile d = .ok plan) : compileFields d = .ok plan :=
  (compile_eq_ok_iff.mp h).2

/-! ## Logs -/

namespace Kernel

variable {K K' : Kernel} {c : BackendCall} {older : List (BackendCall × Bool)}

/-- The last call is performed on what the earlier ones left. -/
theorem after_cons_eq_ok : K.after ((c, true) :: older) = .ok K'
    ↔ ∃ before, K.after older = .ok before ∧ before.perform c = .ok K' := by
  rw [after]
  cases K.after older with
  | error e => simp [Bind.bind, Except.bind]
  | ok before => simp [Bind.bind, Except.bind]

end Kernel

/-! ## Calls that return -/

namespace LinuxNetworkPlan

/-- The table is the one declared. -/
theorem routeTable_of_compile {d : PrepareDeclaration} {plan : LinuxNetworkPlan}
    (h : compile d = .ok plan) : plan.routeTable = d.tableId :=
  (of_compileFields (compile_eq_ok_iff.mp h).2).1

/-- A cleanup uses the same plan. -/
theorem compileFields_of_cleanup {d : PrepareDeclaration} {plan : LinuxNetworkPlan}
    (h : compileForCleanup d = .ok plan) : compileFields d = .ok plan := by
  unfold compileForCleanup at h
  split_ifs at h
  exact h

end LinuxNetworkPlan

namespace Kernel

open LinuxNetworkPlan

variable {K K' : Kernel} {d d' : PrepareDeclaration}

/-- The preflight only looks, and finds nothing of ours. -/
theorem perform_preflight (h : K.perform (.preflight d) = .ok K') :
    K' = K ∧ K.firewall d.tableId = none ∧ K.rules d.tableId = ∅
      ∧ ∃ plan, compile d = .ok plan ∧ (K.routes d.tableId).routeConflict plan = false := by
  obtain ⟨plan, hplan, h⟩ := bind_eq_ok h
  obtain ⟨_, hfirewall, h⟩ := bind_eq_ok h
  obtain ⟨_, hconflict, h⟩ := bind_eq_ok h
  cases h
  rw [refuseIf_eq_ok, routeTable_of_compile hplan] at hfirewall hconflict
  simp only [Bool.or_eq_false_iff, decide_eq_false_iff_not, not_not] at hconflict
  exact ⟨rfl, by simpa using hfirewall, hconflict.1, plan, hplan, hconflict.2⟩

/-- The link is no part of the tables. -/
theorem perform_prepareLink (h : K.perform (.prepareLink d) = .ok K') : K' = K := by
  obtain ⟨plan, -, h⟩ := bind_eq_ok h
  cases h
  rfl

/-- The routes of the plan are added. -/
theorem perform_prepareRoutes (h : K.perform (.prepareRoutes d) = .ok K') :
    ∃ plan, compile d = .ok plan
      ∧ K' = K.setRoutes d.tableId ((K.routes d.tableId).addRoutes plan) := by
  obtain ⟨plan, hplan, h⟩ := bind_eq_ok h
  cases h
  rw [routeTable_of_compile hplan]
  exact ⟨plan, hplan, rfl⟩

/-- The routes are changed in place. -/
theorem perform_reconcileRoutes {failed : List Ipv4Prefix}
    (h : K.perform (.reconcileRoutes d failed) = .ok K') :
    ∃ plan, compile d = .ok plan
      ∧ K' = K.setRoutes d.tableId ((K.routes d.tableId).reconcileRoutes plan failed) := by
  obtain ⟨plan, hplan, h⟩ := bind_eq_ok h
  cases h
  rw [routeTable_of_compile hplan]
  exact ⟨plan, hplan, rfl⟩

/-- The chains of the plan are written. -/
theorem perform_prepareFirewall (h : K.perform (.prepareFirewall d) = .ok K') :
    ∃ plan, compile d = .ok plan ∧ K' = K.writeFirewall plan d.firewall.clampTcpMss := by
  obtain ⟨plan, hplan, h⟩ := bind_eq_ok h
  obtain ⟨_, -, h⟩ := bind_eq_ok h
  obtain ⟨_, -, h⟩ := bind_eq_ok h
  cases h
  exact ⟨plan, hplan, rfl⟩

/-- The old chains do not matter. -/
theorem perform_replaceFirewall (h : K.perform (.replaceFirewall d' d) = .ok K') :
    ∃ plan, compile d = .ok plan ∧ K' = K.writeFirewall plan d.firewall.clampTcpMss := by
  obtain ⟨plan, hplan, h⟩ := bind_eq_ok h
  obtain ⟨_, -, h⟩ := bind_eq_ok h
  obtain ⟨_, -, h⟩ := bind_eq_ok h
  cases h
  exact ⟨plan, hplan, rfl⟩

/-- The rules become those of the plan. -/
theorem perform_installPolicyRule (h : K.perform (.installPolicyRule d) = .ok K') :
    ∃ plan, compile d = .ok plan
      ∧ K' = K.setRules d.tableId plan.policySelectors.toFinset := by
  obtain ⟨plan, hplan, h⟩ := bind_eq_ok h
  rw [reconcilePolicyRules_eq, routeTable_of_compile hplan] at h
  cases h
  exact ⟨plan, hplan, rfl⟩

/-- No rule of the table is left. -/
theorem perform_removePolicyRule (h : K.perform (.removePolicyRule d) = .ok K') :
    K' = K.setRules d.tableId ∅ := by
  obtain ⟨plan, hplan, h⟩ := bind_eq_ok h
  cases h
  rw [(of_compileFields (compileFields_of_cleanup hplan)).1]

/-- The accept rules go with the chains, whoever asked for them. -/
theorem perform_removeFirewall (h : K.perform (.removeFirewall d) = .ok K') :
    K' = { K.setFirewall d.tableId none with
      dockerUser := K.dockerUser.map removeDockerForwardCompatibility } := by
  obtain ⟨plan, hplan, h⟩ := bind_eq_ok h
  cases h
  rw [(of_compileFields (compileFields_of_cleanup hplan)).1]

/-- The routes of the plan are deleted. -/
theorem perform_removeRoutes (h : K.perform (.removeRoutes d) = .ok K') :
    ∃ plan, compileFields d = .ok plan
      ∧ K' = K.setRoutes d.tableId ((K.routes d.tableId).deleteRoutes plan) := by
  obtain ⟨plan, hplan, h⟩ := bind_eq_ok h
  cases h
  rw [(of_compileFields (compileFields_of_cleanup hplan)).1]
  exact ⟨plan, compileFields_of_cleanup hplan, rfl⟩

/-! What a change of one part leaves of the others. -/

variable {table : UInt32} {routes : RoutingTable} {rules : Finset Selector}
  {firewall : Option Firewall} {plan : LinuxNetworkPlan} {clampTcpMss : Bool}

@[simp] theorem setRoutes_routes :
    (K.setRoutes table routes).routes = Function.update K.routes table routes := rfl

@[simp] theorem setRoutes_rules : (K.setRoutes table routes).rules = K.rules := rfl

@[simp] theorem setRoutes_firewall : (K.setRoutes table routes).firewall = K.firewall := rfl

@[simp] theorem setRoutes_dockerUser : (K.setRoutes table routes).dockerUser = K.dockerUser := rfl

@[simp] theorem setRules_routes : (K.setRules table rules).routes = K.routes := rfl

@[simp] theorem setRules_rules :
    (K.setRules table rules).rules = Function.update K.rules table rules := rfl

@[simp] theorem setRules_firewall : (K.setRules table rules).firewall = K.firewall := rfl

@[simp] theorem setRules_dockerUser : (K.setRules table rules).dockerUser = K.dockerUser := rfl

@[simp] theorem setFirewall_routes : (K.setFirewall table firewall).routes = K.routes := rfl

@[simp] theorem setFirewall_rules : (K.setFirewall table firewall).rules = K.rules := rfl

@[simp] theorem setFirewall_firewall :
    (K.setFirewall table firewall).firewall = Function.update K.firewall table firewall := rfl

@[simp] theorem writeFirewall_routes : (K.writeFirewall plan clampTcpMss).routes = K.routes := rfl

@[simp] theorem writeFirewall_rules : (K.writeFirewall plan clampTcpMss).rules = K.rules := rfl

@[simp] theorem writeFirewall_firewall : (K.writeFirewall plan clampTcpMss).firewall
    = Function.update K.firewall plan.routeTable (some (appendFirewallRules plan clampTcpMss)) :=
  rfl

@[simp] theorem writeFirewall_dockerUser : (K.writeFirewall plan clampTcpMss).dockerUser
    = K.dockerUser.map stageDockerForwardCompatibility := rfl

end Kernel

/-! ## The record and the kernel -/

section Rules

variable {d : PrepareDeclaration} {plan : LinuxNetworkPlan}
variable {β : Type} {J : JournalFormat β} {K : Kernel}
  {I I' : Option TransactionRecord → Kernel → Prop} {r : TransactionRecord}

/-- The calls so far have made of `K` a kernel that goes with the record. -/
def Stands (K : Kernel) (I : Option TransactionRecord → Kernel → Prop)
    (w : NetworkTransaction β) : Prop :=
  ∀ K', K.after w.calls = .ok K' → I w.record K'

/-- A weaker relation stands too. -/
theorem Stands.mono {w : NetworkTransaction β} (h : Stands K I w)
    (hI : ∀ m K', I m K' → I' m K') : Stands K I' w :=
  fun K' hK' => hI _ K' (h K' hK')

/-- A call is followed by what the kernel does for it. -/
theorem yields_call {c : BackendCall}
    (h : ∀ m before K', I m before → before.perform c = .ok K' → I' m K') :
    Yields (Stands K I) (call c : Tx β Unit) (fun _ => Stands K I') := by
  intro w hw
  rw [wp_call]
  refine ⟨?_, fun _ _ => trivial, fun _ => trivial⟩
  intro _ K' hK'
  obtain ⟨before, hbefore, hperform⟩ := Kernel.after_cons_eq_ok.mp hK'
  exact h _ _ _ (hw before hbefore) hperform

/-- Writing the journal leaves memory and the kernel alone. -/
theorem yields_store : Yields (Stands K I) (store J r) (fun _ => Stands K I) := by
  unfold store
  cases J.encode r with
  | error e => exact Yields.of_neverReturns (neverReturns_fail e)
  | ok content =>
    intro w hw
    rw [wp_writeJournal]
    exact ⟨fun _ => hw, fun _ => trivial, fun _ => trivial, fun _ => trivial⟩

/-- What follows may assume the record that was read. -/
theorem yields_current_bind {α : Type} {f : TransactionRecord → Tx β α}
    {R : α → NetworkTransaction β → Prop}
    (hf : ∀ r, Yields (Stands K fun m K' => m = some r ∧ I m K') (f r) R) :
    Yields (Stands K I) (current >>= f) R := by
  intro w hw
  rw [current, wp_bind, wp_bind, wp_get, wp_okOr]
  refine ⟨?_, fun _ => trivial⟩
  intro r hr
  exact hf r w fun K' hK' => ⟨hr, hw K' hK'⟩

/-- A record that is replaced leaves the kernel. -/
theorem yields_replaceRecord (h : ∀ m K', I m K' → I' (some r) K') :
    Yields (Stands K I) (replaceRecord J r) (fun _ => Stands K I') := by
  refine Yields.bind yields_store ?_
  intro _ w hw K' hK'
  exact h _ K' (hw K' hK')

/-- So does one that is amended. -/
theorem yields_amend {f : TransactionRecord → TransactionRecord}
    (h : ∀ r K', I (some r) K' → I' (some (f r)) K') :
    Yields (Stands K I) (amend J f) (fun _ => Stands K I') := by
  refine yields_current_bind ?_
  intro r w hw
  rw [wp_bind, setRecord, wp_modify]
  refine (yields_store (I := I')) _ ?_
  intro K' hK'
  obtain ⟨hr, hI⟩ := hw K' hK'
  rw [hr] at hI
  exact h r K' hI

/-- An operation starts with the record `m` and an empty log. -/
def Finds (m : Option TransactionRecord) (w : NetworkTransaction β) : Prop :=
  w.record = m ∧ w.calls = []

/-- A transaction that finds its record has called nothing. -/
theorem Finds.stands {m : Option TransactionRecord} {w : NetworkTransaction β} (h : Finds m w) :
    Stands K (fun m' K' => m' = m ∧ K' = K) w := by
  intro K' hK'
  rw [h.2] at hK'
  cases hK'
  exact ⟨h.1, rfl⟩

/-- The record that is found is the one that is read. -/
theorem yields_current_finds {α : Type} {f : TransactionRecord → Tx β α}
    {R : α → NetworkTransaction β → Prop} (hf : Yields (Finds (some r)) (f r) R) :
    Yields (Finds (some r)) (current >>= f) R := by
  intro w hw
  rw [wp_bind, wp_current hw.1]
  exact hf w hw

/-- Without a record there is nothing to go on with. -/
theorem yields_current_none {α : Type} {f : TransactionRecord → Tx β α}
    {R : α → NetworkTransaction β → Prop} : Yields (Finds none) (current >>= f) R := by
  intro w hw
  rw [current, wp_bind, wp_bind, wp_get, hw.1, wp_okOr_none]
  trivial

/-! Assertions that speak of the record and of the kernel apart. -/

variable {M N : TransactionRecord → Prop} {P S : Kernel → Prop}

/-- There is a record, it satisfies `M`, and the kernel satisfies `P`. -/
def Beside (M : TransactionRecord → Prop) (P : Kernel → Prop) (m : Option TransactionRecord)
    (K' : Kernel) : Prop :=
  (∃ r, m = some r ∧ M r) ∧ P K'

/-- The two parts may be stated apart. -/
theorem Finds.beside {w : NetworkTransaction β} (h : Finds (some r) w) (hM : M r) (hP : P K) :
    Stands K (Beside M P) w := by
  refine h.stands.mono ?_
  rintro m K' ⟨rfl, rfl⟩
  exact ⟨⟨r, rfl, hM⟩, hP⟩

/-- Amending the record leaves the other part. -/
theorem yields_amend_beside {f : TransactionRecord → TransactionRecord}
    (hf : ∀ r, M r → N (f r)) :
    Yields (Stands K (Beside M P)) (amend J f) (fun _ => Stands K (Beside N P)) := by
  refine yields_amend ?_
  rintro r K' ⟨⟨_, hr, hM⟩, hP⟩
  cases hr
  exact ⟨⟨f r, rfl, hf r hM⟩, hP⟩

/-- A call leaves the record. -/
theorem yields_call_beside {c : BackendCall}
    (h : ∀ before K', P before → before.perform c = .ok K' → S K') :
    Yields (Stands K (Beside M P)) (call c : Tx β Unit) (fun _ => Stands K (Beside M S)) := by
  refine yields_call ?_
  rintro m before K' ⟨hM, hP⟩ hperform
  exact ⟨hM, h before K' hP hperform⟩

/-- So does the preflight. -/
theorem yields_preflight_beside
    (h : ∀ before K', P before → before.perform (.preflight d) = .ok K' → S K') :
    Yields (Stands K (Beside M P)) (preflight d : Tx β (List SysctlChange))
      (fun _ => Stands K (Beside M S)) := by
  refine Yields.bind (yields_call_beside h) ?_
  intro _ w hw
  rw [wp_bind, wp_get, wp_lift]
  exact ⟨fun _ _ => hw, fun _ _ => trivial⟩

end Rules

/-! ## The first installation -/

section Install

variable {β : Type} {J : JournalFormat β} {K : Kernel} {o : LeaseOwner} {d : PrepareDeclaration}
  {P S : Kernel → Prop}

/-- A record of a first declaration, of which nothing was withdrawn. -/
structure Begun (o : LeaseOwner) (d : PrepareDeclaration) (r : TransactionRecord) : Prop where
  owner : r.owner = o
  declaration : r.declaration = d
  candidate : r.recoveryCandidate = none
  failedPrefixes : r.failedPrefixes = []

/-- A step that is completed leaves the declaration. -/
theorem yields_completeStep_begun {step : UInt16} :
    Yields (Stands K (Beside (Begun o d) P)) (completeStep J step) (fun _ => Stands K (Beside (Begun o d) P)) :=
  yields_amend_beside fun _ h => ⟨h.owner, h.declaration, h.candidate, h.failedPrefixes⟩

/-- A call of `prepare_steps` and the step bit of the next one. -/
theorem yields_stage {α : Type} {c : BackendCall} {stage : BackendStage} {step : UInt16}
    {k : Tx β α} {R : α → NetworkTransaction β → Prop}
    (h : ∀ before K', P before → before.perform c = .ok K' → S K')
    (hk : Yields (Stands K (Beside (Begun o d) S)) k R) :
    Yields (Stands K (Beside (Begun o d) P))
      (do atStage (call c) stage; completeStep J step; k) R :=
  Yields.bind (Yields.mapError (yields_call_beside h)) fun _ =>
    Yields.bind yields_completeStep_begun fun _ => hk

/-- What `prepare_steps` asks of the kernel it finds. -/
structure Clear (d : PrepareDeclaration) (plan : LinuxNetworkPlan) (K : Kernel) : Prop where
  compile : LinuxNetworkPlan.compile d = .ok plan
  firewall : K.firewall d.tableId = none
  rules : K.rules d.tableId = ∅
  routes : (K.routes d.tableId).routeConflict plan = false

/-- The routes and the firewall of a declaration are there. -/
def Kernel.prepared (K : Kernel) (d : PrepareDeclaration) (plan : LinuxNetworkPlan) : Kernel :=
  (K.setRoutes d.tableId ((K.routes d.tableId).addRoutes plan)).writeFirewall plan
    d.firewall.clampTcpMss

/-- A declaration has one plan. -/
theorem Clear.eq {plan plan' : LinuxNetworkPlan} (h : Clear d plan K)
    (hplan : LinuxNetworkPlan.compile d = .ok plan') : plan' = plan := by
  rw [h.compile] at hplan
  exact (Except.ok.inj hplan).symm

/-- The steps of `prepare` build the tables of the plan. -/
theorem yields_prepareSteps :
    Yields (Stands K (Beside (Begun o d) fun K' => K' = K)) (prepareSteps J)
      (fun _ => Stands K fun m K' => (∃ r, m = some r ∧ Begun o d r ∧ r.phase = .prepared)
        ∧ ∃ plan, Clear d plan K ∧ K' = K.prepared d plan) := by
  refine yields_current_bind fun r => ?_
  -- The declaration that the calls are about is the one that was read from the record.
  refine Yields.pre (P := Stands K (Beside (Begun o d) fun K' => r.declaration = d ∧ K' = K)) ?_ ?_
  · refine Yields.bind (Q := fun _ => Stands K (Beside (Begun o d) fun K' => r.declaration = d
        ∧ K' = K ∧ ∃ plan, Clear d plan K))
      (Yields.mapError (yields_preflight_beside ?_)) fun sysctls => ?_
    · rintro before K' ⟨hd, rfl⟩ hperform
      rw [hd] at hperform
      obtain ⟨rfl, hfirewall, hrules, plan, hplan, hroutes⟩ := Kernel.perform_preflight hperform
      exact ⟨hd, rfl, plan, hplan, hfirewall, hrules, hroutes⟩
    refine Yields.bind (yields_amend_beside (N := Begun o d) fun r h =>
      ⟨h.owner, h.declaration, h.candidate, h.failedPrefixes⟩) fun _ => ?_
    refine Yields.bind yields_completeStep_begun fun _ => ?_
    refine yields_current_bind fun r' => ?_
    refine Yields.pre (P := Stands K (Beside (Begun o d) fun K' => r.declaration = d ∧ K' = K
      ∧ ∃ plan, Clear d plan K)) ?_ fun _ h => h.mono fun _ _ h => h.2
    dsimp only
    refine yields_stage (S := fun K' => r.declaration = d ∧ K' = K ∧ ∃ plan, Clear d plan K)
      (fun before K' h hperform => ?_) ?_
    · cases hperform
      exact h
    refine yields_stage (S := fun K' => r.declaration = d ∧ K' = K ∧ ∃ plan, Clear d plan K)
      (fun before K' h hperform => ?_) ?_
    · rw [Kernel.perform_prepareLink hperform]
      exact h
    refine yields_stage (S := fun K' => r.declaration = d ∧ K' = K ∧ ∃ plan, Clear d plan K)
      (fun before K' h hperform => ?_) ?_
    · cases hperform
      exact h
    refine yields_stage (S := fun K' => r.declaration = d ∧ ∃ plan, Clear d plan K
      ∧ K' = K.setRoutes d.tableId ((K.routes d.tableId).addRoutes plan)) ?_ ?_
    · rintro before K' ⟨hd, rfl, plan, hclear⟩ hperform
      rw [hd] at hperform
      obtain ⟨plan', hplan', rfl⟩ := Kernel.perform_prepareRoutes hperform
      rw [hclear.eq hplan']
      exact ⟨hd, plan, hclear, rfl⟩
    refine Yields.bind (Q := fun _ => Stands K (Beside (Begun o d) fun K' =>
        ∃ plan, Clear d plan K ∧ K' = K.prepared d plan))
      (Yields.mapError (yields_call_beside ?_)) fun _ => ?_
    · rintro before K' ⟨hd, plan, hclear, rfl⟩ hperform
      rw [hd] at hperform
      obtain ⟨plan', hplan', rfl⟩ := Kernel.perform_prepareFirewall hperform
      rw [hclear.eq hplan']
      exact ⟨plan, hclear, rfl⟩
    refine yields_amend ?_
    rintro r K' ⟨⟨_, hr, hbegun⟩, hK'⟩
    cases hr
    exact ⟨⟨_, rfl, ⟨hbegun.owner, hbegun.declaration, hbegun.candidate, hbegun.failedPrefixes⟩,
      rfl⟩, hK'⟩
  · intro w hw
    refine hw.mono ?_
    rintro m K' ⟨rfl, hduring⟩
    obtain ⟨⟨_, hr, hbegun⟩, hK'⟩ := hduring
    cases hr
    exact ⟨⟨r, rfl, hbegun⟩, hbegun.declaration, hK'⟩

/-- So does a whole `prepare`. -/
theorem yields_prepare : Yields (Finds none) (prepare J o d)
    (fun _ => Stands K fun m K' => (∃ r, m = some r ∧ Begun o d r ∧ r.phase = .prepared)
      ∧ ∃ plan, Clear d plan K ∧ K' = K.prepared d plan) := by
  intro w hw
  rw [prepare, wp_bind, wp_get, hw.1]
  refine Yields.lift_bind (fun _ _ => ?_) w (hw.stands (K := K))
  refine Yields.bind (Q := fun _ => Stands K (Beside (Begun o d) fun K' => K' = K))
    (yields_replaceRecord ?_) fun _ => ?_
  · rintro m K' ⟨-, hK'⟩
    exact ⟨⟨_, rfl, rfl, rfl, rfl, rfl⟩, hK'⟩
  · exact Yields.handle yields_prepareSteps fun e => neverReturns_bind fun _ => neverReturns_fail e

/-- The first commit activates the rules of the declaration. -/
theorem yields_commitWithDrain {r : TransactionRecord} {o' : LeaseOwner} {now timeout : UInt64}
    (hbegun : Begun o d r) (hphase : r.phase = .prepared) :
    Yields (Finds (some r)) (commitWithDrain J o' now timeout)
      (fun _ => Stands K fun m K' => (∃ r', m = some r' ∧ Begun o d r' ∧ r'.phase = .active)
        ∧ ∃ plan, LinuxNetworkPlan.compile d = .ok plan
          ∧ K' = K.setRules d.tableId plan.policySelectors.toFinset) := by
  refine yields_current_finds ?_
  refine Yields.lift_bind fun _ _ => ?_
  rw [hphase, hbegun.candidate]
  dsimp only
  refine Yields.pre (P := Stands K (Beside (Begun o d) fun K' => K' = K)) ?_ ?_
  · refine Yields.handle ?_ fun e => neverReturns_bind fun _ => neverReturns_fail e
    refine Yields.bind yields_completeStep_begun fun _ => ?_
    refine Yields.bind (Q := fun _ => Stands K (Beside (Begun o d) fun K' =>
        ∃ plan, LinuxNetworkPlan.compile d = .ok plan
          ∧ K' = K.setRules d.tableId plan.policySelectors.toFinset))
      (Yields.mapError (yields_call_beside ?_)) fun _ => ?_
    · rintro before K' rfl hperform
      rw [hbegun.declaration] at hperform
      exact Kernel.perform_installPolicyRule hperform
    · refine yields_amend ?_
      rintro r K' ⟨⟨_, hr, hbegun⟩, hK'⟩
      cases hr
      exact ⟨⟨_, rfl, ⟨hbegun.owner, hbegun.declaration, hbegun.candidate,
        hbegun.failedPrefixes⟩, rfl⟩, hK'⟩
  · exact fun w hw => hw.beside hbegun rfl

end Install

/-! ## Hosts -/

/-- The kernel of a host and the transaction that works on it. -/
structure Host (β : Type) where
  kernel : Kernel
  transaction : NetworkTransaction β

namespace Host

variable {β : Type}

/-- The transaction as an operation finds it: the log tells what the operation itself does. -/
def start (h : Host β) (fates : Fates) (readings : SysctlKey → Option (Fin 3)) :
    NetworkTransaction β :=
  { h.transaction with calls := [] }.facing fates readings

/-- The operation returns, and the kernel is what its calls have made of it. -/
def Performs (J : JournalFormat β) (op : Operation) (h h' : Host β) : Prop :=
  ∃ fates readings, exec J op (h.start fates readings) = (.ok (), h'.transaction)
    ∧ h.kernel.after h'.transaction.calls = .ok h'.kernel

/-- What an operation does to the record and the kernel together, it does to the host. -/
theorem Performs.elim {J : JournalFormat β} {op : Operation} {h h' : Host β}
    {m : Option TransactionRecord} {I : Option TransactionRecord → Kernel → Prop}
    (hperforms : Performs J op h h') (hrecord : h.transaction.record = m)
    (hop : Yields (Finds m) (exec J op) (fun _ => Stands h.kernel I)) :
    I h'.transaction.record h'.kernel := by
  obtain ⟨fates, readings, hrun, hafter⟩ := hperforms
  have hstart : Finds m (h.start fates readings) := ⟨hrecord, rfl⟩
  exact hop.of_eq hstart hrun h'.kernel hafter

/-! Hosts that can be computed. -/

/-- The operation with calls that all succeed. -/
def next (J : JournalFormat β) (h : Host β) (op : Operation) : Host β :=
  let w := (exec J op (h.start .allOk Sample.readings)).2
  { kernel := (h.kernel.after w.calls).toOption.getD h.kernel, transaction := w }

/-- A successful call is performed on the host. -/
theorem performs_next {J : JournalFormat β} {h : Host β} {op : Operation}
    (hok : (exec J op (h.start .allOk Sample.readings)).1 = .ok ())
    (hafter : (h.kernel.after (exec J op (h.start .allOk Sample.readings)).2.calls).isOk = true) :
    h.Performs J op (h.next J op) := by
  refine ⟨.allOk, Sample.readings, Prod.ext hok rfl, ?_⟩
  show h.kernel.after _ = .ok ((h.kernel.after _).toOption.getD h.kernel)
  cases hK : h.kernel.after (exec J op (h.start .allOk Sample.readings)).2.calls with
  | error e =>
    rw [hK] at hafter
    cases hafter
  | ok K => exact hK

end Host

end CandyRuntime.NetdV1
