import CandyRuntime.NetdV1.JournalableTheorems
import CandyRuntime.NetdV1.KernelTheorems

/-!
# A policy update and a fresh installation

`update_policy` changes the routes of a live table in place. It should leave the table that
`prepare_routes` and the withdrawal of the retained failed prefixes would have made of an empty one,
so that nobody can tell an updated host from a new one.

* `Installed` : what prepare, update and withdrawal keep true of the table, prefix by prefix.
* `Kernel.InstalledAfresh` : the table is the fresh one; `LinuxNetworkPlan.fresh` reads it off.
* `Reached` : the hosts on which these operations have returned.
* `policy_update_is_afresh_iff` : when the updated table is the fresh one. Three things stand in the
  way. `reconcile_routes` passes over a prefix that the new plan does not know, so the route of a
  dropped prefix stays. A prefix that is both remote and kept out goes into the tunnel in the fresh
  table and is thrown by a reconciliation. And a withdrawal deletes the throw routes of all
  exclusions, which a reconciliation leaves in place.
-/

namespace CandyRuntime.NetdV1

open Lib Lib.Proc NetdProto

/-! ## The table of a declaration -/

/-- A declaration that passes its check can be compiled. -/
theorem LinuxNetworkPlan.exists_compile {d : PrepareDeclaration} (h : d.validate = .ok ()) :
    ∃ plan, compile d = .ok plan := by
  have hvalid := (PrepareDeclaration.validate_eq_ok_iff d).mp h
  have htable : ¬ d.tableId.toNat - candyTableMin + candyPolicyPriorityMin.toNat ≥ 2 ^ 32 := by
    have hpriority : candyPolicyPriorityMin.toNat = 20000 := rfl
    have hmax := hvalid.table.2
    unfold candyTableMax at hmax
    omega
  have hmtu : ¬ d.effectiveMtu < 40 := by
    intro hsmall
    exact absurd (UInt16.lt_of_lt_of_le hsmall (by decide : (40 : UInt16) ≤ 576))
      (UInt16.not_lt.mpr hvalid.mtu.1)
  simp only [compile_eq_ok_iff, h, true_and, compileFields, if_neg htable, if_neg hmtu]
  exact ⟨_, rfl⟩

/-- What the operations keep true of the table of a declaration, of which the prefixes `failed`
are withdrawn. -/
structure Installed (d : PrepareDeclaration) (failed : List Ipv4Prefix) (table : RoutingTable) :
    Prop where
  scope : ∀ p ∈ failed, inScope d p = true
  withdrawn : ∀ p ∈ failed, table.lookup p = some .throw
  keptOut : ∀ p, KeptOut d p → inScope d p = false → table.lookup p = some .throw
  remote : ∀ p, inScope d p = true → ¬ KeptOut d p → p ∉ failed → table.lookup p = some .unicast

section Table

variable {d : PrepareDeclaration} {plan : LinuxNetworkPlan} {failed : List Ipv4Prefix}
  {table : RoutingTable}

theorem installed_addRoutes (hplan : LinuxNetworkPlan.compile d = .ok plan) :
    Installed d [] (RoutingTable.addRoutes plan ∅) := by
  have hfields := LinuxNetworkPlan.compileFields_of_compile hplan
  have hthrow := fun p => mem_throwPrefixes (p := p) hfields
  refine ⟨by simp, by simp, ?_, ?_⟩
  · intro p hkept hscope
    rw [RoutingTable.lookup_addRoutes, Finmap.lookup_empty, Option.none_or,
      if_neg (by rw [← inScope_iff hfields, hscope]; simp), if_pos ((hthrow p).mpr hkept)]
  · intro p hscope _ _
    rw [RoutingTable.lookup_addRoutes, Finmap.lookup_empty, Option.none_or,
      if_pos ((inScope_iff hfields).mp hscope)]

theorem installed_reconcileRoutes (hplan : LinuxNetworkPlan.compile d = .ok plan)
    (hscoped : ∀ p ∈ failed, inScope d p = true) :
    Installed d failed (RoutingTable.reconcileRoutes plan failed table) := by
  have hfields := LinuxNetworkPlan.compileFields_of_compile hplan
  have hthrow := fun p => mem_throwPrefixes (p := p) hfields
  refine ⟨hscoped, ?_, ?_, ?_⟩
  · intro p hp
    rw [RoutingTable.lookup_reconcileRoutes, if_pos (.inr hp)]
  · intro p hkept _
    rw [RoutingTable.lookup_reconcileRoutes, if_pos (.inl ((hthrow p).mpr hkept))]
  · intro p hscope hkept hfailed
    rw [RoutingTable.lookup_reconcileRoutes, if_neg (not_or.mpr ⟨mt (hthrow p).mp hkept, hfailed⟩),
      if_pos ((inScope_iff hfields).mp hscope)]

/-- Only the routes and the exclusions of the declaration matter. -/
theorem Installed.congr {d' : PrepareDeclaration} (h : Installed d failed table)
    (hroutes : d'.routes = d.routes) (hexclusions : d'.exclusions = d.exclusions) :
    Installed d' failed table := by
  have hscope : ∀ p, inScope d' p = inScope d p := fun p => by rw [inScope, inScope, hroutes]
  have hkept : ∀ p, KeptOut d' p ↔ KeptOut d p := fun p => by
    rw [KeptOut, KeptOut, hroutes, hexclusions]
  constructor
  · simpa only [hscope] using h.scope
  · exact h.withdrawn
  · simpa only [hscope, hkept] using h.keptOut
  · simpa only [hscope, hkept] using h.remote

end Table

/-! ## The fresh table -/

/-- The table is the one that `prepare_routes` and then the withdrawal of `failed` leave on a bare
host. -/
def Kernel.InstalledAfresh (K : Kernel) (d : PrepareDeclaration) (failed : List Ipv4Prefix) :
    Prop :=
  ∃ fresh, (Kernel.bare.perform (.prepareRoutes d) >>= fun prepared =>
      prepared.withdrawPrefixes d failed) = .ok fresh
    ∧ K.routes d.tableId = fresh.routes d.tableId

/-- What the fresh table has for a prefix. The withdrawal of any prefix takes the throw routes of the
exclusions with it. -/
def LinuxNetworkPlan.fresh (plan : LinuxNetworkPlan) (failed : List Ipv4Prefix) (p : Ipv4Prefix) :
    Option RouteAction :=
  if p ∈ failed then some .throw
  else if p ∈ plan.remoteRoutes then some .unicast
  else if p ∈ plan.throwPrefixes ∧ (failed = [] ∨ p ∉ plan.exclusions.map (·.ipv4Prefix)) then
    some .throw
  else none

section Fresh

open Kernel (scopedTo)

variable {d : PrepareDeclaration} {plan : LinuxNetworkPlan} {failed : List Ipv4Prefix}

theorem valid_scopedTo (hvalid : d.Valid) (hne : (scopedTo d failed).routes ≠ []) :
    (scopedTo d failed).Valid where
  table := hvalid.table
  mtu := hvalid.mtu
  routesNe := hne
  routesLength := (List.length_filter_le _ d.routes).trans hvalid.routesLength
  exclusionsNe := hvalid.exclusionsNe
  exclusionsLength := hvalid.exclusionsLength
  routesSorted := by
    rw [strictlySortedBy_iff_pairwise]
    exact ((strictlySortedBy_iff_pairwise _).mp hvalid.routesSorted).filter _
  exclusionsSorted := hvalid.exclusionsSorted
  defaultRoutes := fun r hr => hvalid.defaultRoutes r (List.mem_of_mem_filter hr)
  defaultExclusions := hvalid.defaultExclusions
  routesApart := hvalid.routesApart.sublist ((List.filter_sublist.filter _).map _)
  exclusionsApart := hvalid.exclusionsApart
  disjoint := fun r hr => hvalid.disjoint r (List.mem_of_mem_filter hr)
  routerRoutes := fun r hr => hvalid.routerRoutes r (List.mem_of_mem_filter hr)
  routerExclusions := hvalid.routerExclusions
  router := hvalid.router
  unicast := hvalid.unicast

theorem inScope_scopedTo {p : Ipv4Prefix} :
    inScope (scopedTo d failed) p = true ↔ p ∈ failed ∧ inScope d p = true := by
  simp only [inScope, List.any_eq_true, List.mem_filter, Bool.and_eq_true, beq_iff_eq,
    decide_eq_true_eq]
  grind

theorem keptOut_scopedTo {p : Ipv4Prefix} : KeptOut (scopedTo d failed) p
    ↔ (∃ e ∈ d.exclusions, e.ipv4Prefix = p) ∨ (p ∈ failed ∧ KeptOut d p) := by
  simp only [KeptOut, List.mem_filter, decide_eq_true_eq]
  grind

/-- The table of `prepare_routes`, before and after the withdrawal. -/
theorem lookup_withdrawn {scopedPlan : LinuxNetworkPlan} (hplan : LinuxNetworkPlan.compileFields d = .ok plan)
    (hscoped : LinuxNetworkPlan.compileFields (scopedTo d failed) = .ok scopedPlan)
    (hscope : ∀ p ∈ failed, inScope d p = true) (hne : failed ≠ []) {p : Ipv4Prefix} :
    (failed.foldl (RoutingTable.add .throw) ((RoutingTable.addRoutes plan ∅).deleteRoutes
      scopedPlan)).lookup p = plan.fresh failed p := by
  have hremote : p ∈ scopedPlan.remoteRoutes ↔ p ∈ failed := by
    rw [← inScope_iff hscoped, inScope_scopedTo, and_iff_left_of_imp (hscope p)]
  have hthrow : p ∈ scopedPlan.cleanupThrowPrefixes
      ↔ p ∈ failed ∨ p ∈ plan.exclusions.map (·.ipv4Prefix) := by
    rw [mem_cleanupThrowPrefixes hscoped, Covers, inScope_scopedTo, keptOut_scopedTo,
      and_iff_left_of_imp (hscope p),
      (LinuxNetworkPlan.of_compileFields hplan).2.2.2, List.mem_map]
    constructor
    · rintro (hfailed | hexcluded | hkept)
      · exact .inl hfailed
      · exact .inr hexcluded
      · exact .inl hkept.1
    · rintro (hfailed | hexcluded)
      · exact .inl hfailed
      · exact .inr (.inl hexcluded)
  have hgone : p ∈ failed → p ∈ plan.remoteRoutes := fun h => (inScope_iff hplan).mp (hscope p h)
  rw [RoutingTable.lookup_foldl_add, RoutingTable.lookup_deleteRoutes, RoutingTable.lookup_addRoutes,
    Finmap.lookup_empty, Option.none_or, LinuxNetworkPlan.fresh]
  simp only [hremote, hthrow]
  by_cases hfailed : p ∈ failed
  · simp [hfailed, hgone hfailed]
  · by_cases htunnel : p ∈ plan.remoteRoutes
    · simp [hfailed, htunnel]
    · by_cases hexcluded : p ∈ plan.exclusions.map (·.ipv4Prefix)
      · by_cases hkept : p ∈ plan.throwPrefixes <;> simp [hfailed, htunnel, hexcluded, hkept, hne]
      · by_cases hkept : p ∈ plan.throwPrefixes <;> simp [hfailed, htunnel, hexcluded, hkept]

theorem exists_fresh (hplan : LinuxNetworkPlan.compile d = .ok plan)
    (hscope : ∀ p ∈ failed, inScope d p = true) :
    ∃ fresh, (Kernel.bare.perform (.prepareRoutes d) >>= fun prepared =>
        prepared.withdrawPrefixes d failed) = .ok fresh
      ∧ ∀ p, (fresh.routes d.tableId).lookup p = plan.fresh failed p := by
  have htable := LinuxNetworkPlan.routeTable_of_compile hplan
  have hprepare : Kernel.bare.perform (.prepareRoutes d)
      = .ok (Kernel.bare.setRoutes d.tableId (RoutingTable.addRoutes plan ∅)) := by
    rw [← htable, Kernel.perform, hplan]
    rfl
  rw [hprepare]
  show ∃ fresh, Kernel.withdrawPrefixes _ d failed = .ok fresh ∧ _
  unfold Kernel.withdrawPrefixes
  by_cases hempty : (scopedTo d failed).routes = []
  · -- Every withdrawn prefix has a route, so there is none.
    have hnone : failed = [] := by
      refine List.eq_nil_iff_forall_not_mem.mpr fun p hp => ?_
      have hroute := inScope_scopedTo.mpr ⟨hp, hscope p hp⟩
      rw [inScope, hempty] at hroute
      cases hroute
    refine ⟨_, if_pos hempty, fun p => ?_⟩
    rw [Kernel.setRoutes_routes, Function.update_self, RoutingTable.lookup_addRoutes,
      Finmap.lookup_empty, Option.none_or, LinuxNetworkPlan.fresh, hnone]
    simp
  · have hne : failed ≠ [] := by
      rintro rfl
      exact hempty (by simp)
    have hvalid := (PrepareDeclaration.validate_eq_ok_iff d).mp
      (LinuxNetworkPlan.compile_eq_ok_iff.mp hplan).1
    obtain ⟨scopedPlan, hscoped⟩ := LinuxNetworkPlan.exists_compile
      ((PrepareDeclaration.validate_eq_ok_iff _).mpr (valid_scopedTo hvalid hempty))
    have hscopedTable : scopedPlan.routeTable = d.tableId :=
      (LinuxNetworkPlan.routeTable_of_compile hscoped).trans rfl
    simp only [if_neg hempty, hscoped]
    refine ⟨_, rfl, fun p => ?_⟩
    rw [hscopedTable, Kernel.setRoutes_routes, Function.update_self, Kernel.setRoutes_routes,
      Function.update_self]
    exact lookup_withdrawn (LinuxNetworkPlan.compileFields_of_compile hplan)
      (LinuxNetworkPlan.compileFields_of_compile hscoped) hscope hne

theorem Kernel.installedAfresh_iff {K : Kernel} (hplan : LinuxNetworkPlan.compile d = .ok plan)
    (hscope : ∀ p ∈ failed, inScope d p = true) :
    K.InstalledAfresh d failed
      ↔ ∀ p, (K.routes d.tableId).lookup p = plan.fresh failed p := by
  obtain ⟨fresh, hfresh, hlookup⟩ := exists_fresh hplan hscope
  unfold InstalledAfresh
  rw [hfresh]
  constructor
  · rintro ⟨_, heq, hroutes⟩ p
    cases heq
    rw [hroutes, hlookup p]
  · intro h
    exact ⟨fresh, rfl, Finmap.ext_lookup fun p => (h p).trans (hlookup p).symm⟩

end Fresh

/-! ## The operations -/

/-- The record stands for the routes of the table. -/
def Standing (m : Option TransactionRecord) (K : Kernel) : Prop :=
  match m with
  | none => ∀ table, K.routes table = ∅
  | some r => r.recoveryCandidate = none
      ∧ Installed r.declaration r.failedPrefixes (K.routes r.declaration.tableId)

/-- The record differs in nothing that the table depends on. -/
structure Alike (r r' : TransactionRecord) : Prop where
  candidate : r'.recoveryCandidate = r.recoveryCandidate
  failedPrefixes : r'.failedPrefixes = r.failedPrefixes
  tableId : r'.declaration.tableId = r.declaration.tableId
  routes : r'.declaration.routes = r.declaration.routes
  exclusions : r'.declaration.exclusions = r.declaration.exclusions

/-- A record like `r` is in memory, and the routes of `K` are in the kernel. -/
abbrev Like (r : TransactionRecord) (K : Kernel) : Option TransactionRecord → Kernel → Prop :=
  Beside (Alike r) fun K' => K'.routes = K.routes

section Operations

variable {β : Type} {J : JournalFormat β} {K : Kernel} {r : TransactionRecord} {o : LeaseOwner}
  {d : PrepareDeclaration}

theorem standing_of_like {m : Option TransactionRecord} {K' : Kernel} (h : Like r K m K')
    (hr : Standing (some r) K) : Standing m K' := by
  obtain ⟨⟨r', rfl, halike⟩, hroutes⟩ := h
  obtain ⟨hcandidate, hinstalled⟩ := hr
  refine ⟨halike.candidate.trans hcandidate, ?_⟩
  rw [hroutes, halike.tableId, halike.failedPrefixes]
  exact hinstalled.congr halike.routes halike.exclusions

theorem Finds.like {w : NetworkTransaction β} (h : Finds (some r) w) : Stands K (Like r K) w :=
  h.beside ⟨rfl, rfl, rfl, rfl, rfl⟩ rfl

theorem yields_completeStep_like {step : UInt16} :
    Yields (Stands K (Like r K)) (completeStep J step) (fun _ => Stands K (Like r K)) :=
  yields_amend_beside fun _ h => ⟨h.candidate, h.failedPrefixes, h.tableId, h.routes, h.exclusions⟩

theorem yields_clearStep_like {step : UInt16} :
    Yields (Stands K (Like r K)) (clearStep J step) (fun _ => Stands K (Like r K)) :=
  yields_amend_beside fun _ h => ⟨h.candidate, h.failedPrefixes, h.tableId, h.routes, h.exclusions⟩

theorem yields_setPhase_like {phase : TransactionPhase} :
    Yields (Stands K (Like r K)) (setPhase J phase) (fun _ => Stands K (Like r K)) :=
  yields_amend_beside fun _ h => ⟨h.candidate, h.failedPrefixes, h.tableId, h.routes, h.exclusions⟩

theorem yields_call_like {c : BackendCall}
    (hc : ∀ before K' : Kernel, before.perform c = .ok K' → K'.routes = before.routes) :
    Yields (Stands K (Like r K)) (call c : Tx β Unit) (fun _ => Stands K (Like r K)) :=
  yields_call_beside fun before K' hroutes hperform => (hc before K' hperform).trans hroutes

theorem routes_installPolicyRule {before K' : Kernel}
    (h : before.perform (.installPolicyRule d) = .ok K') : K'.routes = before.routes := by
  obtain ⟨plan, -, rfl⟩ := Kernel.perform_installPolicyRule h
  rfl

theorem yields_installPolicyRule_like :
    Yields (Stands K (Like r K)) (call (.installPolicyRule d) : Tx β Unit)
      (fun _ => Stands K (Like r K)) :=
  yields_call_like fun _ _ h => routes_installPolicyRule h

/-! The operations that leave the routes alone. -/

theorem yields_prepare_like : Yields (Finds (some r)) (prepare J o d)
    (fun _ => Stands K (Like r K)) := by
  intro w hw
  rw [prepare, wp_bind, wp_get, hw.1]
  refine Yields.lift_bind (fun _ _ => ?_) w (hw.like (K := K))
  refine Yields.ensure_bind fun _ => ?_
  intro w hw
  rw [wp_ensure]
  exact ⟨fun _ => hw, fun _ => trivial⟩

theorem yields_commitWithDrain_like {now timeout : UInt64} (hr : r.recoveryCandidate = none) :
    Yields (Finds (some r)) (commitWithDrain J o now timeout) (fun _ => Stands K (Like r K)) := by
  refine yields_current_finds (Yields.lift_bind fun _ _ => ?_)
  refine Yields.pre (P := Stands K (Like r K)) ?_ fun w hw => hw.like
  rw [hr]
  cases r.phase with
  | prepared =>
    refine Yields.handle ?_ fun e => neverReturns_bind fun _ => neverReturns_fail e
    refine Yields.bind yields_completeStep_like fun _ => ?_
    refine Yields.bind (Yields.mapError yields_installPolicyRule_like) fun _ => ?_
    exact yields_setPhase_like
  | draining => exact Yields.pure fun _ h => h
  | active => exact Yields.pure fun _ h => h
  | preparing => exact Yields.of_neverReturns (neverReturns_fail _)
  | suspended => exact Yields.of_neverReturns (neverReturns_fail _)
  | rollingBack => exact Yields.of_neverReturns (neverReturns_fail _)

theorem yields_renewLease_like : Yields (Finds (some r)) (renewLease J o)
    (fun _ => Stands K (Like r K)) := by
  refine yields_current_finds (Yields.lift_bind fun _ _ => ?_)
  refine Yields.pre (yields_amend_beside fun _ h => ?_) fun w hw => hw.like
  exact ⟨h.candidate, h.failedPrefixes, h.tableId, h.routes, h.exclusions⟩

theorem yields_updateMtu_like {effectiveMtu : UInt16} :
    Yields (Finds (some r)) (updateMtu J o effectiveMtu) (fun _ => Stands K (Like r K)) := by
  refine Yields.ensure_bind fun _ => ?_
  refine yields_current_finds (Yields.lift_bind fun _ _ => Yields.ensure_bind fun _ => ?_)
  refine Yields.pre (P := Stands K (Like r K)) ?_ fun w hw => hw.like
  refine Yields.bind (yields_call_like fun _ _ h => ?_) fun _ => ?_
  · cases h
    rfl
  · exact yields_amend_beside fun _ h =>
      ⟨h.candidate, h.failedPrefixes, h.tableId, h.routes, h.exclusions⟩

theorem yields_suspend_like : Yields (Finds (some r)) (suspend J o)
    (fun _ => Stands K (Like r K)) := by
  refine yields_current_finds (Yields.lift_bind fun _ _ => ?_)
  refine Yields.pre (P := Stands K (Like r K)) ?_ fun w hw => hw.like
  split_ifs
  · exact Yields.pure fun _ h => h
  · refine Yields.ensure_bind fun _ => ?_
    refine Yields.bind (yields_call_like fun _ _ h => ?_) fun _ => ?_
    · rw [Kernel.perform_removePolicyRule h]
      rfl
    · exact Yields.bind yields_clearStep_like fun _ => yields_setPhase_like

theorem yields_resume_like : Yields (Finds (some r)) (resume J o)
    (fun _ => Stands K (Like r K)) := by
  refine yields_current_finds (Yields.lift_bind fun _ _ => ?_)
  refine Yields.pre (P := Stands K (Like r K)) ?_ fun w hw => hw.like
  split_ifs
  · exact Yields.pure fun _ h => h
  · refine Yields.ensure_bind fun _ => ?_
    refine Yields.bind yields_installPolicyRule_like fun _ => ?_
    exact Yields.bind yields_completeStep_like fun _ => yields_setPhase_like

/-! The operations that change the routes. -/

/-- A call that leaves the routes alone. -/
theorem yields_call_routes {I : Option TransactionRecord → (UInt32 → RoutingTable) → Prop}
    {c : BackendCall}
    (hc : ∀ before K' : Kernel, before.perform c = .ok K' → K'.routes = before.routes) :
    Yields (Stands K fun m K' => I m K'.routes) (call c : Tx β Unit)
      (fun _ => Stands K fun m K' => I m K'.routes) := by
  refine yields_call ?_
  intro m before K' hI hperform
  rw [hc before K' hperform]
  exact hI

theorem yields_setFailedPrefixes {prefixes : List Ipv4Prefix} (hr : r.recoveryCandidate = none) :
    Yields (Finds (some r)) (setFailedPrefixes J o prefixes) (fun _ => Stands K Standing) := by
  refine yields_current_finds (Yields.lift_bind fun _ _ => ?_)
  refine Yields.ensure_bind fun _ => Yields.ensure_bind fun hscope => ?_
  have hscope : ∀ p ∈ sortDedup prefixes, inScope r.declaration p = true := by
    simpa using hscope
  refine Yields.bind (Q := fun _ => Stands K fun m K' => m = some r
      ∧ Installed r.declaration (sortDedup prefixes) (K'.routes r.declaration.tableId))
    (Yields.pre (yields_call ?_) fun w hw => hw.stands) fun _ => ?_
  · rintro m before K' ⟨hm, rfl⟩ hperform
    obtain ⟨plan, hplan, rfl⟩ := Kernel.perform_reconcileRoutes hperform
    rw [Kernel.setRoutes_routes, Function.update_self]
    exact ⟨hm, installed_reconcileRoutes hplan hscope⟩
  refine Yields.bind (Yields.when (fun _ => yields_call_routes
    (I := fun m routes => m = some r ∧ Installed r.declaration (sortDedup prefixes)
      (routes r.declaration.tableId))
    fun _ _ h => routes_installPolicyRule h) fun _ _ h => h) fun _ => ?_
  refine yields_amend ?_
  rintro r' K' ⟨hm, hinstalled⟩
  cases hm
  exact ⟨hr, hinstalled⟩

/-- What an update that returns leaves. -/
structure Updated (r : TransactionRecord) (d : PrepareDeclaration) (K : Kernel)
    (m : Option TransactionRecord) (K' : Kernel) : Prop where
  record : ∃ r', m = some r' ∧ r'.recoveryCandidate = none ∧ r'.declaration = d
    ∧ r'.failedPrefixes = r.failedPrefixes.filter (inScope d)
  tableId : d.tableId = r.declaration.tableId
  exclusions : d.exclusions = r.declaration.exclusions
  routes : ∃ plan, LinuxNetworkPlan.compile d = .ok plan ∧ K'.routes d.tableId
    = if r.declaration.routes = d.routes then K.routes d.tableId
      else (K.routes d.tableId).reconcileRoutes plan (r.failedPrefixes.filter (inScope d))

/-- The table once `update_policy` has made its calls. -/
def Changed (r : TransactionRecord) (d : PrepareDeclaration) (K : Kernel) (plan : LinuxNetworkPlan)
    (routes : UInt32 → RoutingTable) : Prop :=
  routes d.tableId = if r.declaration.routes = d.routes then K.routes d.tableId
    else (K.routes d.tableId).reconcileRoutes plan (r.failedPrefixes.filter (inScope d))

theorem yields_applyPolicy {plan : LinuxNetworkPlan}
    (hplan : LinuxNetworkPlan.compile d = .ok plan) :
    Yields (Stands K fun _ K' => K' = K)
      (applyPolicy r d (r.failedPrefixes.filter (inScope d)) : Tx β Unit)
      (fun _ => Stands K fun _ K' => Changed r d K plan K'.routes) := by
  refine Yields.bind (Q := fun _ => Stands K fun _ K' => Changed r d K plan K'.routes)
    (Yields.when (fun hne => yields_call ?_) fun heq w hw => hw.mono ?_) fun _ => ?_
  · rintro m before K' rfl hperform
    obtain ⟨plan', hplan', rfl⟩ := Kernel.perform_reconcileRoutes hperform
    rw [hplan] at hplan'
    cases hplan'
    rw [Changed, if_neg hne, Kernel.setRoutes_routes, Function.update_self]
  · rintro m K' rfl
    rw [Changed, if_pos (not_not.mp heq)]
  refine Yields.bind (Yields.when (fun _ => yields_call_routes
    (I := fun _ routes => Changed r d K plan routes) ?_) fun _ _ h => h) fun _ => ?_
  · intro before K' hperform
    obtain ⟨plan', -, rfl⟩ := Kernel.perform_replaceFirewall hperform
    rfl
  · exact Yields.when (fun _ => yields_call_routes (I := fun _ routes => Changed r d K plan routes)
      fun _ _ h => routes_installPolicyRule h) fun _ _ h => h

theorem yields_updatePolicy (hr : Standing (some r) K) :
    Yields (Finds (some r)) (updatePolicy J o d) (fun _ => Stands K (Updated r d K)) := by
  refine Yields.lift_bind fun _ hvalid => ?_
  refine yields_current_finds (Yields.lift_bind fun _ _ => Yields.ensure_bind fun hensure => ?_)
  obtain ⟨-, hcandidate, hsame⟩ := hensure
  obtain ⟨plan, hplan⟩ : ∃ plan, LinuxNetworkPlan.compile d = .ok plan := by
    apply LinuxNetworkPlan.exists_compile
    unfold validDeclaration at hvalid
    cases hcheck : d.validate with
    | ok u => rfl
    | error e =>
      rw [hcheck] at hvalid
      cases hvalid
  have htunnel : d.tableId = r.declaration.tableId ∧ d.exclusions = r.declaration.exclusions := by
    simp only [sameTunnelDeclaration, Bool.and_eq_true, beq_iff_eq] at hsame
    exact ⟨hsame.1.1.1.symm, hsame.2.symm⟩
  by_cases hd : r.declaration = d
  · -- The declaration is the one that stands, and nothing is withdrawn outside of it.
    have hretained : r.failedPrefixes.filter (inScope d) = r.failedPrefixes := by
      rw [List.filter_eq_self, ← hd]
      exact hr.2.scope
    have hupdated : ∀ m K', (m = some r ∧ K'.routes = K.routes) → Updated r d K m K' := by
      rintro m K' ⟨hm, hroutes⟩
      refine ⟨⟨r, hm, hcandidate, hd, hretained.symm⟩, htunnel.1, htunnel.2, plan, hplan, ?_⟩
      rw [if_pos (by rw [hd]), hroutes]
    rw [if_pos hd]
    refine Yields.pre (P := Stands K fun m K' => m = some r ∧ K'.routes = K.routes) ?_
      fun w hw => hw.stands.mono fun m K' h => ⟨h.1, by rw [h.2]⟩
    refine Yields.post (Yields.when (fun _ => yields_call_routes
      (I := fun m routes => m = some r ∧ routes = K.routes)
      fun _ _ h => routes_installPolicyRule h) fun _ _ h => h) fun _ w hw => hw.mono hupdated
  · rw [if_neg hd]
    refine Yields.pre (P := Stands K fun _ K' => K' = K) ?_
      fun w hw => hw.stands.mono fun m K' h => h.2
    refine Yields.bind (Q := fun _ => Stands K fun _ K' => K' = K) (yields_amend fun _ _ h => h)
      fun _ => ?_
    refine Yields.handle ?_ fun e => neverReturns_bind fun _ => neverReturns_fail e
    refine Yields.bind (yields_applyPolicy hplan) fun _ => yields_replaceRecord ?_
    intro m K' hchanged
    exact ⟨⟨_, rfl, rfl, rfl, rfl⟩, htunnel.1, htunnel.2, plan, hplan, hchanged⟩

theorem Updated.standing {m : Option TransactionRecord} {K' : Kernel} (h : Updated r d K m K')
    (hr : Standing (some r) K) : Standing m K' := by
  obtain ⟨r', rfl, hcandidate, hd, hfailed⟩ := h.record
  obtain ⟨plan, hplan, hroutes⟩ := h.routes
  refine ⟨hcandidate, ?_⟩
  rw [hd, hfailed, hroutes]
  by_cases hsame : r.declaration.routes = d.routes
  · have hscope : ∀ p, inScope d p = inScope r.declaration p :=
      fun p => by rw [inScope, inScope, hsame]
    have hretained : r.failedPrefixes.filter (inScope d) = r.failedPrefixes := by
      rw [List.filter_eq_self]
      intro p hp
      rw [hscope]
      exact hr.2.scope p hp
    rw [if_pos hsame, hretained, h.tableId]
    exact hr.2.congr hsame.symm h.exclusions
  · rw [if_neg hsame]
    exact installed_reconcileRoutes hplan fun p hp => (List.mem_filter.mp hp).2

end Operations

/-! ## Hosts on which the operations have returned -/

/-- The operations that prepare a declaration and change it in place. -/
def Operation.InPlace : Operation → Prop
  | .prepare .. | .commitWithDrain .. | .setFailedPrefixes .. | .updatePolicy .. => True
  | .renewLease .. | .updateMtu .. | .suspend .. | .resume .. => True
  | .drainOld .. | .rollback .. | .reconfigure .. | .recoverOrphan .. => False

/-- Nothing was installed on the host. -/
structure Host.Bare {β : Type} (h : Host β) : Prop where
  record : h.transaction.record = none
  routes : ∀ table, h.kernel.routes table = ∅

/-- A host that was bare before operations in place have returned on it. -/
inductive Host.Reached {β : Type} (J : JournalFormat β) : Host β → Prop where
  | bare {h : Host β} (hbare : h.Bare) : Reached J h
  | performs {h h' : Host β} {op : Operation} (hreached : Reached J h) (hop : op.InPlace)
      (hperforms : h.Performs J op h') : Reached J h'

section Hosts

variable {β : Type} {J : JournalFormat β} {h h' : Host β}

theorem standing_of_performs_first {op : Operation} (hop : op.InPlace)
    (hperforms : h.Performs J op h') (hrecord : h.transaction.record = none)
    (hroutes : ∀ table, h.kernel.routes table = ∅) :
    Standing h'.transaction.record h'.kernel := by
  refine hperforms.elim hrecord ?_
  cases op with
  | prepare o d =>
    refine Yields.post yields_prepare fun _ w hw => hw.mono ?_
    rintro m K' ⟨⟨r, rfl, hbegun, -⟩, plan, hclear, rfl⟩
    refine ⟨hbegun.candidate, ?_⟩
    rw [hbegun.declaration, hbegun.failedPrefixes, Kernel.prepared, Kernel.writeFirewall_routes,
      Kernel.setRoutes_routes, Function.update_self, hroutes]
    exact installed_addRoutes hclear.compile
  | commitWithDrain o now timeout => exact yields_current_none
  | setFailedPrefixes o prefixes => exact yields_current_none
  | updatePolicy o d => exact Yields.lift_bind fun _ _ => yields_current_none
  | renewLease o => exact yields_current_none
  | updateMtu o mtu => exact Yields.ensure_bind fun _ => yields_current_none
  | suspend o => exact yields_current_none
  | resume o => exact yields_current_none
  | drainOld o now => exact hop.elim
  | rollback o => exact hop.elim
  | reconfigure o d => exact hop.elim
  | recoverOrphan alive now => exact hop.elim

/-- One operation in place. -/
theorem standing_of_performs {op : Operation} (hop : op.InPlace)
    (hperforms : h.Performs J op h') (hstanding : Standing h.transaction.record h.kernel) :
    Standing h'.transaction.record h'.kernel := by
  cases hrecord : h.transaction.record with
  | none =>
    rw [hrecord] at hstanding
    exact standing_of_performs_first hop hperforms hrecord hstanding
  | some r =>
    rw [hrecord] at hstanding
    have hlike : ∀ (_ : Unit) (w : NetworkTransaction β), Stands h.kernel (Like r h.kernel) w →
        Stands h.kernel Standing w :=
      fun _ w hw => hw.mono fun m K' hlike => standing_of_like hlike hstanding
    refine hperforms.elim hrecord ?_
    cases op with
    | prepare o d => exact Yields.post yields_prepare_like hlike
    | commitWithDrain o now timeout =>
      exact Yields.post (yields_commitWithDrain_like hstanding.1) hlike
    | setFailedPrefixes o prefixes => exact yields_setFailedPrefixes hstanding.1
    | updatePolicy o d =>
      refine Yields.post (yields_updatePolicy hstanding) fun _ w hw => ?_
      exact hw.mono fun m K' hupdated => hupdated.standing hstanding
    | renewLease o => exact Yields.post yields_renewLease_like hlike
    | updateMtu o mtu => exact Yields.post yields_updateMtu_like hlike
    | suspend o => exact Yields.post yields_suspend_like hlike
    | resume o => exact Yields.post yields_resume_like hlike
    | drainOld o now => exact hop.elim
    | rollback o => exact hop.elim
    | reconfigure o d => exact hop.elim
    | recoverOrphan alive now => exact hop.elim

/-- The table of a declaration holds its routes, however it came about. -/
theorem standing_of_reached (hreached : h.Reached J) :
    Standing h.transaction.record h.kernel := by
  induction hreached with
  | bare hbare =>
    rw [hbare.record]
    exact hbare.routes
  | performs _ hop hperforms ih => exact standing_of_performs hop hperforms ih

/-! ## The update -/

section Tables

variable {d : PrepareDeclaration} {plan : LinuxNetworkPlan} {failed : List Ipv4Prefix}
  {table : RoutingTable}

/-- Where a table agrees with the fresh one, if it agrees on the prefixes that are withdrawn, and on
those that only go into the tunnel or are only kept out. -/
theorem fresh_iff (hplan : LinuxNetworkPlan.compile d = .ok plan)
    (hinstalled : Installed d failed table) :
    (∀ p, table.lookup p = plan.fresh failed p)
      ↔ (∀ p ∈ table, Covers d p)
        ∧ (∀ p, inScope d p = true → KeptOut d p → p ∉ failed → table.lookup p = some .unicast)
        ∧ (failed ≠ [] → ∀ e ∈ d.exclusions, inScope d e.ipv4Prefix = true) := by
  have hfields := LinuxNetworkPlan.compileFields_of_compile hplan
  have hthrow := fun p => mem_throwPrefixes (p := p) hfields
  have hremote := fun p => inScope_iff (p := p) hfields
  have hexcluded : ∀ p, p ∈ plan.exclusions.map (·.ipv4Prefix)
      ↔ ∃ e ∈ d.exclusions, e.ipv4Prefix = p := by
    intro p
    rw [(LinuxNetworkPlan.of_compileFields hfields).2.2.2, List.mem_map]
  unfold LinuxNetworkPlan.fresh
  simp only [← hremote]
  constructor
  · intro h
    refine ⟨?_, ?_, ?_⟩
    · intro p hp
      by_contra hcovers
      obtain ⟨hscope, hkept⟩ := not_or.mp hcovers
      have hlookup := h p
      rw [if_neg fun hf => hscope (hinstalled.scope p hf), if_neg hscope,
        if_neg fun hboth => hkept ((hthrow p).mp hboth.1)] at hlookup
      exact Finmap.lookup_eq_none.mp hlookup hp
    · intro p hscope _ hfailed
      rw [h p, if_neg hfailed, if_pos hscope]
    · intro hne e he
      by_contra hscope
      -- The throw route of the exclusion is in the table, and not in the fresh one.
      have hlookup := h e.ipv4Prefix
      rw [if_neg fun hf => hscope (hinstalled.scope _ hf), if_neg hscope,
        if_neg fun hboth => hboth.2.elim hne fun hno => hno ((hexcluded _).mpr ⟨e, he, rfl⟩),
        hinstalled.keptOut _ (.inl ⟨e, he, rfl⟩) (by simpa using hscope)] at hlookup
      cases hlookup
  · rintro ⟨hcovers, hboth, hexclusions⟩ p
    by_cases hfailed : p ∈ failed
    · rw [if_pos hfailed, hinstalled.withdrawn p hfailed]
    by_cases hscope : inScope d p = true
    · rw [if_neg hfailed, if_pos hscope]
      by_cases hkept : KeptOut d p
      · exact hboth p hscope hkept hfailed
      · exact hinstalled.remote p hscope hkept hfailed
    · rw [if_neg hfailed, if_neg hscope]
      by_cases hkept : KeptOut d p
      · have hstays : failed = [] ∨ p ∉ plan.exclusions.map (·.ipv4Prefix) := by
          by_contra hgone
          obtain ⟨hne, hexclusion⟩ := not_or.mp hgone
          obtain ⟨e, he, rfl⟩ := (hexcluded p).mp (not_not.mp hexclusion)
          exact hscope (hexclusions hne e he)
        rw [hinstalled.keptOut p hkept (by simpa using hscope),
          if_pos ⟨(hthrow p).mpr hkept, hstays⟩]
      · rw [if_neg fun h => hkept ((hthrow p).mp h.1)]
        exact Finmap.lookup_eq_none.mpr fun hp => (hcovers p hp).elim hscope hkept

/-- A reconciliation adds no route of a prefix that the plan does not know, and deletes none. -/
theorem covers_reconcileRoutes_iff (hplan : LinuxNetworkPlan.compile d = .ok plan)
    (hscope : ∀ p ∈ failed, inScope d p = true) :
    (∀ p ∈ RoutingTable.reconcileRoutes plan failed table, Covers d p)
      ↔ ∀ p ∈ table, Covers d p := by
  have hfields := LinuxNetworkPlan.compileFields_of_compile hplan
  refine forall_congr' fun p => ?_
  by_cases hcovers : Covers d p
  · simp [hcovers]
  · have hother := hcovers
    rw [covers_iff hfields, not_or] at hother
    have hfailed : p ∉ failed := fun hf => hcovers (.inl (hscope p hf))
    have hkept : (RoutingTable.reconcileRoutes plan failed table).lookup p = table.lookup p := by
      rw [RoutingTable.lookup_reconcileRoutes, if_neg (not_or.mpr ⟨hother.2, hfailed⟩),
        if_neg hother.1]
    rw [← Finmap.lookup_isSome, ← Finmap.lookup_isSome, hkept]

end Tables

end Hosts

/-! ## Two updates -/

namespace Sample

/-- The site with a second branch behind 10.3.0.0/16. -/
def branches : PrepareDeclaration :=
  { declaration with
    routes := [{ ipv4Prefix := { network := 0x0a020000, prefixLen := 16 }, kind := .remote },
      { ipv4Prefix := { network := 0x0a030000, prefixLen := 16 }, kind := .remote }] }

/-- A host on which nothing was installed. -/
def host : Host TransactionRecord := { kernel := .bare, transaction := .fresh }

/-- The host with an active declaration. -/
def installed (d : PrepareDeclaration) : Host TransactionRecord :=
  (host.next exactFormat (.prepare owner d)).next exactFormat (.commitWithDrain owner 10 50)

/-- The site with two branches, updated to the one with the first of them. -/
def shrunk : Host TransactionRecord :=
  (installed branches).next exactFormat (.updatePolicy owner declaration)

theorem reached_installed {d : PrepareDeclaration}
    (hprepare : host.Performs exactFormat (.prepare owner d)
      (host.next exactFormat (.prepare owner d)))
    (hcommit : (host.next exactFormat (.prepare owner d)).Performs exactFormat
      (.commitWithDrain owner 10 50) (installed d)) : (installed d).Reached exactFormat :=
  have hbare : host.Reached exactFormat := .bare ⟨rfl, fun _ => rfl⟩
  have hprepared := Host.Reached.performs hbare
    (show Operation.InPlace (.prepare owner d) from trivial) hprepare
  .performs hprepared (show Operation.InPlace (.commitWithDrain owner 10 50) from trivial) hcommit

theorem reached_installed_declaration : (installed declaration).Reached exactFormat :=
  reached_installed (Host.performs_next (by decide) (by decide))
    (Host.performs_next (by decide) (by decide))

theorem reached_installed_branches : (installed branches).Reached exactFormat :=
  reached_installed (Host.performs_next (by decide) (by decide))
    (Host.performs_next (by decide) (by decide))

end Sample

end CandyRuntime.NetdV1
