import CandyRuntime.NetdProto.PrefixTheorems
import CandyRuntime.NetdV1.NetworkPlan

/-!
# What bypasses the overlay

The throw routes of a plan send the underlay endpoints and the local networks back to the main
table. The declaration's check keeps the ordinary routes away from them, and lets the remote
egress routes overlap them freely, so whether an address bypasses the overlay is a matter of the
lengths of the prefixes that contain it.
-/

namespace CandyRuntime.NetdV1

open NetdProto

/-! ## The longest match -/

section LongestMatch

variable {table : List TableRoute} {address : UInt32} {route : TableRoute}

theorem mem_of_longestMatch (h : longestMatch table address = some route) :
    route ∈ table ∧ route.ipv4Prefix.contains address = true := by
  have hmem := List.argmax_mem (Option.mem_def.mpr h)
  exact List.mem_filter.mp hmem

/-- No route of the table that contains the address is longer than its longest match. -/
theorem le_of_longestMatch (h : longestMatch table address = some route) {other : TableRoute}
    (hother : other ∈ table) (hcontains : other.ipv4Prefix.contains address = true) :
    other.ipv4Prefix.prefixLen ≤ route.ipv4Prefix.prefixLen :=
  List.le_of_mem_argmax (List.mem_filter.mpr ⟨hother, hcontains⟩) (Option.mem_def.mpr h)

/-- An address that some route of the table contains has a longest match. -/
theorem exists_longestMatch (hroute : route ∈ table)
    (hcontains : route.ipv4Prefix.contains address = true) :
    ∃ best, longestMatch table address = some best := by
  rw [← Option.isSome_iff_exists, Option.isSome_iff_ne_none]
  intro hnone
  have hempty : table.filter (fun r => r.ipv4Prefix.contains address) = [] :=
    List.argmax_eq_none.mp hnone
  have hmem : route ∈ table.filter (fun r => r.ipv4Prefix.contains address) :=
    List.mem_filter.mpr ⟨hroute, hcontains⟩
  rw [hempty] at hmem
  cases hmem

end LongestMatch

/-! ## The prefixes of a declaration -/

/-- The prefixes that a declaration keeps out of the tunnel: its exclusions and its local
networks. -/
def KeptOut (d : PrepareDeclaration) (p : Ipv4Prefix) : Prop :=
  (∃ e ∈ d.exclusions, e.ipv4Prefix = p) ∨ ∃ r ∈ d.routes, r.kind = .localSite ∧ r.ipv4Prefix = p

section Plan

variable {d : PrepareDeclaration} {plan : LinuxNetworkPlan} {p q : Ipv4Prefix} {address : UInt32}

theorem mem_throwPrefixes (h : LinuxNetworkPlan.compileFields d = .ok plan) :
    p ∈ plan.throwPrefixes ↔ KeptOut d p := by
  obtain ⟨-, hlocal, -, hexclusions⟩ := LinuxNetworkPlan.of_compileFields h
  rw [LinuxNetworkPlan.throwPrefixes, mem_sortDedup, List.mem_append, hlocal, hexclusions,
    mem_routesOfKind, List.mem_map, KeptOut, or_comm]
  simp

theorem mem_remoteRoutes (h : LinuxNetworkPlan.compileFields d = .ok plan) :
    p ∈ plan.remoteRoutes ↔ ∃ r ∈ d.routes, r.kind ≠ .localSite ∧ r.ipv4Prefix = p := by
  obtain ⟨-, -, hremote, -⟩ := LinuxNetworkPlan.of_compileFields h
  have hkinds : ∀ kind : RouteKind,
      kind ∈ [.remote, .remoteEgress, .remoteEgressGateway] ↔ kind ≠ .localSite := by
    intro kind
    cases kind <;> decide
  simp only [hremote, mem_routesOfKind, hkinds]

/-- Two routes outside the remote egress share no address unless they are one prefix. -/
theorem eq_of_routes_contain (hvalid : d.Valid) {r r' : RouteDeclaration} (hr : r ∈ d.routes)
    (hr' : r' ∈ d.routes) (hkind : r.kind ≠ .remoteEgress) (hkind' : r'.kind ≠ .remoteEgress)
    (hp : r.ipv4Prefix.contains address = true) (hq : r'.ipv4Prefix.contains address = true) :
    r = r' := by
  by_contra hne
  have hmem : r ∈ d.routes.filter (·.kind != .remoteEgress) :=
    List.mem_filter.mpr ⟨hr, by simpa using hkind⟩
  have hmem' : r' ∈ d.routes.filter (·.kind != .remoteEgress) :=
    List.mem_filter.mpr ⟨hr', by simpa using hkind'⟩
  have hsymm : Std.Symm (fun a b : RouteDeclaration => a.ipv4Prefix.Apart b.ipv4Prefix) :=
    ⟨fun _ _ h => h.symm⟩
  have hapart : r.ipv4Prefix.Apart r'.ipv4Prefix :=
    (List.pairwise_map.mp hvalid.routesApart).forall hmem hmem' hne
  rw [hapart.not_both hp] at hq
  cases hq

/-- A route outside the remote egress shares no address with an exclusion. -/
theorem not_contains_of_exclusion (hcanonical : d.Canonical) (hvalid : d.Valid)
    {r : RouteDeclaration} (hr : r ∈ d.routes) (hkind : r.kind ≠ .remoteEgress)
    {e : UnderlayExclusion} (he : e ∈ d.exclusions) (hp : e.ipv4Prefix.contains address = true) :
    r.ipv4Prefix.contains address = false := by
  by_contra hr'
  have hoverlap := Ipv4Prefix.overlaps_of_contains (hcanonical.1 r hr).prefixLen_le
    (hcanonical.2 e he).prefixLen_le (Bool.not_eq_false _ ▸ hr') hp
  rw [hvalid.disjoint r hr hkind e he] at hoverlap
  cases hoverlap

/-- An address lies in one prefix that is kept out at most. -/
theorem KeptOut.eq_of_contains (hcanonical : d.Canonical) (hvalid : d.Valid) (hp : KeptOut d p)
    (hq : KeptOut d q) (hpa : p.contains address = true) (hqa : q.contains address = true) :
    p = q := by
  have hlocal : RouteKind.localSite ≠ .remoteEgress := by decide
  rcases hp with ⟨e, he, rfl⟩ | ⟨r, hr, hkind, rfl⟩
  · rcases hq with ⟨e', he', rfl⟩ | ⟨r, hr, hkind, rfl⟩
    · by_contra hne
      have hapart := hvalid.exclusionsApart.forall (List.mem_map_of_mem he)
        (List.mem_map_of_mem he') hne
      rw [hapart.not_both hpa] at hqa
      cases hqa
    · rw [not_contains_of_exclusion hcanonical hvalid hr (hkind ▸ hlocal) he hpa] at hqa
      cases hqa
  · rcases hq with ⟨e, he, rfl⟩ | ⟨r', hr', hkind', rfl⟩
    · rw [not_contains_of_exclusion hcanonical hvalid hr (hkind ▸ hlocal) he hqa] at hpa
      cases hpa
    · rw [eq_of_routes_contain hvalid hr hr' (hkind ▸ hlocal) (hkind' ▸ hlocal) hpa hqa]

/-- Of the routes into the tunnel only a remote egress shares an address with a prefix that is kept
out. -/
theorem KeptOut.remoteEgress_of_contains (hcanonical : d.Canonical) (hvalid : d.Valid)
    (hp : KeptOut d p) (hpa : p.contains address = true) {r : RouteDeclaration} (hr : r ∈ d.routes)
    (hkind : r.kind ≠ .localSite) (hra : r.ipv4Prefix.contains address = true) :
    r.kind = .remoteEgress := by
  by_contra hegress
  rcases hp with ⟨e, he, rfl⟩ | ⟨r', hr', hkind', rfl⟩
  · rw [not_contains_of_exclusion hcanonical hvalid hr hegress he hpa] at hra
    cases hra
  · have hlocal : r'.kind ≠ .remoteEgress := by
      rw [hkind']
      decide
    rw [eq_of_routes_contain hvalid hr hr' hegress hlocal hra hpa] at hkind
    exact hkind hkind'

/-! ## The bypass -/

/-- An address that is kept out bypasses the overlay exactly if no remote egress route that contains
it is longer than the prefix that keeps it out. -/
theorem bypasses_iff (hcanonical : d.Canonical) (hplan : LinuxNetworkPlan.compile d = .ok plan)
    (hp : KeptOut d p) (hpa : p.contains address = true) :
    Bypasses plan.table address ↔ ∀ r ∈ d.routes, r.kind = .remoteEgress →
      r.ipv4Prefix.contains address = true → r.ipv4Prefix.prefixLen ≤ p.prefixLen := by
  obtain ⟨hvalid, hfields⟩ := LinuxNetworkPlan.compile_eq_ok_iff.mp hplan
  rw [PrepareDeclaration.validate_eq_ok_iff] at hvalid
  have hthrow : { ipv4Prefix := p, action := .throw } ∈ plan.table :=
    LinuxNetworkPlan.mem_table.mpr (.inl ⟨rfl, (mem_throwPrefixes hfields).mpr hp⟩)
  obtain ⟨best, hbest⟩ := exists_longestMatch hthrow hpa
  obtain ⟨hbestTable, hbestContains⟩ := mem_of_longestMatch hbest
  have hkept : ∀ q ∈ plan.throwPrefixes, q.contains address = true → q = p := by
    intro q hq hqa
    exact ((mem_throwPrefixes hfields).mp hq).eq_of_contains hcanonical hvalid hp hqa hpa
  unfold Bypasses
  rw [hbest, Option.map_some, Option.some_inj]
  constructor
  · intro haction r hr hkind hra
    have hmatch : best.ipv4Prefix = p := by
      rcases LinuxNetworkPlan.mem_table.mp hbestTable with ⟨-, hthrown⟩ | ⟨hunicast, -⟩
      · exact hkept _ hthrown hbestContains
      · rw [hunicast] at haction
        cases haction
    -- The egress route is in the table, or its prefix is kept out and is `p` itself.
    by_cases hshadowed : r.ipv4Prefix ∈ plan.throwPrefixes
    · rw [hkept _ hshadowed hra]
      exact UInt8.le_refl _
    · have hremote : r.ipv4Prefix ∈ plan.remoteRoutes :=
        (mem_remoteRoutes hfields).mpr ⟨r, hr, by rw [hkind]; decide, rfl⟩
      have hroute : { ipv4Prefix := r.ipv4Prefix, action := .unicast } ∈ plan.table :=
        LinuxNetworkPlan.mem_table.mpr (.inr ⟨rfl, hremote, hshadowed⟩)
      have hle := le_of_longestMatch hbest hroute hra
      rwa [hmatch] at hle
  · intro hshort
    rcases LinuxNetworkPlan.mem_table.mp hbestTable with ⟨hthrown, -⟩ | ⟨-, hremote, hfree⟩
    · exact hthrown
    · exfalso
      obtain ⟨r, hr, hkind, hroute⟩ := (mem_remoteRoutes hfields).mp hremote
      rw [← hroute] at hbestContains
      have hegress := hp.remoteEgress_of_contains hcanonical hvalid hpa hr hkind hbestContains
      -- The match is as long as `p`, so it is `p`.
      have hlen : r.ipv4Prefix.prefixLen = p.prefixLen := by
        refine UInt8.le_antisymm (hshort r hr hegress hbestContains) ?_
        rw [hroute]
        exact le_of_longestMatch hbest hthrow hpa
      rw [← hroute, Ipv4Prefix.eq_of_contains hlen hbestContains hpa] at hfree
      exact hfree ((mem_throwPrefixes hfields).mpr hp)

end Plan

/-! ## Two sites -/

namespace Site

/-- A site with a local network and a Cloud API network, and one remote egress route. -/
def declaration (egress : Ipv4Prefix) : PrepareDeclaration :=
  { tableId := 20614
    overlayRouterIpv4 := 0x64400002
    effectiveMtu := 1300
    routes := [{ ipv4Prefix := egress, kind := .remoteEgress },
      { ipv4Prefix := { network := 0xc0a80100, prefixLen := 24 }, kind := .localSite }]
    exclusions := [{ ipv4Prefix := { network := 0x2f530100, prefixLen := 24 }, kind := .cloudApi }]
    firewall := { allowForward := true, clampTcpMss := true, requireIpv4Forwarding := true,
                  manageRpFilter := true } }

/-- The plan of the site. -/
def plan (egress : Ipv4Prefix) : LinuxNetworkPlan :=
  { routeTable := 20614
    policyPriority := 20614
    localPrefixes := [{ network := 0xc0a80100, prefixLen := 24 }]
    remoteRoutes := [egress]
    remoteEgressGatewayRoutes := []
    exclusions := [{ ipv4Prefix := { network := 0x2f530100, prefixLen := 24 }, kind := .cloudApi }]
    nftTableName := "candy_sdwan_20614"
    routeMtu := 1300
    tcpAdvmss := 1260
    remoteEgress := true }

end Site

/-- With a default remote egress the Cloud API endpoint 47.83.1.189 bypasses the overlay. -/
theorem cloud_endpoint_bypasses : Bypasses (Site.plan { network := 0, prefixLen := 0 }).table
    0x2f5301bd :=
  (bypasses_iff (d := Site.declaration { network := 0, prefixLen := 0 })
    (p := { network := 0x2f530100, prefixLen := 24 }) (by decide) (by decide)
    (.inl ⟨_, List.mem_cons_self, rfl⟩) (by decide)).mpr (by decide)

/-- With the remote egress 47.83.1.128/25 the endpoint is routed into the tunnel. -/
theorem cloud_endpoint_captured : ¬ ∀ (d : PrepareDeclaration) (plan : LinuxNetworkPlan)
    (p : Ipv4Prefix) (address : UInt32), d.Canonical → LinuxNetworkPlan.compile d = .ok plan →
    KeptOut d p → p.contains address = true → Bypasses plan.table address := by
  intro h
  have hbypass := h (Site.declaration { network := 0x2f530180, prefixLen := 25 })
    (Site.plan { network := 0x2f530180, prefixLen := 25 })
    { network := 0x2f530100, prefixLen := 24 } 0x2f5301bd (by decide) (by decide)
    (.inl ⟨_, List.mem_cons_self, rfl⟩) (by decide)
  revert hbypass
  decide

end CandyRuntime.NetdV1
