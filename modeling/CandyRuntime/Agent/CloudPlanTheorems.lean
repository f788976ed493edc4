import CandyRuntime.Agent.CloudPlan
import CandyRuntime.NetdProto.PrefixTheorems
import CandyRuntime.NetdV1.JournalableTheorems

/-!
# Whether the published plan can be read

The template and the declaration of Cloud are valid, each by itself. Their exclusions are put together
and sorted, and nothing looks at the result before it takes the place of the former plan. It can be read
exactly if an added exclusion is apart from the exclusions and routes of Cloud, there are not too many
of them, the file is not too long, and the generation is not zero (`published_readable_iff`).
-/

namespace CandyRuntime.Agent.CloudPlan

open Lib NetdProto NetdV2
open CloudSync.Declaration (orFail)

variable {cloud template : List UnderlayExclusion} {d t : PrepareDeclaration}

/-! ## The merged exclusions -/

/-- The exclusions of the template whose prefix Cloud does not have. -/
def added (cloud template : List UnderlayExclusion) : List UnderlayExclusion :=
  template.filter fun e => !cloud.any (·.ipv4Prefix == e.ipv4Prefix)

theorem foldl_addExclusion
    (hdistinct : template.Pairwise fun a b => a.ipv4Prefix ≠ b.ipv4Prefix) :
    template.foldl addExclusion cloud = cloud ++ added cloud template := by
  induction template generalizing cloud with
  | nil => simp [added]
  | cons e template ih =>
    obtain ⟨hfirst, hrest⟩ := List.pairwise_cons.mp hdistinct
    rw [List.foldl_cons, ih hrest, addExclusion]
    cases hany : cloud.any (·.ipv4Prefix == e.ipv4Prefix) with
    | true => simp [added, hany]
    | false =>
      -- what was just added has none of the prefixes that are still to come
      have hsame : added (cloud ++ [e]) template = added cloud template := by
        refine List.filter_congr fun other hother => ?_
        have hne : (e.ipv4Prefix == other.ipv4Prefix) = false := by
          simpa using hfirst other hother
        simp [hne]
      have hfirst_added : added cloud (e :: template) = e :: added cloud template := by
        simp [added, hany]
      rw [if_neg (by simp), hsame, hfirst_added, List.append_assoc, List.singleton_append]

theorem mergeExclusions_perm
    (hdistinct : template.Pairwise fun a b => a.ipv4Prefix ≠ b.ipv4Prefix) :
    (mergeExclusions cloud template).Perm (cloud ++ added cloud template) := by
  unfold mergeExclusions
  rw [foldl_addExclusion hdistinct]
  exact List.perm_insertionSort _ _

/-- Exclusions that are apart have different prefixes. -/
theorem distinct_of_apart (h : (template.map (·.ipv4Prefix)).Pairwise Ipv4Prefix.Apart) :
    template.Pairwise fun a b => a.ipv4Prefix ≠ b.ipv4Prefix := by
  rw [List.pairwise_map] at h
  refine h.imp fun {a b} hapart hsame => ?_
  rw [hsame] at hapart
  exact Ipv4Prefix.not_apart_self _ hapart

theorem exclusionKey_injective {a b : UnderlayExclusion} (h : exclusionKey a = exclusionKey b) :
    a.ipv4Prefix = b.ipv4Prefix := by
  have hcode : ∀ kind : UnderlayKind, kind.code < 8 := by
    intro kind
    cases kind <;> decide
  have ha := hcode a.kind
  have hb := hcode b.kind
  unfold exclusionKey at h
  apply Ipv4Prefix.rank_injective
  omega

/-- Sorted exclusions with different prefixes are in strict order. -/
theorem strictlySorted_mergeExclusions
    (hdistinct : (mergeExclusions cloud template).Pairwise fun a b =>
      a.ipv4Prefix ≠ b.ipv4Prefix) :
    strictlySortedBy (fun e => e.ipv4Prefix.rank * 8 + e.kind.code)
      (mergeExclusions cloud template) = true := by
  have : Std.Total fun a b : UnderlayExclusion => exclusionKey a ≤ exclusionKey b :=
    ⟨fun _ _ => Nat.le_total _ _⟩
  have : IsTrans UnderlayExclusion fun a b => exclusionKey a ≤ exclusionKey b :=
    ⟨fun _ _ _ => Nat.le_trans⟩
  have hsorted : (mergeExclusions cloud template).Pairwise fun a b =>
      exclusionKey a ≤ exclusionKey b := by
    unfold mergeExclusions
    exact List.pairwise_insertionSort _ _
  rw [NetdV1.strictlySortedBy_iff_pairwise]
  refine List.Pairwise.imp (fun {a b} h => ?_) (hsorted.and hdistinct)
  obtain ⟨hle, hne⟩ := h
  exact Nat.lt_of_le_of_ne hle fun hkey => hne (exclusionKey_injective hkey)

/-! ## The merged declaration -/

/-- The exclusions of a template can be added to a declaration: there are few enough of them, and the
added ones have no address in common with the exclusions and routes that are there. -/
structure Compatible (d : PrepareDeclaration) (template : List UnderlayExclusion) : Prop where
  count : d.exclusions.length + (added d.exclusions template).length ≤ maxExclusions
  exclusions : ∀ e ∈ added d.exclusions template, ∀ c ∈ d.exclusions,
    c.ipv4Prefix.Apart e.ipv4Prefix
  routes : ∀ e ∈ added d.exclusions template, ∀ r ∈ d.routes, r.kind ≠ .remoteEgress →
    r.ipv4Prefix.overlaps e.ipv4Prefix = false

/-- The declaration with the exclusions of a template. -/
def merged (d : PrepareDeclaration) (template : List UnderlayExclusion) : PrepareDeclaration :=
  { d with exclusions := mergeExclusions d.exclusions template }

theorem valid_merged_iff (hd : d.Valid) (ht : t.Valid)
    (hrouter : d.overlayRouterIpv4 = t.overlayRouterIpv4) :
    (merged d t.exclusions).Valid ↔ Compatible d t.exclusions := by
  have hperm : (mergeExclusions d.exclusions t.exclusions).Perm
      (d.exclusions ++ added d.exclusions t.exclusions) :=
    mergeExclusions_perm (distinct_of_apart ht.exclusionsApart)
  have hmem : ∀ e, e ∈ mergeExclusions d.exclusions t.exclusions
      ↔ e ∈ d.exclusions ∨ e ∈ added d.exclusions t.exclusions := by
    intro e
    rw [hperm.mem_iff, List.mem_append]
  have hlocal : ∀ e ∈ added d.exclusions t.exclusions, e ∈ t.exclusions :=
    fun e he => List.mem_of_mem_filter he
  have happart : ((merged d t.exclusions).exclusions.map (·.ipv4Prefix)).Pairwise Ipv4Prefix.Apart
      ↔ ∀ e ∈ added d.exclusions t.exclusions, ∀ c ∈ d.exclusions,
        c.ipv4Prefix.Apart e.ipv4Prefix := by
    have happend := (hperm.map (·.ipv4Prefix)).pairwise_iff
      (fun {x y} (h : Ipv4Prefix.Apart x y) => h.symm)
    have hd' := hd.exclusionsApart
    have ht' := ht.exclusionsApart
    rw [List.pairwise_map] at hd' ht'
    show ((mergeExclusions d.exclusions t.exclusions).map (·.ipv4Prefix)).Pairwise _ ↔ _
    rw [happend, List.pairwise_map, List.pairwise_append]
    constructor
    · rintro ⟨_, _, hcross⟩ e he c hc
      exact hcross c hc e he
    · intro hcross
      exact ⟨hd', ht'.filter _, fun c hc e he => hcross e he c hc⟩
  constructor
  · intro hvalid
    refine ⟨?_, happart.mp hvalid.exclusionsApart, ?_⟩
    · have hlength := hvalid.exclusionsLength
      change (mergeExclusions d.exclusions t.exclusions).length ≤ maxExclusions at hlength
      rwa [hperm.length_eq, List.length_append] at hlength
    · intro e he r hr hkind
      exact hvalid.disjoint r hr hkind e ((hmem e).mpr (.inr he))
  · intro hcompatible
    have hexclusionsApart := happart.mpr hcompatible.exclusions
    exact
      { hd with
        exclusionsNe := by
          intro hnil
          have hlength := congrArg List.length hnil
          change (mergeExclusions d.exclusions t.exclusions).length = 0 at hlength
          have hpos := List.length_pos_iff.mpr hd.exclusionsNe
          rw [hperm.length_eq, List.length_append] at hlength
          omega
        exclusionsLength := by
          show (mergeExclusions d.exclusions t.exclusions).length ≤ maxExclusions
          rw [hperm.length_eq, List.length_append]
          exact hcompatible.count
        exclusionsSorted := strictlySorted_mergeExclusions (distinct_of_apart hexclusionsApart)
        defaultExclusions := by
          intro e he
          rcases (hmem e).mp he with he | he
          · exact hd.defaultExclusions e he
          · exact ht.defaultExclusions e (hlocal e he)
        exclusionsApart := hexclusionsApart
        disjoint := by
          intro r hr hkind e he
          rcases (hmem e).mp he with he | he
          · exact hd.disjoint r hr hkind e he
          · exact hcompatible.routes e he r hr hkind
        routerExclusions := by
          intro e he
          rcases (hmem e).mp he with he | he
          · exact hd.routerExclusions e he
          · show e.ipv4Prefix.contains d.overlayRouterIpv4 = false
            rw [hrouter]
            exact ht.routerExclusions e (hlocal e he) }

/-! ## What is read -/

theorem check_bind_eq_ok_iff {α : Type} {m : Except String Unit} {f : Unit → Except String α}
    {a : α} : m.bind f = .ok a ↔ m = .ok () ∧ f () = .ok a := by
  cases m with
  | error e => exact ⟨nofun, fun h => nomatch h.1⟩
  | ok _ => exact ⟨fun h => ⟨rfl, h⟩, fun h => h.2⟩

theorem mapError_eq_ok_iff {ε : Type} {m : Except ε Unit} {f : ε → String} :
    m.mapError f = .ok () ↔ m = .ok () := by
  cases m with
  | error e => exact ⟨nofun, nofun⟩
  | ok _ => exact ⟨fun _ => rfl, fun _ => rfl⟩

/-- What `read_plan` asks of a plan besides its identity, the path of its configuration and its
declaration. -/
structure Sound (env : Surroundings) (plan : DomainPlan) : Prop where
  paths : [plan.netdSocket, plan.tunio, plan.core, plan.coreStatus, plan.bindingFile].all isAbsolute
  infrastructure : plan.infrastructure.validate = .ok ()
  supervision : supervisionInvalid plan = false
  worker : workerInvalid plan = false
  listener : listenerInvalid plan = false
  placement : placementInvalid plan = false
  pool : (plan.placement.any fun placement => !env.privateDirectory placement.poolDirectory) = false
  router : plan.infrastructure.overlayRouterIpv4 = plan.declaration.overlayRouterIpv4
  mtu : plan.infrastructure.mtu = plan.declaration.effectiveMtu

theorem checkPlan_eq_ok_iff {env : Surroundings} {plan : DomainPlan} :
    checkPlan env plan = .ok () ↔ identityInvalid plan = false ∧ isAbsolute plan.coreConfig = true
      ∧ plan.declaration.Valid ∧ Sound env plan := by
  unfold checkPlan
  simp only [Bind.bind, check_bind_eq_ok_iff, refuseIf_eq_ok, mapError_eq_ok_iff,
    PrepareDeclaration.validate_eq_ok_iff, Bool.or_eq_false_iff, bne_eq_false_iff_eq,
    Bool.not_eq_false', List.all_cons, List.all_nil, Bool.and_eq_true]
  constructor
  · rintro ⟨hidentity, ⟨hnetd, htunio, hcore, hconfig, hstatus, hbinding, _⟩, hinfra, hdecl, hsuper,
      hworker, hlistener, hplacement, hpool, hrouter, hmtu⟩
    refine ⟨hidentity, hconfig, hdecl, ?_, hinfra, hsuper, hworker, hlistener, hplacement, hpool,
      hrouter, hmtu⟩
    simp [hnetd, htunio, hcore, hstatus, hbinding]
  · rintro ⟨hidentity, hconfig, hdecl, hsound⟩
    have hpaths := hsound.paths
    simp only [List.all_cons, List.all_nil, Bool.and_eq_true] at hpaths
    obtain ⟨hnetd, htunio, hcore, hstatus, hbinding, _⟩ := hpaths
    exact ⟨hidentity, ⟨hnetd, htunio, hcore, hconfig, hstatus, hbinding, trivial⟩,
      hsound.infrastructure, hdecl, hsound.supervision, hsound.worker, hsound.listener,
      hsound.placement, hsound.pool, hsound.router, hsound.mtu⟩

theorem readPlan_eq_ok_iff {F : PlanFormat} {env : Surroundings} {file : PlanFile}
    {plan : DomainPlan} : readPlan F env file = .ok plan ↔
      (file.regular = true ∧ file.mode = 0o600 ∧ file.uid = env.euid
        ∧ file.bytes.length ≤ maxSignedConfigBytes)
      ∧ F.decode file.bytes = .ok plan ∧ checkPlan env plan = .ok () := by
  unfold readPlan
  simp only [Bind.bind, check_bind_eq_ok_iff, refuseIf_eq_ok, Bool.or_eq_false_iff,
    bne_eq_false_iff_eq, Bool.not_eq_false', decide_eq_false_iff_not, Nat.not_lt, and_assoc]
  refine and_congr_right fun _ => and_congr_right fun _ => and_congr_right fun _ =>
    and_congr_right fun _ => ?_
  cases hdecode : F.decode file.bytes with
  | error e => exact ⟨(fun h => by cases h), fun h => by cases h.1⟩
  | ok decoded =>
    show (checkPlan env decoded).bind (fun _ => .ok decoded) = .ok plan ↔ _
    rw [check_bind_eq_ok_iff]
    constructor
    · intro h
      obtain rfl := Except.ok.inj h.2
      exact ⟨rfl, h.1⟩
    · intro h
      obtain rfl := Except.ok.inj h.1
      exact ⟨h.2, rfl⟩

/-! ## What is published -/

section
variable {F : PlanFormat} {env : Surroundings} {a : Activation} {file : PlanFile}
  {plan : DomainPlan} {coreConfig : String} {generation expiry : ℕ} {bytes : Bytes}

/-- The plan that is published: the candidate, for the configuration itself and with the deadline that
Core has verified. -/
def activationPlan (plan : DomainPlan) (d : PrepareDeclaration) (generation : ℕ)
    (coreConfig : String) (expiry : ℕ) : DomainPlan :=
  { candidatePlan plan d generation coreConfig with authDeadlineUnix := min (2 ^ 64 - 1) expiry }

/-- When the authorization expires, in the report of Core on the candidate. -/
def reportedExpiry (a : Activation) (plan : DomainPlan) (d : PrepareDeclaration) (generation : ℕ) :
    Option ℕ := do
  let snapshot ← a.snapshot
  let report ← (a.compile (candidatePlan plan d generation snapshot)).toOption
  (report.field "authorization_expires_at_unix").asU64

/-- The plan is not too long as a file. -/
def Fits (F : PlanFormat) (a : Activation) (plan : DomainPlan) (d : PrepareDeclaration)
    (generation : ℕ) (coreConfig : String) : Prop :=
  ∀ expiry ∈ reportedExpiry a plan d generation, ∀ bytes,
    F.encode (activationPlan plan d generation coreConfig expiry) = .ok bytes →
    bytes.length ≤ maxSignedConfigBytes

theorem orFail_eq_ok_iff {α : Type} {o : Option α} {e : String} {v : α} :
    orFail o e = .ok v ↔ o = some v := by
  cases o with
  | none => exact ⟨nofun, nofun⟩
  | some w =>
    show Except.ok w = Except.ok v ↔ some w = some v
    rw [Except.ok.injEq, Option.some.injEq]

theorem compileVerifiedPlan_eq_ok {compile : DomainPlan → Except String Json}
    {candidate verified : DomainPlan} (h : compileVerifiedPlan compile candidate = .ok verified) :
    ∃ report expiry, compile candidate = .ok report
      ∧ (report.field "authorization_expires_at_unix").asU64 = some expiry
      ∧ verified = { candidate with authDeadlineUnix := min candidate.authDeadlineUnix expiry } := by
  obtain ⟨report, hcompile, h⟩ := bind_eq_ok h
  obtain ⟨_, _, h⟩ := bind_eq_ok h
  obtain ⟨expiry, hexpiry, h⟩ := bind_eq_ok h
  obtain ⟨_, _, h⟩ := bind_eq_ok h
  have hfield := (Option.filter_eq_some_iff.mp (orFail_eq_ok_iff.mp hexpiry)).1
  exact ⟨report, expiry, hcompile, hfield, (Except.ok.inj h).symm⟩

/-- What `cloud_activation_plan` has made when it returns. -/
structure Made (F : PlanFormat) (a : Activation) (plan : DomainPlan) (d : PrepareDeclaration)
    (generation : ℕ) (coreConfig : String) (expiry : ℕ) (bytes : Bytes) : Prop where
  template : templateRejected plan = false
  router : d.overlayRouterIpv4 = plan.infrastructure.overlayRouterIpv4
  mtu : d.effectiveMtu = plan.infrastructure.mtu
  reported : reportedExpiry a plan d generation = some expiry
  encode : F.encode (activationPlan plan d generation coreConfig expiry) = .ok bytes

theorem made_of_cloudActivationPlan (hplan : readPlan F env file = .ok plan)
    (h : cloudActivationPlan F env a file coreConfig d generation = .ok bytes) :
    ∃ expiry, Made F a plan d generation coreConfig expiry bytes := by
  obtain ⟨read, hread, h⟩ := bind_eq_ok h
  obtain rfl : plan = read := Except.ok.inj (hplan.symm.trans hread)
  obtain ⟨_, htemplate, h⟩ := bind_eq_ok h
  obtain ⟨_, hmatch, h⟩ := bind_eq_ok h
  obtain ⟨snapshot, hsnapshot, h⟩ := bind_eq_ok h
  obtain ⟨_, _, h⟩ := bind_eq_ok h
  obtain ⟨verified, hverified, h⟩ := bind_eq_ok h
  obtain ⟨_, _, hencode⟩ := bind_eq_ok h
  obtain ⟨report, expiry, hcompile, hexpiry, rfl⟩ := compileVerifiedPlan_eq_ok hverified
  have hmatch := (refuseIf_eq_ok _ _).mp hmatch
  simp only [Bool.or_eq_false_iff, bne_eq_false_iff_eq] at hmatch
  obtain ⟨⟨⟨_, hrouter⟩, hmtu⟩, _⟩ := hmatch
  refine ⟨expiry, (refuseIf_eq_ok _ _).mp htemplate, hrouter, hmtu, ?_, hencode⟩
  rw [reportedExpiry, orFail_eq_ok_iff.mp hsnapshot]
  show (a.compile _).toOption.bind _ = _
  rw [hcompile]
  exact hexpiry

theorem identityInvalid_activationPlan (htemplate : templateRejected plan = false)
    (hidentity : identityInvalid plan = false) :
    identityInvalid (activationPlan plan d generation coreConfig expiry) = false
      ↔ generation ≠ 0 := by
  unfold templateRejected at htemplate
  unfold identityInvalid at hidentity ⊢
  simp only [Bool.or_eq_false_iff] at htemplate hidentity ⊢
  obtain ⟨⟨⟨⟨⟨⟨hschema, hinstance⟩, hdomain⟩, hio⟩, hworker⟩, _⟩, _⟩ := hidentity
  have hnone : plan.bindingPolicyGeneration = none := by simpa using htemplate.2
  constructor
  · rintro ⟨⟨_, hgeneration⟩, _⟩ hzero
    have hne : generation ≠ 0 := beq_eq_false_iff_ne.mp hgeneration
    exact hne hzero
  · intro hgeneration
    refine ⟨⟨⟨⟨⟨⟨hschema, hinstance⟩, hdomain⟩, hio⟩, hworker⟩, ?_⟩, ?_⟩
    · exact beq_eq_false_iff_ne.mpr hgeneration
    · show (plan.bindingPolicyGeneration.any _) = false
      rw [hnone]
      rfl

/-- A valid declaration of Cloud with the router and the MTU of the template changes only what a plan
says about exclusions. -/
theorem checkPlan_activationPlan (hcheck : checkPlan env plan = .ok ()) (hvalid : d.Valid)
    (hmade : Made F a plan d generation coreConfig expiry bytes) :
    checkPlan env (activationPlan plan d generation coreConfig expiry) = .ok ()
      ↔ generation ≠ 0 ∧ isAbsolute coreConfig = true ∧ Compatible d plan.declaration.exclusions := by
  obtain ⟨hidentity, _, htemplate, hsound⟩ := checkPlan_eq_ok_iff.mp hcheck
  have hrouter : d.overlayRouterIpv4 = plan.declaration.overlayRouterIpv4 :=
    hmade.router.trans hsound.router
  have hnow : Sound env (activationPlan plan d generation coreConfig expiry) :=
    { paths := hsound.paths
      infrastructure := hsound.infrastructure
      supervision := hsound.supervision
      worker := hsound.worker
      listener := hsound.listener
      placement := hsound.placement
      pool := hsound.pool
      router := hmade.router.symm
      mtu := hmade.mtu.symm }
  rw [checkPlan_eq_ok_iff, identityInvalid_activationPlan hmade.template hidentity,
    ← valid_merged_iff hvalid htemplate hrouter]
  exact ⟨fun h => ⟨h.1, h.2.1, h.2.2.1⟩, fun h => ⟨h.1, h.2.1, h.2.2, hnow⟩⟩

/-- The published plan can be read exactly if Cloud's generation is not zero, the path of the
configuration is absolute, the exclusions of the template can be added to those of Cloud, and the file
is not too long. -/
theorem published_readable_iff (hformat : ∀ p b, F.encode p = .ok b → F.decode b = .ok p)
    (hplan : readPlan F env file = .ok plan) (hvalid : d.validate = .ok ())
    (hok : cloudActivationPlan F env a file coreConfig d generation = .ok bytes) :
    (∃ p, readPlan F env (publishedFile env bytes) = .ok p) ↔
      generation ≠ 0 ∧ isAbsolute coreConfig = true ∧ Compatible d plan.declaration.exclusions
        ∧ Fits F a plan d generation coreConfig := by
  obtain ⟨expiry, hmade⟩ := made_of_cloudActivationPlan hplan hok
  have hdecode := hformat _ _ hmade.encode
  have hcheck := checkPlan_activationPlan (readPlan_eq_ok_iff.mp hplan).2.2
    ((PrepareDeclaration.validate_eq_ok_iff d).mp hvalid) hmade
  constructor
  · rintro ⟨p, hread⟩
    obtain ⟨⟨_, _, _, hlength⟩, hp, hsame⟩ := readPlan_eq_ok_iff.mp hread
    obtain rfl := Except.ok.inj (hp.symm.trans hdecode)
    obtain ⟨hgeneration, habsolute, hcompatible⟩ := hcheck.mp hsame
    refine ⟨hgeneration, habsolute, hcompatible, fun other hother written hwritten => ?_⟩
    -- the report has one expiry, so there is one encoding
    obtain rfl : expiry = other := Option.some.inj (hmade.reported.symm.trans hother)
    obtain rfl := Except.ok.inj (hmade.encode.symm.trans hwritten)
    exact hlength
  · rintro ⟨hgeneration, habsolute, hcompatible, hfits⟩
    have hlength := hfits expiry hmade.reported bytes hmade.encode
    exact ⟨_, readPlan_eq_ok_iff.mpr ⟨⟨rfl, rfl, rfl, hlength⟩, hdecode,
      hcheck.mpr ⟨hgeneration, habsolute, hcompatible⟩⟩⟩

end

/-! ## A site with an exclusion of its own -/

open CloudSync.Declaration (jsonString jsonNumber jsonBool jsonObject jsonArray)

def jsonOctets (address : UInt32) : List Char :=
  jsonArray ((toBE 4 address.toNat).map fun b => jsonNumber b.toNat)

def jsonId (id : InstanceId) : List Char := jsonArray (id.toList.map fun b => jsonNumber b.toNat)

def jsonPrefix (p : Ipv4Prefix) : List Char :=
  jsonObject [("network", jsonOctets p.network), ("prefix_len", jsonNumber p.prefixLen.toNat)]

def routeKindName : RouteKind → String
  | .localSite => "Local"
  | .remote => "Remote"
  | .remoteEgress => "RemoteEgress"
  | .remoteEgressGateway => "RemoteEgressGateway"

def underlayKindName : UnderlayKind → String
  | .cloudApi => "CloudApi"
  | .hubEndpoint => "HubEndpoint"
  | .management => "Management"

def jsonDeclaration (d : PrepareDeclaration) : List Char :=
  jsonObject [
    ("table_id", jsonNumber d.tableId.toNat),
    ("overlay_router_ipv4", jsonOctets d.overlayRouterIpv4),
    ("effective_mtu", jsonNumber d.effectiveMtu.toNat),
    ("routes", jsonArray (d.routes.map fun r => jsonObject [("prefix", jsonPrefix r.ipv4Prefix),
      ("kind", jsonString (routeKindName r.kind))])),
    ("exclusions", jsonArray (d.exclusions.map fun e => jsonObject [
      ("prefix", jsonPrefix e.ipv4Prefix), ("kind", jsonString (underlayKindName e.kind))])),
    ("firewall", jsonObject [
      ("allow_forward", jsonBool d.firewall.allowForward),
      ("clamp_tcp_mss", jsonBool d.firewall.clampTcpMss),
      ("require_ipv4_forwarding", jsonBool d.firewall.requireIpv4Forwarding),
      ("manage_rp_filter", jsonBool d.firewall.manageRpFilter)])]

def jsonInfrastructure (s : InfraSpec) : List Char :=
  jsonObject [
    ("infra_id", jsonId s.infraId),
    ("generation", jsonNumber s.generation),
    ("netns_device", jsonNumber s.netnsDevice),
    ("netns_inode", jsonNumber s.netnsInode),
    ("overlay_router_ipv4", jsonOctets s.overlayRouterIpv4),
    ("mtu", jsonNumber s.mtu.toNat)]

def jsonOption {α : Type} (json : α → List Char) : Option α → List Char
  | none => "null".toList
  | some value => json value

/-- `serde_json::to_vec` of a plan without receipts, placement and listener, whose texts are ASCII. -/
def planText (plan : DomainPlan) : Bytes :=
  let text := jsonObject [
    ("schema_version", jsonNumber plan.schemaVersion.toNat),
    ("netd_socket", jsonString plan.netdSocket),
    ("tunio", jsonString plan.tunio),
    ("core", jsonString plan.core),
    ("core_config", jsonString plan.coreConfig),
    ("core_status", jsonString plan.coreStatus),
    ("binding_file", jsonString plan.bindingFile),
    ("instance_id", jsonId plan.instanceId),
    ("infrastructure", jsonInfrastructure plan.infrastructure),
    ("domain_id", jsonId plan.domainId),
    ("io_epoch", jsonNumber plan.ioEpoch),
    ("worker_epoch", jsonNumber plan.workerEpoch),
    ("fencing_token", jsonNumber plan.fencingToken),
    ("signed_generation", jsonNumber plan.signedGeneration),
    ("policy_revision", jsonNumber plan.policyRevision),
    ("auth_deadline_unix", jsonNumber plan.authDeadlineUnix),
    ("declaration", jsonDeclaration plan.declaration),
    ("routing_namespace", jsonOption jsonString plan.routingNamespace),
    ("independent_supervision", jsonOption (fun s => jsonObject [
      ("control_socket", jsonString s.controlSocket), ("status", jsonString s.status),
      ("process_record", jsonString s.processRecord)]) plan.independentSupervision),
    ("independent_worker", jsonOption (fun w => jsonObject [
      ("control_socket", jsonString w.controlSocket),
      ("process_record", jsonString w.processRecord)]) plan.independentWorker),
    ("authority", "null".toList), ("effective_plan_file", "null".toList),
    ("authorization_snapshot_sha256", "null".toList), ("pair_recovery", "null".toList),
    ("placement", "null".toList), ("shared_listener", "null".toList)]
  text.map fun c => UInt8.ofNat c.toNat

/-- The format on a few plans. -/
def tableFormat (plans : List DomainPlan) : PlanFormat where
  encode plan := if plan ∈ plans then .ok (planText plan) else .error "not in the table"
  decode bytes := orFail (plans.find? fun plan => planText plan = bytes) "not in the table"

theorem tableFormat_decode {plans : List DomainPlan}
    (hdistinct : ∀ p ∈ plans, (tableFormat plans).decode (planText p) = .ok p) :
    ∀ p b, (tableFormat plans).encode p = .ok b → (tableFormat plans).decode b = .ok p := by
  intro p b h
  change (if p ∈ plans then Except.ok (planText p) else .error "not in the table") = .ok b at h
  by_cases hp : p ∈ plans
  · rw [if_pos hp] at h
    obtain rfl := Except.ok.inj h
    exact hdistinct p hp
  · rw [if_neg hp] at h
    cases h

/-- The declaration of Cloud: a remote site behind a hub. -/
def cloudDeclaration : PrepareDeclaration where
  tableId := 20001
  overlayRouterIpv4 := 0x0a000001
  effectiveMtu := 1280
  routes := [⟨⟨0x0a010000, 16⟩, .remote⟩]
  exclusions := [⟨⟨0xcb007100, 24⟩, .hubEndpoint⟩]
  firewall := ⟨true, true, true, true⟩

/-- The template of a site that manages its devices through one address. -/
def siteTemplate (management : Ipv4Prefix) : DomainPlan where
  schemaVersion := 1
  netdSocket := "/run/netd"
  tunio := "/usr/bin/tunio"
  core := "/usr/bin/core"
  coreConfig := "/etc/client.toml"
  coreStatus := "/run/status"
  bindingFile := "/run/binding"
  instanceId := Vector.replicate 16 1
  infrastructure := ⟨Vector.replicate 16 2, 1, 4, 5, 0x0a000001, 1280⟩
  domainId := Vector.replicate 16 3
  ioEpoch := 1
  workerEpoch := 1
  fencingToken := 1
  signedGeneration := 1
  bindingPolicyGeneration := none
  policyRevision := 0
  authDeadlineUnix := 0
  declaration := { cloudDeclaration with
    routes := [⟨⟨0x0a020000, 16⟩, .localSite⟩], exclusions := [⟨management, .management⟩] }
  routingNamespace := none
  independentSupervision := some ⟨"/run/io", "/run/io.status", "/run/io.record"⟩
  independentWorker := some ⟨"/run/worker", "/run/worker.record"⟩
  authority := none
  effectivePlanFile := none
  authorizationSnapshotSha256 := none
  pairRecovery := none
  placement := none
  sharedListener := none
  workerCandidatePlan := none

/-- Core agrees with Cloud's declaration. -/
def siteReport : Json :=
  .obj [("segment_id", .str "03030303030303030303030303030303"),
    ("netd", .obj [("table_id", .int 20001), ("max_inner_mtu", .int 1280),
      ("overlay_router_ipv4", .str "10.0.0.1"), ("local_prefixes", .arr []),
      ("remote_routes", .arr [.obj [("kind", .str "remote"), ("destination", .str "10.1.0.0/16")]]),
      ("underlay_ipv4_exclusions", .arr [.str "203.0.113.0/24"])]),
    ("authorization_expires_at_unix", .int 2000), ("projection_generation", .int 7)]

def siteActivation : Activation where
  snapshot := some "/run/snapshot/client.toml"
  inTime := true
  compile := fun _ => .ok siteReport
  now := 1000

def siteSurroundings : Surroundings := ⟨0, fun _ => true⟩

/-- The plan of the site after the activation. -/
def sitePlan (management : Ipv4Prefix) : DomainPlan :=
  activationPlan (siteTemplate management) cloudDeclaration 7 "/state/client.toml" 2000

def siteFormat (management : Ipv4Prefix) : PlanFormat :=
  tableFormat [siteTemplate management, sitePlan management]

def siteFile (management : Ipv4Prefix) : PlanFile :=
  publishedFile siteSurroundings (planText (siteTemplate management))

theorem tableFormat_decode_head {p : DomainPlan} {plans : List DomainPlan} :
    (tableFormat (p :: plans)).decode (planText p) = .ok p := by
  simp [tableFormat, orFail]

/-- The two plans of the site name different configurations. -/
theorem siteFormat_decode {management : Ipv4Prefix}
    (hdiffer : (planText (siteTemplate management))[118]? ≠ (planText (sitePlan management))[118]?) :
    ∀ p b, (siteFormat management).encode p = .ok b → (siteFormat management).decode b = .ok p := by
  refine tableFormat_decode fun p hp => ?_
  rcases List.mem_pair.mp hp with rfl | rfl
  · exact tableFormat_decode_head
  · have hne : planText (siteTemplate management) ≠ planText (sitePlan management) :=
      fun h => hdiffer (congrArg (fun text => text[118]?) h)
    simp [tableFormat, orFail, hne]

theorem readPlan_siteFile {management : Ipv4Prefix}
    (hlength : (planText (siteTemplate management)).length ≤ maxSignedConfigBytes)
    (hcheck : checkPlan siteSurroundings (siteTemplate management) = .ok ()) :
    readPlan (siteFormat management) siteSurroundings (siteFile management)
      = .ok (siteTemplate management) :=
  readPlan_eq_ok_iff.mpr ⟨⟨rfl, rfl, rfl, hlength⟩, tableFormat_decode_head, hcheck⟩

theorem cloudActivationPlan_site {management : Ipv4Prefix}
    (hread : readPlan (siteFormat management) siteSurroundings (siteFile management)
      = .ok (siteTemplate management))
    (hverified : compileVerifiedPlan siteActivation.compile (candidatePlan (siteTemplate management)
      cloudDeclaration 7 "/run/snapshot/client.toml")
        = .ok { sitePlan management with coreConfig := "/run/snapshot/client.toml" }) :
    cloudActivationPlan (siteFormat management) siteSurroundings siteActivation (siteFile management)
      "/state/client.toml" cloudDeclaration 7 = .ok (planText (sitePlan management)) := by
  have hencode : (siteFormat management).encode (sitePlan management)
      = .ok (planText (sitePlan management)) := if_pos (by simp)
  unfold cloudActivationPlan
  rw [hread]
  show (compileVerifiedPlan siteActivation.compile _ >>= _) = _
  rw [hverified]
  exact hencode

/-- The address of the devices is outside the network of the hub. -/
theorem published_readable_iff_apart :
    (∃ p, readPlan (siteFormat ⟨0xc6336407, 32⟩) siteSurroundings
      (publishedFile siteSurroundings (planText (sitePlan ⟨0xc6336407, 32⟩))) = .ok p) ↔
      7 ≠ 0 ∧ isAbsolute "/state/client.toml" = true
        ∧ Compatible cloudDeclaration (siteTemplate ⟨0xc6336407, 32⟩).declaration.exclusions
        ∧ Fits (siteFormat ⟨0xc6336407, 32⟩) siteActivation (siteTemplate ⟨0xc6336407, 32⟩)
          cloudDeclaration 7 "/state/client.toml" :=
  have hread : readPlan _ _ (siteFile ⟨0xc6336407, 32⟩) = .ok (siteTemplate ⟨0xc6336407, 32⟩) :=
    readPlan_siteFile (by decide +kernel) (by decide +kernel)
  published_readable_iff (siteFormat_decode (by decide +kernel)) hread (by decide +kernel)
    (cloudActivationPlan_site hread (by decide +kernel))

/-- The address of the devices is in the network of the hub: the plan that takes the place of the
former one cannot be read. -/
theorem not_published_readable :
    ¬ ∀ (F : PlanFormat) (env : Surroundings) (a : Activation) (file : PlanFile)
      (plan : DomainPlan) (coreConfig : String) (d : PrepareDeclaration) (generation : ℕ)
      (bytes : Bytes), (∀ p b, F.encode p = .ok b → F.decode b = .ok p) →
      readPlan F env file = .ok plan → d.validate = .ok () →
      cloudActivationPlan F env a file coreConfig d generation = .ok bytes →
      ∃ p, readPlan F env (publishedFile env bytes) = .ok p := by
  intro h
  have htemplate : readPlan (siteFormat ⟨0xcb007107, 32⟩) siteSurroundings (siteFile ⟨0xcb007107, 32⟩)
      = .ok (siteTemplate ⟨0xcb007107, 32⟩) :=
    readPlan_siteFile (by decide +kernel) (by decide +kernel)
  have hdecode := (siteFormat_decode (by decide +kernel) :
    ∀ p b, (siteFormat ⟨0xcb007107, 32⟩).encode p = .ok b →
      (siteFormat ⟨0xcb007107, 32⟩).decode b = .ok p)
  obtain ⟨p, hread⟩ := h (siteFormat ⟨0xcb007107, 32⟩) siteSurroundings siteActivation
    (siteFile ⟨0xcb007107, 32⟩) (siteTemplate ⟨0xcb007107, 32⟩) "/state/client.toml" cloudDeclaration 7
    (planText (sitePlan ⟨0xcb007107, 32⟩)) hdecode htemplate (by decide)
    (cloudActivationPlan_site htemplate (by decide))
  obtain ⟨_, hp, hcheck⟩ := readPlan_eq_ok_iff.mp hread
  obtain rfl := Except.ok.inj (hp.symm.trans (hdecode _ _ (if_pos (by simp))))
  have hrefused : (checkPlan siteSurroundings (sitePlan ⟨0xcb007107, 32⟩)).toOption = none := by
    decide
  rw [hcheck] at hrefused
  cases hrefused

end CandyRuntime.Agent.CloudPlan
