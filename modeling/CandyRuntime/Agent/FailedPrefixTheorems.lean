import CandyRuntime.Agent.Readiness
import CandyRuntime.CloudSync.DeclarationTheorems

/-!
# Failed prefixes on their way to netd

The agent keeps the failed prefixes in the order in which Core reports them, without repetitions. The
protocol of netd takes them in ascending order only. So a report reaches netd exactly if its entries
ascend (`handed_on_iff`).
-/

namespace CandyRuntime.Agent.V1

open Lib NetdProto CloudSync.Declaration

variable {declaration : PrepareDeclaration} {values : List String}

/-- Each entry repeats one of the prefixes seen before it, or is greater than all of them. -/
def Ascending (seen : List Ipv4Prefix) : List String → Prop
  | [] => True
  | value :: rest => ∀ p, parsePrefix value = .ok p →
    (p ∈ seen ∨ ∀ q ∈ seen, q < p) ∧ Ascending (p :: seen) rest

/-- The report lists the prefix. -/
def Lists (values : List String) (p : Ipv4Prefix) : Prop :=
  ∃ value ∈ values, parsePrefix value = .ok p

/-! ## The loop -/

/-- One entry that the loop takes. -/
theorem collect_eq_ok {prefixes prefixes' : List Ipv4Prefix} {value : String}
    (h : collectFailedPrefix declaration prefixes value = .ok prefixes') :
    ∃ p, parsePrefix value = .ok p ∧ (∃ route ∈ declaration.routes, route.ipv4Prefix = p)
      ∧ prefixes' = if p ∈ prefixes then prefixes else prefixes ++ [p] := by
  unfold collectFailedPrefix at h
  cases hparse : parsePrefix value with
  | error e =>
    rw [hparse] at h
    cases h
  | ok p =>
    simp only [hparse] at h
    split at h
    · next hroute =>
      obtain ⟨route, hmem, hp⟩ := List.any_eq_true.mp hroute
      simp only [Bool.and_eq_true, beq_iff_eq] at hp
      refine ⟨p, rfl, ⟨route, hmem, hp.1⟩, ?_⟩
      simp only [List.contains_iff_mem] at h
      split at h
      · next hcontains =>
        rw [if_pos hcontains]
        exact (Except.ok.inj h).symm
      · next hcontains =>
        rw [if_neg hcontains]
        exact (Except.ok.inj h).symm
    · cases h

/-- What the loop has collected, over the prefixes it began with. -/
structure Collected (declaration : PrepareDeclaration) (values : List String)
    (prefixes collected : List Ipv4Prefix) : Prop where
  mem : ∀ p, p ∈ collected ↔ p ∈ prefixes ∨ Lists values p
  nodup : prefixes.Nodup → collected.Nodup
  declared : (∀ p ∈ prefixes, ∃ route ∈ declaration.routes, route.ipv4Prefix = p) →
    ∀ p ∈ collected, ∃ route ∈ declaration.routes, route.ipv4Prefix = p
  ascending : ∀ seen, (∀ p, p ∈ seen ↔ p ∈ prefixes) →
    (collected.Pairwise (· < ·) ↔ prefixes.Pairwise (· < ·) ∧ Ascending seen values)

theorem collected_of_foldlM (values : List String) (prefixes collected : List Ipv4Prefix)
    (h : values.foldlM (collectFailedPrefix declaration) prefixes = .ok collected) :
    Collected declaration values prefixes collected := by
  induction values generalizing prefixes with
  | nil =>
    obtain rfl : prefixes = collected := Except.ok.inj h
    exact {
      mem := fun p => by simp [Lists]
      nodup := id
      declared := id
      ascending := fun seen _ => by simp [Ascending] }
  | cons value values ih =>
    rw [List.foldlM_cons] at h
    obtain ⟨prefixes', hcollect, hrest⟩ := bind_eq_ok h
    obtain ⟨p, hparse, hroute, hprefixes'⟩ := collect_eq_ok hcollect
    have hih := ih prefixes' hrest
    have hmem' : ∀ q, q ∈ prefixes' ↔ q ∈ prefixes ∨ q = p := by
      intro q
      rw [hprefixes']
      split
      · next hp =>
        constructor
        · exact .inl
        · rintro (hq | rfl)
          · exact hq
          · exact hp
      · simp
    refine { mem := ?_, nodup := ?_, declared := ?_, ascending := ?_ }
    · intro q
      rw [hih.mem, hmem']
      simp only [Lists, List.mem_cons, exists_eq_or_imp, hparse, Except.ok.injEq]
      rw [or_assoc, eq_comm (a := q)]
    · intro hnodup
      refine hih.nodup ?_
      rw [hprefixes']
      split
      · exact hnodup
      · next hp => exact List.nodup_append.mpr ⟨hnodup, List.nodup_singleton p, by grind⟩
    · intro hdeclared
      refine hih.declared fun q hq => ?_
      rcases (hmem' q).mp hq with hq | rfl
      · exact hdeclared q hq
      · exact hroute
    · intro seen hseen
      have hseen' : ∀ q, q ∈ p :: seen ↔ q ∈ prefixes' := by
        intro q
        rw [hmem', List.mem_cons, hseen, or_comm]
      have hascending : Ascending seen (value :: values)
          ↔ (p ∈ prefixes ∨ ∀ q ∈ prefixes, q < p) ∧ Ascending (p :: seen) values := by
        simp only [Ascending, hparse, Except.ok.injEq, forall_eq', hseen]
      rw [hih.ascending _ hseen', hascending, ← and_assoc]
      refine and_congr_left fun _ => ?_
      rw [hprefixes']
      split
      · next hp => simp [hp]
      · next hp =>
        rw [List.pairwise_append]
        simp [hp]

/-! ## The request -/

theorem validate_of_parseDeclaration {length : ℕ} {input : NetdDeclaration}
    (h : parseDeclaration length input = .ok declaration) : declaration.validate = .ok () := by
  unfold parseDeclaration at h
  obtain ⟨-, -, h⟩ := bind_eq_ok h
  obtain ⟨router, -, h⟩ := bind_eq_ok h
  obtain ⟨routes, -, h⟩ := bind_eq_ok h
  obtain ⟨exclusions, -, h⟩ := bind_eq_ok h
  simp only at h
  split at h
  · next hvalid =>
    obtain rfl := Except.ok.inj h
    exact hvalid
  · cases h

/-- The request that `set_failed_prefixes` sends for these prefixes. -/
def withdrawal (requestId : UInt64) (owner : LeaseOwner) (prefixes : List Ipv4Prefix) :
    NetdRequest where
  requestId
  owner
  operation := .withdrawPrefixes prefixes

/-- The request passes validation, and its encoding fits into a frame. -/
def Carried (request : NetdRequest) : Prop :=
  request.validate = .ok () ∧ ∃ frame, request.encode = .ok frame ∧ frame.length ≤ maxNetdFrameLen

variable {requestId : UInt64} {owner : LeaseOwner} {prefixes : List Ipv4Prefix}

theorem withdrawal_validate (hid : requestId ≠ 0) (howner : owner.validate = .ok ())
    (hlength : ∀ p ∈ prefixes, p.prefixLen ≤ 32) :
    (withdrawal requestId owner prefixes).validate = .ok () ↔ prefixes.Pairwise (· < ·) := by
  have hid' : (requestId == 0) = false := by simpa using hid
  have hmasks : prefixes.any (fun p => decide (32 < p.prefixLen)) = false := by
    rw [List.any_eq_false]
    intro p hp
    simpa using hlength p hp
  have hvalidate : (withdrawal requestId owner prefixes).validate = (do
      refuseIf (requestId == 0) .invalidRequest
      owner.validate
      refuseIf (!strictlySortedBy Ipv4Prefix.rank prefixes
        || prefixes.any (fun p => decide (32 < p.prefixLen))) .invalidRequest) := rfl
  have hsorted : (withdrawal requestId owner prefixes).validate
      = refuseIf (!strictlySortedBy Ipv4Prefix.rank prefixes) .invalidRequest := by
    rw [hvalidate, hid', howner, hmasks, Bool.or_false]
    rfl
  rw [hsorted, refuseIf_eq_ok, Bool.not_eq_false', NetdV1.strictlySortedBy_iff_pairwise]
  rfl

/-- A withdrawal of no more prefixes than there can be routes is never too long. -/
theorem carried_of_validate (hvalid : (withdrawal requestId owner prefixes).validate = .ok ())
    (hcount : prefixes.length ≤ maxRoutes) : Carried (withdrawal requestId owner prefixes) := by
  have hlist : (encodeVarint prefixes.length).length ≤ 10 :=
    NetdRequest.length_encodeVarint_le_ten (by unfold maxRoutes at hcount; omega)
  have hprefixes : (prefixes.flatMap encodePrefix).length ≤ prefixes.length * 14 := by
    refine NetdRequest.length_flatMap_le prefixes fun p _ => ?_
    have hmask := NetdRequest.length_encodeVarint_le_ten
      (Nat.lt_trans p.prefixLen.toNat_lt (by norm_num))
    simp only [encodePrefix, List.length_append, length_toBE]
    omega
  have hlength : (encodeOperation (withdrawal requestId owner prefixes).operation).length
      ≤ 1600000 := by
    unfold maxRoutes at hcount
    simp only [withdrawal, encodeOperation, List.length_append]
    omega
  have hencode := NetdRequest.encode_of_length hvalid hcount hlength
  exact ⟨hvalid, _, hencode.1, hencode.2⟩

/-! ## From the report to the request -/

theorem prefixLen_le_of_parsePrefix {value : String} {p : Ipv4Prefix}
    (h : parsePrefix value = .ok p) : p.prefixLen ≤ 32 := by
  unfold parsePrefix at h
  obtain ⟨⟨address, length⟩, -, h⟩ := bind_eq_ok h
  obtain ⟨prefixLen, -, h⟩ := bind_eq_ok h
  obtain ⟨network, -, h⟩ := bind_eq_ok h
  split at h
  · next hnew =>
    obtain rfl := Except.ok.inj h
    unfold Ipv4Prefix.new at hnew
    split_ifs at hnew with hlong
    obtain rfl := Except.ok.inj hnew
    exact UInt8.not_lt.mp hlong
  · cases h

/-- The prefixes of a report. -/
def CoreReadinessStatus.reported (status : CoreReadinessStatus) : List String :=
  status.failedPrefixes.getD []

variable {status status' : CoreReadinessStatus} {prefixes' : List Ipv4Prefix}

theorem collected_of_desired
    (h : desiredFailedPrefixes status declaration = .ok (some prefixes)) :
    Collected declaration status.reported [] prefixes := by
  unfold desiredFailedPrefixes parseFailedPrefixes at h
  unfold CoreReadinessStatus.reported
  cases hreported : status.failedPrefixes with
  | none =>
    rw [hreported] at h
    cases h
  | some values =>
    simp only [hreported] at h
    cases hfold : values.foldlM (collectFailedPrefix declaration) [] with
    | error e =>
      rw [hfold] at h
      cases h
    | ok collected =>
      rw [hfold] at h
      obtain rfl : collected = prefixes := by simpa [Except.map] using h
      exact collected_of_foldlM values [] collected hfold

/-- The prefixes that the agent takes from a report are in order exactly if the report is. -/
theorem Collected.pairwise_iff (h : Collected declaration values [] prefixes) :
    prefixes.Pairwise (· < ·) ↔ Ascending [] values := by
  rw [h.ascending [] fun p => Iff.rfl]
  simp

/-- There are no more of them than routes. -/
theorem Collected.length_le (h : Collected declaration values [] prefixes) :
    prefixes.length ≤ declaration.routes.length := by
  have hsubset : prefixes ⊆ declaration.routes.map (·.ipv4Prefix) := by
    intro p hp
    obtain ⟨route, hroute, heq⟩ := h.declared (by simp) p hp
    exact List.mem_map.mpr ⟨route, hroute, heq⟩
  have hle := (List.subperm_of_subset (h.nodup List.nodup_nil) hsubset).length_le
  rwa [List.length_map] at hle

theorem carried_iff (hdeclaration : declaration.validate = .ok ()) (hid : requestId ≠ 0)
    (howner : owner.validate = .ok ()) (h : Collected declaration values [] prefixes) :
    Carried (withdrawal requestId owner prefixes) ↔ Ascending [] values := by
  have hmasks : ∀ p ∈ prefixes, p.prefixLen ≤ 32 := by
    intro p hp
    obtain hp | ⟨value, -, hparse⟩ := (h.mem p).mp hp
    · simp at hp
    · exact prefixLen_le_of_parsePrefix hparse
  rw [← h.pairwise_iff, ← withdrawal_validate hid howner hmasks]
  constructor
  · exact fun hcarried => hcarried.1
  · exact fun hvalid => carried_of_validate hvalid
      (h.length_le.trans (Reader.lengths_of_validate hdeclaration).1.2)

/-- Of one set of prefixes there is one list in order. -/
theorem eq_of_pairwise (hsame : ∀ p, p ∈ prefixes ↔ p ∈ prefixes')
    (h : prefixes.Pairwise (· < ·)) (h' : prefixes'.Pairwise (· < ·)) : prefixes = prefixes' := by
  have hnodup : ∀ l : List Ipv4Prefix, l.Pairwise (· < ·) → l.Nodup := by
    intro l hl
    refine List.Pairwise.imp ?_ hl
    rintro p q hlt rfl
    exact Nat.lt_irrefl _ hlt
  refine ((List.perm_ext_iff_of_nodup (hnodup _ h) (hnodup _ h')).mpr hsame).eq_of_pairwise ?_ h h'
  intro p q _ _ hpq hqp
  exact absurd hpq (Nat.lt_asymm hqp)

/-- Both reports lead to a request that netd takes, and to the same one if they list the same
prefixes. -/
def HandedOn (requestId : UInt64) (owner : LeaseOwner) (status status' : CoreReadinessStatus)
    (prefixes prefixes' : List Ipv4Prefix) : Prop :=
  Carried (withdrawal requestId owner prefixes) ∧ Carried (withdrawal requestId owner prefixes')
    ∧ ((∀ p, Lists status.reported p ↔ Lists status'.reported p) →
      withdrawal requestId owner prefixes = withdrawal requestId owner prefixes')

/-- Two reports that the agent takes are handed on exactly if the entries of both ascend. -/
theorem handed_on_iff {length : ℕ} {input : NetdDeclaration}
    (hdeclaration : parseDeclaration length input = .ok declaration)
    (hdesired : desiredFailedPrefixes status declaration = .ok (some prefixes))
    (hdesired' : desiredFailedPrefixes status' declaration = .ok (some prefixes'))
    (hid : requestId ≠ 0) (howner : owner.validate = .ok ()) :
    HandedOn requestId owner status status' prefixes prefixes'
      ↔ Ascending [] status.reported ∧ Ascending [] status'.reported := by
  have hvalid := validate_of_parseDeclaration hdeclaration
  have hcollected := collected_of_desired hdesired
  have hcollected' := collected_of_desired hdesired'
  unfold HandedOn
  rw [carried_iff hvalid hid howner hcollected, carried_iff hvalid hid howner hcollected']
  constructor
  · exact fun h => ⟨h.1, h.2.1⟩
  · rintro ⟨h, h'⟩
    refine ⟨h, h', fun hsame => ?_⟩
    have hmem : ∀ p, p ∈ prefixes ↔ p ∈ prefixes' := by
      intro p
      rw [hcollected.mem, hcollected'.mem, hsame]
    rw [eq_of_pairwise hmem (hcollected.pairwise_iff.mpr h) (hcollected'.pairwise_iff.mpr h')]

/-! ## A site with two remote networks -/

namespace TwoNetworks

/-- The file with the declaration. -/
def file : NetdDeclaration where
  tableId := 20001
  overlayRouterIpv4 := "100.96.0.1"
  effectiveMtu := 1380
  routes := [⟨"10.1.0.0/24", "local"⟩, ⟨"10.2.0.0/24", "remote"⟩, ⟨"10.3.0.0/24", "remote"⟩]
  exclusions := [⟨"203.0.113.9/32", "cloud-api"⟩]
  firewall := ⟨true, true, true, true⟩

def site : PrepareDeclaration where
  tableId := 20001
  overlayRouterIpv4 := 0x64600001
  effectiveMtu := 1380
  routes := [⟨⟨0x0a010000, 24⟩, .localSite⟩, ⟨⟨0x0a020000, 24⟩, .remote⟩,
    ⟨⟨0x0a030000, 24⟩, .remote⟩]
  exclusions := [⟨⟨0xcb007109, 32⟩, .cloudApi⟩]
  firewall := ⟨true, true, true, true⟩

def holder : LeaseOwner := ⟨Vector.replicate 16 1, 42, 9, 10000⟩

/-- No route owner is ready, and these prefixes have failed. -/
def report (failed : List String) : CoreReadinessStatus where
  schemaVersion := 3
  generation := 9
  policyGeneration := 0
  pid := 42
  readinessToken := "00112233445566778899aabbccddeeff"
  lifecycle := "failed"
  configuredPeers := 2
  activePeers := 0
  requiredRouteOwners := 2
  readyRouteOwners := 0
  failedPrefixes := some failed
  inboundListenerConfigured := false
  inboundListenerReady := false
  inboundListenerEndpoints := []
  failOpenRequired := true
  lastErrorCode := some "route_peer_missing"
  lastErrorDetail := none
  paths := some []

end TwoNetworks

open TwoNetworks in
theorem handed_on_twoNetworks :
    HandedOn 1 holder (report ["10.2.0.0/24", "10.3.0.0/24"])
        (report ["10.2.0.0/24", "10.2.0.0/24", "10.3.0.0/24"])
        [⟨0x0a020000, 24⟩, ⟨0x0a030000, 24⟩] [⟨0x0a020000, 24⟩, ⟨0x0a030000, 24⟩]
      ↔ Ascending [] ["10.2.0.0/24", "10.3.0.0/24"]
        ∧ Ascending [] ["10.2.0.0/24", "10.2.0.0/24", "10.3.0.0/24"] :=
  handed_on_iff (show parseDeclaration 512 file = .ok site by decide)
    (by decide) (by decide) (by decide) (by decide)

open TwoNetworks in
/-- Core reports the second network first. -/
theorem not_carried_twoNetworks :
    parseDeclaration 512 file = .ok site
      ∧ desiredFailedPrefixes (report ["10.3.0.0/24", "10.2.0.0/24"]) site
        = .ok (some [⟨0x0a030000, 24⟩, ⟨0x0a020000, 24⟩])
      ∧ ¬ Carried (withdrawal 1 holder [⟨0x0a030000, 24⟩, ⟨0x0a020000, 24⟩]) := by
  refine ⟨by decide, by decide, fun h => absurd h.1 ?_⟩
  decide

end CandyRuntime.Agent.V1
