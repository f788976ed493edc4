import CandyRuntime.NetdV2.CheckedValidation

/-!
# When the validation of a request leaves its machine integers

The masks of prefixes of at most 32 bits are the only ones `prefix_mask` can compute. The checks of
a declaration compute masks before any prefix of a JSON request has been checked, so a longer
prefix makes the subtraction underflow unless a check in front of the masks refuses the request.
-/

namespace CandyRuntime.NetdProto

variable {d : PrepareDeclaration} {α β : Type}

/-! ## Masks -/

theorem checkedPrefixMask_of_le {prefixLen : UInt8} (h : prefixLen ≤ 32) :
    checkedPrefixMask prefixLen = some (prefixMask prefixLen) := by
  have hall : ∀ n < 33,
      checkedPrefixMask (UInt8.ofNat n) = some (prefixMask (UInt8.ofNat n)) := by
    decide
  have h : prefixLen.toNat ≤ 32 := h
  simpa using hall prefixLen.toNat (by omega)

theorem checkedPrefixMask_of_lt {prefixLen : UInt8} (h : 32 < prefixLen) :
    checkedPrefixMask prefixLen = none := by
  have hall : ∀ n < 256, 32 < n → checkedPrefixMask (UInt8.ofNat n) = none := by
    decide +kernel
  simpa using hall prefixLen.toNat prefixLen.toNat_lt h

theorem Ipv4Prefix.checkedContains_of_le {p : Ipv4Prefix} (h : p.prefixLen ≤ 32)
    (address : UInt32) : p.checkedContains address = some (p.contains address) := by
  rw [checkedContains, checkedPrefixMask_of_le h]
  rfl

/-! ## Disjunctions -/

@[simp] theorem checkedAny_true (conditions : List (Option Bool)) :
    checkedAny (some true :: conditions) = some true := rfl

@[simp] theorem checkedAny_false (conditions : List (Option Bool)) :
    checkedAny (some false :: conditions) = checkedAny conditions := rfl

@[simp] theorem checkedAny_none (conditions : List (Option Bool)) :
    checkedAny (none :: conditions) = none := rfl

/-- A disjunction whose conditions all have a value. -/
theorem checkedAny_map {α : Type} {f : α → Option Bool} {g : α → Bool} {values : List α}
    (h : ∀ a ∈ values, f a = some (g a)) : checkedAny (values.map f) = some (values.any g) := by
  induction values with
  | nil => rfl
  | cons a values ih =>
    have hrest := ih fun b hb => h b (List.mem_cons_of_mem _ hb)
    rw [List.map_cons, h a List.mem_cons_self, List.any_cons]
    cases g a
    · simpa using hrest
    · simp

theorem Ipv4Prefix.checkedOverlaps_of_le {p q : Ipv4Prefix} (hp : p.prefixLen ≤ 32)
    (hq : q.prefixLen ≤ 32) : p.checkedOverlaps q = some (p.overlaps q) := by
  rw [checkedOverlaps, checkedContains_of_le hp, checkedContains_of_le hq, overlaps]
  cases p.contains q.network
  · cases q.contains p.network <;> rfl
  · rfl

/-! ## Ranges -/

theorem mapM_eq_map {f : α → Option β} {g : α → β} {values : List α}
    (h : ∀ a ∈ values, f a = some (g a)) : values.mapM f = some (values.map g) := by
  induction values with
  | nil => rfl
  | cons a values ih =>
    rw [List.mapM_cons, h a List.mem_cons_self, ih fun b hb => h b (List.mem_cons_of_mem _ hb)]
    rfl

theorem mapM_eq_none {f : α → Option β} {values : List α} {a : α} (ha : a ∈ values)
    (h : f a = none) : values.mapM f = none := by
  induction values with
  | nil => cases ha
  | cons b values ih =>
    rw [List.mapM_cons]
    rcases List.mem_cons.mp ha with rfl | ha
    · rw [h]
      rfl
    · rw [ih ha]
      cases f b <;> rfl

theorem checkedPrefixOverlap_of_le {prefixes : List Ipv4Prefix}
    (h : ∀ p ∈ prefixes, p.prefixLen ≤ 32) :
    checkedPrefixOverlap prefixes = some (hasPrefixOverlap prefixes) := by
  have hranges : prefixes.mapM (fun p => do
        let mask ← checkedPrefixMask p.prefixLen
        return (p.network.toNat, (p.network ||| ~~~ mask).toNat))
      = some (prefixes.map fun p =>
        (p.network.toNat, (p.network ||| ~~~ prefixMask p.prefixLen).toNat)) := by
    refine mapM_eq_map fun p hp => ?_
    rw [checkedPrefixMask_of_le (h p hp)]
    rfl
  rw [checkedPrefixOverlap, hranges]
  rfl

theorem checkedPrefixOverlap_of_lt {prefixes : List Ipv4Prefix}
    (h : ∃ p ∈ prefixes, 32 < p.prefixLen) : checkedPrefixOverlap prefixes = none := by
  obtain ⟨p, hp, hlt⟩ := h
  rw [checkedPrefixOverlap, mapM_eq_none hp]
  · rfl
  · rw [checkedPrefixMask_of_lt hlt]
    rfl

/-! ## Validations -/

@[simp] theorem run_ofExcept {α : Type} (result : Except NetdProtocolError α) :
    (Machine.ofExcept result).run = some result := rfl

/-- A check without arithmetic in front of others. -/
theorem run_check (c : Bool) (e : NetdProtocolError) {α : Type} (rest : Machine α) :
    (do Machine.ofExcept (refuseIf c e); rest : Machine α).run
      = if c then some (.error e) else rest.run := by
  cases c <;> rfl

theorem run_computed (o : Option α) (rest : α → Machine β) :
    (do let a ← ExceptT.lift o; rest a : Machine β).run = o.bind fun a => (rest a).run := by
  cases o <;> rfl

/-- A validation behind another one. -/
theorem run_bind (m : Machine α) (rest : α → Machine β) :
    (m >>= rest).run = m.run.bind fun
      | .ok a => (rest a).run
      | .error e => some (.error e) := by
  rw [ExceptT.run_bind]
  cases m.run with
  | none => rfl
  | some result => cases result <;> rfl

/-- `Ipv4Prefix::new` checks the length before it computes the mask. -/
theorem Ipv4Prefix.checkedNew_run (network : UInt32) (prefixLen : UInt8) :
    (Ipv4Prefix.checkedNew network prefixLen).run = some (Ipv4Prefix.new network prefixLen) := by
  rw [checkedNew, run_check, new]
  by_cases hlen : 32 < prefixLen
  · simp [hlen]
  · rw [run_computed, checkedPrefixMask_of_le (UInt8.not_lt.mp hlen), Option.bind_some, run_check]
    simp only [hlen, decide_false, Bool.false_eq_true, if_false, bne_iff_ne]
    split_ifs <;> rfl

namespace PrepareDeclaration

/-- The conditions of the second check, with the masks of all prefixes at hand. -/
def conflicting (d : PrepareDeclaration) : Bool :=
  hasPrefixOverlap d.siteRoutes
    || hasPrefixOverlap (d.exclusions.map (·.ipv4Prefix))
    || d.siteRoutes.any (fun p => d.exclusions.any fun e => p.overlaps e.ipv4Prefix)
    || d.siteRoutes.any (fun p => p.contains d.overlayRouterIpv4)
    || d.exclusions.any (fun e => e.ipv4Prefix.contains d.overlayRouterIpv4)
    || d.overlayRouterIpv4 == 0
    || decide ((224 : UInt32) ≤ d.overlayRouterIpv4 >>> 24)

theorem validate_eq (d : PrepareDeclaration) : d.validate = (do
      refuseIf d.outOfBounds .invalidDeclaration
      refuseIf (d.misordered || d.conflicting) .invalidDeclaration) := by
  have hany : ∀ f : Ipv4Prefix → Bool,
      d.routes.any (fun r => r.kind != .remoteEgress && f r.ipv4Prefix) = d.siteRoutes.any f := by
    intro f
    rw [siteRoutes, List.any_map, List.any_filter]
    rfl
  unfold validate conflicting
  rw [← hany, ← hany]
  simp only [outOfBounds, misordered, siteRoutes, Bool.or_assoc]

/-- The second check, when every mask it needs has at most 32 bits. -/
theorem checkedAny_conflicting (hroutes : ∀ p ∈ d.siteRoutes, p.prefixLen ≤ 32)
    (hexclusions : ∀ e ∈ d.exclusions, e.ipv4Prefix.prefixLen ≤ 32) :
    checkedAny [
      checkedPrefixOverlap d.siteRoutes,
      checkedPrefixOverlap (d.exclusions.map (·.ipv4Prefix)),
      checkedAny (d.siteRoutes.map fun p =>
        checkedAny (d.exclusions.map fun e => p.checkedOverlaps e.ipv4Prefix)),
      checkedAny (d.siteRoutes.map fun p => p.checkedContains d.overlayRouterIpv4),
      checkedAny (d.exclusions.map fun e => e.ipv4Prefix.checkedContains d.overlayRouterIpv4),
      some (d.overlayRouterIpv4 == 0),
      some (decide ((224 : UInt32) ≤ d.overlayRouterIpv4 >>> 24))] = some d.conflicting := by
  have hall : ∀ conditions : List Bool,
      checkedAny (conditions.map some) = some (conditions.any id) :=
    fun conditions => checkedAny_map fun _ _ => rfl
  rw [checkedPrefixOverlap_of_le hroutes, checkedPrefixOverlap_of_le (by simpa using hexclusions),
    checkedAny_map fun p hp => checkedAny_map fun e he =>
      Ipv4Prefix.checkedOverlaps_of_le (hroutes p hp) (hexclusions e he),
    checkedAny_map fun p hp => Ipv4Prefix.checkedContains_of_le (hroutes p hp) _,
    checkedAny_map fun e he => Ipv4Prefix.checkedContains_of_le (hexclusions e he) _]
  refine (hall [_, _, _, _, _, _, _]).trans ?_
  simp only [conflicting, List.any_cons, List.any_nil, id_eq, Bool.or_false, Bool.or_assoc]

/-- The validation underflows exactly where it reaches the mask of a prefix of more than 32 bits;
elsewhere it has the result of the validation over wrapping arithmetic. -/
theorem checkedValidate_run (d : PrepareDeclaration) :
    d.checkedValidate.run = if d.Underflows then none else some d.validate := by
  rw [checkedValidate, run_check, run_computed, validate_eq]
  cases hbounds : d.outOfBounds with
  | true =>
    have hsafe : ¬ d.Underflows := by simp [Underflows, hbounds]
    rw [if_neg hsafe]
    rfl
  | false =>
    cases horder : d.misordered with
    | true =>
      have hsafe : ¬ d.Underflows := by simp [Underflows, horder]
      rw [if_neg hsafe]
      rfl
    | false =>
      rw [checkedAny_false, Bool.false_or]
      by_cases hroutes : ∃ p ∈ d.siteRoutes, 32 < p.prefixLen
      · have hunder : d.Underflows := ⟨hbounds, horder, .inl hroutes⟩
        rw [if_pos hunder, checkedPrefixOverlap_of_lt hroutes]
        rfl
      · have hroutes' : ∀ p ∈ d.siteRoutes, p.prefixLen ≤ 32 := by
          intro p hp
          exact UInt8.not_lt.mp fun hlt => hroutes ⟨p, hp, hlt⟩
        by_cases hexclusions : ∃ e ∈ d.exclusions, 32 < e.ipv4Prefix.prefixLen
        · have hlong : ∃ p ∈ d.exclusions.map (·.ipv4Prefix), 32 < p.prefixLen := by
            simpa using hexclusions
          rw [checkedPrefixOverlap_of_le hroutes', checkedPrefixOverlap_of_lt hlong]
          -- Routes that overlap are refused before the masks of the exclusions are computed.
          cases hoverlap : hasPrefixOverlap d.siteRoutes with
          | true =>
            have hsafe : ¬ d.Underflows := by simp [Underflows, hroutes, hoverlap]
            rw [if_neg hsafe, conflicting, hoverlap]
            rfl
          | false =>
            have hunder : d.Underflows := ⟨hbounds, horder, .inr ⟨hoverlap, hexclusions⟩⟩
            rw [if_pos hunder]
            rfl
        · have hexclusions' : ∀ e ∈ d.exclusions, e.ipv4Prefix.prefixLen ≤ 32 := by
            intro e he
            exact UInt8.not_lt.mp fun hlt => hexclusions ⟨e, he, hlt⟩
          have hsafe : ¬ d.Underflows := by
            rintro ⟨-, -, hlong | ⟨-, hlong⟩⟩
            · exact hroutes hlong
            · exact hexclusions hlong
          rw [if_neg hsafe, checkedAny_conflicting hroutes' hexclusions']
          rfl

end PrepareDeclaration

end CandyRuntime.NetdProto

namespace CandyRuntime.NetdV2

open NetdProto

/-! ## Loops over prefixes -/

theorem checkedNew_bind_run {α : Type} (p : Ipv4Prefix) (rest : Machine α) :
    (do let _ ← Ipv4Prefix.checkedNew p.network p.prefixLen; rest : Machine α).run
      = if p.Canonical then rest.run else some (.error .invalidDeclaration) := by
  rw [run_bind, Ipv4Prefix.checkedNew_run, Option.bind_some]
  unfold Ipv4Prefix.Canonical Ipv4Prefix.new
  split_ifs <;> simp_all

theorem checkedPrefixes_run (prefixes : List Ipv4Prefix) :
    (checkedPrefixes prefixes).run
      = some (refuseIf (prefixes.any fun p => decide (¬ p.Canonical)) .invalidDeclaration) := by
  induction prefixes with
  | nil => rfl
  | cons p prefixes ih =>
    rw [checkedPrefixes, checkedNew_bind_run, ih, List.any_cons]
    by_cases hp : p.Canonical
    · simp [hp]
    · simp [hp, refuseIf]

/-- The loop over the failed prefixes refuses what is not canonical and what it has seen. -/
theorem checkedUnique_run (unique prefixes : List Ipv4Prefix) (hunique : unique.Nodup) :
    (checkedUnique unique prefixes).run
      = some (refuseIf (prefixes.any (fun p => decide (¬ p.Canonical))
        || decide (¬ (prefixes ++ unique).Nodup)) .invalidDeclaration) := by
  induction prefixes generalizing unique with
  | nil => simp [checkedUnique, hunique, refuseIf]
  | cons p prefixes ih =>
    rw [checkedUnique, checkedNew_bind_run, run_check]
    by_cases hp : p.Canonical
    · by_cases hseen : p ∈ unique
      · simp [hp, hseen, refuseIf]
      · rw [ih (p :: unique) (List.nodup_cons.mpr ⟨hseen, hunique⟩)]
        have hmoved : (prefixes ++ p :: unique).Nodup ↔ (p :: prefixes ++ unique).Nodup :=
          List.perm_middle.nodup_iff
        simp only [hmoved]
        simp [hp, hseen]
    · simp [hp, refuseIf]

/-! ## Requests -/

/-- The validation `m` underflows exactly if `U` holds, and has the result `r` otherwise. -/
def Decides (m : Machine Unit) (r : Except NetdProtocolError Unit) (U : Prop) : Prop :=
  (U ∧ m.run = none) ∨ (¬ U ∧ m.run = some r)

section Decides

variable {m : Machine Unit} {r : Except NetdProtocolError Unit} {U V : Prop}

theorem Decides.of_run (h : m.run = some r) : Decides m r False := .inr ⟨id, h⟩

theorem Decides.congr (h : Decides m r U) (hiff : U ↔ V) : Decides m r V := by
  unfold Decides
  rw [← hiff]
  exact h

/-- A check without arithmetic keeps what stands behind it from underflowing. -/
theorem Decides.validated (h : Decides m r U) (result : Except NetdProtocolError Unit) :
    Decides (do Machine.ofExcept result; m) (do result; r) (result = .ok () ∧ U) := by
  cases result with
  | error e => exact .inr ⟨by simp, rfl⟩
  | ok u =>
    rcases h with ⟨hu, hrun⟩ | ⟨hu, hrun⟩
    · exact .inl ⟨⟨rfl, hu⟩, hrun⟩
    · exact .inr ⟨fun h => hu h.2, hrun⟩

theorem decides_checkedDeclaration (d : PrepareDeclaration) :
    Decides (checkedDeclaration d) (do d.validate; checkPrefixes d) d.Underflows := by
  unfold Decides
  rw [checkedDeclaration, run_bind, PrepareDeclaration.checkedValidate_run]
  by_cases hunder : d.Underflows
  · rw [if_pos hunder]
    exact .inl ⟨hunder, rfl⟩
  · rw [if_neg hunder, Option.bind_some]
    cases d.validate with
    | error e => exact .inr ⟨hunder, rfl⟩
    | ok u => exact .inr ⟨hunder, checkedPrefixes_run _⟩

end Decides

/-- The validation of the operation reaches a declaration that underflows. -/
def Operation.Underflows (operation : Operation) : Prop :=
  operation.Reaches ∧ ∃ d, operation.declaration = some d ∧ d.Underflows

theorem Operation.decides (operation : Operation) :
    Decides operation.checkedValidate operation.validate operation.Underflows := by
  induction operation with
  | inDomain domainId infraId operation ih =>
    refine (ih.validated _).congr ?_
    unfold Underflows
    rw [refuseIf_eq_ok, Reaches, declaration]
    cases operation <;> simp [and_assoc]
  | forwardPrepare infraId infraGeneration owner d =>
    refine (((decides_checkedDeclaration d).validated owner.validate).validated _).congr ?_
    unfold Underflows
    rw [refuseIf_eq_ok, Reaches, declaration]
    simp [and_assoc]
  | forwardPolicyUpdate owner policyRevision policyGeneration hash d =>
    refine (((decides_checkedDeclaration d).validated _).validated owner.validate).congr ?_
    unfold Underflows
    rw [refuseIf_eq_ok, Reaches, declaration]
    simp [and_assoc]
  | forwardFailedPrefixes owner failureRevision failedPrefixes =>
    have hloop := checkedUnique_run [] failedPrefixes List.nodup_nil
    rw [List.append_nil] at hloop
    refine (((Decides.of_run hloop).validated _).validated owner.validate).congr ?_
    simp [Underflows, Reaches]
  | _ => exact (Decides.of_run rfl).congr (by simp [Underflows, Reaches])

theorem Request.decides (r : Request) :
    Decides r.checkedValidate r.validate r.Underflows := by
  refine (r.operation.decides.validated _).congr ?_
  unfold Underflows Operation.Underflows
  rw [refuseIf_eq_ok]
  simp [and_assoc]

/-! ## What is accepted -/

theorem canonical_of_checkPrefixes (h : checkPrefixes d = .ok ()) :
    ∀ p ∈ d.routes.map (·.ipv4Prefix) ++ d.exclusions.map (·.ipv4Prefix),
      p.Canonical ∧ p.prefixLen ≤ 32 := by
  intro p hp
  rw [checkPrefixes, refuseIf_eq_ok, List.any_eq_false] at h
  have hcanonical : p.Canonical := by simpa using h p hp
  exact ⟨hcanonical, hcanonical.prefixLen_le⟩

/-- An accepted operation has canonical prefixes in its declaration. -/
theorem Operation.canonical_of_validate (operation : Operation) (h : operation.validate = .ok ())
    (hd : operation.declaration = some d) :
    ∀ p ∈ d.routes.map (·.ipv4Prefix) ++ d.exclusions.map (·.ipv4Prefix),
      p.Canonical ∧ p.prefixLen ≤ 32 := by
  induction operation with
  | inDomain domainId infraId operation ih =>
    obtain ⟨_, -, h⟩ := bind_eq_ok h
    exact ih h hd
  | forwardPrepare infraId infraGeneration owner d' =>
    obtain ⟨_, -, h⟩ := bind_eq_ok h
    obtain ⟨_, -, h⟩ := bind_eq_ok h
    obtain ⟨_, -, h⟩ := bind_eq_ok h
    cases hd
    exact canonical_of_checkPrefixes h
  | forwardPolicyUpdate owner policyRevision policyGeneration hash d' =>
    obtain ⟨_, -, h⟩ := bind_eq_ok h
    obtain ⟨_, -, h⟩ := bind_eq_ok h
    obtain ⟨_, -, h⟩ := bind_eq_ok h
    cases hd
    exact canonical_of_checkPrefixes h
  | _ => cases hd

/-- The validation of a request is safe exactly if it does not reach a mask of more than 32 bits. -/
theorem request_safely_validated_iff (r : Request) : r.SafelyValidated ↔ ¬ r.Underflows := by
  unfold Request.SafelyValidated
  rcases r.decides with ⟨hunder, hrun⟩ | ⟨hsafe, hrun⟩
  · rw [hrun]
    exact iff_of_false (by simp) (not_not_intro hunder)
  · refine iff_of_true ⟨r.validate, hrun, ?_⟩ hsafe
    intro h d hd
    obtain ⟨_, -, h⟩ := bind_eq_ok h
    exact r.operation.canonical_of_validate h hd

/-- A JSON request that declares the route 10.0.0.0/33. -/
def longRouteRequest : Request :=
  { requestId := 1
    callerInstanceId := Vector.replicate 16 1
    callerPid := 1
    operation := .forwardPrepare (Vector.replicate 16 1) 1
      { domainId := Vector.replicate 16 1, signedGeneration := 1, workerEpoch := 1,
        fencingToken := 1, authDeadlineMonoMs := 1, leaseDeadlineMonoMs := 1 }
      { tableId := 20000
        overlayRouterIpv4 := 0x64400002
        effectiveMtu := 1300
        routes := [{ ipv4Prefix := { network := 0x0a000000, prefixLen := 33 }, kind := .remote }]
        exclusions :=
          [{ ipv4Prefix := { network := 0x2f530100, prefixLen := 24 }, kind := .cloudApi }]
        firewall := { allowForward := true, clampTcpMss := true, requireIpv4Forwarding := true,
                      manageRpFilter := true } } }

/-- Its validation subtracts 33 from 32. -/
theorem long_route_underflows : ¬ longRouteRequest.SafelyValidated := by
  have hrun : longRouteRequest.checkedValidate.run = none := by decide
  unfold Request.SafelyValidated
  rw [hrun]
  simp

end CandyRuntime.NetdV2
