import CandyRuntime.NetdProto.Types
import Mathlib.Data.Set.Basic
import Mathlib.Tactic.Positivity

/-!
# Prefixes that are apart

`has_prefix_overlap` sorts the address ranges of its prefixes and compares neighbours. What it finds
is whether some two of the ranges meet, in whatever order the prefixes are given.
-/

namespace CandyRuntime.NetdProto

variable {p q : Ipv4Prefix} {address : UInt32}

namespace Ipv4Prefix

/-- The first address of a prefix. -/
def first (p : Ipv4Prefix) : ℕ := p.network.toNat

/-- The last address of a prefix. -/
def last (p : Ipv4Prefix) : ℕ := (p.network ||| ~~~ prefixMask p.prefixLen).toNat

/-- The two prefixes have no address in common. -/
def Apart (p q : Ipv4Prefix) : Prop := p.last < q.first ∨ q.last < p.first

instance (p q : Ipv4Prefix) : Decidable (p.Apart q) :=
  inferInstanceAs (Decidable (p.last < q.first ∨ q.last < p.first))

theorem first_le_last (p : Ipv4Prefix) : p.first ≤ p.last := by
  unfold first last
  rw [UInt32.toNat_or]
  exact Nat.left_le_or

theorem Apart.symm (h : p.Apart q) : q.Apart p := Or.symm h

instance : Std.Symm Apart where
  symm _ _ h := h.symm

/-- A prefix meets itself. -/
theorem not_apart_self (p : Ipv4Prefix) : ¬ p.Apart p := by
  have hle := p.first_le_last
  rintro (h | h)
  · omega
  · omega

end Ipv4Prefix

/-! ## The addresses of a prefix -/

/-- A longer mask keeps every bit a shorter one keeps. -/
theorem prefixMask_and {l l' : UInt8} (hle : l ≤ l') (hl' : l' ≤ 32) :
    prefixMask l' &&& prefixMask l = prefixMask l := by
  have hnested : ∀ m < 33, ∀ n < m + 1,
      prefixMask (UInt8.ofNat m) &&& prefixMask (UInt8.ofNat n) = prefixMask (UInt8.ofNat n) := by
    decide
  have hle : l.toNat ≤ l'.toNat := hle
  have hl' : l'.toNat ≤ 32 := hl'
  have h := hnested l'.toNat (by omega) l.toNat (by omega)
  simpa using h

namespace Ipv4Prefix

theorem contains_iff :
    p.contains address = true ↔ address &&& prefixMask p.prefixLen = p.network := by
  rw [contains, beq_iff_eq]

/-- An address of a prefix lies between its first and its last one. -/
theorem between_of_contains (h : p.contains address = true) :
    p.first ≤ address.toNat ∧ address.toNat ≤ p.last := by
  rw [contains_iff] at h
  have hfill : p.network ||| ~~~ prefixMask p.prefixLen
      = address ||| ~~~ prefixMask p.prefixLen := by
    rw [← h]
    apply UInt32.toBitVec_inj.1
    ext i
    simp only [UInt32.toBitVec_or, UInt32.toBitVec_and, UInt32.toBitVec_not, BitVec.getElem_or,
      BitVec.getElem_and, BitVec.getElem_not]
    cases address.toBitVec[i] <;> simp
  constructor
  · rw [first, ← h, UInt32.toNat_and]
    exact Nat.and_le_left
  · rw [last, hfill, UInt32.toNat_or]
    exact Nat.left_le_or

/-- Prefixes that are apart share no address. -/
theorem Apart.not_both (h : p.Apart q) (hp : p.contains address = true) : q.contains address = false := by
  by_contra hq
  have hp := between_of_contains hp
  have hq := between_of_contains (Bool.not_eq_false _ ▸ hq)
  unfold Apart at h
  omega

/-- Of two prefixes with a common address the longer one lies inside the shorter one. -/
theorem contains_network (hle : p.prefixLen ≤ q.prefixLen) (hq32 : q.prefixLen ≤ 32)
    (hp : p.contains address = true) (hq : q.contains address = true) :
    p.contains q.network = true := by
  rw [contains_iff] at *
  rw [← hq, UInt32.and_assoc, prefixMask_and hle hq32, hp]

/-- Two prefixes with a common address overlap. -/
theorem overlaps_of_contains (hp32 : p.prefixLen ≤ 32) (hq32 : q.prefixLen ≤ 32)
    (hp : p.contains address = true) (hq : q.contains address = true) :
    p.overlaps q = true := by
  rw [overlaps, Bool.or_eq_true]
  rcases UInt8.le_total p.prefixLen q.prefixLen with hle | hle
  · exact .inl (contains_network hle hq32 hp hq)
  · exact .inr (contains_network hle hp32 hq hp)

/-- The prefixes of one length do not share addresses. -/
theorem eq_of_contains (hlen : p.prefixLen = q.prefixLen) (hp : p.contains address = true)
    (hq : q.contains address = true) : p = q := by
  rw [contains_iff] at *
  rw [hlen] at hp
  obtain ⟨network, prefixLen⟩ := p
  obtain ⟨network', prefixLen'⟩ := q
  simp_all

theorem Canonical.prefixLen_le (h : p.Canonical) : p.prefixLen ≤ 32 := by
  unfold Canonical new at h
  split_ifs at h with hlen
  exact UInt8.not_lt.mp hlen

end Ipv4Prefix

/-! ## The block of addresses a prefix stands for -/

/-- The bits below a mask. -/
theorem toNat_not_prefixMask {l : UInt8} (hl : l ≤ 32) :
    (~~~ prefixMask l).toNat = 2 ^ (32 - l.toNat) - 1 := by
  have hmasks : ∀ n < 33, (~~~ prefixMask (UInt8.ofNat n)).toNat = 2 ^ (32 - n) - 1 := by
    decide
  have hl : l.toNat ≤ 32 := hl
  have h := hmasks l.toNat (by omega)
  simpa using h

/-- Masking an address clears the bits behind the network. -/
theorem toNat_and_prefixMask (address : UInt32) {l : UInt8} (hl : l ≤ 32) :
    (address &&& prefixMask l).toNat
      = address.toNat / 2 ^ (32 - l.toNat) * 2 ^ (32 - l.toNat) := by
  have hmask : (prefixMask l).toNat = 2 ^ 32 - (2 ^ (32 - l.toNat) - 1 + 1) := by
    have hnot := toNat_not_prefixMask hl
    rw [UInt32.toNat_not] at hnot
    have hlt := (prefixMask l).toNat_lt
    have hpos : 0 < 2 ^ (32 - l.toNat) := by positivity
    change 2 ^ 32 - 1 - (prefixMask l).toNat = _ at hnot
    omega
  have hle : 2 ^ (32 - l.toNat) - 1 < 2 ^ 32 := by
    have hpow : 2 ^ (32 - l.toNat) ≤ 2 ^ 32 := Nat.pow_le_pow_right (by omega) (by omega)
    omega
  rw [UInt32.toNat_and, hmask]
  apply Nat.eq_of_testBit_eq
  intro i
  rw [Nat.testBit_and, Nat.testBit_two_pow_sub_succ hle, Nat.testBit_two_pow_sub_one,
    Nat.testBit_mul_two_pow, Nat.testBit_div_two_pow]
  by_cases hi : 32 - l.toNat ≤ i
  · -- above the mask's edge the bit is the address's own, and there is none from 32 on
    have hsame : i - (32 - l.toNat) + (32 - l.toNat) = i := by omega
    rw [hsame]
    by_cases h32 : i < 32
    · simp [hi, h32]
    · have hbit : address.toNat.testBit i = false :=
        Nat.testBit_lt_two_pow (lt_of_lt_of_le address.toNat_lt
          (Nat.pow_le_pow_right (by omega) (by omega)))
      simp [hbit]
  · have hlow : i < 32 - l.toNat := by omega
    simp [hi, hlow]

namespace Ipv4Prefix

/-- The addresses that agree with the network in its leading bits. -/
def addresses (p : Ipv4Prefix) : Set UInt32 :=
  {a | a.toNat / 2 ^ (32 - p.prefixLen.toNat) = p.network.toNat / 2 ^ (32 - p.prefixLen.toNat)}

/-- A network has no bits behind its prefix length. -/
theorem Canonical.network_eq (h : p.Canonical) :
    p.network.toNat / 2 ^ (32 - p.prefixLen.toNat) * 2 ^ (32 - p.prefixLen.toNat)
      = p.network.toNat := by
  have hle := h.prefixLen_le
  unfold Canonical new at h
  split_ifs at h with hlen hhost
  have hhost : p.network &&& ~~~ prefixMask p.prefixLen = 0 := by simpa using hhost
  have hkeep : p.network &&& prefixMask p.prefixLen = p.network := by
    apply UInt32.toBitVec_inj.1
    ext i hi
    have hbit := congrArg (fun v : UInt32 => v.toBitVec[i]) hhost
    simp only [UInt32.toBitVec_and, UInt32.toBitVec_not, BitVec.getElem_and, BitVec.getElem_not,
      UInt32.toBitVec_zero, BitVec.getElem_zero] at hbit ⊢
    cases hn : p.network.toBitVec[i] <;> simp_all
  rw [← toNat_and_prefixMask p.network hle, hkeep]

/-- The program's test for an address is the definition. -/
theorem Canonical.contains_iff_mem (h : p.Canonical) (address : UInt32) :
    p.contains address = true ↔ address ∈ p.addresses := by
  have hpos : 0 < 2 ^ (32 - p.prefixLen.toNat) := by positivity
  rw [contains_iff, ← UInt32.toNat_inj, toNat_and_prefixMask address h.prefixLen_le]
  show _ ↔ address.toNat / 2 ^ (32 - p.prefixLen.toNat)
    = p.network.toNat / 2 ^ (32 - p.prefixLen.toNat)
  constructor
  · intro haddress
    rw [← haddress, Nat.mul_div_cancel _ hpos]
  · intro haddress
    rw [haddress, h.network_eq]

/-- The addresses of a prefix are all those from its first to its last one. -/
theorem Canonical.mem_addresses_iff (h : p.Canonical) (address : UInt32) :
    address ∈ p.addresses ↔ p.first ≤ address.toNat ∧ address.toNat ≤ p.last := by
  constructor
  · intro hmem
    exact between_of_contains ((h.contains_iff_mem address).mpr hmem)
  · rintro ⟨hfirst, hlast⟩
    have hnetwork := h.network_eq
    have hpos : 0 < 2 ^ (32 - p.prefixLen.toNat) := by positivity
    have hend : p.last = p.first + (2 ^ (32 - p.prefixLen.toNat) - 1) := by
      unfold last first
      rw [UInt32.toNat_or, toNat_not_prefixMask h.prefixLen_le]
      rw [← hnetwork, Nat.mul_comm, ← Nat.two_pow_add_eq_or_of_lt (by omega)]
    show address.toNat / 2 ^ (32 - p.prefixLen.toNat)
      = p.network.toNat / 2 ^ (32 - p.prefixLen.toNat)
    unfold first at hfirst hend
    refine Nat.div_eq_of_lt_le (by omega) ?_
    rw [Nat.succ_mul]
    omega

/-- The first address of a prefix belongs to it. -/
theorem Canonical.network_mem (h : p.Canonical) : p.network ∈ p.addresses :=
  (h.mem_addresses_iff p.network).mpr ⟨le_refl _, p.first_le_last⟩

/-- Prefixes that are not apart have an address in common: the later of the two networks. -/
theorem Canonical.apart_iff (hp : p.Canonical) (hq : q.Canonical) :
    p.Apart q ↔ ¬ (p.addresses ∩ q.addresses).Nonempty := by
  constructor
  · rintro hapart ⟨address, hmem, hmem'⟩
    rw [hp.mem_addresses_iff] at hmem
    rw [hq.mem_addresses_iff] at hmem'
    unfold Apart at hapart
    omega
  · intro hnone
    by_contra hmeet
    unfold Apart at hmeet
    have hple := p.first_le_last
    have hqle := q.first_le_last
    rcases Nat.le_total p.first q.first with hle | hle
    · refine hnone ⟨q.network, (hp.mem_addresses_iff _).mpr ?_, hq.network_mem⟩
      show p.first ≤ q.first ∧ q.first ≤ p.last
      omega
    · refine hnone ⟨p.network, hp.network_mem, (hq.mem_addresses_iff _).mpr ?_⟩
      show q.first ≤ p.first ∧ p.first ≤ q.last
      omega

/-- `overlaps` says whether two prefixes have an address in common. -/
theorem Canonical.overlaps_iff (hp : p.Canonical) (hq : q.Canonical) :
    p.overlaps q = true ↔ (p.addresses ∩ q.addresses).Nonempty := by
  constructor
  · intro h
    rw [overlaps, Bool.or_eq_true] at h
    rcases h with h | h
    · exact ⟨q.network, (hp.contains_iff_mem _).mp h, hq.network_mem⟩
    · exact ⟨p.network, hp.network_mem, (hq.contains_iff_mem _).mp h⟩
  · rintro ⟨address, hmem, hmem'⟩
    exact overlaps_of_contains hp.prefixLen_le hq.prefixLen_le
      ((hp.contains_iff_mem _).mpr hmem) ((hq.contains_iff_mem _).mpr hmem')

end Ipv4Prefix

/-! ## The sweep -/

/-- The order in which the ranges are swept. -/
private def rangeLe (a b : ℕ × ℕ) : Prop := a.1 < b.1 ∨ (a.1 = b.1 ∧ a.2 ≤ b.2)

private instance : DecidableRel rangeLe := fun a b =>
  inferInstanceAs (Decidable (a.1 < b.1 ∨ (a.1 = b.1 ∧ a.2 ≤ b.2)))

private instance : Std.Total rangeLe where
  total a b := by
    unfold rangeLe
    omega

private instance : IsTrans (ℕ × ℕ) rangeLe where
  trans a b c hab hbc := by
    unfold rangeLe at *
    omega

/-- On ranges in order, the sweep finds nothing exactly if each range ends before the next ones
begin. -/
theorem sweep_eq_false_iff {ranges : List (ℕ × ℕ)} (hsorted : ranges.Pairwise rangeLe)
    (hranges : ∀ a ∈ ranges, a.1 ≤ a.2) (furthestEnd : Option ℕ) :
    hasPrefixOverlap.sweep ranges furthestEnd = false ↔
      (∀ e, furthestEnd = some e → ∀ a ∈ ranges, e < a.1)
        ∧ ranges.Pairwise (fun a b => a.2 < b.1) := by
  induction ranges generalizing furthestEnd with
  | nil => simp [hasPrefixOverlap.sweep]
  | cons a ranges ih =>
    obtain ⟨start, stop⟩ := a
    have hrest := ih hsorted.of_cons (fun b hb => hranges b (List.mem_cons_of_mem _ hb)) (some stop)
    have hle : start ≤ stop := hranges _ List.mem_cons_self
    have hfirst : ∀ b ∈ ranges, start ≤ b.1 := by
      intro b hb
      have hab := List.rel_of_pairwise_cons hsorted hb
      unfold rangeLe at hab
      omega
    rw [hasPrefixOverlap.sweep]
    split_ifs with hmeets
    · refine iff_of_false (by simp) fun h => ?_
      cases furthestEnd with
      | none => simp at hmeets
      | some e =>
        have hlt : e < start := h.1 e rfl _ List.mem_cons_self
        have hmeets : start ≤ e := by simpa using hmeets
        omega
    · rw [hrest, List.pairwise_cons]
      have hbefore : ∀ e, furthestEnd = some e → e < start := by
        intro e he
        rw [he] at hmeets
        simpa using hmeets
      constructor
      · rintro ⟨hstop, hpairwise⟩
        refine ⟨fun e he b hb => ?_, fun b hb => hstop stop rfl b hb, hpairwise⟩
        rcases List.mem_cons.mp hb with rfl | hb
        · exact hbefore e he
        · have hb := hfirst b hb
          have he := hbefore e he
          omega
      · rintro ⟨_, hstop, hpairwise⟩
        refine ⟨fun e he b hb => ?_, hpairwise⟩
        rw [← Option.some.inj he]
        exact hstop b hb

/-- The check finds no overlap exactly if the prefixes are pairwise apart. -/
theorem hasPrefixOverlap_eq_false_iff (prefixes : List Ipv4Prefix) :
    hasPrefixOverlap prefixes = false ↔ prefixes.Pairwise Ipv4Prefix.Apart := by
  let range (p : Ipv4Prefix) : ℕ × ℕ := (p.first, p.last)
  let ranges := (prefixes.map range).insertionSort rangeLe
  have hsorted : ranges.Pairwise rangeLe := List.pairwise_insertionSort _ _
  have hperm : ranges.Perm (prefixes.map range) := List.perm_insertionSort _ _
  have hranges : ∀ a ∈ ranges, a.1 ≤ a.2 := by
    intro a ha
    obtain ⟨p, _, rfl⟩ := List.mem_map.mp (hperm.mem_iff.mp ha)
    exact p.first_le_last
  have hsweep : hasPrefixOverlap prefixes = hasPrefixOverlap.sweep ranges none := rfl
  -- Of two ranges in order, only the first can end before the other begins.
  have hordered : ranges.Pairwise (fun a b => a.2 < b.1)
      ↔ ranges.Pairwise (fun a b => a.2 < b.1 ∨ b.2 < a.1) := by
    constructor
    · exact List.Pairwise.imp fun h => .inl h
    · intro h
      refine List.Pairwise.imp_of_mem (fun {a b} _ hb h => ?_) (h.and hsorted)
      have hle := hranges b hb
      rcases h with ⟨hend | hend, hab⟩
      · exact hend
      · unfold rangeLe at hab
        omega
  rw [hsweep, sweep_eq_false_iff hsorted hranges, hordered, hperm.pairwise_iff fun h => h.symm,
    List.pairwise_map]
  simp only [reduceCtorEq, false_imp_iff, implies_true, true_and]
  exact Iff.rfl

/-- Both tests mean what their names say: the sweep finds an overlap exactly if two entries have an
address in common, and so does `overlaps` for two prefixes. -/
theorem overlap_tests_iff_common_address :
    (∀ prefixes : List Ipv4Prefix, (∀ p ∈ prefixes, p.Canonical) →
      (hasPrefixOverlap prefixes = true ↔ ∃ i j : Fin prefixes.length, i ≠ j
        ∧ ((prefixes.get i).addresses ∩ (prefixes.get j).addresses).Nonempty))
    ∧ ∀ p q : Ipv4Prefix, p.Canonical → q.Canonical →
      (p.overlaps q = true ↔ (p.addresses ∩ q.addresses).Nonempty) := by
  refine ⟨fun prefixes hcanonical => ?_, fun p q hp hq => hp.overlaps_iff hq⟩
  have happart : ∀ i j : Fin prefixes.length, (prefixes.get i).Apart (prefixes.get j)
      ↔ ¬ ((prefixes.get i).addresses ∩ (prefixes.get j).addresses).Nonempty := by
    intro i j
    exact (hcanonical _ (prefixes.get_mem i)).apart_iff (hcanonical _ (prefixes.get_mem j))
  rw [← not_iff_not, Bool.not_eq_true, hasPrefixOverlap_eq_false_iff, List.pairwise_iff_get]
  constructor
  · rintro hpairs ⟨i, j, hne, hcommon⟩
    rcases lt_or_gt_of_ne hne with hlt | hlt
    · exact (happart i j).mp (hpairs i j hlt) hcommon
    · exact (happart j i).mp (hpairs j i hlt) (Set.inter_comm _ _ ▸ hcommon)
  · intro hnone i j hlt
    exact (happart i j).mpr fun hcommon => hnone ⟨i, j, ne_of_lt hlt, hcommon⟩

/-- The two halves of the address space, the upper one first. -/
def Ipv4Prefix.halves : List Ipv4Prefix := [⟨0x80000000, 1⟩, ⟨0, 1⟩]

theorem overlap_tests_of_halves :
    (hasPrefixOverlap Ipv4Prefix.halves = true ↔ ∃ i j : Fin Ipv4Prefix.halves.length, i ≠ j
      ∧ ((Ipv4Prefix.halves.get i).addresses ∩ (Ipv4Prefix.halves.get j).addresses).Nonempty)
    ∧ (Ipv4Prefix.overlaps ⟨0, 0⟩ ⟨0xffffffff, 32⟩ = true
      ↔ (Ipv4Prefix.addresses ⟨0, 0⟩ ∩ Ipv4Prefix.addresses ⟨0xffffffff, 32⟩).Nonempty) :=
  ⟨overlap_tests_iff_common_address.1 _ (by decide),
    overlap_tests_iff_common_address.2 _ _ (by decide) (by decide)⟩

/-! ## Valid declarations -/

/-- What `PrepareDeclaration::validate` asks of a declaration. -/
structure PrepareDeclaration.Valid (d : PrepareDeclaration) : Prop where
  table : candyTableMin ≤ d.tableId.toNat ∧ d.tableId.toNat ≤ candyTableMax
  mtu : 576 ≤ d.effectiveMtu ∧ d.effectiveMtu ≤ 1400
  routesNe : d.routes ≠ []
  routesLength : d.routes.length ≤ maxRoutes
  exclusionsNe : d.exclusions ≠ []
  exclusionsLength : d.exclusions.length ≤ maxExclusions
  routesSorted : strictlySortedBy (fun r => r.ipv4Prefix.rank * 8 + r.kind.code) d.routes = true
  exclusionsSorted :
    strictlySortedBy (fun e => e.ipv4Prefix.rank * 8 + e.kind.code) d.exclusions = true
  defaultRoutes : ∀ r ∈ d.routes, r.ipv4Prefix.prefixLen = 0 → r.kind = .remoteEgress
  defaultExclusions : ∀ e ∈ d.exclusions, e.ipv4Prefix.prefixLen ≠ 0
  routesApart :
    ((d.routes.filter (·.kind != .remoteEgress)).map (·.ipv4Prefix)).Pairwise Ipv4Prefix.Apart
  exclusionsApart : (d.exclusions.map (·.ipv4Prefix)).Pairwise Ipv4Prefix.Apart
  disjoint : ∀ r ∈ d.routes, r.kind ≠ .remoteEgress → ∀ e ∈ d.exclusions,
    r.ipv4Prefix.overlaps e.ipv4Prefix = false
  routerRoutes : ∀ r ∈ d.routes, r.kind ≠ .remoteEgress →
    r.ipv4Prefix.contains d.overlayRouterIpv4 = false
  routerExclusions : ∀ e ∈ d.exclusions, e.ipv4Prefix.contains d.overlayRouterIpv4 = false
  router : d.overlayRouterIpv4 ≠ 0
  unicast : d.overlayRouterIpv4 >>> 24 < 224

theorem PrepareDeclaration.validate_eq_ok_iff (d : PrepareDeclaration) :
    d.validate = .ok () ↔ d.Valid := by
  have hbind : ∀ c c' : Bool, (do
      refuseIf c NetdProtocolError.invalidDeclaration
      refuseIf c' NetdProtocolError.invalidDeclaration) = .ok () ↔ c = false ∧ c' = false := by
    decide
  unfold PrepareDeclaration.validate
  rw [hbind]
  simp only [Bool.or_eq_false_iff, decide_eq_false_iff_not, not_not, List.isEmpty_eq_false_iff,
    gt_iff_lt, Nat.not_lt, Bool.not_eq_eq_eq_not, Bool.not_false, List.any_eq_false,
    hasPrefixOverlap_eq_false_iff, Bool.and_eq_true, beq_iff_eq, bne_iff_ne, ne_eq, not_and,
    List.any_eq_true, not_exists, Bool.not_eq_true, beq_eq_false_iff_ne, UInt32.not_le,
    Classical.not_imp]
  constructor
  · rintro ⟨⟨⟨⟨⟨⟨htable, hmtu⟩, hrne⟩, hrlen⟩, hene⟩, helen⟩, ⟨⟨⟨⟨⟨⟨⟨⟨⟨⟨hrs, hes⟩, hrd⟩, hed⟩, hra⟩,
      hea⟩, hdis⟩, hrr⟩, hre⟩, hzero⟩, huni⟩⟩
    exact ⟨htable, hmtu, hrne, hrlen, hene, helen, hrs, hes, hrd, hed, hra, hea, hdis, hrr, hre,
      hzero, huni⟩
  · intro h
    exact ⟨⟨⟨⟨⟨⟨h.table, h.mtu⟩, h.routesNe⟩, h.routesLength⟩, h.exclusionsNe⟩, h.exclusionsLength⟩,
      ⟨⟨⟨⟨⟨⟨⟨⟨⟨⟨h.routesSorted, h.exclusionsSorted⟩, h.defaultRoutes⟩, h.defaultExclusions⟩,
      h.routesApart⟩, h.exclusionsApart⟩, h.disjoint⟩, h.routerRoutes⟩, h.routerExclusions⟩,
      h.router⟩, h.unicast⟩⟩

end CandyRuntime.NetdProto
