import CandyRuntime.NetdV1.Attributes
import Mathlib.Algebra.BigOperators.Group.List.Basic

/-!
# Netlink attributes are read back

An attribute whose length fits into 16 bits is read back as its payload and its kind without the flag
for nested ones. On any input the parser stops, as every attribute takes at least its header, and the
slices it gives lie in the input, one behind the other.
-/

namespace CandyRuntime.NetdV1

open Lib

variable {e : Endianness} {a : Attribute} {attributes : List Attribute} {offset fuel n : ℕ}
  {rest input tail : Bytes} {value : UInt16 × InputSlice} {values : List (UInt16 × InputSlice)}

/-! ## Alignment -/

theorem le_align4 (n : ℕ) : n ≤ align4 n := by
  unfold align4
  omega

theorem align4_add {m : ℕ} (h : align4 m = m) (n : ℕ) : align4 (m + n) = m + align4 n := by
  unfold align4 at *
  omega

theorem align4_align4 (n : ℕ) : align4 (align4 n) = align4 n := by
  unfold align4
  omega

/-- Filling up keeps what is there. -/
theorem resize_of_le (bytes : Bytes) (h : bytes.length ≤ n) :
    resize bytes n = bytes ++ List.replicate (n - bytes.length) 0 := by
  unfold resize
  rw [List.take_of_length_le h]

/-! ## One attribute -/

theorem length_neBytes (e : Endianness) (v : UInt16) : (neBytes e v).length = 2 := by
  cases e with
  | little => rfl
  | big => rfl

/-- A number of 16 bits is read back in either order of bytes. -/
theorem neBytes_spec (e : Endianness) (v : UInt16) :
    ∃ first second, neBytes e v = [first, second] ∧ fromNeBytes e first second = v := by
  have hjoin : v.toUInt8.toUInt16 ||| ((v >>> 8).toUInt8.toUInt16 <<< 8) = v := by
    have hshift : (8 : UInt16).toBitVec % 16 = 8#16 := by decide
    apply UInt16.toBitVec_inj.1
    ext i hi
    simp only [UInt16.toBitVec_or, UInt16.toBitVec_shiftLeft, UInt8.toBitVec_toUInt16,
      UInt16.toBitVec_toUInt8, UInt16.toBitVec_shiftRight, hshift]
    grind
  cases e with
  | little => exact ⟨_, _, rfl, hjoin⟩
  | big => exact ⟨_, _, rfl, hjoin⟩

/-- The bytes of one attribute, filled up. -/
def attrBytes (e : Endianness) (a : Attribute) : Bytes :=
  neBytes e (UInt16.ofNat (4 + a.payload.length)) ++ neBytes e a.kind ++ a.payload
    ++ List.replicate (align4 (4 + a.payload.length) - (4 + a.payload.length)) 0

theorem length_attrBytes (e : Endianness) (a : Attribute) :
    (attrBytes e a).length = align4 (4 + a.payload.length) := by
  have hle := le_align4 (4 + a.payload.length)
  unfold attrBytes
  simp only [List.length_append, length_neBytes, List.length_replicate]
  omega

/-- Behind aligned output an attribute is laid out the same as anywhere. -/
theorem emitAttr_eq {output : Bytes} (h : align4 output.length = output.length) :
    emitAttr e output a = output ++ attrBytes e a := by
  have hlength : (output ++ neBytes e (UInt16.ofNat (4 + a.payload.length)) ++ neBytes e a.kind
      ++ a.payload).length = output.length + (4 + a.payload.length) := by
    simp only [List.length_append, length_neBytes]
    omega
  unfold emitAttr attrBytes
  dsimp only
  rw [resize_of_le _ (le_align4 _), hlength, align4_add h]
  simp only [List.append_assoc, Nat.add_sub_add_left]

theorem foldl_emitAttr_eq {output : Bytes} (h : align4 output.length = output.length) :
    attributes.foldl (emitAttr e) output = output ++ attributes.flatMap (attrBytes e) := by
  induction attributes generalizing output with
  | nil => simp
  | cons a attributes ih =>
    have haligned : align4 (output ++ attrBytes e a).length = (output ++ attrBytes e a).length := by
      rw [List.length_append, length_attrBytes, align4_add h, align4_align4]
    rw [List.foldl_cons, emitAttr_eq h, ih haligned, List.flatMap_cons, List.append_assoc]

/-- The parser finds an attribute at the head of its input. -/
theorem parseAttr_attrBytes (h : a.payload.length ≤ 65531) (offset : ℕ) (tail : Bytes) :
    parseAttr e offset (attrBytes e a ++ tail)
      = .ok ((a.kind &&& ~~~ nlaFNested, ⟨offset + 4, offset + (4 + a.payload.length)⟩),
        align4 (4 + a.payload.length)) := by
  obtain ⟨b0, b1, hlength, hread⟩ := neBytes_spec e (UInt16.ofNat (4 + a.payload.length))
  obtain ⟨b2, b3, hkind, hreadKind⟩ := neBytes_spec e a.kind
  have hvalue : (UInt16.ofNat (4 + a.payload.length)).toNat = 4 + a.payload.length := by
    apply UInt16.toNat_ofNat_of_lt'
    show 4 + a.payload.length < 65536
    omega
  have htotal := length_attrBytes e a
  have hle := le_align4 (4 + a.payload.length)
  have hcons : ∃ more, attrBytes e a ++ tail = b0 :: b1 :: b2 :: b3 :: more := by
    unfold attrBytes
    rw [hlength, hkind]
    exact ⟨_, rfl⟩
  obtain ⟨more, hmore⟩ := hcons
  have hlong : align4 (4 + a.payload.length) ≤ (b0 :: b1 :: b2 :: b3 :: more).length := by
    rw [← hmore, List.length_append, htotal]
    omega
  rw [hmore]
  unfold parseAttr
  simp only [hread, hvalue, hreadKind]
  rw [if_neg (by omega), if_neg (by omega)]

/-! ## The list -/

/-- With enough fuel the loop reads a list of attributes back. -/
theorem parseAttrsLoop_flatMap (tail : Bytes) (h : ∀ a ∈ attributes, a.payload.length ≤ 65531)
    (hfuel : attributes.length < fuel) (hinput : input = tail ++ attributes.flatMap (attrBytes e)) :
    ∃ values, parseAttrsLoop e fuel tail.length (attributes.flatMap (attrBytes e))
        = some (.ok values)
      ∧ values.map (fun v => (v.1, v.2.bytes? input))
        = attributes.map fun a => (a.kind &&& ~~~ nlaFNested, some a.payload) := by
  induction attributes generalizing fuel tail with
  | nil =>
    obtain ⟨fuel, rfl⟩ := Nat.exists_eq_add_one_of_ne_zero (Nat.ne_of_gt hfuel)
    exact ⟨[], by simp [parseAttrsLoop], rfl⟩
  | cons a attributes ih =>
    obtain ⟨fuel, rfl⟩ := Nat.exists_eq_add_one_of_ne_zero (Nat.ne_zero_of_lt hfuel)
    have ha := h a List.mem_cons_self
    have hlength := length_attrBytes e a
    have hne : (a :: attributes).flatMap (attrBytes e) ≠ [] := by
      intro hnil
      have hzero := congrArg List.length hnil
      have hle := le_align4 (4 + a.payload.length)
      rw [List.flatMap_cons, List.length_append, hlength, List.length_nil] at hzero
      omega
    have hnext : input = (tail ++ attrBytes e a) ++ attributes.flatMap (attrBytes e) := by
      rw [hinput, List.flatMap_cons, List.append_assoc]
    obtain ⟨values, hrun, hvalues⟩ := ih _ (fun b hb => h b (List.mem_cons_of_mem _ hb))
      (Nat.lt_of_succ_lt_succ hfuel) hnext
    rw [List.length_append, hlength] at hrun
    -- the payload lies behind what was read before and the header
    have hpayload : slice? input (tail.length + 4) (tail.length + (4 + a.payload.length))
        = some a.payload := by
      have hsplit : input = (tail ++ (neBytes e (UInt16.ofNat (4 + a.payload.length))
          ++ neBytes e a.kind)) ++ (a.payload ++ (List.replicate (align4 (4 + a.payload.length)
          - (4 + a.payload.length)) 0 ++ attributes.flatMap (attrBytes e))) := by
        rw [hinput, List.flatMap_cons, attrBytes]
        simp only [List.append_assoc]
      refine slice?_append hsplit ?_ ?_
      · simp [length_neBytes]
      · simp [length_neBytes]
        omega
    refine ⟨(a.kind &&& ~~~ nlaFNested, ⟨tail.length + 4, tail.length + (4 + a.payload.length)⟩)
      :: values, ?_, ?_⟩
    · rw [parseAttrsLoop, if_neg hne, List.flatMap_cons, parseAttr_attrBytes ha]
      simp only [← hlength, List.drop_left]
      rw [hlength, hrun]
      rfl
    · rw [List.map_cons, List.map_cons, hvalues]
      unfold InputSlice.bytes?
      rw [hpayload]

/-! ## Any input -/

/-- What one round does: it takes a header at least, and its slice lies in what it takes. -/
structure Taken (offset : ℕ) (rest : Bytes) (value : UInt16 × InputSlice) (aligned : ℕ) : Prop where
  header : 4 ≤ aligned
  inside : aligned ≤ rest.length
  start : offset ≤ value.2.start
  order : value.2.start ≤ value.2.stop
  stop : value.2.stop ≤ offset + aligned

theorem parseAttr_eq_ok {aligned : ℕ} (h : parseAttr e offset rest = .ok (value, aligned)) :
    Taken offset rest value aligned := by
  unfold parseAttr at h
  split at h
  · next b0 b1 b2 b3 more =>
    dsimp only at h
    split_ifs at h with hshort hlong
    have hle := le_align4 (fromNeBytes e b0 b1).toNat
    simp only [Except.ok.injEq, Prod.mk.injEq] at h
    obtain ⟨rfl, rfl⟩ := h
    exact ⟨by omega, by omega, by dsimp only; omega, by dsimp only; omega, by dsimp only; omega⟩
  · cases h

theorem parseAttrsLoop_isSome (hfuel : rest.length < fuel) :
    (parseAttrsLoop e fuel offset rest).isSome = true := by
  induction fuel generalizing offset rest with
  | zero => omega
  | succ fuel ih =>
    rw [parseAttrsLoop]
    by_cases hnil : rest = []
    · rw [if_pos hnil]
      rfl
    · rw [if_neg hnil]
      cases hparse : parseAttr e offset rest with
      | error error => rfl
      | ok result =>
        have htaken := parseAttr_eq_ok hparse
        have hheader := htaken.header
        have hpos := List.length_pos_iff.mpr hnil
        rw [Option.isSome_map]
        refine ih ?_
        rw [List.length_drop]
        omega

/-- The slices lie in the input, in order, behind the place where the loop starts. -/
theorem parseAttrsLoop_inside (h : parseAttrsLoop e fuel offset rest = some (.ok values)) :
    (∀ v ∈ values, offset ≤ v.2.start ∧ v.2.start ≤ v.2.stop
        ∧ v.2.stop ≤ offset + rest.length)
      ∧ values.Pairwise fun v v' => v.2.stop ≤ v'.2.start := by
  induction fuel generalizing offset rest values with
  | zero => cases h
  | succ fuel ih =>
    rw [parseAttrsLoop] at h
    split_ifs at h with hnil
    · obtain rfl : [] = values := Except.ok.inj (Option.some.inj h)
      exact ⟨fun v hv => absurd hv (List.not_mem_nil), List.Pairwise.nil⟩
    · cases hparse : parseAttr e offset rest with
      | error error =>
        rw [hparse] at h
        cases Option.some.inj h
      | ok result =>
        obtain ⟨value, aligned⟩ := result
        rw [hparse] at h
        obtain ⟨later, hlater, hmap⟩ := Option.map_eq_some_iff.mp h
        cases later with
        | error error => cases hmap
        | ok later =>
          obtain rfl : value :: later = values := Except.ok.inj hmap
          have htaken := parseAttr_eq_ok hparse
          obtain ⟨hinside, hpairwise⟩ := ih hlater
          have hheader := htaken.header
          have hin := htaken.inside
          have hstart := htaken.start
          have horder := htaken.order
          have hstop := htaken.stop
          rw [List.length_drop] at hinside
          refine ⟨fun v hv => ?_, List.pairwise_cons.mpr ⟨fun v hv => ?_, hpairwise⟩⟩
          · rcases List.mem_cons.mp hv with rfl | hv
            · omega
            · have hbehind := hinside v hv
              omega
          · have hbehind := hinside v hv
            omega

/-- What was emitted for attributes that fit is read back. -/
theorem parseAttrs_foldl_emitAttr (h : ∀ a ∈ attributes, a.payload.length ≤ 65531) :
    ∃ values, parseAttrs e (attributes.foldl (emitAttr e) []) = some (.ok values)
      ∧ values.map (fun v => (v.1, v.2.bytes? (attributes.foldl (emitAttr e) [])))
        = attributes.map fun a => (a.kind &&& ~~~ nlaFNested, some a.payload) := by
  have hbytes : attributes.foldl (emitAttr e) [] = attributes.flatMap (attrBytes e) :=
    foldl_emitAttr_eq (by rfl)
  have hlength : attributes.length ≤ (attributes.flatMap (attrBytes e)).length := by
    have hone : ∀ a ∈ attributes, 1 ≤ (attrBytes e a).length := by
      intro a _
      have hle := le_align4 (4 + a.payload.length)
      rw [length_attrBytes]
      omega
    have hsum := List.length_le_sum_of_one_le (attributes.map fun a => (attrBytes e a).length)
      (by simpa using hone)
    rw [List.length_flatMap]
    simpa using hsum
  rw [hbytes]
  exact parseAttrsLoop_flatMap [] h (Nat.lt_succ_of_le hlength) rfl

/-- Attributes that fit are read back, and on any input the parser ends with slices of it that do not
overlap. -/
theorem parseAttrs_round_trip :
    (∀ (e : Endianness) (attributes : List Attribute),
      (∀ a ∈ attributes, a.payload.length ≤ 65531) →
      ∃ values, parseAttrs e (attributes.foldl (emitAttr e) []) = some (.ok values)
        ∧ values.map (fun v => (v.1, v.2.bytes? (attributes.foldl (emitAttr e) [])))
          = attributes.map fun a => (a.kind &&& ~~~ nlaFNested, some a.payload))
    ∧ ∀ (e : Endianness) (input : Bytes), (parseAttrs e input).isSome = true
      ∧ ∀ values, parseAttrs e input = some (.ok values) →
        (∀ v ∈ values, v.2.start ≤ v.2.stop ∧ v.2.stop ≤ input.length)
          ∧ values.Pairwise fun v v' => v.2.stop ≤ v'.2.start := by
  refine ⟨fun e attributes h => parseAttrs_foldl_emitAttr h,
    fun e input => ⟨parseAttrsLoop_isSome (Nat.lt_succ_self _), fun values hvalues => ?_⟩⟩
  obtain ⟨hinside, hpairwise⟩ := parseAttrsLoop_inside hvalues
  refine ⟨fun v hv => ?_, hpairwise⟩
  have hbounds := hinside v hv
  omega

/-- A nested attribute in front of an empty one, and a list that is cut off. -/
theorem parseAttrs_round_trip_nested :
    (∃ values, parseAttrs .little ([nestedAttr .little 4 [⟨1, [9]⟩], ⟨2, []⟩].foldl
        (emitAttr .little) []) = some (.ok values)
      ∧ values.map (fun v => (v.1, v.2.bytes? ([nestedAttr .little 4 [⟨1, [9]⟩], ⟨2, []⟩].foldl
          (emitAttr .little) [])))
        = [nestedAttr .little 4 [⟨1, [9]⟩], ⟨2, []⟩].map fun a =>
          (a.kind &&& ~~~ nlaFNested, some a.payload))
    ∧ (parseAttrs .big [0, 9, 0, 1]).isSome = true :=
  ⟨parseAttrs_round_trip.1 .little _ (by decide), (parseAttrs_round_trip.2 .big _).1⟩

end CandyRuntime.NetdV1
