import Mathlib.Data.Nat.Bitwise
import Mathlib.Data.List.Induction
import Mathlib.Tactic.Ring
import Mathlib.Tactic.Linarith

/-!
# Byte strings: fixed-width integers and varints

* `toBE` / `fromBE`, the big-endian form of a `k`-byte unsigned integer;
* `slice`, a half-open range of a byte string;
* `encodeVarint` / `decodeVarint`, the base-128 little-endian form of an unsigned integer
  below `2^64`: seven payload bits a byte, the top bit set on every byte but the last, at
  most ten bytes, and no superfluous zero byte at the end.

Every encoder comes with the equation that reads its output back in front of any rest.
-/

namespace CandyRuntime.Lib

/-- A byte string. -/
abbrev Bytes := List UInt8

/-! ## Big-endian integers -/

/-- The low `k` bytes of `n`, most significant first. -/
def toBE : ℕ → ℕ → Bytes
  | 0, _ => []
  | k + 1, n => toBE k (n / 256) ++ [UInt8.ofNat n]

/-- The number a byte string denotes, most significant byte first. -/
def fromBE (bs : Bytes) : ℕ := bs.foldl (fun acc b => acc * 256 + b.toNat) 0

@[simp] theorem length_toBE (k n : ℕ) : (toBE k n).length = k := by
  induction k generalizing n with
  | zero => rfl
  | succ k ih => simp [toBE, ih]

theorem fromBE_append_singleton (bs : Bytes) (b : UInt8) :
    fromBE (bs ++ [b]) = fromBE bs * 256 + b.toNat := by
  simp [fromBE]

theorem fromBE_toBE {k n : ℕ} (h : n < 256 ^ k) : fromBE (toBE k n) = n := by
  induction k generalizing n with
  | zero =>
    have : n = 0 := by simpa using h
    simp [this, toBE, fromBE]
  | succ k ih =>
    have hdiv : n / 256 < 256 ^ k := by
      rw [Nat.div_lt_iff_lt_mul (by norm_num)]
      simpa [pow_succ] using h
    rw [toBE, fromBE_append_singleton, ih hdiv, UInt8.toNat_ofNat']
    omega

theorem fromBE_lt (bs : Bytes) : fromBE bs < 256 ^ bs.length := by
  induction bs using List.reverseRecOn with
  | nil => simp [fromBE]
  | append_singleton bs b ih =>
    rw [fromBE_append_singleton, List.length_append, List.length_singleton, pow_succ]
    have := b.toNat_lt
    omega

/-- Reading a byte string and writing it back with its own width changes nothing. -/
theorem toBE_fromBE (bs : Bytes) : toBE bs.length (fromBE bs) = bs := by
  induction bs using List.reverseRecOn with
  | nil => rfl
  | append_singleton bs b ih =>
    have hb := b.toNat_lt
    rw [List.length_append, List.length_singleton, toBE, fromBE_append_singleton,
      show (fromBE bs * 256 + b.toNat) / 256 = fromBE bs by omega, ih]
    congr 2
    apply UInt8.toNat_inj.mp
    rw [UInt8.toNat_ofNat']
    omega

/-! ## Slices -/

/-- The bytes at positions `start ≤ i < stop`; `none` when the range is not inside the
string. -/
def slice? (bs : Bytes) (start stop : ℕ) : Option Bytes :=
  if start ≤ stop ∧ stop ≤ bs.length then some ((bs.drop start).take (stop - start)) else none

/-- A slice that starts where a known front part ends and covers exactly the next segment. -/
theorem slice?_append {bs pre seg post : Bytes} {start stop : ℕ}
    (hbs : bs = pre ++ (seg ++ post)) (hstart : start = pre.length)
    (hstop : stop = pre.length + seg.length) : slice? bs start stop = some seg := by
  subst hbs hstart hstop
  have hrange : pre.length ≤ pre.length + seg.length
      ∧ pre.length + seg.length ≤ (pre ++ (seg ++ post)).length := by
    simp only [List.length_append]
    omega
  rw [slice?, if_pos hrange]
  simp

/-! ## Varints -/

/-- The varint form of `value`. -/
def encodeVarint (value : ℕ) : Bytes :=
  if value < 0x80 then [UInt8.ofNat value]
  else UInt8.ofNat (value % 0x80 + 0x80) :: encodeVarint (value / 0x80)
termination_by value
decreasing_by omega

/-- The reading loop: `index` bytes have been read and denote `value`. -/
def decodeVarintFrom : Bytes → ℕ → ℕ → Option (ℕ × Bytes)
  | [], _, _ => none
  | byte :: rest, index, value =>
    let payload := byte.toNat % 0x80
    if 10 ≤ index ∨ (index = 9 ∧ 1 < payload) then none
    else if byte.toNat < 0x80 then
      if 0 < index ∧ payload = 0 then none
      else some (value ||| (payload <<< (index * 7)), rest)
    else decodeVarintFrom rest (index + 1) (value ||| (payload <<< (index * 7)))

/-- Read one varint off the front of a byte string; the rest comes back with it. -/
def decodeVarint (input : Bytes) : Option (ℕ × Bytes) := decodeVarintFrom input 0 0

/-- A number is its low seven bits and the rest shifted up, as a bitwise or. -/
theorem or_shiftLeft_seven (v : ℕ) : (v % 0x80) ||| ((v / 0x80) <<< 7) = v := by
  have h := Nat.two_pow_add_eq_or_of_lt (show v % 0x80 < 2 ^ 7 by omega) (v / 0x80)
  rw [Nat.or_comm, Nat.shiftLeft_eq, Nat.mul_comm, ← h]
  omega

/-- The loop reads an encoded number from any position at which its bits still fit. -/
theorem decodeVarintFrom_encodeVarint (v index acc : ℕ) (rest : Bytes) (hindex : index ≤ 9)
    (hv : v < 2 ^ (64 - index * 7)) (hpos : 0 < index → v ≠ 0) :
    decodeVarintFrom (encodeVarint v ++ rest) index acc
      = some (acc ||| (v <<< (index * 7)), rest) := by
  induction v using Nat.strongRecOn generalizing index acc with
  | ind v ih =>
    rw [encodeVarint]
    by_cases hlt : v < 0x80
    · -- the last byte: no continuation bit, and a payload of zero only on its own
      have hb : (UInt8.ofNat v).toNat = v := by rw [UInt8.toNat_ofNat']; omega
      have hlimit : ¬ (10 ≤ index ∨ (index = 9 ∧ 1 < v % 0x80)) := by
        rintro (h | ⟨rfl, h⟩)
        · omega
        · norm_num at hv; omega
      have hzero : ¬ (0 < index ∧ v % 0x80 = 0) := by
        rintro ⟨h, h0⟩
        have := hpos h
        omega
      rw [if_pos hlt, List.singleton_append, decodeVarintFrom]
      simp only [hb]
      rw [if_neg hlimit, if_pos hlt, if_neg hzero, Nat.mod_eq_of_lt hlt]
    · have hb : (UInt8.ofNat (v % 0x80 + 0x80)).toNat = v % 0x80 + 0x80 := by
        rw [UInt8.toNat_ofNat']; omega
      have hindex' : index ≤ 8 := by
        by_contra h
        have h9 : index = 9 := by omega
        subst h9
        norm_num at hv
        omega
      have hv' : v / 0x80 < 2 ^ (64 - (index + 1) * 7) := by
        rw [Nat.div_lt_iff_lt_mul (by norm_num)]
        calc v < 2 ^ (64 - index * 7) := hv
          _ = 2 ^ (64 - (index + 1) * 7 + 7) := by congr 1; omega
          _ = 2 ^ (64 - (index + 1) * 7) * 0x80 := by rw [pow_add]; norm_num
      have hshift : (acc ||| ((v % 0x80) <<< (index * 7))) ||| ((v / 0x80) <<< ((index + 1) * 7))
          = acc ||| (v <<< (index * 7)) := by
        rw [Nat.or_assoc, show (index + 1) * 7 = 7 + index * 7 by ring, Nat.shiftLeft_add,
          ← Nat.shiftLeft_or_distrib, or_shiftLeft_seven]
      rw [if_neg hlt, List.cons_append, decodeVarintFrom]
      simp only [hb]
      rw [if_neg (by omega), if_neg (by omega), show (v % 0x80 + 0x80) % 0x80 = v % 0x80 by omega,
        ih (v / 0x80) (by omega) (index + 1) _ (by omega) hv' (fun _ => by omega), hshift]

/-- Reading an encoded number gives it back, whatever follows it. -/
theorem decodeVarint_encodeVarint {v : ℕ} (hv : v < 2 ^ 64) (rest : Bytes) :
    decodeVarint (encodeVarint v ++ rest) = some (v, rest) := by
  rw [decodeVarint, decodeVarintFrom_encodeVarint v 0 0 rest (by omega) (by simpa using hv)
    (by omega)]
  simp

/-- One byte for numbers below 128. -/
theorem encodeVarint_of_lt {v : ℕ} (h : v < 0x80) : encodeVarint v = [UInt8.ofNat v] := by
  rw [encodeVarint, if_pos h]

/-- What the loop accepts is the form `encodeVarint` writes: the continuation bytes carry a
number that is not zero, so no shorter form exists. -/
theorem decodeVarintFrom_eq_some {input rest : Bytes} {index acc v : ℕ}
    (h : decodeVarintFrom input index acc = some (v, rest)) :
    ∃ w, v = acc ||| (w <<< (index * 7)) ∧ input = encodeVarint w ++ rest
      ∧ w < 2 ^ (64 - index * 7) ∧ (0 < index → w ≠ 0) := by
  induction input generalizing index acc with
  | nil => exact absurd h (by simp [decodeVarintFrom])
  | cons byte input ih =>
    have hbyte := byte.toNat_lt
    rw [decodeVarintFrom] at h
    split at h
    · exact absurd h (by simp)
    · rename_i hlimit
      have hindex : index ≤ 9 := by omega
      split at h
      · rename_i hlast
        split at h
        · exact absurd h (by simp)
        · rename_i hzero
          obtain ⟨rfl, rfl⟩ : acc ||| ((byte.toNat % 0x80) <<< (index * 7)) = v ∧ input = rest := by
            simpa using h
          have hmod : byte.toNat % 0x80 = byte.toNat := Nat.mod_eq_of_lt hlast
          refine ⟨byte.toNat, by rw [hmod], ?_, ?_, by omega⟩
          · rw [encodeVarint_of_lt hlast, UInt8.ofNat_toNat]
            rfl
          · by_cases h9 : index = 9
            · rw [h9]
              norm_num
              omega
            · have hpow : 2 ^ 7 ≤ 2 ^ (64 - index * 7) :=
                Nat.pow_le_pow_right (by norm_num) (by omega)
              omega
      · rename_i hmore
        obtain ⟨w, hv, hinput, hw, hpos⟩ := ih h
        have hne : w ≠ 0 := hpos (by omega)
        have hindex' : index ≤ 8 := by
          by_contra h9
          have heq : index = 9 := by omega
          rw [heq] at hw
          norm_num at hw
          exact hne hw
        have hsplit : (byte.toNat % 0x80 + 0x80 * w) % 0x80 = byte.toNat % 0x80
            ∧ (byte.toNat % 0x80 + 0x80 * w) / 0x80 = w := by omega
        have hlow := or_shiftLeft_seven (byte.toNat % 0x80 + 0x80 * w)
        rw [hsplit.1, hsplit.2] at hlow
        refine ⟨byte.toNat % 0x80 + 0x80 * w, ?_, ?_, ?_, by omega⟩
        · rw [hv, Nat.or_assoc, show (index + 1) * 7 = 7 + index * 7 by ring, Nat.shiftLeft_add,
            ← Nat.shiftLeft_or_distrib, hlow]
        · have hbyte' : UInt8.ofNat (byte.toNat % 0x80 + 0x80) = byte := by
            rw [show byte.toNat % 0x80 + 0x80 = byte.toNat by omega, UInt8.ofNat_toNat]
          rw [encodeVarint, if_neg (by omega), hsplit.1, hsplit.2, hbyte', hinput]
          rfl
        · calc byte.toNat % 0x80 + 0x80 * w < 0x80 * (w + 1) := by omega
            _ ≤ 0x80 * 2 ^ (64 - (index + 1) * 7) := Nat.mul_le_mul_left _ hw
            _ = 2 ^ (64 - (index + 1) * 7 + 7) := by rw [pow_add]; ring
            _ = 2 ^ (64 - index * 7) := by congr 1; omega

/-- A varint that can be read is the form `encodeVarint` writes. -/
theorem decodeVarint_eq_some {input rest : Bytes} {v : ℕ}
    (h : decodeVarint input = some (v, rest)) : input = encodeVarint v ++ rest ∧ v < 2 ^ 64 := by
  obtain ⟨w, hv, hinput, hw, _⟩ := decodeVarintFrom_eq_some h
  have heq : v = w := by simpa using hv
  rw [heq]
  exact ⟨hinput, hw⟩


theorem length_encodeVarint_pos (v : ℕ) : 0 < (encodeVarint v).length := by
  rw [encodeVarint]
  split <;> simp

/-- `k + 1` bytes carry `7 (k + 1)` bits. -/
theorem length_encodeVarint_le {v k : ℕ} (h : v < 2 ^ (7 * (k + 1))) :
    (encodeVarint v).length ≤ k + 1 := by
  induction k generalizing v with
  | zero => rw [encodeVarint_of_lt (by norm_num at h; exact h)]; simp
  | succ k ih =>
    rw [encodeVarint]
    split
    · simp
    · have hdiv : v / 0x80 < 2 ^ (7 * (k + 1)) := by
        rw [Nat.div_lt_iff_lt_mul (by norm_num)]
        calc v < 2 ^ (7 * (k + 1 + 1)) := h
          _ = 2 ^ (7 * (k + 1)) * 0x80 := by
            rw [show 7 * (k + 1 + 1) = 7 * (k + 1) + 7 by ring, pow_add]
            norm_num
      have := ih hdiv
      simpa using this

end CandyRuntime.Lib
