import CandyRuntime.Lib.SelfDelimiting

/-!
# Unpadded base64

A decoder is a parameter, `Base64`: what is used of it is that no two texts have the same bytes. The
decoder of the URL-safe alphabet is one (`urlSafeNoPad`), as it refuses padding, foreign characters, and
bits that no byte uses.
-/

namespace CandyRuntime.Lib

/-- A decoder that reads the same bytes from one text only. -/
class Base64 where
  decode : String → Option Bytes
  injective {a b : String} {bytes : Bytes} :
    decode a = some bytes → decode b = some bytes → a = b

/-! ## The URL-safe alphabet -/

/-- The value of a digit of the URL-safe base64 alphabet. -/
def base64Digit (c : Char) : Option ℕ :=
  if 'A' ≤ c && c ≤ 'Z' then some (c.toNat - 'A'.toNat)
  else if 'a' ≤ c && c ≤ 'z' then some (c.toNat - 'a'.toNat + 26)
  else if '0' ≤ c && c ≤ '9' then some (c.toNat - '0'.toNat + 52)
  else if c = '-' then some 62
  else if c = '_' then some 63
  else none

/-- The digits in groups of four; the last group has two or three, and the bits it does not use
are zero. -/
def base64Groups : List ℕ → Option Bytes
  | a :: b :: c :: d :: rest => do
    let tail ← base64Groups rest
    return toBE 3 (((a * 64 + b) * 64 + c) * 64 + d) ++ tail
  | [a, b, c] => if c % 4 = 0 then some (toBE 2 (((a * 64 + b) * 64 + c) / 4)) else none
  | [a, b] => if b % 16 = 0 then some (toBE 1 ((a * 64 + b) / 16)) else none
  | [_] => none
  | [] => some []

def base64Decode (value : String) : Option Bytes := do
  base64Groups (← value.toList.mapM base64Digit)

variable {bytes : Bytes}

/-- The value of a digit of the base64 alphabet, by the range the digit is in. -/
theorem base64Digit_spec {c : Char} {n : ℕ} (h : base64Digit c = some n) :
    (65 ≤ c.toNat ∧ c.toNat ≤ 90 ∧ n = c.toNat - 65)
      ∨ (97 ≤ c.toNat ∧ c.toNat ≤ 122 ∧ n = c.toNat - 71)
      ∨ (48 ≤ c.toNat ∧ c.toNat ≤ 57 ∧ n = c.toNat + 4)
      ∨ (c.toNat = 45 ∧ n = 62) ∨ (c.toNat = 95 ∧ n = 63) := by
  unfold base64Digit at h
  simp only [Bool.and_eq_true, decide_eq_true_eq] at h
  by_cases hupper : 'A' ≤ c ∧ c ≤ 'Z'
  · rw [if_pos hupper] at h
    exact .inl ⟨hupper.1, hupper.2, (Option.some.inj h).symm⟩
  rw [if_neg hupper] at h
  by_cases hlower : 'a' ≤ c ∧ c ≤ 'z'
  · rw [if_pos hlower] at h
    have hlow : 97 ≤ c.toNat := hlower.1
    have hvalue : c.toNat - 97 + 26 = n := Option.some.inj h
    exact .inr (.inl ⟨hlow, hlower.2, by omega⟩)
  rw [if_neg hlower] at h
  by_cases hdigit : '0' ≤ c ∧ c ≤ '9'
  · rw [if_pos hdigit] at h
    have hlow : 48 ≤ c.toNat := hdigit.1
    have hvalue : c.toNat - 48 + 52 = n := Option.some.inj h
    exact .inr (.inr (.inl ⟨hlow, hdigit.2, by omega⟩))
  rw [if_neg hdigit] at h
  by_cases hminus : c = '-'
  · rw [if_pos hminus] at h
    exact .inr (.inr (.inr (.inl ⟨by rw [hminus]; rfl, (Option.some.inj h).symm⟩)))
  rw [if_neg hminus] at h
  by_cases hunder : c = '_'
  · rw [if_pos hunder] at h
    exact .inr (.inr (.inr (.inr ⟨by rw [hunder]; rfl, (Option.some.inj h).symm⟩)))
  · rw [if_neg hunder] at h
    cases h

theorem base64Digit_injective {c c' : Char} {n : ℕ} (h : base64Digit c = some n)
    (h' : base64Digit c' = some n) : c = c' := by
  have hspec := base64Digit_spec h
  have hspec' := base64Digit_spec h'
  exact Char.toNat_inj.mp (by omega)

theorem base64Digits_injective {cs cs' : List Char} {ds : List ℕ}
    (h : cs.mapM base64Digit = some ds) (h' : cs'.mapM base64Digit = some ds) : cs = cs' := by
  induction cs generalizing cs' ds with
  | nil =>
    obtain rfl : [] = ds := Option.some.inj h
    cases cs' with
    | nil => rfl
    | cons c' cs' =>
      simp only [List.mapM_cons, Option.bind_eq_bind, Option.pure_def,
        Option.bind_eq_some_iff] at h'
      obtain ⟨_, _, _, _, hnil⟩ := h'
      cases hnil
  | cons c cs ih =>
    simp only [List.mapM_cons, Option.bind_eq_bind, Option.pure_def,
      Option.bind_eq_some_iff] at h
    obtain ⟨d, hd, rest, hrest, hds⟩ := h
    obtain rfl := Option.some.inj hds
    cases cs' with
    | nil => cases h'
    | cons c' cs' =>
      simp only [List.mapM_cons, Option.bind_eq_bind, Option.pure_def,
        Option.bind_eq_some_iff] at h'
      obtain ⟨d', hd', rest', hrest', hds'⟩ := h'
      obtain ⟨rfl, rfl⟩ := List.cons.inj (Option.some.inj hds')
      rw [base64Digit_injective hd hd', ih hrest hrest']

theorem base64Digits_lt {cs : List Char} {ds : List ℕ} (h : cs.mapM base64Digit = some ds) :
    ∀ d ∈ ds, d < 64 := by
  induction cs generalizing ds with
  | nil =>
    obtain rfl : [] = ds := Option.some.inj h
    simp
  | cons c cs ih =>
    simp only [List.mapM_cons, Option.bind_eq_bind, Option.pure_def,
      Option.bind_eq_some_iff] at h
    obtain ⟨d, hd, rest, hrest, hds⟩ := h
    obtain rfl := Option.some.inj hds
    have hspec := base64Digit_spec hd
    intro x hx
    rcases List.mem_cons.mp hx with rfl | hx
    · omega
    · exact ih hrest x hx

/-- How many bytes the digits make, and the bits that the last group does not use. -/
theorem base64Groups_spec {ds : List ℕ} (h : base64Groups ds = some bytes) :
    (∃ a b c d rest tail, ds = a :: b :: c :: d :: rest ∧ base64Groups rest = some tail
        ∧ bytes = toBE 3 (((a * 64 + b) * 64 + c) * 64 + d) ++ tail)
      ∨ (∃ a b c, ds = [a, b, c] ∧ c % 4 = 0 ∧ bytes = toBE 2 (((a * 64 + b) * 64 + c) / 4))
      ∨ (∃ a b, ds = [a, b] ∧ b % 16 = 0 ∧ bytes = toBE 1 ((a * 64 + b) / 16))
      ∨ (ds = [] ∧ bytes = []) := by
  match ds with
  | [] => exact .inr (.inr (.inr ⟨rfl, (Option.some.inj h).symm⟩))
  | [_] => cases h
  | [a, b] =>
    rw [base64Groups] at h
    by_cases hzero : b % 16 = 0
    · rw [if_pos hzero] at h
      exact .inr (.inr (.inl ⟨a, b, rfl, hzero, (Option.some.inj h).symm⟩))
    · rw [if_neg hzero] at h
      cases h
  | [a, b, c] =>
    rw [base64Groups] at h
    by_cases hzero : c % 4 = 0
    · rw [if_pos hzero] at h
      exact .inr (.inl ⟨a, b, c, rfl, hzero, (Option.some.inj h).symm⟩)
    · rw [if_neg hzero] at h
      cases h
  | a :: b :: c :: d :: rest =>
    rw [base64Groups] at h
    simp only [Option.bind_eq_bind, Option.pure_def, Option.bind_eq_some_iff] at h
    obtain ⟨tail, htail, hbytes⟩ := h
    exact .inl ⟨a, b, c, d, rest, tail, rfl, htail, (Option.some.inj hbytes).symm⟩

/-- The digits of the last group: its length is known from the number of bytes, its bits from them. -/
theorem base64Groups_injective {ds ds' : List ℕ} (hds : ∀ d ∈ ds, d < 64)
    (hds' : ∀ d ∈ ds', d < 64) (h : base64Groups ds = some bytes)
    (h' : base64Groups ds' = some bytes) : ds = ds' := by
  induction hn : ds.length using Nat.strong_induction_on generalizing ds ds' bytes with
  | _ n ih =>
    subst hn
    have hspec' := base64Groups_spec h'
    rcases base64Groups_spec h with ⟨a, b, c, d, rest, tail, rfl, htail, rfl⟩ | ⟨a, b, c, rfl, hc, rfl⟩
      | ⟨a, b, rfl, hb, rfl⟩ | ⟨rfl, rfl⟩
    · rcases hspec' with ⟨a', b', c', d', rest', tail', rfl, htail', hbytes⟩ | ⟨_, _, _, _, _, hbytes⟩
        | ⟨_, _, _, _, hbytes⟩ | ⟨_, hbytes⟩
      · simp only [List.forall_mem_cons] at hds hds'
        obtain ⟨ha, hb, hc, hd, hrest⟩ := hds
        obtain ⟨ha', hb', hc', hd', hrest'⟩ := hds'
        obtain ⟨hnumber, htails⟩ := toBE_append_inj (by omega) (by omega) hbytes
        subst htails
        have hsame := ih _ (by simp only [List.length_cons]; omega) hrest hrest' htail htail' rfl
        have hdigits : a = a' ∧ b = b' ∧ c = c' ∧ d = d' := by omega
        obtain ⟨rfl, rfl, rfl, rfl⟩ := hdigits
        rw [hsame]
      all_goals
        have hlength := congrArg List.length hbytes
        simp only [List.length_append, length_toBE, List.length_nil] at hlength
        omega
    · rcases hspec' with ⟨_, _, _, _, _, _, _, _, hbytes⟩ | ⟨a', b', c', rfl, hc', hbytes⟩
        | ⟨_, _, _, _, hbytes⟩ | ⟨_, hbytes⟩
      · have hlength := congrArg List.length hbytes
        simp only [List.length_append, length_toBE] at hlength
        omega
      · simp only [List.forall_mem_cons] at hds hds'
        obtain ⟨ha, hb, hcd, _⟩ := hds
        obtain ⟨ha', hb', hcd', _⟩ := hds'
        have hnumber := toBE_inj (by omega) (by omega) hbytes
        have hdigits : a = a' ∧ b = b' ∧ c = c' := by omega
        obtain ⟨rfl, rfl, rfl⟩ := hdigits
        rfl
      all_goals
        have hlength := congrArg List.length hbytes
        simp only [length_toBE, List.length_nil] at hlength
        omega
    · rcases hspec' with ⟨_, _, _, _, _, _, _, _, hbytes⟩ | ⟨_, _, _, _, _, hbytes⟩
        | ⟨a', b', rfl, hb', hbytes⟩ | ⟨_, hbytes⟩
      · have hlength := congrArg List.length hbytes
        simp only [List.length_append, length_toBE] at hlength
        omega
      · have hlength := congrArg List.length hbytes
        simp only [length_toBE] at hlength
        omega
      · simp only [List.forall_mem_cons] at hds hds'
        obtain ⟨ha, hbd, _⟩ := hds
        obtain ⟨ha', hbd', _⟩ := hds'
        have hnumber := toBE_inj (by omega) (by omega) hbytes
        have hdigits : a = a' ∧ b = b' := by omega
        obtain ⟨rfl, rfl⟩ := hdigits
        rfl
      · have hlength := congrArg List.length hbytes
        simp only [length_toBE, List.length_nil] at hlength
        omega
    · rcases hspec' with ⟨_, _, _, _, _, _, _, _, hbytes⟩ | ⟨_, _, _, _, _, hbytes⟩
        | ⟨_, _, _, _, hbytes⟩ | ⟨rfl, _⟩
      · have hlength := congrArg List.length hbytes
        simp only [List.length_append, length_toBE, List.length_nil] at hlength
        omega
      · have hlength := congrArg List.length hbytes
        simp only [length_toBE, List.length_nil] at hlength
        omega
      · have hlength := congrArg List.length hbytes
        simp only [length_toBE, List.length_nil] at hlength
        omega
      · rfl

theorem base64Decode_injective {a b : String} (ha : base64Decode a = some bytes)
    (hb : base64Decode b = some bytes) : a = b := by
  simp only [base64Decode, Option.bind_eq_bind, Option.bind_eq_some_iff] at ha hb
  obtain ⟨ds, hds, hbytes⟩ := ha
  obtain ⟨ds', hds', hbytes'⟩ := hb
  obtain rfl := base64Groups_injective (base64Digits_lt hds) (base64Digits_lt hds') hbytes hbytes'
  exact String.toList_inj.mp (base64Digits_injective hds hds')

/-- The decoder of RFC 4648 without padding. -/
abbrev urlSafeNoPad : Base64 := ⟨base64Decode, base64Decode_injective⟩

end CandyRuntime.Lib
