import Mathlib.Data.List.Basic
import Mathlib.Data.List.Induction
import Mathlib.Data.List.TakeWhile
import Mathlib.Tactic.NormNum

/-!
# IPv4 addresses as text

Decimal numbers of eight bits and dotted addresses: how they are written, and how they are read back.
Two readers are used for addresses. `parseAddress` takes only what `addressText` writes. `parseU8`
alone is more liberal, as it takes a sign and leading zeros.
-/

namespace CandyRuntime.Lib

variable {text : List Char} {c : Char} {n : ℕ}

/-- The two sides of the first `c` of a text. -/
def splitOnce (c : Char) (text : List Char) : Option (List Char × List Char) :=
  if c ∈ text then some (text.takeWhile (· ≠ c), (text.dropWhile (· ≠ c)).tail) else none

/-- The number that a list of decimal digits stands for. -/
def decimalValue (digits : List Char) : ℕ :=
  digits.foldl (fun value c => value * 10 + (c.toNat - '0'.toNat)) 0

/-- A number of eight bits, with an optional sign. -/
def parseU8 (text : List Char) : Option ℕ :=
  let digits := if text.head? = some '+' then text.tail else text
  if digits ≠ [] ∧ digits.all Char.isDigit ∧ decimalValue digits ≤ 255 then
    some (decimalValue digits)
  else none

/-- One part of a dotted address: at most three digits, and no leading zero. -/
def parseOctet (text : List Char) : Option ℕ :=
  if text ≠ [] ∧ text.length ≤ 3 ∧ text.all Char.isDigit
      ∧ (text.length = 1 ∨ text.head? ≠ some '0') ∧ decimalValue text ≤ 255 then
    some (decimalValue text)
  else none

/-- The address with these octets. -/
def addressOf (a b c d : ℕ) : UInt32 := UInt32.ofNat (((a * 256 + b) * 256 + c) * 256 + d)

/-- A dotted address, with one reader for its parts. -/
def parseAddressWith (octet : List Char → Option ℕ) (text : List Char) : Option UInt32 :=
  match text.splitOn '.' with
  | [a, b, c, d] => do
    return addressOf (← octet a) (← octet b) (← octet c) (← octet d)
  | _ => none

/-- A dotted address. -/
def parseAddress (text : List Char) : Option UInt32 := parseAddressWith parseOctet text

/-- The octets of an address. -/
def octets (address : UInt32) : List ℕ :=
  [address.toNat / 2 ^ 24, address.toNat / 2 ^ 16 % 256, address.toNat / 2 ^ 8 % 256,
    address.toNat % 256]

/-- A number of eight bits in decimal. -/
def octetText (n : ℕ) : List Char := Nat.toDigits 10 n

/-- A dotted address. -/
def addressText (address : UInt32) : List Char :=
  ['.'].intercalate ((octets address).map octetText)

/-! ## Numbers -/

/-- What is written for a number of eight bits is read back, by both readers. -/
theorem octetText_spec : ∀ n < 256, parseOctet (octetText n) = some n
    ∧ parseU8 (octetText n) = some n ∧ (octetText n).all Char.isDigit = true
    ∧ (octetText n).length ≤ 3 := by
  decide +kernel

theorem not_mem_octetText (hn : n < 256) (hc : c.isDigit = false) :
    c ∉ octetText n := by
  intro hmem
  have hall := List.all_eq_true.mp (octetText_spec n hn).2.2.1 c hmem
  rw [hc] at hall
  cases hall

/-- A part that the strict reader takes has the same value for the liberal one. -/
theorem parseU8_of_parseOctet (h : parseOctet text = some n) :
    parseU8 text = some n ∧ text ≠ [] ∧ ¬ (1 < text.length ∧ text.head? = some '0') := by
  unfold parseOctet at h
  split_ifs at h with hform
  obtain ⟨hne, hlength, hdigits, hzero, hvalue⟩ := hform
  have hsign : text.head? ≠ some '+' := by
    intro hhead
    have hmem : '+' ∈ text := List.mem_of_head? hhead
    have hdigit := List.all_eq_true.mp hdigits '+' hmem
    exact absurd hdigit (by decide)
  refine ⟨?_, hne, ?_⟩
  · unfold parseU8
    rw [if_neg hsign]
    simp only
    rw [if_pos ⟨hne, hdigits, hvalue⟩]
    exact h
  · rintro ⟨hlong, hhead⟩
    rcases hzero with hone | hnot
    · omega
    · exact hnot hhead

/-- A number has one spelling without leading zeros. -/
theorem toDigits_decimalValue {digits : List Char} (hne : digits ≠ [])
    (hdigits : digits.all Char.isDigit = true)
    (hzero : digits.length = 1 ∨ digits.head? ≠ some '0') :
    Nat.toDigits 10 (decimalValue digits) = digits := by
  -- the last digit is the one that is written last
  induction digits using List.reverseRecOn with
  | nil => exact absurd rfl hne
  | append_singleton init c ih =>
    rw [List.all_append, Bool.and_eq_true, List.all_cons, List.all_nil, Bool.and_true] at hdigits
    have hc : 48 ≤ c.toNat ∧ c.toNat ≤ 57 := by
      have hdigit := hdigits.2
      simpa [Char.isDigit, UInt32.le_iff_toNat_le] using hdigit
    have hlt : c.toNat - '0'.toNat < 10 := by
      show c.toNat - 48 < 10
      omega
    have hchar : Nat.digitChar (c.toNat - '0'.toNat) = c := by
      have hall : ∀ d < 10, Nat.digitChar d = Char.ofNat (48 + d) := by decide
      rw [hall _ hlt]
      have hsum : 48 + (c.toNat - '0'.toNat) = c.toNat := by
        show 48 + (c.toNat - 48) = c.toNat
        omega
      rw [hsum, Char.ofNat_toNat]
    have hvalue : decimalValue (init ++ [c])
        = 10 * decimalValue init + (c.toNat - '0'.toNat) := by
      unfold decimalValue
      rw [List.foldl_append, List.foldl_cons, List.foldl_nil, Nat.mul_comm]
    by_cases hinit : init = []
    · subst hinit
      rw [hvalue, decimalValue, List.foldl_nil, Nat.mul_zero, Nat.zero_add,
        Nat.toDigits_of_lt_base hlt, hchar]
      rfl
    · have hhead : init.head? ≠ some '0' := by
        rcases hzero with hone | hnot
        · have hpos := List.length_pos_iff.mpr hinit
          rw [List.length_append, List.length_singleton] at hone
          omega
        · rw [List.head?_append_of_ne_nil _ hinit] at hnot
          exact hnot
      have hinitDigits := ih hinit hdigits.1 (.inr hhead)
      have hpos : 0 < decimalValue init := by
        rw [Nat.pos_iff_ne_zero]
        intro hnone
        rw [hnone, Nat.toDigits_zero] at hinitDigits
        exact hhead (by rw [← hinitDigits]; rfl)
      rw [hvalue, ← Nat.toDigits_append_toDigits (by omega) hpos hlt, hinitDigits,
        Nat.toDigits_of_lt_base hlt, hchar]

/-- The liberal reader takes other texts than `octetText` writes only with a sign or leading
zeros. -/
theorem octetText_of_parseU8 (h : parseU8 text = some n) (hsign : '+' ∉ text)
    (hzero : ¬ (1 < text.length ∧ text.head? = some '0')) :
    text = octetText n := by
  have hhead : text.head? ≠ some '+' := fun hhead => hsign (List.mem_of_head? hhead)
  unfold parseU8 at h
  rw [if_neg hhead] at h
  simp only at h
  split_ifs at h with hform
  obtain ⟨hne, hdigits, hvalue⟩ := hform
  have hpos := List.length_pos_iff.mpr hne
  rw [← Option.some.inj h]
  refine (toDigits_decimalValue hne hdigits ?_).symm
  by_cases hone : text.length = 1
  · exact .inl hone
  · exact .inr fun hled => hzero ⟨by omega, hled⟩

/-- The liberal reader takes numbers of eight bits only. -/
theorem lt_of_parseU8 (h : parseU8 text = some n) : n < 256 := by
  unfold parseU8 at h
  simp only [Option.ite_none_right_eq_some] at h
  obtain ⟨⟨_, _, hvalue⟩, hn⟩ := h
  rw [Option.some.inj hn] at hvalue
  omega

/-! ## Addresses -/

theorem octets_lt (address : UInt32) : ∀ n ∈ octets address, n < 256 := by
  have hlt := address.toNat_lt
  intro n hn
  simp only [octets, List.mem_cons, List.not_mem_nil, or_false] at hn
  rcases hn with rfl | rfl | rfl | rfl
  · omega
  · exact Nat.mod_lt _ (by norm_num)
  · exact Nat.mod_lt _ (by norm_num)
  · exact Nat.mod_lt _ (by norm_num)

theorem splitOn_addressText (address : UInt32) :
    (addressText address).splitOn '.' = (octets address).map octetText := by
  unfold addressText
  refine List.splitOn_intercalate '.' ?_ ?_
  · intro text htext
    obtain ⟨n, hn, rfl⟩ := List.mem_map.mp htext
    exact not_mem_octetText (octets_lt address n hn) (by decide)
  · simp [octets]

theorem addressOf_octets (address : UInt32) :
    addressOf (address.toNat / 2 ^ 24) (address.toNat / 2 ^ 16 % 256)
      (address.toNat / 2 ^ 8 % 256) (address.toNat % 256) = address := by
  have hlt := address.toNat_lt
  have hvalue : ((address.toNat / 2 ^ 24 * 256 + address.toNat / 2 ^ 16 % 256) * 256
      + address.toNat / 2 ^ 8 % 256) * 256 + address.toNat % 256 = address.toNat := by
    omega
  unfold addressOf
  rw [hvalue, UInt32.ofNat_toNat]

/-- What is written for an address is read back. -/
theorem parseAddressWith_addressText {octet : List Char → Option ℕ}
    (hoctet : ∀ n < 256, octet (octetText n) = some n) (address : UInt32) :
    parseAddressWith octet (addressText address) = some address := by
  have hlt := octets_lt address
  simp only [octets, List.mem_cons, List.not_mem_nil, or_false, forall_eq_or_imp, forall_eq] at hlt
  unfold parseAddressWith
  rw [splitOn_addressText]
  simp only [octets, List.map_cons, List.map_nil, hoctet _ hlt.1, hoctet _ hlt.2.1,
    hoctet _ hlt.2.2.1, hoctet _ hlt.2.2.2, Option.pure_def, Option.bind_eq_bind,
    Option.bind_some]
  rw [addressOf_octets]

theorem parseAddress_addressText (address : UInt32) :
    parseAddress (addressText address) = some address :=
  parseAddressWith_addressText (fun n hn => (octetText_spec n hn).1) address

/-- An address has digits and dots only. -/
theorem not_mem_addressText {address : UInt32} (hdigit : c.isDigit = false) (hdot : c ≠ '.') :
    c ∉ addressText address := by
  have hlt := octets_lt address
  simp only [octets, List.mem_cons, List.not_mem_nil, or_false, forall_eq_or_imp, forall_eq] at hlt
  simp only [addressText, octets, List.map_cons, List.map_nil, List.intercalate,
    List.intersperse_cons_cons, List.intersperse_singleton, List.flatten_cons, List.flatten_nil,
    List.mem_append, List.mem_singleton, List.append_nil, not_or]
  exact ⟨not_mem_octetText hlt.1 hdigit, hdot, not_mem_octetText hlt.2.1 hdigit, hdot,
    not_mem_octetText hlt.2.2.1 hdigit, hdot, not_mem_octetText hlt.2.2.2 hdigit⟩

theorem length_addressText_le (address : UInt32) : (addressText address).length ≤ 15 := by
  have hlt := octets_lt address
  simp only [octets, List.mem_cons, List.not_mem_nil, or_false, forall_eq_or_imp, forall_eq] at hlt
  have ha := (octetText_spec _ hlt.1).2.2.2
  have hb := (octetText_spec _ hlt.2.1).2.2.2
  have hc := (octetText_spec _ hlt.2.2.1).2.2.2
  have hd := (octetText_spec _ hlt.2.2.2).2.2.2
  simp only [addressText, octets, List.map_cons, List.map_nil, List.intercalate,
    List.intersperse_cons_cons, List.intersperse_singleton, List.flatten_cons, List.flatten_nil,
    List.length_append, List.length_singleton, List.append_nil]
  omega

theorem octets_addressOf {a b c d : ℕ} (ha : a < 256) (hb : b < 256) (hc : c < 256)
    (hd : d < 256) : octets (addressOf a b c d) = [a, b, c, d] := by
  have hvalue : (addressOf a b c d).toNat = ((a * 256 + b) * 256 + c) * 256 + d := by
    unfold addressOf
    rw [UInt32.toNat_ofNat_of_lt']
    show _ < 4294967296
    omega
  unfold octets
  rw [hvalue]
  simp only [List.cons.injEq, and_true]
  omega

/-- A reader that takes only what `octetText` writes reads only what `addressText` writes. -/
theorem eq_addressText {octet : List Char → Option ℕ} {address : UInt32}
    (hoctet : ∀ part ∈ text.splitOn '.', ∀ n, octet part = some n →
      n < 256 ∧ part = octetText n) (h : parseAddressWith octet text = some address) :
    text = addressText address := by
  have hjoin : ['.'].intercalate (text.splitOn '.') = text := List.intercalate_splitOn '.'
  unfold parseAddressWith at h
  split at h
  · next a b c d hparts =>
    simp only [Option.bind_eq_bind, Option.bind_eq_some_iff, Option.pure_def,
      Option.some.injEq] at h
    obtain ⟨na, ha, nb, hb, nc, hc, nd, hd, rfl⟩ := h
    rw [hparts] at hoctet hjoin
    have hpa := hoctet a (by simp) na ha
    have hpb := hoctet b (by simp) nb hb
    have hpc := hoctet c (by simp) nc hc
    have hpd := hoctet d (by simp) nd hd
    unfold addressText
    rw [octets_addressOf hpa.1 hpb.1 hpc.1 hpd.1, ← hjoin, hpa.2, hpb.2, hpc.2, hpd.2]
    rfl
  · cases h

theorem mem_intercalate {x : Char} {separator part : List Char} {parts : List (List Char)}
    (hpart : part ∈ parts) (hx : x ∈ part) : x ∈ separator.intercalate parts := by
  have hparts : part ∈ parts.intersperse separator := by
    obtain ⟨i, hi, hget⟩ := List.getElem_of_mem hpart
    rw [List.mem_iff_getElem?]
    exact ⟨2 * i, by rw [List.getElem?_intersperse_two_mul, List.getElem?_eq_getElem hi, hget]⟩
  exact List.mem_flatten.mpr ⟨part, hparts, hx⟩

/-- What is between the separators of a text is part of it. -/
theorem mem_of_mem_splitOn {c x : Char} {text part : List Char} (hpart : part ∈ text.splitOn c)
    (hx : x ∈ part) : x ∈ text := by
  have hjoin : [c].intercalate (text.splitOn c) = text := List.intercalate_splitOn c
  rw [← hjoin]
  exact mem_intercalate hpart hx

theorem eq_of_splitOnce {text left right : List Char} (h : splitOnce c text = some (left, right)) :
    text = left ++ c :: right := by
  unfold splitOnce at h
  split_ifs at h with hmem
  obtain ⟨rfl, rfl⟩ := Prod.mk.inj (Option.some.inj h)
  have hdrop : text.dropWhile (· ≠ c) ≠ [] := by
    intro hnil
    rw [List.dropWhile_eq_nil_iff] at hnil
    simpa using hnil c hmem
  obtain ⟨x, rest, hrest⟩ := List.exists_cons_of_ne_nil hdrop
  have hx : x = c := by
    have hhead := List.head_dropWhile_not (· ≠ c) hdrop
    simp only [hrest, List.head_cons] at hhead
    simpa using hhead
  conv_lhs => rw [← List.takeWhile_append_dropWhile (p := (· ≠ c)) (l := text)]
  rw [hrest, List.tail_cons, hx]

/-- The first of two texts that are joined by a character that it does not have. -/
theorem splitOnce_append {left : List Char} (h : c ∉ left) (right : List Char) :
    splitOnce c (left ++ c :: right) = some (left, right) := by
  have hleft : ∀ x ∈ left, decide (x ≠ c) = true := by
    intro x hx
    rw [decide_eq_true_eq]
    rintro rfl
    exact h hx
  unfold splitOnce
  rw [if_pos (by simp), List.takeWhile_append_of_pos hleft, List.dropWhile_append_of_pos hleft]
  simp

end CandyRuntime.Lib
