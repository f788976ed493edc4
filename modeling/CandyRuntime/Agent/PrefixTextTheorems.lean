import CandyRuntime.CloudSync.DeclarationTheorems

/-!
# Prefixes as the agent reads and writes them

`parse_prefix` checks an octet for a leading zero and leaves the number itself to the standard reader,
which also takes a sign; the prefix length goes to that reader without any check. What is written for
a prefix is always read back, but a sign or a zero in front of a number gives other texts for the
same prefix (`canonicalPrefix_of_parsePrefix`).
-/

namespace CandyRuntime.Agent.V1

open Lib NetdProto CloudSync.Declaration

variable {s t : String} {p : Ipv4Prefix}

/-- `canonical_prefix`. -/
def canonicalPrefix (p : Ipv4Prefix) : String :=
  String.ofList (addressText p.network ++ '/' :: octetText p.prefixLen.toNat)

/-- The text has no sign, and no zero in front of the prefix length. -/
def Undecorated (s : String) : Prop :=
  '+' ∉ s.toList ∧ ∀ address length, splitOnce '/' s.toList = some (address, length) →
    ¬ (1 < length.length ∧ length.head? = some '0')

/-! ## What is read -/

theorem parseAgentOctet_eq_some {part : List Char} {n : ℕ}
    (h : (parseAgentOctet part).toOption = some n) :
    parseU8 part = some n ∧ ¬ (1 < part.length ∧ part.head? = some '0') := by
  unfold parseAgentOctet at h
  split_ifs at h with hform
  · cases h
  · refine ⟨?_, fun hzero => hform (.inr hzero)⟩
    unfold orFail at h
    split at h
    · next hvalue => rw [hvalue, ← h]; rfl
    · cases h

/-- An address that is read without a sign is written the same way. -/
theorem eq_addressText_of_parseIpv4 {text : List Char} {address : UInt32} (hsign : '+' ∉ text)
    (h : parseIpv4 (String.ofList text) = .ok address) : text = addressText address := by
  rw [parseIpv4_eq_ok, String.toList_ofList] at h
  refine eq_addressText (fun part hpart n hn => ?_) h
  obtain ⟨hvalue, hzero⟩ := parseAgentOctet_eq_some hn
  have hplus : '+' ∉ part := fun hmem => hsign (mem_of_mem_splitOn hpart hmem)
  exact ⟨lt_of_parseU8 hvalue, octetText_of_parseU8 hvalue hplus hzero⟩

/-- The parts of a text that is taken. -/
theorem parsePrefix_eq_ok (h : parsePrefix s = .ok p) :
    ∃ address length n, splitOnce '/' s.toList = some (address, length)
      ∧ parseU8 length = some n ∧ parseIpv4 (String.ofList address) = .ok p.network
      ∧ p.prefixLen = UInt8.ofNat n ∧ p.Canonical := by
  have horFail : ∀ {α : Type} {o : Option α} {e : String} {a : α}, orFail o e = .ok a →
      o = some a := by
    intro α o e a ho
    cases o with
    | none => cases ho
    | some b => rw [Except.ok.inj ho]
  unfold parsePrefix at h
  obtain ⟨⟨address, length⟩, hsplit, h⟩ := bind_eq_ok h
  obtain ⟨n, hn, h⟩ := bind_eq_ok h
  obtain ⟨network, hnetwork, h⟩ := bind_eq_ok h
  split at h
  · next q hnew =>
    obtain rfl := Except.ok.inj h
    have hq : q = ⟨network, UInt8.ofNat n⟩ := by
      unfold Ipv4Prefix.new at hnew
      split_ifs at hnew
      exact (Except.ok.inj hnew).symm
    rw [hq]
    refine ⟨address, length, n, horFail hsplit, horFail hn, hnetwork, rfl, ?_⟩
    rw [hq] at hnew
    exact hnew
  · cases h

/-! ## The two directions -/

theorem splitOnce_canonicalPrefix (p : Ipv4Prefix) :
    splitOnce '/' (canonicalPrefix p).toList
      = some (addressText p.network, octetText p.prefixLen.toNat) :=
  splitOnce_prefixText p

theorem undecorated_canonicalPrefix (p : Ipv4Prefix) : Undecorated (canonicalPrefix p) := by
  have hlength := octetText_spec _ p.prefixLen.toNat_lt
  constructor
  · unfold canonicalPrefix
    rw [String.toList_ofList, List.mem_append, List.mem_cons, not_or, not_or]
    exact ⟨not_mem_addressText (by decide) (by decide), by decide,
      not_mem_octetText p.prefixLen.toNat_lt (by decide)⟩
  · intro address length hsplit
    rw [splitOnce_canonicalPrefix] at hsplit
    obtain ⟨rfl, rfl⟩ := Prod.mk.inj (Option.some.inj hsplit)
    exact (parseU8_of_parseOctet hlength.1).2.2

/-- A text that is taken is the one written for its prefix exactly if it is plain. -/
theorem canonicalPrefix_eq_iff (h : parsePrefix s = .ok p) : canonicalPrefix p = s ↔ Undecorated s := by
  constructor
  · rintro rfl
    exact undecorated_canonicalPrefix p
  · rintro ⟨hsign, hzero⟩
    obtain ⟨address, length, n, hsplit, hn, haddress, hlen, _⟩ := parsePrefix_eq_ok h
    have htext : s.toList = address ++ '/' :: length := eq_of_splitOnce hsplit
    have haddressSign : '+' ∉ address := fun hmem => hsign (by simp [htext, hmem])
    have hlengthSign : '+' ∉ length := fun hmem => hsign (by simp [htext, hmem])
    have hlength : length = octetText p.prefixLen.toNat := by
      rw [hlen, UInt8.toNat_ofNat_of_lt' (lt_of_parseU8 hn)]
      exact octetText_of_parseU8 hn hlengthSign (hzero address length hsplit)
    unfold canonicalPrefix
    rw [← hlength, ← eq_addressText_of_parseIpv4 haddressSign haddress, ← htext, String.ofList_toList]

/-- What is written for a prefix is read back. A text that is read is what is written for its prefix
exactly if it is plain, so two plain texts never stand for the same prefix. -/
theorem canonicalPrefix_of_parsePrefix (s t : String) (p : Ipv4Prefix) :
    (parsePrefix s = .ok p → (canonicalPrefix p = s ↔ Undecorated s))
    ∧ (p.Canonical → parsePrefix (canonicalPrefix p) = .ok p)
    ∧ (parsePrefix s = .ok p → parsePrefix t = .ok p → Undecorated s → Undecorated t → s = t) := by
  refine ⟨canonicalPrefix_eq_iff, parsePrefix_prefixText, fun hs ht hplain hplain' => ?_⟩
  calc s = canonicalPrefix p := ((canonicalPrefix_eq_iff hs).mpr hplain).symm
    _ = t := (canonicalPrefix_eq_iff ht).mpr hplain'

/-- A route as it is usually written. -/
theorem canonicalPrefix_of_parsePrefix_ten :
    (canonicalPrefix ⟨0x0a000000, 8⟩ = "10.0.0.0/8" ↔ Undecorated "10.0.0.0/8")
    ∧ parsePrefix (canonicalPrefix ⟨0x0a000000, 8⟩) = .ok ⟨0x0a000000, 8⟩
    ∧ ("10.0.0.0/8" = canonicalPrefix ⟨0x0a000000, 8⟩) := by
  have hread : parsePrefix "10.0.0.0/8" = .ok ⟨0x0a000000, 8⟩ := by decide
  have hcanonical : Ipv4Prefix.Canonical ⟨0x0a000000, 8⟩ := by decide
  obtain ⟨hiff, hback, huniq⟩ := canonicalPrefix_of_parsePrefix "10.0.0.0/8"
    (canonicalPrefix ⟨0x0a000000, 8⟩) ⟨0x0a000000, 8⟩
  have hplain : Undecorated "10.0.0.0/8" := (hiff hread).mp (by decide)
  exact ⟨hiff hread, hback hcanonical,
    huniq hread (hback hcanonical) hplain (undecorated_canonicalPrefix _)⟩

/-- A sign in an octet or in the length, or a zero in front of the length, stands for the same
route. -/
theorem not_canonicalPrefix_of_parsePrefix :
    parsePrefix "+10.0.0.0/8" = .ok ⟨0x0a000000, 8⟩
    ∧ parsePrefix "10.0.0.0/08" = .ok ⟨0x0a000000, 8⟩
    ∧ ¬ ∀ s p, parsePrefix s = .ok p → canonicalPrefix p = s := by
  have hsign : parsePrefix "+10.0.0.0/8" = .ok ⟨0x0a000000, 8⟩ := by decide
  refine ⟨hsign, by decide, fun h => ?_⟩
  have hsame := h _ _ hsign
  revert hsame
  decide

end CandyRuntime.Agent.V1
