import CandyRuntime.NetdV1.Runs
import CandyRuntime.NetdV1.SectionTheorems

/-!
# The records the journal accepts

`Journalable` collects what `encode_record` checks. The encoder accepts exactly these records
(`encodeRecord_of_journalable`), the decoder returns only such records
(`journalable_of_decodeRecord`), and the operations keep the record in memory journalable as
long as `JournalSafe` holds: two operations change the record before they learn that it
cannot be stored, `set_failed_prefixes` with more prefixes than the journal takes and
`reconfigure` with a generation older than the retained one.
-/

namespace CandyRuntime.NetdV1

open Lib Lib.Proc NetdProto

variable {declaration : PrepareDeclaration} {owner : LeaseOwner}
variable {readings : SysctlKey → Option (Fin 3)} {sysctls : List SysctlChange}
  {failed : List Ipv4Prefix} {key : SysctlKey}
/-! ## What the encoder accepts -/

/-- The checks of `encode_record`. -/
structure Journalable (r : TransactionRecord) : Prop where
  failed : failedPrefixesStorable r.failedPrefixes = true
  sysctls : sysctlsStorable r.sysctls = true
  phase : r.recoveryCandidate.isSome = true → r.phase.allowsCandidate = true
  candidateOwner : candidateOwnerStorable r = true
  owner : r.owner.validate = .ok ()
  declaration : r.declaration.validate = .ok ()
  candidate : ∀ c, r.recoveryCandidate = some c → c.validate = .ok ()
  keeper : (r.recoveryCandidateOwner.getD r.owner).validate = .ok ()

theorem journalRequest_validate (howner : owner.validate = .ok ())
    (hdeclaration : declaration.validate = .ok ()) :
    (journalRequest owner declaration).validate = .ok () := by
  unfold NetdRequest.validate journalRequest
  dsimp only
  rw [howner, NetdOperation.validate, hdeclaration]
  rfl

theorem encodeRequest_of_validate (howner : owner.validate = .ok ())
    (hdeclaration : declaration.validate = .ok ()) :
    ∃ b, encodeRequest (journalRequest owner declaration) = .ok b
      ∧ encodeLen b.length = .ok (toBE 4 b.length) := by
  have hencode := NetdRequest.encode_of_validate (r := journalRequest owner declaration) (.inl rfl)
    (journalRequest_validate howner hdeclaration)
  refine ⟨(journalRequest owner declaration).frame, ?_, encodeLen_of_encode hencode⟩
  rw [encodeRequest, hencode]
  rfl

/-- A journalable record is accepted. -/
theorem encodeRecord_of_journalable {sha : Bytes → Vector UInt8 32} {r : TransactionRecord}
    (h : Journalable r) : ∃ b, encodeRecord sha r = .ok b := by
  obtain ⟨request, hrequest, hlength⟩ := encodeRequest_of_validate h.owner h.declaration
  have hphase : (r.recoveryCandidate.isSome && !r.phase.allowsCandidate) = false := by
    rw [Bool.and_eq_false_imp]
    intro hc
    rw [h.phase hc]
    rfl
  obtain ⟨recovery, hrecovery, recoverySection, hsection⟩ :
      ∃ recovery, encodeRecovery r = .ok recovery ∧
        ∃ recoverySection, recoveryBytes r recovery = .ok recoverySection := by
    unfold encodeRecovery
    cases hc : r.recoveryCandidate with
    | none => exact ⟨none, rfl, _, rfl⟩
    | some c =>
      obtain ⟨b, hb, hblen⟩ := encodeRequest_of_validate h.keeper (h.candidate c hc)
      refine ⟨some b, ?_, toBE 4 b.length ++ b, ?_⟩
      · dsimp only
        rw [hb]
        rfl
      · rw [recoveryBytes, hblen]
        rfl
  refine ⟨contentOf r request recoverySection
    ++ (sha (contentOf r request recoverySection)).toList, ?_⟩
  unfold encodeRecord encodeContent
  rw [h.failed, h.sysctls, hphase, h.candidateOwner, hrequest, hrecovery]
  change (do
    let content ← (do
      let requestLen ← encodeLen request.length
      let recoverySection ← recoveryBytes r recovery
      pure (headerBytes r ++ (sysctlBytes r.sysctls ++ (deadlineBytes r
        ++ (requestLen ++ (request ++ (recoverySection ++ failedBytes r.failedPrefixes)))))))
    pure (content ++ (sha content).toList)) = _
  rw [hlength, hsection]
  rfl

/-! ## What the decoder returns -/

open Checked

/-- The sysctl loop returns a list the encoder accepts. -/
theorem sysctls_of_decodeSysctls (entries : Bytes) (last : Option SysctlChange)
    (h : decodeSysctls entries last = pure sysctls) :
    strictlySortedBy (fun c : SysctlChange => c.key.code.toNat) (last.toList ++ sysctls) = true
      ∧ sysctls.all (fun c => decide (c.original ≤ 2) && decide (c.applied ≤ 2)
        && c.original != c.applied) = true
      ∧ sysctls.length * 3 ≤ entries.length := by
  induction entries, last using decodeSysctls.induct generalizing sysctls with
  | case1 key original applied rest last ih =>
    rw [decodeSysctls] at h
    obtain ⟨k, -, h⟩ := bind_eq_pure h
    obtain ⟨_, hchecked, h⟩ := bind_eq_pure h
    obtain ⟨changes, hrest, h⟩ := bind_eq_pure h
    obtain rfl := Checked.pure_inj h
    have hchecks := refuseIf_eq_false hchecked
    simp only [Bool.or_eq_false_iff, decide_eq_false_iff_not, UInt8.not_lt,
      beq_eq_false_iff_ne] at hchecks
    obtain ⟨⟨⟨horiginal, happlied⟩, hne⟩, hlast⟩ := hchecks
    obtain ⟨hsorted, hvalues, hlength⟩ := ih _ hrest
    refine ⟨?_, ?_, ?_⟩
    · cases last with
      | none => exact hsorted
      | some p =>
        have hlt : p.key.code.toNat < k.code.toNat := by
          simpa [UInt8.lt_iff_toNat_lt, UInt8.le_iff_toNat_le] using hlast
        change (decide _ && strictlySortedBy _ (_ :: changes)) = true
        rw [Bool.and_eq_true, decide_eq_true_eq]
        exact ⟨hlt, hsorted⟩
    · rw [List.all_cons, hvalues]
      simp [horiginal, happlied, hne]
    · simp only [List.length_cons]
      omega
  | case2 entries last hshort =>
    rw [decodeSysctls] at h
    · obtain rfl := Checked.pure_inj h
      refine ⟨?_, rfl, by simp⟩
      cases last <;> rfl
    · exact hshort

/-- The failed-prefix loop returns a list the encoder accepts. -/
theorem failed_of_decodeFailed (entries : Bytes) (last : Option Ipv4Prefix)
    (h : decodeFailed entries last = pure failed) :
    strictlySortedBy Ipv4Prefix.rank (last.toList ++ failed) = true
      ∧ failed.all canonicalPrefix = true ∧ failed.length * 5 ≤ entries.length := by
  induction entries, last using decodeFailed.induct generalizing failed with
  | case1 a b c d prefixLen rest last value =>
    rename_i ih
    rw [decodeFailed] at h
    obtain ⟨_, hchecked, h⟩ := bind_eq_pure h
    obtain ⟨values, hrest, h⟩ := bind_eq_pure h
    obtain rfl := Checked.pure_inj h
    have hchecks := refuseIf_eq_false hchecked
    simp only [Bool.or_eq_false_iff, Bool.not_eq_false'] at hchecks
    obtain ⟨hcanonical, hlast⟩ := hchecks
    obtain ⟨hsorted, hvalues, hlength⟩ := ih hrest
    refine ⟨?_, ?_, ?_⟩
    · cases last with
      | none => exact hsorted
      | some p =>
        have hlt : p.rank < value.rank := by
          rw [Option.any_some, decide_eq_false_iff_not] at hlast
          exact Nat.lt_of_not_le hlast
        change (decide _ && strictlySortedBy _ (_ :: values)) = true
        rw [Bool.and_eq_true, decide_eq_true_eq]
        exact ⟨hlt, hsorted⟩
    · rw [List.all_cons, hvalues, hcanonical]
      rfl
    · simp only [List.length_cons]
      omega
  | case2 entries last hshort =>
    rw [decodeFailed] at h
    · obtain rfl := Checked.pure_inj h
      refine ⟨?_, rfl, by simp⟩
      cases last <;> rfl
    · exact hshort

theorem failed_of_decodeFailedSection {bytes version : Bytes} {contentLen offset : ℕ}
    {hasCandidate : Bool}
    (h : decodeFailedSection bytes version contentLen offset hasCandidate = pure failed) :
    failedPrefixesStorable failed = true := by
  rw [decodeFailedSection] at h
  split at h
  · obtain ⟨_, -, h⟩ := bind_eq_pure h
    -- both ways to the entries end in the same loop
    have hloop : ∀ start, (do
        refuseIf (!hasCandidate && decide (contentLen < start))
        refuseIf (decide (contentLen < start + 2))
        let count := fromBE (← slice bytes start (start + 2))
        refuseIf (count == 0 || decide (maxFailedPrefixes < count)
          || start + 2 + count * 5 != contentLen)
        decodeFailed (← slice bytes (start + 2) (start + 2 + count * 5)) none) = pure failed →
        failedPrefixesStorable failed = true := by
      intro start h
      obtain ⟨_, -, h⟩ := bind_eq_pure h
      obtain ⟨_, -, h⟩ := bind_eq_pure h
      obtain ⟨countBytes, -, h⟩ := bind_eq_pure h
      obtain ⟨_, hcount, h⟩ := bind_eq_pure h
      obtain ⟨entries, hslice, h⟩ := bind_eq_pure h
      obtain ⟨hsorted, hcanonical, hlength⟩ := failed_of_decodeFailed entries none h
      rw [length_of_slice hslice] at hlength
      have hmax := refuseIf_eq_false hcount
      simp only [Bool.or_eq_false_iff, decide_eq_false_iff_not] at hmax
      unfold failedPrefixesStorable
      rw [hcanonical, Bool.and_true, Bool.and_eq_true, decide_eq_true_eq]
      exact ⟨by omega, hsorted⟩
    split at h
    · obtain ⟨_, -, h⟩ := bind_eq_pure h
      obtain ⟨_, -, h⟩ := bind_eq_pure h
      rw [pure_bind] at h
      exact hloop _ h
    · rw [pure_bind] at h
      exact hloop _ h
  · split at h
    · obtain ⟨_, -, h⟩ := bind_eq_pure h
      obtain ⟨_, -, h⟩ := bind_eq_pure h
      obtain rfl := Checked.pure_inj h
      rfl
    · obtain rfl := Checked.pure_inj h
      rfl

theorem prepare_validate_of_decode {frame : Bytes} {request : NetdRequest}
    (h : NetdRequest.decode frame = .ok request) (hop : request.operation = .prepare declaration) :
    request.owner.validate = .ok () ∧ declaration.validate = .ok () := by
  obtain ⟨howner, hoperation⟩ := NetdRequest.operation_validate (NetdRequest.validate_of_decode h)
  rw [hop] at hoperation
  exact ⟨howner, hoperation⟩

/-- Whatever the decoder accepts, the encoder accepts too. -/
theorem journalable_of_decodeRecord {sha : Bytes → Vector UInt8 32} {bytes : Bytes}
    {r : TransactionRecord} (h : decodeRecord sha bytes = pure r) : Journalable r := by
  obtain ⟨version, contentLen, phase, steps, count, hheader, hbody⟩ := decodeRecord_eq_pure h
  obtain ⟨entries, _, _, _, request, hslice, hloop, _, _, _, hrequest, hrecovery, hfailed, howner,
    rfl, _⟩ := decodeBody_eq_pure hbody
  obtain ⟨hsorted, hvalues, hlength⟩ := sysctls_of_decodeSysctls entries none hloop
  rw [length_of_slice hslice] at hlength
  have hsysctls : sysctlsStorable r.sysctls = true := by
    have hcount := (header_of_decodeHeader hheader).2.2
    unfold sysctlsStorable
    rw [hvalues, Bool.and_true, Bool.and_eq_true, decide_eq_true_eq]
    exact ⟨by omega, hsorted⟩
  obtain ⟨hend, _, hframed⟩ := framed_of_decodeRequest hrequest
  obtain ⟨hvalid, hdeclaration⟩ := prepare_validate_of_decode hframed.decode hframed.operation
  rw [← howner] at hvalid
  obtain ⟨_, _, _, _, ⟨hnone, hnoOwner, _⟩ | ⟨c, _, _, hc, _, hread⟩⟩ :=
    candidate_of_decodeRecovery hend hrecovery
  · refine ⟨failed_of_decodeFailedSection hfailed, hsysctls, ?_, ?_, hvalid, hdeclaration, ?_, ?_⟩
    · simp [hnone]
    · simp [candidateOwnerStorable, hnoOwner]
    · simp [hnone]
    · rw [hnoOwner]
      exact hvalid
  · obtain ⟨hvalid', hcandidate⟩ :=
      prepare_validate_of_decode hread.framed.decode hread.framed.operation
    refine ⟨failed_of_decodeFailedSection hfailed, hsysctls, fun _ => hread.phase, ?_, hvalid,
      hdeclaration, ?_, ?_⟩
    · have hinstance := hread.instanceId
      have hpid := hread.pid
      have hgeneration := hread.generation
      rw [← howner] at hinstance hpid hgeneration
      unfold candidateOwnerStorable
      rw [hread.owner]
      split
      · rfl
      · rename_i o ho
        split at ho
        · obtain rfl := Option.some.inj ho
          simp [hc, hinstance, hpid, hgeneration]
        · simp at ho
    · intro c' hc'
      rw [hc] at hc'
      exact Option.some.inj hc' ▸ hcandidate
    · rw [hread.owner]
      split
      · exact hvalid'
      · exact hvalid

/-! ## What the operations put into a record -/

/-- `Ipv4Prefix::new` and the journal agree on what a canonical prefix is. -/
theorem canonicalPrefix_of_canonical {p : Ipv4Prefix} (h : p.Canonical) :
    canonicalPrefix p = true := by
  have hmask : ∀ n : Fin 33, ~~~ prefixMask (UInt8.ofNat n)
      = if UInt8.ofNat n = 0 then (0xffffffff : UInt32)
        else ((1 : UInt32) <<< (32 - UInt8.ofNat n).toUInt32) - 1 := by
    decide
  unfold Ipv4Prefix.Canonical Ipv4Prefix.new at h
  split at h
  · simp at h
  · rename_i hlen
    split at h
    · simp at h
    · rename_i hbits
      have hle : p.prefixLen.toNat < 33 := by
        rw [UInt8.not_lt, UInt8.le_iff_toNat_le] at hlen
        exact Nat.lt_succ_of_le hlen
      have hhost := hmask ⟨p.prefixLen.toNat, hle⟩
      simp only [UInt8.ofNat_toNat] at hhost
      unfold canonicalPrefix
      rw [if_neg hlen, ← hhost]
      simpa using hbits

theorem strictlySortedBy_iff_pairwise {α : Type} {key : α → ℕ} (values : List α) :
    strictlySortedBy key values = true ↔ values.Pairwise (fun a b => key a < key b) := by
  have : IsTrans α (fun a b => key a < key b) := ⟨fun _ _ _ h h' => Nat.lt_trans h h'⟩
  rw [← List.isChain_iff_pairwise]
  induction values with
  | nil => simp [strictlySortedBy]
  | cons a values ih =>
    cases values with
    | nil => simp [strictlySortedBy]
    | cons b rest =>
      rw [strictlySortedBy, Bool.and_eq_true, decide_eq_true_eq, List.isChain_cons_cons]
      exact and_congr_right fun _ => ih

/-- Sorting and removing duplicates gives a strictly sorted list. -/
theorem isChain_lt_of_le_of_ne (prefixes : List Ipv4Prefix)
    (hle : prefixes.IsChain (fun p q => p ≤ q)) (hne : prefixes.IsChain (fun p q => p ≠ q)) :
    prefixes.IsChain (fun p q => p.rank < q.rank) := by
  induction prefixes with
  | nil => exact .nil
  | cons p prefixes ih =>
    cases prefixes with
    | nil => exact .singleton p
    | cons q rest =>
      rw [List.isChain_cons_cons] at hle hne ⊢
      refine ⟨?_, ih hle.2 hne.2⟩
      exact Nat.lt_of_le_of_ne hle.1 fun heq => hne.1 (Ipv4Prefix.rank_injective heq)

theorem sortDedup_sublist (prefixes : List Ipv4Prefix) :
    (sortDedup prefixes).Sublist (prefixes.insertionSort (fun p q => p ≤ q)) :=
  List.destutter_sublist _ _

theorem failedPrefixesStorable_sortDedup {prefixes : List Ipv4Prefix}
    (hlength : (sortDedup prefixes).length ≤ maxFailedPrefixes)
    (hcanonical : ∀ p ∈ prefixes, p.Canonical) :
    failedPrefixesStorable (sortDedup prefixes) = true := by
  have : Std.Total (fun p q : Ipv4Prefix => p ≤ q) := ⟨fun p q => Nat.le_total p.rank q.rank⟩
  have : IsTrans Ipv4Prefix (fun p q => p ≤ q) := ⟨fun p q r h h' => Nat.le_trans h h'⟩
  have hsorted := (List.pairwise_insertionSort (fun p q => p ≤ q) prefixes).sublist
    (sortDedup_sublist prefixes)
  have hchain : (sortDedup prefixes).IsChain (fun p q => p ≠ q) := List.isChain_destutter _ _
  have hstrict := isChain_lt_of_le_of_ne _ hsorted.isChain hchain
  have : IsTrans Ipv4Prefix (fun p q => p.rank < q.rank) := ⟨fun _ _ _ h h' => Nat.lt_trans h h'⟩
  unfold failedPrefixesStorable
  rw [Bool.and_eq_true, Bool.and_eq_true, decide_eq_true_eq, List.all_eq_true]
  refine ⟨⟨hlength, (strictlySortedBy_iff_pairwise _).mpr hstrict.pairwise⟩, ?_⟩
  intro p hp
  apply canonicalPrefix_of_canonical
  apply hcanonical
  exact (List.perm_insertionSort _ prefixes).subset ((sortDedup_sublist prefixes).subset hp)

/-- A subset of the failed prefixes can be stored if the whole can. -/
theorem failedPrefixesStorable_filter (keep : Ipv4Prefix → Bool)
    (h : failedPrefixesStorable failed = true) :
    failedPrefixesStorable (failed.filter keep) = true := by
  unfold failedPrefixesStorable at *
  rw [Bool.and_eq_true, Bool.and_eq_true, decide_eq_true_eq, strictlySortedBy_iff_pairwise,
    List.all_eq_true] at *
  obtain ⟨⟨hlength, hsorted⟩, hcanonical⟩ := h
  refine ⟨⟨?_, hsorted.filter _⟩, ?_⟩
  · exact Nat.le_trans (List.length_filter_le _ _) hlength
  · intro p hp
    exact hcanonical p (List.mem_of_mem_filter hp)

/-- What one call of `push_change` adds: nothing, or a change of the key. -/
def OneChange (key : SysctlKey) (entries : List SysctlChange) : Prop :=
  entries = [] ∨ ∃ c : SysctlChange, entries = [c] ∧ c.key = key ∧ c.original ≤ 2
    ∧ c.applied ≤ 2 ∧ c.original ≠ c.applied

theorem oneChange_pushChange {applied : UInt8} {entries : List SysctlChange}
    (happlied : applied ≤ 2) (h : pushChange readings key applied = .ok entries) :
    OneChange key entries := by
  unfold pushChange at h
  split at h
  · simp at h
  · rename_i original hread
    split at h
    · rename_i hne
      have hle : UInt8.ofNat original.val ≤ 2 := by
        have hall : ∀ n : Fin 3, UInt8.ofNat n.val ≤ 2 := by decide
        exact hall original
      exact Or.inr ⟨_, (Except.ok.inj h).symm, rfl, hle, happlied, hne⟩
    · exact Or.inl (Except.ok.inj h).symm

/-- One optional call of `push_change` in front of the rest. -/
theorem pushChange_bind_eq_ok {c : Prop} [Decidable c] {applied : UInt8}
    {k : List SysctlChange → Except NetworkError (List SysctlChange)} (happlied : applied ≤ 2)
    (h : (if c then pushChange readings key applied >>= k else Except.ok [] >>= k) = .ok sysctls) :
    ∃ entries, OneChange key entries ∧ k entries = .ok sysctls := by
  split at h
  · obtain ⟨entries, hpush, hk⟩ := bind_eq_ok h
    exact ⟨entries, oneChange_pushChange happlied hpush, hk⟩
  · exact ⟨[], Or.inl rfl, h⟩

/-- A list of at most `len` changes the encoder accepts, for keys beyond `n`. -/
structure ChangesAbove (n len : ℕ) (sysctls : List SysctlChange) : Prop where
  length : sysctls.length ≤ len
  sorted : strictlySortedBy (fun c : SysctlChange => c.key.code.toNat) sysctls = true
  values : sysctls.all (fun c => decide (c.original ≤ 2) && decide (c.applied ≤ 2)
    && c.original != c.applied) = true
  above : ∀ c ∈ sysctls, n < c.key.code.toNat

theorem ChangesAbove.append {entries sysctls : List SysctlChange} {n m len : ℕ}
    (h : ChangesAbove m len sysctls) (hentries : OneChange key entries) (hm : m = key.code.toNat)
    (hn : n < m) : ChangesAbove n (len + 1) (entries ++ sysctls) := by
  subst hm
  rcases hentries with rfl | ⟨e, rfl, hkey, horiginal, happlied, hne⟩
  · exact ⟨Nat.le_succ_of_le h.length, h.sorted, h.values,
      fun c hc => Nat.lt_trans hn (h.above c hc)⟩
  · have hsorted := (strictlySortedBy_iff_pairwise sysctls).mp h.sorted
    refine ⟨Nat.succ_le_succ h.length, (strictlySortedBy_iff_pairwise _).mpr ?_, ?_, ?_⟩
    · refine List.pairwise_cons.mpr ⟨fun c hc => ?_, hsorted⟩
      rw [hkey]
      exact h.above c hc
    · rw [List.singleton_append, List.all_cons, h.values]
      simp [horiginal, happlied, hne]
    · intro c hc
      rcases List.mem_cons.mp hc with rfl | hc
      · rwa [hkey]
      · exact Nat.lt_trans hn (h.above c hc)

/-- The snapshot has at most one entry for each key, in the order of the keys. -/
theorem sysctlsStorable_snapshot (h : snapshotSysctls readings declaration = .ok sysctls) :
    sysctlsStorable sysctls = true := by
  unfold snapshotSysctls at h
  obtain ⟨forward, hforward, h⟩ := pushChange_bind_eq_ok (by decide) h
  obtain ⟨allRp, hallRp, h⟩ := pushChange_bind_eq_ok (by decide) h
  obtain ⟨candyRp, hcandyRp, h⟩ := pushChange_bind_eq_ok (by decide) h
  obtain ⟨candyIpv6, hcandyIpv6, h⟩ := pushChange_bind_eq_ok (by decide) h
  obtain rfl : forward ++ (allRp ++ (candyRp ++ candyIpv6)) = sysctls := Except.ok.inj h
  have hempty : ChangesAbove 4 0 [] := ⟨by simp, rfl, rfl, by simp⟩
  have h4 : ChangesAbove 3 1 candyIpv6 := by
    simpa using hempty.append (n := 3) hcandyIpv6 rfl (by decide)
  have h3 := h4.append (n := 2) hcandyRp rfl (by decide)
  have h2 := h3.append (n := 1) hallRp rfl (by decide)
  have h1 := h2.append (n := 0) hforward rfl (by decide)
  unfold sysctlsStorable
  rw [h1.sorted, h1.values, decide_eq_true h1.length]
  rfl

/-! ## Changes of a record -/

namespace Journalable

variable {r : TransactionRecord}

theorem withSteps (h : Journalable r) (completedSteps : UInt16) :
    Journalable { r with completedSteps } :=
  ⟨h.failed, h.sysctls, h.phase, h.candidateOwner, h.owner, h.declaration, h.candidate, h.keeper⟩

theorem withPhase (h : Journalable r) {phase : TransactionPhase}
    (hphase : r.recoveryCandidate.isSome = true → phase.allowsCandidate = true)
    (drainDeadlineMonoMs : UInt64) : Journalable { r with phase, drainDeadlineMonoMs } :=
  ⟨h.failed, h.sysctls, hphase, h.candidateOwner, h.owner, h.declaration, h.candidate, h.keeper⟩

theorem withFailed (h : Journalable r) {failedPrefixes : List Ipv4Prefix}
    (hfailed : failedPrefixesStorable failedPrefixes = true) :
    Journalable { r with failedPrefixes } :=
  ⟨hfailed, h.sysctls, h.phase, h.candidateOwner, h.owner, h.declaration, h.candidate, h.keeper⟩

/-- A record without a candidate has only its own owner and declaration to check. -/
theorem withoutCandidate (h : Journalable r) (phase : TransactionPhase)
    (drainDeadlineMonoMs : UInt64) (howner : owner.validate = .ok ())
    (hdeclaration : declaration.validate = .ok ()) :
    Journalable { r with owner, declaration, phase, drainDeadlineMonoMs, recoveryCandidate := none,
                         recoveryCandidateOwner := none } :=
  ⟨h.failed, h.sysctls, by simp, rfl, howner, hdeclaration, by simp, howner⟩

/-- A candidate of a later generation of the same process. -/
theorem withCandidate (h : Journalable r) {phase : TransactionPhase}
    {drainDeadlineMonoMs : UInt64} (hphase : phase.allowsCandidate = true)
    (howner : owner.validate = .ok ()) (hdeclaration : declaration.validate = .ok ())
    (hsame : ensureReconfigureOwner r.owner owner = .ok ())
    (hgeneration : r.owner.generation ≤ owner.generation) :
    Journalable { r with phase, drainDeadlineMonoMs, recoveryCandidate := some declaration,
                         recoveryCandidateOwner := some owner } := by
  refine ⟨h.failed, h.sysctls, fun _ => hphase, ?_, h.owner, h.declaration, ?_, howner⟩
  · rw [ensureReconfigureOwner, refuseIf_eq_ok] at hsame
    simp only [Bool.not_eq_false', Bool.and_eq_true, beq_iff_eq] at hsame
    simp [candidateOwnerStorable, hsame.1, hsame.2, hgeneration]
  · intro c hc
    exact Option.some.inj hc ▸ hdeclaration

theorem candidate_eq_none (h : Journalable r) (hphase : r.phase.allowsCandidate = false) :
    r.recoveryCandidate = none := by
  by_contra hc
  have hallowed := h.phase (Option.isSome_iff_ne_none.mpr hc)
  simp [hphase] at hallowed

theorem candidateOwner_eq_none (h : Journalable r) (hc : r.recoveryCandidate = none) :
    r.recoveryCandidateOwner = none :=
  NetdV1.candidateOwner_eq_none h.candidateOwner hc

end Journalable

end CandyRuntime.NetdV1
