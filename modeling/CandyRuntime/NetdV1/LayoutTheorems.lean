import CandyRuntime.NetdV1.MachineJournal

/-!
# What the journal decoder accepts

A file that `decode_record` accepts is the concatenation of its sections and its checksum: each
section begins where the one before it ends, holds what the record says, and the last one ends with
the content.
-/

namespace CandyRuntime.NetdV1

open Lib NetdProto Checked

variable {phase : TransactionPhase} {failed : List Ipv4Prefix} {count : ℕ}

/-! ## The loops -/

/-- The sysctl loop returns the entries it has read, when they are whole. -/
theorem sysctlBytes_of_decodeSysctls (entries : Bytes) (last : Option SysctlChange)
    {sysctls : List SysctlChange} (h : decodeSysctls entries last = pure sysctls)
    (hlength : entries.length = count * 3) :
    sysctlBytes sysctls = entries ∧ sysctls.length = count := by
  have hkey : ∀ {byte : UInt8} {key : SysctlKey}, SysctlKey.tryFrom byte = .ok key →
      key.code = byte := by
    intro byte key hkey
    unfold SysctlKey.tryFrom at hkey
    split_ifs at hkey with h1 h2 h3 h4
    all_goals rw [← Except.ok.inj hkey]
    · exact h1.symm
    · exact h2.symm
    · exact h3.symm
    · exact h4.symm
  induction entries, last using decodeSysctls.induct generalizing sysctls count with
  | case1 key original applied rest last ih =>
    rw [decodeSysctls] at h
    obtain ⟨k, hk, h⟩ := bind_eq_pure h
    obtain ⟨_, -, h⟩ := bind_eq_pure h
    obtain ⟨changes, hrest, h⟩ := bind_eq_pure h
    obtain rfl := Checked.pure_inj h
    have hrestLength : rest.length = (count - 1) * 3 := by
      simp only [List.length_cons] at hlength
      omega
    obtain ⟨hbytes, hcount⟩ := ih _ hrest hrestLength
    have hcode := hkey (orJournal_eq_pure hk)
    constructor
    · unfold sysctlBytes at hbytes ⊢
      rw [List.flatMap_cons, hbytes, hcode]
      rfl
    · simp only [List.length_cons] at hlength ⊢
      omega
  | case2 entries last hshort =>
    -- fewer than three bytes are left, so none is
    have hnil : entries = [] := by
      rcases entries with _ | ⟨key, _ | ⟨original, _ | ⟨applied, rest⟩⟩⟩
      · rfl
      · simp at hlength; omega
      · simp at hlength; omega
      · exact absurd rfl (hshort key original applied rest)
    subst hnil
    rw [decodeSysctls] at h
    · obtain rfl := Checked.pure_inj h
      refine ⟨rfl, ?_⟩
      simp only [List.length_nil] at hlength ⊢
      omega
    · exact hshort

/-- The failed-prefix loop returns the entries it has read, when they are whole. -/
theorem failedEntries_of_decodeFailed (entries : Bytes) (last : Option Ipv4Prefix)
    (h : decodeFailed entries last = pure failed) (hlength : entries.length = count * 5) :
    failedEntries failed = entries ∧ failed.length = count := by
  induction entries, last using decodeFailed.induct generalizing failed count with
  | case1 a b c d prefixLen rest last value =>
    rename_i ih
    rw [decodeFailed] at h
    obtain ⟨_, -, h⟩ := bind_eq_pure h
    obtain ⟨values, hrest, h⟩ := bind_eq_pure h
    obtain rfl := Checked.pure_inj h
    have hrestLength : rest.length = (count - 1) * 5 := by
      simp only [List.length_cons] at hlength
      omega
    obtain ⟨hbytes, hcount⟩ := ih hrest hrestLength
    have hnetwork : toBE 4 value.network.toNat = [a, b, c, d] := by
      have hlt := fromBE_lt [a, b, c, d]
      have hvalue : value.network.toNat = fromBE [a, b, c, d] := by
        show (UInt32.ofNat (fromBE [a, b, c, d])).toNat = _
        rw [UInt32.toNat_ofNat']
        exact Nat.mod_eq_of_lt (by simpa using hlt)
      rw [hvalue]
      exact toBE_fromBE [a, b, c, d]
    constructor
    · unfold failedEntries at hbytes ⊢
      rw [List.flatMap_cons, hbytes, hnetwork]
      rfl
    · simp only [List.length_cons] at hlength ⊢
      omega
  | case2 entries last hshort =>
    have hnil : entries = [] := by
      rcases entries with _ | ⟨a, _ | ⟨b, _ | ⟨c, _ | ⟨d, _ | ⟨prefixLen, rest⟩⟩⟩⟩⟩
      · rfl
      · simp at hlength; omega
      · simp at hlength; omega
      · simp at hlength; omega
      · simp at hlength; omega
      · exact absurd rfl (hshort a b c d prefixLen rest)
    subst hnil
    rw [decodeFailed] at h
    · obtain rfl := Checked.pure_inj h
      refine ⟨rfl, ?_⟩
      simp only [List.length_nil] at hlength ⊢
      omega
    · exact hshort

/-! ## The sections -/

section Sections

variable {bytes version : Bytes} {contentLen : ℕ}

/-- The failed-prefix section: under the fourth magic a count and its entries, else nothing. -/
structure ReadFailed (bytes version : Bytes) (contentLen stop : ℕ) (failed : List Ipv4Prefix) :
    Prop where
  bytes : cut bytes stop contentLen
    = if version = magicV4 then toBE 2 failed.length ++ failedEntries failed else []
  present : failed ≠ [] ↔ version = magicV4
  stop : stop ≤ contentLen

theorem readFailed_of_count {offset : ℕ} {hasCandidate : Bool} (hversion : version = magicV4)
    (h : (do
      refuseIf (!hasCandidate && decide (contentLen < offset))
      let countEnd := offset + 2
      refuseIf (decide (contentLen < countEnd))
      let count := fromBE (← slice bytes offset countEnd)
      let payloadEnd := countEnd + count * 5
      refuseIf (count == 0 || decide (maxFailedPrefixes < count) || payloadEnd != contentLen)
      decodeFailed (← slice bytes countEnd payloadEnd) none) = pure failed) :
    ReadFailed bytes version contentLen offset failed := by
  obtain ⟨_, -, h⟩ := bind_eq_pure h
  obtain ⟨_, -, h⟩ := bind_eq_pure h
  obtain ⟨length, hlength, h⟩ := bind_eq_pure h
  obtain ⟨_, hcount, h⟩ := bind_eq_pure h
  obtain ⟨entries, hentries, h⟩ := bind_eq_pure h
  have hcount := refuseIf_eq_false hcount
  simp only [Bool.or_eq_false_iff, bne_eq_false_iff_eq, beq_eq_false_iff_ne] at hcount
  obtain ⟨⟨hzero, -⟩, hend⟩ := hcount
  have hentriesLength := length_of_slice hentries
  have hwhole : entries.length = fromBE length * 5 := by omega
  obtain ⟨hread, hlen⟩ := failedEntries_of_decodeFailed entries none h hwhole
  obtain ⟨rfl, -, hstop⟩ := slice_eq_pure hlength
  obtain ⟨hcut, hle, -⟩ := slice_eq_pure hentries
  refine ⟨?_, ?_, by omega⟩
  · rw [if_pos hversion, hread, hlen, toBE_of_cut hstop, hcut, ← hend]
    exact (cut_append (by omega) hle).symm
  · have hne : failed ≠ [] := by
      rintro rfl
      exact hzero (by rw [← hlen]; rfl)
    exact ⟨fun _ => hversion, fun _ => hne⟩

theorem readFailed_of_decodeFailedSection {requestEnd stop : ℕ} {hasCandidate : Bool}
    (hrecomputed : version ≠ magicV1 →
      stop = requestEnd + 4 + fromBE (cut bytes requestEnd (requestEnd + 4)))
    (hcandidate : hasCandidate = true → version ≠ magicV1) (hnone : hasCandidate = false →
      (version = magicV1 ∧ stop = contentLen) ∨ (version = magicV4 ∧ stop = requestEnd + 4))
    (h : decodeFailedSection bytes version contentLen requestEnd hasCandidate = pure failed) :
    ReadFailed bytes version contentLen stop failed := by
  unfold decodeFailedSection at h
  split at h
  · rename_i hversion
    obtain ⟨_, -, h⟩ := bind_eq_pure h
    cases hasCandidate with
    | true =>
      -- the length of the candidate is read once more
      obtain ⟨_, -, h⟩ := bind_eq_pure h
      obtain ⟨length, hlength, h⟩ := bind_eq_pure h
      rw [pure_bind] at h
      rw [hrecomputed (hcandidate rfl), ← (slice_eq_pure hlength).1]
      exact readFailed_of_count hversion h
    | false =>
      have hstop : stop = requestEnd + 4 := by
        rcases hnone rfl with ⟨hv1, -⟩ | ⟨-, hstop⟩
        · rw [hversion] at hv1
          exact absurd hv1 (by decide)
        · exact hstop
      rw [if_neg (by simp), pure_bind] at h
      rw [hstop]
      exact readFailed_of_count hversion h
  · rename_i hversion
    have hend : stop = contentLen ∧ failed = [] := by
      cases hasCandidate with
      | true =>
        obtain ⟨length, hlength, h⟩ := bind_eq_pure h
        obtain ⟨_, hend, h⟩ := bind_eq_pure h
        have hend := refuseIf_eq_false hend
        rw [bne_eq_false_iff_eq, (slice_eq_pure hlength).1, ← hrecomputed (hcandidate rfl)] at hend
        exact ⟨hend, (Checked.pure_inj h).symm⟩
      | false =>
        rcases hnone rfl with ⟨-, hstop⟩ | ⟨hv4, -⟩
        · exact ⟨hstop, (Checked.pure_inj h).symm⟩
        · exact absurd hv4 hversion
    obtain ⟨rfl, rfl⟩ := hend
    refine ⟨?_, by simp [hversion], le_refl _⟩
    rw [if_neg hversion, cut_nil]

end Sections

/-! ## The whole file -/

/-- The sections of a journal file. -/
structure Sections where
  version : Bytes
  header : Bytes
  sysctls : Bytes
  deadline : Bytes
  request : Bytes
  candidate : Bytes
  failed : Bytes

/-- What the checksum covers. -/
def Sections.content (s : Sections) : Bytes :=
  s.version ++ (s.header ++ (s.sysctls ++ (s.deadline ++ (s.request ++ (s.candidate ++ s.failed)))))

/-- The candidate section under a magic: a zero length or nothing, or a request with its length. -/
def HoldsCandidate (version part : Bytes) (retained : LeaseOwner) (owner : Option LeaseOwner) :
    Option PrepareDeclaration → Prop
  | none => owner = none ∧ part = if version = magicV4 then toBE 4 0 else []
  | some candidate => ∃ frame recovery, part = toBE 4 frame.length ++ frame
    ∧ NetdRequest.decode frame = .ok recovery ∧ recovery.owner = owner.getD retained
    ∧ recovery.operation = .prepare candidate

/-- The sections hold the record, each of them nothing else. -/
structure Sections.Holds (s : Sections) (r : TransactionRecord) : Prop where
  version : s.version ∈ [magicV1, magicV2, magicV3, magicV4]
  header : s.header
    = r.phase.code :: (toBE 2 r.completedSteps.toNat ++ [UInt8.ofNat r.sysctls.length])
  sysctls : s.sysctls = sysctlBytes r.sysctls
  deadline : if s.version = magicV3 then s.deadline = toBE 8 r.drainDeadlineMonoMs.toNat
    else s.deadline = [] ∧ r.drainDeadlineMonoMs = 0
  request : ∃ frame request, s.request = toBE 4 frame.length ++ frame
    ∧ NetdRequest.decode frame = .ok request ∧ request.owner = r.owner
    ∧ request.operation = .prepare r.declaration
  candidate :
    HoldsCandidate s.version s.candidate r.owner r.recoveryCandidateOwner r.recoveryCandidate
  failed : s.failed
    = if s.version = magicV4 then toBE 2 r.failedPrefixes.length ++ failedEntries r.failedPrefixes
      else []
  withFailed : r.failedPrefixes ≠ [] ↔ s.version = magicV4

/-- A file that is its sections and their checksum, with sorted entries and a candidate of the
retained process. -/
structure Tiled (sha : Bytes → Vector UInt8 32) (bytes : Bytes) (r : TransactionRecord) :
    Prop where
  tiles : ∃ s : Sections, bytes = s.content ++ (sha s.content).toList ∧ s.Holds r
  sysctls : r.sysctls.Pairwise fun a b => a.key.code < b.key.code
  failed : r.failedPrefixes.Pairwise (· < ·)
  candidate : r.recoveryCandidate.isSome → ∀ owner, owner = r.recoveryCandidateOwner.getD r.owner →
    owner.instanceId = r.owner.instanceId ∧ owner.pid = r.owner.pid
      ∧ r.owner.generation ≤ owner.generation

section

variable {bytes version : Bytes} {contentLen : ℕ}

/-- The candidate section, read off the record. -/
theorem candidate_of_read {requestEnd stop : ℕ} {retained : LeaseOwner}
    {candidate : Option PrepareDeclaration} {owner : Option LeaseOwner}
    (h : (candidate = none ∧ owner = none ∧ NoCandidate bytes version contentLen requestEnd stop)
      ∨ ∃ c recovery frame, candidate = some c ∧ version ≠ magicV1
        ∧ ReadCandidate bytes requestEnd stop phase retained c owner recovery frame) :
    HoldsCandidate version (cut bytes requestEnd stop) retained owner candidate := by
  rcases h with ⟨rfl, rfl, ⟨rfl, rfl, -⟩ | ⟨rfl, -, hzero⟩⟩ | ⟨c, recovery, frame, rfl, -, hread⟩
  · exact ⟨rfl, by rw [cut_nil, if_neg (by decide)]⟩
  · exact ⟨rfl, by rw [hzero, if_pos rfl]⟩
  · refine ⟨frame, recovery, hread.framed.bytes, hread.framed.decode, ?_, hread.framed.operation⟩
    rw [hread.owner]
    by_cases hsame : recovery.owner = retained
    · rw [if_neg (not_not.mpr hsame)]
      exact hsame
    · rw [if_pos hsame]
      rfl

/-- Behind the header each section begins where the one before it ends. -/
theorem holds_of_decodeBody {steps : UInt16} {r : TransactionRecord}
    (hversion : version ∈ [magicV1, magicV2, magicV3, magicV4]) (hmagic : version = cut bytes 0 8)
    (hheader : decodeHeader bytes = pure (phase, steps, count))
    (h : decodeBody bytes version contentLen phase steps count = pure r) :
    ∃ s : Sections, s.content = cut bytes 0 contentLen ∧ s.Holds r := by
  obtain ⟨entries, deadline, offset, requestEnd, request, hentries, hsysctls, hoffset, hfits,
    hdeadline, hrequest, hrecovery, hfailed, howner, hphase, hsteps, hvalue⟩ := decodeBody_eq_pure h
  have hentriesLength := length_of_slice hentries
  have hwhole : entries.length = count * 3 := by omega
  obtain ⟨hsysctlBytes, hcount⟩ := sysctlBytes_of_decodeSysctls entries none hsysctls hwhole
  obtain ⟨hrequestEnd, frame, hframed⟩ := framed_of_decodeRequest hrequest
  obtain ⟨stop, hstart, hstop, hrecomputed, hcandidate⟩ :=
    candidate_of_decodeRecovery hrequestEnd hrecovery
  have hread : ReadFailed bytes version contentLen stop r.failedPrefixes := by
    refine readFailed_of_decodeFailedSection hrecomputed ?_ ?_ hfailed
    · rcases hcandidate with ⟨hnone, -, -⟩ | ⟨c, _, _, -, hne, -⟩
      · exact fun hsome => absurd hsome (by simp [hnone])
      · exact fun _ => hne
    · rcases hcandidate with ⟨-, -, ⟨hv1, hstop, hend⟩ | ⟨hv4, hstop, -⟩⟩ | ⟨c, _, _, hsome, -, -⟩
      · exact fun _ => .inl ⟨hv1, hstop.trans hend⟩
      · exact fun _ => .inr ⟨hv4, hstop⟩
      · exact fun hnone => absurd hnone (by simp [hsome])
  have hrequestStop := hframed.stop
  refine ⟨{ version, header := cut bytes 8 12, sysctls := cut bytes 12 (12 + count * 3),
            deadline := cut bytes (12 + count * 3) offset, request := cut bytes offset requestEnd,
            candidate := cut bytes requestEnd stop, failed := cut bytes stop contentLen },
    ?_, hversion, ?_, ?_, ?_, ?_, ?_, hread.bytes, hread.present⟩
  · unfold Sections.content
    rw [cut_append hstart hstop, cut_append (by omega) (by omega), cut_append hoffset (by omega),
      cut_append (by omega) (by omega), cut_append (by omega) (by omega), hmagic,
      cut_append (by omega) (by omega)]
  · rw [(header_of_decodeHeader hheader).1, hcount, hphase, hsteps]
  · rw [hsysctlBytes]
    exact (slice_eq_pure hentries).1.symm
  · rw [hvalue]
    exact hdeadline
  · exact ⟨frame, request, hframed.bytes, hframed.decode, howner.symm, hframed.operation⟩
  · rw [howner]
    exact candidate_of_read hcandidate

/-- A file that is accepted is its sections and their checksum. -/
theorem tiled_of_decodeRecord {sha : Bytes → Vector UInt8 32} {r : TransactionRecord}
    (h : decodeRecord sha bytes = pure r) : Tiled sha bytes r := by
  have hjournalable := journalable_of_decodeRecord h
  have htiles : ∃ s : Sections, bytes = s.content ++ (sha s.content).toList ∧ s.Holds r := by
    rw [decodeRecord] at h
    obtain ⟨_, hlength, h⟩ := bind_eq_pure h
    obtain ⟨version, hslice, h⟩ := bind_eq_pure h
    obtain ⟨_, hknown, h⟩ := bind_eq_pure h
    obtain ⟨content, hcontentSlice, h⟩ := bind_eq_pure h
    obtain ⟨trailer, htrailer, h⟩ := bind_eq_pure h
    obtain ⟨_, hchecksum, h⟩ := bind_eq_pure h
    obtain ⟨⟨phase, steps, count⟩, hheader, h⟩ := bind_eq_pure h
    have hversion : version ∈ [magicV1, magicV2, magicV3, magicV4] := by
      have hknown := refuseIf_eq_false hknown
      simp only [Bool.and_eq_false_iff, bne_eq_false_iff_eq] at hknown
      simp only [List.mem_cons, List.not_mem_nil, or_false]
      tauto
    obtain ⟨s, hcontent, hholds⟩ := holds_of_decodeBody hversion (slice_eq_pure hslice).1 hheader h
    have hchecksum := refuseIf_eq_false hchecksum
    rw [bne_eq_false_iff_eq, (slice_eq_pure hcontentSlice).1, (slice_eq_pure htrailer).1,
      ← hcontent] at hchecksum
    refine ⟨s, ?_, hholds⟩
    rw [hchecksum, hcontent, cut_append (Nat.zero_le _) (Nat.sub_le _ _), cut_self]
  have hsysctls := hjournalable.sysctls
  have hfailed := hjournalable.failed
  simp only [sysctlsStorable, failedPrefixesStorable, Bool.and_eq_true,
    strictlySortedBy_iff_pairwise] at hsysctls hfailed
  refine ⟨htiles, ?_, hfailed.1.2, ?_⟩
  · simpa only [UInt8.lt_iff_toNat_lt] using hsysctls.1.2
  · rintro - owner rfl
    have howner := hjournalable.candidateOwner
    unfold candidateOwnerStorable at howner
    cases hsome : r.recoveryCandidateOwner with
    | none => exact ⟨rfl, rfl, UInt64.le_refl _⟩
    | some owner =>
      simp only [hsome, Bool.and_eq_true, beq_iff_eq, decide_eq_true_eq] at howner
      exact ⟨howner.1.1.2, howner.1.2, howner.2⟩

/-! ## Every file -/

theorem total_decodeBody {steps : UInt16} (hcontent : contentLen ≤ bytes.length) :
    Total (decodeBody bytes version contentLen phase steps count) := by
  unfold decodeBody
  generalize (if version = magicV3 then 8 else 0) = deadlineLen
  refine Total.refuseIf_bind fun hfits => ?_
  rw [decide_eq_false_iff_not, not_lt] at hfits
  refine Total.bind (total_slice (by omega) (by omega)) fun entries _ => ?_
  refine Total.bind (total_decodeSysctls _ _) fun sysctls _ => ?_
  have hrest : ∀ deadline, Total (do
      let parsed ← decodeRequest bytes contentLen (12 + count * 3 + deadlineLen)
        (12 + count * 3 + deadlineLen + 4)
      let candidate ← decodeRecovery bytes version contentLen parsed.2.2 phase parsed.1
      let failedPrefixes ←
        decodeFailedSection bytes version contentLen parsed.2.2 candidate.1.isSome
      (pure { owner := parsed.1.owner, declaration := parsed.2.1, recoveryCandidate := candidate.1,
              recoveryCandidateOwner := candidate.2, phase, completedSteps := steps, sysctls,
              drainDeadlineMonoMs := UInt64.ofNat deadline, failedPrefixes } :
        Checked TransactionRecord)) := by
    intro deadline
    refine Total.bind (total_decodeRequest hfits hcontent) fun parsed hrequest => ?_
    refine Total.bind (total_decodeRecovery hcontent) fun candidate hrecovery => ?_
    refine Total.bind (total_decodeFailedSection hcontent ?_) fun _ _ => total_pure _
    -- a candidate was read behind its length
    intro hsome
    obtain ⟨stop, -, hstop, -, hread⟩ :=
      candidate_of_decodeRecovery (framed_of_decodeRequest hrequest).1 hrecovery
    rcases hread with ⟨hnone, -, -⟩ | ⟨_, _, frame, -, -, hread⟩
    · rw [hnone] at hsome
      exact absurd hsome (by simp)
    · have hframe : stop = parsed.2.2 + 4 + frame.length := hread.framed.stop
      show parsed.2.2 + 4 ≤ contentLen
      omega
  dsimp only
  split
  · rename_i hdeadline
    refine Total.bind (total_slice (by omega) (by omega)) fun seg _ => ?_
    rw [pure_bind]
    exact hrest _
  · rw [pure_bind]
    exact hrest 0

theorem total_decodeRecord (sha : Bytes → Vector UInt8 32) (bytes : Bytes) :
    Total (decodeRecord sha bytes) := by
  unfold decodeRecord
  refine Total.refuseIf_bind fun hlength => ?_
  rw [decide_eq_false_iff_not, not_lt] at hlength
  have hminimum : 12 ≤ bytes.length := by
    unfold headerLen at hlength
    omega
  refine Total.bind (total_slice (by omega) (by omega)) fun version _ => ?_
  refine Total.refuseIf_bind fun _ => ?_
  refine Total.bind (total_slice (Nat.zero_le _) (Nat.sub_le _ _)) fun content _ => ?_
  refine Total.bind (total_slice (Nat.sub_le _ _) (Nat.le_refl _)) fun trailer _ => ?_
  refine Total.refuseIf_bind fun _ => ?_
  refine Total.bind (total_decodeHeader (by omega)) fun header _ => ?_
  exact total_decodeBody (Nat.sub_le _ _)

/-- On every byte string that can be in memory, under every checksum, the decoder returns, and
what it accepts is tiled by its sections. -/
theorem journal_decoding_is_exact (sha : Bytes → Vector UInt8 32) (bytes : Bytes)
    (hbytes : bytes.length < 2 ^ 63) :
    Total (machineRecord sha bytes)
      ∧ ∀ r, (machineRecord sha bytes).run = some (.ok r) → Tiled sha bytes r := by
  rw [machineRecord_eq sha hbytes]
  exact ⟨total_decodeRecord sha bytes, fun r h => tiled_of_decodeRecord h⟩

/-- The file of an interrupted update is accepted and tiled. -/
theorem interrupted_update_is_tiled :
    (machineRecord Sample.digest (Sample.stored Sample.record)).run = some (.ok Sample.record)
      ∧ Tiled Sample.digest (Sample.stored Sample.record) Sample.record := by
  have haccepted :
      (machineRecord Sample.digest (Sample.stored Sample.record)).run = some (.ok Sample.record) := by
    decide +kernel
  have hbytes : (Sample.stored Sample.record).length < 2 ^ 63 := by decide +kernel
  exact ⟨haccepted, (journal_decoding_is_exact _ _ hbytes).2 _ haccepted⟩

end

end CandyRuntime.NetdV1
