import CandyRuntime.NetdProto.CodecTheorems
import CandyRuntime.NetdV1.Journal

/-!
# The v1 journal read back

`decodeRecord_encodeRecord` computes what the decoder returns for a file the encoder wrote,
section by section, for every record that does not carry a candidate and failed prefixes at
the same time: the record itself, except that a candidate owner equal to the retained owner
is dropped (`withoutRetainedOwner`). `decodeRecord_ne_of_both` says why the excluded records are
never read back: the encoder writes the drain deadline whenever there is a candidate, the
decoder looks for it only behind the third magic.
-/

namespace CandyRuntime.NetdV1

open Lib NetdProto

variable {sha : Bytes → Vector UInt8 32} {r : TransactionRecord} {b bytes : Bytes}
  {contentLen offset : ℕ} {request : NetdRequest}

/-- The records a network transaction hands to the journal: only known step bits, prefixes
built by `Ipv4Prefix::new`, validated declarations, and no drain deadline without a
candidate. -/
structure Storable (r : TransactionRecord) : Prop where
  steps : r.completedSteps &&& ~~~ 0x3f = 0
  declaration : r.declaration.validate = .ok () ∧ r.declaration.Canonical
  candidate : ∀ c, r.recoveryCandidate = some c → c.validate = .ok () ∧ c.Canonical
  failed : ∀ p ∈ r.failedPrefixes, p.Canonical
  deadline : r.recoveryCandidate = none → r.drainDeadlineMonoMs = 0

/-- The record with its candidate owner forgotten when that is the retained owner. -/
def withoutRetainedOwner (r : TransactionRecord) : TransactionRecord :=
  { r with recoveryCandidateOwner := r.recoveryCandidateOwner.filter (fun o => o ≠ r.owner) }

theorem withoutRetainedOwner_eq_self (h : r.recoveryCandidateOwner ≠ some r.owner) :
    withoutRetainedOwner r = r := by
  have hfilter : r.recoveryCandidateOwner.filter (fun o => o ≠ r.owner)
      = r.recoveryCandidateOwner := by
    cases ho : r.recoveryCandidateOwner with
    | none => rfl
    | some o =>
      rw [ho] at h
      exact Option.filter_some_pos (by simpa using h)
  rw [withoutRetainedOwner, hfilter]

/-! ## What the encoder has checked -/

theorem encodeRequest_eq_ok (h : encodeRequest request = .ok b) : request.encode = .ok b := by
  unfold encodeRequest Except.mapError at h
  cases hr : request.encode with
  | error e => rw [hr] at h; simp at h
  | ok v => rw [hr] at h; simpa using h

/-- A request frame is not empty and within the frame limit. -/
theorem length_of_encode (h : request.encode = .ok b) :
    0 < b.length ∧ b.length ≤ maxNetdFrameLen := by
  obtain ⟨-, -, hf, rfl⟩ := NetdRequest.encode_eq_ok h
  rw [ensureFrame, refuseIf_eq_ok] at hf
  simp only [Bool.or_eq_false_iff, decide_eq_false_iff_not, List.isEmpty_eq_false_iff] at hf
  exact ⟨List.length_pos_iff.mpr hf.1, by omega⟩

/-- The pieces of a file that `encode_record` wrote. -/
structure Encoded (r : TransactionRecord) (request recoverySection : Bytes) : Prop where
  failed : failedPrefixesStorable r.failedPrefixes = true
  sysctls : sysctlsStorable r.sysctls = true
  phase : r.recoveryCandidate.isSome = true → r.phase.allowsCandidate = true
  candidateOwner : candidateOwnerStorable r = true
  request : (journalRequest r.owner r.declaration).encode = .ok request
  recovery : (∃ c recovery, r.recoveryCandidate = some c
      ∧ (journalRequest (r.recoveryCandidateOwner.getD r.owner) c).encode = .ok recovery
      ∧ recoverySection = toBE 4 recovery.length ++ recovery)
    ∨ (r.recoveryCandidate = none
      ∧ recoverySection = if r.failedPrefixes ≠ [] then toBE 4 0 else [])

theorem encodeLen_of_encode (h : request.encode = .ok b) :
    encodeLen b.length = .ok (toBE 4 b.length) := by
  have hlen := (length_of_encode h).2
  unfold maxNetdFrameLen at hlen
  rw [encodeLen, if_pos (by omega)]

/-- The content of a file, given its two variable sections. -/
def contentOf (r : TransactionRecord) (request recoverySection : Bytes) : Bytes :=
  headerBytes r ++ (sysctlBytes r.sysctls ++ (deadlineBytes r
    ++ (toBE 4 request.length ++ (request ++ (recoverySection ++ failedBytes r.failedPrefixes)))))

theorem encodeRecord_eq_ok (h : encodeRecord sha r = .ok b) :
    ∃ request recoverySection, Encoded r request recoverySection
      ∧ b = contentOf r request recoverySection
        ++ (sha (contentOf r request recoverySection)).toList := by
  obtain ⟨content, hcontent, hb⟩ := bind_eq_ok h
  unfold encodeContent at hcontent
  obtain ⟨⟨⟩, hfailed, hcontent⟩ := bind_eq_ok hcontent
  obtain ⟨⟨⟩, hsysctls, hcontent⟩ := bind_eq_ok hcontent
  obtain ⟨⟨⟩, hphase, hcontent⟩ := bind_eq_ok hcontent
  obtain ⟨⟨⟩, howner, hcontent⟩ := bind_eq_ok hcontent
  obtain ⟨request, hrequest, hcontent⟩ := bind_eq_ok hcontent
  obtain ⟨recovery, hrecovery, hcontent⟩ := bind_eq_ok hcontent
  obtain ⟨len, hlen, hcontent⟩ := bind_eq_ok hcontent
  obtain ⟨recoverySection, hsection, hcontent⟩ := bind_eq_ok hcontent
  have hrequest' := encodeRequest_eq_ok hrequest
  rw [encodeLen_of_encode hrequest'] at hlen
  obtain rfl : toBE 4 request.length = len := by simpa using hlen
  rw [refuseIf_eq_ok, Bool.not_eq_false'] at hfailed hsysctls howner
  rw [refuseIf_eq_ok, Bool.and_eq_false_imp] at hphase
  simp only [Bool.not_eq_false'] at hphase
  refine ⟨request, recoverySection,
    ⟨hfailed, hsysctls, hphase, howner, hrequest', ?_⟩, ?_⟩
  · unfold encodeRecovery at hrecovery
    cases hc : r.recoveryCandidate with
    | none =>
      rw [hc] at hrecovery
      obtain rfl : none = recovery := by simpa using hrecovery
      refine Or.inr ⟨rfl, ?_⟩
      simpa [recoveryBytes] using hsection.symm
    | some c =>
      rw [hc] at hrecovery
      obtain ⟨bytes, hbytes, hrec⟩ := bind_eq_ok hrecovery
      obtain rfl : some bytes = recovery := by simpa [pure, Except.pure] using hrec
      have hbytes' := encodeRequest_eq_ok hbytes
      refine Or.inl ⟨c, bytes, rfl, hbytes', ?_⟩
      obtain ⟨len, hlen, hsec⟩ := bind_eq_ok hsection
      rw [encodeLen_of_encode hbytes'] at hlen
      obtain rfl : toBE 4 bytes.length = len := by simpa using hlen
      simpa [pure, Except.pure] using hsec.symm
  · obtain rfl : contentOf r request recoverySection = content := by
      simpa [contentOf, pure, Except.pure] using hcontent
    simpa [pure, Except.pure] using hb.symm

/-! ## The decoder, section by section -/

namespace Checked

theorem refuseIf_eq_pure {c : Bool} (h : c = false) : refuseIf c = pure () := by
  rw [h]
  rfl

theorem slice_append (bs pre seg post : Bytes) (start stop : ℕ)
    (hbs : bs = pre ++ (seg ++ post)) (hstart : start = pre.length)
    (hstop : stop = pre.length + seg.length) : slice bs start stop = pure seg := by
  rw [slice, slice?_append hbs hstart hstop]
  rfl

end Checked

open Checked

theorem decodePhase_code (phase : TransactionPhase) : decodePhase phase.code = pure phase := by
  cases phase <;> rfl

theorem tryFrom_code (key : SysctlKey) : SysctlKey.tryFrom key.code = .ok key := by
  cases key <;> rfl

/-- The sysctl loop, with the entries before it as far as they matter. -/
theorem decodeSysctls_sysctlBytes (sysctls : List SysctlChange) (last : Option SysctlChange)
    (hsorted : strictlySortedBy (fun c : SysctlChange => c.key.code.toNat)
      (last.toList ++ sysctls) = true)
    (hvalues : sysctls.all (fun c => decide (c.original ≤ 2) && decide (c.applied ≤ 2)
      && c.original != c.applied) = true) :
    decodeSysctls (sysctlBytes sysctls) last = pure sysctls := by
  induction sysctls generalizing last with
  | nil => rfl
  | cons c sysctls ih =>
    rw [List.all_cons, Bool.and_eq_true] at hvalues
    obtain ⟨hc, hrest⟩ := hvalues
    have htail : strictlySortedBy (fun c : SysctlChange => c.key.code.toNat)
        ((some c).toList ++ sysctls) = true := by
      cases last with
      | none => exact hsorted
      | some p =>
        change (decide _ && strictlySortedBy _ (c :: sysctls)) = true at hsorted
        exact (Bool.and_eq_true _ _ ▸ hsorted).2
    have hlast : last.any (fun p => decide (c.key.code ≤ p.key.code)) = false := by
      cases last with
      | none => rfl
      | some p =>
        change (decide _ && strictlySortedBy _ (c :: sysctls)) = true at hsorted
        rw [Bool.and_eq_true, decide_eq_true_eq] at hsorted
        simpa [UInt8.lt_iff_toNat_lt] using hsorted.1
    have hrefuse : (decide (2 < c.original) || decide (2 < c.applied)
        || c.original == c.applied
        || last.any (fun p => decide (c.key.code ≤ p.key.code))) = false := by
      rw [hlast]
      simp only [Bool.and_eq_true, decide_eq_true_eq, bne_iff_ne] at hc
      simpa using hc
    change decodeSysctls (c.key.code :: c.original :: c.applied :: sysctlBytes sysctls) last = _
    rw [decodeSysctls, tryFrom_code]
    change (do
      refuseIf _
      let changes ← decodeSysctls (sysctlBytes sysctls) (some c)
      pure (c :: changes)) = _
    rw [refuseIf_eq_pure hrefuse, pure_bind, ih (some c) htail hrest, pure_bind]

/-- The failed-prefix loop, with the entries before it as far as they matter. -/
theorem decodeFailed_failedEntries (failed : List Ipv4Prefix) (last : Option Ipv4Prefix)
    (hsorted : strictlySortedBy Ipv4Prefix.rank (last.toList ++ failed) = true)
    (hvalues : failed.all canonicalPrefix = true) :
    decodeFailed (failedEntries failed) last = pure failed := by
  induction failed generalizing last with
  | nil => rfl
  | cons p failed ih =>
    rw [List.all_cons, Bool.and_eq_true] at hvalues
    obtain ⟨hp, hrest⟩ := hvalues
    have htail : strictlySortedBy Ipv4Prefix.rank ((some p).toList ++ failed) = true := by
      cases last with
      | none => exact hsorted
      | some q =>
        change (decide _ && strictlySortedBy _ (p :: failed)) = true at hsorted
        exact (Bool.and_eq_true _ _ ▸ hsorted).2
    have hlast : last.any (fun q => decide (p ≤ q)) = false := by
      cases last with
      | none => rfl
      | some q =>
        change (decide _ && strictlySortedBy _ (p :: failed)) = true at hsorted
        rw [Bool.and_eq_true, decide_eq_true_eq] at hsorted
        have hlt : ¬ p.rank ≤ q.rank := by omega
        exact decide_eq_false hlt
    have hrefuse : (!canonicalPrefix p || last.any (fun q => decide (p ≤ q))) = false := by
      rw [hlast, hp]
      rfl
    have hnetwork : UInt32.ofNat (fromBE (toBE 4 p.network.toNat)) = p.network := by
      have hlt : p.network.toNat < 256 ^ 4 := p.network.toNat_lt
      rw [fromBE_toBE hlt, UInt32.ofNat_toNat]
    change decodeFailed (_ :: _ :: _ :: _ :: p.prefixLen :: failedEntries failed) last = _
    rw [decodeFailed]
    change (do
      refuseIf (!canonicalPrefix
          { network := UInt32.ofNat (fromBE (toBE 4 p.network.toNat)), prefixLen := p.prefixLen }
        || last.any (fun q => decide (Ipv4Prefix.mk
          (UInt32.ofNat (fromBE (toBE 4 p.network.toNat))) p.prefixLen ≤ q)))
      let values ← decodeFailed (failedEntries failed) (some
        { network := UInt32.ofNat (fromBE (toBE 4 p.network.toNat)), prefixLen := p.prefixLen })
      pure (Ipv4Prefix.mk (UInt32.ofNat (fromBE (toBE 4 p.network.toNat))) p.prefixLen
        :: values)) = _
    rw [hnetwork]
    change (do
      refuseIf (!canonicalPrefix p || last.any (fun q => decide (p ≤ q)))
      let values ← decodeFailed (failedEntries failed) (some p)
      pure (p :: values)) = _
    rw [refuseIf_eq_pure hrefuse, pure_bind, ih (some p) htail hrest, pure_bind]

@[simp] theorem length_headerBytes (r : TransactionRecord) : (headerBytes r).length = 12 := by
  unfold headerBytes recordMagic
  split_ifs <;> simp [magicV1, magicV3, magicV4, magic]

@[simp] theorem length_sysctlBytes (sysctls : List SysctlChange) :
    (sysctlBytes sysctls).length = sysctls.length * 3 := by
  simp [sysctlBytes, List.length_flatMap]

@[simp] theorem length_failedEntries (failed : List Ipv4Prefix) :
    (failedEntries failed).length = failed.length * 5 := by
  simp [failedEntries, List.length_flatMap]

theorem decodeHeader_append (hsteps : r.completedSteps &&& ~~~ 0x3f = 0)
    (hcount : r.sysctls.length ≤ 4) (rest : Bytes) :
    decodeHeader (headerBytes r ++ rest)
      = pure (r.phase, r.completedSteps, r.sysctls.length) := by
  have hmagic : (recordMagic r).length = 8 := by
    unfold recordMagic
    split_ifs <;> rfl
  have hbytes : headerBytes r ++ rest = recordMagic r ++ (r.phase.code
      :: UInt8.ofNat (r.completedSteps.toNat / 256) :: UInt8.ofNat r.completedSteps.toNat
      :: UInt8.ofNat r.sysctls.length :: rest) := by
    simp [headerBytes, toBE]
  have hindex : ∀ i, index (headerBytes r ++ rest) (8 + i)
      = ExceptT.lift (r.phase.code :: UInt8.ofNat (r.completedSteps.toNat / 256)
        :: UInt8.ofNat r.completedSteps.toNat :: UInt8.ofNat r.sysctls.length :: rest)[i]? := by
    intro i
    rw [index, hbytes, List.getElem?_append_right (by omega), hmagic, Nat.add_sub_cancel_left]
  have h8 : index (headerBytes r ++ rest) 8 = pure r.phase.code := hindex 0
  have h9 : index (headerBytes r ++ rest) 9 = pure _ := hindex 1
  have h10 : index (headerBytes r ++ rest) 10 = pure _ := hindex 2
  have h11 : index (headerBytes r ++ rest) 11 = pure _ := hindex 3
  have hdecoded : UInt16.ofNat (fromBE [UInt8.ofNat (r.completedSteps.toNat / 256),
      UInt8.ofNat r.completedSteps.toNat]) = r.completedSteps := by
    change UInt16.ofNat (fromBE (toBE 2 r.completedSteps.toNat)) = _
    have hlt : r.completedSteps.toNat < 256 ^ 2 := r.completedSteps.toNat_lt
    rw [fromBE_toBE hlt, UInt16.ofNat_toNat]
  have hlength : (UInt8.ofNat r.sysctls.length).toNat = r.sysctls.length := by
    rw [UInt8.toNat_ofNat']
    omega
  have hknown : (r.completedSteps &&& ~~~ 0x3f != 0) = false := by simpa using hsteps
  have hfour : decide (4 < r.sysctls.length) = false := by simpa using hcount
  rw [decodeHeader, h8, pure_bind, decodePhase_code, pure_bind, h9, pure_bind, h10, pure_bind]
  simp only [hdecoded]
  rw [refuseIf_eq_pure hknown, pure_bind, h11, pure_bind, hlength, refuseIf_eq_pure hfour,
    pure_bind]

/-- The retained request is read back from behind its length. -/
theorem decodeRequest_append (pre request post : Bytes) (owner : LeaseOwner)
    (declaration : PrepareDeclaration) (contentLen offset : ℕ) (bytes : Bytes)
    (hbytes : bytes = pre ++ (toBE 4 request.length ++ (request ++ post)))
    (hoffset : offset = pre.length) (hcontent : offset + 4 + request.length ≤ contentLen)
    (hrequest : (journalRequest owner declaration).encode = .ok request)
    (hcanonical : declaration.Canonical) :
    decodeRequest bytes contentLen offset (offset + 4)
      = pure (journalRequest owner declaration, declaration, offset + 4 + request.length) := by
  obtain ⟨hpos, hmax⟩ := length_of_encode hrequest
  have hlength : fromBE (toBE 4 request.length) = request.length := by
    unfold maxNetdFrameLen at hmax
    exact fromBE_toBE (by omega)
  have hlen := slice_append _ _ _ _ offset (offset + 4) hbytes hoffset (by simp [hoffset])
  have hbody := slice_append bytes (pre ++ toBE 4 request.length) request post (offset + 4)
      (offset + 4 + request.length)
    (by simp [hbytes]) (by simp [hoffset]) (by simp [hoffset])
  have hdecode := NetdRequest.decode_encode (r := journalRequest owner declaration) hcanonical
    hrequest
  have hsize : (request.length == 0 || decide (maxNetdFrameLen < request.length)) = false := by
    simp only [Bool.or_eq_false_iff, beq_eq_false_iff_ne, decide_eq_false_iff_not]
    omega
  have hfits : decide (contentLen < offset + 4 + request.length) = false := by
    simpa using hcontent
  rw [decodeRequest, hlen, pure_bind]
  simp only [hlength]
  rw [refuseIf_eq_pure hsize, pure_bind, refuseIf_eq_pure hfits, pure_bind, hbody, pure_bind,
    hdecode]
  rfl

theorem decodeRecovery_magicV1 (bytes : Bytes) (contentLen : ℕ) (phase : TransactionPhase)
    (request : NetdRequest) :
    decodeRecovery bytes magicV1 contentLen contentLen phase request = pure (none, none) := by
  rw [decodeRecovery, if_pos rfl, refuseIf_eq_pure (by simp), pure_bind]

/-- A zero length in front of failed prefixes stands for no candidate. -/
theorem decodeRecovery_zero (pre post : Bytes) (phase : TransactionPhase) (request : NetdRequest)
    (hbytes : bytes = pre ++ (toBE 4 0 ++ post)) (hoffset : offset = pre.length)
    (hcontent : offset + 4 ≤ contentLen) :
    decodeRecovery bytes magicV4 contentLen offset phase request = pure (none, none) := by
  have hlen := slice_append _ _ _ _ offset (offset + 4) hbytes hoffset (by simp [hoffset])
  have hfits : decide (contentLen < offset + 4) = false := by simpa using hcontent
  have hzero : fromBE (toBE 4 0) = 0 := fromBE_toBE (by norm_num)
  rw [decodeRecovery, if_neg (by decide)]
  dsimp only
  rw [refuseIf_eq_pure hfits, pure_bind, hlen, pure_bind]
  rw [hzero, if_pos rfl, refuseIf_eq_pure (by decide), pure_bind]

/-- The candidate is read back; its owner only when it is not the retained one. -/
theorem decodeRecovery_append {bytes version : Bytes} (pre recovery post : Bytes)
    (owner : LeaseOwner) {candidate : PrepareDeclaration} {phase : TransactionPhase}
    (hversion : version ≠ magicV1)
    (hbytes : bytes = pre ++ (toBE 4 recovery.length ++ (recovery ++ post)))
    (hoffset : offset = pre.length) (hcontent : offset + 4 + recovery.length ≤ contentLen)
    (hrecovery : (journalRequest owner candidate).encode = .ok recovery)
    (hcanonical : candidate.Canonical)
    (howner : owner.instanceId = request.owner.instanceId ∧ owner.pid = request.owner.pid
      ∧ request.owner.generation ≤ owner.generation)
    (hphase : phase.allowsCandidate = true) :
    decodeRecovery bytes version contentLen offset phase request
      = pure (some candidate, if owner ≠ request.owner then some owner else none) := by
  obtain ⟨hpos, hmax⟩ := length_of_encode hrecovery
  have hlength : fromBE (toBE 4 recovery.length) = recovery.length := by
    unfold maxNetdFrameLen at hmax
    exact fromBE_toBE (by omega)
  have hlen := slice_append _ _ _ _ offset (offset + 4) hbytes hoffset (by simp [hoffset])
  have hbody := slice_append bytes (pre ++ toBE 4 recovery.length) recovery post (offset + 4)
      (offset + 4 + recovery.length)
    (by simp [hbytes]) (by simp [hoffset]) (by simp [hoffset])
  have hdecode := NetdRequest.decode_encode (r := journalRequest owner candidate) hcanonical
    hrecovery
  have hheader : decide (contentLen < offset + 4) = false := by
    simp only [decide_eq_false_iff_not]
    omega
  have hfits : (decide (maxNetdFrameLen < recovery.length)
      || decide (contentLen < offset + 4 + recovery.length)) = false := by
    simp only [Bool.or_eq_false_iff, decide_eq_false_iff_not]
    omega
  have haccept : ((owner.instanceId != request.owner.instanceId
      || owner.pid != request.owner.pid || decide (owner.generation < request.owner.generation))
      || !phase.allowsCandidate) = false := by
    obtain ⟨hinstance, hpid, hgeneration⟩ := howner
    simp [hinstance, hpid, hphase, UInt64.not_lt.mpr hgeneration]
  rw [decodeRecovery, if_neg hversion]
  dsimp only
  rw [refuseIf_eq_pure hheader, pure_bind, hlen, pure_bind]
  simp only [hlength]
  rw [if_neg (by omega), refuseIf_eq_pure hfits, pure_bind, hbody, pure_bind, hdecode]
  change (do
    refuseIf (owner.instanceId != request.owner.instanceId || owner.pid != request.owner.pid
      || decide (owner.generation < request.owner.generation) || !phase.allowsCandidate)
    pure (some candidate, if owner ≠ request.owner then some owner else none)) = _
  rw [refuseIf_eq_pure haccept, pure_bind]

/-- Nothing may follow the candidate of a file without failed prefixes. -/
theorem decodeFailedSection_candidate (pre post : Bytes) (length : ℕ)
    (hbytes : bytes = pre ++ (toBE 4 length ++ post)) (hlength : length < 2 ^ 32)
    (hoffset : offset = pre.length) (hcontent : offset + 4 + length = contentLen) :
    decodeFailedSection bytes magicV3 contentLen offset true = pure [] := by
  have hlen := slice_append _ _ _ _ offset (offset + 4) hbytes hoffset (by simp [hoffset])
  have hvalue : fromBE (toBE 4 length) = length := fromBE_toBE (by norm_num; omega)
  rw [decodeFailedSection, if_neg (by decide), if_pos rfl]
  dsimp only
  rw [hlen, pure_bind, hvalue,
    refuseIf_eq_pure (by simp [hcontent]), pure_bind]

/-- The failed prefixes are read back from behind the zero length. -/
theorem decodeFailedSection_append (pre post : Bytes) (failed : List Ipv4Prefix)
    (hbytes : bytes = pre ++ (toBE 4 0 ++ (toBE 2 failed.length ++ (failedEntries failed ++ post))))
    (hoffset : offset = pre.length) (hcontent : contentLen = offset + 4 + 2 + failed.length * 5)
    (hfailed : failedPrefixesStorable failed = true) (hne : failed ≠ []) :
    decodeFailedSection bytes magicV4 contentLen offset false = pure failed := by
  simp only [failedPrefixesStorable, Bool.and_eq_true, decide_eq_true_eq] at hfailed
  obtain ⟨⟨hmax, hsorted⟩, hcanonical⟩ := hfailed
  have hpos := List.length_pos_iff.mpr hne
  have hcount := slice_append bytes (pre ++ toBE 4 0) (toBE 2 failed.length)
      (failedEntries failed ++ post) (offset + 4) (offset + 4 + 2)
    (by simp [hbytes]) (by simp [hoffset]) (by simp [hoffset])
  have hentries := slice_append bytes (pre ++ (toBE 4 0 ++ toBE 2 failed.length))
      (failedEntries failed) post (offset + 4 + 2) (offset + 4 + 2 + failed.length * 5)
    (by simp [hbytes]) (by simp [hoffset]) (by simp [hoffset])
  have hvalue : fromBE (toBE 2 failed.length) = failed.length := by
    unfold maxFailedPrefixes at hmax
    exact fromBE_toBE (by omega)
  have hshape : (failed.length == 0 || decide (maxFailedPrefixes < failed.length)
      || offset + 4 + 2 + failed.length * 5 != contentLen) = false := by
    simp only [Bool.or_eq_false_iff, beq_eq_false_iff_ne, decide_eq_false_iff_not,
      bne_eq_false_iff_eq]
    omega
  have hdecode := decodeFailed_failedEntries failed none hsorted hcanonical
  rw [decodeFailedSection, if_pos rfl]
  dsimp only
  rw [
    refuseIf_eq_pure (by simp only [Bool.not_false, Bool.true_and, decide_eq_false_iff_not]; omega),
    pure_bind, if_neg (by simp), pure_bind,
    refuseIf_eq_pure (by simp only [Bool.not_false, Bool.true_and, decide_eq_false_iff_not]; omega),
    pure_bind, refuseIf_eq_pure (by simp only [decide_eq_false_iff_not]; omega), pure_bind,
    hcount, pure_bind, hvalue, refuseIf_eq_pure hshape, pure_bind, hentries, pure_bind, hdecode]

/-! ## The whole file -/

/-- The checksum and the header of a file with this content are accepted. -/
theorem decodeRecord_eq_decodeBody {rest : Bytes} (hsteps : r.completedSteps &&& ~~~ 0x3f = 0)
    (hcount : r.sysctls.length ≤ 4) (hrest : 4 ≤ rest.length) :
    decodeRecord sha (headerBytes r ++ rest ++ (sha (headerBytes r ++ rest)).toList)
      = decodeBody (headerBytes r ++ rest ++ (sha (headerBytes r ++ rest)).toList)
          (recordMagic r) (12 + rest.length) r.phase r.completedSteps r.sysctls.length := by
  generalize hdigest : (sha (headerBytes r ++ rest)).toList = digest
  have hdigestLen : digest.length = 32 := by rw [← hdigest, Vector.length_toList]
  have hmagic : (recordMagic r).length = 8 := by
    unfold recordMagic
    split_ifs <;> rfl
  have hlength : (headerBytes r ++ rest ++ digest).length = 12 + rest.length + 32 := by
    simp [hdigestLen, Nat.add_assoc]
  have hversion := slice_append (headerBytes r ++ rest ++ digest) [] (recordMagic r)
      ((r.phase.code :: (toBE 2 r.completedSteps.toNat ++ [UInt8.ofNat r.sysctls.length])) ++
      (rest ++ digest)) 0 8 (by simp [headerBytes]) rfl (by simp [hmagic])
  have hcontent := slice_append (headerBytes r ++ rest ++ digest) [] (headerBytes r ++ rest) digest
      0 (12 + rest.length)
    (by simp) rfl (by simp)
  have hsum := slice_append (headerBytes r ++ rest ++ digest) (headerBytes r ++ rest) digest []
      (12 + rest.length) (12 + rest.length + 32) (by simp) (by simp) (by simp [hdigestLen])
  have hknown : (recordMagic r != magicV1 && recordMagic r != magicV2 && recordMagic r != magicV3
      && recordMagic r != magicV4) = false := by
    unfold recordMagic
    split_ifs <;> decide
  have hlong : decide ((headerBytes r ++ rest ++ digest).length < headerLen + checksumLen)
      = false := by
    rw [hlength, decide_eq_false_iff_not]
    unfold headerLen checksumLen
    omega
  have hsame : (digest != digest) = false := by simp
  have hheader := decodeHeader_append hsteps hcount (rest ++ digest)
  rw [← List.append_assoc] at hheader
  rw [decodeRecord, refuseIf_eq_pure hlong, pure_bind, hversion, pure_bind,
    refuseIf_eq_pure hknown, pure_bind, hlength, checksumLen, Nat.add_sub_cancel]
  dsimp only
  rw [hcontent, pure_bind, hsum, pure_bind, hdigest, refuseIf_eq_pure hsame, pure_bind, hheader,
    pure_bind]

/-- Where the retained request of an encoded record ends. -/
def requestEnd (r : TransactionRecord) (request : Bytes) : ℕ :=
  12 + r.sysctls.length * 3 + (deadlineBytes r).length + 4 + request.length

/-- The part of the body up to the retained request, for a file whose magic announces a
deadline exactly when there is one. -/
theorem decodeBody_append {bytes request : Bytes} (post : Bytes) {contentLen : ℕ}
    (hs : Storable r) (hsysctls : sysctlsStorable r.sysctls = true)
    (hrequest : (journalRequest r.owner r.declaration).encode = .ok request)
    (hmagic : recordMagic r = magicV3 ↔ r.recoveryCandidate.isSome = true)
    (hbytes : bytes = headerBytes r ++ (sysctlBytes r.sysctls ++ (deadlineBytes r ++
      (toBE 4 request.length ++ (request ++ post)))))
    (hcontent : requestEnd r request ≤ contentLen) :
    decodeBody bytes (recordMagic r) contentLen r.phase r.completedSteps r.sysctls.length = (do
      let (candidate, owner) ← decodeRecovery bytes (recordMagic r) contentLen
        (requestEnd r request) r.phase (journalRequest r.owner r.declaration)
      let failed ← decodeFailedSection bytes (recordMagic r) contentLen (requestEnd r request)
        candidate.isSome
      pure { r with recoveryCandidate := candidate, recoveryCandidateOwner := owner,
                    failedPrefixes := failed }) := by
  simp only [sysctlsStorable, Bool.and_eq_true, decide_eq_true_eq] at hsysctls
  obtain ⟨⟨-, hsorted⟩, hvalues⟩ := hsysctls
  unfold requestEnd at hcontent ⊢
  have hentries := slice_append bytes (headerBytes r) (sysctlBytes r.sysctls) _ 12
      (12 + r.sysctls.length * 3)
    hbytes (by simp) (by simp)
  have hread := decodeRequest_append (headerBytes r ++ (sysctlBytes r.sysctls ++ deadlineBytes r))
      request post r.owner r.declaration contentLen
      (12 + r.sysctls.length * 3 + (deadlineBytes r).length) bytes
    (by simp [hbytes]) (by simp; omega) hcontent hrequest hs.declaration.2
  have hdeadline := slice_append bytes (headerBytes r ++ sysctlBytes r.sysctls) (deadlineBytes r)
      (toBE 4 request.length ++ (request ++ post)) (12 + r.sysctls.length * 3)
      (12 + r.sysctls.length * 3 + (deadlineBytes r).length) (by simp [hbytes]) (by simp) (by simp)
  have hlong : decide (contentLen
      < 12 + r.sysctls.length * 3 + (deadlineBytes r).length + 4) = false := by
    rw [decide_eq_false_iff_not]
    omega
  rw [decodeBody]
  dsimp only
  cases hc : r.recoveryCandidate with
  | none =>
    have hno : ¬ recordMagic r = magicV3 := by simp [hmagic, hc]
    have hempty : deadlineBytes r = [] := by simp [deadlineBytes, hc]
    have hzero : UInt64.ofNat 0 = r.drainDeadlineMonoMs := (hs.deadline hc).symm
    simp only [hempty, List.length_nil, Nat.add_zero] at hread hlong ⊢
    simp only [if_neg hno, Nat.add_zero]
    rw [refuseIf_eq_pure hlong, pure_bind, hentries, pure_bind,
      decodeSysctls_sysctlBytes _ none hsorted hvalues, pure_bind, if_neg (by omega), pure_bind,
      hread, pure_bind]
    dsimp only
    rw [hzero]
    rfl
  | some c =>
    have hyes : recordMagic r = magicV3 := by simp [hmagic, hc]
    have hfull : deadlineBytes r = toBE 8 r.drainDeadlineMonoMs.toNat := by
      simp [deadlineBytes, hc]
    have hvalue : UInt64.ofNat (fromBE (toBE 8 r.drainDeadlineMonoMs.toNat))
        = r.drainDeadlineMonoMs := by
      have hlt : r.drainDeadlineMonoMs.toNat < 256 ^ 8 := r.drainDeadlineMonoMs.toNat_lt
      rw [fromBE_toBE hlt, UInt64.ofNat_toNat]
    simp only [hfull, length_toBE] at hread hlong hdeadline ⊢
    simp only [if_pos hyes]
    rw [refuseIf_eq_pure hlong, pure_bind, hentries, pure_bind,
      decodeSysctls_sysctlBytes _ none hsorted hvalues, pure_bind, if_pos trivial, hdeadline,
      pure_bind, pure_bind, hread, pure_bind]
    dsimp only
    rw [hvalue]
    rfl

/-- The owner of a stored candidate, as the decoder will see it. -/
theorem candidateOwner_accepted (h : candidateOwnerStorable r = true) :
    (r.recoveryCandidateOwner.getD r.owner).instanceId = r.owner.instanceId
      ∧ (r.recoveryCandidateOwner.getD r.owner).pid = r.owner.pid
      ∧ r.owner.generation ≤ (r.recoveryCandidateOwner.getD r.owner).generation := by
  unfold candidateOwnerStorable at h
  cases ho : r.recoveryCandidateOwner with
  | none => exact ⟨rfl, rfl, UInt64.le_refl _⟩
  | some o =>
    rw [ho] at h
    simp only [Bool.and_eq_true, beq_iff_eq, decide_eq_true_eq] at h
    exact ⟨h.1.1.2, h.1.2, h.2⟩

theorem candidateOwner_eq_none (h : candidateOwnerStorable r = true)
    (hc : r.recoveryCandidate = none) : r.recoveryCandidateOwner = none := by
  unfold candidateOwnerStorable at h
  cases ho : r.recoveryCandidateOwner with
  | none => rfl
  | some o => simp [ho, hc] at h

/-- What the decoder returns for the file of a record, unless that record carries a candidate
and failed prefixes at once. -/
theorem decodeRecord_encodeRecord (hs : Storable r)
    (hsections : r.recoveryCandidate = none ∨ r.failedPrefixes = [])
    (h : encodeRecord sha r = .ok b) : decodeRecord sha b = pure (withoutRetainedOwner r) := by
  obtain ⟨request, recoverySection, henc, rfl⟩ := encodeRecord_eq_ok h
  have hcount : r.sysctls.length ≤ 4 := by
    have := henc.sysctls
    simp only [sysctlsStorable, Bool.and_eq_true, decide_eq_true_eq] at this
    exact this.1.1
  unfold contentOf
  rw [decodeRecord_eq_decodeBody hs.steps hcount (by simp; omega)]
  generalize (sha _).toList = digest
  -- the three sections a file of this kind can have: none, a candidate, failed prefixes
  obtain ⟨c, recovery, hc, hrecovery, rfl⟩ | ⟨hc, rfl⟩ := henc.recovery
  · have hfailed : r.failedPrefixes = [] := by
      rcases hsections with hnone | hempty
      · simp [hc] at hnone
      · exact hempty
    have hmagic : recordMagic r = magicV3 := by simp [recordMagic, hfailed, hc]
    have hend : failedBytes r.failedPrefixes = [] := by simp [failedBytes, hfailed]
    have hlength := (length_of_encode hrecovery).2
    unfold maxNetdFrameLen at hlength
    rw [hend, decodeBody_append (toBE 4 recovery.length ++ (recovery ++ digest))
      hs henc.sysctls henc.request (by simp [hmagic, hc]) (by simp)
      (by simp [requestEnd]; omega), hmagic,
      decodeRecovery_append (headerBytes r ++
          (sysctlBytes r.sysctls ++ (deadlineBytes r ++ (toBE 4 request.length ++ request))))
          recovery digest (r.recoveryCandidateOwner.getD r.owner)
        (by decide) (by simp) (by simp [requestEnd]; omega) (by simp [requestEnd]; omega)
        hrecovery (hs.candidate c hc).2 (candidateOwner_accepted henc.candidateOwner)
        (henc.phase (by simp [hc])), pure_bind]
    dsimp only
    rw [Option.isSome_some, decodeFailedSection_candidate
        (headerBytes r ++ (sysctlBytes r.sysctls ++
        (deadlineBytes r ++ (toBE 4 request.length ++ request)))) (recovery ++ digest)
        recovery.length (by simp) (by omega) (by simp [requestEnd]; omega)
      (by simp [requestEnd]; omega), pure_bind]
    congr 1
    cases ho : r.recoveryCandidateOwner with
    | none => simp [withoutRetainedOwner, ho, hc, hfailed, journalRequest]
    | some o =>
      by_cases heq : o = r.owner
      · simp [withoutRetainedOwner, ho, hc, hfailed, journalRequest, heq, Option.filter]
      · simp [withoutRetainedOwner, ho, hc, hfailed, journalRequest, heq, Option.filter]
  · have howner := candidateOwner_eq_none henc.candidateOwner hc
    by_cases hfailed : r.failedPrefixes = []
    · have hmagic : recordMagic r = magicV1 := by simp [recordMagic, hfailed, hc]
      rw [decodeBody_append digest hs henc.sysctls henc.request
        (by simp [hmagic, hc]; decide) (by simp [hfailed, failedBytes])
        (by simp [requestEnd, hfailed, failedBytes]; omega), hmagic]
      have hcontent : 12 + (sysctlBytes r.sysctls ++ (deadlineBytes r ++ (toBE 4 request.length
          ++ (request ++ ((if r.failedPrefixes ≠ [] then toBE 4 0 else [])
            ++ failedBytes r.failedPrefixes))))).length = requestEnd r request := by
        simp [requestEnd, hfailed, failedBytes]
        omega
      rw [hcontent, decodeRecovery_magicV1, pure_bind]
      change (pure [] >>= fun failed => pure _) = _
      rw [pure_bind]
      simp [withoutRetainedOwner, hc, howner, hfailed]
    · have hmagic : recordMagic r = magicV4 := by simp [recordMagic, hfailed]
      have hsection : failedBytes r.failedPrefixes
          = toBE 2 r.failedPrefixes.length ++ failedEntries r.failedPrefixes := by
        simp [failedBytes, hfailed]
      rw [if_pos hfailed, hsection, decodeBody_append
          (toBE 4 0 ++ (toBE 2 r.failedPrefixes.length ++
          (failedEntries r.failedPrefixes ++ digest)))
        hs henc.sysctls henc.request (by simp [hmagic, hc]; decide) (by simp)
        (by simp [requestEnd]; omega), hmagic,
        decodeRecovery_zero (headerBytes r ++
            (sysctlBytes r.sysctls ++ (deadlineBytes r ++ (toBE 4 request.length ++ request))))
            (toBE 2 r.failedPrefixes.length ++ (failedEntries r.failedPrefixes ++ digest))
          _ _ (by simp) (by simp [requestEnd]; omega) (by simp [requestEnd]; omega), pure_bind]
      dsimp only
      rw [Option.isSome_none, decodeFailedSection_append
          (headerBytes r ++ (sysctlBytes r.sysctls ++
          (deadlineBytes r ++ (toBE 4 request.length ++ request)))) digest r.failedPrefixes
        (by simp) (by simp [requestEnd]; omega) (by simp [requestEnd]; omega) henc.failed hfailed,
        pure_bind]
      simp [withoutRetainedOwner, hc, howner]

/-! ## A candidate next to failed prefixes -/

theorem Checked.bind_eq_pure {α β : Type} {m : Checked α} {f : α → Checked β} {b : β}
    (h : (m >>= f) = pure b) : ∃ a, m = pure a ∧ f a = pure b := by
  rcases hm : m.run with _ | _ | a
  · rw [show m = ExceptT.mk none from hm] at h
    exact absurd (congrArg ExceptT.run h) (by simp [bind, ExceptT.bind, ExceptT.run, ExceptT.mk,
      pure, ExceptT.pure])
  · rename_i e
    rw [show m = ExceptT.mk (some (.error e)) from hm] at h
    exact absurd (congrArg ExceptT.run h) (by simp [bind, ExceptT.bind, ExceptT.bindCont,
      ExceptT.run, ExceptT.mk, pure, ExceptT.pure])
  · refine ⟨a, hm, ?_⟩
    rw [show m = pure a from hm, pure_bind] at h
    exact h

theorem Checked.pure_inj {α : Type} {a b : α} (h : (pure a : Checked α) = pure b) : a = b := by
  have hrun := congrArg ExceptT.run h
  simp only [ExceptT.run_pure] at hrun
  exact Except.ok.inj (Option.some.inj hrun)

/-! ## What the decoder has checked -/

theorem orJournal_eq_pure {ε α : Type} {m : Except ε α} {a : α} (h : orJournal m = pure a) :
    m = .ok a := by
  cases m with
  | error e => exact absurd (congrArg ExceptT.run h) (by simp [orJournal, refuse])
  | ok b => rw [show b = a from Checked.pure_inj h]

theorem refuseIf_eq_false {c : Bool} {u : Unit} (h : Checked.refuseIf c = pure u) : c = false := by
  cases c with
  | false => rfl
  | true => exact absurd (congrArg ExceptT.run h) (by simp [Checked.refuseIf, refuse])

/-- No deadline is read behind a magic other than the third. -/
theorem decodeBody_deadline {bytes version : Bytes} {contentLen count : ℕ}
    {phase : TransactionPhase} {steps : UInt16} (hversion : version ≠ magicV3)
    (h : decodeBody bytes version contentLen phase steps count = pure r) :
    r.drainDeadlineMonoMs = 0 := by
  rw [decodeBody] at h
  simp only [if_neg hversion] at h
  obtain ⟨_, -, h⟩ := bind_eq_pure h
  obtain ⟨_, -, h⟩ := bind_eq_pure h
  obtain ⟨_, -, h⟩ := bind_eq_pure h
  rw [if_neg (by omega), pure_bind] at h
  obtain ⟨_, -, h⟩ := bind_eq_pure h
  obtain ⟨_, -, h⟩ := bind_eq_pure h
  obtain ⟨_, -, h⟩ := bind_eq_pure h
  obtain rfl := Checked.pure_inj h
  rfl

/-- Without the deadline the decoder takes its first four bytes for the length of the
request. When they are zero, it refuses the file. -/
theorem decodeRequest_zero (pre post : Bytes) {result : NetdRequest × PrepareDeclaration × ℕ}
    (hbytes : bytes = pre ++ (toBE 4 0 ++ post)) (hoffset : offset = pre.length) :
    decodeRequest bytes contentLen offset (offset + 4) ≠ pure result := by
  intro h
  have hlen := slice_append _ _ _ _ offset (offset + 4) hbytes hoffset (by simp [hoffset])
  have hzero : fromBE (toBE 4 0) = 0 := fromBE_toBE (by norm_num)
  rw [decodeRequest, hlen, pure_bind, hzero] at h
  obtain ⟨_, hrefuse, -⟩ := bind_eq_pure h
  exact absurd (congrArg ExceptT.run hrefuse) (by simp [Checked.refuseIf, refuse])

/-- A record with a candidate and failed prefixes is never read back. -/
theorem decodeRecord_ne_of_both (hs : Storable r) (hc : r.recoveryCandidate.isSome = true)
    (hfailed : r.failedPrefixes ≠ []) (h : encodeRecord sha r = .ok b) :
    decodeRecord sha b ≠ pure r := by
  intro hdecode
  obtain ⟨request, recoverySection, henc, rfl⟩ := encodeRecord_eq_ok h
  have hcount : r.sysctls.length ≤ 4 := by
    have := henc.sysctls
    simp only [sysctlsStorable, Bool.and_eq_true, decide_eq_true_eq] at this
    exact this.1.1
  have hmagic : recordMagic r = magicV4 := by simp [recordMagic, hfailed]
  have hdeadline : deadlineBytes r = toBE 8 r.drainDeadlineMonoMs.toNat := by
    simp [deadlineBytes, hc]
  unfold contentOf at hdecode
  rw [decodeRecord_eq_decodeBody hs.steps hcount (by simp; omega), hmagic] at hdecode
  have hzero := decodeBody_deadline (by decide) hdecode
  rw [hdeadline, hzero] at hdecode
  generalize (sha _).toList = digest at hdecode
  rw [decodeBody] at hdecode
  obtain ⟨_, -, hdecode⟩ := bind_eq_pure hdecode
  obtain ⟨_, -, hdecode⟩ := bind_eq_pure hdecode
  obtain ⟨_, -, hdecode⟩ := bind_eq_pure hdecode
  obtain ⟨_, -, hdecode⟩ := bind_eq_pure hdecode
  obtain ⟨result, hrequest, -⟩ := bind_eq_pure hdecode
  refine decodeRequest_zero (headerBytes r ++ sysctlBytes r.sysctls)
      (toBE 4 0 ++ (toBE 4 request.length ++
      (request ++ (recoverySection ++ (failedBytes r.failedPrefixes ++ digest))))) ?_ ?_ hrequest
  · have hsplit : toBE 8 (0 : UInt64).toNat = toBE 4 0 ++ toBE 4 0 := by decide
    rw [hsplit]
    simp
  · simp [show magicV4 ≠ magicV3 by decide]

/-- **Durable round trip.** A stored record is read back field for field exactly when it does
not carry a candidate and failed prefixes at once, and its candidate owner is not the
retained owner. -/
theorem decodeRecord_encodeRecord_iff (hs : Storable r) (h : encodeRecord sha r = .ok b) :
    (decodeRecord sha b).run = some (.ok r)
      ↔ ¬ (r.recoveryCandidate.isSome = true ∧ r.failedPrefixes ≠ [])
        ∧ r.recoveryCandidateOwner ≠ some r.owner := by
  have hpure : (decodeRecord sha b).run = some (.ok r) ↔ decodeRecord sha b = pure r := Iff.rfl
  rw [hpure]
  by_cases hboth : r.recoveryCandidate.isSome = true ∧ r.failedPrefixes ≠ []
  · have hne := decodeRecord_ne_of_both hs hboth.1 hboth.2 h
    simp [hne, hboth]
  · have hsections : r.recoveryCandidate = none ∨ r.failedPrefixes = [] := by
      by_contra hnot
      push Not at hnot
      exact hboth ⟨Option.isSome_iff_ne_none.mpr hnot.1, hnot.2⟩
    rw [decodeRecord_encodeRecord hs hsections h]
    constructor
    · intro heq
      have hr := Except.ok.inj (Option.some.inj (congrArg ExceptT.run heq))
      refine ⟨hboth, ?_⟩
      intro howner
      have hfield := congrArg TransactionRecord.recoveryCandidateOwner hr
      simp [withoutRetainedOwner, howner] at hfield
    · rintro ⟨-, howner⟩
      rw [withoutRetainedOwner_eq_self howner]

/-! ## Concrete records -/

namespace Sample

def owner : LeaseOwner :=
  { instanceId := Vector.replicate 16 1, pid := 7, generation := 3, leaseDeadlineMonoMs := 100 }

/-- A site that reaches 10.2.0.0/16 through the tunnel and keeps 192.0.2.1 outside. -/
def declaration : PrepareDeclaration :=
  { tableId := 20000, overlayRouterIpv4 := 0x64400002, effectiveMtu := 1200,
    routes := [{ ipv4Prefix := { network := 0x0a020000, prefixLen := 16 }, kind := .remote }],
    exclusions := [{ ipv4Prefix := { network := 0xc0000201, prefixLen := 32 }, kind := .cloudApi }],
    firewall := { allowForward := true, clampTcpMss := true, requireIpv4Forwarding := true,
                  manageRpFilter := true } }

/-- The same site in a table of its own. -/
def replacement : PrepareDeclaration := { declaration with tableId := 20001 }

/-- A second remote site is declared. -/
def widened : PrepareDeclaration :=
  { declaration with
    routes := declaration.routes
      ++ [{ ipv4Prefix := { network := 0x0a030000, prefixLen := 16 }, kind := .remote }] }

/-- A record in which an update of the active owner's policy was interrupted. -/
def record : TransactionRecord :=
  { owner, declaration, recoveryCandidate := some declaration,
    recoveryCandidateOwner := some { owner with leaseDeadlineMonoMs := 200 },
    phase := .rollingBack, completedSteps := 0x3f, sysctls := [],
    drainDeadlineMonoMs := 0, failedPrefixes := [] }

/-- The same interruption while the remote prefix is withdrawn. -/
def recordWithFailed : TransactionRecord :=
  { record with failedPrefixes := [{ network := 0x0a020000, prefixLen := 16 }] }

/-- The same interruption by a request that kept the lease deadline. -/
def recordSameOwner : TransactionRecord := { record with recoveryCandidateOwner := some owner }

/-- A digest of the right length. -/
def digest : Bytes → Vector UInt8 32 := fun _ => Vector.replicate 32 0

/-- The bytes `encode_record` wrote; empty if it refused. -/
def stored (r : TransactionRecord) : Bytes := ((encodeRecord digest r).toOption).getD []

theorem declaration_valid : declaration.validate = .ok () ∧ declaration.Canonical := by
  constructor <;> decide

theorem record_storable (failed : List Ipv4Prefix) (candidateOwner : Option LeaseOwner)
    (hfailed : ∀ p ∈ failed, p.Canonical) :
    Storable { record with
      failedPrefixes := failed, recoveryCandidateOwner := candidateOwner } where
  steps := by
    change (0x3f : UInt16) &&& ~~~ 0x3f = 0
    decide
  declaration := declaration_valid
  candidate := by
    intro c hc
    obtain rfl : declaration = c := by simpa [record] using hc
    exact declaration_valid
  failed := hfailed
  deadline := by simp [record]

end Sample

theorem decodeRecord_encodeRecord_iff_sample :
    (decodeRecord Sample.digest (Sample.stored Sample.record)).run = some (.ok Sample.record)
      ↔ ¬ (Sample.record.recoveryCandidate.isSome = true ∧ Sample.record.failedPrefixes ≠ [])
        ∧ Sample.record.recoveryCandidateOwner ≠ some Sample.record.owner :=
  decodeRecord_encodeRecord_iff (Sample.record_storable [] _ (by simp)) (by decide +kernel)

/-- A candidate next to a failed prefix makes the file unreadable; a candidate owner equal to
the retained one is lost. -/
theorem decodeRecord_encodeRecord_fails :
    (Storable Sample.recordWithFailed
      ∧ encodeRecord Sample.digest Sample.recordWithFailed
        = .ok (Sample.stored Sample.recordWithFailed)
      ∧ (decodeRecord Sample.digest (Sample.stored Sample.recordWithFailed)).run
        = some (.error .journal))
    ∧ (Storable Sample.recordSameOwner
      ∧ encodeRecord Sample.digest Sample.recordSameOwner
        = .ok (Sample.stored Sample.recordSameOwner)
      ∧ (decodeRecord Sample.digest (Sample.stored Sample.recordSameOwner)).run
        = some (.ok { Sample.recordSameOwner with recoveryCandidateOwner := none })) := by
  refine ⟨⟨Sample.record_storable _ _ ?_, ?_, ?_⟩, ⟨Sample.record_storable [] _ (by simp), ?_, ?_⟩⟩
  · decide +kernel
  all_goals decide +kernel

end CandyRuntime.NetdV1
