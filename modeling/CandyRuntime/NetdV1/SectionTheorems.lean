import CandyRuntime.NetdV1.JournalTheorems

/-!
# What the steps of the journal decoder read

Each step of `decode_record` reads the bytes between two positions of the file, and what it accepts
has passed its checks: one lemma for each section, and one for the steps behind the header.
-/

namespace CandyRuntime.NetdV1

open Lib NetdProto Checked

variable {phase : TransactionPhase} {request : NetdRequest} {seg : Bytes}

/-! ## Cuts -/

/-- The bytes at positions `start ≤ i < stop`. -/
def cut (bytes : Bytes) (start stop : ℕ) : Bytes := (bytes.drop start).take (stop - start)

section Cuts

variable {bytes : Bytes}

theorem length_cut (start : ℕ) {stop : ℕ} (hstop : stop ≤ bytes.length) :
    (cut bytes start stop).length = stop - start := by
  unfold cut
  rw [List.length_take, List.length_drop]
  omega

/-- Two cuts that meet are one. -/
theorem cut_append {a b c : ℕ} (hab : a ≤ b) (hbc : b ≤ c) :
    cut bytes a b ++ cut bytes b c = cut bytes a c := by
  unfold cut
  have hsplit : c - a = (b - a) + (c - b) := by omega
  have hdrop : bytes.drop b = (bytes.drop a).drop (b - a) := by
    rw [List.drop_drop]
    congr 1
    omega
  rw [hsplit, List.take_add, hdrop]

theorem cut_self : cut bytes 0 bytes.length = bytes := by simp [cut]

theorem cut_nil (a : ℕ) : cut bytes a a = [] := by simp [cut]

theorem cut_cons {a b : ℕ} {byte : UInt8} (h : bytes[a]? = some byte) (hab : a < b) :
    cut bytes a b = byte :: cut bytes (a + 1) b := by
  obtain ⟨ha, hbyte⟩ := List.getElem?_eq_some_iff.mp h
  unfold cut
  rw [List.drop_eq_getElem_cons ha, hbyte, show b - a = (b - (a + 1)) + 1 by omega, List.take_succ_cons]

theorem slice_eq_pure {start stop : ℕ} (h : slice bytes start stop = pure seg) :
    seg = cut bytes start stop ∧ start ≤ stop ∧ stop ≤ bytes.length := by
  unfold slice slice? at h
  split at h
  · rename_i hrange
    exact ⟨(Checked.pure_inj h).symm, hrange⟩
  · exact absurd (congrArg ExceptT.run h) (by simp)

theorem length_of_slice {start stop : ℕ} (h : slice bytes start stop = pure seg) :
    seg.length = stop - start := by
  obtain ⟨rfl, -, hstop⟩ := slice_eq_pure h
  exact length_cut start hstop

theorem index_eq_pure {byte : UInt8} {i : ℕ} (h : index bytes i = pure byte) :
    bytes[i]? = some byte := by
  unfold index at h
  cases hi : bytes[i]? with
  | none =>
    rw [hi] at h
    exact absurd (congrArg ExceptT.run h) (by simp)
  | some b =>
    rw [hi] at h
    exact congrArg some (Checked.pure_inj h)

/-- A length that was read is the big-endian form of its value. -/
theorem toBE_of_cut {k start : ℕ} (hstop : start + k ≤ bytes.length) :
    toBE k (fromBE (cut bytes start (start + k))) = cut bytes start (start + k) := by
  have hlength := length_cut start hstop
  have hread := toBE_fromBE (cut bytes start (start + k))
  rwa [hlength, show start + k - start = k by omega] at hread

end Cuts

/-! ## The sections -/

section Sections

variable {bytes version : Bytes} {contentLen : ℕ}

/-- The header is the magic, the phase, the completed steps and the number of sysctl entries, of
which there are four at most. -/
theorem header_of_decodeHeader {completedSteps : UInt16} {sysctlCount : ℕ}
    (h : decodeHeader bytes = pure (phase, completedSteps, sysctlCount)) :
    cut bytes 8 12 = phase.code :: (toBE 2 completedSteps.toNat ++ [UInt8.ofNat sysctlCount])
      ∧ index bytes 8 = pure phase.code ∧ sysctlCount ≤ 4 := by
  rw [decodeHeader] at h
  obtain ⟨code, hcode, h⟩ := bind_eq_pure h
  obtain ⟨phase', hphase, h⟩ := bind_eq_pure h
  obtain ⟨high, hhigh, h⟩ := bind_eq_pure h
  obtain ⟨low, hlow, h⟩ := bind_eq_pure h
  obtain ⟨_, -, h⟩ := bind_eq_pure h
  obtain ⟨count, hcount, h⟩ := bind_eq_pure h
  obtain ⟨_, hfour, h⟩ := bind_eq_pure h
  have hfour := refuseIf_eq_false hfour
  rw [decide_eq_false_iff_not, not_lt] at hfour
  have hfields := Checked.pure_inj h
  simp only [Prod.mk.injEq] at hfields
  obtain ⟨rfl, hsteps, rfl⟩ := hfields
  have hphase : phase'.code = code := by
    unfold decodePhase at hphase
    split_ifs at hphase with h1 h2 h3 h4 h5 h6
    case neg => exact absurd (congrArg ExceptT.run hphase) (by simp [refuse])
    all_goals
      rw [← Checked.pure_inj hphase]
      simp only [TransactionPhase.code]
      exact Eq.symm (by assumption)
  have hstepBytes : toBE 2 completedSteps.toNat = [high, low] := by
    have hlt := fromBE_lt [high, low]
    rw [← hsteps, UInt16.toNat_ofNat', Nat.mod_eq_of_lt (by simpa using hlt)]
    exact toBE_fromBE [high, low]
  refine ⟨?_, hphase ▸ hcode, hfour⟩
  rw [cut_cons (index_eq_pure hcode) (by omega), cut_cons (index_eq_pure hhigh) (by omega),
    cut_cons (index_eq_pure hlow) (by omega), cut_cons (index_eq_pure hcount) (by omega), cut_nil,
    hphase, hstepBytes]
  simp

/-- A request with its length in front, from `start` on. -/
structure Framed (bytes : Bytes) (start stop : ℕ) (request : NetdRequest)
    (declaration : PrepareDeclaration) (frame : Bytes) : Prop where
  bytes : cut bytes start stop = toBE 4 frame.length ++ frame
  stop : stop = start + 4 + frame.length
  decode : NetdRequest.decode frame = .ok request
  operation : request.operation = .prepare declaration

theorem framed_of_slices {start : ℕ} {declaration : PrepareDeclaration} {length frame : Bytes}
    (hlength : slice bytes start (start + 4) = pure length)
    (hframe : slice bytes (start + 4) (start + 4 + fromBE length) = pure frame)
    (hdecode : NetdRequest.decode frame = .ok request)
    (hoperation : request.operation = .prepare declaration) :
    Framed bytes start (start + 4 + fromBE length) request declaration frame := by
  obtain ⟨rfl, -, hstart⟩ := slice_eq_pure hlength
  have hframeLength := length_of_slice hframe
  obtain ⟨rfl, hle, hstop⟩ := slice_eq_pure hframe
  have hlen : (cut bytes (start + 4) (start + 4 + fromBE (cut bytes start (start + 4)))).length
      = fromBE (cut bytes start (start + 4)) := by
    rw [hframeLength]
    omega
  refine ⟨?_, by rw [hlen], hdecode, hoperation⟩
  rw [hlen, toBE_of_cut hstart]
  exact (cut_append (by omega) hle).symm

/-- The request is framed and ends inside the content. -/
theorem framed_of_decodeRequest {offset stop : ℕ} {declaration : PrepareDeclaration}
    (h : decodeRequest bytes contentLen offset (offset + 4) = pure (request, declaration, stop)) :
    stop ≤ contentLen ∧ ∃ frame, Framed bytes offset stop request declaration frame := by
  rw [decodeRequest] at h
  obtain ⟨length, hlength, h⟩ := bind_eq_pure h
  obtain ⟨_, -, h⟩ := bind_eq_pure h
  obtain ⟨_, hfits, h⟩ := bind_eq_pure h
  have hfits := refuseIf_eq_false hfits
  rw [decide_eq_false_iff_not, not_lt] at hfits
  obtain ⟨frame, hframe, h⟩ := bind_eq_pure h
  obtain ⟨decoded, hdecode, h⟩ := bind_eq_pure h
  cases hop : decoded.operation <;> simp only [hop] at h
  case prepare d =>
    have heq := Checked.pure_inj h
    simp only [Prod.mk.injEq] at heq
    obtain ⟨rfl, rfl, rfl⟩ := heq
    exact ⟨hfits, frame, framed_of_slices hlength hframe (orJournal_eq_pure hdecode) hop⟩
  all_goals exact absurd (congrArg ExceptT.run h) (by simp [refuse])

/-- No candidate was read: there is no section, or its length is zero. -/
def NoCandidate (bytes version : Bytes) (contentLen requestEnd stop : ℕ) : Prop :=
  (version = magicV1 ∧ stop = requestEnd ∧ requestEnd = contentLen)
    ∨ (version = magicV4 ∧ stop = requestEnd + 4 ∧ cut bytes requestEnd stop = toBE 4 0)

/-- A candidate was read: it belongs to the retained instance and process, and its generation is
not older. -/
structure ReadCandidate (bytes : Bytes) (requestEnd stop : ℕ) (phase : TransactionPhase)
    (retained : LeaseOwner) (candidate : PrepareDeclaration) (owner : Option LeaseOwner)
    (recovery : NetdRequest) (frame : Bytes) : Prop where
  framed : Framed bytes requestEnd stop recovery candidate frame
  owner : owner = if recovery.owner ≠ retained then some recovery.owner else none
  instanceId : recovery.owner.instanceId = retained.instanceId
  pid : recovery.owner.pid = retained.pid
  generation : retained.generation ≤ recovery.owner.generation
  phase : phase.allowsCandidate = true

theorem candidate_of_decodeRecovery {requestEnd : ℕ} {candidate : Option PrepareDeclaration}
    {owner : Option LeaseOwner} (hend : requestEnd ≤ contentLen)
    (h : decodeRecovery bytes version contentLen requestEnd phase request = pure (candidate, owner)) :
    ∃ stop, requestEnd ≤ stop ∧ stop ≤ contentLen
      ∧ (version ≠ magicV1 → stop = requestEnd + 4 + fromBE (cut bytes requestEnd (requestEnd + 4)))
      ∧ ((candidate = none ∧ owner = none ∧ NoCandidate bytes version contentLen requestEnd stop)
        ∨ ∃ c recovery frame, candidate = some c ∧ version ≠ magicV1
          ∧ ReadCandidate bytes requestEnd stop phase request.owner c owner recovery frame) := by
  rw [decodeRecovery] at h
  split at h
  · rename_i hversion
    obtain ⟨_, hcontent, h⟩ := bind_eq_pure h
    have hcontent := refuseIf_eq_false hcontent
    rw [bne_eq_false_iff_eq] at hcontent
    have heq := Checked.pure_inj h
    simp only [Prod.mk.injEq] at heq
    exact ⟨requestEnd, le_refl _, hend, fun hne => absurd hversion hne,
      .inl ⟨heq.1.symm, heq.2.symm, .inl ⟨hversion, rfl, hcontent⟩⟩⟩
  · rename_i hversion
    obtain ⟨_, hheader, h⟩ := bind_eq_pure h
    have hheader := refuseIf_eq_false hheader
    rw [decide_eq_false_iff_not, not_lt] at hheader
    obtain ⟨length, hlength, h⟩ := bind_eq_pure h
    dsimp only at h
    split at h
    · rename_i hzero
      obtain ⟨_, hfour, h⟩ := bind_eq_pure h
      have hfour := refuseIf_eq_false hfour
      rw [bne_eq_false_iff_eq] at hfour
      have heq := Checked.pure_inj h
      simp only [Prod.mk.injEq] at heq
      obtain ⟨rfl, -, hstop⟩ := slice_eq_pure hlength
      refine ⟨requestEnd + 4, by omega, hheader, fun _ => by omega,
        .inl ⟨heq.1.symm, heq.2.symm, .inr ⟨hfour, rfl, ?_⟩⟩⟩
      rw [← toBE_of_cut hstop, hzero]
    · obtain ⟨_, hfits, h⟩ := bind_eq_pure h
      have hfits := refuseIf_eq_false hfits
      rw [Bool.or_eq_false_iff, decide_eq_false_iff_not, decide_eq_false_iff_not] at hfits
      obtain ⟨frame, hframe, h⟩ := bind_eq_pure h
      obtain ⟨recovery, hdecode, h⟩ := bind_eq_pure h
      obtain ⟨_, hchecked, h⟩ := bind_eq_pure h
      have hchecks := refuseIf_eq_false hchecked
      simp only [Bool.or_eq_false_iff, bne_eq_false_iff_eq, decide_eq_false_iff_not,
        UInt64.not_lt, Bool.not_eq_false'] at hchecks
      obtain ⟨⟨⟨hinstance, hpid⟩, hgeneration⟩, hphase⟩ := hchecks
      cases hop : recovery.operation <;> simp only [hop] at h
      case prepare c =>
        have heq := Checked.pure_inj h
        simp only [Prod.mk.injEq] at heq
        have hcut := (slice_eq_pure hlength).1
        exact ⟨requestEnd + 4 + fromBE length, by omega, by omega, fun _ => by rw [hcut], .inr ⟨c, recovery,
          frame, heq.1.symm, hversion, framed_of_slices hlength hframe (orJournal_eq_pure hdecode) hop,
          heq.2.symm, hinstance, hpid, hgeneration, hphase⟩⟩
      all_goals exact absurd (congrArg ExceptT.run h) (by simp [refuse])

/-- The deadline section, which only the third magic has. -/
def ReadDeadline (bytes version : Bytes) (start stop deadline : ℕ) : Prop :=
  if version = magicV3 then cut bytes start stop = toBE 8 (UInt64.ofNat deadline).toNat
  else cut bytes start stop = [] ∧ UInt64.ofNat deadline = 0

theorem readDeadline_of_slice {start : ℕ} (hversion : version = magicV3)
    (h : slice bytes start (start + 8) = pure seg) :
    ReadDeadline bytes version start (start + 8) (fromBE seg) := by
  obtain ⟨rfl, -, hstop⟩ := slice_eq_pure h
  have hlt := fromBE_lt (cut bytes start (start + 8))
  rw [length_cut start hstop, show start + 8 - start = 8 by omega] at hlt
  unfold ReadDeadline
  rw [if_pos hversion, UInt64.toNat_ofNat', Nat.mod_eq_of_lt (by simpa using hlt),
    toBE_of_cut hstop]

/-- The steps of `decode_record` behind the header. -/
theorem decodeBody_eq_pure {steps : UInt16} {count : ℕ} {r : TransactionRecord}
    (h : decodeBody bytes version contentLen phase steps count = pure r) :
    ∃ entries deadline offset requestEnd, ∃ request : NetdRequest,
      slice bytes 12 (12 + count * 3) = pure entries
        ∧ decodeSysctls entries none = pure r.sysctls
        ∧ 12 + count * 3 ≤ offset ∧ offset + 4 ≤ contentLen
        ∧ ReadDeadline bytes version (12 + count * 3) offset deadline
        ∧ decodeRequest bytes contentLen offset (offset + 4)
          = pure (request, r.declaration, requestEnd)
        ∧ decodeRecovery bytes version contentLen requestEnd phase request
          = pure (r.recoveryCandidate, r.recoveryCandidateOwner)
        ∧ decodeFailedSection bytes version contentLen requestEnd r.recoveryCandidate.isSome
          = pure r.failedPrefixes
        ∧ r.owner = request.owner ∧ r.phase = phase ∧ r.completedSteps = steps
        ∧ r.drainDeadlineMonoMs = UInt64.ofNat deadline := by
  unfold decodeBody at h
  obtain ⟨_, hfits, h⟩ := bind_eq_pure h
  obtain ⟨entries, hentries, h⟩ := bind_eq_pure h
  obtain ⟨sysctls, hsysctls, h⟩ := bind_eq_pure h
  have hfits := refuseIf_eq_false hfits
  rw [decide_eq_false_iff_not, not_lt] at hfits
  dsimp only at h
  by_cases hversion : version = magicV3
  · simp only [if_pos hversion] at h hfits
    obtain ⟨seg, hseg, h⟩ := bind_eq_pure h
    rw [pure_bind] at h
    obtain ⟨⟨request, declaration, requestEnd⟩, hrequest, h⟩ := bind_eq_pure h
    obtain ⟨⟨candidate, owner⟩, hrecovery, h⟩ := bind_eq_pure h
    obtain ⟨failed, hfailed, h⟩ := bind_eq_pure h
    obtain rfl := Checked.pure_inj h
    exact ⟨entries, fromBE seg, 12 + count * 3 + 8, requestEnd, request, hentries, hsysctls,
      by omega, hfits, readDeadline_of_slice hversion hseg, hrequest, hrecovery, hfailed, rfl, rfl,
      rfl, rfl⟩
  · simp only [if_neg hversion] at h hfits
    rw [if_neg (by decide), pure_bind] at h
    obtain ⟨⟨request, declaration, requestEnd⟩, hrequest, h⟩ := bind_eq_pure h
    obtain ⟨⟨candidate, owner⟩, hrecovery, h⟩ := bind_eq_pure h
    obtain ⟨failed, hfailed, h⟩ := bind_eq_pure h
    obtain rfl := Checked.pure_inj h
    refine ⟨entries, 0, 12 + count * 3, requestEnd, request, hentries, hsysctls,
      by omega, hfits, ?_, hrequest, hrecovery, hfailed, rfl, rfl, rfl, rfl⟩
    unfold ReadDeadline
    rw [if_neg hversion]
    exact ⟨cut_nil _, rfl⟩

/-- A file that is accepted has a header and a body. -/
theorem decodeRecord_eq_pure {sha : Bytes → Vector UInt8 32} {r : TransactionRecord}
    (h : decodeRecord sha bytes = pure r) :
    ∃ version contentLen phase steps count, decodeHeader bytes = pure (phase, steps, count)
      ∧ decodeBody bytes version contentLen phase steps count = pure r := by
  rw [decodeRecord] at h
  obtain ⟨_, -, h⟩ := bind_eq_pure h
  obtain ⟨version, -, h⟩ := bind_eq_pure h
  obtain ⟨_, -, h⟩ := bind_eq_pure h
  obtain ⟨_, -, h⟩ := bind_eq_pure h
  obtain ⟨_, -, h⟩ := bind_eq_pure h
  obtain ⟨_, -, h⟩ := bind_eq_pure h
  obtain ⟨⟨phase, steps, count⟩, hheader, h⟩ := bind_eq_pure h
  exact ⟨version, _, phase, steps, count, hheader, h⟩

end Sections

end CandyRuntime.NetdV1
