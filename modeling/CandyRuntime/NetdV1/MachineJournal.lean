import CandyRuntime.NetdV1.JournalableTheorems

/-!
# The journal decoder over machine integers

`decode_record` with its `usize` arithmetic visible: a sum that leaves the range panics where the
source adds with `+`, and is refused where it adds with `checked_add`. On a slice that fits into
memory this is the decoder over unbounded offsets, and neither of the two ever happens. The frames
inside are read by `NetdRequest::decode`, which consumes the unread input and keeps its offset within
the frame.
-/

namespace CandyRuntime.NetdV1

open Lib NetdProto Checked

variable {phase : TransactionPhase} {requestEnd : ℕ} {α : Type} {a b : ℕ}

namespace Checked

/-- `a + b` on `usize`. -/
def plus (a b : ℕ) : Checked ℕ := if a + b < 2 ^ 64 then pure (a + b) else ExceptT.lift none

/-- `a - b` on `usize`. -/
def minus (a b : ℕ) : Checked ℕ := if b ≤ a then pure (a - b) else ExceptT.lift none

/-- `a.checked_add(b).ok_or(NetworkError::Journal)`. -/
def checkedAdd (a b : ℕ) : Checked ℕ := if a + b < 2 ^ 64 then pure (a + b) else refuse

/-- `a.checked_mul(b).ok_or(NetworkError::Journal)`. -/
def checkedMul (a b : ℕ) : Checked ℕ := if a * b < 2 ^ 64 then pure (a * b) else refuse

end Checked

/-! ## The decoder -/

/-- The retained request, which ends at the returned offset. -/
def machineRequest (bytes : Bytes) (contentLen requestLenOffset requestHeaderEnd : ℕ) :
    Checked (NetdRequest × PrepareDeclaration × ℕ) := do
  let requestLen := fromBE (← slice bytes requestLenOffset (← plus requestLenOffset 4))
  refuseIf (requestLen == 0 || decide (maxNetdFrameLen < requestLen))
  let requestEnd ← checkedAdd requestHeaderEnd requestLen
  refuseIf (decide (contentLen < requestEnd))
  let request ← orJournal (NetdRequest.decode (← slice bytes requestHeaderEnd requestEnd))
  match request.operation with
  | .prepare declaration => return (request, declaration, requestEnd)
  | _ => refuse

/-- The candidate section. -/
def machineRecovery (bytes version : Bytes) (contentLen requestEnd : ℕ)
    (phase : TransactionPhase) (request : NetdRequest) :
    Checked (Option PrepareDeclaration × Option LeaseOwner) := do
  if version = magicV1 then
    refuseIf (requestEnd != contentLen)
    return (none, none)
  else
    let recoveryHeaderEnd ← checkedAdd requestEnd 4
    refuseIf (decide (contentLen < recoveryHeaderEnd))
    let recoveryLen := fromBE (← slice bytes requestEnd recoveryHeaderEnd)
    let recoveryEnd ← checkedAdd recoveryHeaderEnd recoveryLen
    if recoveryLen = 0 then
      refuseIf (version != magicV4)
      return (none, none)
    else
      refuseIf (decide (maxNetdFrameLen < recoveryLen) || decide (contentLen < recoveryEnd))
      let recovery ← orJournal (NetdRequest.decode (← slice bytes recoveryHeaderEnd recoveryEnd))
      refuseIf ((recovery.owner.instanceId != request.owner.instanceId
        || recovery.owner.pid != request.owner.pid
        || decide (recovery.owner.generation < request.owner.generation))
        || !phase.allowsCandidate)
      match recovery.operation with
      | .prepare candidate =>
        return (some candidate,
          if recovery.owner ≠ request.owner then some recovery.owner else none)
      | _ => refuse

/-- The failed-prefix section, or the check that nothing follows the candidate. -/
def machineFailedSection (bytes version : Bytes) (contentLen requestEnd : ℕ)
    (hasCandidate : Bool) : Checked (List Ipv4Prefix) := do
  if version = magicV4 then
    refuseIf (!hasCandidate && decide (contentLen < requestEnd))
    let offset ←
      if hasCandidate then do
        let recoveryHeaderEnd ← plus requestEnd 4
        refuseIf (decide (contentLen < recoveryHeaderEnd))
        let recoveryLen := fromBE (← slice bytes requestEnd recoveryHeaderEnd)
        plus recoveryHeaderEnd recoveryLen
      else plus requestEnd 4
    refuseIf (!hasCandidate && decide (contentLen < offset))
    let countEnd ← checkedAdd offset 2
    refuseIf (decide (contentLen < countEnd))
    let count := fromBE (← slice bytes offset countEnd)
    let payloadLen ← checkedMul count 5
    let payloadEnd ← checkedAdd countEnd payloadLen
    refuseIf (count == 0 || decide (maxFailedPrefixes < count) || payloadEnd != contentLen)
    decodeFailed (← slice bytes countEnd payloadEnd) none
  else if hasCandidate then
    let recoveryHeaderEnd ← plus requestEnd 4
    let recoveryLen := fromBE (← slice bytes requestEnd recoveryHeaderEnd)
    let recoveryEnd ← plus recoveryHeaderEnd recoveryLen
    refuseIf (recoveryEnd != contentLen)
    return []
  else return []

/-- `decode_record` behind the header. -/
def machineBody (bytes version : Bytes) (contentLen : ℕ) (phase : TransactionPhase)
    (completedSteps : UInt16) (sysctlCount : ℕ) : Checked TransactionRecord := do
  let sysctlEnd ← checkedAdd 12 (← checkedMul sysctlCount 3)
  let deadlineLen := if version = magicV3 then 8 else 0
  let requestHeaderEnd ← checkedAdd (← checkedAdd sysctlEnd deadlineLen) 4
  refuseIf (decide (contentLen < requestHeaderEnd))
  let sysctls ← decodeSysctls (← slice bytes 12 sysctlEnd) none
  let drainDeadline ←
    if deadlineLen = 8 then do
      pure (fromBE (← slice bytes sysctlEnd (← plus sysctlEnd 8)))
    else pure 0
  let requestLenOffset ← plus sysctlEnd deadlineLen
  let (request, declaration, requestEnd) ←
    machineRequest bytes contentLen requestLenOffset requestHeaderEnd
  let (recoveryCandidate, recoveryCandidateOwner) ←
    machineRecovery bytes version contentLen requestEnd phase request
  let failedPrefixes ←
    machineFailedSection bytes version contentLen requestEnd recoveryCandidate.isSome
  return { owner := request.owner, declaration, recoveryCandidate, recoveryCandidateOwner,
           phase, completedSteps, sysctls,
           drainDeadlineMonoMs := UInt64.ofNat drainDeadline, failedPrefixes }

/-- `decode_record`. -/
def machineRecord (sha : Bytes → Vector UInt8 32) (bytes : Bytes) : Checked TransactionRecord := do
  refuseIf (decide (bytes.length < headerLen + checksumLen))
  let version ← slice bytes 0 8
  refuseIf (version != magicV1 && version != magicV2 && version != magicV3
    && version != magicV4)
  let contentLen ← minus bytes.length checksumLen
  let content ← slice bytes 0 contentLen
  refuseIf ((sha content).toList != (← slice bytes contentLen bytes.length))
  let (phase, completedSteps, sysctlCount) ← decodeHeader bytes
  machineBody bytes version contentLen phase completedSteps sysctlCount

/-! ## The arithmetic stays inside the machine words -/

namespace Checked

theorem plus_eq (h : a + b < 2 ^ 64) : plus a b = pure (a + b) := if_pos h

theorem checkedAdd_eq (h : a + b < 2 ^ 64) : checkedAdd a b = pure (a + b) := if_pos h

theorem checkedMul_eq (h : a * b < 2 ^ 64) : checkedMul a b = pure (a * b) := if_pos h

/-- Two programs that begin alike are equal when they go on alike from what the first part
returns. -/
theorem bind_congr_pure {α β : Type} {m : Checked α} {f g : α → Checked β}
    (h : ∀ a, m = pure a → f a = g a) : m >>= f = m >>= g := by
  rcases hm : m.run with _ | e | a
  · rw [show m = ExceptT.mk none from hm]
    rfl
  · rw [show m = ExceptT.mk (some (.error e)) from hm]
    rfl
  · rw [show m = pure a from hm, pure_bind, pure_bind]
    exact h a hm

end Checked

section

variable {bytes version : Bytes} {contentLen : ℕ}

/-- The value of a four-byte length. -/
theorem fromBE_lt_of_slice {seg : Bytes} {start : ℕ}
    (h : slice bytes start (start + 4) = pure seg) : fromBE seg < 2 ^ 32 := by
  have hlength := length_of_slice h
  have hlt := fromBE_lt seg
  rw [hlength, show start + 4 - start = 4 by omega] at hlt
  norm_num at hlt ⊢
  exact hlt

theorem machineRequest_eq {offset headerEnd : ℕ} (hoffset : offset < 2 ^ 63)
    (hheader : headerEnd < 2 ^ 63) :
    machineRequest bytes contentLen offset headerEnd
      = decodeRequest bytes contentLen offset headerEnd := by
  unfold machineRequest decodeRequest
  rw [plus_eq (by omega), pure_bind]
  refine bind_congr_pure fun seg hseg => ?_
  have hlen := fromBE_lt_of_slice hseg
  refine bind_congr_pure fun _ _ => ?_
  rw [checkedAdd_eq (by omega)]
  exact pure_bind _ _

theorem machineRecovery_eq {request : NetdRequest} (hend : requestEnd < 2 ^ 63) :
    machineRecovery bytes version contentLen requestEnd phase request
      = decodeRecovery bytes version contentLen requestEnd phase request := by
  unfold machineRecovery decodeRecovery
  split
  · rfl
  · rw [checkedAdd_eq (by omega), pure_bind]
    refine bind_congr_pure fun _ _ => ?_
    refine bind_congr_pure fun seg hseg => ?_
    have hlen := fromBE_lt_of_slice hseg
    dsimp only
    rw [checkedAdd_eq (by omega)]
    exact pure_bind _ _

theorem machineFailedSection_eq {hasCandidate : Bool} (hend : requestEnd < 2 ^ 63) :
    machineFailedSection bytes version contentLen requestEnd hasCandidate
      = decodeFailedSection bytes version contentLen requestEnd hasCandidate := by
  -- Behind its offset the section is read in one way.
  have hrest : ∀ offset < 2 ^ 63 + 2 ^ 33, (do
      refuseIf (!hasCandidate && decide (contentLen < offset))
      let countEnd ← checkedAdd offset 2
      refuseIf (decide (contentLen < countEnd))
      let count := fromBE (← slice bytes offset countEnd)
      let payloadLen ← checkedMul count 5
      let payloadEnd ← checkedAdd countEnd payloadLen
      refuseIf (count == 0 || decide (maxFailedPrefixes < count) || payloadEnd != contentLen)
      decodeFailed (← slice bytes countEnd payloadEnd) none) = (do
      refuseIf (!hasCandidate && decide (contentLen < offset))
      let countEnd := offset + 2
      refuseIf (decide (contentLen < countEnd))
      let count := fromBE (← slice bytes offset countEnd)
      let payloadEnd := countEnd + count * 5
      refuseIf (count == 0 || decide (maxFailedPrefixes < count) || payloadEnd != contentLen)
      decodeFailed (← slice bytes countEnd payloadEnd) none) := by
    intro offset hoffset
    refine bind_congr_pure fun _ _ => ?_
    rw [checkedAdd_eq (by omega), pure_bind]
    refine bind_congr_pure fun _ _ => ?_
    refine bind_congr_pure fun seg hseg => ?_
    have hlen : fromBE seg < 2 ^ 16 := by
      have hlength := length_of_slice hseg
      have hlt := fromBE_lt seg
      rw [hlength, show offset + 2 - offset = 2 by omega] at hlt
      norm_num at hlt ⊢
      exact hlt
    dsimp only
    rw [checkedMul_eq (by omega), pure_bind, checkedAdd_eq (by omega), pure_bind]
  unfold machineFailedSection decodeFailedSection
  split
  · refine bind_congr_pure fun _ _ => ?_
    split
    · rw [plus_eq (by omega), pure_bind]
      simp only [pure_bind]
      refine bind_congr_pure fun _ _ => ?_
      refine bind_congr_pure fun seg hseg => ?_
      have hlen := fromBE_lt_of_slice hseg
      rw [plus_eq (by omega), pure_bind]
      exact hrest _ (by omega)
    · rw [plus_eq (by omega), pure_bind, pure_bind]
      exact hrest _ (by omega)
  · split
    · rw [plus_eq (by omega), pure_bind]
      refine bind_congr_pure fun seg hseg => ?_
      have hlen := fromBE_lt_of_slice hseg
      dsimp only
      rw [plus_eq (by omega), pure_bind]
    · rfl

theorem machineBody_eq {completedSteps : UInt16} {sysctlCount : ℕ}
    (hcontent : contentLen < 2 ^ 63) (hcount : sysctlCount ≤ 4) :
    machineBody bytes version contentLen phase completedSteps sysctlCount
      = decodeBody bytes version contentLen phase completedSteps sysctlCount := by
  unfold machineBody decodeBody
  rw [checkedMul_eq (by omega), pure_bind, checkedAdd_eq (by omega), pure_bind]
  have hdeadline : (if version = magicV3 then 8 else 0) ≤ 8 := by split <;> omega
  generalize (if version = magicV3 then 8 else 0) = deadlineLen at hdeadline ⊢
  dsimp only
  rw [checkedAdd_eq (by omega), pure_bind, checkedAdd_eq (by omega), pure_bind]
  refine bind_congr_pure fun _ _ => ?_
  refine bind_congr_pure fun _ _ => ?_
  refine bind_congr_pure fun sysctls _ => ?_
  rw [plus_eq (by omega), plus_eq (by omega)]
  simp only [pure_bind]
  rw [machineRequest_eq (by omega) (by omega)]
  -- The deadline changes nothing about the sections behind it.
  have hrest : ∀ drainDeadline, (do
      let parsed ← decodeRequest bytes contentLen (12 + sysctlCount * 3 + deadlineLen)
        (12 + sysctlCount * 3 + deadlineLen + 4)
      let candidate ← machineRecovery bytes version contentLen parsed.2.2 phase parsed.1
      let failedPrefixes ←
        machineFailedSection bytes version contentLen parsed.2.2 candidate.1.isSome
      (pure { owner := parsed.1.owner, declaration := parsed.2.1, recoveryCandidate := candidate.1,
              recoveryCandidateOwner := candidate.2, phase, completedSteps, sysctls,
              drainDeadlineMonoMs := UInt64.ofNat drainDeadline, failedPrefixes } :
        Checked TransactionRecord)) = (do
      let parsed ← decodeRequest bytes contentLen (12 + sysctlCount * 3 + deadlineLen)
        (12 + sysctlCount * 3 + deadlineLen + 4)
      let candidate ← decodeRecovery bytes version contentLen parsed.2.2 phase parsed.1
      let failedPrefixes ←
        decodeFailedSection bytes version contentLen parsed.2.2 candidate.1.isSome
      pure { owner := parsed.1.owner, declaration := parsed.2.1, recoveryCandidate := candidate.1,
             recoveryCandidateOwner := candidate.2, phase, completedSteps, sysctls,
             drainDeadlineMonoMs := UInt64.ofNat drainDeadline, failedPrefixes }) := by
    intro drainDeadline
    refine bind_congr_pure fun parsed hparsed => ?_
    have hend : parsed.2.2 ≤ contentLen := (framed_of_decodeRequest hparsed).1
    rw [machineRecovery_eq (by omega)]
    refine bind_congr_pure fun candidate _ => ?_
    rw [machineFailedSection_eq (by omega)]
  split
  · refine bind_congr_pure fun seg _ => ?_
    exact hrest _
  · exact hrest 0

theorem sysctlCount_le {completedSteps : UInt16} {sysctlCount : ℕ}
    (h : decodeHeader bytes = pure (phase, completedSteps, sysctlCount)) : sysctlCount ≤ 4 := by
  rw [decodeHeader] at h
  obtain ⟨_, -, h⟩ := bind_eq_pure h
  obtain ⟨_, -, h⟩ := bind_eq_pure h
  obtain ⟨_, -, h⟩ := bind_eq_pure h
  obtain ⟨_, -, h⟩ := bind_eq_pure h
  obtain ⟨_, -, h⟩ := bind_eq_pure h
  obtain ⟨count, -, h⟩ := bind_eq_pure h
  obtain ⟨_, hcount, h⟩ := bind_eq_pure h
  have hfour := refuseIf_eq_false hcount
  rw [decide_eq_false_iff_not, not_lt] at hfour
  have hfields := Checked.pure_inj h
  simp only [Prod.mk.injEq] at hfields
  omega

/-- On a slice that fits into memory the decoder computes with the offsets themselves. -/
theorem machineRecord_eq (sha : Bytes → Vector UInt8 32) (hbytes : bytes.length < 2 ^ 63) :
    machineRecord sha bytes = decodeRecord sha bytes := by
  unfold machineRecord decodeRecord
  refine bind_congr_pure fun _ hlength => ?_
  have hlength := refuseIf_eq_false hlength
  rw [decide_eq_false_iff_not, not_lt] at hlength
  refine bind_congr_pure fun version _ => ?_
  refine bind_congr_pure fun _ _ => ?_
  have hminus : minus bytes.length checksumLen = pure (bytes.length - checksumLen) :=
    if_pos (by omega)
  rw [hminus, pure_bind]
  dsimp only
  refine bind_congr_pure fun content _ => ?_
  refine bind_congr_pure fun trailer _ => ?_
  refine bind_congr_pure fun _ _ => ?_
  refine bind_congr_pure fun header hheader => ?_
  have hcount : header.2.2 ≤ 4 := sysctlCount_le hheader
  exact machineBody_eq (by omega) hcount

end

/-! ## Every slice is inside the file -/

/-- The program does not panic. -/
def Total {α : Type} (m : Checked α) : Prop := ∃ result, m.run = some result

theorem Total.bind {α β : Type} {m : Checked α} {f : α → Checked β} (hm : Total m)
    (hf : ∀ a, m = pure a → Total (f a)) : Total (m >>= f) := by
  obtain ⟨result, hrun⟩ := hm
  cases result with
  | error e =>
    rw [show m = ExceptT.mk (some (.error e)) from hrun]
    exact ⟨.error e, rfl⟩
  | ok a =>
    rw [show m = pure a from hrun, pure_bind]
    exact hf a hrun

theorem total_pure (a : α) : Total (pure a : Checked α) := ⟨.ok a, rfl⟩

theorem total_refuse : Total (refuse : Checked α) := ⟨.error .journal, rfl⟩

theorem total_refuseIf (c : Bool) : Total (Checked.refuseIf c) := by
  cases c
  · exact total_pure ()
  · exact total_refuse

theorem total_orJournal {ε α : Type} (m : Except ε α) : Total (orJournal m) := by
  cases m
  · exact total_refuse
  · exact total_pure _

/-- A check in front of a program that relies on it. -/
theorem Total.refuseIf_bind {c : Bool} {f : Unit → Checked α} (hf : c = false → Total (f ())) :
    Total (Checked.refuseIf c >>= f) :=
  Total.bind (total_refuseIf c) fun _ h => hf (refuseIf_eq_false h)

section

variable {bytes version : Bytes} {contentLen : ℕ}

theorem total_slice {start stop : ℕ} (hle : start ≤ stop) (hstop : stop ≤ bytes.length) :
    Total (slice bytes start stop) := by
  refine ⟨.ok ((bytes.drop start).take (stop - start)), ?_⟩
  unfold slice slice?
  rw [if_pos ⟨hle, hstop⟩]
  rfl

theorem total_index {i : ℕ} (hi : i < bytes.length) : Total (index bytes i) := by
  refine ⟨.ok bytes[i], ?_⟩
  unfold index
  rw [List.getElem?_eq_getElem hi]
  rfl

theorem total_decodePhase (byte : UInt8) : Total (decodePhase byte) := by
  unfold decodePhase
  split_ifs
  all_goals first | exact total_pure _ | exact total_refuse

theorem total_decodeSysctls (entries : Bytes) (last : Option SysctlChange) :
    Total (decodeSysctls entries last) := by
  induction entries, last using decodeSysctls.induct with
  | case1 key original applied rest last ih =>
    rw [decodeSysctls]
    refine Total.bind (total_orJournal _) fun k _ => ?_
    refine Total.bind (total_refuseIf _) fun _ _ => ?_
    exact Total.bind (ih _) fun _ _ => total_pure _
  | case2 entries last hshort =>
    rw [decodeSysctls]
    · exact total_pure _
    · exact hshort

theorem total_decodeFailed (entries : Bytes) (last : Option Ipv4Prefix) :
    Total (decodeFailed entries last) := by
  induction entries, last using decodeFailed.induct with
  | case1 a b c d prefixLen rest last value =>
    rename_i ih
    rw [decodeFailed]
    refine Total.bind (total_refuseIf _) fun _ _ => ?_
    exact Total.bind ih fun _ _ => total_pure _
  | case2 entries last hshort =>
    rw [decodeFailed]
    · exact total_pure _
    · exact hshort

theorem total_decodeHeader (h : 12 ≤ bytes.length) : Total (decodeHeader bytes) := by
  unfold decodeHeader
  refine Total.bind (total_index (by omega)) fun _ _ => ?_
  refine Total.bind (total_decodePhase _) fun _ _ => ?_
  refine Total.bind (total_index (by omega)) fun _ _ => ?_
  refine Total.bind (total_index (by omega)) fun _ _ => ?_
  refine Total.bind (total_refuseIf _) fun _ _ => ?_
  refine Total.bind (total_index (by omega)) fun _ _ => ?_
  exact Total.bind (total_refuseIf _) fun _ _ => total_pure _

theorem total_decodeRequest {offset : ℕ} (hoffset : offset + 4 ≤ contentLen)
    (hcontent : contentLen ≤ bytes.length) :
    Total (decodeRequest bytes contentLen offset (offset + 4)) := by
  unfold decodeRequest
  refine Total.bind (total_slice (by omega) (by omega)) fun seg _ => ?_
  refine Total.refuseIf_bind fun _ => ?_
  refine Total.refuseIf_bind fun hfits => ?_
  rw [decide_eq_false_iff_not, not_lt] at hfits
  refine Total.bind (total_slice (by omega) (by omega)) fun _ _ => ?_
  refine Total.bind (total_orJournal _) fun request _ => ?_
  split
  · exact total_pure _
  · exact total_refuse

theorem total_decodeRecovery {request : NetdRequest} (hcontent : contentLen ≤ bytes.length) :
    Total (decodeRecovery bytes version contentLen requestEnd phase request) := by
  unfold decodeRecovery
  split
  · exact Total.refuseIf_bind fun _ => total_pure _
  · refine Total.refuseIf_bind fun hheader => ?_
    rw [decide_eq_false_iff_not, not_lt] at hheader
    refine Total.bind (total_slice (by omega) (by omega)) fun seg _ => ?_
    dsimp only
    split
    · exact Total.refuseIf_bind fun _ => total_pure _
    · refine Total.refuseIf_bind fun hfits => ?_
      rw [Bool.or_eq_false_iff, decide_eq_false_iff_not, decide_eq_false_iff_not] at hfits
      refine Total.bind (total_slice (by omega) (by omega)) fun _ _ => ?_
      refine Total.bind (total_orJournal _) fun recovery _ => ?_
      refine Total.refuseIf_bind fun _ => ?_
      split
      · exact total_pure _
      · exact total_refuse

/-- Without the fourth magic a candidate has been read behind its length. -/
theorem total_decodeFailedSection {hasCandidate : Bool} (hcontent : contentLen ≤ bytes.length)
    (hcandidate : hasCandidate = true → requestEnd + 4 ≤ contentLen) :
    Total (decodeFailedSection bytes version contentLen requestEnd hasCandidate) := by
  unfold decodeFailedSection
  split
  · refine Total.refuseIf_bind fun _ => ?_
    have hrest : ∀ offset, Total (do
        refuseIf (!hasCandidate && decide (contentLen < offset))
        let countEnd := offset + 2
        refuseIf (decide (contentLen < countEnd))
        let count := fromBE (← slice bytes offset countEnd)
        let payloadEnd := countEnd + count * 5
        refuseIf (count == 0 || decide (maxFailedPrefixes < count) || payloadEnd != contentLen)
        decodeFailed (← slice bytes countEnd payloadEnd) none) := by
      intro offset
      refine Total.refuseIf_bind fun _ => ?_
      refine Total.refuseIf_bind fun hend => ?_
      rw [decide_eq_false_iff_not, not_lt] at hend
      refine Total.bind (total_slice (by omega) (by omega)) fun seg _ => ?_
      refine Total.refuseIf_bind fun hpayload => ?_
      simp only [Bool.or_eq_false_iff, bne_eq_false_iff_eq] at hpayload
      refine Total.bind (total_slice (by omega) (by omega)) fun _ _ => ?_
      exact total_decodeFailed _ _
    split
    · rename_i hsome
      have hfits := hcandidate hsome
      refine Total.refuseIf_bind fun _ => ?_
      refine Total.bind (total_slice (by omega) (by omega)) fun seg _ => ?_
      rw [pure_bind]
      exact hrest _
    · rw [pure_bind]
      exact hrest _
  · split
    · rename_i hsome
      have hfits := hcandidate hsome
      refine Total.bind (total_slice (by omega) (by omega)) fun seg _ => ?_
      exact Total.refuseIf_bind fun _ => total_pure _
    · exact total_pure _

end

end CandyRuntime.NetdV1
