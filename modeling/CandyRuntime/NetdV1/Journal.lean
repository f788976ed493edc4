import CandyRuntime.NetdProto.Codec
import CandyRuntime.NetdV1.Record

/-!
# The file format of the v1 journal

`encode_record` and `decode_record` of `journal.rs`. The decoder works with offsets into
the whole file, as the source does; `Checked` keeps the two ways it can go wrong apart: an
error it returns, and a slice or index out of range, at which the process would panic.

SHA-256 is the parameter `sha`, of which the code uses only that a digest has 32 bytes.
-/

namespace CandyRuntime.NetdV1

open Lib NetdProto

/-! ## Constants -/

/-- `b"CNDJNL0x"` for the version digit `x`. -/
def magic (digit : UInt8) : Bytes := [0x43, 0x4e, 0x44, 0x4a, 0x4e, 0x4c, 0x30, digit]

def magicV1 : Bytes := magic 0x31
def magicV2 : Bytes := magic 0x32
def magicV3 : Bytes := magic 0x33
def magicV4 : Bytes := magic 0x34
def headerLen : ℕ := 8 + 1 + 2 + 1 + 4
def checksumLen : ℕ := 32
def maxFailedPrefixes : ℕ := 1024

/-- `canonical_prefix`. -/
def canonicalPrefix (p : Ipv4Prefix) : Bool :=
  if 32 < p.prefixLen then false
  else
    let hostMask : UInt32 :=
      if p.prefixLen = 0 then 0xffffffff else (1 <<< (32 - p.prefixLen).toUInt32) - 1
    p.network &&& hostMask == 0

/-- The phases in which a record may carry a recovery candidate. -/
def TransactionPhase.allowsCandidate : TransactionPhase → Bool
  | .preparing | .prepared | .draining | .rollingBack => true
  | .active | .suspended => false

/-- The phase byte. -/
def TransactionPhase.code : TransactionPhase → UInt8
  | .preparing => 1
  | .prepared => 2
  | .active => 3
  | .rollingBack => 4
  | .suspended => 5
  | .draining => 6

/-! ## Encoding -/

/-- The failed-prefix checks of `encode_record`. -/
def failedPrefixesStorable (failed : List Ipv4Prefix) : Bool :=
  decide (failed.length ≤ maxFailedPrefixes) && strictlySortedBy Ipv4Prefix.rank failed
    && failed.all canonicalPrefix

/-- The sysctl checks of `encode_record`. -/
def sysctlsStorable (sysctls : List SysctlChange) : Bool :=
  decide (sysctls.length ≤ 4) && strictlySortedBy (fun c => c.key.code.toNat) sysctls
    && sysctls.all (fun c => decide (c.original ≤ 2) && decide (c.applied ≤ 2)
      && c.original != c.applied)

/-- The checks `encode_record` makes on a candidate's owner. -/
def candidateOwnerStorable (record : TransactionRecord) : Bool :=
  match record.recoveryCandidateOwner with
  | none => true
  | some candidateOwner =>
    record.recoveryCandidate.isSome
      && candidateOwner.instanceId == record.owner.instanceId
      && candidateOwner.pid == record.owner.pid
      && decide (record.owner.generation ≤ candidateOwner.generation)

/-- A declaration as the self-describing request the journal keeps. -/
def journalRequest (owner : LeaseOwner) (declaration : PrepareDeclaration) : NetdRequest :=
  { requestId := 1, owner, operation := .prepare declaration }

/-- `request.encode().map_err(|_| NetworkError::Journal)`. -/
def encodeRequest (request : NetdRequest) : Except NetworkError Bytes :=
  request.encode.mapError fun _ => .journal

/-- The optional request of the candidate; it carries the candidate owner if there is one. -/
def encodeRecovery (record : TransactionRecord) : Except NetworkError (Option Bytes) :=
  match record.recoveryCandidate with
  | none => .ok none
  | some declaration => do
    let bytes ← encodeRequest
      (journalRequest (record.recoveryCandidateOwner.getD record.owner) declaration)
    return some bytes

/-- A length as a `u32`, refused when it does not fit. -/
def encodeLen (length : ℕ) : Except NetworkError Bytes :=
  if length < 2 ^ 32 then .ok (toBE 4 length) else .error .journal

/-- The magic `encode_record` picks. -/
def recordMagic (record : TransactionRecord) : Bytes :=
  if record.failedPrefixes ≠ [] then magicV4
  else if record.recoveryCandidate.isSome then magicV3
  else magicV1

/-- The sysctl section. -/
def sysctlBytes (sysctls : List SysctlChange) : Bytes :=
  sysctls.flatMap fun c => [c.key.code, c.original, c.applied]

/-- The deadline section, present with a candidate. -/
def deadlineBytes (record : TransactionRecord) : Bytes :=
  if record.recoveryCandidate.isSome then toBE 8 record.drainDeadlineMonoMs.toNat else []

/-- The candidate section: the request with its length, or a zero length in front of failed
prefixes. -/
def recoveryBytes (record : TransactionRecord) : Option Bytes → Except NetworkError Bytes
  | some recovery => do
    let length ← encodeLen recovery.length
    return length ++ recovery
  | none => .ok (if record.failedPrefixes ≠ [] then toBE 4 0 else [])

/-- The entries of the failed-prefix section. -/
def failedEntries (failed : List Ipv4Prefix) : Bytes :=
  failed.flatMap fun p => toBE 4 p.network.toNat ++ [p.prefixLen]

/-- The failed-prefix section, present when it is not empty. -/
def failedBytes (failed : List Ipv4Prefix) : Bytes :=
  if failed ≠ [] then toBE 2 failed.length ++ failedEntries failed else []

/-- The header: magic, phase, completed steps and the number of sysctl entries. -/
def headerBytes (record : TransactionRecord) : Bytes :=
  recordMagic record ++ (record.phase.code :: (toBE 2 record.completedSteps.toNat
    ++ [UInt8.ofNat record.sysctls.length]))

/-- `encode_record` before the checksum is appended. -/
def encodeContent (record : TransactionRecord) : Except NetworkError Bytes := do
  refuseIf (!failedPrefixesStorable record.failedPrefixes) .journal
  refuseIf (!sysctlsStorable record.sysctls) .journal
  refuseIf (record.recoveryCandidate.isSome && !record.phase.allowsCandidate) .journal
  refuseIf (!candidateOwnerStorable record) .journal
  let request ← encodeRequest (journalRequest record.owner record.declaration)
  let recovery ← encodeRecovery record
  let requestLen ← encodeLen request.length
  let recoverySection ← recoveryBytes record recovery
  return headerBytes record ++ (sysctlBytes record.sysctls ++ (deadlineBytes record
    ++ (requestLen ++ (request ++ (recoverySection ++ failedBytes record.failedPrefixes)))))

/-- `encode_record`. -/
def encodeRecord (sha : Bytes → Vector UInt8 32) (record : TransactionRecord) :
    Except NetworkError Bytes := do
  let content ← encodeContent record
  return content ++ (sha content).toList

/-! ## Decoding -/

/-- A result that can also be a panic (`none`). -/
abbrev Checked (α : Type) := ExceptT NetworkError Option α

namespace Checked

/-- An error of the decoder. -/
def refuse {α : Type} : Checked α := throw .journal

/-- `if c { return Err(NetworkError::Journal) }`. -/
def refuseIf (c : Bool) : Checked Unit := if c then refuse else pure ()

/-- `bytes[start..stop]`. -/
def slice (bytes : Bytes) (start stop : ℕ) : Checked Bytes :=
  ExceptT.lift (slice? bytes start stop)

/-- `bytes[index]`. -/
def index (bytes : Bytes) (i : ℕ) : Checked UInt8 := ExceptT.lift bytes[i]?

/-- A fallible call whose error becomes `NetworkError::Journal`. -/
def orJournal {ε α : Type} : Except ε α → Checked α
  | .ok a => pure a
  | .error _ => refuse

end Checked

open Checked in
/-- The phase byte of the header. -/
def decodePhase (byte : UInt8) : Checked TransactionPhase :=
  if byte = 1 then pure .preparing
  else if byte = 2 then pure .prepared
  else if byte = 3 then pure .active
  else if byte = 4 then pure .rollingBack
  else if byte = 5 then pure .suspended
  else if byte = 6 then pure .draining
  else refuse

open Checked in
/-- The loop over `chunks_exact(3)`; `last` is the entry decoded before. -/
def decodeSysctls : Bytes → Option SysctlChange → Checked (List SysctlChange)
  | key :: original :: applied :: rest, last => do
    let key ← orJournal (SysctlKey.tryFrom key)
    let change : SysctlChange := { key, original, applied }
    refuseIf (decide (2 < change.original) || decide (2 < change.applied)
      || change.original == change.applied
      || last.any (fun previous => decide (change.key.code ≤ previous.key.code)))
    let changes ← decodeSysctls rest (some change)
    return change :: changes
  | _, _ => return []

open Checked in
/-- The loop over `chunks_exact(5)`; `last` is the prefix decoded before. -/
def decodeFailed : Bytes → Option Ipv4Prefix → Checked (List Ipv4Prefix)
  | a :: b :: c :: d :: prefixLen :: rest, last => do
    let value : Ipv4Prefix := { network := UInt32.ofNat (fromBE [a, b, c, d]), prefixLen }
    refuseIf (!canonicalPrefix value || last.any (fun previous => decide (value ≤ previous)))
    let values ← decodeFailed rest (some value)
    return value :: values
  | _, _ => return []

open Checked in
/-- The header fields: phase, completed steps, number of sysctl entries. -/
def decodeHeader (bytes : Bytes) : Checked (TransactionPhase × UInt16 × ℕ) := do
  let phase ← decodePhase (← index bytes 8)
  let completedSteps := UInt16.ofNat (fromBE [← index bytes 9, ← index bytes 10])
  refuseIf (completedSteps &&& ~~~ 0x3f != 0)
  let sysctlCount := (← index bytes 11).toNat
  refuseIf (decide (4 < sysctlCount))
  return (phase, completedSteps, sysctlCount)

open Checked in
/-- The retained request, which ends at the returned offset. -/
def decodeRequest (bytes : Bytes) (contentLen requestLenOffset requestHeaderEnd : ℕ) :
    Checked (NetdRequest × PrepareDeclaration × ℕ) := do
  let requestLen := fromBE (← slice bytes requestLenOffset (requestLenOffset + 4))
  refuseIf (requestLen == 0 || decide (maxNetdFrameLen < requestLen))
  let requestEnd := requestHeaderEnd + requestLen
  refuseIf (decide (contentLen < requestEnd))
  let request ← orJournal (NetdRequest.decode (← slice bytes requestHeaderEnd requestEnd))
  match request.operation with
  | .prepare declaration => return (request, declaration, requestEnd)
  | _ => refuse

open Checked in
/-- The candidate section. -/
def decodeRecovery (bytes version : Bytes) (contentLen requestEnd : ℕ)
    (phase : TransactionPhase) (request : NetdRequest) :
    Checked (Option PrepareDeclaration × Option LeaseOwner) := do
  if version = magicV1 then
    refuseIf (requestEnd != contentLen)
    return (none, none)
  else
    let recoveryHeaderEnd := requestEnd + 4
    refuseIf (decide (contentLen < recoveryHeaderEnd))
    let recoveryLen := fromBE (← slice bytes requestEnd recoveryHeaderEnd)
    let recoveryEnd := recoveryHeaderEnd + recoveryLen
    if recoveryLen = 0 then
      refuseIf (version != magicV4)
      return (none, none)
    else
      refuseIf (decide (maxNetdFrameLen < recoveryLen) || decide (contentLen < recoveryEnd))
      let recovery ← orJournal (NetdRequest.decode (← slice bytes recoveryHeaderEnd recoveryEnd))
      refuseIf ((recovery.owner.instanceId != request.owner.instanceId
        || recovery.owner.pid != request.owner.pid
        || decide (recovery.owner.generation < request.owner.generation))
        || !phase.allowsCandidate)
      match recovery.operation with
      | .prepare candidate =>
        -- an owner equal to the retained one is not kept apart
        return (some candidate,
          if recovery.owner ≠ request.owner then some recovery.owner else none)
      | _ => refuse

open Checked in
/-- The failed-prefix section, or the check that nothing follows the candidate. -/
def decodeFailedSection (bytes version : Bytes) (contentLen requestEnd : ℕ)
    (hasCandidate : Bool) : Checked (List Ipv4Prefix) := do
  if version = magicV4 then
    refuseIf (!hasCandidate && decide (contentLen < requestEnd))
    let offset ←
      if hasCandidate then do
        let recoveryHeaderEnd := requestEnd + 4
        refuseIf (decide (contentLen < recoveryHeaderEnd))
        let recoveryLen := fromBE (← slice bytes requestEnd recoveryHeaderEnd)
        pure (recoveryHeaderEnd + recoveryLen)
      else pure (requestEnd + 4)
    refuseIf (!hasCandidate && decide (contentLen < offset))
    let countEnd := offset + 2
    refuseIf (decide (contentLen < countEnd))
    let count := fromBE (← slice bytes offset countEnd)
    let payloadEnd := countEnd + count * 5
    refuseIf (count == 0 || decide (maxFailedPrefixes < count) || payloadEnd != contentLen)
    decodeFailed (← slice bytes countEnd payloadEnd) none
  else if hasCandidate then
    let recoveryHeaderEnd := requestEnd + 4
    let recoveryLen := fromBE (← slice bytes requestEnd recoveryHeaderEnd)
    refuseIf (recoveryHeaderEnd + recoveryLen != contentLen)
    return []
  else return []

open Checked in
/-- `decode_record` behind the header. -/
def decodeBody (bytes version : Bytes) (contentLen : ℕ) (phase : TransactionPhase)
    (completedSteps : UInt16) (sysctlCount : ℕ) : Checked TransactionRecord := do
  let sysctlEnd := 12 + sysctlCount * 3
  let deadlineLen := if version = magicV3 then 8 else 0
  let requestHeaderEnd := sysctlEnd + deadlineLen + 4
  refuseIf (decide (contentLen < requestHeaderEnd))
  let sysctls ← decodeSysctls (← slice bytes 12 sysctlEnd) none
  let drainDeadline ←
    if deadlineLen = 8 then do
      pure (fromBE (← slice bytes sysctlEnd (sysctlEnd + 8)))
    else pure 0
  let (request, declaration, requestEnd) ←
    decodeRequest bytes contentLen (sysctlEnd + deadlineLen) requestHeaderEnd
  let (recoveryCandidate, recoveryCandidateOwner) ←
    decodeRecovery bytes version contentLen requestEnd phase request
  let failedPrefixes ←
    decodeFailedSection bytes version contentLen requestEnd recoveryCandidate.isSome
  return { owner := request.owner, declaration, recoveryCandidate, recoveryCandidateOwner,
           phase, completedSteps, sysctls,
           drainDeadlineMonoMs := UInt64.ofNat drainDeadline, failedPrefixes }

open Checked in
/-- `decode_record`. -/
def decodeRecord (sha : Bytes → Vector UInt8 32) (bytes : Bytes) :
    Checked TransactionRecord := do
  refuseIf (decide (bytes.length < headerLen + checksumLen))
  let version ← slice bytes 0 8
  refuseIf (version != magicV1 && version != magicV2 && version != magicV3
    && version != magicV4)
  let contentLen := bytes.length - checksumLen
  let content ← slice bytes 0 contentLen
  refuseIf ((sha content).toList != (← slice bytes contentLen bytes.length))
  let (phase, completedSteps, sysctlCount) ← decodeHeader bytes
  decodeBody bytes version contentLen phase completedSteps sysctlCount

end CandyRuntime.NetdV1
