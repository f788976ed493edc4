import CandyRuntime.NetdProto.Codec
import CandyRuntime.NetdProto.Session

/-!
# The netd protocol: the response wire format

`NetdResponse::encode` and `NetdResponse::decode`. A response is decoded with the readers of
the request format, and then encoded once more for the checks `encode` makes.
-/

namespace CandyRuntime.NetdProto

open Lib

/-! ## Codes -/

/-- The discriminant of an error code. -/
def ErrorCode.code : ErrorCode → ℕ
  | .invalidRequest => 1
  | .unauthorizedPeer => 2
  | .generationConflict => 3
  | .preflightFailed => 4
  | .systemFailure => 5
  | .drainPending => 6
  | .linkPrepareFailed => 7
  | .routePrepareFailed => 8
  | .firewallPrepareFailed => 9
  | .sysctlPrepareFailed => 10
  | .linkActivateFailed => 11
  | .policyActivateFailed => 12

/-- `ErrorCode::try_from`. -/
def ErrorCode.tryFrom (value : ℕ) : Except NetdProtocolError ErrorCode :=
  match value with
  | 1 => .ok .invalidRequest
  | 2 => .ok .unauthorizedPeer
  | 3 => .ok .generationConflict
  | 4 => .ok .preflightFailed
  | 5 => .ok .systemFailure
  | 6 => .ok .drainPending
  | 7 => .ok .linkPrepareFailed
  | 8 => .ok .routePrepareFailed
  | 9 => .ok .firewallPrepareFailed
  | 10 => .ok .sysctlPrepareFailed
  | 11 => .ok .linkActivateFailed
  | 12 => .ok .policyActivateFailed
  | _ => .error .unknownEnum

/-- The discriminant of a session phase. -/
def SessionPhase.code : SessionPhase → ℕ
  | .stopped => 1
  | .prepared => 2
  | .active => 3
  | .suspended => 4
  | .draining => 5

/-- `SessionPhase::try_from`. -/
def SessionPhase.tryFrom (value : ℕ) : Except NetdProtocolError SessionPhase :=
  match value with
  | 1 => .ok .stopped
  | 2 => .ok .prepared
  | 3 => .ok .active
  | 4 => .ok .suspended
  | 5 => .ok .draining
  | _ => .error .unknownEnum

/-! ## Writing -/

/-- The tag `NetdResponse::encode` writes for a body. -/
def ResponseBody.tag : ResponseBody → ℕ
  | .prepared .. => 1
  | .committed _ => 2
  | .rolledBack _ => 3
  | .status .. => 4
  | .leaseRenewed _ => 5
  | .error _ => 6
  | .mtuUpdated .. => 7
  | .suspended _ => 8
  | .reconfigured _ => 9
  | .resumed _ => 10
  | .drained _ => 11
  | .prefixesWithdrawn .. => 12
  | .policyUpdated _ => 13

/-- `valid_generation`. -/
def validGeneration (value : UInt64) : Except NetdProtocolError Unit :=
  refuseIf (value == 0) .invalidRequest

/-- The checks `NetdResponse::encode` makes on a body. -/
def ResponseBody.validate : ResponseBody → Except NetdProtocolError Unit
  | .prepared generation _ | .committed generation | .rolledBack generation
  | .leaseRenewed generation | .suspended generation | .reconfigured generation
  | .resumed generation | .drained generation | .prefixesWithdrawn generation _
  | .policyUpdated generation => validGeneration generation
  | .status phase generation =>
    if phase ≠ .stopped then validGeneration generation else .ok ()
  | .mtuUpdated generation mtu => do
    validGeneration generation
    refuseIf (decide (¬ (576 ≤ mtu ∧ mtu ≤ 1400))) .invalidDeclaration
  | .error _ => .ok ()

/-- What `NetdResponse::encode` writes after the request identifier. -/
def encodeBody : ResponseBody → Bytes
  | .prepared generation attached => encodeVarint generation.toNat ++ encodeFlag attached
  | .committed generation | .rolledBack generation | .leaseRenewed generation
  | .suspended generation | .reconfigured generation | .resumed generation
  | .drained generation | .policyUpdated generation => encodeVarint generation.toNat
  | .prefixesWithdrawn generation count =>
    encodeVarint generation.toNat ++ encodeVarint count.toNat
  | .status phase generation => encodeVarint phase.code ++ encodeVarint generation.toNat
  | .mtuUpdated generation mtu => encodeVarint generation.toNat ++ encodeVarint mtu.toNat
  | .error code => encodeVarint code.code

/-- The frame `NetdResponse::encode` builds before it checks its size. -/
def NetdResponse.frame (r : NetdResponse) : Bytes :=
  encodeVarint netdProtocolVersion ++ (encodeVarint r.body.tag
    ++ (encodeVarint r.requestId.toNat ++ encodeBody r.body))

/-- `NetdResponse::encode`. -/
def NetdResponse.encode (r : NetdResponse) : Except NetdProtocolError Bytes := do
  refuseIf (r.requestId == 0) .invalidRequest
  r.body.validate
  ensureFrame r.frame
  return r.frame

/-! ## Reading -/

/-- `Reader::varint` as a 64-bit number. -/
def Reader.word : Reader UInt64 := do return UInt64.ofNat (← Reader.varint)

/-- The body that goes with a tag. -/
def Reader.body (tag : ℕ) : Reader ResponseBody :=
  match tag with
  | 1 => return .prepared (← word) (← boolean)
  | 2 => return .committed (← word)
  | 3 => return .rolledBack (← word)
  | 4 => do
    let phase ← liftM (SessionPhase.tryFrom (← varint))
    return .status phase (← word)
  | 5 => return .leaseRenewed (← word)
  | 6 => return .error (← liftM (ErrorCode.tryFrom (← varint)))
  | 7 => return .mtuUpdated (← word) (UInt16.ofNat (← below (2 ^ 16) .invalidDeclaration))
  | 8 => return .suspended (← word)
  | 9 => return .reconfigured (← word)
  | 10 => return .resumed (← word)
  | 11 => return .drained (← word)
  | 12 => return .prefixesWithdrawn (← word) (← word)
  | 13 => return .policyUpdated (← word)
  | _ => throw .unknownEnum

/-- The body of `NetdResponse::decode` up to `finish`. -/
def NetdResponse.read : Reader NetdResponse := do
  if (← Reader.varint) ≠ netdProtocolVersion then throw .unsupportedVersion
  let tag ← Reader.varint
  let requestId ← Reader.word
  let body ← Reader.body tag
  Reader.finish
  return { requestId, body }

/-- `NetdResponse::decode`. -/
def NetdResponse.decode (input : Bytes) : Except NetdProtocolError NetdResponse := do
  ensureFrame input
  let (value, _) ← NetdResponse.read.run input
  let _ ← value.encode
  return value

end CandyRuntime.NetdProto
