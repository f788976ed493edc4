import CandyRuntime.NetdProto.Types

/-!
# The netd protocol: the request wire format

`NetdRequest::encode` and `NetdRequest::decode` with the `Reader` they are built from. A
reader is a state-passing function on the unread input, which is all the source's
`input` and `offset` are used for.
-/

namespace CandyRuntime.NetdProto

open Lib

/-! ## Writing -/

/-- `encode_prefix`. -/
def encodePrefix (p : Ipv4Prefix) : Bytes :=
  toBE 4 p.network.toNat ++ encodeVarint p.prefixLen.toNat

/-- `u64::from(flag)` as a varint. -/
def encodeFlag (flag : Bool) : Bytes := encodeVarint flag.toNat

/-- One entry of the route list. -/
def encodeRoute (r : RouteDeclaration) : Bytes :=
  encodePrefix r.ipv4Prefix ++ encodeVarint r.kind.code

/-- One entry of the exclusion list. -/
def encodeExclusion (e : UnderlayExclusion) : Bytes :=
  encodePrefix e.ipv4Prefix ++ encodeVarint e.kind.code

/-- The four flags of a firewall policy. -/
def encodeFirewall (f : FirewallPolicy) : Bytes :=
  encodeFlag f.allowForward ++ (encodeFlag f.clampTcpMss
    ++ (encodeFlag f.requireIpv4Forwarding ++ encodeFlag f.manageRpFilter))

/-- `encode_declaration`. -/
def encodeDeclaration (d : PrepareDeclaration) : Bytes :=
  encodeVarint d.tableId.toNat ++ (toBE 4 d.overlayRouterIpv4.toNat
    ++ (encodeVarint d.effectiveMtu.toNat
    ++ (encodeVarint d.routes.length ++ (d.routes.flatMap encodeRoute
    ++ (encodeVarint d.exclusions.length ++ (d.exclusions.flatMap encodeExclusion
    ++ encodeFirewall d.firewall))))))

/-- What `NetdRequest::encode` writes after the owner. -/
def encodeOperation : NetdOperation → Bytes
  | .prepare d | .reconfigure d | .policyUpdate d => encodeDeclaration d
  | .mtuUpdate mtu => encodeVarint mtu.toNat
  | .drain now => encodeVarint now.toNat
  | .withdrawPrefixes prefixes => encodeVarint prefixes.length ++ prefixes.flatMap encodePrefix
  | _ => []

/-- `LeaseOwner` on the wire. -/
def encodeOwner (o : LeaseOwner) : Bytes :=
  o.instanceId.toList ++ (encodeVarint o.pid.toNat ++ (encodeVarint o.generation.toNat
    ++ encodeVarint o.leaseDeadlineMonoMs.toNat))

/-- `ensure_frame`. -/
def ensureFrame (input : Bytes) : Except NetdProtocolError Unit :=
  refuseIf (input.isEmpty || decide (maxNetdFrameLen < input.length)) .frameSize

/-- The frame `NetdRequest::encode` builds before it checks its size. -/
def NetdRequest.frame (r : NetdRequest) : Bytes :=
  encodeVarint netdProtocolVersion ++ (encodeVarint r.operation.tag
    ++ (encodeVarint r.requestId.toNat ++ (encodeOwner r.owner ++ encodeOperation r.operation)))

/-- `NetdRequest::encode`. -/
def NetdRequest.encode (r : NetdRequest) : Except NetdProtocolError Bytes := do
  r.validate
  match r.operation with
  | .withdrawPrefixes prefixes =>
    refuseIf (decide (maxRoutes < prefixes.length)) .invalidRequest
  | _ => .ok ()
  ensureFrame r.frame
  return r.frame

/-! ## Reading -/

/-- `Reader`: a reader of the unread input. -/
abbrev Reader (α : Type) := StateT Bytes (Except NetdProtocolError) α

namespace Reader

/-- `Reader::varint`. -/
def varint : Reader ℕ := fun input =>
  match decodeVarint input with
  | some (value, rest) => .ok (value, rest)
  | none => .error .malformed

/-- `Reader::fixed`. -/
def fixed (n : ℕ) : Reader (Vector UInt8 n) := fun input =>
  if h : n ≤ input.length then
    .ok (⟨(input.take n).toArray, by simp [h]⟩, input.drop n)
  else .error .malformed

/-- `Reader::fixed` for an address, as its big-endian value. -/
def address : Reader UInt32 := do
  let octets ← fixed 4
  return UInt32.ofNat (fromBE octets.toList)

/-- `T::try_from` for an unsigned type below `bound`. -/
def below (bound : ℕ) (e : NetdProtocolError) : Reader ℕ := do
  let value ← varint
  if value < bound then return value else throw e

/-- `Reader::count`. -/
def count (min max : ℕ) : Reader ℕ := do
  let value ← varint
  if min ≤ value ∧ value ≤ max then return value else throw .invalidDeclaration

/-- `Reader::boolean`. -/
def boolean : Reader Bool := do
  match ← varint with
  | 0 => return false
  | 1 => return true
  | _ => throw .malformed

/-- `Reader::prefix`. -/
def ipv4Prefix : Reader Ipv4Prefix := do
  let network ← address
  let prefixLen ← below 256 .invalidDeclaration
  liftM (Ipv4Prefix.new network (UInt8.ofNat prefixLen))

/-- The loop `for _ in 0..count { values.push(read) }`. -/
def repeated {α : Type} (read : Reader α) : ℕ → Reader (List α)
  | 0 => return []
  | n + 1 => do
    let value ← read
    let values ← repeated read n
    return value :: values

/-- One entry of the route list. -/
def route : Reader RouteDeclaration := do
  let ipv4Prefix ← ipv4Prefix
  let kind ← liftM (RouteKind.tryFrom (← varint))
  return { ipv4Prefix, kind }

/-- One entry of the exclusion list. -/
def exclusion : Reader UnderlayExclusion := do
  let ipv4Prefix ← ipv4Prefix
  let kind ← liftM (UnderlayKind.tryFrom (← varint))
  return { ipv4Prefix, kind }

/-- The four flags of a firewall policy. -/
def firewall : Reader FirewallPolicy := do
  let allowForward ← boolean
  let clampTcpMss ← boolean
  let requireIpv4Forwarding ← boolean
  let manageRpFilter ← boolean
  return { allowForward, clampTcpMss, requireIpv4Forwarding, manageRpFilter }

/-- `decode_declaration`. -/
def declaration : Reader PrepareDeclaration := do
  let tableId ← below (2 ^ 32) .invalidDeclaration
  let overlayRouterIpv4 ← address
  let effectiveMtu ← below (2 ^ 16) .invalidDeclaration
  let routeCount ← count 1 maxRoutes
  let routes ← repeated route routeCount
  let exclusionCount ← count 1 maxExclusions
  let exclusions ← repeated exclusion exclusionCount
  let firewall ← firewall
  let value : PrepareDeclaration :=
    { tableId := UInt32.ofNat tableId, overlayRouterIpv4,
      effectiveMtu := UInt16.ofNat effectiveMtu, routes, exclusions, firewall }
  liftM value.validate
  return value

/-- The lease owner of a request. -/
def owner : Reader LeaseOwner := do
  let instanceId ← fixed 16
  let pid ← below (2 ^ 32) .invalidOwner
  let generation ← varint
  let leaseDeadlineMonoMs ← varint
  return { instanceId, pid := UInt32.ofNat pid, generation := UInt64.ofNat generation,
           leaseDeadlineMonoMs := UInt64.ofNat leaseDeadlineMonoMs }

/-- The operation that goes with a tag. -/
def operation (tag : ℕ) : Reader NetdOperation :=
  match tag with
  | 1 => return .prepare (← declaration)
  | 2 => return .commit
  | 3 => return .rollback
  | 4 => return .status
  | 5 => return .leaseRenew
  | 6 => return .mtuUpdate (UInt16.ofNat (← below (2 ^ 16) .invalidDeclaration))
  | 7 => return .suspend
  | 8 => return .reconfigure (← declaration)
  | 9 => return .resume
  | 10 => return .drain (UInt64.ofNat (← varint))
  | 11 => do
    let count ← varint
    if maxRoutes < count then throw .invalidRequest
    return .withdrawPrefixes (← repeated ipv4Prefix count)
  | 12 => return .policyUpdate (← declaration)
  | _ => throw .unknownEnum

/-- `Reader::finish`. -/
def finish : Reader Unit := fun input =>
  match input with
  | [] => .ok ((), [])
  | _ :: _ => .error .trailingBytes

end Reader

/-- The body of `NetdRequest::decode` up to `finish`. -/
def NetdRequest.read : Reader NetdRequest := do
  if (← Reader.varint) ≠ netdProtocolVersion then throw .unsupportedVersion
  let tag ← Reader.varint
  let requestId ← Reader.varint
  let owner ← Reader.owner
  let operation ← Reader.operation tag
  Reader.finish
  return { requestId := UInt64.ofNat requestId, owner, operation }

/-- `NetdRequest::decode`. -/
def NetdRequest.decode (input : Bytes) : Except NetdProtocolError NetdRequest := do
  ensureFrame input
  let (value, _) ← NetdRequest.read.run input
  value.validate
  return value

end CandyRuntime.NetdProto
