import CandyRuntime.Lib.AddressText
import CandyRuntime.NetdProto.Codec
import CandyRuntime.NetdV2.Protocol

/-!
# The declaration for netd

The synchronizer checks the report in which Core has discovered the routes of a site, and builds from
it the declaration that it publishes with an activation. The agent reads that file and turns it into
the declaration of the netd protocol. Between the two there is JSON: the fields of the file and its
length are what the one hands to the other.
-/

namespace CandyRuntime.CloudSync.Declaration

open Lib NetdProto

/-! ## The report of Core -/

/-- `CorePolicyRef`. -/
structure CorePolicyRef where
  policyId : String
  generation : ℕ
  contentHash : String
deriving DecidableEq, Repr

/-- `DiscoveredRoute`. -/
structure DiscoveredRoute where
  destination : String
  kind : String
deriving DecidableEq, Repr

/-- `DiscoveredNetd`. -/
structure DiscoveredNetd where
  tableId : UInt32
  overlayRouterIpv4 : String
  maxInnerMtu : UInt16
  localPrefixes : List String
  remoteRoutes : List DiscoveredRoute
  underlayIpv4Exclusions : List String
deriving DecidableEq, Repr

/-- `DiscoveredCandidate`, as far as it is checked. -/
structure DiscoveredCandidate where
  candidateId : String
  peerSiteId : String
  peerAttachmentId : String
  kind : String
  endpoint : String
  nodePoolId : String
  transportNodeId : String
  transportNodeKeyId : String
  serverName : String
  serverCertSha256 : String
  transportPreset : String
  authorization : CorePolicyRef
deriving DecidableEq, Repr

/-- `DiscoveredInbound`. -/
structure DiscoveredInbound where
  candidateId : String
  peerAttachmentId : String
  endpoint : String
  nodePoolId : String
  transportNodeId : String
  transportNodeKeyId : String
  serverName : String
  serverCertSha256 : String
  transportPreset : String
  authorizationGeneration : ℕ
deriving DecidableEq, Repr

/-- `DiscoveredControlReport`. -/
structure DiscoveredControlReport where
  schemaVersion : ℕ
  isOk : Bool
  tenantId : String
  segmentId : String
  siteId : String
  attachmentId : String
  deviceId : String
  deviceKeyId : String
  segmentGeneration : ℕ
  projectionGeneration : ℕ
  routePolicy : CorePolicyRef
  netd : DiscoveredNetd
  outboundCandidates : List DiscoveredCandidate
  inboundExpected : List DiscoveredInbound
deriving DecidableEq, Repr

/-- The part of `RuntimeConfiguration` that a report is bound to. The identifiers are in the form
in which a report has them. -/
structure RuntimeConfiguration where
  projectionId : String
  segmentId : String
  attachmentId : String
  segmentGeneration : ℕ
  projectionGeneration : ℕ
  projectionContentHash : String
deriving DecidableEq, Repr

/-- The part of `DeviceIdentity` that a report is bound to. -/
structure DeviceIdentity where
  tenantId : Option String
  siteId : Option String
  deviceId : String
  deviceKeyId : String
deriving DecidableEq, Repr

/-! ## The checks of the synchronizer -/

/-- `validate_hex`. -/
def validateHex (value : String) (bytes : ℕ) (label : String) : Except String Unit :=
  refuseIf (!NetdV2.isHex value (2 * bytes)) (label ++ " must be canonical lowercase hexadecimal")

/-- A name and a preset that a transport can have. -/
def transportIsKnown (serverName transportPreset : String) : Bool :=
  serverName ≠ "" && serverName.utf8ByteSize ≤ 253
    && (transportPreset = "current" || transportPreset = "bbr_v1" || transportPreset = "aggressive")

/-- `validate_discovered_candidate`. What `SocketAddr` takes is a parameter. -/
def validateDiscoveredCandidate (isSocketAddr : String → Bool) (candidate : DiscoveredCandidate) :
    Except String Unit := do
  validateHex candidate.candidateId 16 "candidate id"
  validateHex candidate.peerSiteId 16 "peer Site id"
  validateHex candidate.peerAttachmentId 16 "peer attachment id"
  validateHex candidate.nodePoolId 16 "node pool id"
  validateHex candidate.transportNodeId 16 "transport node id"
  validateHex candidate.transportNodeKeyId 16 "transport node key id"
  validateHex candidate.serverCertSha256 32 "server certificate pin"
  refuseIf (!isSocketAddr candidate.endpoint) "invalid socket address syntax"
  refuseIf (candidate.kind ≠ "direct" && candidate.kind ≠ "relay")
    ("Core discovery returned invalid outbound candidate kind: " ++ candidate.kind)
  refuseIf (candidate.serverName = "" || 253 < candidate.serverName.utf8ByteSize)
    "Core discovery returned invalid outbound candidate server_name"
  refuseIf (candidate.transportPreset ≠ "current" && candidate.transportPreset ≠ "bbr_v1"
      && candidate.transportPreset ≠ "aggressive")
    ("Core discovery returned unsupported outbound transport preset: " ++ candidate.transportPreset)
  validateHex candidate.authorization.policyId 16 "outbound policy id"
  refuseIf (candidate.authorization.generation = 0)
    "Core discovery returned an outbound candidate with zero policy generation"
  validateHex candidate.authorization.contentHash 32 "outbound policy content hash"

/-- The checks of one expected inbound peer. -/
def validateDiscoveredInbound (isSocketAddr : String → Bool) (inbound : DiscoveredInbound) :
    Except String Unit := do
  validateHex inbound.candidateId 16 "inbound candidate id"
  validateHex inbound.peerAttachmentId 16 "inbound attachment id"
  validateHex inbound.nodePoolId 16 "inbound node pool id"
  validateHex inbound.transportNodeId 16 "inbound transport node id"
  validateHex inbound.transportNodeKeyId 16 "inbound transport node key id"
  validateHex inbound.serverCertSha256 32 "inbound certificate pin"
  refuseIf (!isSocketAddr inbound.endpoint) "invalid socket address syntax"
  refuseIf (!transportIsKnown inbound.serverName inbound.transportPreset
      || inbound.authorizationGeneration = 0)
    "Core discovery returned an invalid inbound expectation"

/-- The first check of `validate_discovered_control`: the report is about this delivery and this
device, and its sizes are within the limits of the synchronizer. -/
def DiscoveredControlReport.isBound (report : DiscoveredControlReport)
    (configuration : RuntimeConfiguration) (identity : DeviceIdentity) : Bool :=
  report.schemaVersion = 1 && report.isOk
    && identity.tenantId = some report.tenantId
    && report.segmentId = configuration.segmentId
    && identity.siteId = some report.siteId
    && report.attachmentId = configuration.attachmentId
    && report.deviceId = identity.deviceId
    && report.deviceKeyId = identity.deviceKeyId
    && report.segmentGeneration = configuration.segmentGeneration
    && report.projectionGeneration = configuration.projectionGeneration
    && report.routePolicy.policyId = configuration.projectionId
    && report.routePolicy.generation = configuration.projectionGeneration
    && report.routePolicy.contentHash = configuration.projectionContentHash
    && (20000 ≤ report.netd.tableId.toNat && report.netd.tableId.toNat ≤ 20999)
    && 576 ≤ report.netd.maxInnerMtu
    && report.netd.localPrefixes.length ≤ 65536
    && report.netd.remoteRoutes.length ≤ 65536
    && report.netd.underlayIpv4Exclusions.length ≤ 512
    && report.outboundCandidates.length ≤ 256
    && report.inboundExpected.length ≤ 256

/-- `validate_discovered_control`. -/
def validateDiscoveredControl (isSocketAddr : String → Bool) (report : DiscoveredControlReport)
    (configuration : RuntimeConfiguration) (identity : DeviceIdentity) : Except String Unit := do
  refuseIf (!report.isBound configuration identity)
    "Candy Core discovery report is not bound to the Cloud delivery"
  refuseIf (parseAddress report.netd.overlayRouterIpv4.toList).isNone
    "Core discovery returned an invalid overlay router address"
  report.outboundCandidates.forM (validateDiscoveredCandidate isSocketAddr)
  report.inboundExpected.forM (validateDiscoveredInbound isSocketAddr)

/-! ## The declaration -/

/-- `NetdRoute` and `NetdExclusion`. -/
structure Entry where
  ipv4Prefix : String
  kind : String
deriving DecidableEq, Repr

/-- `NetdDeclaration`, with the firewall that is always declared. -/
structure NetdDeclaration where
  tableId : UInt32
  overlayRouterIpv4 : String
  effectiveMtu : UInt16
  routes : List Entry
  exclusions : List Entry
  firewall : FirewallPolicy
deriving DecidableEq, Repr

/-- `SocketAddr`. Of an address of the other family nothing is used. -/
inductive SocketAddr where
  | v4 (address : UInt32) (port : UInt16)
  | v6
deriving DecidableEq, Repr

/-- `usable_cloud_endpoint`, for an address of this family. -/
def usableCloudEndpoint (address : UInt32) (port : UInt16) : Bool :=
  address ≠ 0 && !(224 ≤ address.toNat / 2 ^ 24 && address.toNat / 2 ^ 24 ≤ 239) && port ≠ 0

/-- The addresses of the usable endpoints. -/
def usableAddresses (endpoints : List SocketAddr) : List UInt32 :=
  endpoints.filterMap fun
    | .v4 address port => if usableCloudEndpoint address port then some address else none
    | .v6 => none

/-- The prefix of one host. -/
def hostText (address : UInt32) : String := String.ofList (addressText address ++ "/32".toList)

/-- Neighbours that are equal are one: `Vec::dedup`. -/
def dedupSorted : List String → List String
  | [] => []
  | [a] => [a]
  | a :: b :: rest => if a = b then dedupSorted (b :: rest) else a :: dedupSorted (b :: rest)

/-- `cloud_ipv4_exclusions`. -/
def cloudIpv4Exclusions (endpoints : List SocketAddr) : Except String (List String) :=
  let addresses := dedupSorted (((usableAddresses endpoints).map hostText).insertionSort (· ≤ ·))
  if addresses = [] then
    .error "authenticated Cloud API host has no usable IPv4 address for netd exclusion"
  else .ok addresses

/-- `netd_prefix_sort_key`: the position of the pair of the address and the length. What is not a
prefix comes last. -/
def netdPrefixSortKey (text : String) : ℕ :=
  let last := 0xffffffff * 256 + 255
  match splitOnce '/' text.toList with
  | none => last
  | some (address, length) =>
    match parseAddress address, parseU8 length with
    | some address, some length => address.toNat * 256 + length
    | _, _ => last

/-- The order of the entries of a declaration. -/
def Entry.le (a b : Entry) : Prop :=
  netdPrefixSortKey a.ipv4Prefix < netdPrefixSortKey b.ipv4Prefix
    ∨ (netdPrefixSortKey a.ipv4Prefix = netdPrefixSortKey b.ipv4Prefix ∧ a.kind ≤ b.kind)

instance : DecidableRel Entry.le := fun a b => by
  unfold Entry.le
  infer_instance

/-- `BTreeMap::insert` on the entries in the order of their prefixes as text. -/
def insertEntry (text kind : String) : List Entry → List Entry
  | [] => [⟨text, kind⟩]
  | entry :: rest =>
    if text = entry.ipv4Prefix then ⟨text, kind⟩ :: rest
    else if text < entry.ipv4Prefix then ⟨text, kind⟩ :: entry :: rest
    else entry :: insertEntry text kind rest

/-- The kind under which a remote route is declared. -/
def routeKindText (kind : String) : String :=
  if kind = "remote-egress" then "remote-egress"
  else if kind = "remote-egress-gateway" then "remote-egress-gateway"
  else "remote"

/-- The routes of a declaration, before they are sorted. -/
def DiscoveredNetd.routes (netd : DiscoveredNetd) : List Entry :=
  netd.localPrefixes.map (⟨·, "local"⟩)
    ++ netd.remoteRoutes.map fun route => ⟨route.destination, routeKindText route.kind⟩

/-- `build_netd_declaration`. -/
def buildNetdDeclaration (discovery : DiscoveredControlReport) (cloudEndpoints : List SocketAddr) :
    Except String NetdDeclaration := do
  let hubs := discovery.netd.underlayIpv4Exclusions.foldl
    (fun exclusions text => insertEntry text "hub-endpoint" exclusions) []
  let exclusions := (← cloudIpv4Exclusions cloudEndpoints).foldl
    (fun exclusions text => insertEntry text "cloud-api" exclusions) hubs
  return {
    tableId := discovery.netd.tableId
    overlayRouterIpv4 := discovery.netd.overlayRouterIpv4
    effectiveMtu := discovery.netd.maxInnerMtu
    routes := discovery.netd.routes.insertionSort Entry.le
    exclusions := exclusions.insertionSort Entry.le
    firewall := {
      allowForward := true
      clampTcpMss := true
      requireIpv4Forwarding := true
      manageRpFilter := true } }

/-! ## The file -/

/-- The two digits of a control character. -/
def hexPair (n : ℕ) : List Char := [Nat.digitChar (n / 16), Nat.digitChar (n % 16)]

/-- A character inside a string of JSON. -/
def jsonChar (c : Char) : List Char :=
  if c = '"' then ['\\', '"']
  else if c = '\\' then ['\\', '\\']
  else if c.toNat = 8 then ['\\', 'b']
  else if c.toNat = 9 then ['\\', 't']
  else if c.toNat = 10 then ['\\', 'n']
  else if c.toNat = 12 then ['\\', 'f']
  else if c.toNat = 13 then ['\\', 'r']
  else if c.toNat < 32 then "\\u00".toList ++ hexPair c.toNat
  else [c]

def jsonString (text : String) : List Char := '"' :: (text.toList.flatMap jsonChar ++ ['"'])

def jsonNumber (n : ℕ) : List Char := Nat.toDigits 10 n

def jsonBool (b : Bool) : List Char := if b then "true".toList else "false".toList

/-- An object with these fields; the names need no escapes. -/
def jsonObject (fields : List (String × List Char)) : List Char :=
  '\x7b' :: ([','].intercalate (fields.map fun field =>
    '"' :: (field.1.toList ++ ('"' :: ':' :: field.2))) ++ ['\x7d'])

def jsonArray (values : List (List Char)) : List Char := '[' :: ([','].intercalate values ++ [']'])

def Entry.json (entry : Entry) : List Char :=
  jsonObject [("prefix", jsonString entry.ipv4Prefix), ("kind", jsonString entry.kind)]

/-- `serde_json::to_vec` of a declaration. -/
def NetdDeclaration.json (d : NetdDeclaration) : List Char :=
  jsonObject [
    ("table_id", jsonNumber d.tableId.toNat),
    ("overlay_router_ipv4", jsonString d.overlayRouterIpv4),
    ("effective_mtu", jsonNumber d.effectiveMtu.toNat),
    ("routes", jsonArray (d.routes.map Entry.json)),
    ("exclusions", jsonArray (d.exclusions.map Entry.json)),
    ("firewall", jsonObject [
      ("allow_forward", jsonBool d.firewall.allowForward),
      ("clamp_tcp_mss", jsonBool d.firewall.clampTcpMss),
      ("require_ipv4_forwarding", jsonBool d.firewall.requireIpv4Forwarding),
      ("manage_rp_filter", jsonBool d.firewall.manageRpFilter)])]

/-- The length of a text in bytes. -/
def utf8Length (text : List Char) : ℕ := (text.map Char.utf8Size).sum

/-! ## The agent -/

/-- `MAX_DECLARATION_BYTES`. -/
def maxDeclarationBytes : ℕ := 8 * 1024 * 1024

/-- The value of an option, or an error. -/
def orFail {α : Type} (value : Option α) (error : String) : Except String α :=
  match value with
  | some a => .ok a
  | none => .error error

/-- One part of an address, for `parse_ipv4`. -/
def parseAgentOctet (part : List Char) : Except String ℕ :=
  if part = [] ∨ (1 < part.length ∧ part.head? = some '0') then .error "non-canonical IPv4 address"
  else orFail (parseU8 part) "invalid IPv4 octet"

/-- `parse_ipv4`. -/
def parseIpv4 (value : String) : Except String UInt32 :=
  match value.toList.splitOn '.' with
  | [a, b, c, d] => do
    return addressOf (← parseAgentOctet a) (← parseAgentOctet b) (← parseAgentOctet c)
      (← parseAgentOctet d)
  | _ => .error "invalid IPv4 address"

/-- `parse_prefix`. -/
def parsePrefix (value : String) : Except String Ipv4Prefix := do
  let (address, length) ← orFail (splitOnce '/' value.toList) "CIDR prefix is required"
  let prefixLen ← orFail (parseU8 length) "invalid CIDR prefix length"
  let address ← parseIpv4 (String.ofList address)
  match Ipv4Prefix.new address (UInt8.ofNat prefixLen) with
  | .ok p => return p
  | .error _ => throw "CIDR is not canonical or is invalid"

/-- `route_kind`. -/
def routeKind (value : String) : Except String RouteKind :=
  if value = "local" then .ok .localSite
  else if value = "remote" then .ok .remote
  else if value = "remote-egress" then .ok .remoteEgress
  else if value = "remote-egress-gateway" then .ok .remoteEgressGateway
  else .error "unknown route kind"

/-- `underlay_kind`. -/
def underlayKind (value : String) : Except String UnderlayKind :=
  if value = "cloud-api" ∨ value = "cloud_api" then .ok .cloudApi
  else if value = "hub-endpoint" ∨ value = "hub_endpoint" then .ok .hubEndpoint
  else if value = "management" then .ok .management
  else .error "unknown underlay kind"

def parseRoute (entry : Entry) : Except String RouteDeclaration := do
  return ⟨← parsePrefix entry.ipv4Prefix, ← routeKind entry.kind⟩

def parseExclusion (entry : Entry) : Except String UnderlayExclusion := do
  return ⟨← parsePrefix entry.ipv4Prefix, ← underlayKind entry.kind⟩

/-- `parse_declaration` of a file of this length with these fields. -/
def parseDeclaration (length : ℕ) (input : NetdDeclaration) : Except String PrepareDeclaration := do
  refuseIf (length = 0 || maxDeclarationBytes < length) "SD-WAN declaration size is invalid"
  let declaration : PrepareDeclaration := {
    tableId := input.tableId
    overlayRouterIpv4 := ← parseIpv4 input.overlayRouterIpv4
    effectiveMtu := input.effectiveMtu
    routes := ← input.routes.mapM parseRoute
    exclusions := ← input.exclusions.mapM parseExclusion
    firewall := input.firewall }
  match declaration.validate with
  | .ok () => return declaration
  | .error _ => throw "SD-WAN declaration failed protocol validation"

end CandyRuntime.CloudSync.Declaration
