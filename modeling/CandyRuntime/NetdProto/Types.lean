import CandyRuntime.Lib.Bytes
import Mathlib.Data.List.Sort

/-!
# The netd protocol: data model and validation

The value types of `candy-netd-proto` and the checks it makes on them: prefixes, route and
exclusion declarations, lease owners, operations and requests.

An IPv4 address (`[u8; 4]` in the source) is kept as its big-endian 32-bit value, so that
the byte-wise comparisons and masks of the source are comparisons and masks of `UInt32`.
-/

namespace CandyRuntime.NetdProto

open Lib

/-! ## Constants and errors -/

def netdProtocolVersion : ℕ := 1
def candyTableMin : ℕ := 20000
def candyTableMax : ℕ := 20999
def maxNetdFrameLen : ℕ := 2 * 1024 * 1024
def maxRoutes : ℕ := 65536
def maxExclusions : ℕ := 64

/-- `NetdProtocolError`. -/
inductive NetdProtocolError where
  | frameSize
  | unsupportedVersion
  | unknownEnum
  | malformed
  | trailingBytes
  | invalidRequest
  | invalidOwner
  | invalidDeclaration
deriving DecidableEq, Repr

/-- A check of the source: the error when the refused condition holds. -/
def refuseIf {ε : Type} (c : Bool) (e : ε) : Except ε Unit :=
  if c then .error e else .ok ()

@[simp] theorem refuseIf_eq_ok {ε : Type} (c : Bool) (e : ε) :
    refuseIf c e = .ok () ↔ c = false := by
  cases c <;> simp [refuseIf]

theorem bind_eq_ok {ε α β : Type} {m : Except ε α} {f : α → Except ε β} {b : β}
    (h : (m >>= f) = .ok b) : ∃ a, m = .ok a ∧ f a = .ok b := by
  cases m with
  | error e => simp [bind, Except.bind] at h
  | ok a => exact ⟨a, rfl, h⟩

/-! ## Prefixes -/

/-- `Ipv4Prefix`: a network address and a prefix length. -/
structure Ipv4Prefix where
  network : UInt32
  prefixLen : UInt8
deriving DecidableEq, Repr

/-- `prefix_mask`. The subtraction and the shift wrap as unchecked machine arithmetic does;
every caller that has checked `prefixLen ≤ 32` stays inside the range. -/
def prefixMask (prefixLen : UInt8) : UInt32 :=
  if prefixLen = 0 then 0
  else if prefixLen = 32 then 0xffffffff
  else 0xffffffff <<< (32 - prefixLen).toUInt32

namespace Ipv4Prefix

/-- `Ipv4Prefix::new`. -/
def new (network : UInt32) (prefixLen : UInt8) : Except NetdProtocolError Ipv4Prefix :=
  if 32 < prefixLen then .error .invalidDeclaration
  else if network &&& ~~~ prefixMask prefixLen ≠ 0 then .error .invalidDeclaration
  else .ok { network, prefixLen }

/-- The prefixes `Ipv4Prefix::new` accepts: no host bits, at most 32 network bits. -/
def Canonical (p : Ipv4Prefix) : Prop := new p.network p.prefixLen = .ok p

instance (p : Ipv4Prefix) : Decidable p.Canonical := by
  unfold Canonical
  infer_instance

/-- `Ipv4Prefix::contains`. -/
def contains (p : Ipv4Prefix) (address : UInt32) : Bool :=
  address &&& prefixMask p.prefixLen == p.network

/-- `Ipv4Prefix::overlaps`. -/
def overlaps (p q : Ipv4Prefix) : Bool := p.contains q.network || q.contains p.network

/-- The position of a prefix in the order of the pairs `(network, prefix_len)`. -/
def rank (p : Ipv4Prefix) : ℕ := p.network.toNat * 256 + p.prefixLen.toNat

instance : LT Ipv4Prefix where
  lt p q := p.rank < q.rank

instance (p q : Ipv4Prefix) : Decidable (p < q) := inferInstanceAs (Decidable (p.rank < q.rank))

instance : LE Ipv4Prefix where
  le p q := p.rank ≤ q.rank

instance (p q : Ipv4Prefix) : Decidable (p ≤ q) := inferInstanceAs (Decidable (p.rank ≤ q.rank))

theorem rank_injective : Function.Injective rank := by
  rintro ⟨n, l⟩ ⟨n', l'⟩ h
  have hl := l.toNat_lt
  have hl' := l'.toNat_lt
  simp only [rank] at h
  have hn : n = n' := UInt32.toNat_inj.mp (by omega)
  have hlen : l = l' := UInt8.toNat_inj.mp (by omega)
  rw [hn, hlen]

end Ipv4Prefix

/-- Every entry is followed by a strictly greater one: `windows(2).all(|pair| a < b)`. -/
def strictlySortedBy {α : Type} (key : α → ℕ) : List α → Bool
  | [] => true
  | [_] => true
  | a :: b :: rest => decide (key a < key b) && strictlySortedBy key (b :: rest)

/-! ## Declarations -/

/-- `RouteKind`. -/
inductive RouteKind where
  | localSite
  | remote
  | remoteEgress
  | remoteEgressGateway
deriving DecidableEq, Repr

/-- The discriminant of a route kind. -/
def RouteKind.code : RouteKind → ℕ
  | .localSite => 1
  | .remote => 2
  | .remoteEgress => 3
  | .remoteEgressGateway => 4

/-- `RouteKind::try_from`. -/
def RouteKind.tryFrom (value : ℕ) : Except NetdProtocolError RouteKind :=
  match value with
  | 1 => .ok .localSite
  | 2 => .ok .remote
  | 3 => .ok .remoteEgress
  | 4 => .ok .remoteEgressGateway
  | _ => .error .unknownEnum

/-- `UnderlayKind`. -/
inductive UnderlayKind where
  | cloudApi
  | hubEndpoint
  | management
deriving DecidableEq, Repr

/-- The discriminant of an underlay kind. -/
def UnderlayKind.code : UnderlayKind → ℕ
  | .cloudApi => 1
  | .hubEndpoint => 2
  | .management => 3

/-- `UnderlayKind::try_from`. -/
def UnderlayKind.tryFrom (value : ℕ) : Except NetdProtocolError UnderlayKind :=
  match value with
  | 1 => .ok .cloudApi
  | 2 => .ok .hubEndpoint
  | 3 => .ok .management
  | _ => .error .unknownEnum

/-- `RouteDeclaration`. -/
structure RouteDeclaration where
  ipv4Prefix : Ipv4Prefix
  kind : RouteKind
deriving DecidableEq, Repr

/-- `UnderlayExclusion`. -/
structure UnderlayExclusion where
  ipv4Prefix : Ipv4Prefix
  kind : UnderlayKind
deriving DecidableEq, Repr

/-- `FirewallPolicy`. -/
structure FirewallPolicy where
  allowForward : Bool
  clampTcpMss : Bool
  requireIpv4Forwarding : Bool
  manageRpFilter : Bool
deriving DecidableEq, Repr

/-- `PrepareDeclaration`. -/
structure PrepareDeclaration where
  tableId : UInt32
  overlayRouterIpv4 : UInt32
  effectiveMtu : UInt16
  routes : List RouteDeclaration
  exclusions : List UnderlayExclusion
  firewall : FirewallPolicy
deriving DecidableEq, Repr

/-- `has_prefix_overlap`: sort the address ranges and look for one that starts no later than
its predecessor ends. -/
def hasPrefixOverlap (prefixes : List Ipv4Prefix) : Bool :=
  let ranges := (prefixes.map fun p =>
    (p.network.toNat, (p.network ||| ~~~ prefixMask p.prefixLen).toNat)).insertionSort
      (fun a b => a.1 < b.1 ∨ (a.1 = b.1 ∧ a.2 ≤ b.2))
  sweep ranges none
where
  /-- The sweep over the sorted ranges; `furthestEnd` is the end of the previous one. -/
  sweep : List (ℕ × ℕ) → Option ℕ → Bool
    | [], _ => false
    | (start, stop) :: rest, furthestEnd =>
      if furthestEnd.any (fun previousEnd => decide (start ≤ previousEnd)) then true
      else sweep rest (some stop)

namespace PrepareDeclaration

/-- `PrepareDeclaration::validate`. -/
def validate (d : PrepareDeclaration) : Except NetdProtocolError Unit := do
  refuseIf (decide (¬ (candyTableMin ≤ d.tableId.toNat ∧ d.tableId.toNat ≤ candyTableMax))
    || decide (¬ (576 ≤ d.effectiveMtu ∧ d.effectiveMtu ≤ 1400))
    || d.routes.isEmpty
    || decide (d.routes.length > maxRoutes)
    || d.exclusions.isEmpty
    || decide (d.exclusions.length > maxExclusions)) .invalidDeclaration
  refuseIf (!strictlySortedBy (fun r => r.ipv4Prefix.rank * 8 + r.kind.code) d.routes
    || !strictlySortedBy (fun e => e.ipv4Prefix.rank * 8 + e.kind.code) d.exclusions
    || d.routes.any (fun r => r.ipv4Prefix.prefixLen == 0 && r.kind != .remoteEgress)
    || d.exclusions.any (fun e => e.ipv4Prefix.prefixLen == 0)
    || hasPrefixOverlap ((d.routes.filter (·.kind != .remoteEgress)).map (·.ipv4Prefix))
    || hasPrefixOverlap (d.exclusions.map (·.ipv4Prefix))
    || d.routes.any (fun r => r.kind != .remoteEgress
        && d.exclusions.any (fun e => r.ipv4Prefix.overlaps e.ipv4Prefix))
    || d.routes.any (fun r => r.kind != .remoteEgress
        && r.ipv4Prefix.contains d.overlayRouterIpv4)
    || d.exclusions.any (fun e => e.ipv4Prefix.contains d.overlayRouterIpv4)
    || d.overlayRouterIpv4 == 0
    || decide ((224 : UInt32) ≤ d.overlayRouterIpv4 >>> 24)) .invalidDeclaration

/-- Every prefix of the declaration was built by `Ipv4Prefix::new`. -/
def Canonical (d : PrepareDeclaration) : Prop :=
  (∀ r ∈ d.routes, r.ipv4Prefix.Canonical) ∧ ∀ e ∈ d.exclusions, e.ipv4Prefix.Canonical

instance (d : PrepareDeclaration) : Decidable d.Canonical := by
  unfold Canonical
  infer_instance

end PrepareDeclaration

/-! ## Owners, operations and requests -/

/-- An instance identifier, `[u8; 16]`. -/
abbrev InstanceId := Vector UInt8 16

/-- The all-zero identifier, which no owner may carry. -/
def InstanceId.zero : InstanceId := Vector.replicate 16 0

/-- `LeaseOwner`. -/
structure LeaseOwner where
  instanceId : InstanceId
  pid : UInt32
  generation : UInt64
  leaseDeadlineMonoMs : UInt64
deriving DecidableEq, Repr

/-- `LeaseOwner::validate`. -/
def LeaseOwner.validate (o : LeaseOwner) : Except NetdProtocolError Unit :=
  refuseIf (o.instanceId == InstanceId.zero || o.pid == 0 || o.generation == 0
    || o.leaseDeadlineMonoMs == 0) .invalidOwner

/-- `NetdOperation`. -/
inductive NetdOperation where
  | prepare (declaration : PrepareDeclaration)
  | commit
  | rollback
  | status
  | leaseRenew
  | mtuUpdate (effectiveMtu : UInt16)
  | suspend
  | reconfigure (declaration : PrepareDeclaration)
  | resume
  | drain (nowMonoMs : UInt64)
  | withdrawPrefixes (prefixes : List Ipv4Prefix)
  | policyUpdate (declaration : PrepareDeclaration)
deriving DecidableEq, Repr

/-- `NetdOperation::tag`. -/
def NetdOperation.tag : NetdOperation → ℕ
  | .prepare _ => 1
  | .commit => 2
  | .rollback => 3
  | .status => 4
  | .leaseRenew => 5
  | .mtuUpdate _ => 6
  | .suspend => 7
  | .reconfigure _ => 8
  | .resume => 9
  | .drain _ => 10
  | .withdrawPrefixes _ => 11
  | .policyUpdate _ => 12

/-- `NetdRequest`. -/
structure NetdRequest where
  requestId : UInt64
  owner : LeaseOwner
  operation : NetdOperation
deriving DecidableEq, Repr

/-- The checks `NetdRequest::validate` makes on the operation itself. -/
def NetdOperation.validate : NetdOperation → Except NetdProtocolError Unit
  | .prepare d | .reconfigure d | .policyUpdate d => d.validate
  | .mtuUpdate mtu => refuseIf (decide (¬ (576 ≤ mtu ∧ mtu ≤ 1400))) .invalidDeclaration
  | .withdrawPrefixes prefixes =>
    refuseIf (!strictlySortedBy Ipv4Prefix.rank prefixes
      || prefixes.any (fun p => decide (32 < p.prefixLen))) .invalidRequest
  | _ => .ok ()

/-- `NetdRequest::validate`. -/
def NetdRequest.validate (r : NetdRequest) : Except NetdProtocolError Unit := do
  refuseIf (r.requestId == 0) .invalidRequest
  r.owner.validate
  r.operation.validate

end CandyRuntime.NetdProto
