import CandyRuntime.NetdV2.State

/-!
# The kernel behind the v2 service

What the mutating calls of `InfrastructureBackend` do to the routing table and to the firewall
of a declaration, following their Linux implementation. A call is the list of the writes it
makes, in order, so that a call that fails or is interrupted has made the first few of them.

Policy rules, sysctls and the device are not part of the kernel here: no route or firewall
table depends on them.
-/

namespace CandyRuntime.NetdV2

open NetdProto NetdV1

/-! ## Routes and firewall tables -/

/-- The kinds of route the backend installs: through the device, rejecting, or falling through
to the next table. -/
inductive RouteType where
  | unicast
  | unreachable
  | throw
deriving DecidableEq, Repr

/-- The routes of each table, and the declaration each firewall table was generated from. -/
structure Kernel where
  route : UInt32 → Ipv4Prefix → Option RouteType
  firewall : UInt32 → Option PrepareDeclaration

namespace Kernel

/-- Nothing is installed. -/
def empty : Kernel := { route := fun _ _ => none, firewall := fun _ => none }

end Kernel

/-- One write of a route or of a firewall table. -/
inductive KernelWrite where
  | route (table : UInt32) (p : Ipv4Prefix) (value : Option RouteType)
  | firewall (table : UInt32) (value : Option PrepareDeclaration)
deriving DecidableEq, Repr

/-- The kernel after one write. -/
def KernelWrite.apply : KernelWrite → Kernel → Kernel
  | .route table p value, K =>
    { K with route := fun t q => if t = table ∧ q = p then value else K.route t q }
  | .firewall table value, K =>
    { K with firewall := fun t => if t = table then value else K.firewall t }

/-- The kernel after a list of writes. -/
def Kernel.after (K : Kernel) (writes : List KernelWrite) : Kernel :=
  writes.foldl (fun K w => w.apply K) K

/-! ## The plan of a declaration -/

namespace Declared

variable (d : PrepareDeclaration)

/-- `LinuxNetworkPlan::remote_routes`. -/
def remoteRoutes : List Ipv4Prefix :=
  (d.routes.filter (fun r => r.kind == .remote || r.kind == .remoteEgress
    || r.kind == .remoteEgressGateway)).map (·.ipv4Prefix)

/-- `LinuxNetworkPlan::local_prefixes`. -/
def localPrefixes : List Ipv4Prefix :=
  (d.routes.filter (·.kind == .localSite)).map (·.ipv4Prefix)

/-- `LinuxNetworkPlan::throw_prefixes`; their order and repetitions make no difference. -/
def throwPrefixes : List Ipv4Prefix := localPrefixes d ++ d.exclusions.map (·.ipv4Prefix)

/-- `LinuxNetworkPlan::cleanup_throw_prefixes`. -/
def cleanupThrowPrefixes : List Ipv4Prefix := throwPrefixes d ++ remoteRoutes d

/-- The writes that install the throw routes. -/
def throwWrites : List KernelWrite :=
  (throwPrefixes d).map fun p => .route d.tableId p (some .throw)

end Declared

open Declared

/-- `apply_v2_forward_routes`; with `changed` only those remote routes are written. -/
def applyV2ForwardRoutes (d : PrepareDeclaration) (failed : List Ipv4Prefix)
    (changed : Option (List Ipv4Prefix)) : List KernelWrite :=
  ((remoteRoutes d).filter (fun p => changed.all (fun c => decide (p ∈ c)))).map (fun p =>
      .route d.tableId p (some (if p ∈ failed then .unreachable else .unicast)))
    ++ if changed.isNone then throwWrites d else []

/-! ## Backend calls -/

/-- The mutating calls of `InfrastructureBackend`. -/
inductive BackendCall where
  | rejectForwarding (d : PrepareDeclaration)
  | guardForwarding (d : PrepareDeclaration)
  | restoreForwardingWithFailures (d : PrepareDeclaration) (failed : List Ipv4Prefix)
  | updateFailedForwardPrefixes (d : PrepareDeclaration) (previous failed : List Ipv4Prefix)
  | updateLivePolicy (previous target : PrepareDeclaration) (failed : List Ipv4Prefix)
  | discardLivePolicy (previous target : PrepareDeclaration)
  | removeStaleForwarding (old retained : PrepareDeclaration)
  | prepareFirewall (d : PrepareDeclaration)
  | removeFirewall (d : PrepareDeclaration)
  | prepareSysctls (d : PrepareDeclaration) (changes : List SysctlChange)
  | restoreSysctls (d : PrepareDeclaration) (changes : List SysctlChange)
  | retireForwarding (d : PrepareDeclaration)
  | retireInfrastructure
  | stampInfrastructureOwnership (marker : String)
deriving DecidableEq, Repr

/-- The writes of `reject_forwarding`. -/
def rejectWrites (d : PrepareDeclaration) : List KernelWrite :=
  (remoteRoutes d).map (fun p => .route d.tableId p (some .unreachable)) ++ throwWrites d

/-- The writes of `remove_stale_forwarding`. -/
def removeStaleWrites (old retained : PrepareDeclaration) : List KernelWrite :=
  ((cleanupThrowPrefixes old).filter (fun p => decide (p ∉ cleanupThrowPrefixes retained))).map
    fun p => .route old.tableId p none

/-- The prefixes whose failure changes. -/
def changedFailures (previous failed : List Ipv4Prefix) : List Ipv4Prefix :=
  previous.filter (fun p => decide (p ∉ failed)) ++ failed.filter (fun p => decide (p ∉ previous))

/-- The writes of a call that succeeds. `guard_forwarding` keeps the installed policy. -/
def BackendCall.writes : BackendCall → List KernelWrite
  | .rejectForwarding d => rejectWrites d
  | .guardForwarding _ => []
  | .restoreForwardingWithFailures d failed => applyV2ForwardRoutes d failed none
  | .updateFailedForwardPrefixes d previous failed =>
    -- every changed prefix rejects before a recovered one forwards again
    applyV2ForwardRoutes d (previous ++ failed) (some (changedFailures previous failed))
      ++ applyV2ForwardRoutes d failed (some (changedFailures previous failed))
  | .updateLivePolicy previous target failed =>
    applyV2ForwardRoutes target failed none ++ [.firewall target.tableId (some target)]
      ++ removeStaleWrites previous target
  | .discardLivePolicy previous target =>
    removeStaleWrites target previous ++ applyV2ForwardRoutes previous (remoteRoutes previous) none
  | .removeStaleForwarding old retained => removeStaleWrites old retained
  | .prepareFirewall d => [.firewall d.tableId (some d)]
  | .removeFirewall d => [.firewall d.tableId none]
  | .retireForwarding d => (cleanupThrowPrefixes d).map fun p => .route d.tableId p none
  | .prepareSysctls .. | .restoreSysctls .. | .retireInfrastructure
  | .stampInfrastructureOwnership _ => []

/-- The writes of a call that stops after the first `done` of them. When the second half of
`update_failed_forward_prefixes` stops, the changed prefixes are made to reject again, which
can stop after `repaired` writes as well. -/
def BackendCall.partialWrites (c : BackendCall) (done repaired : ℕ) : List KernelWrite :=
  c.writes.take done ++ match c with
    | .updateFailedForwardPrefixes d previous failed =>
      let guarding :=
        applyV2ForwardRoutes d (previous ++ failed) (some (changedFailures previous failed))
      if guarding.length ≤ done then guarding.take repaired else []
    | _ => []

end CandyRuntime.NetdV2
