import CandyRuntime.NetdProto.Types

/-!
# The durable record of a v1 network transaction

`TransactionRecord` and the small types around it, as `network.rs` declares them.
-/

namespace CandyRuntime.NetdV1

open NetdProto

/-! ## Completed steps -/

def stepLink : UInt16 := 0x1
def stepRoutes : UInt16 := 0x2
def stepFirewall : UInt16 := 0x4
def stepSysctls : UInt16 := 0x8
def stepLinkActive : UInt16 := 0x10
def stepPolicyRule : UInt16 := 0x20

/-- `steps & step != 0`. -/
def stepDone (steps step : UInt16) : Bool := steps &&& step != 0

theorem stepDone_or (s t step : UInt16) :
    stepDone (s ||| t) step = (stepDone s step || stepDone t step) := by
  have hdistrib : (s ||| t) &&& step = (s &&& step) ||| (t &&& step) := by
    apply UInt16.toBitVec_inj.1
    ext i
    simp [Bool.and_or_distrib_right]
  unfold stepDone
  rw [hdistrib, Bool.eq_iff_iff]
  simp only [bne_iff_ne, ne_eq, UInt16.or_eq_zero_iff, Bool.or_eq_true]
  tauto

/-- Clearing one step leaves the others. -/
theorem stepDone_clear {s t step : UInt16} (h : ~~~ t &&& step = step) :
    stepDone (s &&& ~~~ t) step = stepDone s step := by
  unfold stepDone
  rw [UInt16.and_assoc, h]

theorem stepDone_clear_self (s t : UInt16) : stepDone (s &&& ~~~ t) t = false := by
  unfold stepDone
  rw [UInt16.and_assoc, UInt16.not_and_self, UInt16.and_zero]
  rfl

theorem stepDone_of_clear {s t step : UInt16} (h : stepDone (s &&& ~~~ t) step = true) :
    stepDone s step = true := by
  unfold stepDone at *
  rw [bne_iff_ne] at *
  intro hzero
  apply h
  rw [UInt16.and_assoc, UInt16.and_comm (~~~ t), ← UInt16.and_assoc, hzero, UInt16.zero_and]

/-! ## Records -/

/-- `TransactionPhase`. -/
inductive TransactionPhase where
  | preparing
  | prepared
  | active
  | suspended
  | rollingBack
  | draining
deriving DecidableEq, Repr

/-- `SysctlKey`. -/
inductive SysctlKey where
  | ipv4Forward
  | allRpFilter
  | candyRpFilter
  | candyDisableIpv6
deriving DecidableEq, Repr

/-- The discriminant of a key. -/
def SysctlKey.code : SysctlKey → UInt8
  | .ipv4Forward => 1
  | .allRpFilter => 2
  | .candyRpFilter => 3
  | .candyDisableIpv6 => 4

/-- `SysctlChange`. -/
structure SysctlChange where
  key : SysctlKey
  original : UInt8
  applied : UInt8
deriving DecidableEq, Repr

/-- `TransactionRecord`. -/
structure TransactionRecord where
  owner : LeaseOwner
  declaration : PrepareDeclaration
  recoveryCandidate : Option PrepareDeclaration
  recoveryCandidateOwner : Option LeaseOwner
  phase : TransactionPhase
  completedSteps : UInt16
  sysctls : List SysctlChange
  drainDeadlineMonoMs : UInt64
  failedPrefixes : List Ipv4Prefix
deriving DecidableEq, Repr

/-! ## Errors -/

/-- `BackendStage`. -/
inductive BackendStage where
  | preflight
  | linkPrepare
  | routePrepare
  | firewallPrepare
  | sysctlPrepare
  | linkActivate
  | policyActivate
deriving DecidableEq, Repr

/-- `NetworkError`. -/
inductive NetworkError where
  | conflict
  | invalidTransition
  | backend
  | backendStage (stage : BackendStage)
  | journal
  | drainPending
deriving DecidableEq, Repr

/-- `SysctlKey::try_from`. -/
def SysctlKey.tryFrom (value : UInt8) : Except NetworkError SysctlKey :=
  if value = 1 then .ok .ipv4Forward
  else if value = 2 then .ok .allRpFilter
  else if value = 3 then .ok .candyRpFilter
  else if value = 4 then .ok .candyDisableIpv6
  else .error .journal

end CandyRuntime.NetdV1
