import CandyRuntime.NetdV1.Runs

/-!
# The kernel resources of a v1 transaction

The kernel as the set of resources the logged backend calls left in it, and what a record
says about them:

* a record *owns* the resources its step bits stand for, in the table of its declaration;
* it *stages* those of its candidate: routes and firewall as long as there is a candidate,
  the policy rule only while the old declaration is drained.

`Covered` says that nothing in the kernel is unaccounted for. `Holds m d A` is the assertion
the operations are proved with: the record in memory is `m`, the stored one is `d`, both cover
the kernel, and the resources in `A` are gone.
-/

namespace CandyRuntime.NetdV1

open Lib Lib.Proc NetdProto

variable {r : TransactionRecord} {K : Resource → Bool}

/-! ## Resources -/

/-- What the backend installs. -/
inductive Resource where
  | policyRule (table : UInt32)
  | routes (table : UInt32)
  | firewall (table : UInt32)
  | link
  | sysctls
deriving DecidableEq, Repr

/-- The resources a call installs. -/
def BackendCall.adds : BackendCall → List Resource
  | .prepareLink _ => [.link]
  | .prepareRoutes d | .reconcileRoutes d _ => [.routes d.tableId]
  | .prepareFirewall d | .replaceFirewall _ d => [.firewall d.tableId]
  | .prepareSysctls _ _ => [.sysctls]
  | .installPolicyRule d => [.policyRule d.tableId]
  | _ => []

/-- The resources a call removes. -/
def BackendCall.removes : BackendCall → List Resource
  | .removeLink _ => [.link]
  | .removeRoutes d => [.routes d.tableId]
  | .removeFirewall d | .replaceFirewall d _ => [.firewall d.tableId]
  | .restoreSysctls _ _ => [.sysctls]
  | .removePolicyRule d => [.policyRule d.tableId]
  | _ => []

/-- The kernel after a call that took effect. -/
def BackendCall.effect (c : BackendCall) (K : Resource → Bool) : Resource → Bool := fun res =>
  decide (res ∈ c.adds) || (K res && !decide (res ∈ c.removes))

/-- The kernel after the logged calls. -/
def kernel : List (BackendCall × Bool) → Resource → Bool
  | [] => fun _ => false
  | (c, true) :: calls => c.effect (kernel calls)
  | (_, false) :: calls => kernel calls

/-! ## What a record accounts for -/

/-- The step bit that stands for a resource. -/
def Resource.step : Resource → UInt16
  | .policyRule _ => stepPolicyRule
  | .routes _ => stepRoutes
  | .firewall _ => stepFirewall
  | .link => stepLink
  | .sysctls => stepSysctls

/-- The resource belongs to a routing table, and that table is not the declaration's. -/
def Resource.foreign (declaration : PrepareDeclaration) : Resource → Prop
  | .policyRule t | .routes t | .firewall t => t ≠ declaration.tableId
  | .link | .sysctls => False

/-- The resources of the record's own declaration. -/
def Owned (r : TransactionRecord) (res : Resource) : Prop :=
  ¬ res.foreign r.declaration ∧ stepDone r.completedSteps res.step = true

/-- The resources of its candidate. -/
def Staged (r : TransactionRecord) : Resource → Prop
  | .policyRule t => r.phase = .draining ∧ ∃ c, r.recoveryCandidate = some c ∧ t = c.tableId
  | .routes t => ∃ c, r.recoveryCandidate = some c ∧ t = c.tableId
  | .firewall t => ∃ c, r.recoveryCandidate = some c ∧ t = c.tableId
  | .link => False
  | .sysctls => False

/-- The resources a clean-up of the record would remove. -/
def Accounted : Option TransactionRecord → Resource → Prop
  | none, _ => False
  | some r, res => Owned r res ∨ Staged r res

/-- Everything in the kernel is accounted for. -/
def Covered (o : Option TransactionRecord) (K : Resource → Bool) : Prop :=
  ∀ res, K res = true → Accounted o res

theorem covered_none : Covered none K ↔ ∀ res, K res = false := by
  constructor
  · intro h res
    by_contra hne
    exact h res (by simpa using hne)
  · intro h res hres
    rw [h res] at hres
    exact absurd hres (by simp)

/-- A call keeps the kernel covered when what it installs is accounted for. -/
theorem Covered.effect {o : Option TransactionRecord} {c : BackendCall} (h : Covered o K)
    (hadds : ∀ res ∈ c.adds, Accounted o res) : Covered o (c.effect K) := by
  intro res hres
  unfold BackendCall.effect at hres
  rw [Bool.or_eq_true, decide_eq_true_eq, Bool.and_eq_true] at hres
  rcases hres with hadd | ⟨hold, -⟩
  · exact hadds res hadd
  · exact h res hold

/-- Another record covers the kernel when it accounts for what is still there. -/
theorem Covered.mono {o o' : Option TransactionRecord} {A : Resource → Prop} (h : Covered o K)
    (habsent : ∀ res, A res → K res = false)
    (hsub : ∀ res, ¬ A res → Accounted o res → Accounted o' res) : Covered o' K := by
  intro res hres
  refine hsub res ?_ (h res hres)
  intro ha
  rw [habsent res ha] at hres
  exact absurd hres (by simp)

/-! ## The assertion and the rules of the calls -/

/-- The record in memory is `m`, the stored one `d`, both cover the kernel, and nothing of `A`
is in it. -/
structure Holds (m d : Option TransactionRecord) (A : Resource → Prop)
    (w : NetworkTransaction TransactionRecord) : Prop where
  record : w.record = m
  stored : w.stored = d
  memory : Covered m (kernel w.calls)
  disk : Covered d (kernel w.calls)
  absent : ∀ res, A res → kernel w.calls res = false

section Rules

variable {m d : Option TransactionRecord} {A : Resource → Prop}
  {w : NetworkTransaction TransactionRecord}

/-- A call that installs only what both records account for, and nothing of `A`. -/
theorem Holds.call {c : BackendCall} (h : Holds m d A w)
    (hm : ∀ res ∈ c.adds, Accounted m res) (hd : ∀ res ∈ c.adds, Accounted d res)
    (hA : ∀ res ∈ c.adds, ¬ A res) :
    wp (NetdV1.call c) (fun _ => Holds m d (fun res => A res ∨ (res ∈ c.removes ∧ res ∉ c.adds)))
      (fun _ => Holds m d A) (Holds m d A) w := by
  have hold : ∀ res, A res → c.effect (kernel w.calls) res = false := by
    intro res ha
    have hnot : res ∉ c.adds := fun hadd => hA res hadd ha
    simp [BackendCall.effect, hnot, h.absent res ha]
  have hgone : ∀ res, res ∈ c.removes ∧ res ∉ c.adds → c.effect (kernel w.calls) res = false := by
    rintro res ⟨hremoved, hnot⟩
    simp [BackendCall.effect, hnot, hremoved]
  rw [wp_call]
  refine ⟨?_, ?_, ?_⟩
  · intro _
    exact ⟨h.record, h.stored, h.memory.effect hm, h.disk.effect hd,
      fun res ha => ha.elim (hold res) (hgone res)⟩
  · intro applied _
    cases applied
    · exact ⟨h.record, h.stored, h.memory, h.disk, h.absent⟩
    · exact ⟨h.record, h.stored, h.memory.effect hm, h.disk.effect hd, hold⟩
  · intro _
    exact ⟨h.record, h.stored, h.memory, h.disk, h.absent⟩

/-- A store of a record that covers the kernel. -/
theorem Holds.store (h : Holds m d A w)
    (hcover : ∀ res, ¬ A res → Accounted m res → Accounted (some r) res) :
    wp (NetdV1.store exactFormat r) (fun _ => Holds m (some r) A)
      (fun _ w => Holds m d A w ∨ Holds m (some r) A w) (Holds m d A) w := by
  have hr : Covered (some r) (kernel w.calls) := h.memory.mono h.absent hcover
  change wp (writeJournal (some r)) _ _ _ w
  rw [wp_writeJournal]
  refine ⟨?_, ?_, ?_, ?_⟩
  · intro _
    exact ⟨h.record, rfl, h.memory, hr, h.absent⟩
  · intro _
    exact Or.inr ⟨h.record, rfl, h.memory, hr, h.absent⟩
  · intro _
    exact Or.inl ⟨h.record, h.stored, h.memory, h.disk, h.absent⟩
  · intro _
    exact ⟨h.record, h.stored, h.memory, h.disk, h.absent⟩

/-- A change of the record in memory that still covers the kernel, and its store. -/
theorem Holds.amend {f : TransactionRecord → TransactionRecord} (h : Holds (some r) d A w)
    (hcover : ∀ res, ¬ A res → Accounted (some r) res → Accounted (some (f r)) res) :
    wp (NetdV1.amend exactFormat f) (fun _ => Holds (some (f r)) (some (f r)) A)
      (fun _ w => Holds (some (f r)) d A w ∨ Holds (some (f r)) (some (f r)) A w)
      (Holds (some (f r)) d A) w := by
  have hset : Holds (some (f r)) d A { w with record := some (f r) } :=
    ⟨rfl, h.stored, h.memory.mono h.absent hcover, h.disk, h.absent⟩
  simp only [NetdV1.amend, current, setRecord, wp_bind, wp_get, h.record, wp_okOr_some, wp_modify]
  exact hset.store (fun _ _ hacc => hacc)

/-- A new record that is stored before it is kept in memory. -/
theorem Holds.replaceRecord (h : Holds m d A w)
    (hcover : ∀ res, ¬ A res → Accounted m res → Accounted (some r) res) :
    wp (NetdV1.replaceRecord exactFormat r) (fun _ => Holds (some r) (some r) A)
      (fun _ w => Holds m d A w ∨ Holds m (some r) A w) (Holds m d A) w := by
  rw [NetdV1.replaceRecord, wp_bind]
  refine wp_mono (h.store hcover) ?_ (fun _ _ he => he) (fun _ hc => hc)
  intro _ w' hw
  rw [setRecord, wp_modify]
  exact ⟨rfl, hw.stored, hw.disk, hw.disk, hw.absent⟩

theorem Holds.weaken {B : Resource → Prop} (h : Holds m d A w) (hB : ∀ res, B res → A res) :
    Holds m d B w :=
  ⟨h.record, h.stored, h.memory, h.disk, fun res ha => h.absent res (hB res ha)⟩

end Rules

end CandyRuntime.NetdV1
