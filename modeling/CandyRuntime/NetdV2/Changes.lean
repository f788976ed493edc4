import CandyRuntime.NetdV2.Process

/-!
# What one write of the v2 journal can change

`Change` lists every state the service ever hands to `persist`, next to the state it was
computed from: one constructor for each place in the source, with the guards that stand in
front of it. Whatever is closed under `Change` therefore holds of every state in memory and
of every state in the journal (`process_keeps`, `recoverExpired_keeps`).

A change is labelled with the operation under which it is made, `none` being a call of
`recover_expired` from outside a request, and with the span of moments that lies between the
start of the step and the write.
-/

namespace CandyRuntime.NetdV2

open Lib Lib.Proc NetdProto NetdV1

variable {E : Surroundings} {op : Option Operation}

/-! ## Observed deaths -/

/-- The holder is a running process of this boot. -/
def Alive (m : Moment) (o : IoOwner) : Prop :=
  m.bootId = o.bootId ∧ ∃ stat, m.processes o.pid = some stat
    ∧ stat.state ≠ 'Z' ∧ stat.state ≠ 'X' ∧ some stat.startTicks = o.startTicks

/-- The service has seen that the holder is not alive, between the start of the step and the
moment `n`. -/
def FoundDead (E : Surroundings) (lo n : ℕ) (o : IoOwner) : Prop :=
  ∃ t, lo ≤ t ∧ t < n ∧ ¬ Alive (E.moment t) o

/-- Nobody holds the descriptor, as far as the service has seen by the moment `n`. -/
def Unheld (E : Surroundings) (lo n : ℕ) (o : Option IoOwner) : Prop :=
  ∀ holder, o = some holder → FoundDead E lo n holder

theorem FoundDead.mono {lo n m : ℕ} {o : IoOwner} (h : FoundDead E lo n o) (hle : n ≤ m) :
    FoundDead E lo m o := by
  obtain ⟨t, hlo, ht, hdead⟩ := h
  exact ⟨t, hlo, Nat.lt_of_lt_of_le ht hle, hdead⟩

/-! ## Changes of one record -/

/-- The operation commits the owner. -/
def Operation.commits (owner : ForwardOwner) : Operation → Prop
  | .forwardCommit o => o = owner
  | .forwardCommitAuthorized o _ => o = owner
  | _ => False

/-- The owner of a renewed lease: only its lease deadline moves. -/
structure Renews (old new : ForwardOwner) : Prop where
  domainId : old.domainId = new.domainId
  signedGeneration : old.signedGeneration = new.signedGeneration
  workerEpoch : old.workerEpoch = new.workerEpoch
  fencingToken : old.fencingToken = new.fencingToken
  authDeadline : old.authDeadlineMonoMs = new.authDeadlineMonoMs
  leaseDeadline : old.leaseDeadlineMonoMs ≤ new.leaseDeadlineMonoMs

/-- The changes a prepared record meets, as the forward record or as the candidate. -/
inductive PreparedChange (r : ForwardRecord) : ForwardRecord → Prop where
  | authorized (authority : ForwardAuthority) (hphase : r.phase = .prepared) :
      PreparedChange r { r with authority := some authority }
  | failures (revision : ℕ) (target : List Ipv4Prefix) (hphase : r.phase = .prepared)
      (hvalid : validateFailedPrefixes r.declaration target = .ok ())
      (hpending : r.pendingFailedPrefixes = none)
      (hrevision : r.pendingFailureRevision.getD r.failureRevision < revision) :
      PreparedChange r { r with failureRevision := revision, failedPrefixes := target }

/-- The changes of the forward record that leave the candidate alone; `candidate` says whether
there is one. -/
inductive ForwardChange (op : Option Operation) (candidate : Bool) (r : ForwardRecord) :
    ForwardRecord → Prop where
  | whilePrepared (r' : ForwardRecord) (h : PreparedChange r r') : ForwardChange op candidate r r'
  | prepared (hphase : r.phase = .preparing) :
      ForwardChange op candidate r { r with phase := .prepared }
  | activated (operation : Operation) (hop : op = some operation)
      (hcommits : operation.commits r.owner) (hphase : r.phase = .prepared)
      (hpolicy : r.pendingPolicy = none) :
      ForwardChange op candidate r { r with phase := .active }
  | guarded (hphase : r.phase = .active) (hpolicy : r.pendingPolicy = none) :
      ForwardChange op candidate r { r with phase := .guarded }
  | cancelled (p : PendingPolicy) (hpolicy : r.pendingPolicy = some p) :
      ForwardChange op candidate r { r with pendingPolicy := some { p with cancelled := true } }
  | fenced (p : PendingPolicy) (hpolicy : r.pendingPolicy = some p)
      (hcancelled : p.cancelled = true) :
      ForwardChange op candidate r { r with phase := .revoked, pendingPolicy := none }
  | revoked : ForwardChange op candidate r r.revoke
  | renewed (owner : ForwardOwner) (hvalid : owner.validate = .ok ())
      (howner : Renews r.owner owner) (hphase : r.phase ≠ .revoked) :
      ForwardChange op candidate r { r with owner }
  | failuresUnchanged (revision : ℕ) (hphase : r.phase = .active)
      (hpending : r.pendingFailedPrefixes = none)
      (hrevision : r.pendingFailureRevision.getD r.failureRevision < revision) :
      ForwardChange op candidate r { r with failureRevision := revision }
  | failuresIntended (owner : ForwardOwner) (revision : ℕ) (failed target : List Ipv4Prefix)
      (hop : op = some (.forwardFailedPrefixes owner revision failed))
      (hphase : r.phase = .active)
      (hvalid : validateFailedPrefixes r.declaration target = .ok ())
      (hpolicy : r.pendingPolicy = none) (hpending : r.pendingFailedPrefixes = none)
      (hrevision : r.pendingFailureRevision.getD r.failureRevision < revision) :
      ForwardChange op candidate r { r with
        pendingFailedPrefixes := some target
        pendingFailureRevision := some revision }
  | failuresSettled (revision : ℕ) (target : List Ipv4Prefix)
      (hpending : r.pendingFailedPrefixes = some target)
      (hrevision : r.pendingFailureRevision = some revision) :
      ForwardChange op candidate r (r.settleFailures target revision)
  | policyRecorded (revision generation : ℕ) (hash : String) (hphase : r.phase = .active)
      (hrevision : r.policyRevision < revision) (hgeneration : r.generation ≤ generation)
      (hhash : validPolicyHash hash = true) (hcandidate : candidate = false)
      (hpolicy : r.pendingPolicy = none) :
      ForwardChange op candidate r { r with
        policyRevision := revision
        policyGeneration := some generation
        policyHash := some hash }
  | policyIntended (owner : ForwardOwner) (p : PendingPolicy)
      (hop : op = some (.forwardPolicyUpdate owner p.revision p.generation
        p.authorizationSnapshotSha256 p.declaration))
      (hphase : r.phase = .active) (hcandidate : candidate = false)
      (hfailures : r.pendingFailedPrefixes = none)
      (hvalid : p.declaration.validate = .ok ())
      (hidentity : validateLivePolicyIdentity r.declaration p.declaration = .ok ())
      (hrevision : r.policyRevision < p.revision) (hgeneration : r.generation ≤ p.generation)
      (hhash : validPolicyHash p.authorizationSnapshotSha256 = true) :
      ForwardChange op candidate r { r with pendingPolicy := some p }
  | policyPublished (p : PendingPolicy) (hpolicy : r.pendingPolicy = some p)
      (hphase : r.phase = .active) (hcandidate : candidate = false)
      (hfailures : r.pendingFailedPrefixes = none) :
      ForwardChange op candidate r (r.publish p)

/-! ## Changes of the state -/

/-- The tests of `ForwardPrepare` on the record that a candidate would replace. -/
structure Admitted (s : State) (previous : ForwardRecord) (owner : ForwardOwner)
    (declaration : PrepareDeclaration) : Prop where
  domainId : previous.owner.domainId = owner.domainId
  generation : previous.owner.signedGeneration ≤ owner.signedGeneration
  sameDeclaration : owner.signedGeneration = previous.owner.signedGeneration →
    declaration = previous.declaration
  workerEpoch : previous.owner.workerEpoch ≤ owner.workerEpoch
  fencingToken : previous.owner.fencingToken < owner.fencingToken
  lastFencingToken : s.lastFencingToken < owner.fencingToken
  phase : previous.phase = .active ∨ previous.phase = .guarded ∨ previous.phase = .revoked
  tableId : previous.declaration.tableId = declaration.tableId

/-- One write of the journal: `s` is the state in memory, made since the moment `lo` and
before the moment `n`. -/
inductive Change (E : Surroundings) (op : Option Operation) (lo n : ℕ) (s : State) :
    State → Prop where
  | created (ifindex : UInt32) (bootId : String) (hpending : s.creationPending = true) :
      Change E op lo n s { s with ifindex := some ifindex, creationPending := false, bootId }
  | ensured (spec : InfraSpec) (marker bootId : String) (caller : InstanceId)
      (hop : op = some (.infraEnsure spec)) (hnone : s.spec = none) (hvalid : spec.validate = .ok ()) :
      Change E op lo n s { s with
        spec := some spec
        ownershipMarker := some marker
        creationPending := true
        administrator := some caller
        bootId }
  | repaired (spec : InfraSpec) (marker bootId : String) (hop : op = some (.infraEnsure spec))
      (hmissing : ∃ t, lo ≤ t ∧ t < n ∧ (E.moment t).interface = none)
      (hunheld : Unheld E lo n s.ioOwner) :
      Change E op lo n s { s.mapForward (fun r => { r with phase := .revoked }) with
        candidate := none
        creationPending := true
        ownershipMarker := some marker
        ifindex := none
        ioOwner := none
        bootId }
  | acquired (infraId : InstanceId) (generation : ℕ) (o : IoOwner)
      (hop : op = some (.infraAcquireIoFd infraId generation o.ioEpoch))
      (hunheld : Unheld E lo n s.ioOwner) (hepoch : s.lastIoEpoch < o.ioEpoch) :
      Change E op lo n s { s with ioOwner := some o, lastIoEpoch := o.ioEpoch }
  | released (hunheld : Unheld E lo n s.ioOwner) : Change E op lo n s { s with ioOwner := none }
  | retired (infraId : InstanceId) (generation : ℕ)
      (hop : op = some (.infraRetire infraId generation)) (hunheld : Unheld E lo n s.ioOwner)
      (hrevoked : ∀ f, s.forward = some f → f.phase = .revoked) :
      Change E op lo n s .default
  | preparing (infraId : InstanceId) (infraGeneration : ℕ) (owner : ForwardOwner)
      (declaration : PrepareDeclaration) (sysctls : List SysctlChange)
      (hop : op = some (.forwardPrepare infraId infraGeneration owner declaration))
      (hforward : s.forward = none) (hcandidate : s.candidate = none)
      (howner : owner.validate = .ok ()) (hvalid : declaration.validate = .ok ()) :
      Change E op lo n s { s with
        sysctls
        forward := some (.accepted owner declaration .preparing)
        lastFencingToken := owner.fencingToken }
  | retried (previous : ForwardRecord) (hforward : s.forward = some previous)
      (hphase : previous.phase = .preparing) (hcandidate : s.candidate = none)
      (howner : previous.owner.validate = .ok ())
      (hvalid : previous.declaration.validate = .ok ()) :
      Change E op lo n s { s with
        forward := some (.accepted previous.owner previous.declaration .preparing)
        lastFencingToken := previous.owner.fencingToken }
  | admitted (infraId : InstanceId) (infraGeneration : ℕ) (previous : ForwardRecord)
      (owner : ForwardOwner) (declaration : PrepareDeclaration)
      (hop : op = some (.forwardPrepare infraId infraGeneration owner declaration))
      (hforward : s.forward = some previous) (hcandidate : s.candidate = none)
      (hadmitted : Admitted s previous owner declaration)
      (hpolicy : previous.pendingPolicy = none) (howner : owner.validate = .ok ())
      (hvalid : declaration.validate = .ok ()) :
      Change E op lo n s { s with
        candidate := some (.accepted owner declaration .prepared)
        lastFencingToken := owner.fencingToken }
  | dropped : Change E op lo n s { s with candidate := none }
  | intended (candidate previous : ForwardRecord) (hcandidate : s.candidate = some candidate)
      (hforward : s.forward = some previous) :
      Change E op lo n s { s with candidate := some { candidate with phase := .preparing } }
  | committed (operation : Operation) (candidate previous : ForwardRecord)
      (hop : op = some operation) (hcommits : operation.commits candidate.owner)
      (hcandidate : s.candidate = some candidate) (hforward : s.forward = some previous) :
      Change E op lo n s { s with
        forward := some { candidate with phase := .active }
        candidate := none }
  | rolledBack (candidate previous : ForwardRecord) (kept : Bool)
      (hcandidate : s.candidate = some candidate) (hforward : s.forward = some previous)
      (hkept : kept = true → previous.phase = .active ∨ previous.phase = .guarded) :
      Change E op lo n s { s with
        forward := some (if kept then previous else { previous with phase := .revoked })
        candidate := none }
  | withdrawn (r : ForwardRecord) (hforward : s.forward = some r) :
      Change E op lo n s { s with forward := some r.revoke, candidate := none }
  | forwarding (r r' : ForwardRecord) (hforward : s.forward = some r)
      (h : ForwardChange op s.candidate.isSome r r') :
      Change E op lo n s { s with forward := some r' }
  | candidacy (r r' : ForwardRecord) (hcandidate : s.candidate = some r)
      (h : PreparedChange r r') :
      Change E op lo n s { s with candidate := some r' }

/-- What was seen by a moment has been seen by every later one. -/
theorem Change.mono {lo n m : ℕ} {s s' : State} (h : Change E op lo n s s') (hle : n ≤ m) :
    Change E op lo m s s' := by
  have hunheld : ∀ {o}, Unheld E lo n o → Unheld E lo m o := fun hu holder hholder =>
    (hu holder hholder).mono hle
  cases h with
  | created ifindex bootId hpending => exact .created ifindex bootId hpending
  | ensured spec marker bootId caller hop hnone hvalid =>
    exact .ensured spec marker bootId caller hop hnone hvalid
  | repaired spec marker bootId hop hmissing hu =>
    obtain ⟨t, hlo, ht, hnone⟩ := hmissing
    exact .repaired spec marker bootId hop ⟨t, hlo, Nat.lt_of_lt_of_le ht hle, hnone⟩ (hunheld hu)
  | acquired infraId generation o hop hu hepoch =>
    exact .acquired infraId generation o hop (hunheld hu) hepoch
  | released hu => exact .released (hunheld hu)
  | retired infraId generation hop hu hrevoked =>
    exact .retired infraId generation hop (hunheld hu) hrevoked
  | preparing infraId infraGeneration owner declaration sysctls hop hforward hcandidate howner
      hvalid =>
    exact .preparing infraId infraGeneration owner declaration sysctls hop hforward hcandidate
      howner hvalid
  | retried previous hforward hphase hcandidate howner hvalid =>
    exact .retried previous hforward hphase hcandidate howner hvalid
  | admitted infraId infraGeneration previous owner declaration hop hforward hcandidate hadmitted
      hpolicy howner hvalid =>
    exact .admitted infraId infraGeneration previous owner declaration hop hforward hcandidate
      hadmitted hpolicy howner hvalid
  | dropped => exact .dropped
  | intended candidate previous hcandidate hforward =>
    exact .intended candidate previous hcandidate hforward
  | committed operation candidate previous hop hcommits hcandidate hforward =>
    exact .committed operation candidate previous hop hcommits hcandidate hforward
  | rolledBack candidate previous kept hcandidate hforward hkept =>
    exact .rolledBack candidate previous kept hcandidate hforward hkept
  | withdrawn r hforward => exact .withdrawn r hforward
  | forwarding r r' hforward h => exact .forwarding r r' hforward h
  | candidacy r r' hcandidate h => exact .candidacy r r' hcandidate h

/-- The forward record is changed as a whole. -/
theorem Change.mapForward {lo n : ℕ} {s : State} {r : ForwardRecord}
    {f : ForwardRecord → ForwardRecord} (hforward : s.forward = some r)
    (h : ForwardChange op s.candidate.isSome r (f r)) :
    Change E op lo n s (s.mapForward f) := by
  have heq : s.mapForward f = { s with forward := some (f r) } := by
    rw [State.mapForward, hforward, Option.map_some]
  rw [heq]
  exact .forwarding r (f r) hforward h

/-- The candidate is changed as a whole. -/
theorem Change.mapCandidate {lo n : ℕ} {s : State} {r : ForwardRecord}
    {f : ForwardRecord → ForwardRecord} (hcandidate : s.candidate = some r)
    (h : PreparedChange r (f r)) : Change E op lo n s (s.mapCandidate f) := by
  have heq : s.mapCandidate f = { s with candidate := some (f r) } := by
    rw [State.mapCandidate, hcandidate, Option.map_some]
  rw [heq]
  exact .candidacy r (f r) hcandidate h

end CandyRuntime.NetdV2
