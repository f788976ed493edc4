import CandyRuntime.NetdV1.Changes
import CandyRuntime.NetdV1.JournalableTheorems

/-!
# Every record of a run can be stored

The operations keep the record in memory journalable, also when they fail, as long as
`JournalSafe` holds; a restart only brings in records the decoder has accepted.

* `FromProtocol` : what a decoded and validated request promises about its arguments.
* `JournalSafe` : the two operations that ignore a limit of the journal, and when they do not.
* `encodeRecord_of_reachable` : in every run the record can be stored, as it is and for the
  clean-up.
-/

namespace CandyRuntime.NetdV1

open Lib Lib.Proc NetdProto

/-! ## The conditions -/

/-- The arguments come from a request that was decoded and validated. -/
def FromProtocol : Operation → Prop
  | .prepare owner declaration | .reconfigure owner declaration
  | .updatePolicy owner declaration =>
    owner.validate = .ok () ∧ declaration.validate = .ok () ∧ declaration.Canonical
  | .setFailedPrefixes owner prefixes =>
    owner.validate = .ok () ∧ (NetdOperation.withdrawPrefixes prefixes).validate = .ok ()
      ∧ prefixes.length ≤ maxRoutes ∧ ∀ p ∈ prefixes, p.Canonical
  | .updateMtu owner mtu =>
    owner.validate = .ok () ∧ (NetdOperation.mtuUpdate mtu).validate = .ok ()
  | .commitWithDrain owner _ _ | .drainOld owner _ | .rollback owner | .renewLease owner
  | .suspend owner | .resume owner => owner.validate = .ok ()
  | .recoverOrphan _ _ => True

/-- The operation respects the limits of the journal: at most 1024 failed prefixes, and no
candidate that is older than the retained owner. -/
def JournalSafe {β : Type} : Operation → NetworkTransaction β → Prop
  | .setFailedPrefixes owner prefixes, w => ∀ r, w.record = some r →
      ensureOwner r.owner owner = .ok () → (r.phase = .active ∨ r.phase = .suspended) →
      (sortDedup prefixes).all (inScope r.declaration) = true →
      (sortDedup prefixes).length ≤ maxFailedPrefixes
  | .reconfigure owner declaration, w => ∀ r, w.record = some r →
      ensureReconfigureOwner r.owner owner = .ok () → Stages r declaration →
      r.owner.generation ≤ owner.generation
  | _, _ => True

/-- The operations of the runs considered. -/
def Recordable {β : Type} (op : Operation) (w : NetworkTransaction β) : Prop :=
  FromProtocol op ∧ JournalSafe op w

/-! ## The changes -/

section

variable {β : Type} {w : NetworkTransaction β} {op : Operation} {r r' : TransactionRecord}
  {owner : LeaseOwner} {declaration : PrepareDeclaration}

theorem journalable_freshRecord (howner : owner.validate = .ok ())
    (hdeclaration : declaration.validate = .ok ()) :
    Journalable (freshRecord owner declaration) :=
  ⟨rfl, rfl, by simp [freshRecord], rfl, howner, hdeclaration, by simp [freshRecord], howner⟩

/-- Only the lease deadline of an owner changes. -/
theorem validate_withDeadline {o o' : LeaseOwner} (ho : o.validate = .ok ())
    (ho' : o'.validate = .ok ()) :
    { o with leaseDeadlineMonoMs := o'.leaseDeadlineMonoMs }.validate = .ok () := by
  rw [LeaseOwner.validate, refuseIf_eq_ok] at ho ho' ⊢
  simp only [Bool.or_eq_false_iff] at ho ho' ⊢
  exact ⟨ho.1, ho'.2⟩

/-- A smaller MTU inside the range keeps a declaration valid. -/
theorem validate_withMtu {d : PrepareDeclaration} {effectiveMtu : UInt16}
    (hd : d.validate = .ok ()) (hmtu : 576 ≤ effectiveMtu ∧ effectiveMtu ≤ 1400) :
    { d with effectiveMtu }.validate = .ok () := by
  unfold PrepareDeclaration.validate at *
  obtain ⟨_, hfirst, hsecond⟩ := bind_eq_ok hd
  rw [refuseIf_eq_ok] at hfirst
  have hfirst' : refuseIf _ NetdProtocolError.invalidDeclaration = .ok () :=
    (refuseIf_eq_ok (decide (¬ (candyTableMin ≤ d.tableId.toNat ∧ d.tableId.toNat ≤ candyTableMax))
      || decide (¬ (576 ≤ effectiveMtu ∧ effectiveMtu ≤ 1400)) || d.routes.isEmpty
      || decide (d.routes.length > maxRoutes) || d.exclusions.isEmpty
      || decide (d.exclusions.length > maxExclusions)) _).mpr (by
        simp only [Bool.or_eq_false_iff] at hfirst ⊢
        simp only [hfirst, hmtu, and_self, decide_eq_false_iff_not, not_not])
  dsimp only
  rw [hfirst']
  exact hsecond

/-- The one whose declaration is kept at the end of a drain. -/
theorem validate_keeper (h : Journalable r) (howner : owner.validate = .ok ()) :
    (r.recoveryCandidateOwner.getD owner).validate = .ok () := by
  have hkept := h.keeper
  cases ho : r.recoveryCandidateOwner with
  | none => exact howner
  | some o => rwa [ho] at hkept

/-- A record that serves its declaration has no candidate. -/
theorem candidate_of_serving (h : Journalable r) (hphase : r.phase.serving) :
    r.recoveryCandidate = none := by
  refine h.candidate_eq_none ?_
  cases hr : r.phase <;> rw [hr] at hphase <;> first | rfl | exact hphase.elim

theorem journalable_withOwner (h : Journalable r) (hphase : r.phase.serving)
    (howner : owner.validate = .ok ()) : Journalable { r with owner } := by
  have hc := candidate_of_serving h hphase
  have ho := h.candidateOwner_eq_none hc
  refine ⟨h.failed, h.sysctls, h.phase, ?_, howner, h.declaration, h.candidate, ?_⟩
  · simp [candidateOwnerStorable, ho]
  · simpa [ho] using howner

/-- A declaration that is put beside the retained one, with its owner. -/
theorem journalable_intended (h : Journalable r) {phase : TransactionPhase}
    (hphase : phase.allowsCandidate = true) (hfrom : FromProtocol op) (hsafe : JournalSafe op w)
    (howner : SameProcess r.owner owner) (hop : Reloads op w.record r owner declaration
      ∨ op = .updatePolicy owner declaration ∧ r.owner.generation = owner.generation)
    (drainDeadlineMonoMs : UInt64) :
    Journalable { r with phase, drainDeadlineMonoMs, recoveryCandidate := some declaration,
                         recoveryCandidateOwner := some owner } := by
  have hsame : ensureReconfigureOwner r.owner owner = .ok () := by
    simp [ensureReconfigureOwner, howner.1, howner.2]
  rcases hop with hreloads | ⟨hop, hgeneration⟩
  · rw [hreloads.op] at hfrom hsafe
    exact h.withCandidate hphase hfrom.1 hfrom.2.1 hsame
      (hsafe r hreloads.found hreloads.owner hreloads.stages)
  · rw [hop] at hfrom
    refine h.withCandidate hphase hfrom.1 hfrom.2.1 hsame ?_
    rw [hgeneration]
    exact UInt64.le_refl _

/-- Every change of a recordable operation keeps a record journalable. -/
theorem journalable_of_amends (hfrom : FromProtocol op) (hsafe : JournalSafe op w)
    (h : Journalable r) (hchange : Amends op w.record r r') : Journalable r' := by
  cases hchange with
  | sysctls sysctls hphase hsnapshot =>
    obtain ⟨readings, declaration, hread⟩ := hsnapshot
    exact ⟨h.failed, sysctlsStorable_snapshot hread, h.phase, h.candidateOwner, h.owner,
      h.declaration, h.candidate, h.keeper⟩
  | steps completedSteps => exact h.withSteps completedSteps
  | prepared hphase => exact h.withPhase (fun _ => rfl) r.drainDeadlineMonoMs
  | committed hphase hcandidate =>
    exact h.withPhase (by simp [hcandidate]) r.drainDeadlineMonoMs
  | resumed hphase =>
    have hc := candidate_of_serving h (by rw [hphase]; trivial)
    exact h.withPhase (by simp [hc]) r.drainDeadlineMonoMs
  | suspended hphase =>
    have hc := candidate_of_serving h (by rw [hphase]; trivial)
    exact h.withPhase (by simp [hc]) r.drainDeadlineMonoMs
  | rollingBack => exact h.withPhase (fun _ => rfl) r.drainDeadlineMonoMs
  | dropped hphase =>
    exact h.withoutCandidate r.phase r.drainDeadlineMonoMs h.owner h.declaration
  | discarded => exact h.withoutCandidate .active 0 h.owner h.declaration
  | unstaged => exact h.withoutCandidate .active r.drainDeadlineMonoMs h.owner h.declaration
  | draining now timeout hphase hcandidate => exact h.withPhase (fun _ => rfl) _
  | promoted owner candidate hphase hcandidate howner hkeeper =>
    refine h.withoutCandidate .active 0 (validate_keeper h ?_) (h.candidate candidate hcandidate)
    rcases hkeeper with ⟨now, hop⟩ | hkeeper
    · rw [hop] at hfrom
      exact hfrom
    · rw [hkeeper]
      exact h.keeper
  | failures owner prefixes hwithdraws =>
    rw [hwithdraws.op] at hfrom hsafe
    exact h.withFailed (failedPrefixesStorable_sortDedup (hsafe r hwithdraws.found
      hwithdraws.owner hwithdraws.phase hwithdraws.scope) hfrom.2.2.2)
  | renewed owner hop howner =>
    rw [hop] at hfrom
    have hvalid := validate_withDeadline h.owner hfrom
    have hkeeper := validate_keeper h hvalid
    exact ⟨h.failed, h.sysctls, h.phase, h.candidateOwner, hvalid, h.declaration, h.candidate,
      hkeeper⟩
  | narrowed effectiveMtu hphase hmtu =>
    exact ⟨h.failed, h.sysctls, h.phase, h.candidateOwner, h.owner,
      validate_withMtu h.declaration hmtu, h.candidate, h.keeper⟩
  | intended owner declaration hphase howner hop =>
    exact journalable_intended h rfl hfrom hsafe howner hop r.drainDeadlineMonoMs
  | staged owner declaration hphase hcandidate howner hop =>
    exact journalable_intended h rfl hfrom hsafe howner (.inl hop) _
  | adopted owner hphase howner hop =>
    obtain ⟨declaration, hop⟩ := hop
    rw [hop] at hfrom
    exact journalable_withOwner h hphase hfrom.1
  | reconfigured owner declaration hphase howner hop =>
    rw [hop] at hfrom
    have hserving : r.phase.serving := by rw [hphase]; trivial
    have hwith := journalable_withOwner h hserving hfrom.1
    exact ⟨rfl, h.sysctls, h.phase, hwith.candidateOwner, hfrom.1, hfrom.2.1, h.candidate,
      hwith.keeper⟩
  | updated owner declaration hphase hcandidate hop =>
    rw [hop] at hfrom
    have hretained := failedPrefixesStorable_filter (inScope declaration) h.failed
    exact (h.withoutCandidate r.phase r.drainDeadlineMonoMs h.owner hfrom.2.1).withFailed hretained
  | recovered phase hphase hserving =>
    exact h.withoutCandidate phase r.drainDeadlineMonoMs h.owner h.declaration

theorem closed_journalable (hop : Recordable op w) : Closed op w.record Journalable where
  amends _ _ := journalable_of_amends hop.1 hop.2
  fresh owner declaration heq hdeclaration := by
    subst heq
    exact journalable_freshRecord hop.1.1 hdeclaration

end

/-! ## Runs -/

theorem journalable_of_reachable {sha : Bytes → Vector UInt8 32} {w : NetworkTransaction Bytes}
    {r : TransactionRecord} (h : Reachable (fileFormat sha) Recordable w) (hr : w.record = some r) :
    Journalable r := by
  have hcarries : (fileFormat sha).Carries Journalable := by
    intro _ bytes r' _ _ hdecode
    have hload : load (fileFormat sha) (some bytes) = .ok (some r') := by
      simp [load, hdecode, Except.map]
    exact journalable_of_decodeRecord (decodeRecord_of_load hload)
  exact (reachable_kept hcarries (fun _ _ => closed_journalable) h).memory r hr

/-- **Journalable.** In every run, whatever fails and wherever the process is killed, the
record in memory can be stored, and so can the record with which its clean-up starts. -/
theorem encodeRecord_of_reachable {sha : Bytes → Vector UInt8 32} {w : NetworkTransaction Bytes}
    {r : TransactionRecord} (h : Reachable (fileFormat sha) Recordable w)
    (hr : w.record = some r) :
    (∃ b, encodeRecord sha r = .ok b)
      ∧ ∃ b, encodeRecord sha { r with phase := .rollingBack } = .ok b := by
  have hjournalable := journalable_of_reachable h hr
  constructor
  · exact encodeRecord_of_journalable hjournalable
  · exact encodeRecord_of_journalable
      (hjournalable.withPhase (fun _ => rfl) r.drainDeadlineMonoMs)

/-! ## A run that stays inside the limits, and one that does not -/

namespace Sample

/-- The same process, before it was given its generation. -/
def olderOwner : LeaseOwner := { owner with generation := 2 }

/-- The transaction is activated and suspended. -/
def suspension : List Planned :=
  [succeeding (.prepare owner declaration), succeeding (.commitWithDrain owner 10 50),
   succeeding (.suspend owner)]

/-- The suspended transaction. -/
def suspended : NetworkTransaction Bytes := suspension.foldl (stepOnce (fileFormat digest)) .fresh

/-- The suspended transaction after a reload with an older generation. -/
def refused : NetworkTransaction Bytes :=
  (suspension ++ [succeeding (.reconfigure olderOwner widened)]).foldl
    (stepOnce (fileFormat digest)) .fresh

/-- The record in memory after the refused store. -/
def refusedRecord : TransactionRecord :=
  { owner, declaration, recoveryCandidate := some widened,
    recoveryCandidateOwner := some olderOwner, phase := .rollingBack, completedSteps := 0x1f,
    sysctls := [⟨.ipv4Forward, 0, 1⟩, ⟨.candyDisableIpv6, 0, 1⟩], drainDeadlineMonoMs := 0,
    failedPrefixes := [] }

theorem suspension_fromProtocol : ∀ step ∈ suspension, FromProtocol step.1 := by
  have hvalid : owner.validate = .ok () := by decide
  have hdeclaration := declaration_valid
  simp [suspension, succeeding, FromProtocol, hvalid, hdeclaration]

end Sample

theorem encodeRecord_of_suspended :
    (∃ b, encodeRecord Sample.digest { Sample.refusedRecord with
        recoveryCandidate := none, recoveryCandidateOwner := none, phase := .suspended } = .ok b)
      ∧ ∃ b, encodeRecord Sample.digest { Sample.refusedRecord with
        recoveryCandidate := none, recoveryCandidateOwner := none } = .ok b := by
  have hreachable : Reachable (fileFormat Sample.digest) Recordable Sample.suspended := by
    refine reachable_foldl_stepOnce .refl _ fun step hstep w' => ?_
    refine ⟨Sample.suspension_fromProtocol step hstep, ?_⟩
    simp only [Sample.suspension, Sample.succeeding, List.mem_cons, List.not_mem_nil, or_false]
      at hstep
    rcases hstep with rfl | rfl | rfl <;> trivial
  have hrecord : Sample.suspended.record = some { Sample.refusedRecord with
      recoveryCandidate := none, recoveryCandidateOwner := none, phase := .suspended } := by
    decide +kernel
  exact encodeRecord_of_reachable hreachable hrecord

/-- A reload with an older generation leaves a record in memory that the journal refuses; the
roll-back by the retained owner is then refused before it has made any call. -/
theorem encodeRecord_refused :
    ∃ w, Reachable (fileFormat Sample.digest) (fun op _ => FromProtocol op) w
      ∧ w.record = some Sample.refusedRecord
      ∧ encodeRecord Sample.digest Sample.refusedRecord = .error .journal
      ∧ (rollback (fileFormat Sample.digest) Sample.owner
          (w.facing .allOk Sample.readings)).1 = .err .journal
      ∧ (rollback (fileFormat Sample.digest) Sample.owner
          (w.facing .allOk Sample.readings)).2.calls = w.calls := by
  refine ⟨Sample.refused, ?_, by decide +kernel, by decide +kernel, by decide +kernel,
    by decide +kernel⟩
  refine reachable_foldl_stepOnce .refl _ fun step hstep w' => ?_
  rcases List.mem_append.mp hstep with hstep | hstep
  · exact Sample.suspension_fromProtocol step hstep
  · obtain rfl := List.mem_singleton.mp hstep
    change Sample.olderOwner.validate = .ok () ∧ Sample.widened.validate = .ok ()
      ∧ Sample.widened.Canonical
    decide

end CandyRuntime.NetdV1
