import CandyRuntime.NetdV1.Changes
import CandyRuntime.NetdV1.SectionTheorems

/-!
# An interrupted policy update after a restart

`recover_orphan` takes an interrupted policy update for one by its candidate owner, which has
to be the retained owner. The decoder never returns such a record, so a daemon that reads the
journal file tears the tunnel down instead.

* `PolicyUpdateRecovered` : what the recovery is meant to do.
* `decodeRecord_candidateOwner_ne` : the decoder drops the owner the recovery looks for.
* `not_policyUpdateRecovered` : it is never recovered, wherever `update_policy` was killed.
-/

namespace CandyRuntime.NetdV1

open Lib Lib.Proc NetdProto

/-! ## What recovery is for -/

/-- The calls that take the live tunnel down. -/
def BackendCall.tearsDown : BackendCall → Bool
  | .deactivateLink _ | .removeLink _ | .removePolicyRule _ => true
  | _ => false

/-- The record is back where it was before the update. -/
def RestoredTo (r r' : TransactionRecord) : Prop :=
  r'.phase = r.phase ∧ r'.declaration = r.declaration ∧ r'.failedPrefixes = r.failedPrefixes
    ∧ r'.recoveryCandidate = none

/-- The journal of the killed process `w` is loaded, and `recover_orphan` leaves the tunnel up
whatever happens, and restores `r` when nothing fails. -/
def PolicyUpdateRecovered {β : Type} (J : JournalFormat β) (r : TransactionRecord)
    (w : NetworkTransaction β) : Prop :=
  ∃ loaded, load J w.stored = .ok (some loaded) ∧
    ∀ alive now fates readings,
      let restarted := { w with record := some loaded, calls := [] }.facing fates readings
      let recovered := (recoverOrphan J alive now restarted).2
      (∀ c ∈ recovered.calls, c.1.tearsDown = false)
        ∧ (fates = .allOk → ∃ r', recovered.record = some r' ∧ RestoredTo r r')

/-! ## What the decoder returns -/

/-- The decoder never names the retained owner as the owner of the candidate. -/
theorem decodeRecord_candidateOwner_ne {sha : Bytes → Vector UInt8 32} {bytes : Bytes}
    {r : TransactionRecord} (h : decodeRecord sha bytes = pure r) :
    r.recoveryCandidateOwner ≠ some r.owner := by
  obtain ⟨_, _, _, _, _, _, hbody⟩ := decodeRecord_eq_pure h
  obtain ⟨_, _, _, _, request, _, _, _, _, _, hrequest, hrecovery, _, howner, _⟩ :=
    decodeBody_eq_pure hbody
  rw [howner]
  obtain ⟨_, _, _, _, ⟨_, hnone, _⟩ | ⟨c, _, _, _, _, hread⟩⟩ :=
    candidate_of_decodeRecovery (framed_of_decodeRequest hrequest).1 hrecovery
  · simp [hnone]
  · rw [hread.owner]
    split
    · rename_i hne
      simpa using hne
    · simp

/-- The phase survives the file. -/
theorem decodeRecord_phase {sha : Bytes → Vector UInt8 32} {bytes : Bytes}
    {r r' : TransactionRecord} (henc : encodeRecord sha r = .ok bytes)
    (hdec : decodeRecord sha bytes = pure r') : r'.phase = r.phase := by
  obtain ⟨request, recoverySection, -, rfl⟩ := encodeRecord_eq_ok henc
  obtain ⟨_, _, _, _, _, hheader, hbody⟩ := decodeRecord_eq_pure hdec
  obtain ⟨_, _, _, _, _, _, _, _, _, _, _, _, _, _, hphase, _⟩ := decodeBody_eq_pure hbody
  have hread := (header_of_decodeHeader hheader).2.1
  have hmagic : (recordMagic r).length = 8 := by
    unfold recordMagic
    split_ifs <;> rfl
  have hcode : Checked.index (contentOf r request recoverySection
      ++ (sha (contentOf r request recoverySection)).toList) 8 = pure r.phase.code := by
    rw [Checked.index, contentOf, headerBytes]
    simp only [List.append_assoc]
    rw [List.getElem?_append_right (by omega), hmagic]
    rfl
  rw [hcode] at hread
  have hsame := congrArg decodePhase (Checked.pure_inj hread)
  rw [decodePhase_code, decodePhase_code] at hsame
  exact hphase.trans (Checked.pure_inj hsame).symm

/-! ## What a killed update has left in the journal -/

/-- The journal holds a record in one of the phases `update_policy` stores. -/
def StoredUpdate (sha : Bytes → Vector UInt8 32) (w : NetworkTransaction Bytes) : Prop :=
  ∃ r bytes, w.stored = some bytes ∧ encodeRecord sha r = .ok bytes
    ∧ (r.phase = .rollingBack ∨ r.phase = .active ∨ r.phase = .suspended)

section

variable {sha : Bytes → Vector UInt8 32} {w : NetworkTransaction Bytes} {r : TransactionRecord}

theorem storedUpdate_call (c : BackendCall) : Preserves (StoredUpdate sha) (call c) := by
  intro w hw
  rw [wp_call]
  exact ⟨fun _ => hw, fun _ _ => hw, fun _ => hw⟩

/-- The outcomes of a store of such a record. -/
theorem storedUpdate_store
    (hphase : r.phase = .rollingBack ∨ r.phase = .active ∨ r.phase = .suspended)
    (hw : StoredUpdate sha w ∨ w.fates.journal 0 ≠ .crash) :
    wp (store (fileFormat sha) r) (fun _ => StoredUpdate sha)
      (fun _ w' => StoredUpdate sha w → StoredUpdate sha w') (StoredUpdate sha) w := by
  unfold store
  cases henc : (fileFormat sha).encode r with
  | error e =>
    intro h
    exact h
  | ok bytes =>
    dsimp only
    rw [wp_writeJournal]
    refine ⟨fun _ => ⟨r, bytes, rfl, henc, hphase⟩, fun _ _ => ⟨r, bytes, rfl, henc, hphase⟩,
      fun _ h => h, fun hcrash => ?_⟩
    rcases hw with h | hno
    · exact h
    · exact absurd hcrash hno

theorem storedUpdate_replaceRecord
    (hphase : r.phase = .rollingBack ∨ r.phase = .active ∨ r.phase = .suspended) :
    Preserves (StoredUpdate sha) (replaceRecord (fileFormat sha) r) := by
  intro w hw
  rw [replaceRecord, wp_bind]
  refine wp_mono (storedUpdate_store hphase (Or.inl hw)) ?_ ?_ (fun _ h => h)
  · intro _ w' h
    rw [setRecord, wp_modify]
    exact h
  · intro _ w' h
    exact h hw

theorem storedUpdate_applyPolicy (declaration : PrepareDeclaration) (retained : List Ipv4Prefix) :
    Preserves (StoredUpdate sha) (applyPolicy r declaration retained) := by
  unfold applyPolicy
  apply Preserves.bind (Preserves.when _ (storedUpdate_call _))
  intro _
  apply Preserves.bind (Preserves.when _ (storedUpdate_call _))
  intro _
  exact Preserves.when _ (storedUpdate_call _)

theorem storedUpdate_restorePolicyAfterUpdate (hphase : r.phase = .active ∨ r.phase = .suspended)
    (candidate : PrepareDeclaration) :
    Preserves (StoredUpdate sha) (restorePolicyAfterUpdate (fileFormat sha) r candidate) := by
  unfold restorePolicyAfterUpdate
  apply Preserves.bind (Preserves.errorOf (Preserves.when _ (storedUpdate_call _)))
  intro e1
  apply Preserves.bind (Preserves.errorOf (Preserves.when _ (storedUpdate_call _)))
  intro e2
  apply Preserves.bind (Preserves.when _ (storedUpdate_call _))
  intro _
  split
  · exact Preserves.fail _
  · exact storedUpdate_replaceRecord (Or.inr hphase)

/-- Once the intent is stored, the journal holds it or one of the two outcomes. -/
theorem storedUpdate_changePolicy {owner : LeaseOwner} {declaration : PrepareDeclaration}
    (hr : w.record = some r) (hphase : r.phase = .active ∨ r.phase = .suspended)
    (hfirst : w.fates.journal 0 ≠ .crash) :
    wp (changePolicy (fileFormat sha) owner declaration r) (fun _ _ => True) (fun _ _ => True)
      (StoredUpdate sha) w := by
  rw [changePolicy, wp_bind, amend, wp_bind, wp_current hr, wp_bind, setRecord, wp_modify]
  refine wp_mono (storedUpdate_store (Or.inl rfl) (Or.inr hfirst)) ?_ (fun _ _ _ => trivial)
    (fun _ h => h)
  intro _ w' hw'
  rw [wp_handle, wp_bind]
  refine wp_mono (storedUpdate_applyPolicy _ _ w' hw') ?_ ?_ (fun _ h => h)
  · intro _ w₁ hw₁
    refine wp_mono (storedUpdate_replaceRecord (by exact Or.inr hphase) w₁ hw₁)
      (fun _ _ _ => trivial) ?_
      (fun _ h => h)
    intro e w₂ hw₂
    rw [wp_bind]
    exact wp_mono (storedUpdate_restorePolicyAfterUpdate hphase _ w₂ hw₂)
      (fun _ _ _ => trivial) (fun _ _ _ => trivial) (fun _ h => h)
  · intro e w₁ hw₁
    rw [wp_bind]
    exact wp_mono (storedUpdate_restorePolicyAfterUpdate hphase _ w₁ hw₁)
      (fun _ _ _ => trivial) (fun _ _ _ => trivial) (fun _ h => h)

theorem storedUpdate_updatePolicy {owner : LeaseOwner} {declaration : PrepareDeclaration}
    (hr : w.record = some r) (hnew : r.declaration ≠ declaration)
    (hfirst : w.fates.journal 0 ≠ .crash) :
    wp (updatePolicy (fileFormat sha) owner declaration) (fun _ _ => True) (fun _ _ => True)
      (StoredUpdate sha) w := by
  rw [updatePolicy, wp_bind, wp_lift]
  refine ⟨fun _ _ => ?_, fun _ _ => trivial⟩
  rw [wp_bind, wp_current hr, wp_bind, wp_lift]
  refine ⟨fun _ _ => ?_, fun _ _ => trivial⟩
  rw [wp_bind, wp_ensure]
  refine ⟨fun hc => ?_, fun _ => trivial⟩
  rw [if_neg hnew]
  exact storedUpdate_changePolicy hr hc.1 hfirst

/-! ## The clean-up instead of the recovery -/

/-- The record is rolled back. -/
def GivenUp (r : TransactionRecord) : Prop := r.phase = .rollingBack

theorem undoable_givenUp : Undoable GivenUp where
  steps _ _ h := h
  dropped _ h _ := h

/-- A record that is not recognised as an interrupted update is cleaned up when its owner is
gone. -/
theorem givenUp_recoverOrphan {J : JournalFormat Bytes} (now : UInt64) (hr : w.record = some r)
    (hphase : r.phase = .rollingBack ∨ r.phase = .active ∨ r.phase = .suspended)
    (howner : r.recoveryCandidateOwner ≠ some r.owner) :
    wp (recoverOrphan J false now) (fun _ => Kept J GivenUp fun _ => True)
      (fun _ => Kept J GivenUp fun _ => True) (Kept J GivenUp fun _ => True) w := by
  have hupdate : ¬ isPolicyUpdate r = true := by
    simp [isPolicyUpdate, howner]
  have hstaged : stagedCandidate r = none := by
    rcases hphase with h | h | h <;> simp [stagedCandidate, h]
  have hdraining : ¬ r.phase = .draining := by
    rcases hphase with h | h | h <;> simp [h]
  rw [recoverOrphan, wp_bind, wp_get, hr]
  dsimp only
  rw [if_neg hupdate, hstaged]
  dsimp only
  rw [if_neg hdraining, if_neg (by simp), wp_bind]
  have hclean : Triple (Kept J (fun _ => True) fun _ => True) (cleanupRecord J)
      (fun _ => Kept J GivenUp fun _ => True) (fun _ => Kept J GivenUp fun _ => True)
      (Kept J GivenUp fun _ => True) :=
    kept_cleanupRecord (fun _ _ _ _ _ _ => trivial) undoable_givenUp (fun _ _ => trivial)
      fun _ _ => rfl
  exact hclean w ⟨fun _ _ => trivial, fun _ _ _ _ => trivial⟩

/-- **No recovery.** Wherever an update of the policy is killed after its first store, the
daemon that reads the journal file does not bring the record back. -/
theorem not_policyUpdateRecovered {owner : LeaseOwner} {declaration : PrepareDeclaration}
    (hr : w.record = some r) (hphase : r.phase = .active ∨ r.phase = .suspended)
    (hnew : r.declaration ≠ declaration) (hfirst : w.fates.journal 0 ≠ .crash)
    (hcrash : (updatePolicy (fileFormat sha) owner declaration w).1 = .crash) :
    ¬ PolicyUpdateRecovered (fileFormat sha) r
        (updatePolicy (fileFormat sha) owner declaration w).2 := by
  rintro ⟨loaded, hload, hrecovered⟩
  have hstored : StoredUpdate sha (updatePolicy (fileFormat sha) owner declaration w).2 := by
    have hwp : wp (updatePolicy (fileFormat sha) owner declaration) (fun _ _ => True)
        (fun _ _ => True) (StoredUpdate sha) w := storedUpdate_updatePolicy hr hnew hfirst
    unfold wp at hwp
    split at hwp <;> rename_i heq <;> rw [heq] at hcrash ⊢
    · simp at hcrash
    · simp at hcrash
    · exact hwp
  obtain ⟨x, bytes, hbytes, henc, hx⟩ := hstored
  rw [hbytes] at hload
  have hdec := decodeRecord_of_load hload
  have hloaded : loaded.phase = x.phase := decodeRecord_phase henc hdec
  -- the owner is gone and every call succeeds: the record is cleaned up all the same
  obtain ⟨-, hrestored⟩ := hrecovered false 0 .allOk fun _ => none
  obtain ⟨r', hr', hphase', -⟩ := hrestored rfl
  have hgiven := givenUp_recoverOrphan (J := fileFormat sha)
    (w := { (updatePolicy (fileFormat sha) owner declaration w).2 with
      record := some loaded, calls := [] }.facing .allOk fun _ => none)
    0 rfl (hloaded ▸ hx) (decodeRecord_candidateOwner_ne hdec)
  have hrolling : r'.phase = .rollingBack := by
    unfold wp at hgiven
    split at hgiven <;> rename_i heq <;> rw [heq] at hr' <;> exact hgiven.memory r' hr'
  rw [hphase'] at hrolling
  rcases hphase with h | h <;> simp [h] at hrolling

end

/-! ## A concrete update -/

namespace Sample

def activeRecord : TransactionRecord :=
  { record with recoveryCandidate := none, recoveryCandidateOwner := none, phase := .active }

/-- The update is killed in front of its second write of the journal. -/
def updating : NetworkTransaction Bytes :=
  { record := some activeRecord, stored := some (stored activeRecord), calls := [],
    readings := fun _ => none,
    fates := { Fates.allOk with journal := fun n => if n = 1 then .crash else .ok } }

/-- What the update leaves when the owner kept its lease deadline. -/
def killedUpdate : NetworkTransaction Bytes :=
  (updatePolicy (fileFormat digest) owner widened updating).2

end Sample

theorem not_policyUpdateRecovered_renewed :
    ¬ PolicyUpdateRecovered (fileFormat Sample.digest) Sample.activeRecord
        (updatePolicy (fileFormat Sample.digest) { Sample.owner with leaseDeadlineMonoMs := 200 }
          Sample.widened Sample.updating).2 :=
  not_policyUpdateRecovered rfl (Or.inl rfl) (by decide +kernel) (by decide) (by decide +kernel)

/-- The file is readable, the record that is read has lost its candidate owner, and the
recovery removes the link although every call succeeds. -/
theorem policyUpdate_torn_down :
    Sample.updating.record = some Sample.activeRecord
      ∧ (updatePolicy (fileFormat Sample.digest) Sample.owner Sample.widened Sample.updating).1
        = .crash
      ∧ ¬ PolicyUpdateRecovered (fileFormat Sample.digest) Sample.activeRecord
          Sample.killedUpdate := by
  refine ⟨rfl, by decide +kernel, ?_⟩
  rintro ⟨loaded, hload, hrecovered⟩
  have hread : load (fileFormat Sample.digest) Sample.killedUpdate.stored
      = .ok (some { rollingBackTo Sample.owner Sample.widened Sample.activeRecord with
          recoveryCandidateOwner := none }) := by
    decide +kernel
  rw [hread] at hload
  obtain rfl := Option.some.inj (Except.ok.inj hload)
  obtain ⟨hcalls, -⟩ := hrecovered true 0 .allOk fun _ => none
  have hremoved := hcalls (.removeLink Sample.declaration, true) (by decide +kernel)
  simp [BackendCall.tearsDown] at hremoved

end CandyRuntime.NetdV1
