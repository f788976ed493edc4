import CandyRuntime.Agent.PeerCoverage
import CandyRuntime.Lib.Matching

/-!
# Coverage checks prove a bijection

Each check compares two lengths and searches an entry for each expected peer. With the expected peers
distinct, the entries are matched with them in exactly one way, so none is missing, none is left over
and none counts twice. The drain receipts of the predecessor bind only the attachment and the barrier
id of a peer.
-/

namespace CandyRuntime.Agent

open Lib NetdProto Tunio

variable {expected : List PeerExpectation} {proof : CandidateProof}

theorem bytesJson_injective {n : ℕ} : Function.Injective (bytesJson (n := n)) := by
  intro bytes bytes' h
  exact Vector.toList_inj.mp (Json.ofBytes_injective h)

/-! ## Loops that remember what was before -/

/-- A check of each entry with the entries before it. -/
theorem forall_of_loop {α ε : Type} {check : List α → α → Except ε Unit}
    {loop : List α → List α → Except ε Unit}
    (hloop : ∀ earlier x rest, loop earlier (x :: rest)
      = (check earlier x >>= fun _ => loop (earlier ++ [x]) rest))
    (xs earlier : List α) (h : loop earlier xs = .ok ()) (i : Fin xs.length) :
    check (earlier ++ xs.take i) (xs.get i) = .ok () := by
  induction xs generalizing earlier with
  | nil => exact i.elim0
  | cons x rest ih =>
    rw [hloop] at h
    obtain ⟨⟨⟩, hx, hrest⟩ := bind_eq_ok h
    rcases i with ⟨n, hn⟩
    cases n with
    | zero =>
      show check (earlier ++ []) x = .ok ()
      rw [List.append_nil]
      exact hx
    | succ n =>
      have hi := ih (earlier ++ [x]) hrest ⟨n, Nat.lt_of_succ_lt_succ hn⟩
      rw [List.append_assoc] at hi
      exact hi

/-- The expected peers of a check that refuses repetitions are distinct. -/
theorem distinct_of_forall (h : ∀ i : Fin expected.length,
      (expected.take i).any (·.attachmentId = expected[i].attachmentId) = false)
    (i j : Fin expected.length) (hij : expected[i].attachmentId = expected[j].attachmentId) :
    i = j := by
  have hlater : ∀ i j : Fin expected.length, i < j →
      expected[i].attachmentId ≠ expected[j].attachmentId := by
    intro i j hlt heq
    have hmem : expected[i] ∈ expected.take j := List.mem_take_iff_getElem.mpr
      ⟨i, by have := j.isLt; have : (i : ℕ) < j := hlt; omega, rfl⟩
    exact List.any_eq_false.mp (h j) _ hmem (decide_eq_true heq)
  rcases lt_trichotomy i j with hlt | heq | hgt
  · exact absurd hij (hlater i j hlt)
  · exact heq
  · exact absurd hij.symm (hlater j i hgt)

/-- The expected peers and the reported entries are matched in exactly one way, and every entry has
the flags. -/
def Matched {β : Type} (expected : List PeerExpectation) (reported : List β)
    (agree : PeerExpectation → β → Prop) (flags : β → Prop) : Prop :=
  (∃! σ : Fin expected.length ≃ Fin reported.length, ∀ i, agree expected[i] reported[σ i])
    ∧ ∀ y ∈ reported, flags y

theorem matched_of_found {β : Type} {reported : List β} (finds : PeerExpectation → β → Bool)
    {agree : PeerExpectation → β → Prop} {flags : β → Prop}
    (hlength : expected.length = reported.length) (hfound : ∀ i : Fin expected.length,
      ∃ y, reported.filter (finds expected[i]) = [y] ∧ agree expected[i] y ∧ flags y)
    (hfinds : ∀ x y, agree x y → finds x y = true)
    (hkeys : ∀ x x' y, finds x y = true → finds x' y = true → x.attachmentId = x'.attachmentId)
    (hdistinct : ∀ i j : Fin expected.length,
      expected[i].attachmentId = expected[j].attachmentId → i = j) :
    Matched expected reported agree flags := by
  -- an entry agrees with a peer and has the flags, so that both go through the matching
  have hfound' : ∀ i : Fin expected.length,
      ∃ y, reported.filter (finds expected[i]) = [y] ∧ agree expected[i] y :=
    fun i => (hfound i).imp fun y h => ⟨h.1, h.2.1⟩
  have hmatching := existsUnique_matching (fun x y => agree x y ∧ flags y) hlength hfound
    (fun x y h => hfinds x y h.1) fun i j y hi hj => hdistinct i j (hkeys _ _ y hi hj)
  obtain ⟨σ, hσ, -⟩ := hmatching
  exact ⟨existsUnique_matching agree hlength hfound' hfinds
    fun i j y hi hj => hdistinct i j (hkeys _ _ y hi hj), forall_of_matching fun i => (hσ i).2⟩

/-! ## Installation proofs -/

/-- The proof is about the expected peer. -/
def PeerProof.Agrees (expected : PeerExpectation) (proof : PeerProof) : Prop :=
  proof.attachmentId = expected.attachmentId ∧ proof.selector = expected.selector
    ∧ proof.barrier = expected.barrier

/-- The peer is installed and probed in both directions. -/
def PeerProof.Confirmed (proof : PeerProof) : Prop :=
  proof.prepared = true ∧ proof.installed = true ∧ proof.probeSent = true
    ∧ proof.probeReceived = true

theorem checkPeer_eq_ok {earlier : List PeerExpectation} {peer : PeerExpectation}
    (h : proof.checkPeer earlier peer = .ok ()) :
    earlier.any (·.attachmentId = peer.attachmentId) = false
      ∧ ∃ found, proof.peers.filter (·.attachmentId = peer.attachmentId) = [found]
        ∧ PeerProof.Agrees peer found ∧ found.Confirmed := by
  unfold CandidateProof.checkPeer at h
  split at h
  · cases h
  · next hearlier =>
    refine ⟨by simpa using hearlier, ?_⟩
    split at h
    · next found hfound =>
      have hid : found.attachmentId = peer.attachmentId := by
        have hmem : found ∈ proof.peers.filter (·.attachmentId = peer.attachmentId) := by
          simp [hfound]
        simpa using (List.mem_filter.mp hmem).2
      split at h
      · next hfields =>
        simp only [Bool.and_eq_true, decide_eq_true_eq] at hfields
        exact ⟨found, hfound, ⟨hid, by tauto, by tauto⟩, by unfold PeerProof.Confirmed; tauto⟩
      · cases h
    · cases h

theorem matched_of_requireIdentity {envelope : AuthorityEnvelope}
    (h : proof.requireIdentity envelope expected = .ok ()) :
    Matched expected proof.peers PeerProof.Agrees PeerProof.Confirmed := by
  unfold CandidateProof.requireIdentity at h
  split at h
  · cases h
  · split at h
    · cases h
    · next hcoverage =>
      simp only [Bool.or_eq_true, decide_eq_true_eq, not_or, not_not] at hcoverage
      have hchecks : ∀ i : Fin expected.length,
          proof.checkPeer (expected.take i) expected[i] = .ok () :=
        forall_of_loop (fun _ _ _ => rfl) expected [] h
      refine matched_of_found (fun x y => decide (y.attachmentId = x.attachmentId)) hcoverage.2
        (fun i => (checkPeer_eq_ok (hchecks i)).2) ?_ ?_ ?_
      · intro x y hagree
        simpa using hagree.1
      · intro x x' y hx hx'
        simp only [decide_eq_true_eq] at hx hx'
        rw [← hx, hx']
      · exact distinct_of_forall fun i => (checkPeer_eq_ok (hchecks i)).1

theorem requireIdentity_of_requireInstalled {envelope : AuthorityEnvelope}
    (h : proof.requireInstalled envelope expected = .ok ()) :
    proof.requireIdentity envelope expected = .ok ()
      ∧ ∀ peer ∈ proof.peers, peer.drainFailed = false := by
  unfold CandidateProof.requireInstalled at h
  split at h
  · next hphase =>
    simp only [Bool.and_eq_true, List.all_eq_true, Bool.not_eq_true'] at hphase
    exact ⟨h, hphase.2⟩
  · cases h

/-! ## Reconciliation -/

section

variable [Serialize RoutingCandidate] [Serialize BarrierIdentity]

/-- The entry is about the expected peer. -/
def ReportAgrees (expected : PeerExpectation) (peer : Json) : Prop :=
  peer.field "attachment_id" = bytesJson expected.attachmentId
    ∧ peer.field "selector" = Serialize.json expected.selector
    ∧ peer.field "barrier" = Serialize.json expected.barrier

/-- The outcome at the peer is reported as unknown, or proved by the receipt of one of the original
reservations. -/
def Reconciled (sha256 : List UInt8 → Bytes32) (originals : List Json) (peer : Json) : Prop :=
  peer.field "remote_installation" = .null ∧ peer.field "remote_outcome" = .str "unknown"
    ∨ ∃ original ∈ originals,
      (original.field "expected").field "attachment_id" = peer.field "attachment_id"
        ∧ (original.field "expected").field "selector" = peer.field "selector"
        ∧ (original.field "expected").field "barrier" = peer.field "barrier"
        ∧ remoteReceipt sha256 original peer = .ok ()

variable {sha256 : List UInt8 → Bytes32}

theorem reconciledPeer_eq_ok {originals : List Json} {expected : PeerExpectation} {peer : Json}
    (h : reconciledPeer sha256 originals expected peer = .ok ()) :
    peer.field "selector" = Serialize.json expected.selector
      ∧ peer.field "barrier" = Serialize.json expected.barrier
      ∧ Reconciled sha256 originals peer := by
  unfold reconciledPeer at h
  split at h
  · cases h
  · next hfields =>
    simp only [Bool.not_eq_true', Bool.not_eq_false, Bool.and_eq_true, decide_eq_true_eq] at hfields
    refine ⟨hfields.1, hfields.2, ?_⟩
    split at h
    · next original horiginal =>
      have hmem : original ∈ originals.filter fun original =>
          (original.field "expected").field "attachment_id" = peer.field "attachment_id" := by
        simp [horiginal]
      obtain ⟨hmem, hid⟩ := List.mem_filter.mp hmem
      split at h
      · cases h
      · next hsame =>
        simp only [Bool.not_eq_true', Bool.not_eq_false, Bool.and_eq_true, decide_eq_true_eq]
          at hsame
        split at h
        · next hnull =>
          split at h
          · next houtcome => exact .inl ⟨hnull, by simpa [Json.isText] using houtcome⟩
          · cases h
        · exact .inr ⟨original, hmem, by simpa using hid, hsame.1, hsame.2, h⟩
    · cases h

theorem checkReconciled_eq_ok {peers originals : List Json} {earlier : List PeerExpectation}
    {expected : PeerExpectation}
    (h : checkReconciled sha256 peers originals earlier expected = .ok ()) :
    earlier.any (·.attachmentId = expected.attachmentId) = false
      ∧ ∃ peer, peers.filter (·.field "attachment_id" = bytesJson expected.attachmentId) = [peer]
        ∧ ReportAgrees expected peer ∧ Reconciled sha256 originals peer := by
  unfold checkReconciled at h
  split at h
  · cases h
  · next hearlier =>
    refine ⟨by simpa using hearlier, ?_⟩
    split at h
    · next peer hpeer =>
      have hmem : peer ∈ peers.filter
          (·.field "attachment_id" = bytesJson expected.attachmentId) := by simp [hpeer]
      have hid := (List.mem_filter.mp hmem).2
      have hreconciled := reconciledPeer_eq_ok h
      exact ⟨peer, hpeer, ⟨by simpa using hid, hreconciled.1, hreconciled.2.1⟩, hreconciled.2.2⟩
    · cases h

theorem matched_of_requirePeerReconciliation {owner : CandidateOwner} {value reservation : Json}
    (h : owner.requirePeerReconciliation sha256 value reservation = .ok ()) :
    ∃ peers originals, (value.field "peers").asArray = some peers
      ∧ ((reservation.field "plan").field "peers").asArray = some originals
      ∧ Matched owner.expectedPeers peers ReportAgrees (Reconciled sha256 originals) := by
  unfold CandidateOwner.requirePeerReconciliation at h
  split at h
  · cases h
  · split at h
    · cases h
    · next peers hpeers =>
      split at h
      · cases h
      · next originals horiginals =>
        split at h
        · cases h
        · next hcoverage =>
          simp only [Bool.or_eq_true, decide_eq_true_eq, not_or, not_not] at hcoverage
          have hchecks : ∀ i : Fin owner.expectedPeers.length,
              checkReconciled sha256 peers originals (owner.expectedPeers.take i)
                owner.expectedPeers[i] = .ok () :=
            forall_of_loop (fun _ _ _ => rfl) owner.expectedPeers [] h
          refine ⟨peers, originals, hpeers, horiginals, matched_of_found
            (fun x y => decide (y.field "attachment_id" = bytesJson x.attachmentId))
            hcoverage.1.2.symm (fun i => (checkReconciled_eq_ok (hchecks i)).2) ?_ ?_ ?_⟩
          · intro x y hagree
            simpa using hagree.1
          · intro x x' y hx hx'
            simp only [decide_eq_true_eq] at hx hx'
            exact bytesJson_injective (hx.symm.trans hx')
          · exact distinct_of_forall fun i => (checkReconciled_eq_ok (hchecks i)).1

end

/-! ## Drain receipts -/

/-- The receipt names the attachment and the barrier of the expected peer. -/
def ReceiptAgrees (expected : PeerExpectation) (value : Json) : Prop :=
  (value.field "predecessor").field "attachment_id" = bytesJson expected.attachmentId
    ∧ value.field "transaction_id" = bytesJson expected.barrier.id

theorem checkDrained_eq_ok {peers : List Json} {drained drained' : Bool} {peer : PeerExpectation}
    (h : checkDrained peers drained peer = .ok drained') :
    ∃ value, peers.filter (fun value =>
        (value.field "predecessor").field "attachment_id" = bytesJson peer.attachmentId) = [value]
      ∧ ReceiptAgrees peer value ∧ drained' = (drained && drainedReceipt value) := by
  unfold checkDrained at h
  split at h
  · next value hvalue =>
    have hmem : value ∈ peers.filter (fun value =>
        (value.field "predecessor").field "attachment_id" = bytesJson peer.attachmentId) := by
      simp [hvalue]
    have hid := (List.mem_filter.mp hmem).2
    split at h
    · next hbarrier => exact ⟨value, hvalue, ⟨by simpa using hid, hbarrier⟩, (Except.ok.inj h).symm⟩
    · cases h
  · cases h

/-- The loop says that the predecessor is drained only if every receipt it has found says so. -/
theorem checkDrained_loop {peers : List Json} (expected : List PeerExpectation) {drained : Bool}
    (h : expected.foldlM (checkDrained peers) drained = .ok true) :
    drained = true ∧ ∀ peer ∈ expected, ∃ value, peers.filter (fun value =>
        (value.field "predecessor").field "attachment_id" = bytesJson peer.attachmentId) = [value]
      ∧ ReceiptAgrees peer value ∧ drainedReceipt value = true := by
  induction expected generalizing drained with
  | nil => exact ⟨Except.ok.inj h, by simp⟩
  | cons peer rest ih =>
    rw [List.foldlM_cons] at h
    obtain ⟨drained', hpeer, hrest⟩ := bind_eq_ok h
    obtain ⟨value, hvalue, hagree, hdrained⟩ := checkDrained_eq_ok hpeer
    obtain ⟨htrue, hall⟩ := ih hrest
    rw [htrue] at hdrained
    have hboth := Bool.and_eq_true_iff.mp hdrained.symm
    refine ⟨hboth.1, ?_⟩
    intro peer' hmem
    rcases List.mem_cons.mp hmem with rfl | hmem
    · exact ⟨value, hvalue, hagree, hboth.2⟩
    · exact hall peer' hmem

theorem matched_of_mbbOldDrained {receipt : Json} {transaction : String}
    (hdistinct : (expected.map (·.attachmentId)).Nodup)
    (h : mbbOldDrained receipt expected transaction = .ok true) :
    ∃ peers, (receipt.field "peers").asArray = some peers
      ∧ Matched expected peers ReceiptAgrees (drainedReceipt · = true) := by
  unfold mbbOldDrained at h
  split at h
  · cases h
  · split at h
    · cases h
    · next peers hpeers =>
      split at h
      · cases h
      · next hcoverage =>
        have hchecks := (checkDrained_loop expected h).2
        refine ⟨peers, hpeers, matched_of_found (fun x y => decide
            ((y.field "predecessor").field "attachment_id" = bytesJson x.attachmentId))
          (not_not.mp hcoverage).symm (fun i => hchecks expected[i] (List.getElem_mem i.isLt)) ?_ ?_ ?_⟩
        · intro x y hagree
          simpa using hagree.1
        · intro x x' y hx hx'
          simp only [decide_eq_true_eq] at hx hx'
          exact bytesJson_injective (hx.symm.trans hx')
        · intro i j hij
          have heq := List.inj_on_of_nodup_map hdistinct (List.getElem_mem i.isLt)
            (List.getElem_mem j.isLt) hij
          exact Fin.ext ((List.Nodup.getElem_inj_iff (List.Nodup.of_map _ hdistinct)).mp heq)

/-! ## The checks together -/

/-- Whenever a check of installation proofs or of a reconciliation succeeds, and whenever the
predecessor counts as drained, the reported entries are matched with the expected peers in exactly
one way, and every entry has the flags that the check requires. -/
theorem coverage_matched [Serialize RoutingCandidate] [Serialize BarrierIdentity]
    (sha256 : List UInt8 → Bytes32) :
    (∀ (proof : CandidateProof) (envelope : AuthorityEnvelope) (expected : List PeerExpectation),
      proof.requireIdentity envelope expected = .ok () →
        Matched expected proof.peers PeerProof.Agrees PeerProof.Confirmed)
    ∧ (∀ (proof : CandidateProof) (envelope : AuthorityEnvelope) (expected : List PeerExpectation),
      proof.requireInstalled envelope expected = .ok () →
        Matched expected proof.peers PeerProof.Agrees PeerProof.Confirmed
          ∧ ∀ peer ∈ proof.peers, peer.drainFailed = false)
    ∧ (∀ (owner : CandidateOwner) (value reservation : Json),
      owner.requirePeerReconciliation sha256 value reservation = .ok () →
        ∃ peers originals, (value.field "peers").asArray = some peers
          ∧ ((reservation.field "plan").field "peers").asArray = some originals
          ∧ Matched owner.expectedPeers peers ReportAgrees (Reconciled sha256 originals))
    ∧ ∀ (receipt : Json) (expected : List PeerExpectation) (transaction : String),
      (expected.map (·.attachmentId)).Nodup →
        mbbOldDrained receipt expected transaction = .ok true →
          ∃ peers, (receipt.field "peers").asArray = some peers
            ∧ Matched expected peers ReceiptAgrees (drainedReceipt · = true) := by
  refine ⟨fun _ _ _ h => matched_of_requireIdentity h, fun _ _ _ h => ?_,
    fun _ _ _ h => matched_of_requirePeerReconciliation h,
    fun _ _ _ hdistinct h => matched_of_mbbOldDrained hdistinct h⟩
  have hinstalled := requireIdentity_of_requireInstalled h
  exact ⟨matched_of_requireIdentity hinstalled.1, hinstalled.2⟩

/-- An object lists its fields by name. -/
def RoutingCandidate.json (selector : RoutingCandidate) : Json :=
  .obj [("authorization_sha256", bytesJson selector.authorizationSha256),
    ("candidate_id", bytesJson selector.candidateId),
    ("local_attachment_epoch", .int selector.localAttachmentEpoch),
    ("owner_epoch", .int selector.ownerEpoch),
    ("peer_attachment_epoch", .int selector.peerAttachmentEpoch),
    ("policy_generation", .int selector.policyGeneration),
    ("transaction_id", bytesJson selector.transactionId),
    ("tunnel_id", .int selector.tunnelId)]

def BarrierIdentity.json (barrier : BarrierIdentity) : Json :=
  .obj [("fence", .int barrier.fence), ("generation", .int barrier.generation),
    ("hash", bytesJson barrier.hash), ("id", bytesJson barrier.id)]

instance : Serialize RoutingCandidate where
  json := RoutingCandidate.json
  injective a b h := by
    simp only [RoutingCandidate.json, Json.obj.injEq, List.cons.injEq, Prod.mk.injEq, Json.int.injEq,
      Nat.cast_inj, bytesJson_injective.eq_iff] at h
    cases a
    cases b
    simp_all

instance : Serialize BarrierIdentity where
  json := BarrierIdentity.json
  injective a b h := by
    simp only [BarrierIdentity.json, Json.obj.injEq, List.cons.injEq, Prod.mk.injEq, Json.int.injEq,
      Nat.cast_inj, bytesJson_injective.eq_iff] at h
    cases a
    cases b
    simp_all

namespace OnePeer

/-- An expected peer. -/
def expectation : PeerExpectation where
  attachmentId := Vector.replicate 16 1
  selector := {
    transactionId := Vector.replicate 32 2
    ownerEpoch := 2
    policyGeneration := 3
    authorizationSha256 := Vector.replicate 32 3
    candidateId := Vector.replicate 16 4
    localAttachmentEpoch := 1
    peerAttachmentEpoch := 1
    tunnelId := 1 }
  barrier := { id := Vector.replicate 32 2, generation := 3, fence := 4, hash := Vector.replicate 32 5 }

/-- The receipts of a predecessor of this peer. -/
def receipt (drained : Bool) : Json :=
  .obj [("peers", .arr [.obj [("marker_received", .bool true), ("marker_written", .bool true),
      ("output_drained", .bool drained),
      ("predecessor", .obj [("attachment_id", bytesJson expectation.attachmentId)]),
      ("transaction_id", bytesJson expectation.barrier.id)]]),
    ("transaction_id", .str "exact")]

/-- Those of this peer and an entry of nobody. -/
def strayReceipt : Json :=
  .obj [("peers", .arr ((((receipt true).field "peers").asArray.getD []) ++ [.obj []])),
    ("transaction_id", .str "exact")]

def authority : AuthorityEnvelope where
  transactionId := "exact"
  authorityRevision := 1
  binding := ⟨Vector.replicate 16 6, Vector.replicate 16 7, 1, 1, 2, 3⟩
  candidate := ⟨42, 100⟩
  controller := ⟨43, 101⟩
  controllerEpoch := 1
  signedControlHash := "03"
  declarationHash := "04"
  verificationReportHash := "05"
  snapshotClosureHash := "06"
  signedMinExpiryUnix := 5000
  effectiveExpiryUnix := 5000
  verifiedAtUnix := 1000
  verifiedAtMonoMs := 2000
  effectiveDeadlineMonoMs := 20000
  bootId := "boot"

/-- The installation of the peer. -/
def installation : CandidateProof where
  schemaVersion := 1
  transactionId := "exact"
  phase := "installed"
  localProof := ⟨Vector.replicate 16 7, 2, "03", authority.binding⟩
  peers := [⟨expectation.attachmentId, expectation.selector, expectation.barrier, true, true, true,
    true, false⟩]
  forcedRetirement := false

def owner : CandidateOwner where
  envelope := authority
  expectedActive := none
  prepareDeadlineMonoMs := 20000
  expectedPeers := [expectation]
  commitIntent := false
  precommitCancellation := none
  committedFailure := none
  committedIsolation := none
  expiredCommitRetirement := none

/-- The historical result: nothing is known about the remote installation. -/
def result : Json :=
  .obj [("authorization_sha256", .str "03"), ("boot_id", .str "boot"),
    ("original_deadline_mono_ms", .int 20000), ("owner_epoch", .int 2),
    ("peers", .arr [.obj [("attachment_id", bytesJson expectation.attachmentId),
      ("barrier", expectation.barrier.json), ("remote_outcome", .str "unknown"),
      ("selector", expectation.selector.json)]]),
    ("phase", .str "reconciled_original_candidate"), ("read_only", .bool true),
    ("schema_version", .int 1), ("transaction_id", .str "exact")]

def reservation : Json :=
  .obj [("boot_id", .str "boot"), ("original_deadline_mono_ms", .int 20000),
    ("plan", .obj [("peers", .arr [.obj [("expected", .obj [
      ("attachment_id", bytesJson expectation.attachmentId),
      ("barrier", expectation.barrier.json), ("selector", expectation.selector.json)])]])])]

end OnePeer

open OnePeer in
theorem coverage_matched_onePeer :
    Matched [expectation] installation.peers PeerProof.Agrees PeerProof.Confirmed
    ∧ (∃ peers originals, (result.field "peers").asArray = some peers
      ∧ ((reservation.field "plan").field "peers").asArray = some originals
      ∧ Matched [expectation] peers ReportAgrees (Reconciled (fun _ => Bytes32.zero) originals))
    ∧ ∃ peers, ((receipt true).field "peers").asArray = some peers
      ∧ Matched [expectation] peers ReceiptAgrees (drainedReceipt · = true) := by
  have h := coverage_matched fun _ => Bytes32.zero
  have hinstalled : installation.requireInstalled authority [expectation] = .ok () := by decide
  have hreconciled : owner.requirePeerReconciliation (fun _ => Bytes32.zero) result reservation
      = .ok () := by decide
  have hdrained : mbbOldDrained (receipt true) [expectation] "exact" = .ok true := by decide
  exact ⟨(h.2.1 installation authority [expectation] hinstalled).1,
    h.2.2.1 owner result reservation hreconciled,
    h.2.2.2 (receipt true) [expectation] "exact" (by decide) hdrained⟩

open OnePeer in
/-- The receipts of the predecessor bind no selector, and the check succeeds without the flags. -/
theorem not_covered_onePeer :
    (mbbOldDrained (receipt true) [expectation] "exact" = .ok true
      ∧ ¬ ∃ peers, ((receipt true).field "peers").asArray = some peers
        ∧ ∃ σ : Fin [expectation].length ≃ Fin peers.length, ∀ i,
          (peers[σ i].field "predecessor").field "attachment_id"
              = bytesJson [expectation][i].attachmentId
            ∧ peers[σ i].field "selector" = [expectation][i].selector.json
            ∧ peers[σ i].field "barrier" = [expectation][i].barrier.json)
    ∧ mbbOldDrained (receipt false) [expectation] "exact" = .ok false := by
  refine ⟨⟨by decide, ?_⟩, by decide⟩
  rintro ⟨peers, hpeers, σ, hσ⟩
  obtain ⟨-, hselector, -⟩ := hσ 0
  have hnone : ∀ peer ∈ peers, peer.field "selector" = .null := by
    obtain rfl := Option.some.inj hpeers
    decide
  cases (hnone _ (List.getElem_mem (σ 0).isLt)).symm.trans hselector

open OnePeer in
/-- If the expected peers repeat, the receipts of the predecessor need not match: the one entry is found
twice, and the other one is never looked at. -/
theorem not_matched_of_repeated :
    mbbOldDrained strayReceipt [expectation, expectation] "exact" = .ok true
      ∧ ¬ ∃ peers, (strayReceipt.field "peers").asArray = some peers
        ∧ Matched [expectation, expectation] peers ReceiptAgrees (drainedReceipt · = true) := by
  refine ⟨by decide, ?_⟩
  rintro ⟨peers, hpeers, -, hflags⟩
  obtain rfl := Option.some.inj hpeers
  have hstray := hflags (.obj []) (by simp)
  revert hstray
  decide

end CandyRuntime.Agent
