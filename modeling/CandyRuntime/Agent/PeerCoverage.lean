import CandyRuntime.Agent.CandidateOwner
import CandyRuntime.Lib.Json

/-!
# The coverage checks on reports of Core

What the agent requires of a report of peers that it gets as JSON: the historical result of a
candidate (`require_peer_reconciliation`) and the drain receipts of the predecessor
(`mbb_old_drained`). The check of an installation proof is `CandidateProof.requireIdentity`.
-/

namespace CandyRuntime.Agent

open Lib NetdProto Tunio

/-! ## As JSON -/

def bytesJson {n : ℕ} (bytes : Vector UInt8 n) : Json := .ofBytes bytes.toList

/-! ## Reconciliation -/

-- the digest of a byte string
variable (sha256 : List UInt8 → Bytes32) [Serialize RoutingCandidate] [Serialize BarrierIdentity]

/-- The receipt of a remote installation, for the request and the response of the reservation. -/
def remoteReceipt (original peer : Json) : Except String Unit :=
  let remote := peer.field "remote_installation"
  let reservation := original.field "reservation"
  match ((reservation.field "intent").field "request").asBytes,
    ((reservation.field "response").field "response").asBytes with
  | some request, some response =>
    if (remote.field "schema_version").isNat 1
        && (peer.field "remote_outcome").isText "installed_ack_recorded"
        && (peer.field "commit_intent").isTrue
        && remote.field "selector" = peer.field "selector"
        && remote.field "barrier" = peer.field "barrier"
        && remote.field "peer_attachment_id" = peer.field "attachment_id"
        && remote.field "request_sha256" = bytesJson (sha256 request)
        && remote.field "response_sha256" = bytesJson (sha256 response)
        && (remote.field "commit_ack").asArray.any (!·.isEmpty)
        && remote.field "connection" ≠ .null then .ok ()
    else .error "code=candidate_reconciliation_remote_receipt_mismatch"
  | _, _ => .error "invalid type"

/-- What the loop of `require_peer_reconciliation` requires of a peer that it has found. -/
def reconciledPeer (originals : List Json) (expected : PeerExpectation) (peer : Json) :
    Except String Unit :=
  if !(peer.field "selector" = Serialize.json expected.selector
      && peer.field "barrier" = Serialize.json expected.barrier) then
    .error "code=candidate_reconciliation_peer_mismatch"
  else match originals.filter fun original =>
      (original.field "expected").field "attachment_id" = peer.field "attachment_id" with
    | [original] =>
      if !((original.field "expected").field "selector" = peer.field "selector"
          && (original.field "expected").field "barrier" = peer.field "barrier") then
        .error "candidate reconciliation original peer missing"
      else if peer.field "remote_installation" = .null then
        if (peer.field "remote_outcome").isText "unknown" then .ok ()
        else .error "code=candidate_reconciliation_remote_unproven"
      else remoteReceipt sha256 original peer
    | _ => .error "candidate reconciliation original peer missing"

/-- One round of the loop of `require_peer_reconciliation`. -/
def checkReconciled (peers originals : List Json) (earlier : List PeerExpectation)
    (expected : PeerExpectation) : Except String Unit :=
  if earlier.any (·.attachmentId = expected.attachmentId) then
    .error "code=candidate_reconciliation_duplicate_expected_peer"
  else match peers.filter (·.field "attachment_id" = bytesJson expected.attachmentId) with
    | [peer] => reconciledPeer sha256 originals expected peer
    | _ => .error "candidate reconciliation duplicate or missing peer"

/-- The loop of `require_peer_reconciliation`. -/
def checkAllReconciled (peers originals : List Json) (earlier : List PeerExpectation) :
    List PeerExpectation → Except String Unit
  | [] => .ok ()
  | expected :: rest => do
    checkReconciled sha256 peers originals earlier expected
    checkAllReconciled peers originals (earlier ++ [expected]) rest

/-- `require_peer_reconciliation`. -/
def CandidateOwner.requirePeerReconciliation (owner : CandidateOwner) (value reservation : Json) :
    Except String Unit :=
  if !((value.field "schema_version").isNat 1
      && (value.field "read_only").isTrue
      && (value.field "phase").isText "reconciled_original_candidate"
      && (value.field "transaction_id").isText owner.envelope.transactionId
      && (value.field "authorization_sha256").isText owner.envelope.signedControlHash
      && (value.field "owner_epoch").isNat owner.envelope.binding.ownerEpoch
      && value.field "original_deadline_mono_ms" = reservation.field "original_deadline_mono_ms"
      && (value.field "original_deadline_mono_ms").asU64.any (· ≠ 0)
      && value.field "boot_id" = reservation.field "boot_id"
      && (value.field "boot_id").isText owner.envelope.bootId) then
    .error "code=candidate_reconciliation_identity_mismatch"
  else match (value.field "peers").asArray with
    | none => .error "candidate reconciliation peers absent"
    | some peers =>
      match ((reservation.field "plan").field "peers").asArray with
      | none => .error "candidate original reservation peers absent"
      | some originals =>
        if peers.isEmpty || peers.length ≠ owner.expectedPeers.length
            || originals.length ≠ peers.length then
          .error "code=candidate_reconciliation_coverage_mismatch"
        else checkAllReconciled sha256 peers originals [] owner.expectedPeers

/-! ## The predecessor -/

/-- The predecessor has written and received the markers of a peer, and its output is drained. -/
def drainedReceipt (value : Json) : Bool :=
  (value.field "marker_written").isTrue && (value.field "marker_received").isTrue
    && (value.field "output_drained").isTrue

/-- One round of the loop of `mbb_old_drained`. -/
def checkDrained (peers : List Json) (drained : Bool) (peer : PeerExpectation) :
    Except String Bool :=
  match peers.filter fun value =>
      (value.field "predecessor").field "attachment_id" = bytesJson peer.attachmentId with
  | [value] =>
    if value.field "transaction_id" = bytesJson peer.barrier.id then
      .ok (drained && drainedReceipt value)
    else .error "code=predecessor_barrier_mismatch"
  | _ => .error "code=predecessor_peer_coverage_mismatch"

/-- `mbb_old_drained`. -/
def mbbOldDrained (receipt : Json) (expected : List PeerExpectation) (transaction : String) :
    Except String Bool :=
  if !(receipt.field "transaction_id").isText transaction then
    .error "code=predecessor_transaction_mismatch"
  else match (receipt.field "peers").asArray with
    | none => .error "predecessor peer receipts absent"
    | some peers =>
      if peers.length ≠ expected.length then .error "code=predecessor_peer_coverage_mismatch"
      else expected.foldlM (checkDrained peers) true

end CandyRuntime.Agent
