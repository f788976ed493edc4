import CandyRuntime.CloudEnroll.Enrollment
import Mathlib.Logic.Relation

/-!
# Enrollment runs and what they are for

Runs follow each other in one state directory, at any distance in time. An enrollment is sound if its keys
and request ids stay, if its identity is complete, and if some later run is not refused.
-/

namespace CandyRuntime.CloudEnroll

open Lib Lib.Proc

/-! ## Runs -/

/-- What Cloud and the clock promise: a new challenge and a new device can be used when they are made,
and time does not go back. -/
structure Allowed (c : Codec) (a : Answers) (w : World) : Prop where
  completed : w.now ≤ a.completedAt
  checked : a.completedAt ≤ a.checkedAt
  nonce : c.isBase64UrlOf32 a.challenge.serverNonce = true
  chain : validPemChain a.device.certificateChainPem = true

/-- One run of the client, with any end. -/
def Step (c : Codec) (w w' : World) : Prop :=
  ∃ a, Allowed c a w ∧ w' = { (run c a w).2 with now := a.checkedAt }

/-- Any number of runs. -/
def Later (c : Codec) : World → World → Prop := Relation.ReflTransGen (Step c)

/-- Before the first run: there may be an installation id, and files that no run has written. -/
structure Start (w : World) : Prop where
  state : w.files.state = none
  identity : w.files.identity = none
  installationId : ∀ value, w.files.installationId = some value →
    validInstallationInstanceId value = true
  cloud : w.cloud = ⟨[], []⟩

/-! ## What enrollment is for -/

/-- The key files have the public keys of the transaction. -/
def KeysMatch (c : Codec) (files : Files) (state : EnrollmentState) : Prop :=
  ∃ root operational, files.rootKey = some root ∧ files.operationalKey = some operational
    ∧ c.verifyingKey root = state.rootPublicKey
    ∧ c.verifyingKey operational = state.operationalPublicKey

/-- The certificate files belong to the device of the identity and to the operational key. -/
def BelongsTo (c : Codec) (files : Files) (identity : DeviceIdentity) : Prop :=
  ∃ certificate chain key, files.certificateDer = some certificate
    ∧ files.certificatePem = some certificate ∧ files.chain = some chain
    ∧ files.mtls = some ⟨certificate, chain, key⟩ ∧ files.operationalKey = some key
    ∧ certificate.publicKey = c.verifyingKey key ∧ certificate.deviceId = identity.deviceId
    ∧ certificate.deviceKeyId = identity.deviceKeyId

/-- The enrollment is over. -/
def Registered (w : World) : Prop := w.files.state = none ∧ w.files.identity ≠ none

/-- A run with a valid bootstrap file, of the Cloud of the pending transaction if there is one: nothing is
lost, nothing fails, and a new challenge and a new certificate last longer than the run. -/
structure Undisturbed (a : Answers) (w : World) : Prop where
  bootstrap : ∃ document, a.bootstrap = some document
    ∧ ∀ state, w.files.state = some state → state.cloudAddress = document.cloudAddress
  stateDir : a.stateDir = true
  displayName : validDisplayName a.displayName = true
  client : a.client = true
  changes : ∀ place, a.changes place = .done
  exchange : a.exchange = .done
  manifest : a.manifest ≠ none
  challengeRequest : a.challengeRequest = .done
  completeRequest : a.completeRequest = .done
  challenge : a.completedAt < a.challenge.expiresAt
  device : a.checkedAt ≤ a.device.certificateNotAfter

/-- Every undisturbed run from now on is refused. -/
def RefusedForEver (c : Codec) (w : World) : Prop :=
  ∀ w' a, Later c w w' → Allowed c a w' → Undisturbed a w' → ∀ s, run c a w' ≠ (.ok (), s)

/-- The same transaction: request ids, keys, Cloud and installation. -/
structure SameTransaction (state state' : EnrollmentState) : Prop where
  challengeRequestId : state'.challengeRequestId = state.challengeRequestId
  completionRequestId : state'.completionRequestId = state.completionRequestId
  rootPublicKey : state'.rootPublicKey = state.rootPublicKey
  operationalPublicKey : state'.operationalPublicKey = state.operationalPublicKey
  cloudAddress : state'.cloudAddress = state.cloudAddress
  enrollmentInstanceId : state'.enrollmentInstanceId = state.enrollmentInstanceId

/-- What an enrollment has to be at any time. -/
structure Sound (c : Codec) (w : World) : Prop where
  keys : ∀ state, w.files.state = some state → KeysMatch c w.files state
  requestIds : ∀ state w' state', w.files.state = some state → Later c w w' →
    w'.files.state = some state' → SameTransaction state state'
  oneDevice : w.cloud.completions.length ≤ 1
  identity : ∀ identity, w.files.identity = some identity → BelongsTo c w.files identity
  resumable : ¬ Registered w → ¬ RefusedForEver c w

/-- The pending transaction cannot be completed any more: its challenge has expired before Cloud has made
the device, or the certificate of its device has. -/
def Lapsed (w : World) : Prop :=
  ∃ state, w.files.state = some state
    ∧ ((w.cloud.completions.lookup state.completionRequestId = none
        ∧ ∃ issued, w.cloud.challenges.lookup state.challengeRequestId = some issued
          ∧ issued.challenge.expiresAt ≤ w.now)
      ∨ ∃ completed, w.cloud.completions.lookup state.completionRequestId = some completed
        ∧ completed.certificate.notAfter < w.now)

end CandyRuntime.CloudEnroll
