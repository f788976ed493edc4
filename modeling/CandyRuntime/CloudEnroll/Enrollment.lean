import CandyRuntime.Lib.Proc
import Mathlib.Data.List.Infix
import Mathlib.Data.Nat.Notation

/-!
# The enrollment of a device

`run` of the enrollment client, its state directory and Cloud. A file is written with `atomic_bytes`, so
a write has taken effect or not, however it ends; a request has reached Cloud or not, however it ends. A
time is a number, and a certificate is what is read from it. Cloud is as the client relies on it: a
request id that it has seen gets the first result again.
-/

namespace CandyRuntime.CloudEnroll

open Lib Lib.Proc

/-- The text of a `Uuid`. -/
abbrev Uuid := String

/-! ## Data -/

/-- A private key, by its seed. -/
structure SigningKey where
  seed : ℕ
deriving DecidableEq, Repr

/-- `ChallengeState`. -/
structure Challenge where
  challengeId : Uuid
  organizationId : Uuid
  serverNonce : String
  expiresAt : ℕ
deriving DecidableEq, Repr

/-- `EnrollmentState`. -/
structure EnrollmentState where
  cloudAddress : String
  enrollmentInstanceId : String
  displayName : String
  tenantId : Option Uuid
  siteId : Option Uuid
  challengeRequestId : String
  completionRequestId : String
  rootPublicKey : String
  operationalPublicKey : String
  metadataHash : String
  attestationHash : String
  challenge : Option Challenge
deriving DecidableEq, Repr

/-- What `read_bootstrap_document` returns, with the address without its last slashes. -/
structure BootstrapDocument where
  cloudAddress : String
  bootstrapCode : String
deriving DecidableEq, Repr

/-- `BootstrapManifest`, as far as it is kept. -/
structure BootstrapManifest where
  tenantId : Uuid
  siteId : Uuid
  displayName : String
deriving DecidableEq, Repr

/-- A device certificate. -/
structure Certificate where
  publicKey : String
  deviceId : Uuid
  deviceKeyId : Uuid
  notAfter : ℕ
deriving DecidableEq, Repr

/-- `CompleteResponse`. -/
structure CompleteResponse where
  deviceId : Uuid
  deviceKeyId : Uuid
  certificate : Certificate
  certificateChainPem : String
  notAfter : String
deriving DecidableEq, Repr

/-- `DeviceIdentity`. -/
structure DeviceIdentity where
  cloudAddress : String
  organizationId : Uuid
  tenantId : Option Uuid
  siteId : Option Uuid
  displayName : String
  deviceId : Uuid
  deviceKeyId : Uuid
  notAfter : String
deriving DecidableEq, Repr

/-- `device-mtls.pem`. -/
structure MtlsIdentity where
  certificate : Certificate
  chain : String
  key : SigningKey
deriving DecidableEq, Repr

/-- The state directory. -/
structure Files where
  state : Option EnrollmentState
  installationId : Option String
  rootKey : Option SigningKey
  operationalKey : Option SigningKey
  certificateDer : Option Certificate
  certificatePem : Option Certificate
  chain : Option String
  mtls : Option MtlsIdentity
  identity : Option DeviceIdentity
deriving DecidableEq, Repr

/-! ## Checks -/

/-- A character of unpadded base64url. -/
def isBase64Url (c : Char) : Bool := c.isAlphanum || c == '-' || c == '_'

/-- The encodings and digests of the client. -/
structure Codec where
  /-- `url_encode` of the verifying key -/
  verifyingKey : SigningKey → String
  metadataHash : String → String → String
  attestationHash : String → String
  /-- whether `decode_fixed` has 32 bytes for a text -/
  decodesTo32 : String → Bool
  /-- `url_encode` of 32 zero bytes -/
  zeroNonce : String
  zeroNonce_valid : (zeroNonce.toList.all isBase64Url && decodesTo32 zeroNonce) = true

/-- `validate_base64url` of 32 bytes. -/
def Codec.isBase64UrlOf32 (c : Codec) (value : String) : Bool :=
  value.toList.all isBase64Url && c.decodesTo32 value

/-- `validate_installation_instance_id`. -/
def validInstallationInstanceId (value : String) : Bool :=
  !value.isEmpty && value.utf8ByteSize ≤ 120
    && value.toList.all fun c => c.isAlphanum || c == '.' || c == '_' || c == ':' || c == '-'

/-- `validate_display_name`. -/
def validDisplayName (value : String) : Bool :=
  !value.isEmpty && value.utf8ByteSize ≤ 200
    && !value.toList.any fun c => c.toNat < 32 || (127 ≤ c.toNat && c.toNat < 160)

/-- `validate_pem_chain`. -/
def validPemChain (value : String) : Bool :=
  !value.isEmpty && value.utf8ByteSize ≤ 1024 * 1024
    && decide ("-----BEGIN CERTIFICATE-----".toList <:+: value.toList)
    && decide ("-----END CERTIFICATE-----".toList <:+: value.toList)

/-- `validate_device_certificate`. -/
def validDeviceCertificate (certificate : Certificate) (operationalPublicKey : String)
    (deviceId deviceKeyId : Uuid) (now : ℕ) : Bool :=
  certificate.publicKey = operationalPublicKey && decide (now ≤ certificate.notAfter)
    && certificate.deviceId = deviceId && certificate.deviceKeyId = deviceKeyId

/-! ## Cloud -/

/-- A challenge and the key that it was issued for. -/
structure Issued where
  challenge : Challenge
  operationalPublicKey : String
deriving DecidableEq, Repr

/-- What Cloud has recorded under the request ids of this device. -/
structure Cloud where
  challenges : List (String × Issued)
  completions : List (String × CompleteResponse)
deriving DecidableEq, Repr

/-- What Cloud makes of a new device. -/
structure Device where
  deviceId : Uuid
  deviceKeyId : Uuid
  certificateNotAfter : ℕ
  certificateChainPem : String
  notAfter : String
deriving DecidableEq, Repr

/-- The challenge of a request id; a new request id gets a new one. -/
def Cloud.issue (cloud : Cloud) (requestId operationalPublicKey : String) (new : Challenge) :
    Challenge × Cloud :=
  match cloud.challenges.lookup requestId with
  | some issued => (issued.challenge, cloud)
  | none =>
    (new, { cloud with
      challenges := cloud.challenges ++ [(requestId, ⟨new, operationalPublicKey⟩)] })

/-- The device of a request id; a new request id gets a new device if its challenge is alive. -/
def Cloud.complete (cloud : Cloud) (challengeId : Uuid) (requestId : String) (now : ℕ)
    (device : Device) : Option (CompleteResponse × Cloud) :=
  match cloud.completions.lookup requestId with
  | some completed => some (completed, cloud)
  | none =>
    match cloud.challenges.find? fun entry => decide (entry.2.challenge.challengeId = challengeId) with
    | none => none
    | some entry =>
      if entry.2.challenge.expiresAt ≤ now then none
      else
        let completed : CompleteResponse :=
          { deviceId := device.deviceId
            deviceKeyId := device.deviceKeyId
            certificate := ⟨entry.2.operationalPublicKey, device.deviceId, device.deviceKeyId,
              device.certificateNotAfter⟩
            certificateChainPem := device.certificateChainPem
            notAfter := device.notAfter }
        some (completed, { cloud with completions := cloud.completions ++ [(requestId, completed)] })

/-! ## One run -/

/-- The state directory, Cloud and the time. -/
structure World where
  files : Files
  cloud : Cloud
  now : ℕ
deriving DecidableEq, Repr

/-- The changes of files, in their order. -/
inductive Change where
  | rootKey
  | operationalKey
  | installationId
  | created
  | manifest
  | challenge
  | certificateDer
  | certificatePem
  | chain
  | mtls
  | identity
  | removeState
  | removeBootstrap
deriving DecidableEq, Repr

/-- What surrounds one run: what it reads and draws, and how its changes and requests end. -/
structure Answers where
  bootstrap : Option BootstrapDocument
  stateDir : Bool
  displayName : String
  rootKey : SigningKey
  operationalKey : SigningKey
  instanceId : { value : String // validInstallationInstanceId value = true }
  challengeUuid : Uuid
  completionUuid : Uuid
  client : Bool
  changes : Change → Write
  exchange : Write
  /-- the answer of the exchange, if it passes `validate_bootstrap_manifest` -/
  manifest : Option BootstrapManifest
  challengeRequest : Write
  challenge : Challenge
  completeRequest : Write
  device : Device
  completedAt : ℕ
  checkedAt : ℕ

section

variable (c : Codec) (a : Answers)

/-- A change of the state directory. -/
def change (place : Change) (f : Files → Files) : Proc World String Unit :=
  durable (a.changes place) "write state file" fun w => { w with files := f w.files }

/-- `post_json`: Cloud refuses, or it answers and has recorded the answer. -/
def post {α : Type} (request : Write) (error : String) (answer : Cloud → Option (α × Cloud)) :
    Proc World String α := do
  let w ← get
  match answer w.cloud with
  | none => do
    durable request error id
    fail error
  | some (value, cloud) => do
    durable request error fun w => { w with cloud }
    return value

/-- `persist_installation_instance_id`. -/
def persistInstallationInstanceId (expected : String) : Proc World String Unit := do
  ensure (validInstallationInstanceId expected) "persisted installation instance ID is invalid"
  let w ← get
  match w.files.installationId with
  | some persisted => do
    ensure (validInstallationInstanceId persisted) "persisted installation instance ID is invalid"
    ensure (persisted = expected)
      "persistent installation instance ID does not match the pending enrollment transaction"
  | none => change a .installationId fun files => { files with installationId := some expected }

/-- `load_or_create_installation_instance_id`. -/
def loadOrCreateInstallationInstanceId : Proc World String String := do
  let w ← get
  match w.files.installationId with
  | some persisted => do
    ensure (validInstallationInstanceId persisted) "persisted installation instance ID is invalid"
    return persisted
  | none => do
    change a .installationId fun files => { files with installationId := some a.instanceId.val }
    return a.instanceId.val

/-- A pending transaction is taken up. -/
def resume (bootstrap : BootstrapDocument) (existing : EnrollmentState) :
    Proc World String EnrollmentState := do
  persistInstallationInstanceId a existing.enrollmentInstanceId
  ensure (existing.cloudAddress = bootstrap.cloudAddress)
    "an enrollment transaction for another Cloud is already pending; leave it before joining a different Cloud"
  return existing

/-- A transaction begins: the keys are written before the state that names them. -/
def create (bootstrap : BootstrapDocument) : Proc World String EnrollmentState := do
  ensure (validDisplayName a.displayName)
    "device display name must be 1 to 200 printable characters"
  change a .rootKey fun files => { files with rootKey := some a.rootKey }
  change a .operationalKey fun files => { files with operationalKey := some a.operationalKey }
  let enrollmentInstanceId ← loadOrCreateInstallationInstanceId a
  let created : EnrollmentState :=
    { cloudAddress := bootstrap.cloudAddress
      enrollmentInstanceId
      displayName := a.displayName
      tenantId := none
      siteId := none
      challengeRequestId := "challenge-" ++ a.challengeUuid
      completionRequestId := "complete-" ++ a.completionUuid
      rootPublicKey := c.verifyingKey a.rootKey
      operationalPublicKey := c.verifyingKey a.operationalKey
      metadataHash := c.metadataHash enrollmentInstanceId a.displayName
      attestationHash := c.attestationHash enrollmentInstanceId
      challenge := none }
  change a .created fun files => { files with state := some created }
  return created

/-- The keys on the disk are those of the transaction. -/
def checkTransaction (state : EnrollmentState) : Proc World String EnrollmentState := do
  let w ← get
  let operationalKey ← okOr w.files.operationalKey "read operational private key"
  let rootKey ← okOr w.files.rootKey "read root private key"
  ensure (c.verifyingKey rootKey = state.rootPublicKey)
    "persisted root key does not match the pending enrollment transaction"
  ensure (c.verifyingKey operationalKey = state.operationalPublicKey)
    "persisted operational key does not match the pending enrollment transaction"
  ensure (validInstallationInstanceId state.enrollmentInstanceId)
    "persisted installation instance ID is invalid"
  ensure (a.client = true) "build Cloud enrollment HTTP client"
  return state

/-- The part of `run` that ends with a state whose keys have been checked. -/
def openTransaction : Proc World String EnrollmentState := do
  let bootstrap ← okOr a.bootstrap "inspect bootstrap file"
  ensure (a.stateDir = true) "Runtime state directory must be a real directory"
  let w ← get
  ensure (¬ (w.files.state.isNone ∧ w.files.identity.isSome))
    "this node is already registered; remove the existing identity only through candy leave"
  let state ← match w.files.state with
    | some existing => resume a bootstrap existing
    | none => create c a bootstrap
  checkTransaction c a state

/-- The state with what the manifest says. -/
def EnrollmentState.withManifest (state : EnrollmentState) (manifest : BootstrapManifest) :
    EnrollmentState :=
  { state with
    displayName := manifest.displayName
    tenantId := some manifest.tenantId
    siteId := some manifest.siteId
    metadataHash := c.metadataHash state.enrollmentInstanceId manifest.displayName }

def EnrollmentState.withChallenge (state : EnrollmentState) (challenge : Challenge) :
    EnrollmentState :=
  { state with challenge := some challenge }

/-- The exchange of the bootstrap code and the request of a challenge. -/
def requestChallenge (state : EnrollmentState) : Proc World String (EnrollmentState × Challenge) := do
  durable a.exchange "bootstrap exchange failed" id
  let manifest ← okOr a.manifest "Cloud returned an invalid bootstrap manifest"
  let state := state.withManifest c manifest
  change a .manifest fun files => { files with state := some state }
  let challenge ← post a.challengeRequest "Cloud enrollment request failed" fun cloud =>
    some (cloud.issue state.challengeRequestId state.operationalPublicKey a.challenge)
  ensure (c.isBase64UrlOf32 challenge.serverNonce) "server nonce must use unpadded base64url"
  let state := state.withChallenge challenge
  change a .challenge fun files => { files with state := some state }
  return (state, challenge)

/-- The part of `run` that ends with a challenge: a persisted one is used as it is. -/
def obtainChallenge (state : EnrollmentState) : Proc World String (EnrollmentState × Challenge) :=
  match state.challenge with
  | some challenge => pure (state, challenge)
  | none => requestChallenge c a state

/-- The part of `run` that ends with the device. -/
def completeEnrollment (state : EnrollmentState) (challenge : Challenge) :
    Proc World String CompleteResponse := do
  let completed ← post a.completeRequest "Cloud enrollment request failed" fun cloud =>
    cloud.complete challenge.challengeId state.completionRequestId a.completedAt a.device
  ensure (validPemChain completed.certificateChainPem) "Cloud returned an invalid certificate chain"
  ensure (validDeviceCertificate completed.certificate state.operationalPublicKey completed.deviceId
    completed.deviceKeyId a.checkedAt) "Cloud returned a device certificate outside its validity period"
  return completed

/-- The part of `run` that writes the identity, the document of the device last. -/
def install (state : EnrollmentState) (challenge : Challenge) (completed : CompleteResponse) :
    Proc World String Unit := do
  change a .certificateDer fun files => { files with certificateDer := some completed.certificate }
  change a .certificatePem fun files => { files with certificatePem := some completed.certificate }
  change a .chain fun files => { files with chain := some completed.certificateChainPem }
  let w ← get
  let key ← okOr w.files.operationalKey "read operational key for mTLS identity"
  change a .mtls fun files =>
    { files with mtls := some ⟨completed.certificate, completed.certificateChainPem, key⟩ }
  change a .identity fun files =>
    { files with
      identity := some
        { cloudAddress := state.cloudAddress
          organizationId := challenge.organizationId
          tenantId := state.tenantId
          siteId := state.siteId
          displayName := state.displayName
          deviceId := completed.deviceId
          deviceKeyId := completed.deviceKeyId
          notAfter := completed.notAfter } }
  change a .removeState fun files => { files with state := none }
  change a .removeBootstrap id

/-- `run`. -/
def run : Proc World String Unit := do
  let state ← openTransaction c a
  let (state, challenge) ← obtainChallenge c a state
  let completed ← completeEnrollment a state challenge
  install a state challenge completed

end

end CandyRuntime.CloudEnroll
