import CandyRuntime.CloudSync.Declaration
import CandyRuntime.CloudSync.Grant

/-!
# The digests of a delivery

`validate_configuration`, the decoding of the envelopes, and what is fed to SHA-256 for the digest of
a delivered configuration and for that of its activation. SHA-256 itself and the decoder of base64 are
parameters. A uuid is its bytes, and uuids are in the order of their bytes.
-/

namespace CandyRuntime.CloudSync.Delivery

open Lib NetdProto NetdV2
open CloudSync.Declaration (DeviceIdentity hexPair orFail validateHex)

variable [Base64]

/-! ## The configuration -/

/-- `RuntimePeerProjection`. -/
structure RuntimePeerProjection where
  projectionId : Uuid
  projectionGeneration : UInt64
  projectionContentHash : String
  siteProjection : String
deriving DecidableEq, Repr

/-- `RuntimeCompatibilityGeneration`. -/
structure RuntimeCompatibilityGeneration where
  segmentGeneration : UInt64
  segmentContentHash : String
  segmentSnapshot : String
  peerProjectionCatalog : List RuntimePeerProjection
deriving DecidableEq, Repr

/-- `RuntimeGrantVerificationKey`. -/
structure RuntimeGrantVerificationKey where
  keyId : String
  ed25519PublicKey : String
  issuerId : Uuid
  environmentId : Uuid
deriving DecidableEq, Repr

/-- `RuntimeConfiguration`. -/
structure RuntimeConfiguration where
  schemaVersion : UInt8
  activationPhase : String
  projectionPublicationId : Uuid
  projectionId : Uuid
  segmentId : Uuid
  attachmentId : Uuid
  segmentGeneration : UInt64
  projectionGeneration : UInt64
  projectionContentHash : String
  routeSigningKeyId : String
  routeSigningPublicKey : String
  segmentSnapshot : String
  siteProjection : String
  peerProjectionCatalog : List RuntimePeerProjection
  compatibilityGenerations : List RuntimeCompatibilityGeneration
  grantVerificationKeys : List RuntimeGrantVerificationKey
deriving DecidableEq, Repr

/-! ## `validate_configuration` -/

/-- `MAX_COMPATIBILITY_GENERATIONS`. -/
def maxCompatibilityGenerations : ℕ := 32

/-- `MAX_COMPATIBILITY_PROJECTIONS`. -/
def maxCompatibilityProjections : ℕ := 4096

/-- `is_ascii`. -/
def isAscii (text : String) : Bool := text.toList.all fun c => decide (c.toNat < 128)

/-- The place of an entry in the order of a catalog. -/
def catalogKey (entry : RuntimePeerProjection) : ℕ :=
  fromBE entry.projectionId.toList * 2 ^ 64 + entry.projectionGeneration.toNat

/-- The loop of `validate_catalog`, behind an entry with the key `previous`. -/
def checkCatalog (previous : Option ℕ) : List RuntimePeerProjection → Except String Unit
  | [] => .ok ()
  | entry :: rest => do
    refuseIf (entry.projectionId == InstanceId.zero || entry.projectionGeneration == 0)
      "Peer projection catalog contains an invalid identity"
    validateHex entry.projectionContentHash 32 "Peer projection content hash"
    refuseIf (previous.any fun key => decide (catalogKey entry ≤ key))
      "Peer projection catalog is not strictly ordered"
    checkCatalog (some (catalogKey entry)) rest

/-- `validate_catalog`. -/
def validateCatalog (catalog : List RuntimePeerProjection) : Except String Unit :=
  checkCatalog none catalog

/-- The peers of one generation join those of the generations before it. -/
def retainPeers (own : Uuid) (retained : List Uuid) :
    List RuntimePeerProjection → Except String (List Uuid)
  | [] => .ok retained
  | peer :: rest => do
    refuseIf (peer.projectionId == own || retained.contains peer.projectionId)
      "Cloud Runtime compatibility catalogs repeat a retained peer identity"
    retainPeers own (peer.projectionId :: retained) rest

/-- The loop of `validate_compatibility_generations`, behind the generation `previous`. -/
def checkGenerations (configuration : RuntimeConfiguration) (previous : UInt64)
    (retained : List Uuid) : List RuntimeCompatibilityGeneration → Except String Unit
  | [] => .ok ()
  | generation :: rest => do
    refuseIf (decide (generation.segmentGeneration ≤ previous)
        || decide (configuration.segmentGeneration ≤ generation.segmentGeneration)
        || generation.peerProjectionCatalog.isEmpty
        || decide (maxCompatibilityProjections < generation.peerProjectionCatalog.length))
      "Cloud Runtime compatibility generation must be a non-empty strictly ordered older signed catalog"
    validateHex generation.segmentContentHash 32 "compatibility segment content hash"
    refuseIf (generation.segmentContentHash.toList.all (· == '0'))
      "compatibility segment content hash must not be zero"
    validateCatalog generation.peerProjectionCatalog
    let retained ← retainPeers configuration.projectionId retained generation.peerProjectionCatalog
    refuseIf (decide (maxCompatibilityProjections < retained.length)
        || decide (maxCompatibilityProjections * 2
          < configuration.peerProjectionCatalog.length + retained.length))
      "Cloud Runtime current and retained catalogs exceed total signed-policy capacity"
    checkGenerations configuration generation.segmentGeneration retained rest

/-- `validate_compatibility_generations`. -/
def validateCompatibilityGenerations (configuration : RuntimeConfiguration) :
    Except String Unit := do
  refuseIf (decide (maxCompatibilityProjections < configuration.peerProjectionCatalog.length)
      || decide (maxCompatibilityGenerations < configuration.compatibilityGenerations.length))
    "Cloud Runtime configuration contains too many compatibility generations"
  checkGenerations configuration 0 [] configuration.compatibilityGenerations

/-- The loop of `validate_grant_verification_keys`, behind the key `previous`. -/
def checkKeys (previous : Option String) : List RuntimeGrantVerificationKey → Except String Unit
  | [] => .ok ()
  | key :: rest => do
    refuseIf (key.keyId.isEmpty || decide (64 < key.keyId.utf8ByteSize) || !isAscii key.keyId
        || (previous.any fun value => decide (key.keyId ≤ value))
        || key.issuerId == InstanceId.zero || key.environmentId == InstanceId.zero)
      "Grant verification key set is invalid or not strictly ordered"
    validateHex key.ed25519PublicKey 32 "Grant verification public key"
    checkKeys (some key.keyId) rest

/-- `validate_grant_verification_keys`. -/
def validateGrantVerificationKeys (keys : List RuntimeGrantVerificationKey) : Except String Unit :=
  checkKeys none keys

/-- What makes the metadata of a configuration invalid. -/
def metadataInvalid (value : RuntimeConfiguration) : Bool :=
  value.schemaVersion != 1 || !(value.activationPhase == "prepare" || value.activationPhase == "commit")
    || value.projectionPublicationId == InstanceId.zero || value.projectionId == InstanceId.zero
    || value.segmentId == InstanceId.zero || value.attachmentId == InstanceId.zero
    || value.segmentGeneration == 0 || value.projectionGeneration == 0
    || value.routeSigningKeyId.isEmpty || decide (64 < value.routeSigningKeyId.utf8ByteSize)
    || !isAscii value.routeSigningKeyId || decide (4096 < value.peerProjectionCatalog.length)
    || decide (8 < value.grantVerificationKeys.length)

/-- `validate_configuration`. -/
def validateConfiguration (value : RuntimeConfiguration) (identity : DeviceIdentity) :
    Except String Unit := do
  refuseIf (metadataInvalid value) "Cloud Runtime configuration metadata is invalid"
  validateHex value.projectionContentHash 32 "projection content hash"
  validateHex value.routeSigningPublicKey 32 "route signing public key"
  validateCatalog value.peerProjectionCatalog
  validateCompatibilityGenerations value
  validateGrantVerificationKeys value.grantVerificationKeys
  refuseIf (identity.tenantId.isNone || identity.siteId.isNone)
    "local Cloud identity has no assigned tenant or Site"

/-! ## The envelopes -/

/-- `MAX_ROUTE_ENVELOPE_BYTES`. -/
def maxRouteEnvelopeBytes : ℕ := 8 * 1024 * 1024

/-- `decode_envelope`. -/
def decodeEnvelope (value : String) (label : String) : Except String Bytes := do
  let bytes ← orFail (Base64.decode value) ("decode " ++ label)
  refuseIf (bytes.isEmpty || decide (maxRouteEnvelopeBytes < bytes.length))
    (label ++ " size is invalid")
  return bytes

/-- One envelope of a catalog. -/
def decodePeerProjection (projection : RuntimePeerProjection) : Except String Bytes :=
  decodeEnvelope projection.siteProjection "peer Site projection"

/-- `decode_peer_projections`. -/
def decodePeerProjections (catalog : List RuntimePeerProjection) : Except String (List Bytes) :=
  catalog.mapM decodePeerProjection

/-- `DecodedCompatibilityGeneration`. -/
structure DecodedCompatibilityGeneration where
  segmentGeneration : UInt64
  segment : Bytes
  peerProjections : List Bytes
deriving DecidableEq, Repr

/-- The envelopes of one generation. -/
def decodeCompatibilityGeneration (generation : RuntimeCompatibilityGeneration) :
    Except String DecodedCompatibilityGeneration := do
  return {
    segmentGeneration := generation.segmentGeneration
    segment := ← decodeEnvelope generation.segmentSnapshot "compatibility segment snapshot"
    peerProjections := ← decodePeerProjections generation.peerProjectionCatalog }

/-- `decode_compatibility_generations`. -/
def decodeCompatibilityGenerations (generations : List RuntimeCompatibilityGeneration) :
    Except String (List DecodedCompatibilityGeneration) :=
  generations.mapM decodeCompatibilityGeneration

/-- The decoded envelopes of a configuration. -/
structure Decoded where
  segment : Bytes
  projection : Bytes
  peerProjections : List Bytes
  compatibility : List DecodedCompatibilityGeneration
deriving DecidableEq, Repr

/-- The envelopes of a configuration, as they are decoded behind its validation. -/
def decodeConfiguration (configuration : RuntimeConfiguration) : Except String Decoded := do
  return {
    segment := ← decodeEnvelope configuration.segmentSnapshot "segment snapshot"
    projection := ← decodeEnvelope configuration.siteProjection "site projection"
    peerProjections := ← decodePeerProjections configuration.peerProjectionCatalog
    compatibility := ← decodeCompatibilityGenerations configuration.compatibilityGenerations }

/-! ## The preimages -/

/-- The bytes of a text. -/
def utf8Bytes (text : String) : Bytes := text.toByteArray.data.toList

/-- The value of a lower-case hexadecimal digit. -/
def nibble (c : Char) : ℕ := if c ≤ '9' then c.toNat - 48 else c.toNat - 87

def hexBytes : List Char → Bytes
  | high :: low :: rest => UInt8.ofNat (nibble high * 16 + nibble low) :: hexBytes rest
  | _ => []

/-- `decode_hex_32`. -/
def decodeHex32 (value : String) : Except String Bytes := do
  validateHex value 32 "32-byte value"
  return hexBytes value.toList

/-- The update with one entry of a catalog and its envelope. -/
def entryBytes (entry : RuntimePeerProjection × Bytes) : Except String Bytes := do
  let hash ← decodeHex32 entry.1.projectionContentHash
  return entry.1.projectionId.toList ++ (toBE 8 entry.1.projectionGeneration.toNat
    ++ (hash ++ (toBE 8 entry.2.length ++ entry.2)))

/-- The updates with a catalog behind its length. -/
def catalogBytes (catalog : List RuntimePeerProjection) (envelopes : List Bytes) :
    Except String Bytes := do
  let entries ← (catalog.zip envelopes).mapM entryBytes
  return toBE 8 catalog.length ++ entries.flatten

/-- The updates with one generation and its envelopes. -/
def generationBytes (generation : RuntimeCompatibilityGeneration × DecodedCompatibilityGeneration) :
    Except String Bytes := do
  let hash ← decodeHex32 generation.1.segmentContentHash
  let catalog ← catalogBytes generation.1.peerProjectionCatalog generation.2.peerProjections
  return toBE 8 generation.1.segmentGeneration.toNat ++ (hash
    ++ (toBE 8 generation.2.segment.length ++ (generation.2.segment ++ catalog)))

/-- What `configuration_objects_digest` feeds to SHA-256. -/
def configurationObjectsPreimage (configuration : RuntimeConfiguration) (decoded : Decoded) :
    Except String Bytes := do
  let catalog ← catalogBytes configuration.peerProjectionCatalog decoded.peerProjections
  let generations ← (configuration.compatibilityGenerations.zip decoded.compatibility).mapM
    generationBytes
  return utf8Bytes "candy/runtime-configuration-v1" ++ (0 :: (toBE 8 decoded.segment.length
    ++ (decoded.segment ++ (toBE 8 decoded.projection.length ++ (decoded.projection ++ (catalog
    ++ (toBE 8 configuration.compatibilityGenerations.length ++ generations.flatten)))))))

/-- The updates with one key. -/
def keyBytes (key : RuntimeGrantVerificationKey) : Except String Bytes := do
  let publicKey ← decodeHex32 key.ed25519PublicKey
  return toBE 8 key.keyId.utf8ByteSize ++ (utf8Bytes key.keyId ++ (publicKey
    ++ (key.issuerId.toList ++ key.environmentId.toList)))

/-- What `configuration_delivery_digest` feeds to SHA-256. -/
def configurationDeliveryPreimage (configuration : RuntimeConfiguration)
    (signedObjectsHash : Vector UInt8 32) : Except String Bytes := do
  let publicKey ← decodeHex32 configuration.routeSigningPublicKey
  let keys ← configuration.grantVerificationKeys.mapM keyBytes
  return utf8Bytes "candy/runtime-delivery-v1" ++ (0 :: (signedObjectsHash.toList
    ++ (utf8Bytes configuration.activationPhase
    ++ (toBE 8 configuration.routeSigningKeyId.utf8ByteSize
    ++ (utf8Bytes configuration.routeSigningKeyId ++ (publicKey
    ++ (toBE 8 configuration.grantVerificationKeys.length ++ keys.flatten)))))))

/-! ## The activation -/

/-- `ActivationGrantManifest`. -/
structure ActivationGrantManifest where
  nodePoolId : Uuid
  grantId : Uuid
  grantSha256 : String
  refreshAfterUnix : UInt64
  expiresAtUnix : UInt64
deriving DecidableEq, Repr

/-- A digest as it is printed. -/
def hexText (digest : Vector UInt8 32) : String :=
  String.ofList (digest.toList.flatMap fun b => hexPair b.toNat)

section
variable (sha256 : Bytes → Vector UInt8 32)

/-- The manifest of one grant, with the grant itself. -/
def activationGrant (grant : GrantSubject × CachedGrant) :
    Except String (ActivationGrantManifest × Bytes) := do
  let raw ← orFail (Base64.decode grant.2.accessGrant) "decode verified Cloud Grant for activation"
  refuseIf (raw.isEmpty || decide (8 * 1024 < raw.length))
    "verified Cloud Grant has an invalid activation size"
  return ({
    nodePoolId := grant.1.nodePoolId
    grantId := grant.2.grantId
    grantSha256 := hexText (sha256 raw)
    refreshAfterUnix := UInt64.ofNat grant.2.verification.refreshAfterUnix
    expiresAtUnix := UInt64.ofNat grant.2.expiresAtUnix }, raw)

/-- `activation_grants`. -/
def activationGrants (grants : List (GrantSubject × CachedGrant)) :
    Except String (List (ActivationGrantManifest × Bytes)) := do
  let output ← grants.mapM (activationGrant sha256)
  return output.insertionSort fun a b =>
    fromBE a.1.nodePoolId.toList ≤ fromBE b.1.nodePoolId.toList

/-- The updates with one grant. -/
def grantBytes (grant : ActivationGrantManifest × Bytes) : Bytes :=
  grant.1.nodePoolId.toList ++ (grant.1.grantId.toList ++ ((sha256 grant.2).toList
    ++ (toBE 8 grant.1.refreshAfterUnix.toNat ++ toBE 8 grant.1.expiresAtUnix.toNat)))

/-- What `activation_digest` feeds to SHA-256. -/
def activationPreimage (deliveryDigest : String) (grants : List (ActivationGrantManifest × Bytes)) :
    Except String Bytes := do
  let delivery ← decodeHex32 deliveryDigest
  return utf8Bytes "candy/runtime-activation-v1" ++ (0 :: (delivery
    ++ (toBE 8 grants.length ++ (grants.map (grantBytes sha256)).flatten)))

end

end CandyRuntime.CloudSync.Delivery
