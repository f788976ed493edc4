import CandyRuntime.CloudSync.Delivery
import CandyRuntime.CloudSync.GrantTheorems
import CandyRuntime.Lib.SelfDelimiting

/-!
# The preimages of the digests

Equal preimages come from equal content. Every part of a preimage has a fixed width or stands behind
its length, only the phase does not: there are two phases, and their first letters differ. So the parts
are taken off one by one from the left, in an entry, in a catalog and in the list of generations
(`preimages_unambiguous`).
-/

namespace CandyRuntime.CloudSync.Delivery

open Lib NetdProto NetdV2
open CloudSync.Declaration (DeviceIdentity hexPair orFail validateHex)

variable {bytes : Bytes}
/-! ## Programs that succeed -/

theorem orFail_eq_ok {α : Type} {o : Option α} {e : String} {a : α} (h : orFail o e = .ok a) :
    o = some a := by
  cases o with
  | none => cases h
  | some b => exact congrArg some (Except.ok.inj h)

theorem forall₂_of_mapM {α β : Type} {f : α → Except String β} {as : List α} {bs : List β}
    (h : as.mapM f = .ok bs) : List.Forall₂ (fun a b => f a = .ok b) as bs := by
  induction as generalizing bs with
  | nil =>
    obtain rfl : [] = bs := Except.ok.inj h
    exact .nil
  | cons a as ih =>
    rw [List.mapM_cons] at h
    obtain ⟨b, hb, h⟩ := bind_eq_ok h
    obtain ⟨rest, hrest, h⟩ := bind_eq_ok h
    obtain rfl := Except.ok.inj h
    exact .cons hb (ih hrest)

/-- First every entry is decoded, then every pair is written. -/
theorem forall₂_of_mapM_zip {α β γ : Type} {f : α → Except String β}
    {g : α × β → Except String γ} {as : List α} {bs : List β} {cs : List γ}
    (hbs : as.mapM f = .ok bs) (hcs : (as.zip bs).mapM g = .ok cs) :
    List.Forall₂ (fun a c => ∃ b, f a = .ok b ∧ g (a, b) = .ok c) as cs := by
  have hread := forall₂_of_mapM hbs
  clear hbs
  induction hread generalizing cs with
  | nil =>
    obtain rfl : [] = cs := Except.ok.inj hcs
    exact .nil
  | cons hb _ ih =>
    rw [List.zip_cons_cons, List.mapM_cons] at hcs
    obtain ⟨c, hc, hcs⟩ := bind_eq_ok hcs
    obtain ⟨rest, hrest, hcs⟩ := bind_eq_ok hcs
    obtain rfl := Except.ok.inj hcs
    exact .cons ⟨_, hb, hc⟩ (ih hrest)

/-! ## Texts and their bytes -/

theorem utf8Bytes_injective {a b : String} (h : utf8Bytes a = utf8Bytes b) : a = b := by
  have hdata : a.toByteArray.data = b.toByteArray.data := Array.toList_inj.mp h
  exact String.toByteArray_inj.mp (ByteArray.ext hdata)

@[simp] theorem length_utf8Bytes (text : String) : (utf8Bytes text).length = text.utf8ByteSize :=
  rfl

/-- The value of a digit, by the range the digit is in. -/
theorem nibble_spec {c : Char} (h : isLowerHex c = true) :
    (48 ≤ c.toNat ∧ c.toNat ≤ 57 ∧ nibble c = c.toNat - 48)
      ∨ (97 ≤ c.toNat ∧ c.toNat ≤ 102 ∧ nibble c = c.toNat - 87) := by
  unfold isLowerHex at h
  simp only [Bool.or_eq_true, Bool.and_eq_true, decide_eq_true_eq] at h
  unfold nibble
  rcases h with ⟨hlow, hhigh⟩ | ⟨hlow, hhigh⟩
  · left
    rw [if_pos hhigh]
    exact ⟨hlow, hhigh, rfl⟩
  · right
    have hnot : ¬ c ≤ '9' := by
      intro hle
      have habsurd : 'a' ≤ '9' := Char.le_trans hlow hle
      exact absurd habsurd (by decide)
    rw [if_neg hnot]
    exact ⟨hlow, hhigh, rfl⟩

theorem hexBytes_injective {as bs : List Char} (ha : ∀ c ∈ as, isLowerHex c = true)
    (hb : ∀ c ∈ bs, isLowerHex c = true) (hlength : as.length = bs.length)
    (heven : as.length % 2 = 0) (h : hexBytes as = hexBytes bs) : as = bs := by
  induction as using hexBytes.induct generalizing bs with
  | case1 high low rest ih =>
    match bs with
    | [] => cases hlength
    | [_] => cases Nat.succ.inj hlength
    | high' :: low' :: rest' =>
      simp only [List.forall_mem_cons] at ha hb
      obtain ⟨hhigh, hlow, hrest⟩ := ha
      obtain ⟨hhigh', hlow', hrest'⟩ := hb
      obtain ⟨hbyte, hbytes⟩ := List.cons.inj h
      have htail := ih hrest hrest' (by simpa using hlength) (by
        rw [List.length_cons, List.length_cons] at heven
        omega) hbytes
      have hnat := congrArg UInt8.toNat hbyte
      rw [UInt8.toNat_ofNat', UInt8.toNat_ofNat'] at hnat
      have h₁ := nibble_spec hhigh
      have h₂ := nibble_spec hlow
      have h₃ := nibble_spec hhigh'
      have h₄ := nibble_spec hlow'
      have hhighSame : high = high' := Char.toNat_inj.mp (by omega)
      have hlowSame : low = low' := Char.toNat_inj.mp (by omega)
      rw [hhighSame, hlowSame, htail]
  | case2 as hshort =>
    match as, bs with
    | [], [] => rfl
    | [], _ :: _ => cases hlength
    | [_], _ => exact absurd heven (by simp)
    | high :: low :: rest, _ => exact (hshort high low rest rfl).elim

theorem length_hexBytes (cs : List Char) : (hexBytes cs).length = cs.length / 2 := by
  induction cs using hexBytes.induct with
  | case1 high low rest ih =>
    rw [hexBytes, List.length_cons, ih, List.length_cons, List.length_cons]
    omega
  | case2 cs hshort =>
    match cs with
    | [] => rfl
    | [_] => simp [hexBytes]
    | high :: low :: rest => exact (hshort high low rest rfl).elim

theorem decodeHex32_eq_ok {value : String} (h : decodeHex32 value = .ok bytes) :
    isHex value 64 = true ∧ bytes = hexBytes value.toList := by
  obtain ⟨_, hvalid, h⟩ := bind_eq_ok h
  have hhex := (refuseIf_eq_ok _ _).mp hvalid
  exact ⟨by simpa using hhex, (Except.ok.inj h).symm⟩

theorem length_of_decodeHex32 {value : String} (h : decodeHex32 value = .ok bytes) :
    bytes.length = 32 := by
  obtain ⟨hhex, rfl⟩ := decodeHex32_eq_ok h
  simp only [isHex, Bool.and_eq_true, beq_iff_eq] at hhex
  rw [length_hexBytes, String.length_toList, hhex.1]

theorem decodeHex32_injective {a b : String} (ha : decodeHex32 a = .ok bytes)
    (hb : decodeHex32 b = .ok bytes) : a = b := by
  obtain ⟨hahex, habytes⟩ := decodeHex32_eq_ok ha
  obtain ⟨hbhex, hbbytes⟩ := decodeHex32_eq_ok hb
  simp only [isHex, Bool.and_eq_true, beq_iff_eq, List.all_eq_true] at hahex hbhex
  have hlength : a.toList.length = 64 := by rw [String.length_toList, hahex.1]
  have hlength' : b.toList.length = 64 := by rw [String.length_toList, hbhex.1]
  apply String.toList_inj.mp
  exact hexBytes_injective hahex.2 hbhex.2 (hlength.trans hlength'.symm) (by rw [hlength])
    (habytes.symm.trans hbbytes)

section

variable [Base64]

/-! ## Envelopes -/

theorem decodeEnvelope_eq_ok {value label : String} (h : decodeEnvelope value label = .ok bytes) :
    Base64.decode value = some bytes ∧ bytes.length < 256 ^ 8 := by
  obtain ⟨decoded, hdecoded, h⟩ := bind_eq_ok h
  obtain ⟨_, hsize, h⟩ := bind_eq_ok h
  obtain rfl := Except.ok.inj h
  have hsize := (refuseIf_eq_ok _ _).mp hsize
  simp only [Bool.or_eq_false_iff, decide_eq_false_iff_not, Nat.not_lt] at hsize
  have hmaximum : maxRouteEnvelopeBytes = 8388608 := rfl
  have hlength := hsize.2
  exact ⟨orFail_eq_ok hdecoded, by omega⟩

/-! ## Entries of a catalog -/

/-- An entry is written with its decoded envelope. -/
def EntryWritten (entry : RuntimePeerProjection) (x : Bytes) : Prop :=
  ∃ envelope, decodePeerProjection entry = .ok envelope ∧ entryBytes (entry, envelope) = .ok x

theorem selfDelimiting_entryWritten : SelfDelimiting EntryWritten := by
  rintro a b x y s t ⟨envelope, hdecode, hx⟩ ⟨envelope', hdecode', hy⟩ h
  obtain ⟨hash, hhash, hx⟩ := bind_eq_ok hx
  obtain ⟨hash', hhash', hy⟩ := bind_eq_ok hy
  obtain rfl := Except.ok.inj hx
  obtain rfl := Except.ok.inj hy
  obtain ⟨henvelope, hlength⟩ := decodeEnvelope_eq_ok hdecode
  obtain ⟨henvelope', hlength'⟩ := decodeEnvelope_eq_ok hdecode'
  simp only [List.append_assoc] at h
  obtain ⟨hid, h⟩ := List.append_inj h (by simp)
  obtain ⟨hgeneration, h⟩ := toBE_append_inj a.projectionGeneration.toNat_lt
    b.projectionGeneration.toNat_lt h
  obtain ⟨rfl, h⟩ := List.append_inj h
    ((length_of_decodeHex32 hhash).trans (length_of_decodeHex32 hhash').symm)
  obtain ⟨rfl, hrest⟩ := framed_append_inj hlength hlength' (by simpa [framed] using h)
  refine ⟨?_, hrest⟩
  have hid' : a.projectionId = b.projectionId := Vector.toList_inj.mp hid
  have hgeneration' := UInt64.toNat_inj.mp hgeneration
  have hhash' := decodeHex32_injective hhash hhash'
  have hprojection := Base64.injective henvelope henvelope'
  cases a
  cases b
  simp_all

/-- A catalog is written with its decoded envelopes, behind its length. -/
theorem counted_catalogBytes {catalog : List RuntimePeerProjection} {envelopes : List Bytes}
    {x : Bytes} (hlength : catalog.length < 256 ^ 8)
    (hdecode : decodePeerProjections catalog = .ok envelopes)
    (hx : catalogBytes catalog envelopes = .ok x) : Counted 8 EntryWritten catalog x := by
  obtain ⟨entries, hentries, hx⟩ := bind_eq_ok hx
  exact ⟨hlength, entries, forall₂_of_mapM_zip hdecode hentries, (Except.ok.inj hx).symm⟩

/-! ## Generations -/

/-- A generation with a catalog of a bounded length is written with its decoded envelopes. -/
def GenerationWritten (generation : RuntimeCompatibilityGeneration) (x : Bytes) : Prop :=
  generation.peerProjectionCatalog.length ≤ maxCompatibilityProjections
    ∧ ∃ decoded, decodeCompatibilityGeneration generation = .ok decoded
      ∧ generationBytes (generation, decoded) = .ok x

theorem decodeCompatibilityGeneration_eq_ok {generation : RuntimeCompatibilityGeneration}
    {decoded : DecodedCompatibilityGeneration}
    (h : decodeCompatibilityGeneration generation = .ok decoded) :
    decodeEnvelope generation.segmentSnapshot "compatibility segment snapshot" = .ok decoded.segment
      ∧ decodePeerProjections generation.peerProjectionCatalog = .ok decoded.peerProjections := by
  obtain ⟨segment, hsegment, h⟩ := bind_eq_ok h
  obtain ⟨peers, hpeers, h⟩ := bind_eq_ok h
  obtain rfl := Except.ok.inj h
  exact ⟨hsegment, hpeers⟩

theorem selfDelimiting_generationWritten : SelfDelimiting GenerationWritten := by
  rintro a b x y s t ⟨hcount, decoded, hdecode, hx⟩ ⟨hcount', decoded', hdecode', hy⟩ h
  obtain ⟨hash, hhash, hx⟩ := bind_eq_ok hx
  obtain ⟨catalog, hcatalog, hx⟩ := bind_eq_ok hx
  obtain ⟨hash', hhash', hy⟩ := bind_eq_ok hy
  obtain ⟨catalog', hcatalog', hy⟩ := bind_eq_ok hy
  obtain rfl := Except.ok.inj hx
  obtain rfl := Except.ok.inj hy
  obtain ⟨hsegment, hpeers⟩ := decodeCompatibilityGeneration_eq_ok hdecode
  obtain ⟨hsegment', hpeers'⟩ := decodeCompatibilityGeneration_eq_ok hdecode'
  obtain ⟨hsnapshot, hlength⟩ := decodeEnvelope_eq_ok hsegment
  obtain ⟨hsnapshot', hlength'⟩ := decodeEnvelope_eq_ok hsegment'
  have hmaximum : maxCompatibilityProjections = 4096 := rfl
  have hwritten := counted_catalogBytes (by omega) hpeers hcatalog
  have hwritten' := counted_catalogBytes (by omega) hpeers' hcatalog'
  simp only [List.append_assoc] at h
  obtain ⟨hgeneration, h⟩ := toBE_append_inj a.segmentGeneration.toNat_lt
    b.segmentGeneration.toNat_lt h
  obtain ⟨rfl, h⟩ := List.append_inj h
    ((length_of_decodeHex32 hhash).trans (length_of_decodeHex32 hhash').symm)
  obtain ⟨hsame, h⟩ := framed_append_inj hlength hlength' (by simpa [framed] using h)
  obtain ⟨hentries, hrest⟩ := selfDelimiting_entryWritten.counted hwritten hwritten' h
  refine ⟨?_, hrest⟩
  rw [hsame] at hsnapshot
  have hgeneration' := UInt64.toNat_inj.mp hgeneration
  have hhash' := decodeHex32_injective hhash hhash'
  have hsnapshots := Base64.injective hsnapshot hsnapshot'
  cases a
  cases b
  simp_all

/-! ## Keys -/

/-- A key whose identifier has a bounded length is written. -/
def KeyWritten (key : RuntimeGrantVerificationKey) (x : Bytes) : Prop :=
  key.keyId.utf8ByteSize ≤ 64 ∧ keyBytes key = .ok x

omit [Base64] in
theorem selfDelimiting_keyWritten : SelfDelimiting KeyWritten := by
  rintro a b x y s t ⟨hsize, hx⟩ ⟨hsize', hy⟩ h
  obtain ⟨publicKey, hkey, hx⟩ := bind_eq_ok hx
  obtain ⟨publicKey', hkey', hy⟩ := bind_eq_ok hy
  obtain rfl := Except.ok.inj hx
  obtain rfl := Except.ok.inj hy
  simp only [List.append_assoc] at h
  obtain ⟨hname, h⟩ := framed_append_inj (k := 8) (x := utf8Bytes a.keyId) (y := utf8Bytes b.keyId)
    (by rw [length_utf8Bytes]; omega) (by rw [length_utf8Bytes]; omega) (by simpa [framed] using h)
  obtain ⟨hpublicKey, h⟩ := List.append_inj h
    ((length_of_decodeHex32 hkey).trans (length_of_decodeHex32 hkey').symm)
  obtain ⟨hissuer, h⟩ := List.append_inj h (by simp)
  obtain ⟨henvironment, hrest⟩ := List.append_inj h (by simp)
  refine ⟨?_, hrest⟩
  rw [hpublicKey] at hkey
  have hname' := utf8Bytes_injective hname
  have hkey' := decodeHex32_injective hkey hkey'
  have hissuer' : a.issuerId = b.issuerId := Vector.toList_inj.mp hissuer
  have henvironment' : a.environmentId = b.environmentId := Vector.toList_inj.mp henvironment
  cases a
  cases b
  simp_all

/-! ## Valid configurations -/

section
variable {c c' : RuntimeConfiguration} {identity identity' : DeviceIdentity} {d d' : Decoded}

/-- What the preimages need of a valid configuration. -/
structure Bounded (c : RuntimeConfiguration) : Prop where
  phase : c.activationPhase = "prepare" ∨ c.activationPhase = "commit"
  signer : c.routeSigningKeyId.utf8ByteSize ≤ 64
  catalog : c.peerProjectionCatalog.length ≤ 4096
  generations : c.compatibilityGenerations.length ≤ maxCompatibilityGenerations
  catalogs : ∀ generation ∈ c.compatibilityGenerations,
    generation.peerProjectionCatalog.length ≤ maxCompatibilityProjections
  keys : c.grantVerificationKeys.length ≤ 8
  keyIds : ∀ key ∈ c.grantVerificationKeys, key.keyId.utf8ByteSize ≤ 64

omit [Base64] in
theorem catalogs_of_checkGenerations {previous : UInt64} {retained : List Uuid}
    {generations : List RuntimeCompatibilityGeneration}
    (h : checkGenerations c previous retained generations = .ok ()) :
    ∀ generation ∈ generations,
      generation.peerProjectionCatalog.length ≤ maxCompatibilityProjections := by
  induction generations generalizing previous retained with
  | nil => simp
  | cons first rest ih =>
    obtain ⟨_, hfirst, h⟩ := bind_eq_ok h
    obtain ⟨_, _, h⟩ := bind_eq_ok h
    obtain ⟨_, _, h⟩ := bind_eq_ok h
    obtain ⟨_, _, h⟩ := bind_eq_ok h
    obtain ⟨retained', _, h⟩ := bind_eq_ok h
    obtain ⟨_, _, h⟩ := bind_eq_ok h
    have hfirst := (refuseIf_eq_ok _ _).mp hfirst
    simp only [Bool.or_eq_false_iff, decide_eq_false_iff_not, Nat.not_lt] at hfirst
    intro generation hgeneration
    rcases List.mem_cons.mp hgeneration with rfl | hgeneration
    · exact hfirst.2
    · exact ih h generation hgeneration

omit [Base64] in
theorem keyIds_of_checkKeys {previous : Option String} {keys : List RuntimeGrantVerificationKey}
    (h : checkKeys previous keys = .ok ()) : ∀ key ∈ keys, key.keyId.utf8ByteSize ≤ 64 := by
  induction keys generalizing previous with
  | nil => simp
  | cons first rest ih =>
    obtain ⟨_, hfirst, h⟩ := bind_eq_ok h
    obtain ⟨_, _, h⟩ := bind_eq_ok h
    have hfirst := (refuseIf_eq_ok _ _).mp hfirst
    simp only [Bool.or_eq_false_iff, decide_eq_false_iff_not, Nat.not_lt] at hfirst
    intro key hkey
    rcases List.mem_cons.mp hkey with rfl | hkey
    · exact hfirst.1.1.1.1.2
    · exact ih h key hkey

omit [Base64] in
theorem bounded_of_validateConfiguration (h : validateConfiguration c identity = .ok ()) :
    Bounded c := by
  obtain ⟨_, hmetadata, h⟩ := bind_eq_ok h
  obtain ⟨_, _, h⟩ := bind_eq_ok h
  obtain ⟨_, _, h⟩ := bind_eq_ok h
  obtain ⟨_, _, h⟩ := bind_eq_ok h
  obtain ⟨_, hcompatibility, h⟩ := bind_eq_ok h
  obtain ⟨_, hkeys, _⟩ := bind_eq_ok h
  have hmetadata := (refuseIf_eq_ok _ _).mp hmetadata
  simp only [metadataInvalid, Bool.or_eq_false_iff, decide_eq_false_iff_not, Nat.not_lt,
    Bool.not_eq_false', Bool.or_eq_true, beq_iff_eq] at hmetadata
  obtain ⟨_, hlength, hcompatibility⟩ := bind_eq_ok hcompatibility
  have hlength := (refuseIf_eq_ok _ _).mp hlength
  simp only [Bool.or_eq_false_iff, decide_eq_false_iff_not, Nat.not_lt] at hlength
  obtain ⟨⟨⟨⟨⟨⟨⟨⟨⟨⟨⟨⟨_, hphase⟩, _⟩, _⟩, _⟩, _⟩, _⟩, _⟩, _⟩, hsigner⟩, _⟩, hcatalog⟩, hcount⟩ :=
    hmetadata
  exact ⟨hphase, hsigner, hcatalog, hlength.2, catalogs_of_checkGenerations hcompatibility, hcount,
    keyIds_of_checkKeys hkeys⟩

theorem decodeConfiguration_eq_ok (h : decodeConfiguration c = .ok d) :
    decodeEnvelope c.segmentSnapshot "segment snapshot" = .ok d.segment
      ∧ decodeEnvelope c.siteProjection "site projection" = .ok d.projection
      ∧ decodePeerProjections c.peerProjectionCatalog = .ok d.peerProjections
      ∧ decodeCompatibilityGenerations c.compatibilityGenerations = .ok d.compatibility := by
  obtain ⟨segment, hsegment, h⟩ := bind_eq_ok h
  obtain ⟨projection, hprojection, h⟩ := bind_eq_ok h
  obtain ⟨peers, hpeers, h⟩ := bind_eq_ok h
  obtain ⟨compatibility, hcompatibility, h⟩ := bind_eq_ok h
  obtain rfl := Except.ok.inj h
  exact ⟨hsegment, hprojection, hpeers, hcompatibility⟩

/-! ## The two levels -/

omit [Base64] in
/-- The phases are told apart by their first letter, and a length of less than `256 ^ 7` starts with
neither. -/
theorem phase_append_inj {a b : String} {s t : Bytes} (ha : a = "prepare" ∨ a = "commit")
    (hb : b = "prepare" ∨ b = "commit") (h : utf8Bytes a ++ s = utf8Bytes b ++ t) :
    a = b ∧ s = t := by
  have hprepare : utf8Bytes "prepare" = [112, 114, 101, 112, 97, 114, 101] := by decide
  have hcommit : utf8Bytes "commit" = [99, 111, 109, 109, 105, 116] := by decide
  rcases ha with rfl | rfl <;> rcases hb with rfl | rfl
  · exact ⟨rfl, List.append_cancel_left h⟩
  · rw [hprepare, hcommit] at h
    exact absurd (List.cons.inj h).1 (by decide)
  · rw [hprepare, hcommit] at h
    exact absurd (List.cons.inj h).1 (by decide)
  · exact ⟨rfl, List.append_cancel_left h⟩

/-- Two configurations have the same signed objects. -/
structure SameObjects (c c' : RuntimeConfiguration) : Prop where
  segmentSnapshot : c.segmentSnapshot = c'.segmentSnapshot
  siteProjection : c.siteProjection = c'.siteProjection
  peerProjectionCatalog : c.peerProjectionCatalog = c'.peerProjectionCatalog
  compatibilityGenerations : c.compatibilityGenerations = c'.compatibilityGenerations

/-- Two configurations are delivered alike: the phase, the signer and the keys. -/
structure SameDelivery (c c' : RuntimeConfiguration) : Prop where
  activationPhase : c.activationPhase = c'.activationPhase
  routeSigningKeyId : c.routeSigningKeyId = c'.routeSigningKeyId
  routeSigningPublicKey : c.routeSigningPublicKey = c'.routeSigningPublicKey
  grantVerificationKeys : c.grantVerificationKeys = c'.grantVerificationKeys

theorem SameObjects.decoded (h : SameObjects c c') (hd : decodeConfiguration c = .ok d)
    (hd' : decodeConfiguration c' = .ok d') : d = d' := by
  have hsame : decodeConfiguration c = decodeConfiguration c' := by
    unfold decodeConfiguration
    rw [h.segmentSnapshot, h.siteProjection, h.peerProjectionCatalog, h.compatibilityGenerations]
  rw [hsame] at hd
  exact Except.ok.inj (hd.symm.trans hd')

theorem forall₂_generationWritten (hc : Bounded c)
    {decoded : List DecodedCompatibilityGeneration} {xs : List Bytes}
    (hdecoded : decodeCompatibilityGenerations c.compatibilityGenerations = .ok decoded)
    (hxs : (c.compatibilityGenerations.zip decoded).mapM generationBytes = .ok xs) :
    Counted 8 GenerationWritten c.compatibilityGenerations
      (toBE 8 c.compatibilityGenerations.length ++ xs.flatten) := by
  have hlength := hc.generations
  have hmaximum : maxCompatibilityGenerations = 32 := rfl
  refine ⟨by omega, xs, ?_, rfl⟩
  have hwritten := forall₂_of_mapM_zip hdecoded hxs
  have hcatalogs := hc.catalogs
  refine List.forall₂_iff_get.mpr ⟨hwritten.length_eq, fun i hi hi' => ?_⟩
  exact ⟨hcatalogs _ (List.get_mem _ _), hwritten.get hi hi'⟩

theorem objectsPreimage_unambiguous (hc : Bounded c) (hc' : Bounded c')
    (hd : decodeConfiguration c = .ok d) (hd' : decodeConfiguration c' = .ok d')
    (h : configurationObjectsPreimage c d = .ok bytes)
    (h' : configurationObjectsPreimage c' d' = .ok bytes) : SameObjects c c' := by
  obtain ⟨hsegment, hprojection, hpeers, hcompatibility⟩ := decodeConfiguration_eq_ok hd
  obtain ⟨hsegment', hprojection', hpeers', hcompatibility'⟩ := decodeConfiguration_eq_ok hd'
  obtain ⟨hsnapshot, hlength⟩ := decodeEnvelope_eq_ok hsegment
  obtain ⟨hsnapshot', hlength'⟩ := decodeEnvelope_eq_ok hsegment'
  obtain ⟨hsite, hsiteLength⟩ := decodeEnvelope_eq_ok hprojection
  obtain ⟨hsite', hsiteLength'⟩ := decodeEnvelope_eq_ok hprojection'
  obtain ⟨catalog, hcatalog, h⟩ := bind_eq_ok h
  obtain ⟨generations, hgenerations, h⟩ := bind_eq_ok h
  obtain ⟨catalog', hcatalog', h'⟩ := bind_eq_ok h'
  obtain ⟨generations', hgenerations', h'⟩ := bind_eq_ok h'
  have hcount := hc.catalog
  have hcount' := hc'.catalog
  have hentries := counted_catalogBytes (by omega) hpeers hcatalog
  have hentries' := counted_catalogBytes (by omega) hpeers' hcatalog'
  have hwritten := forall₂_generationWritten hc hcompatibility hgenerations
  have hwritten' := forall₂_generationWritten hc' hcompatibility' hgenerations'
  have hbytes := (Except.ok.inj h).trans (Except.ok.inj h').symm
  obtain ⟨_, hbytes⟩ := List.cons.inj (List.append_cancel_left hbytes)
  obtain ⟨hsameSegment, hbytes⟩ := framed_append_inj hlength hlength'
    (by simpa [framed] using hbytes)
  obtain ⟨hsameProjection, hbytes⟩ := framed_append_inj hsiteLength hsiteLength'
    (by simpa [framed] using hbytes)
  obtain ⟨hsameCatalog, hbytes⟩ := selfDelimiting_entryWritten.counted hentries hentries' hbytes
  obtain ⟨hsameGenerations, _⟩ := selfDelimiting_generationWritten.counted (s := []) (t := [])
    hwritten hwritten' (by simpa using hbytes)
  rw [hsameSegment] at hsnapshot
  rw [hsameProjection] at hsite
  exact ⟨Base64.injective hsnapshot hsnapshot', Base64.injective hsite hsite',
    hsameCatalog, hsameGenerations⟩

omit [Base64] in
theorem deliveryPreimage_unambiguous (hc : Bounded c) (hc' : Bounded c')
    {objects objects' : Vector UInt8 32} (h : configurationDeliveryPreimage c objects = .ok bytes)
    (h' : configurationDeliveryPreimage c' objects' = .ok bytes) :
    objects = objects' ∧ SameDelivery c c' := by
  obtain ⟨publicKey, hkey, h⟩ := bind_eq_ok h
  obtain ⟨keys, hkeys, h⟩ := bind_eq_ok h
  obtain ⟨publicKey', hkey', h'⟩ := bind_eq_ok h'
  obtain ⟨keys', hkeys', h'⟩ := bind_eq_ok h'
  have hbytes := (Except.ok.inj h).trans (Except.ok.inj h').symm
  obtain ⟨_, hbytes⟩ := List.cons.inj (List.append_cancel_left hbytes)
  obtain ⟨hobjects, hbytes⟩ := List.append_inj hbytes (by simp)
  obtain ⟨hphase, hbytes⟩ := phase_append_inj hc.phase hc'.phase hbytes
  have hsigner := hc.signer
  have hsigner' := hc'.signer
  obtain ⟨hsameSigner, hbytes⟩ := framed_append_inj (k := 8) (x := utf8Bytes c.routeSigningKeyId)
    (y := utf8Bytes c'.routeSigningKeyId) (by rw [length_utf8Bytes]; omega)
    (by rw [length_utf8Bytes]; omega) (by simpa [framed] using hbytes)
  obtain ⟨rfl, hbytes⟩ := List.append_inj hbytes
    ((length_of_decodeHex32 hkey).trans (length_of_decodeHex32 hkey').symm)
  have hcounted : ∀ {c : RuntimeConfiguration} {keys : List Bytes}, Bounded c →
      c.grantVerificationKeys.mapM keyBytes = .ok keys →
      Counted 8 KeyWritten c.grantVerificationKeys
        (toBE 8 c.grantVerificationKeys.length ++ keys.flatten) := by
    intro c keys hc hkeys
    have hlength := hc.keys
    have hwritten := forall₂_of_mapM hkeys
    refine ⟨by omega, keys, ?_, rfl⟩
    refine List.forall₂_iff_get.mpr ⟨hwritten.length_eq, fun i hi hi' => ?_⟩
    exact ⟨hc.keyIds _ (List.get_mem _ _), hwritten.get hi hi'⟩
  obtain ⟨hsameKeys, _⟩ := selfDelimiting_keyWritten.counted (s := []) (t := [])
    (hcounted hc hkeys) (hcounted hc' hkeys') (by simpa using hbytes)
  exact ⟨Vector.toList_inj.mp hobjects, hphase, utf8Bytes_injective hsameSigner,
    decodeHex32_injective hkey hkey', hsameKeys⟩

end

/-! ## Activations -/

section
variable {sha256 : Bytes → Vector UInt8 32} {grants : List (GrantSubject × CachedGrant)}
  {output : List (ActivationGrantManifest × Bytes)}

/-- A manifest is written with a grant that has its digest. -/
def ManifestWritten (sha256 : Bytes → Vector UInt8 32) (manifest : ActivationGrantManifest)
    (x : Bytes) : Prop :=
  ∃ raw, manifest.grantSha256 = hexText (sha256 raw) ∧ x = grantBytes sha256 (manifest, raw)

omit [Base64] in
theorem selfDelimiting_manifestWritten : SelfDelimiting (ManifestWritten sha256) := by
  apply selfDelimiting_of_length (n := 80)
  · rintro manifest _ ⟨raw, _, rfl⟩
    simp [grantBytes]
  · rintro a b _ ⟨raw, hsha, rfl⟩ ⟨raw', hsha', h⟩
    obtain ⟨hpool, h⟩ := List.append_inj h (by simp)
    obtain ⟨hgrant, h⟩ := List.append_inj h (by simp)
    obtain ⟨hdigest, h⟩ := List.append_inj h (by simp)
    obtain ⟨hrefresh, hexpires⟩ := toBE_append_inj a.refreshAfterUnix.toNat_lt
      b.refreshAfterUnix.toNat_lt h
    have hpool' : a.nodePoolId = b.nodePoolId := Vector.toList_inj.mp hpool
    have hgrant' : a.grantId = b.grantId := Vector.toList_inj.mp hgrant
    have hdigest' : sha256 raw = sha256 raw' := Vector.toList_inj.mp hdigest
    have hrefresh' := UInt64.toNat_inj.mp hrefresh
    have hexpires' := UInt64.toNat_inj.mp
      (toBE_inj a.expiresAtUnix.toNat_lt b.expiresAtUnix.toNat_lt hexpires)
    cases a
    cases b
    simp_all

theorem grantSha256_of_activationGrants (h : activationGrants sha256 grants = .ok output) :
    ∀ grant ∈ output, grant.1.grantSha256 = hexText (sha256 grant.2) := by
  obtain ⟨made, hmade, h⟩ := bind_eq_ok h
  obtain rfl := Except.ok.inj h
  have hperm := List.perm_insertionSort
    (fun a b : ActivationGrantManifest × Bytes =>
      fromBE a.1.nodePoolId.toList ≤ fromBE b.1.nodePoolId.toList) made
  intro grant hgrant
  have hmember := hperm.mem_iff.mp hgrant
  obtain ⟨i, hi, rfl⟩ := List.getElem_of_mem hmember
  have hwritten := forall₂_of_mapM hmade
  have hsource := hwritten.get (by rw [hwritten.length_eq]; exact hi) hi
  obtain ⟨raw, _, hsource⟩ := bind_eq_ok hsource
  obtain ⟨_, _, hsource⟩ := bind_eq_ok hsource
  have hvalue := Except.ok.inj hsource
  simp only [List.get_eq_getElem] at hvalue
  rw [← hvalue]

omit [Base64] in
theorem forall₂_manifestWritten
    (h : ∀ grant ∈ output, grant.1.grantSha256 = hexText (sha256 grant.2)) :
    List.Forall₂ (ManifestWritten sha256) (output.map Prod.fst) (output.map (grantBytes sha256)) := by
  induction output with
  | nil => exact .nil
  | cons grant rest ih =>
    have hfirst : ManifestWritten sha256 grant.1 (grantBytes sha256 grant) :=
      ⟨grant.2, h grant List.mem_cons_self, rfl⟩
    exact .cons hfirst (ih fun other hother => h other (List.mem_cons_of_mem grant hother))

omit [Base64] in
/-- Every grant takes 80 bytes, so the length of a preimage tells how many there are. -/
theorem length_grantBytes (output : List (ActivationGrantManifest × Bytes)) :
    (output.map (grantBytes sha256)).flatten.length = 80 * output.length := by
  induction output with
  | nil => rfl
  | cons grant rest ih =>
    rw [List.map_cons, List.flatten_cons, List.length_append, ih, List.length_cons]
    simp [grantBytes]
    omega

theorem activationPreimage_unambiguous {grants' : List (GrantSubject × CachedGrant)}
    {output' : List (ActivationGrantManifest × Bytes)} {delivery delivery' : String}
    (hgrants : activationGrants sha256 grants = .ok output)
    (hgrants' : activationGrants sha256 grants' = .ok output')
    (h : activationPreimage sha256 delivery output = .ok bytes)
    (h' : activationPreimage sha256 delivery' output' = .ok bytes) :
    delivery = delivery' ∧ output.map Prod.fst = output'.map Prod.fst := by
  obtain ⟨digest, hdigest, h⟩ := bind_eq_ok h
  obtain ⟨digest', hdigest', h'⟩ := bind_eq_ok h'
  have hbytes := (Except.ok.inj h).trans (Except.ok.inj h').symm
  obtain ⟨_, hbytes⟩ := List.cons.inj (List.append_cancel_left hbytes)
  obtain ⟨hsame, hbytes⟩ := List.append_inj hbytes
    ((length_of_decodeHex32 hdigest).trans (length_of_decodeHex32 hdigest').symm)
  obtain ⟨_, hflat⟩ := List.append_inj hbytes (by simp)
  have hlength := congrArg List.length hflat
  rw [length_grantBytes, length_grantBytes] at hlength
  have hwritten := forall₂_manifestWritten (grantSha256_of_activationGrants hgrants)
  have hwritten' := forall₂_manifestWritten (grantSha256_of_activationGrants hgrants')
  obtain ⟨hmanifests, _⟩ := selfDelimiting_manifestWritten.flatten (s := []) (t := []) hwritten
    hwritten' (by rw [List.length_map, List.length_map]; omega) (by simpa using hflat)
  rw [hsame] at hdigest
  exact ⟨decodeHex32_injective hdigest hdigest', hmanifests⟩

end

/-- Equal preimages at both levels come from configurations with the same objects that are delivered
alike, and equal preimages of activations from the same delivery with the same grants. -/
theorem preimages_unambiguous (sha256 : Bytes → Vector UInt8 32) :
    (∀ (c c' : RuntimeConfiguration) (identity identity' : DeviceIdentity) (d d' : Decoded)
        (objects delivery : Bytes),
        validateConfiguration c identity = .ok () → validateConfiguration c' identity' = .ok () →
        decodeConfiguration c = .ok d → decodeConfiguration c' = .ok d' →
        configurationObjectsPreimage c d = .ok objects →
        configurationObjectsPreimage c' d' = .ok objects →
        configurationDeliveryPreimage c (sha256 objects) = .ok delivery →
        configurationDeliveryPreimage c' (sha256 objects) = .ok delivery →
        d = d' ∧ SameObjects c c' ∧ SameDelivery c c')
      ∧ ∀ (delivery delivery' : String) (grants grants' : List (GrantSubject × CachedGrant))
        (output output' : List (ActivationGrantManifest × Bytes)) (bytes : Bytes),
        activationGrants sha256 grants = .ok output → activationGrants sha256 grants' = .ok output' →
        activationPreimage sha256 delivery output = .ok bytes →
        activationPreimage sha256 delivery' output' = .ok bytes →
        delivery = delivery' ∧ output.map Prod.fst = output'.map Prod.fst := by
  refine ⟨?_, ?_⟩
  · intro c c' identity identity' d d' objects delivery hvalid hvalid' hd hd' hobjects hobjects'
      hdelivery hdelivery'
    have hbounded := bounded_of_validateConfiguration hvalid
    have hbounded' := bounded_of_validateConfiguration hvalid'
    have hsame := objectsPreimage_unambiguous hbounded hbounded' hd hd' hobjects hobjects'
    have hdelivered := deliveryPreimage_unambiguous hbounded hbounded' hdelivery hdelivery'
    exact ⟨hsame.decoded hd hd', hsame, hdelivered.2⟩
  · intro delivery delivery' grants grants' output output' bytes hgrants hgrants' h h'
    exact activationPreimage_unambiguous hgrants hgrants' h h'

end

/-! ## A configuration that is published twice -/

def sampleEntry : RuntimePeerProjection where
  projectionId := Vector.replicate 16 10
  projectionGeneration := 7
  projectionContentHash := "3333333333333333333333333333333333333333333333333333333333333333"
  siteProjection := "Bg"

def sampleGeneration : RuntimeCompatibilityGeneration where
  segmentGeneration := 2
  segmentContentHash := "5555555555555555555555555555555555555555555555555555555555555555"
  segmentSnapshot := "Bwg"
  peerProjectionCatalog := [⟨Vector.replicate 16 13, 3,
    "6666666666666666666666666666666666666666666666666666666666666666", "CQ"⟩]

def sampleKey : RuntimeGrantVerificationKey where
  keyId := "grant-1"
  ed25519PublicKey := "4444444444444444444444444444444444444444444444444444444444444444"
  issuerId := Vector.replicate 16 11
  environmentId := Vector.replicate 16 12

/-- The publication is not part of any preimage. -/
def sampleConfiguration (publication : Uuid) : RuntimeConfiguration where
  schemaVersion := 1
  activationPhase := "commit"
  projectionPublicationId := publication
  projectionId := Vector.replicate 16 4
  segmentId := Vector.replicate 16 5
  attachmentId := Vector.replicate 16 6
  segmentGeneration := 3
  projectionGeneration := 4
  projectionContentHash := "1111111111111111111111111111111111111111111111111111111111111111"
  routeSigningKeyId := "route-1"
  routeSigningPublicKey := "2222222222222222222222222222222222222222222222222222222222222222"
  segmentSnapshot := "AQID"
  siteProjection := "BAU"
  peerProjectionCatalog := [sampleEntry]
  compatibilityGenerations := [sampleGeneration]
  grantVerificationKeys := [sampleKey]

def sampleDecoded : Decoded := ⟨[1, 2, 3], [4, 5], [[6]], [⟨2, [7, 8], [[9]]⟩]⟩

def sampleIdentity : DeviceIdentity := ⟨some "tenant", some "site", "device", "key"⟩

/-- SHA-256 of the grant `AQID`, and of the objects of the configuration. -/
def sampleSha256 (bytes : Bytes) : Vector UInt8 32 :=
  if bytes = [1, 2, 3] then
    #v[3, 144, 88, 198, 242, 192, 203, 73, 44, 83, 59, 10, 77, 20, 239, 119, 204, 15, 120, 171,
    204, 206, 213, 40, 125, 132, 161, 162, 1, 28, 251, 129]
  else
    #v[238, 17, 144, 83, 155, 160, 249, 251, 127, 79, 126, 197, 252, 222, 59, 65, 152, 69, 113,
    226, 166, 151, 2, 63, 98, 28, 110, 138, 51, 233, 140, 98]

def sampleObjects : Bytes :=
  (configurationObjectsPreimage (sampleConfiguration (Vector.replicate 16 1))
    sampleDecoded).toOption.getD []

def sampleDelivery : Bytes :=
  (configurationDeliveryPreimage (sampleConfiguration (Vector.replicate 16 1))
    (sampleSha256 sampleObjects)).toOption.getD []

def sampleSubject : GrantSubject where
  nodePoolId := Vector.replicate 16 9
  tenantId := Vector.replicate 16 1
  deviceId := Vector.replicate 16 2
  deviceKeyId := Vector.replicate 16 3
  projectionId := Vector.replicate 16 4
  projectionGeneration := 4
  projectionContentHash := "1111111111111111111111111111111111111111111111111111111111111111"

/-- A grant; what Core has verified is not part of the manifest, only when to refresh it. -/
def sampleGrant : CachedGrant where
  sequence := 1
  requestId := "request"
  grantId := Vector.replicate 16 8
  fetchedAtUnix := 100
  expiresAtUnix := 300
  accessGrant := "AQID"
  verification := {
    schemaVersion := 1
    ok := true
    grantId := Vector.replicate 16 8
    tenantId := Vector.replicate 16 1
    deviceId := Vector.replicate 16 2
    deviceKeyId := Vector.replicate 16 3
    nodePoolId := Vector.replicate 16 9
    servicePermission := "private.tun.connect"
    routePolicyId := Vector.replicate 16 4
    routePolicyGeneration := 4
    routePolicyContentHash := "1111111111111111111111111111111111111111111111111111111111111111"
    notBeforeUnix := 90
    refreshAfterUnix := 200
    expiresAtUnix := 300 }

def sampleOutput : List (ActivationGrantManifest × Bytes) :=
  (activationGrants sampleSha256 [(sampleSubject, sampleGrant)]).toOption.getD []

def sampleDigest : String := "7777777777777777777777777777777777777777777777777777777777777777"

def sampleActivation : Bytes :=
  (activationPreimage sampleSha256 sampleDigest sampleOutput).toOption.getD []

theorem preimages_unambiguous_published_twice :
    (sampleDecoded = sampleDecoded
        ∧ SameObjects (sampleConfiguration (Vector.replicate 16 1))
          (sampleConfiguration (Vector.replicate 16 2))
        ∧ SameDelivery (sampleConfiguration (Vector.replicate 16 1))
          (sampleConfiguration (Vector.replicate 16 2)))
      ∧ (sampleDigest = sampleDigest ∧ sampleOutput.map Prod.fst = sampleOutput.map Prod.fst) :=
  ⟨(preimages_unambiguous sampleSha256).1 (sampleConfiguration (Vector.replicate 16 1))
      (sampleConfiguration (Vector.replicate 16 2)) sampleIdentity sampleIdentity sampleDecoded
      sampleDecoded sampleObjects sampleDelivery (by decide +kernel) (by decide +kernel)
      (by decide +kernel) (by decide +kernel) (by decide +kernel) (by decide +kernel)
      (by decide +kernel) (by decide +kernel),
    (preimages_unambiguous sampleSha256).2 sampleDigest sampleDigest [(sampleSubject, sampleGrant)]
      [(sampleSubject, sampleGrant)] sampleOutput sampleOutput sampleActivation (by decide +kernel)
      (by decide +kernel) (by decide +kernel) (by decide +kernel)⟩

end CandyRuntime.CloudSync.Delivery
