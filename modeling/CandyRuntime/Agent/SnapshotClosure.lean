import CandyRuntime.Agent.SignedSnapshot

/-!
# What Core reads of a signed snapshot

The references that Core can follow from a client configuration, and what a snapshot and a fingerprint are
for: a snapshot is closed if all of them lead to copies, and a fingerprint covers it if an unchanged
fingerprint means unchanged copies. Core takes a list of tables in either spelling.
-/

namespace CandyRuntime.Agent.SignedSnapshot

open Lib Lib.Toml

/-! ## Places of references -/

/-- The tables of a field, in either spelling. -/
def rowsAt (key : String) (fields : Fields) : List Fields :=
  ((fields.get key).map Item.eitherSpelling).getD []

/-- The elements of an array. -/
def elementsAt (key : String) (fields : Fields) : List Item :=
  match fields.get key with
  | some (.array items) => items
  | _ => []

/-- The field is a list of tables that is not spelled with headers. -/
def isInlineAt (key : String) (fields : Fields) : Bool :=
  ((fields.get key).map Item.isArray).getD false

/-- The table of a field. -/
def tableAt (key : String) (fields : Fields) : Option Fields :=
  (fields.get key).bind Item.asTableLike

/-- The places of the references of a client configuration. -/
inductive ClientPlace where
  | segment
  | site
  | transport (peer : ℕ)
  | inbound
deriving DecidableEq, Repr

namespace ClientPlace

def itemAt (root : Fields) : ClientPlace → Option Item
  | segment => root.get "segment_snapshot"
  | site => root.get "site_projection"
  | transport peer => (rowsAt "peers" root)[peer]?.bind fun row => row.get "transport_config"
  | inbound => root.get "inbound_server_config"

/-- The reference at a place, if Core finds one there. -/
def pathAt (root : Fields) (place : ClientPlace) : Option String :=
  (place.itemAt root).bind Item.asStr

/-- The place is in a list that is spelled as an array. -/
def inInlineList (root : Fields) : ClientPlace → Bool
  | transport _ => isInlineAt "peers" root
  | _ => false

end ClientPlace

/-- The places of the references of an inbound catalog. -/
inductive InboundPlace where
  | segment
  | localProjection
  | peer (index : ℕ)
  | retainedSegment (generation : ℕ)
  | retainedPeer (generation index : ℕ)
  | transport (peer : ℕ)
deriving DecidableEq, Repr

namespace InboundPlace

def itemIn (sdwan : Fields) : InboundPlace → Option Item
  | segment => sdwan.get "segment_snapshot"
  | localProjection => sdwan.get "local_projection"
  | peer index => (elementsAt "peer_projections" sdwan)[index]?
  | retainedSegment generation =>
    (rowsAt "compatibility_generations" sdwan)[generation]?.bind fun row => row.get "segment_snapshot"
  | retainedPeer generation index =>
    (rowsAt "compatibility_generations" sdwan)[generation]?.bind fun row =>
      (elementsAt "peer_projections" row)[index]?
  | transport index =>
    (rowsAt "outbound_peers" sdwan)[index]?.bind fun row => row.get "transport_config"

def pathAt (root : Fields) (place : InboundPlace) : Option String :=
  ((tableAt "sdwan" root).bind fun sdwan => place.itemIn sdwan).bind Item.asStr

def inInlineListOf (sdwan : Fields) : InboundPlace → Bool
  | retainedSegment _ => isInlineAt "compatibility_generations" sdwan
  | retainedPeer _ _ => isInlineAt "compatibility_generations" sdwan
  | transport _ => isInlineAt "outbound_peers" sdwan
  | _ => false

def inInlineList (root : Fields) (place : InboundPlace) : Bool :=
  ((tableAt "sdwan" root).map fun sdwan => place.inInlineListOf sdwan).getD false

/-- The reference is a transport. -/
def isTransport : InboundPlace → Bool
  | transport _ => true
  | _ => false

end InboundPlace

/-- The places of the references of a transport. -/
inductive TransportPlace where
  | grant
  | signingKey
deriving DecidableEq, Repr

namespace TransportPlace

def key : TransportPlace → String
  | grant => "grant_envelope_path"
  | signingKey => "device_signing_key_path"

def itemAt (root : Fields) (place : TransportPlace) : Option Item :=
  (tableAt "cloud_auth" root).bind fun cloud => cloud.get place.key

def pathAt (root : Fields) (place : TransportPlace) : Option String :=
  (place.itemAt root).bind Item.asStr

end TransportPlace

/-! ## References -/

/-- A reference that Core can follow from a client configuration. -/
inductive Reference where
  | client (place : ClientPlace)
  | credential (peer : ℕ) (place : TransportPlace)
  | inbound (place : InboundPlace)
  | outboundCredential (peer : ℕ) (place : TransportPlace)
deriving DecidableEq, Repr

/-- The document at a path. -/
def documentAt (read : String → Option Content) (path : String) : Option Document :=
  (read path).bind Content.parse

/-- The reference that a document at a path has at a place. -/
def pathIn (read : String → Option Content) (pathAt : Fields → Option String) (path : String) :
    Option String :=
  (documentAt read path).bind fun document => pathAt document.root

/-- Where a reference leads. -/
def Reference.followed (read : String → Option Content) (root : Fields) : Reference → Option String
  | client place => place.pathAt root
  | credential peer place =>
    ((ClientPlace.transport peer).pathAt root).bind (pathIn read fun root => place.pathAt root)
  | inbound place =>
    (ClientPlace.inbound.pathAt root).bind (pathIn read fun root => place.pathAt root)
  | outboundCredential peer place =>
    ((ClientPlace.inbound.pathAt root).bind
      (pathIn read fun root => (InboundPlace.transport peer).pathAt root)).bind
      (pathIn read fun root => place.pathAt root)

/-! ## Documents up to their references -/

/-- The named fields, if they are there, become empty texts. -/
def eraseKeys (keys : List String) : Fields → Fields :=
  Fields.mapItems fun key item => if key ∈ keys then .text "" else item

def eraseElements : Item → Item
  | .array items => .array (items.map fun _ => .text "")
  | item => item

/-- A change of a table, or of the tables of a list with headers. -/
def mapTables (f : Fields → Fields) : Item → Item
  | .inline fields => .inline (f fields)
  | .table fields => .table (f fields)
  | .tables rows => .tables (rows.map f)
  | item => item

/-- A transport without its references. -/
def eraseTransport : Fields → Fields :=
  Fields.mapItems fun key item =>
    if key = "cloud_auth" then
      mapTables (eraseKeys ["grant_envelope_path", "device_signing_key_path"]) item
    else item

def eraseCatalog : Fields → Fields :=
  Fields.mapItems fun key item =>
    if key = "segment_snapshot" then .text ""
    else if key = "peer_projections" then eraseElements item
    else item

def eraseSdwan : Fields → Fields :=
  Fields.mapItems fun key item =>
    if key = "segment_snapshot" ∨ key = "local_projection" then .text ""
    else if key = "peer_projections" then eraseElements item
    else if key = "compatibility_generations" then mapTables eraseCatalog item
    else if key = "outbound_peers" then mapTables (eraseKeys ["transport_config"]) item
    else item

/-- An inbound catalog without its references. -/
def eraseInbound : Fields → Fields :=
  Fields.mapItems fun key item => if key = "sdwan" then mapTables eraseSdwan item else item

/-- The same document, up to what `erase` takes away. -/
def SameDocument (erase : Fields → Fields) (original copied : Content) : Prop :=
  ∃ d d' : Document, original = .toml d ∧ copied = .toml d' ∧ d'.layout = d.layout
    ∧ erase d'.root = erase d.root

/-- The same bytes, references that are rewritten apart. -/
def Reference.Same : Reference → Content → Content → Prop
  | client (.transport _) => SameDocument eraseTransport
  | inbound (.transport _) => SameDocument eraseTransport
  | client .inbound => SameDocument eraseInbound
  | _ => fun original copied => copied = original

/-! ## Snapshots and fingerprints -/

/-- What can be read when the snapshot is there. -/
def Snapshot.read (snapshot : Snapshot) (disk : Disk) (path : String) : Option Content :=
  match snapshot.files.find? fun file => decide (join snapshot.directory file.name = path) with
  | some file => some file.content
  | none => disk.read path

/-- Every reference that Core can follow from the captured `client.toml` leads to a file of the snapshot
whose bytes are those of the source. -/
def Closed (disk : Disk) (config : String) (snapshot : Snapshot) : Prop :=
  ∃ source captured, documentAt disk.read config = some source
    ∧ documentAt (snapshot.read disk) snapshot.config = some captured
    ∧ ∀ (reference : Reference) path,
        reference.followed (snapshot.read disk) captured.root = some path →
          ∃ file ∈ snapshot.files, path = join snapshot.directory file.name
            ∧ snapshot.read disk path = some file.content
            ∧ ∃ origin original, reference.followed disk.read source.root = some origin
              ∧ disk.read origin = some original ∧ reference.Same original file.content

/-- What the snapshot has for a reference. -/
def Snapshot.copyOf (snapshot : Snapshot) (disk : Disk) (reference : Reference) : Option Content := do
  let captured ← documentAt (snapshot.read disk) snapshot.config
  let path ← reference.followed (snapshot.read disk) captured.root
  snapshot.read disk path

/-- The digests tell apart what the two fingerprints have digested. -/
structure NoCollision {α β : Type} (sha256 : Content → α) (digest : List (String × α) → β)
    (disk disk' : Disk) (config : String) : Prop where
  files : ∀ path path' content content', disk.read path = some content →
    disk'.read path' = some content' → sha256 content = sha256 content' → content = content'
  entries : ∀ entries entries', fingerprintEntries sha256 disk config = some entries →
    fingerprintEntries sha256 disk' config = some entries' →
    digest entries = digest entries' → entries = entries'

/-- If the fingerprint is the same after a change of the files, a capture copies the same bytes. -/
def Covered {α β : Type} (sha256 : Content → α) (digest : List (String × α) → β) (disk : Disk)
    (config : String) (snapshot : Snapshot) : Prop :=
  ∀ (disk' : Disk) (directory' : NewDirectory disk') (snapshot' : Snapshot) (value : β),
    disk'.size = disk.size → NoCollision sha256 digest disk disk' config →
    fingerprint sha256 disk digest config = some value →
    fingerprint sha256 disk' digest config = some value →
    capture disk' directory' config = some snapshot' →
    ∀ reference : Reference,
      Option.Rel reference.Same (snapshot.copyOf disk reference) (snapshot'.copyOf disk' reference)

/-- No reference is in a list of tables that is spelled as an array: not in the client configuration, and
not in the inbound catalog if it names one. -/
def SpelledWithHeaders (disk : Disk) (config : String) : Prop :=
  ∀ source, documentAt disk.read config = some source →
    (∀ place : ClientPlace, place.inInlineList source.root → place.pathAt source.root = none)
      ∧ ∀ path catalog, ClientPlace.inbound.pathAt source.root = some path →
        documentAt disk.read path = some catalog →
        ∀ place : InboundPlace, place.inInlineList catalog.root → place.pathAt catalog.root = none

end CandyRuntime.Agent.SignedSnapshot
