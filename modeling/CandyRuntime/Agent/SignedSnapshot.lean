import CandyRuntime.Lib.Toml
import Mathlib.Data.Nat.Notation

/-!
# Signed snapshots

`Snapshot::capture` and `fingerprint`. A capture copies a client configuration and the files that it
refers to into a new directory and lets the copies refer to each other; a fingerprint is the digest of the
same files where they are. A file that is a TOML document is its tree and its layout (what the text has
besides the tree), and an edit keeps the layout.
-/

namespace CandyRuntime.Agent.SignedSnapshot

open Lib Lib.Proc Lib.Toml

def fileLimit : ℕ := 8 * 1024 * 1024

def closureLimit : ℕ := 16 * 1024 * 1024

def fileCountLimit : ℕ := 128

/-! ## Files -/

/-- `DocumentMut`. -/
structure Document where
  root : Fields
  layout : String

/-- The bytes of a file: the text of a document, or bytes that are no document. -/
inductive Content where
  | toml (document : Document)
  | bytes (bytes : List UInt8)

/-- The files that can be read, by their paths, and how long a file is. -/
structure Disk where
  read : String → Option Content
  size : Content → ℕ

/-- `Path::is_absolute`. -/
def isAbsolute (path : String) : Bool := path.toList.head? = some '/'

/-- `Path::join` of a directory and a name. -/
def join (directory name : String) : String := directory ++ "/" ++ name

/-- `String::from_utf8(bytes)?.parse()?`. -/
def Content.parse : Content → Option Document
  | toml document => some document
  | bytes _ => none

/-- A directory that `create_dir` has made: it was not there, so the store has no file in it. -/
structure NewDirectory (disk : Disk) where
  path : String
  new : ∀ name, disk.read (join path name) = none

section

variable {σ : Type} (disk : Disk)

/-- `read_with_budget`. -/
def readWithBudget (path : String) (remaining : ℕ) : Proc σ String Content := do
  let content ← okOr (disk.read path) "open"
  ensure (disk.size content ≤ min fileLimit remaining)
    "signed snapshot input must be a bounded regular file"
  return content

/-- A reference: an absolute path. -/
def referencePath (item : Item) (noString relative : String) : Proc σ String String := do
  let path ← okOr item.asStr noString
  ensure (isAbsolute path) relative
  return path

/-- The projections of an inbound catalog. -/
def projections (visit : Item → Bool → Proc σ String Item) (item : Item) : Proc σ String Item :=
  match item with
  | .array items => do
    let items' ← each (fun entry => visit entry false) items
    return .array items'
  | _ => fail "inbound projections must be an array"

/-- The visit of a retained catalog. -/
def visitCatalog (visit : Item → Bool → Proc σ String Item) (catalog : Fields) :
    Proc σ String Fields := do
  let catalog ← catalog.visitRequired "segment_snapshot" "retained snapshot absent"
    fun item => visit item false
  catalog.visitRequired "peer_projections" "retained peers absent" (projections visit)

/-- The visit of an outbound peer. -/
def visitPeer (visit : Item → Bool → Proc σ String Item) (peer : Fields) : Proc σ String Fields :=
  peer.visitRequired "transport_config" "inbound outbound transport absent" fun item => visit item true

/-- The visit of the table of an inbound catalog. -/
def visitSdwan (visit : Item → Bool → Proc σ String Item) (sdwan : Fields) : Proc σ String Fields := do
  let sdwan ← sdwan.visitRequired "segment_snapshot" "inbound signed reference absent"
    fun item => visit item false
  let sdwan ← sdwan.visitRequired "local_projection" "inbound signed reference absent"
    fun item => visit item false
  let sdwan ← sdwan.visitOptional "peer_projections" (projections visit)
  let sdwan ← sdwan.visitHeaders "compatibility_generations" (visitCatalog visit)
  sdwan.visitHeaders "outbound_peers" (visitPeer visit)

/-- `visit_inbound_references`; the visitor is told which references are transports. -/
def visitInboundReferences (visit : Item → Bool → Proc σ String Item) (document : Document) :
    Proc σ String Document := do
  let item ← okOr (document.root.get "sdwan") "inbound signed catalog has no sdwan table"
  let sdwan ← okOr item.asTableLike "inbound signed catalog has no sdwan table"
  let sdwan ← visitSdwan visit sdwan
  return { document with root := document.root.set "sdwan" (item.withFields sdwan) }

end

/-! ## `fingerprint` -/

/-- The entries of a fingerprint, the bytes that they have read, and the index of the next reference of
the inbound catalog. -/
structure Entries (α : Type) where
  entries : List (String × α)
  total : ℕ
  index : ℕ

section

variable {α β : Type} (sha256 : Content → α) (disk : Disk)

/-- `read_entry`. -/
def readEntry (name path : String) : Proc (Entries α) String Content := do
  let s ← get
  ensure (s.entries.length < fileCountLimit) "signed closure exceeds file budget"
  let content ← readWithBudget disk path (closureLimit - s.total)
  modify fun s =>
    { s with entries := s.entries ++ [(name, sha256 content)], total := s.total + disk.size content }
  return content

/-- `reference_path`. -/
def entryPath (item : Item) : Proc (Entries α) String String :=
  referencePath item "signed reference must be a path string" "signed reference must be absolute"

/-- The entry of a credential, if the credential is there. -/
def readCredential (label key : String) (cloud : Fields) : Proc (Entries α) String Unit :=
  match cloud.get key with
  | some reference => do
    let path ← entryPath reference
    let _ ← readEntry sha256 disk (label ++ "-" ++ key) path
    return ()
  | none => pure ()

/-- The entries of the credentials of a transport. -/
def readCredentials (label : String) (content : Content) : Proc (Entries α) String Unit := do
  let transport ← okOr content.parse "parse"
  match (transport.root.get "cloud_auth").bind Item.asTableLike with
  | some cloud => do
    readCredential sha256 disk label "grant_envelope_path" cloud
    readCredential sha256 disk label "device_signing_key_path" cloud
  | none => pure ()

/-- The entries of the peers from an index on. -/
def readPeers (index : ℕ) : List Fields → Proc (Entries α) String Unit
  | [] => pure ()
  | peer :: rest => do
    let reference ← okOr (peer.get "transport_config") "peer transport absent"
    let path ← entryPath reference
    let content ← readEntry sha256 disk ("peer-" ++ toString index ++ "-transport") path
    readCredentials sha256 disk ("peer-" ++ toString index) content
    readPeers (index + 1) rest

/-- The visitor of an inbound catalog. -/
def readInboundReference (reference : Item) (transport : Bool) : Proc (Entries α) String Item := do
  let s ← get
  let path ← entryPath reference
  let content ← readEntry sha256 disk ("inbound-" ++ toString s.index) path
  modify fun s => { s with index := s.index + 1 }
  if transport then
    let s ← get
    readCredentials sha256 disk ("inbound-" ++ toString s.index) content
    return reference
  else return reference

/-- The entry of a reference of the client configuration. -/
def readReference (document : Document) (key : String) : Proc (Entries α) String Unit := do
  let reference ← okOr (document.root.get key) "signed reference absent"
  let path ← entryPath reference
  let _ ← readEntry sha256 disk key path
  return ()

/-- The entries of the inbound catalog, if the client configuration names one. -/
def readInbound (document : Document) : Proc (Entries α) String Unit :=
  match document.root.get "inbound_server_config" with
  | some reference => do
    let path ← entryPath reference
    let content ← readEntry sha256 disk "inbound-catalog" path
    let inbound ← okOr content.parse "parse"
    let _ ← visitInboundReferences (readInboundReference sha256 disk) inbound
    return ()
  | none => pure ()

/-- The entries of the references of a client configuration. -/
def readClient (document : Document) : Proc (Entries α) String Unit := do
  let peers := ((document.root.get "peers").bind Item.asArrayOfTables).getD []
  ensure (peers.length ≤ fileCountLimit - 3) "signed closure exceeds file budget"
  readReference sha256 disk document "segment_snapshot"
  readReference sha256 disk document "site_projection"
  readPeers sha256 disk 0 peers
  readInbound sha256 disk document

/-- All entries, in the order in which they are read. -/
def readEntries (config : String) : Proc (Entries α) String Unit := do
  let content ← readEntry sha256 disk "config" config
  let document ← okOr content.parse "parse"
  readClient sha256 disk document

/-- The entries of a fingerprint, if it comes about. -/
def fingerprintEntries (config : String) : Option (List (String × α)) :=
  match readEntries sha256 disk config ⟨[], 0, 0⟩ with
  | (.ok _, s) => some s.entries
  | _ => none

/-- `fingerprint`. -/
def fingerprint (digest : List (String × α) → β) (config : String) : Option β :=
  (fingerprintEntries sha256 disk config).map digest

end

/-! ## `Builder` -/

/-- A file of the snapshot; its digest and its length are those of its content. -/
structure SnapshotFile where
  name : String
  content : Content

/-- `Builder`. -/
structure Builder where
  directory : String
  files : List SnapshotFile
  total : ℕ

/-- The file of a name. -/
def fileNamed (files : List SnapshotFile) (name : String) : Option Content :=
  (files.find? fun file => decide (file.name = name)).map SnapshotFile.content

namespace Builder

variable (disk : Disk)

/-- `Builder::read`. -/
def read (path : String) : Proc Builder String Content := do
  let b ← get
  ensure (b.files.length < fileCountLimit) "signed snapshot closure exceeds file budget"
  readWithBudget disk path (closureLimit - b.total)

/-- `Builder::write`, which creates a file that is not there yet. -/
def write (name : String) (content : Content) : Proc Builder String String := do
  ensure (disk.size content ≤ fileLimit)
    "signed snapshot generated file exceeds eight MiB input budget"
  modify fun b => { b with total := b.total + disk.size content }
  let b ← get
  ensure (b.total ≤ closureLimit ∧ b.files.length < fileCountLimit)
    "signed snapshot closure exceeds explicit byte/file budget"
  ensure (fileNamed b.files name).isNone "create_new"
  modify fun b => { b with files := b.files ++ [⟨name, content⟩] }
  return join b.directory name

/-- `Builder::write` of a file whose name begins with the number of files. -/
def writeNext (suffix : String) (content : Content) : Proc Builder String String := do
  let b ← get
  write disk (toString b.files.length ++ "-" ++ suffix) content

/-- `Builder::reference`. -/
def reference (label : String) (item : Item) : Proc Builder String Item := do
  let path ← referencePath item "signed configuration reference must be a string"
    "signed snapshot requires absolute source references"
  let bytes ← read disk path
  let output ← writeNext disk (label ++ ".bin") bytes
  return .text output

/-- `Builder::transport`. -/
def transport (item : Item) : Proc Builder String Item := do
  let path ← referencePath item "transport reference must be a string"
    "transport snapshot requires an absolute source reference"
  let content ← read disk path
  let config ← okOr content.parse "parse"
  let root ← config.root.visitOptional "cloud_auth" fun item =>
    match item.asTableLike with
    | some cloud => do
      let cloud ← cloud.visitOptional "grant_envelope_path" (reference disk "grant_envelope_path")
      let cloud ← cloud.visitOptional "device_signing_key_path"
        (reference disk "device_signing_key_path")
      return item.withFields cloud
    | none => pure item
  let output ← writeNext disk "transport.toml" (.toml { config with root })
  return .text output

/-- `Builder::inbound`. -/
def inbound (item : Item) : Proc Builder String Item := do
  let path ← referencePath item "inbound catalog reference must be a string"
    "inbound catalog requires absolute reference"
  let content ← read disk path
  let document ← okOr content.parse "parse"
  let document ← visitInboundReferences
    (fun item isTransport => if isTransport then transport disk item
      else reference disk "inbound-signed" item) document
  let output ← writeNext disk "inbound.toml" (.toml document)
  return .text output

/-- The copies that `capture` makes, from the bytes of the client configuration to `client.toml`. -/
def client (config : String) : Proc Builder String String := do
  let content ← okOr (disk.read config) "open"
  ensure (disk.size content ≤ fileLimit) "signed snapshot input must be a bounded regular file"
  let document ← okOr content.parse "parse"
  let root ← document.root.visitRequired "segment_snapshot" "missing signed reference"
    (reference disk "segment_snapshot")
  let root ← root.visitRequired "site_projection" "missing signed reference"
    (reference disk "site_projection")
  let root ← root.visitHeaders "peers" fun peer =>
    peer.visitRequired "transport_config" "missing peer transport" (transport disk)
  let root ← root.visitOptional "inbound_server_config" (inbound disk)
  write disk "client.toml" (.toml { document with root })

end Builder

/-- `Snapshot`. -/
structure Snapshot where
  directory : String
  config : String
  files : List SnapshotFile

/-- `Snapshot::capture` into a directory. -/
def capture (disk : Disk) (directory : NewDirectory disk) (config : String) : Option Snapshot :=
  match Builder.client disk config ⟨directory.path, [], 0⟩ with
  | (.ok client, b) => some ⟨directory.path, client, b.files⟩
  | _ => none

end CandyRuntime.Agent.SignedSnapshot
