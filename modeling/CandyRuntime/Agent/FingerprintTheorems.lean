import CandyRuntime.Agent.SignedSnapshotTheorems

/-!
# Fingerprints: which snapshots are covered

Two fingerprints with the same entries have read the same bytes, one entry after the other: their runs are
in lockstep. So the stores have the same file at every place that the traversal visits, and these are all
places if no list of tables is an array.
-/

namespace CandyRuntime.Agent.SignedSnapshot

open Lib Lib.Proc Lib.Toml

variable {config : String} {path : String} {d : Document}

/-! ## A visit that changes nothing -/

section

variable {σ : Type} [Preorder σ] {visit visit' : Item → Bool → Proc σ String Item}
  {V : Bool → Item → Item → Prop}

theorem projections_steady
    (h : ∀ isTransport, Steady (fun item => visit item isTransport)
      (fun item => visit' item isTransport) fun item => V isTransport item item) :
    Steady (projections visit) (projections visit') fun item => Elements (V false) item item where
  grows := fun item => Grows.of_establishes
    (projections_establishes (V := fun _ _ _ _ => True) (fun item t => (h t).grows item) item)
  grows' := fun item => Grows.of_establishes
    (projections_establishes (V := fun _ _ _ _ => True) (fun item t => (h t).grows' item) item)
  lockstep := by
    intro item
    unfold projections
    cases item with
    | array items =>
      refine (h false).each.bind_left items (fun hV => ?_) (fun _ => Grows.pure _)
        fun _ => Grows.pure _
      exact Lockstep.pure ⟨rfl, rfl, _, _, rfl, rfl, List.forall₂_same.mpr hV⟩
    | _ => exact fun _ _ _ _ _ _ hrun => by cases hrun

theorem visitCatalog_steady
    (h : ∀ isTransport, Steady (fun item => visit item isTransport)
      (fun item => visit' item isTransport) fun item => V isTransport item item) :
    Steady (visitCatalog visit) (visitCatalog visit') fun catalog => EditedCatalog V catalog catalog :=
  ((Steady.required (V := V false) _ _ (h false)).comp
    (Steady.required (V := Elements (V false)) _ _ (projections_steady h))).mono
    fun catalog hcatalog => ⟨catalog, hcatalog⟩

theorem visitPeer_steady
    (h : ∀ isTransport, Steady (fun item => visit item isTransport)
      (fun item => visit' item isTransport) fun item => V isTransport item item) :
    Steady (visitPeer visit) (visitPeer visit') fun peer =>
      Edit "transport_config" (Required (V true)) peer peer :=
  Steady.required (V := V true) _ _ (h true)

theorem visitSdwan_steady
    (h : ∀ isTransport, Steady (fun item => visit item isTransport)
      (fun item => visit' item isTransport) fun item => V isTransport item item) :
    Steady (visitSdwan visit) (visitSdwan visit') fun sdwan => EditedSdwan V sdwan sdwan := by
  refine ((Steady.required (V := V false) _ _ (h false)).comp
    ((Steady.required (V := V false) _ _ (h false)).comp
    ((Steady.optional (V := Elements (V false)) _ (projections_steady h)).comp
    ((Steady.headers (V := EditedCatalog V) _ (visitCatalog_steady h)).comp
      (Steady.headers (V := Edit "transport_config" (Required (V true))) _
        (visitPeer_steady h)))))).mono ?_
  intro sdwan ⟨h₁, h₂, h₃, h₄, h₅⟩
  exact ⟨sdwan, sdwan, sdwan, sdwan, h₁, h₂, h₃, h₄, h₅⟩

theorem visitInboundReferences_grows (h : ∀ item isTransport, Grows (visit item isTransport))
    (document : Document) : Grows (visitInboundReferences visit document) :=
  Grows.of_establishes (visitInboundReferences_establishes (V := fun _ _ _ _ => True) h document)

/-- Two visits of a catalog that give back what they visit. -/
theorem visitInboundReferences_lockstep
    (h : ∀ isTransport, Steady (fun item => visit item isTransport)
      (fun item => visit' item isTransport) fun item => V isTransport item item)
    (document : Document) :
    Lockstep (visitInboundReferences visit document) (visitInboundReferences visit' document)
      fun _ _ => EditedInbound V document document := by
  refine (Lockstep.okOr _ _ _).bind (fun item item' hitem => ?_)
    (fun item => (Grows.okOr _ _).bind fun _ =>
      ((visitSdwan_steady h).grows _).bind fun _ => Grows.pure _)
    fun item => (Grows.okOr _ _).bind fun _ =>
      ((visitSdwan_steady h).grows' _).bind fun _ => Grows.pure _
  obtain ⟨rfl, hget⟩ := hitem
  refine (Lockstep.okOr _ _ _).bind (fun sdwan sdwan' hsdwan => ?_)
    (fun _ => ((visitSdwan_steady h).grows _).bind fun _ => Grows.pure _)
    fun _ => ((visitSdwan_steady h).grows' _).bind fun _ => Grows.pure _
  obtain ⟨rfl, htable⟩ := hsdwan
  refine (visitSdwan_steady h).bind_left sdwan (fun hedited => ?_) (fun _ => Grows.pure _)
    fun _ => Grows.pure _
  refine Lockstep.pure ⟨item, sdwan, sdwan, hget, htable, hedited, ?_⟩
  rw [Item.withFields_self htable, Fields.set_get hget]

end

/-! ## Two fingerprints -/

/-- A list of entries grows at its end. -/
instance {α : Type} : Preorder (Entries α) where
  le e e' := e.entries <+: e'.entries
  le_refl _ := List.prefix_rfl
  le_trans _ _ _ := List.IsPrefix.trans

/-- Both stores have the same bytes at a path. -/
def SameAt (disk disk' : Disk) (path : String) : Prop :=
  ∃ content, disk.read path = some content ∧ disk'.read path = some content

/-- Both stores have the same transport at a path, with the same credentials. -/
def SameTransportAt (disk disk' : Disk) (path : String) : Prop :=
  ∃ content d, disk.read path = some content ∧ disk'.read path = some content
    ∧ content.parse = some d
    ∧ ∀ (place : TransportPlace) credential, place.pathAt d.root = some credential →
      SameAt disk disk' credential

section

variable {α : Type} {sha256 : Content → α} {disk disk' : Disk}

theorem readEntry_run {name path : String} {s t : Entries α} {content : Content}
    (h : readEntry sha256 disk name path s = (.ok content, t)) :
    disk.read path = some content
      ∧ t = ⟨s.entries ++ [(name, sha256 content)], s.total + disk.size content, s.index⟩ := by
  have hsucceeds : Succeeds (readEntry sha256 disk name path)
      (fun content' t' => content' = content ∧ t' = t) s :=
    (succeeds_iff _).mpr ⟨content, t, h, rfl, rfl⟩
  unfold readEntry readWithBudget at hsucceeds
  simp only [succeeds_bind, succeeds_ensure, succeeds_modify, succeeds_get, succeeds_pure,
    succeeds_okOr] at hsucceeds
  obtain ⟨_, found, hread, _, hfound, hstate⟩ := hsucceeds
  obtain rfl := hfound
  exact ⟨hread, hstate.symm⟩

theorem readEntry_grows (name path : String) : Grows (readEntry sha256 disk name path) := by
  intro s content t hrun
  obtain ⟨_, rfl⟩ := readEntry_run hrun
  exact ⟨List.prefix_append _ _, fun _ _ => trivial⟩

/-- Two stores of files of the same lengths, whose digests do not collide. -/
structure Compared (sha256 : Content → α) (disk disk' : Disk) : Prop where
  size : disk'.size = disk.size
  files : ∀ path path' content content', disk.read path = some content →
    disk'.read path' = some content' → sha256 content = sha256 content' → content = content'

/-- Entries of the same digest come from the same bytes. -/
theorem readEntry_lockstep (hdisks : Compared sha256 disk disk') (name path : String) :
    Lockstep (readEntry sha256 disk name path) (readEntry sha256 disk' name path) fun content content' =>
      content' = content ∧ disk.read path = some content ∧ disk'.read path = some content := by
  intro s u content t content' t' hrun hrun' ht ht'
  obtain ⟨hread, rfl⟩ := readEntry_run hrun
  obtain ⟨hread', rfl⟩ := readEntry_run hrun'
  have hsame : s.entries ++ [(name, sha256 content)] = s.entries ++ [(name, sha256 content')] :=
    (List.prefix_of_prefix_length_le ht ht' (by simp)).eq_of_length (by simp)
  have hdigest : sha256 content = sha256 content' := by simpa using hsame
  obtain rfl := hdisks.files path path content content' hread hread' hdigest
  refine ⟨⟨rfl, hread, hread'⟩, ?_⟩
  rw [hdisks.size]

theorem entryPath_grows (item : Item) : Grows (entryPath item : Proc (Entries α) String String) :=
  Grows.of_establishes (referencePath_establishes item _ _)

theorem entryPath_lockstep (item : Item) :
    Lockstep (entryPath item : Proc (Entries α) String String) (entryPath item) fun path path' =>
      path' = path ∧ item.asStr = some path := by
  refine (Lockstep.okOr _ _ _).bind (fun path path' hpath => ?_)
    (fun _ => (Grows.ensure _ _).bind fun _ => Grows.pure _)
    fun _ => (Grows.ensure _ _).bind fun _ => Grows.pure _
  obtain ⟨rfl, hpath⟩ := hpath
  exact (Lockstep.ensure _ _ _ _).bind (fun _ _ _ => Lockstep.pure ⟨rfl, hpath⟩)
    (fun _ => Grows.pure _) fun _ => Grows.pure _

/-- The entry of a reference, and what follows it. -/
theorem referenceEntry_grows {β : Type} {f : Content → Proc (Entries α) String β} (name : String)
    (item : Item) (hf : ∀ content, Grows (f content)) :
    Grows (entryPath item >>= fun path => readEntry sha256 disk name path >>= f) :=
  (entryPath_grows item).bind fun _ => (readEntry_grows _ _).bind hf

theorem referenceEntry_lockstep {β : Type} {f f' : Content → Proc (Entries α) String β}
    {R : β → β → Prop} (hdisks : Compared sha256 disk disk') (name : String) (item : Item)
    (hf : ∀ path content, item.asStr = some path → disk.read path = some content →
      disk'.read path = some content → Lockstep (f content) (f' content) R)
    (hgrows : ∀ content, Grows (f content)) (hgrows' : ∀ content, Grows (f' content)) :
    Lockstep (entryPath item >>= fun path => readEntry sha256 disk name path >>= f)
      (entryPath item >>= fun path => readEntry sha256 disk' name path >>= f') R := by
  refine (entryPath_lockstep item).bind (fun path path' hpath => ?_)
    (fun _ => (readEntry_grows _ _).bind hgrows) fun _ => (readEntry_grows _ _).bind hgrows'
  obtain ⟨rfl, hpath⟩ := hpath
  refine (readEntry_lockstep hdisks name path').bind (fun content content' hread => ?_) hgrows hgrows'
  obtain ⟨rfl, hread, hread'⟩ := hread
  exact hf path' content' hpath hread hread'

theorem readCredential_grows (label key : String) (cloud : Fields) :
    Grows (readCredential sha256 disk label key cloud) := by
  unfold readCredential
  cases cloud.get key with
  | none => exact Grows.pure ()
  | some reference => exact referenceEntry_grows _ reference fun _ => Grows.pure ()

theorem readCredential_lockstep (hdisks : Compared sha256 disk disk') (label key : String)
    (cloud : Fields) :
    Lockstep (readCredential sha256 disk label key cloud) (readCredential sha256 disk' label key cloud)
      fun _ _ => ∀ path, (cloud.get key).bind Item.asStr = some path → SameAt disk disk' path := by
  unfold readCredential
  cases cloud.get key with
  | none => exact Lockstep.pure fun path hpath => by cases hpath
  | some reference =>
    refine referenceEntry_lockstep hdisks _ reference (fun path content hpath hread hread' => ?_)
      (fun _ => Grows.pure ()) fun _ => Grows.pure ()
    refine Lockstep.pure fun other hother => ?_
    obtain rfl := Option.some.inj (hpath.symm.trans hother)
    exact ⟨content, hread, hread'⟩

theorem readCredentials_grows (label : String) (content : Content) :
    Grows (readCredentials sha256 disk label content) := by
  refine (Grows.okOr _ _).bind fun d => ?_
  cases (d.root.get "cloud_auth").bind Item.asTableLike with
  | none => exact Grows.pure ()
  | some cloud => exact (readCredential_grows _ _ _).bind fun _ => readCredential_grows _ _ _

theorem readCloudAuth_grows (disk : Disk) (label : String) (d : Document) : Grows
    (match (d.root.get "cloud_auth").bind Item.asTableLike with
    | some cloud => do
      readCredential sha256 disk label "grant_envelope_path" cloud
      readCredential sha256 disk label "device_signing_key_path" cloud
    | none => pure ()) := by
  cases (d.root.get "cloud_auth").bind Item.asTableLike with
  | none => exact Grows.pure ()
  | some cloud => exact (readCredential_grows _ _ _).bind fun _ => readCredential_grows _ _ _

theorem readCredentials_lockstep (hdisks : Compared sha256 disk disk') (label : String)
    (content : Content) :
    Lockstep (readCredentials sha256 disk label content) (readCredentials sha256 disk' label content)
      fun _ _ => ∃ d, content.parse = some d ∧ ∀ (place : TransportPlace) path,
        place.pathAt d.root = some path → SameAt disk disk' path := by
  refine (Lockstep.okOr _ _ _).bind (fun d d' hd => ?_) (fun d => readCloudAuth_grows disk label d)
    fun d => readCloudAuth_grows disk' label d
  obtain ⟨rfl, hparse⟩ := hd
  cases hcloud : (d.root.get "cloud_auth").bind Item.asTableLike with
  | none =>
    refine Lockstep.pure ⟨d, hparse, fun place path hpath => ?_⟩
    unfold TransportPlace.pathAt TransportPlace.itemAt tableAt at hpath
    rw [hcloud] at hpath
    cases hpath
  | some cloud =>
    refine (readCredential_lockstep hdisks _ _ cloud).bind (fun _ _ hgrant => ?_)
      (fun _ => readCredential_grows _ _ _) fun _ => readCredential_grows _ _ _
    refine (readCredential_lockstep hdisks _ _ cloud).mono fun _ _ hkey => ?_
    refine ⟨d, hparse, fun place path hpath => ?_⟩
    unfold TransportPlace.pathAt TransportPlace.itemAt tableAt at hpath
    rw [hcloud] at hpath
    cases place with
    | grant => exact hgrant path hpath
    | signingKey => exact hkey path hpath

theorem readPeers_grows (index : ℕ) (peers : List Fields) :
    Grows (readPeers sha256 disk index peers) := by
  induction peers generalizing index with
  | nil => exact Grows.pure ()
  | cons peer rest ih =>
    exact (Grows.okOr _ _).bind fun reference => referenceEntry_grows _ reference fun content =>
      (readCredentials_grows _ content).bind fun _ => ih (index + 1)

/-- Peers with the same entries have the same transports. -/
theorem readPeers_lockstep (hdisks : Compared sha256 disk disk') (index : ℕ) (peers : List Fields) :
    Lockstep (readPeers sha256 disk index peers) (readPeers sha256 disk' index peers) fun _ _ =>
      ∀ (i : ℕ) path, (peers[i]?.bind fun row : Fields => row.get "transport_config").bind Item.asStr
        = some path → SameTransportAt disk disk' path := by
  induction peers generalizing index with
  | nil => exact Lockstep.pure fun i path hpath => by cases hpath
  | cons peer rest ih =>
    have hgrows : ∀ (disk : Disk) (reference : Item), Grows (do
        let path ← entryPath reference
        let content ← readEntry sha256 disk ("peer-" ++ toString index ++ "-transport") path
        readCredentials sha256 disk ("peer-" ++ toString index) content
        readPeers sha256 disk (index + 1) rest) := fun disk reference =>
      referenceEntry_grows _ reference fun content =>
        (readCredentials_grows _ content).bind fun _ => readPeers_grows (index + 1) rest
    refine (Lockstep.okOr _ _ _).bind (fun reference reference' hreference => ?_) (hgrows disk)
      (hgrows disk')
    obtain ⟨rfl, hget⟩ := hreference
    refine referenceEntry_lockstep hdisks _ reference (fun path content hpath hread hread' => ?_)
      (fun content => (readCredentials_grows _ content).bind fun _ => readPeers_grows (index + 1) rest)
      fun content => (readCredentials_grows _ content).bind fun _ => readPeers_grows (index + 1) rest
    refine (readCredentials_lockstep hdisks _ content).bind (fun _ _ hcredentials => ?_)
      (fun _ => readPeers_grows (index + 1) rest) fun _ => readPeers_grows (index + 1) rest
    refine (ih (index + 1)).mono fun _ _ hrest i other hother => ?_
    cases i with
    | zero =>
      have hpeer : (peer.get "transport_config").bind Item.asStr = some other := hother
      rw [hget] at hpeer
      obtain rfl := Option.some.inj (hpath.symm.trans hpeer)
      obtain ⟨d, hparse, hsame⟩ := hcredentials
      exact ⟨content, d, hread, hread', hparse, hsame⟩
    | succ i => exact hrest i other hother

/-- What the stores have in common at a reference of an inbound catalog. -/
def InboundSame (disk disk' : Disk) (isTransport : Bool) (item : Item) : Prop :=
  ∀ path, item.asStr = some path →
    if isTransport then SameTransportAt disk disk' path else SameAt disk disk' path

/-- What the visitor of an inbound catalog does after it has read a reference. -/
theorem inboundReference_tail_grows (item : Item) (isTransport : Bool) (content : Content) :
    Grows (if isTransport then do
      let s ← get
      readCredentials sha256 disk ("inbound-" ++ toString s.index) content
      return item
    else return item) := by
  cases isTransport with
  | true =>
    exact Grows.get.bind fun _ => (readCredentials_grows _ content).bind fun _ => Grows.pure item
  | false => exact Grows.pure item

theorem inboundReference_rest_grows (item : Item) (isTransport : Bool) (content : Content) :
    Grows (do
      modify fun s : Entries α => { s with index := s.index + 1 }
      if isTransport then
        let s ← get
        readCredentials sha256 disk ("inbound-" ++ toString s.index) content
        return item
      else return item) :=
  (Grows.modify fun _ => List.prefix_rfl).bind fun _ =>
    inboundReference_tail_grows item isTransport content

theorem readInboundReference_grows (item : Item) (isTransport : Bool) :
    Grows (readInboundReference sha256 disk item isTransport) :=
  Grows.get.bind fun _ =>
    referenceEntry_grows _ item (inboundReference_rest_grows item isTransport)

/-- The visitor of an inbound catalog gives back the references. -/
theorem readInboundReference_steady (hdisks : Compared sha256 disk disk') (isTransport : Bool) :
    Steady (fun item => readInboundReference sha256 disk item isTransport)
      (fun item => readInboundReference sha256 disk' item isTransport)
      (InboundSame disk disk' isTransport) := by
  refine ⟨fun item => ?_, fun item => readInboundReference_grows item isTransport,
    fun item => readInboundReference_grows item isTransport⟩
  refine Lockstep.get.bind (fun s s' hs => ?_)
    (fun _ => referenceEntry_grows _ item (inboundReference_rest_grows item isTransport))
    fun _ => referenceEntry_grows _ item (inboundReference_rest_grows item isTransport)
  obtain rfl := hs
  refine referenceEntry_lockstep hdisks _ item (fun path content hpath hread hread' => ?_)
    (inboundReference_rest_grows item isTransport) (inboundReference_rest_grows item isTransport)
  refine (Lockstep.modify _).bind (fun _ _ _ => ?_)
    (fun _ => inboundReference_tail_grows item isTransport content)
    fun _ => inboundReference_tail_grows item isTransport content
  cases isTransport with
  | true =>
    have hlast : ∀ (disk : Disk) (s : Entries α), Grows (do
        readCredentials sha256 disk ("inbound-" ++ toString s.index) content
        return item) := fun disk s => (readCredentials_grows _ content).bind fun _ => Grows.pure item
    refine Lockstep.get.bind (fun s s' hs => ?_) (hlast disk) (hlast disk')
    obtain rfl := hs
    refine (readCredentials_lockstep hdisks _ content).bind (fun _ _ hcredentials => ?_)
      (fun _ => Grows.pure item) fun _ => Grows.pure item
    obtain ⟨d, hparse, hsame⟩ := hcredentials
    refine Lockstep.pure ⟨rfl, rfl, fun other hother => ?_⟩
    obtain rfl := Option.some.inj (hpath.symm.trans hother)
    exact ⟨content, d, hread, hread', hparse, hsame⟩
  | false =>
    refine Lockstep.pure ⟨rfl, rfl, fun other hother => ?_⟩
    obtain rfl := Option.some.inj (hpath.symm.trans hother)
    exact ⟨content, hread, hread'⟩

/-- Both stores have the same inbound catalog at a path, with the same references. -/
def SameInboundAt (disk disk' : Disk) (path : String) : Prop :=
  ∃ content d, disk.read path = some content ∧ disk'.read path = some content
    ∧ content.parse = some d
    ∧ EditedInbound (fun isTransport item _ => InboundSame disk disk' isTransport item) d d

/-- What the stores have in common at a place of the client configuration. -/
def ClientSame (disk disk' : Disk) : ClientPlace → String → Prop
  | .transport _ => SameTransportAt disk disk'
  | .inbound => SameInboundAt disk disk'
  | _ => SameAt disk disk'

theorem readReference_grows (d : Document) (key : String) :
    Grows (readReference sha256 disk d key) :=
  (Grows.okOr _ _).bind fun reference => referenceEntry_grows _ reference fun _ => Grows.pure ()

theorem readReference_lockstep (hdisks : Compared sha256 disk disk') (d : Document) (key : String) :
    Lockstep (readReference sha256 disk d key) (readReference sha256 disk' d key) fun _ _ =>
      ∀ path, (d.root.get key).bind Item.asStr = some path → SameAt disk disk' path := by
  refine (Lockstep.okOr _ _ _).bind (fun reference reference' hreference => ?_)
    (fun reference => referenceEntry_grows _ reference fun _ => Grows.pure ())
    fun reference => referenceEntry_grows _ reference fun _ => Grows.pure ()
  obtain ⟨rfl, hget⟩ := hreference
  refine referenceEntry_lockstep hdisks _ reference (fun path content hpath hread hread' => ?_)
    (fun _ => Grows.pure ()) fun _ => Grows.pure ()
  refine Lockstep.pure fun other hother => ?_
  rw [hget] at hother
  obtain rfl := Option.some.inj (hpath.symm.trans hother)
  exact ⟨content, hread, hread'⟩

theorem readInbound_grows (d : Document) : Grows (readInbound sha256 disk d) := by
  unfold readInbound
  cases d.root.get "inbound_server_config" with
  | none => exact Grows.pure ()
  | some reference =>
    exact referenceEntry_grows _ reference fun _ => (Grows.okOr _ _).bind fun inbound =>
      (visitInboundReferences_grows readInboundReference_grows inbound).bind fun _ => Grows.pure ()

theorem readInbound_lockstep (hdisks : Compared sha256 disk disk') (d : Document) :
    Lockstep (readInbound sha256 disk d) (readInbound sha256 disk' d) fun _ _ =>
      ∀ path, ClientPlace.inbound.pathAt d.root = some path → SameInboundAt disk disk' path := by
  unfold readInbound ClientPlace.pathAt ClientPlace.itemAt
  cases d.root.get "inbound_server_config" with
  | none => exact Lockstep.pure fun path hpath => by cases hpath
  | some reference =>
    have hvisit : ∀ (disk : Disk) (inbound : Document), Grows (do
        let _ ← visitInboundReferences (readInboundReference sha256 disk) inbound
        return ()) := fun disk inbound =>
      (visitInboundReferences_grows readInboundReference_grows inbound).bind fun _ => Grows.pure ()
    refine referenceEntry_lockstep hdisks _ reference (fun path content hpath hread hread' => ?_)
      (fun content => (Grows.okOr _ _).bind (hvisit disk))
      fun content => (Grows.okOr _ _).bind (hvisit disk')
    refine (Lockstep.okOr _ _ _).bind (fun inbound inbound' hinbound => ?_) (hvisit disk)
      (hvisit disk')
    obtain ⟨rfl, hparse⟩ := hinbound
    refine (visitInboundReferences_lockstep
      (V := fun isTransport item _ => InboundSame disk disk' isTransport item)
      (readInboundReference_steady hdisks) inbound).bind (fun _ _ hedited => ?_)
      (fun _ => Grows.pure ()) fun _ => Grows.pure ()
    refine Lockstep.pure fun other hother => ?_
    obtain rfl := Option.some.inj (hpath.symm.trans hother)
    exact ⟨content, inbound, hread, hread', hparse, hedited⟩

/-- A client configuration with the same entries has the same files at all places that are visited. -/
theorem readClient_lockstep (hdisks : Compared sha256 disk disk') (d : Document) :
    Lockstep (readClient sha256 disk d) (readClient sha256 disk' d) fun _ _ =>
      ∀ (place : ClientPlace) path, place.inInlineList d.root = false →
        place.pathAt d.root = some path → ClientSame disk disk' place path := by
  have hpeers : ∀ disk : Disk, Grows (do
      readPeers sha256 disk 0 (((d.root.get "peers").bind Item.asArrayOfTables).getD [])
      readInbound sha256 disk d) := fun disk =>
    (readPeers_grows 0 _).bind fun _ => readInbound_grows d
  have hsite : ∀ disk : Disk, Grows (do
      readReference sha256 disk d "site_projection"
      readPeers sha256 disk 0 (((d.root.get "peers").bind Item.asArrayOfTables).getD [])
      readInbound sha256 disk d) := fun disk =>
    (readReference_grows d _).bind fun _ => hpeers disk
  have hsegment : ∀ disk : Disk, Grows (do
      readReference sha256 disk d "segment_snapshot"
      readReference sha256 disk d "site_projection"
      readPeers sha256 disk 0 (((d.root.get "peers").bind Item.asArrayOfTables).getD [])
      readInbound sha256 disk d) := fun disk =>
    (readReference_grows d _).bind fun _ => hsite disk
  refine ((Lockstep.ensure _ _ _ _).seq ((readReference_lockstep hdisks d _).seq
    ((readReference_lockstep hdisks d _).seq ((readPeers_lockstep hdisks 0 _).seq
      (readInbound_lockstep hdisks d) (readInbound_grows d) (readInbound_grows d))
      (hpeers disk) (hpeers disk')) (hsite disk) (hsite disk')) (hsegment disk)
      (hsegment disk')).mono ?_
  intro _ _ ⟨_, hsegmentSame, hsiteSame, hpeersSame, hinboundSame⟩ place path hinline hpath
  cases place with
  | segment => exact hsegmentSame path hpath
  | site => exact hsiteSame path hpath
  | inbound => exact hinboundSame path hpath
  | transport peer =>
    refine hpeersSame peer path ?_
    rw [← rowsAt_eq_headers hinline]
    exact hpath

/-- Stores with the same entries have the same client configuration, with the same references. -/
theorem readEntries_lockstep (hdisks : Compared sha256 disk disk') (config : String) :
    Lockstep (readEntries sha256 disk config) (readEntries sha256 disk' config) fun _ _ =>
      ∃ d, documentAt disk.read config = some d ∧ documentAt disk'.read config = some d
        ∧ ∀ (place : ClientPlace) path, place.inInlineList d.root = false →
          place.pathAt d.root = some path → ClientSame disk disk' place path := by
  have hclient : ∀ (disk : Disk) (d : Document), Grows (readClient sha256 disk d) := fun disk d =>
    (Grows.ensure _ _).bind fun _ => (readReference_grows d _).bind fun _ =>
      (readReference_grows d _).bind fun _ => (readPeers_grows 0 _).bind fun _ => readInbound_grows d
  refine (readEntry_lockstep hdisks _ config).bind (fun content content' hread => ?_)
    (fun _ => (Grows.okOr _ _).bind (hclient disk)) fun _ => (Grows.okOr _ _).bind (hclient disk')
  obtain ⟨rfl, hread, hread'⟩ := hread
  refine (Lockstep.okOr _ _ _).bind (fun d d' hd => ?_) (hclient disk) (hclient disk')
  obtain ⟨rfl, hparse⟩ := hd
  refine (readClient_lockstep hdisks d).mono fun _ _ hsame => ⟨d, ?_, ?_, hsame⟩
  · rw [documentAt, hread]
    exact hparse
  · rw [documentAt, hread']
    exact hparse

end

/-! ## Unchanged fingerprints -/

section

variable {disk disk' : Disk}

/-- Both stores have the same document at a path. -/
theorem pathIn_same {content : Content} (hread : disk.read path = some content)
    (hread' : disk'.read path = some content) (hparse : content.parse = some d)
    (pathAt : Fields → Option String) :
    pathIn disk.read pathAt path = pathAt d.root ∧ pathIn disk'.read pathAt path = pathAt d.root := by
  unfold pathIn documentAt
  rw [hread, hread']
  show (content.parse.bind _) = _ ∧ (content.parse.bind _) = _
  rw [hparse]
  exact ⟨rfl, rfl⟩

theorem SameTransportAt.sameAt (h : SameTransportAt disk disk' path) :
    SameAt disk disk' path := by
  obtain ⟨content, _, hread, hread', _⟩ := h
  exact ⟨content, hread, hread'⟩

theorem ClientSame.sameAt {place : ClientPlace} (h : ClientSame disk disk' place path) :
    SameAt disk disk' path := by
  cases place with
  | segment => exact h
  | site => exact h
  | transport peer => exact SameTransportAt.sameAt h
  | inbound =>
    obtain ⟨content, _, hread, hread', _⟩ := h
    exact ⟨content, hread, hread'⟩

/-- Two ways to the same path, where the stores have the same bytes. -/
def SameWay (P : String → Prop) (way way' : Option String) : Prop :=
  way' = way ∧ ∀ path, way = some path → P path

theorem SameWay.bind {P Q : String → Prop} {way way' : Option String} {f f' : String → Option String}
    (h : SameWay P way way') (hf : ∀ path, P path → SameWay Q (f path) (f' path)) :
    SameWay Q (way.bind f) (way'.bind f') := by
  obtain ⟨rfl, hP⟩ := h
  cases way' with
  | none => exact ⟨rfl, fun path hpath => by cases hpath⟩
  | some path => exact hf path (hP path rfl)

theorem SameWay.mono {P Q : String → Prop} {way way' : Option String} (h : SameWay P way way')
    (hPQ : ∀ path, P path → Q path) : SameWay Q way way' :=
  ⟨h.1, fun path hpath => hPQ path (h.2 path hpath)⟩

/-- The credentials of a transport that the stores have in common. -/
theorem sameWay_credential (h : SameTransportAt disk disk' path) (place : TransportPlace) :
    SameWay (SameAt disk disk') (pathIn disk.read (fun root => place.pathAt root) path)
      (pathIn disk'.read (fun root => place.pathAt root) path) := by
  obtain ⟨content, d, hread, hread', hparse, hsame⟩ := h
  obtain ⟨hpath, hpath'⟩ := pathIn_same hread hread' hparse fun root => place.pathAt root
  rw [hpath, hpath']
  exact ⟨rfl, hsame place⟩

/-- The references of an inbound catalog that the stores have in common. -/
theorem sameWay_inbound (h : SameInboundAt disk disk' path) (place : InboundPlace)
    (hspelled : ∀ catalog, documentAt disk.read path = some catalog →
      place.inInlineList catalog.root → place.pathAt catalog.root = none) :
    SameWay (fun path => if place.isTransport then SameTransportAt disk disk' path
        else SameAt disk disk' path)
      (pathIn disk.read (fun root => place.pathAt root) path)
      (pathIn disk'.read (fun root => place.pathAt root) path) := by
  obtain ⟨content, d, hread, hread', hparse, hedited⟩ := h
  obtain ⟨hpath, hpath'⟩ := pathIn_same hread hread' hparse fun root => place.pathAt root
  rw [hpath, hpath']
  refine ⟨rfl, fun inner hinner => ?_⟩
  cases hinline : place.inInlineList d.root with
  | true =>
    have hdocument : documentAt disk.read path = some d := by
      rw [documentAt, hread]
      exact hparse
    rw [hspelled d hdocument hinline] at hinner
    cases hinner
  | false =>
    obtain ⟨item, item', hrel, hitem, _⟩ := (hedited.place place).2 hinline
    rw [hitem] at hinner
    cases hrel with
    | none => cases hinner
    | some hsame => exact hsame inner hinner

/-- Every reference leads to the same path in both stores, with the same bytes there. -/
theorem sameWay_followed (hd : documentAt disk.read config = some d)
    (hclient : ∀ (place : ClientPlace) path, place.inInlineList d.root = false →
      place.pathAt d.root = some path → ClientSame disk disk' place path)
    (hspelled : SpelledWithHeaders disk config) (reference : Reference) :
    SameWay (SameAt disk disk') (reference.followed disk.read d.root)
      (reference.followed disk'.read d.root) := by
  have hplace : ∀ place : ClientPlace, SameWay (ClientSame disk disk' place) (place.pathAt d.root)
      (place.pathAt d.root) := by
    intro place
    refine ⟨rfl, fun path hpath => ?_⟩
    cases hinline : place.inInlineList d.root with
    | true =>
      rw [(hspelled d hd).1 place hinline] at hpath
      cases hpath
    | false => exact hclient place path hinline hpath
  have hinbound : ∀ place : InboundPlace, SameWay
      (fun path => if place.isTransport then SameTransportAt disk disk' path else SameAt disk disk' path)
      ((ClientPlace.inbound.pathAt d.root).bind (pathIn disk.read fun root => place.pathAt root))
      ((ClientPlace.inbound.pathAt d.root).bind
        (pathIn disk'.read fun root => place.pathAt root)) := by
    intro place
    have hway : SameWay (fun path => ClientSame disk disk' .inbound path
        ∧ ClientPlace.inbound.pathAt d.root = some path) (ClientPlace.inbound.pathAt d.root)
        (ClientPlace.inbound.pathAt d.root) :=
      ⟨rfl, fun path hpath => ⟨(hplace .inbound).2 path hpath, hpath⟩⟩
    exact hway.bind fun path hsame => sameWay_inbound hsame.1 place fun catalog hcatalog =>
      (hspelled d hd).2 path catalog hsame.2 hcatalog place
  cases reference with
  | client place => exact (hplace place).mono fun path hsame => hsame.sameAt
  | credential peer place =>
    exact (hplace (.transport peer)).bind fun path hsame => sameWay_credential hsame place
  | inbound place =>
    refine (hinbound place).mono fun path hsame => ?_
    cases place with
    | transport peer => exact SameTransportAt.sameAt hsame
    | _ => exact hsame
  | outboundCredential peer place =>
    exact (hinbound (.transport peer)).bind fun path hsame => sameWay_credential hsame place

/-- A store with the same fingerprint has no reference in an array of tables either. -/
theorem spelled_of_same (hd : documentAt disk.read config = some d)
    (hd' : documentAt disk'.read config = some d)
    (hclient : ∀ (place : ClientPlace) path, place.inInlineList d.root = false →
      place.pathAt d.root = some path → ClientSame disk disk' place path)
    (hspelled : SpelledWithHeaders disk config) : SpelledWithHeaders disk' config := by
  intro source hsource
  obtain rfl := Option.some.inj (hd'.symm.trans hsource)
  refine ⟨(hspelled d hd).1, fun path catalog hpath hcatalog place => ?_⟩
  obtain ⟨content, inbound, hread, hread', hparse, _⟩ := hclient .inbound path rfl hpath
  refine (hspelled d hd).2 path catalog hpath ?_ place
  rw [documentAt, hread]
  rw [documentAt, hread'] at hcatalog
  exact hcatalog

/-- What is the same as one original is the same. -/
theorem Reference.Same.of_original {reference : Reference} {original copied copied' : Content}
    (h : reference.Same original copied) (h' : reference.Same original copied') :
    reference.Same copied copied' := by
  have hdocument : ∀ {erase : Fields → Fields}, SameDocument erase original copied →
      SameDocument erase original copied' → SameDocument erase copied copied' := by
    intro erase h h'
    obtain ⟨d, e, horiginal, hcopied, hlayout, herase⟩ := h
    obtain ⟨d', e', horiginal', hcopied', hlayout', herase'⟩ := h'
    obtain rfl : d = d' := Content.toml.inj (horiginal.symm.trans horiginal')
    exact ⟨e, e', hcopied, hcopied', hlayout'.trans hlayout.symm, herase'.trans herase.symm⟩
  have hleaf : copied = original → copied' = original → copied' = copied := fun h h' =>
    h'.trans h.symm
  cases reference with
  | client place =>
    cases place with
    | segment => exact hleaf h h'
    | site => exact hleaf h h'
    | transport peer => exact hdocument h h'
    | inbound => exact hdocument h h'
  | credential peer place => exact hleaf h h'
  | inbound place =>
    cases place with
    | transport peer => exact hdocument h h'
    | _ => exact hleaf h h'
  | outboundCredential peer place => exact hleaf h h'

/-- What a capture has for a reference is a copy of what its source leads to. -/
theorem copyOf_rel {directory : NewDirectory disk} {snapshot : Snapshot}
    (h : capture disk directory config = some snapshot)
    (hspelled : SpelledWithHeaders disk config) (hd : documentAt disk.read config = some d)
    (reference : Reference) :
    Option.Rel (fun origin copied => ∃ original, disk.read origin = some original
        ∧ reference.Same original copied)
      (reference.followed disk.read d.root) (snapshot.copyOf disk reference) := by
  obtain ⟨u, source, d', rfl, _, hsource, hd', hedit⟩ := edited_of_capture h
  obtain rfl := Option.some.inj (hd.symm.trans hsource)
  have hrel := followed_rel (join u.directory "client.toml") hd hedit hspelled reference
  have hcopy : Snapshot.copyOf ⟨u.directory, join u.directory "client.toml", u.files⟩ disk reference
      = (reference.followed (Snapshot.read ⟨u.directory, join u.directory "client.toml", u.files⟩ disk)
        d'.root).bind
        (Snapshot.read ⟨u.directory, join u.directory "client.toml", u.files⟩ disk) := by
    unfold Snapshot.copyOf
    rw [hd']
    rfl
  rw [hcopy]
  generalize reference.followed disk.read d.root = origin at hrel
  generalize reference.followed
    (Snapshot.read ⟨u.directory, join u.directory "client.toml", u.files⟩ disk) d'.root = path at hrel
  cases hrel with
  | none => exact Option.Rel.none
  | some hpath =>
    obtain ⟨file, _, _, hread, original, horiginal, hsame⟩ :=
      hpath.closed (join u.directory "client.toml")
    rw [Option.bind_some, hread]
    exact Option.Rel.some ⟨original, horiginal, hsame⟩

/-- The entries of two fingerprints with the same value. -/
theorem same_of_fingerprint {α β : Type} {sha256 : Content → α} {digest : List (String × α) → β}
    {value : β} (hsize : disk'.size = disk.size)
    (hcollision : NoCollision sha256 digest disk disk' config)
    (h : fingerprint sha256 disk digest config = some value)
    (h' : fingerprint sha256 disk' digest config = some value) :
    ∃ d, documentAt disk.read config = some d ∧ documentAt disk'.read config = some d
      ∧ ∀ (place : ClientPlace) path, place.inInlineList d.root = false →
        place.pathAt d.root = some path → ClientSame disk disk' place path := by
  obtain ⟨entries, hentries, hvalue⟩ := Option.map_eq_some_iff.mp h
  obtain ⟨entries', hentries', hvalue'⟩ := Option.map_eq_some_iff.mp h'
  have hsame : entries = entries' :=
    hcollision.entries entries entries' hentries hentries' (hvalue.trans hvalue'.symm)
  have hstate : ∀ {disk : Disk} {entries : List (String × α)},
      fingerprintEntries sha256 disk config = some entries →
      ∃ s, readEntries sha256 disk config ⟨[], 0, 0⟩ = (.ok (), s) ∧ s.entries = entries := by
    intro disk entries hentries
    unfold fingerprintEntries at hentries
    rcases hrun : readEntries sha256 disk config ⟨[], 0, 0⟩ with ⟨_ | e | _, s⟩
    · rw [hrun] at hentries
      exact ⟨s, rfl, Option.some.inj hentries⟩
    · rw [hrun] at hentries
      cases hentries
    · rw [hrun] at hentries
      cases hentries
  obtain ⟨s, hrun, hs⟩ := hstate hentries
  obtain ⟨s', hrun', hs'⟩ := hstate hentries'
  have hle : s' ≤ s := by
    show s'.entries <+: s.entries
    exact (hs'.trans (hsame.symm.trans hs.symm)) ▸ List.prefix_rfl
  exact (readEntries_lockstep ⟨hsize, hcollision.files⟩ config _ s _ _ _ _ hrun hrun' le_rfl hle).1

/-- An unchanged fingerprint means unchanged copies if no reference is in an array of tables. -/
theorem covered_of_spelled {α β : Type} (sha256 : Content → α) (digest : List (String × α) → β)
    {directory : NewDirectory disk} {snapshot : Snapshot}
    (h : capture disk directory config = some snapshot)
    (hspelled : SpelledWithHeaders disk config) :
    Covered sha256 digest disk config snapshot := by
  intro disk' directory' snapshot' value hsize hcollision hvalue hvalue' h' reference
  obtain ⟨d, hd, hd', hclient⟩ := same_of_fingerprint hsize hcollision hvalue hvalue'
  have hspelled' := spelled_of_same hd hd' hclient hspelled
  have hrel := copyOf_rel h hspelled hd reference
  have hrel' := copyOf_rel h' hspelled' hd' reference
  obtain ⟨hway, hsame⟩ := sameWay_followed hd hclient hspelled reference
  rw [hway] at hrel'
  generalize reference.followed disk.read d.root = origin at hrel hrel' hsame
  generalize snapshot.copyOf disk reference = copied at hrel
  generalize snapshot'.copyOf disk' reference = copied' at hrel'
  cases hrel with
  | none =>
    cases hrel' with
    | none => exact Option.Rel.none
  | some hcopied =>
    cases hrel' with
    | some hcopied' =>
      obtain ⟨original, hread, hfirst⟩ := hcopied
      obtain ⟨original', hread', hsecond⟩ := hcopied'
      obtain ⟨content, hcontent, hcontent'⟩ := hsame _ rfl
      obtain rfl := Option.some.inj (hread.symm.trans hcontent)
      obtain rfl := Option.some.inj (hread'.symm.trans hcontent')
      exact Option.Rel.some (hfirst.of_original hsecond)

end

/-! ## Which snapshots are closed and covered -/

/-- A store with a client configuration and one other file. -/
def smallDisk (peers : Item) : Disk where
  read path :=
    if path = "/c" then
      some (.toml ⟨[("segment_snapshot", .text "/s"), ("site_projection", .text "/s"),
        ("peers", peers)], ""⟩)
    else if path = "/s" then some (.toml ⟨[], ""⟩)
    else none
  size _ := 1

/-- A directory that the store does not have. -/
def smallDirectory (peers : Item) : NewDirectory (smallDisk peers) where
  path := "/d"
  new := by
    intro name
    -- a path of the directory has more characters than the two paths of the store
    have hother : ∀ c, join "/d" name ≠ String.ofList ['/', c] := by
      intro c heq
      have hchars := congrArg String.toList heq
      simp [join] at hchars
    unfold smallDisk
    simp only [if_neg (hother 'c'), if_neg (hother 's')]

/-- A snapshot is closed, and its fingerprint covers it, exactly if no reference is in a list of tables
that is spelled as an array. -/
theorem closed_and_covered_iff {α β : Type} (sha256 : Content → α) (digest : List (String × α) → β)
    (disk : Disk) (directory : NewDirectory disk) (config : String) (snapshot : Snapshot)
    (h : capture disk directory config = some snapshot) :
    (Closed disk config snapshot ∧ Covered sha256 digest disk config snapshot)
      ↔ SpelledWithHeaders disk config :=
  ⟨fun hsound => spelled_of_closed h hsound.1,
    fun hspelled => ⟨closed_of_spelled h hspelled, covered_of_spelled sha256 digest h hspelled⟩⟩

/-- The snapshot of a peer with a header. -/
theorem closed_and_covered_header :
    ∃ snapshot, capture (smallDisk (.tables [[("transport_config", .text "/s")]]))
        (smallDirectory _) "/c" = some snapshot
      ∧ Closed (smallDisk (.tables [[("transport_config", .text "/s")]])) "/c" snapshot
      ∧ Covered (fun content => content) (fun entries => entries)
        (smallDisk (.tables [[("transport_config", .text "/s")]])) "/c" snapshot := by
  have hsome : (capture (smallDisk (.tables [[("transport_config", .text "/s")]]))
      (smallDirectory _) "/c").isSome = true := by
    decide
  obtain ⟨snapshot, hsnapshot⟩ := Option.isSome_iff_exists.mp hsome
  refine ⟨snapshot, hsnapshot, (closed_and_covered_iff _ _ _ _ _ snapshot hsnapshot).mpr ?_⟩
  intro source hsource
  obtain rfl := Option.some.inj hsource
  refine ⟨fun place hinline => ?_, fun path catalog hpath => by cases hpath⟩
  cases place with
  | transport peer => exact absurd hinline Bool.false_ne_true
  | _ => exact absurd hinline Bool.false_ne_true

/-- A peer in an array is passed over: its transport stays outside the snapshot. -/
theorem not_closed_and_covered :
    ¬ ∀ (disk : Disk) (directory : NewDirectory disk) (config : String) (snapshot : Snapshot),
      capture disk directory config = some snapshot →
        Closed disk config snapshot
          ∧ Covered (fun content => content) (fun entries => entries) disk config snapshot := by
  intro h
  have hsome : (capture (smallDisk (.array [.inline [("transport_config", .text "/s")]]))
      (smallDirectory _) "/c").isSome = true := by
    decide
  obtain ⟨snapshot, hsnapshot⟩ := Option.isSome_iff_exists.mp hsome
  have hspelled := spelled_of_closed hsnapshot (h _ _ _ snapshot hsnapshot).1
  have hpath := (hspelled _ rfl).1 (.transport 0) rfl
  cases hpath

end CandyRuntime.Agent.SignedSnapshot
