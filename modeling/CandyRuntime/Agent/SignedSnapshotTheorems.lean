import CandyRuntime.Agent.SnapshotClosure

/-!
# Signed snapshots: which of them are closed

The traversals of `capture` and `fingerprint` go through the lists of tables that are spelled with headers
and pass over those that are arrays. So what a traversal does is stated with the edits that it makes, and
the references of a document follow from them place by place.
-/

namespace CandyRuntime.Agent.SignedSnapshot

open Lib Lib.Proc Lib.Toml

/-! ## The visit of an inbound catalog -/

/-- What a visit does to a retained catalog. -/
def EditedCatalog (V : Bool → Item → Item → Prop) (catalog catalog' : Fields) : Prop :=
  ∃ catalog₁, Edit "segment_snapshot" (Required (V false)) catalog catalog₁
    ∧ Edit "peer_projections" (Required (Elements (V false))) catalog₁ catalog'

/-- What a visit does to the table of an inbound catalog. -/
def EditedSdwan (V : Bool → Item → Item → Prop) (sdwan sdwan' : Fields) : Prop :=
  ∃ sdwan₁ sdwan₂ sdwan₃ sdwan₄,
    Edit "segment_snapshot" (Required (V false)) sdwan sdwan₁
      ∧ Edit "local_projection" (Required (V false)) sdwan₁ sdwan₂
      ∧ Edit "peer_projections" (Option.Rel (Elements (V false))) sdwan₂ sdwan₃
      ∧ Edit "compatibility_generations" (Headers (EditedCatalog V)) sdwan₃ sdwan₄
      ∧ Edit "outbound_peers" (Headers (Edit "transport_config" (Required (V true)))) sdwan₄ sdwan'

/-- What a visit does to an inbound catalog. -/
def EditedInbound (V : Bool → Item → Item → Prop) (document document' : Document) : Prop :=
  ∃ item sdwan sdwan', document.root.get "sdwan" = some item ∧ item.asTableLike = some sdwan
    ∧ EditedSdwan V sdwan sdwan'
    ∧ document' = { document with root := document.root.set "sdwan" (item.withFields sdwan') }

section

variable {σ : Type} [Preorder σ] {visit visit' : Item → Bool → Proc σ String Item}

theorem projections_establishes {V : σ → Bool → Item → Item → Prop}
    (h : ∀ item transport, Establishes (visit item transport) fun u item' => V u transport item item')
    (item : Item) :
    Establishes (projections visit item) fun u item' => Elements (V u false) item item' := by
  unfold projections
  cases item with
  | array items =>
    exact (each_establishes (fun entry => h entry false) items).map fun u items' hitems =>
      ⟨items, items', rfl, rfl, hitems⟩
  | _ => exact Establishes.fail

theorem visitCatalog_establishes {V : σ → Bool → Item → Item → Prop}
    (h : ∀ item transport, Establishes (visit item transport) fun u item' => V u transport item item')
    (catalog : Fields) :
    Establishes (visitCatalog visit catalog) fun u catalog' => EditedCatalog (V u) catalog catalog' :=
  (Fields.visitRequired_establishes _ _ catalog fun item => h item false).andThen fun catalog₁ =>
    Fields.visitRequired_establishes _ _ catalog₁ (projections_establishes h)

theorem visitPeer_establishes {V : σ → Bool → Item → Item → Prop}
    (h : ∀ item transport, Establishes (visit item transport) fun u item' => V u transport item item')
    (peer : Fields) : Establishes (visitPeer visit peer) fun u peer' =>
      Edit "transport_config" (Required (V u true)) peer peer' :=
  Fields.visitRequired_establishes _ _ peer fun item => h item true

/-- The five visits, each from the table that the one before has left. -/
theorem visitSdwan_establishes {V : σ → Bool → Item → Item → Prop}
    (h : ∀ item transport, Establishes (visit item transport) fun u item' => V u transport item item')
    (sdwan : Fields) :
    Establishes (visitSdwan visit sdwan) fun u sdwan' => EditedSdwan (V u) sdwan sdwan' := by
  refine ((Fields.visitRequired_establishes _ _ sdwan fun item => h item false).andThen fun sdwan₁ =>
    (Fields.visitRequired_establishes _ _ sdwan₁ fun item => h item false).andThen fun sdwan₂ =>
    (Fields.visitOptional_establishes _ sdwan₂ (projections_establishes h)).andThen fun sdwan₃ =>
    (Fields.visitHeaders_establishes _ sdwan₃ (visitCatalog_establishes h)).andThen fun sdwan₄ =>
      Fields.visitHeaders_establishes _ sdwan₄ (visitPeer_establishes h)).mono ?_
  intro u sdwan' ⟨sdwan₁, h₁, sdwan₂, h₂, sdwan₃, h₃, sdwan₄, h₄, h₅⟩
  exact ⟨sdwan₁, sdwan₂, sdwan₃, sdwan₄, h₁, h₂, h₃, h₄, h₅⟩

theorem visitInboundReferences_establishes {V : σ → Bool → Item → Item → Prop}
    (h : ∀ item transport, Establishes (visit item transport) fun u item' => V u transport item item')
    (document : Document) :
    Establishes (visitInboundReferences visit document) fun u document' =>
      EditedInbound (V u) document document' :=
  Establishes.okOr_bind fun item hitem => Establishes.okOr_bind fun sdwan hsdwan =>
    (visitSdwan_establishes h sdwan).map fun _ sdwan' hedited =>
      ⟨item, sdwan, sdwan', hitem, hsdwan, hedited, rfl⟩

end

/-! ## Lists of tables -/

/-- A list that is an array is left as it is; the tables of any other list are related one by one. -/
theorem rows_of_headers {key : String} {V : Fields → Fields → Prop} {fields fields' : Fields}
    (h : Headers V (fields.get key) (fields'.get key)) :
    (isInlineAt key fields = true → fields'.get key = fields.get key)
      ∧ (isInlineAt key fields = false → List.Forall₂ V (rowsAt key fields) (rowsAt key fields')) := by
  unfold rowsAt isInlineAt
  obtain ⟨rows, rows', hold, hnew, hV⟩ | ⟨hnone, hsame⟩ := h
  · rw [hold, hnew]
    exact ⟨fun hinline => absurd hinline Bool.false_ne_true, fun _ => hV⟩
  · refine ⟨fun _ => hsame, fun hinline => ?_⟩
    rw [hsame]
    cases hget : fields.get key with
    | none => exact .nil
    | some item =>
      rw [hget, Option.bind_some] at hnone
      rw [hget] at hinline
      show List.Forall₂ V item.eitherSpelling item.eitherSpelling
      rw [Item.eitherSpelling_eq_nil hnone hinline]
      exact .nil

theorem rowsAt_congr {key : String} {fields fields' : Fields} (h : fields'.get key = fields.get key) :
    rowsAt key fields' = rowsAt key fields := by
  unfold rowsAt
  rw [h]

theorem rowsAt_eq_headers {key : String} {fields : Fields} (h : isInlineAt key fields = false) :
    rowsAt key fields = ((fields.get key).bind Item.asArrayOfTables).getD [] := by
  unfold isInlineAt at h
  unfold rowsAt
  cases hget : fields.get key with
  | none => rfl
  | some item =>
    rw [hget] at h
    show item.eitherSpelling = item.asArrayOfTables.getD []
    cases htables : item.asArrayOfTables with
    | none => exact Item.eitherSpelling_eq_nil htables h
    | some rows => exact Item.eitherSpelling_of_tables htables

/-- The elements of related arrays are related. -/
theorem elements_of_rel {key : String} {V : Item → Item → Prop} {fields fields' : Fields}
    (h : Option.Rel (Elements V) (fields.get key) (fields'.get key)) :
    List.Forall₂ V (elementsAt key fields) (elementsAt key fields') := by
  unfold elementsAt
  generalize fields.get key = old at h
  generalize fields'.get key = new at h
  cases h with
  | none => exact .nil
  | some hV =>
    obtain ⟨items, items', rfl, rfl, hitems⟩ := hV
    exact hitems

theorem mapTables_rows {f : Fields → Fields} {V : Fields → Fields → Prop} {rows rows' : List Fields}
    (h : List.Forall₂ V rows rows') (hf : ∀ row row', V row row' → f row' = f row) :
    mapTables f (.tables rows') = mapTables f (.tables rows) := by
  have hrows : rows'.map f = rows.map f := by
    induction h with
    | nil => rfl
    | cons hV _ ih => rw [List.map_cons, List.map_cons, hf _ _ hV, ih]
  show Item.tables _ = Item.tables _
  rw [hrows]

theorem mapTables_headers {f : Fields → Fields} {V : Fields → Fields → Prop} {old new : Option Item}
    (h : Headers V old new) (hf : ∀ row row', V row row' → f row' = f row) {item item' : Item}
    (hold : old = some item) (hnew : new = some item') : mapTables f item' = mapTables f item := by
  obtain ⟨rows, rows', hrows, hrows', hV⟩ | ⟨_, hsame⟩ := h
  · obtain rfl := Option.some.inj (hold.symm.trans hrows)
    obtain rfl := Option.some.inj (hnew.symm.trans hrows')
    exact mapTables_rows hV hf
  · obtain rfl := Option.some.inj (hnew.symm.trans (hsame.trans hold))
    rfl

theorem eraseElements_of_elements {V : Item → Item → Prop} {item item' : Item}
    (h : Elements V item item') : eraseElements item' = eraseElements item := by
  obtain ⟨items, items', rfl, rfl, hV⟩ := h
  show Item.array _ = Item.array _
  rw [List.map_const', List.map_const', hV.length_eq]

/-! ## What an edited catalog has at its places -/

section

variable {V : Bool → Item → Item → Prop}

theorem EditedCatalog.segment {catalog catalog' : Fields} (h : EditedCatalog V catalog catalog') :
    Option.Rel (V false) (catalog.get "segment_snapshot") (catalog'.get "segment_snapshot") := by
  obtain ⟨catalog₁, h₁, h₂⟩ := h
  rw [h₂.frame _ (by decide)]
  exact h₁.related.rel

theorem EditedCatalog.peers {catalog catalog' : Fields} (h : EditedCatalog V catalog catalog') :
    List.Forall₂ (V false) (elementsAt "peer_projections" catalog)
      (elementsAt "peer_projections" catalog') := by
  obtain ⟨catalog₁, h₁, h₂⟩ := h
  refine elements_of_rel ?_
  rw [← h₁.frame _ (by decide)]
  exact h₂.related.rel

theorem EditedCatalog.erase {catalog catalog' : Fields} (h : EditedCatalog V catalog catalog') :
    eraseCatalog catalog' = eraseCatalog catalog := by
  obtain ⟨catalog₁, h₁, h₂⟩ := h
  have hpeers : eraseCatalog catalog' = eraseCatalog catalog₁ := by
    refine h₂.maps _ fun item item' hitem hitem' => ?_
    obtain ⟨_, _, hold, hnew, hV⟩ := h₂.related
    obtain rfl := Option.some.inj (hold.symm.trans hitem)
    obtain rfl := Option.some.inj (hnew.symm.trans hitem')
    exact eraseElements_of_elements hV
  rw [hpeers]
  exact h₁.maps _ fun _ _ _ _ => rfl

theorem EditedSdwan.erase {sdwan sdwan' : Fields} (h : EditedSdwan V sdwan sdwan') :
    eraseSdwan sdwan' = eraseSdwan sdwan := by
  obtain ⟨sdwan₁, sdwan₂, sdwan₃, sdwan₄, h₁, h₂, h₃, h₄, h₅⟩ := h
  have houtbound : eraseSdwan sdwan' = eraseSdwan sdwan₄ := by
    refine h₅.maps _ fun item item' hitem hitem' => ?_
    exact mapTables_headers h₅.related
      (fun row row' hrow => hrow.maps _ fun _ _ _ _ => rfl) hitem hitem'
  have hgenerations : eraseSdwan sdwan₄ = eraseSdwan sdwan₃ := by
    refine h₄.maps _ fun item item' hitem hitem' => ?_
    exact mapTables_headers h₄.related (fun row row' hrow => hrow.erase) hitem hitem'
  have hpeers : eraseSdwan sdwan₃ = eraseSdwan sdwan₂ := by
    refine h₃.maps _ fun item item' hitem hitem' => ?_
    have hrel := h₃.related
    rw [hitem, hitem'] at hrel
    cases hrel with
    | some hV => exact eraseElements_of_elements hV
  have hlocal : eraseSdwan sdwan₂ = eraseSdwan sdwan₁ := h₂.maps _ fun _ _ _ _ => rfl
  have hsegment : eraseSdwan sdwan₁ = eraseSdwan sdwan := h₁.maps _ fun _ _ _ _ => rfl
  rw [houtbound, hgenerations, hpeers, hlocal, hsegment]

/-- A place in a list that is an array is left as it is, and every other place is visited. -/
theorem EditedSdwan.place {sdwan sdwan' : Fields} (h : EditedSdwan V sdwan sdwan')
    (place : InboundPlace) :
    (place.inInlineListOf sdwan = true → place.itemIn sdwan' = place.itemIn sdwan)
      ∧ (place.inInlineListOf sdwan = false →
        Option.Rel (V place.isTransport) (place.itemIn sdwan) (place.itemIn sdwan')) := by
  obtain ⟨sdwan₁, sdwan₂, sdwan₃, sdwan₄, h₁, h₂, h₃, h₄, h₅⟩ := h
  have hgenerations : Headers (EditedCatalog V) (sdwan.get "compatibility_generations")
      (sdwan'.get "compatibility_generations") := by
    have hold : sdwan₃.get "compatibility_generations" = sdwan.get "compatibility_generations" := by
      rw [h₃.frame _ (by decide), h₂.frame _ (by decide), h₁.frame _ (by decide)]
    rw [h₅.frame _ (by decide), ← hold]
    exact h₄.related
  have houtbound : Headers (Edit "transport_config" (Required (V true))) (sdwan.get "outbound_peers")
      (sdwan'.get "outbound_peers") := by
    have hold : sdwan₄.get "outbound_peers" = sdwan.get "outbound_peers" := by
      rw [h₄.frame _ (by decide), h₃.frame _ (by decide), h₂.frame _ (by decide),
        h₁.frame _ (by decide)]
    rw [← hold]
    exact h₅.related
  cases place with
  | segment =>
    refine ⟨fun hinline => absurd hinline Bool.false_ne_true, fun _ => ?_⟩
    show Option.Rel (V false) (sdwan.get "segment_snapshot") (sdwan'.get "segment_snapshot")
    rw [h₅.frame _ (by decide), h₄.frame _ (by decide), h₃.frame _ (by decide),
      h₂.frame _ (by decide)]
    exact h₁.related.rel
  | localProjection =>
    refine ⟨fun hinline => absurd hinline Bool.false_ne_true, fun _ => ?_⟩
    show Option.Rel (V false) (sdwan.get "local_projection") (sdwan'.get "local_projection")
    rw [h₅.frame _ (by decide), h₄.frame _ (by decide), h₃.frame _ (by decide),
      ← h₁.frame _ (by decide)]
    exact h₂.related.rel
  | peer index =>
    refine ⟨fun hinline => absurd hinline Bool.false_ne_true, fun _ => ?_⟩
    refine rel_getElem? (elements_of_rel ?_) index
    have hold : sdwan₂.get "peer_projections" = sdwan.get "peer_projections" := by
      rw [h₂.frame _ (by decide), h₁.frame _ (by decide)]
    rw [h₅.frame _ (by decide), h₄.frame _ (by decide), ← hold]
    exact h₃.related
  | retainedSegment generation =>
    refine ⟨fun hinline => ?_, fun hinline => ?_⟩
    · simp only [InboundPlace.itemIn, rowsAt_congr ((rows_of_headers hgenerations).1 hinline)]
    · have hrows := (rows_of_headers hgenerations).2 hinline
      exact rel_bind (rel_getElem? hrows generation) fun _ _ hrow => hrow.segment
  | retainedPeer generation index =>
    refine ⟨fun hinline => ?_, fun hinline => ?_⟩
    · simp only [InboundPlace.itemIn, rowsAt_congr ((rows_of_headers hgenerations).1 hinline)]
    · have hrows := (rows_of_headers hgenerations).2 hinline
      exact rel_bind (rel_getElem? hrows generation) fun _ _ hrow => rel_getElem? hrow.peers index
  | transport index =>
    refine ⟨fun hinline => ?_, fun hinline => ?_⟩
    · simp only [InboundPlace.itemIn, rowsAt_congr ((rows_of_headers houtbound).1 hinline)]
    · have hrows := (rows_of_headers houtbound).2 hinline
      exact rel_bind (rel_getElem? hrows index) fun _ _ hrow => hrow.related.rel

theorem mapTables_withFields {f : Fields → Fields} {item : Item} {fields fields' : Fields}
    (h : item.asTableLike = some fields) (hf : f fields' = f fields) :
    mapTables f (item.withFields fields') = mapTables f item := by
  cases item with
  | inline _ =>
    obtain rfl := Option.some.inj h
    exact congrArg Item.inline hf
  | table _ =>
    obtain rfl := Option.some.inj h
    exact congrArg Item.table hf
  | _ => cases h

theorem EditedInbound.erase {document document' : Document} (h : EditedInbound V document document') :
    document'.layout = document.layout ∧ eraseInbound document'.root = eraseInbound document.root := by
  obtain ⟨item, sdwan, sdwan', hget, htable, hedited, rfl⟩ := h
  refine ⟨rfl, Fields.mapItems_set hget ?_⟩
  exact mapTables_withFields htable hedited.erase

theorem EditedInbound.place {document document' : Document} (h : EditedInbound V document document')
    (place : InboundPlace) :
    (place.inInlineList document.root = true →
        place.pathAt document'.root = place.pathAt document.root)
      ∧ (place.inInlineList document.root = false → ∃ item item' : Option Item,
        Option.Rel (V place.isTransport) item item'
          ∧ place.pathAt document.root = item.bind Item.asStr
          ∧ place.pathAt document'.root = item'.bind Item.asStr) := by
  obtain ⟨item, sdwan, sdwan', hget, htable, hedited, rfl⟩ := h
  have hold : tableAt "sdwan" document.root = some sdwan := by
    rw [tableAt, hget]
    exact htable
  have hnew : tableAt "sdwan" (document.root.set "sdwan" (item.withFields sdwan')) = some sdwan' := by
    rw [tableAt, Fields.get_set_same _ hget]
    exact Item.asTableLike_withFields htable
  unfold InboundPlace.inInlineList InboundPlace.pathAt
  rw [hold, hnew]
  obtain ⟨hkept, hvisited⟩ := hedited.place place
  exact ⟨fun hinline => congrArg (Option.bind · Item.asStr) (hkept hinline),
    fun hinline => ⟨_, _, hvisited hinline, rfl, rfl⟩⟩

end

/-! ## Copies -/

theorem Content.eq_toml {content : Content} {d : Document} (h : content.parse = some d) :
    content = .toml d := by
  cases content with
  | toml _ => exact congrArg Content.toml (Option.some.inj h)
  | bytes _ => cases h

/-- A snapshot under construction grows by files. -/
instance : Preorder Builder where
  le b b' := b.directory = b'.directory ∧ b.files <+: b'.files
  le_refl b := ⟨rfl, List.prefix_rfl⟩
  le_trans _ _ _ h h' := ⟨h.1.trans h'.1, h.2.trans h'.2⟩

theorem fileNamed_of_prefix {files files' : List SnapshotFile} (h : files <+: files') {name : String}
    {content : Content} (hfile : fileNamed files name = some content) :
    fileNamed files' name = some content := by
  obtain ⟨more, rfl⟩ := h
  unfold fileNamed at *
  obtain ⟨file, hfind, hcontent⟩ := Option.map_eq_some_iff.mp hfile
  rw [List.find?_append, hfind]
  exact congrArg some hcontent

theorem fileNamed_append {files : List SnapshotFile} {name : String} {content : Content}
    (h : fileNamed files name = none) :
    fileNamed (files ++ [⟨name, content⟩]) name = some content := by
  unfold fileNamed at *
  rw [List.find?_append, Option.map_eq_none_iff.mp h]
  simp

/-- The new item is the path of a copy of the file that the old item names. -/
def CopyOf (disk : Disk) (R : Builder → Content → Content → Prop) (u : Builder) (item item' : Item) :
    Prop :=
  ∃ path original name copied, item = .text path ∧ disk.read path = some original
    ∧ item' = .text (join u.directory name) ∧ fileNamed u.files name = some copied
    ∧ R u original copied

/-- A copy of the same bytes. -/
def Leaf (disk : Disk) : Builder → Item → Item → Prop :=
  CopyOf disk fun _ original copied => copied = original

/-- Two documents of which one is an edit of the other. -/
def Edited (E : Document → Document → Prop) (original copied : Content) : Prop :=
  ∃ d d' : Document, original = .toml d ∧ copied = .toml d' ∧ E d d'

/-- What a visit does to the item of the credentials. -/
def EditedCloud (V : Item → Item → Prop) (item item' : Item) : Prop :=
  (∃ cloud cloud₁ cloud', item.asTableLike = some cloud ∧ item' = item.withFields cloud'
      ∧ Edit "grant_envelope_path" (Option.Rel V) cloud cloud₁
      ∧ Edit "device_signing_key_path" (Option.Rel V) cloud₁ cloud')
    ∨ (item.asTableLike = none ∧ item' = item)

/-- What a visit does to a transport. -/
def EditedTransport (V : Item → Item → Prop) (d d' : Document) : Prop :=
  d'.layout = d.layout ∧ Edit "cloud_auth" (Option.Rel (EditedCloud V)) d.root d'.root

/-- A copy of a transport, whose references lead to copies. -/
def TransportCopy (disk : Disk) : Builder → Item → Item → Prop :=
  CopyOf disk fun u => Edited (EditedTransport (Leaf disk u))

/-- What the visitor of an inbound catalog does. -/
def InboundVisit (disk : Disk) (u : Builder) (isTransport : Bool) : Item → Item → Prop :=
  if isTransport then TransportCopy disk u else Leaf disk u

/-- A copy of an inbound catalog. -/
def InboundCopy (disk : Disk) : Builder → Item → Item → Prop :=
  CopyOf disk fun u => Edited (EditedInbound (InboundVisit disk u))

/-- What `capture` does to the client configuration. -/
def EditedClient (disk : Disk) (u : Builder) (d d' : Document) : Prop :=
  d'.layout = d.layout ∧ ∃ root₁ root₂ root₃,
    Edit "segment_snapshot" (Required (Leaf disk u)) d.root root₁
      ∧ Edit "site_projection" (Required (Leaf disk u)) root₁ root₂
      ∧ Edit "peers" (Headers (Edit "transport_config" (Required (TransportCopy disk u)))) root₂ root₃
      ∧ Edit "inbound_server_config" (Option.Rel (InboundCopy disk u)) root₃ d'.root

section

variable {disk : Disk}

theorem referencePath_establishes {σ : Type} [Preorder σ] (item : Item) (noString relative : String) :
    Establishes (referencePath item noString relative : Proc σ String String) fun _ path =>
      item = .text path := by
  refine Establishes.okOr_bind fun path hpath => Establishes.ensure_bind fun _ => ?_
  refine Establishes.pure fun _ => ?_
  cases item with
  | text s => exact congrArg Item.text (Option.some.inj hpath)
  | _ => cases hpath

theorem readWithBudget_establishes {σ : Type} [Preorder σ] (path : String) (remaining : ℕ) :
    Establishes (readWithBudget disk path remaining : Proc σ String Content) fun _ content =>
      disk.read path = some content :=
  Establishes.okOr_bind fun _ hcontent => Establishes.ensure_bind fun _ =>
    Establishes.pure fun _ => hcontent

namespace Builder

theorem read_establishes (path : String) :
    Establishes (read disk path) fun _ content => disk.read path = some content :=
  Establishes.get_bind fun _ => Establishes.ensure_bind fun _ => readWithBudget_establishes path _

theorem write_establishes (name : String) (content : Content) :
    Establishes (write disk name content) fun u path =>
      path = join u.directory name ∧ fileNamed u.files name = some content := by
  intro s path t hrun
  have hsucceeds : Succeeds (write disk name content) (fun path' t' => path' = path ∧ t' = t) s :=
    (succeeds_iff _).mpr ⟨path, t, hrun, rfl, rfl⟩
  unfold write at hsucceeds
  simp only [succeeds_bind, succeeds_ensure, succeeds_modify, succeeds_get, succeeds_pure] at hsucceeds
  obtain ⟨_, _, hfresh, hpath, hstate⟩ := hsucceeds
  subst hpath hstate
  refine ⟨⟨rfl, List.prefix_append _ _⟩, fun u hu => ⟨congrArg (join · name) hu.1, ?_⟩⟩
  exact fileNamed_of_prefix hu.2 (fileNamed_append (Option.isNone_iff_eq_none.mp hfresh))

theorem writeNext_establishes (suffix : String) (content : Content) :
    Establishes (writeNext disk suffix content) fun u path => ∃ name,
      path = join u.directory name ∧ fileNamed u.files name = some content :=
  Establishes.get_bind fun _ => (write_establishes _ content).mono fun _ _ h => ⟨_, h⟩

theorem reference_establishes (label : String) (item : Item) :
    Establishes (reference disk label item) fun u item' => Leaf disk u item item' := by
  refine ((referencePath_establishes item _ _).andThen fun path =>
    (read_establishes path).andThen fun bytes =>
    (writeNext_establishes _ bytes).andThen fun output =>
      Establishes.pure (Q := fun _ item' => item' = .text output) fun _ => rfl).mono ?_
  intro u item' ⟨path, hitem, bytes, hread, output, ⟨name, houtput, hfile⟩, hitem'⟩
  exact ⟨path, bytes, name, bytes, hitem, hread, houtput ▸ hitem', hfile, rfl⟩

/-- The visit of the credentials of a transport. -/
theorem cloud_establishes (item : Item) :
    Establishes (match item.asTableLike with
      | some cloud => do
        let cloud ← cloud.visitOptional "grant_envelope_path" (reference disk "grant_envelope_path")
        let cloud ← cloud.visitOptional "device_signing_key_path"
          (reference disk "device_signing_key_path")
        return item.withFields cloud
      | none => pure item) fun u item' => EditedCloud (Leaf disk u) item item' := by
  cases htable : item.asTableLike with
  | none => exact Establishes.pure fun _ => .inr ⟨htable, rfl⟩
  | some cloud =>
    refine ((Fields.visitOptional_establishes _ cloud (reference_establishes _)).andThen fun cloud₁ =>
      (Fields.visitOptional_establishes _ cloud₁ (reference_establishes _)).andThen fun cloud' =>
        Establishes.pure (Q := fun _ item' => item' = item.withFields cloud') fun _ => rfl).mono ?_
    intro u item' ⟨cloud₁, h₁, cloud', h₂, hitem'⟩
    exact .inl ⟨cloud, cloud₁, cloud', htable, hitem', h₁, h₂⟩

theorem transport_establishes (item : Item) :
    Establishes (transport disk item) fun u item' => TransportCopy disk u item item' := by
  refine ((referencePath_establishes item _ _).andThen fun path =>
    (read_establishes path).andThen fun content =>
    Establishes.okOr_bind (S := fun u item' => ∃ d root, content = .toml d
      ∧ Edit "cloud_auth" (Option.Rel (EditedCloud (Leaf disk u))) d.root root
      ∧ ∃ output, (∃ name, output = join u.directory name
        ∧ fileNamed u.files name = some (.toml { d with root })) ∧ item' = .text output)
      fun config hparse => ?_).mono ?_
  · refine ((Fields.visitOptional_establishes _ config.root cloud_establishes).andThen fun root =>
      (writeNext_establishes _ _).andThen fun output =>
        Establishes.pure (Q := fun _ item' => item' = .text output) fun _ => rfl).mono ?_
    intro u item' ⟨root, hedit, houtput⟩
    exact ⟨config, root, Content.eq_toml hparse, hedit, houtput⟩
  · intro u item' ⟨path, hitem, content, hread, d, root, hcontent, hedit, output,
      ⟨name, houtput, hfile⟩, hitem'⟩
    exact ⟨path, content, name, .toml { d with root }, hitem, hread, houtput ▸ hitem', hfile,
      d, { d with root }, hcontent, rfl, rfl, hedit⟩

theorem inboundVisit_establishes (item : Item) (isTransport : Bool) :
    Establishes (if isTransport then transport disk item else reference disk "inbound-signed" item)
      fun u item' => InboundVisit disk u isTransport item item' := by
  cases isTransport with
  | true => exact transport_establishes item
  | false => exact reference_establishes _ item

theorem inbound_establishes (item : Item) :
    Establishes (inbound disk item) fun u item' => InboundCopy disk u item item' := by
  refine ((referencePath_establishes item _ _).andThen fun path =>
    (read_establishes path).andThen fun content =>
    Establishes.okOr_bind (S := fun u item' => ∃ d d', content = .toml d
      ∧ EditedInbound (InboundVisit disk u) d d'
      ∧ ∃ output, (∃ name, output = join u.directory name
        ∧ fileNamed u.files name = some (.toml d')) ∧ item' = .text output)
      fun catalog hparse => ?_).mono ?_
  · refine ((visitInboundReferences_establishes inboundVisit_establishes catalog).andThen fun d' =>
      (writeNext_establishes _ _).andThen fun output =>
        Establishes.pure (Q := fun _ item' => item' = .text output) fun _ => rfl).mono ?_
    intro u item' ⟨d', hedit, houtput⟩
    exact ⟨catalog, d', Content.eq_toml hparse, hedit, houtput⟩
  · intro u item' ⟨path, hitem, content, hread, d, d', hcontent, hedit, output,
      ⟨name, houtput, hfile⟩, hitem'⟩
    exact ⟨path, content, name, .toml d', hitem, hread, houtput ▸ hitem', hfile, d, d', hcontent,
      rfl, hedit⟩

theorem client_establishes (config : String) :
    Establishes (client disk config) fun u path => path = join u.directory "client.toml"
      ∧ ∃ d d', disk.read config = some (.toml d) ∧ fileNamed u.files "client.toml" = some (.toml d')
        ∧ EditedClient disk u d d' := by
  refine Establishes.okOr_bind fun content hread => Establishes.ensure_bind fun _ =>
    Establishes.okOr_bind fun d hparse => ?_
  have hpeer : ∀ peer : Fields, Establishes (peer.visitRequired "transport_config"
      "missing peer transport" (transport disk)) fun u peer' =>
      Edit "transport_config" (Required (TransportCopy disk u)) peer peer' := fun peer =>
    Fields.visitRequired_establishes _ _ peer transport_establishes
  refine ((Fields.visitRequired_establishes _ _ d.root (reference_establishes _)).andThen fun root₁ =>
    (Fields.visitRequired_establishes _ _ root₁ (reference_establishes _)).andThen fun root₂ =>
    (Fields.visitHeaders_establishes _ root₂ hpeer).andThen fun root₃ =>
    (Fields.visitOptional_establishes _ root₃ inbound_establishes).andThen fun root =>
      write_establishes "client.toml" (.toml { d with root })).mono ?_
  intro u path ⟨root₁, h₁, root₂, h₂, root₃, h₃, root, h₄, hpath, hfile⟩
  exact ⟨hpath, d, { d with root }, Content.eq_toml hparse ▸ hread, hfile, rfl, root₁, root₂, root₃,
    h₁, h₂, h₃, h₄⟩

end Builder

end

/-! ## The places of transports and client configurations -/

theorem EditedCloud.cloud {V : Item → Item → Prop} {item item' : Item} (h : EditedCloud V item item')
    (place : TransportPlace) :
    Option.Rel V (item.asTableLike.bind fun cloud => cloud.get place.key)
      (item'.asTableLike.bind fun cloud => cloud.get place.key) := by
  obtain ⟨cloud, cloud₁, cloud', htable, rfl, h₁, h₂⟩ | ⟨htable, rfl⟩ := h
  · rw [htable, Item.asTableLike_withFields htable]
    show Option.Rel V (cloud.get place.key) (cloud'.get place.key)
    cases place with
    | grant =>
      show Option.Rel V (cloud.get "grant_envelope_path") (cloud'.get "grant_envelope_path")
      rw [h₂.frame _ (by decide)]
      exact h₁.related
    | signingKey =>
      show Option.Rel V (cloud.get "device_signing_key_path") (cloud'.get "device_signing_key_path")
      rw [← h₁.frame _ (by decide)]
      exact h₂.related
  · rw [htable]
    exact Option.Rel.none

theorem EditedCloud.erase {V : Item → Item → Prop} {item item' : Item} (h : EditedCloud V item item') :
    mapTables (eraseKeys ["grant_envelope_path", "device_signing_key_path"]) item'
      = mapTables (eraseKeys ["grant_envelope_path", "device_signing_key_path"]) item := by
  obtain ⟨cloud, cloud₁, cloud', htable, rfl, h₁, h₂⟩ | ⟨_, rfl⟩ := h
  · refine mapTables_withFields htable ?_
    have hkey : eraseKeys ["grant_envelope_path", "device_signing_key_path"] cloud'
        = eraseKeys ["grant_envelope_path", "device_signing_key_path"] cloud₁ :=
      h₂.maps _ fun _ _ _ _ => rfl
    rw [hkey]
    exact h₁.maps _ fun _ _ _ _ => rfl
  · rfl

theorem EditedTransport.place {V : Item → Item → Prop} {d d' : Document} (h : EditedTransport V d d')
    (place : TransportPlace) : Option.Rel V (place.itemAt d.root) (place.itemAt d'.root) := by
  have hrel := rel_bind h.2.related fun item item' hitem => hitem.cloud place
  unfold TransportPlace.itemAt tableAt
  rw [Option.bind_assoc, Option.bind_assoc]
  exact hrel

theorem EditedTransport.erase {V : Item → Item → Prop} {d d' : Document} (h : EditedTransport V d d') :
    eraseTransport d'.root = eraseTransport d.root := by
  refine h.2.maps _ fun item item' hitem hitem' => ?_
  have hrel := h.2.related
  rw [hitem, hitem'] at hrel
  cases hrel with
  | some hcloud => exact hcloud.erase

/-- What `capture` makes of the reference at a place. -/
def ClientVisit (disk : Disk) (u : Builder) : ClientPlace → Item → Item → Prop
  | .transport _ => TransportCopy disk u
  | .inbound => InboundCopy disk u
  | _ => Leaf disk u

theorem EditedClient.place {disk : Disk} {u : Builder} {d d' : Document} (h : EditedClient disk u d d')
    (place : ClientPlace) :
    (place.inInlineList d.root = true → place.pathAt d'.root = place.pathAt d.root)
      ∧ (place.inInlineList d.root = false →
        Option.Rel (ClientVisit disk u place) (place.itemAt d.root) (place.itemAt d'.root)) := by
  obtain ⟨_, root₁, root₂, root₃, h₁, h₂, h₃, h₄⟩ := h
  cases place with
  | segment =>
    refine ⟨fun hinline => absurd hinline Bool.false_ne_true, fun _ => ?_⟩
    show Option.Rel (Leaf disk u) (d.root.get "segment_snapshot") (d'.root.get "segment_snapshot")
    rw [h₄.frame _ (by decide), h₃.frame _ (by decide), h₂.frame _ (by decide)]
    exact h₁.related.rel
  | site =>
    refine ⟨fun hinline => absurd hinline Bool.false_ne_true, fun _ => ?_⟩
    show Option.Rel (Leaf disk u) (d.root.get "site_projection") (d'.root.get "site_projection")
    rw [h₄.frame _ (by decide), h₃.frame _ (by decide), ← h₁.frame _ (by decide)]
    exact h₂.related.rel
  | transport peer =>
    have hpeers : Headers (Edit "transport_config" (Required (TransportCopy disk u)))
        (d.root.get "peers") (d'.root.get "peers") := by
      have hold : root₂.get "peers" = d.root.get "peers" := by
        rw [h₂.frame _ (by decide), h₁.frame _ (by decide)]
      rw [h₄.frame _ (by decide), ← hold]
      exact h₃.related
    refine ⟨fun hinline => ?_, fun hinline => ?_⟩
    · simp only [ClientPlace.pathAt, ClientPlace.itemAt,
        rowsAt_congr ((rows_of_headers hpeers).1 hinline)]
    · have hrows := (rows_of_headers hpeers).2 hinline
      exact rel_bind (rel_getElem? hrows peer) fun _ _ hrow => hrow.related.rel
  | inbound =>
    refine ⟨fun hinline => absurd hinline Bool.false_ne_true, fun _ => ?_⟩
    have hold : root₃.get "inbound_server_config" = d.root.get "inbound_server_config" := by
      rw [h₃.frame _ (by decide), h₂.frame _ (by decide), h₁.frame _ (by decide)]
    show Option.Rel (InboundCopy disk u) (d.root.get "inbound_server_config")
      (d'.root.get "inbound_server_config")
    rw [← hold]
    exact h₄.related

/-! ## Reading a snapshot -/

theorem join_inj {directory name name' : String} (h : join directory name = join directory name') :
    name = name' := by
  unfold join at h
  exact String.append_right_inj _ |>.mp h

namespace Snapshot

theorem read_join (snapshot : Snapshot) (disk : Disk) {name : String} {content : Content}
    (h : fileNamed snapshot.files name = some content) :
    snapshot.read disk (join snapshot.directory name) = some content
      ∧ ∃ file ∈ snapshot.files, file.name = name ∧ file.content = content := by
  obtain ⟨file, hfind, hcontent⟩ := Option.map_eq_some_iff.mp h
  have hsame : (fun file : SnapshotFile =>
      decide (join snapshot.directory file.name = join snapshot.directory name))
      = fun file => decide (file.name = name) := by
    funext other
    exact decide_eq_decide.mpr ⟨join_inj, congrArg _⟩
  constructor
  · unfold Snapshot.read
    rw [hsame, hfind]
    exact congrArg some hcontent
  · have hname := List.find?_some hfind
    exact ⟨file, List.mem_of_find?_eq_some hfind, of_decide_eq_true hname, hcontent⟩

end Snapshot

/-! ## References of a snapshot and of its source -/

section

variable {disk : Disk} {u : Builder} {client : String}

/-- A path of the snapshot and the path of its source. -/
def PathCopy (disk : Disk) (R : Builder → Content → Content → Prop) (u : Builder)
    (origin path : String) : Prop :=
  ∃ original name copied, disk.read origin = some original ∧ path = join u.directory name
    ∧ fileNamed u.files name = some copied ∧ R u original copied

theorem paths_of_items {R : Builder → Content → Content → Prop} {item item' : Option Item}
    (h : Option.Rel (CopyOf disk R u) item item') :
    Option.Rel (PathCopy disk R u) (item.bind Item.asStr) (item'.bind Item.asStr) := by
  refine rel_bind h fun item item' hcopy => ?_
  obtain ⟨origin, original, name, copied, rfl, hread, rfl, hfile, hR⟩ := hcopy
  exact Option.Rel.some ⟨original, name, copied, hread, rfl, hfile, hR⟩

/-- The documents at the two paths, if the copy is an edit. -/
theorem PathCopy.documents (client : String) {E : Builder → Document → Document → Prop} {origin path : String}
    (h : PathCopy disk (fun u => Edited (E u)) u origin path) :
    ∃ d d', documentAt disk.read origin = some d
      ∧ documentAt (Snapshot.read ⟨u.directory, client, u.files⟩ disk) path = some d' ∧ E u d d' := by
  obtain ⟨original, name, copied, hread, rfl, hfile, d, d', rfl, rfl, hedit⟩ := h
  refine ⟨d, d', ?_, ?_, hedit⟩
  · rw [documentAt, hread]
    rfl
  · rw [documentAt, (Snapshot.read_join ⟨u.directory, client, u.files⟩ disk hfile).1]
    rfl

/-- The references of a transport and of its copy. -/
theorem credential_paths {origin path : String}
    (h : PathCopy disk (fun u => Edited (EditedTransport (Leaf disk u))) u origin path)
    (place : TransportPlace) :
    Option.Rel (PathCopy disk (fun _ original copied => copied = original) u)
      (pathIn disk.read (fun root => place.pathAt root) origin)
      (pathIn (Snapshot.read ⟨u.directory, client, u.files⟩ disk) (fun root => place.pathAt root)
        path) := by
  obtain ⟨d, d', hd, hd', hedit⟩ := h.documents client
  unfold pathIn
  rw [hd, hd']
  exact paths_of_items (hedit.place place)

/-- How the copy for a reference of an inbound catalog is made. -/
def InboundContent (disk : Disk) (place : InboundPlace) (u : Builder) : Content → Content → Prop :=
  if place.isTransport then Edited (EditedTransport (Leaf disk u))
  else fun original copied => copied = original

/-- The references of an inbound catalog and of its copy, if none is in an array of tables. -/
theorem inbound_paths {origin path : String}
    (h : PathCopy disk (fun u => Edited (EditedInbound (InboundVisit disk u))) u origin path)
    (place : InboundPlace)
    (hspelled : ∀ catalog, documentAt disk.read origin = some catalog →
      place.inInlineList catalog.root → place.pathAt catalog.root = none) :
    Option.Rel (PathCopy disk (InboundContent disk place) u)
      (pathIn disk.read (fun root => place.pathAt root) origin)
      (pathIn (Snapshot.read ⟨u.directory, client, u.files⟩ disk) (fun root => place.pathAt root)
        path) := by
  obtain ⟨d, d', hd, hd', hedit⟩ := h.documents client
  unfold pathIn
  rw [hd, hd']
  show Option.Rel _ (place.pathAt d.root) (place.pathAt d'.root)
  cases hinline : place.inInlineList d.root with
  | true =>
    rw [(hedit.place place).1 hinline, hspelled d hd hinline]
    exact Option.Rel.none
  | false =>
    obtain ⟨item, item', hrel, hold, hnew⟩ := (hedit.place place).2 hinline
    rw [hold, hnew]
    refine paths_of_items (rel_mono hrel fun item item' hvisit => ?_)
    cases place with
    | _ => exact hvisit

/-- How the copy for a reference of a client configuration is made. -/
def ClientContent (disk : Disk) (place : ClientPlace) (u : Builder) : Content → Content → Prop :=
  match place with
  | .transport _ => Edited (EditedTransport (Leaf disk u))
  | .inbound => Edited (EditedInbound (InboundVisit disk u))
  | _ => fun original copied => copied = original

/-- The references of a client configuration and of its copy, if none is in an array of tables. -/
theorem client_paths {d d' : Document} (h : EditedClient disk u d d') (place : ClientPlace)
    (hspelled : place.inInlineList d.root → place.pathAt d.root = none) :
    Option.Rel (PathCopy disk (ClientContent disk place) u) (place.pathAt d.root)
      (place.pathAt d'.root) := by
  cases hinline : place.inInlineList d.root with
  | true =>
    rw [(h.place place).1 hinline, hspelled hinline]
    exact Option.Rel.none
  | false =>
    refine paths_of_items (rel_mono ((h.place place).2 hinline) fun item item' hvisit => ?_)
    cases place with
    | _ => exact hvisit

/-- An edit of a transport keeps everything but its references. -/
theorem same_of_transport {original copied : Content}
    (h : Edited (EditedTransport (Leaf disk u)) original copied) :
    SameDocument eraseTransport original copied := by
  obtain ⟨d, d', horiginal, hcopied, hedit⟩ := h
  exact ⟨d, d', horiginal, hcopied, hedit.1, hedit.erase⟩

theorem same_of_inbound {original copied : Content}
    (h : Edited (EditedInbound (InboundVisit disk u)) original copied) :
    SameDocument eraseInbound original copied := by
  obtain ⟨d, d', horiginal, hcopied, hedit⟩ := h
  exact ⟨d, d', horiginal, hcopied, hedit.erase.1, hedit.erase.2⟩

/-- A path of the snapshot and the source of the reference that it has been found with. -/
def ReferenceCopy (disk : Disk) (u : Builder) (reference : Reference) : String → String → Prop :=
  PathCopy disk (fun _ => reference.Same) u

theorem PathCopy.mono {R R' : Builder → Content → Content → Prop} {origin path : String}
    (h : PathCopy disk R u origin path) (hR : ∀ original copied, R u original copied →
      R' u original copied) : PathCopy disk R' u origin path := by
  obtain ⟨original, name, copied, hread, hpath, hfile, hsame⟩ := h
  exact ⟨original, name, copied, hread, hpath, hfile, hR _ _ hsame⟩

/-- Every reference leads to a copy if no reference is in an array of tables. -/
theorem followed_rel (client : String) {config : String} {d d' : Document}
    (hd : documentAt disk.read config = some d) (h : EditedClient disk u d d')
    (hspelled : SpelledWithHeaders disk config) (reference : Reference) :
    Option.Rel (ReferenceCopy disk u reference) (reference.followed disk.read d.root)
      (reference.followed (Snapshot.read ⟨u.directory, client, u.files⟩ disk) d'.root) := by
  have hclient := fun place : ClientPlace => client_paths h place ((hspelled d hd).1 place)
  have hinbound : ∀ place : InboundPlace, Option.Rel (PathCopy disk (InboundContent disk place) u)
      ((ClientPlace.inbound.pathAt d.root).bind (pathIn disk.read fun root => place.pathAt root))
      ((ClientPlace.inbound.pathAt d'.root).bind
        (pathIn (Snapshot.read ⟨u.directory, client, u.files⟩ disk)
          fun root => place.pathAt root)) := by
    intro place
    have hrel := hclient .inbound
    generalize hpath : ClientPlace.inbound.pathAt d.root = origin at hrel
    generalize ClientPlace.inbound.pathAt d'.root = path at hrel
    cases hrel with
    | none => exact Option.Rel.none
    | some hcopy =>
      exact inbound_paths hcopy place fun catalog hcatalog =>
        (hspelled d hd).2 _ catalog hpath hcatalog place
  cases reference with
  | client place =>
    refine rel_mono (hclient place) fun origin path hcopy => ?_
    cases place with
    | segment => exact hcopy
    | site => exact hcopy
    | transport peer => exact hcopy.mono fun _ _ => same_of_transport
    | inbound => exact hcopy.mono fun _ _ => same_of_inbound
  | credential peer place =>
    exact rel_bind (hclient (.transport peer)) fun origin path hcopy => credential_paths hcopy place
  | inbound place =>
    refine rel_mono (hinbound place) fun origin path hcopy => ?_
    cases place with
    | transport peer => exact hcopy.mono fun _ _ => same_of_transport
    | _ => exact hcopy
  | outboundCredential peer place =>
    exact rel_bind (hinbound (.transport peer)) fun origin path hcopy => credential_paths hcopy place

/-- A capture has copied the client configuration with everything that it visits. -/
theorem edited_of_capture {directory : NewDirectory disk} {config : String} {snapshot : Snapshot}
    (h : capture disk directory config = some snapshot) :
    ∃ (u : Builder) (d d' : Document), snapshot = ⟨u.directory, join u.directory "client.toml", u.files⟩
      ∧ u.directory = directory.path ∧ documentAt disk.read config = some d
      ∧ documentAt (snapshot.read disk) snapshot.config = some d' ∧ EditedClient disk u d d' := by
  unfold capture at h
  rcases hrun : Builder.client disk config ⟨directory.path, [], 0⟩ with ⟨path | e | _, u⟩
  · rw [hrun] at h
    obtain rfl := Option.some.inj h
    obtain ⟨hle, hlater⟩ := Builder.client_establishes config _ _ _ hrun
    obtain ⟨rfl, d, d', hread, hfile, hedit⟩ := hlater u le_rfl
    have hdirectory : directory.path = u.directory := hle.1
    rw [hdirectory]
    refine ⟨u, d, d', rfl, rfl, ?_, ?_, hedit⟩
    · rw [documentAt, hread]
      rfl
    · rw [documentAt, (Snapshot.read_join ⟨u.directory, _, u.files⟩ disk hfile).1]
      rfl
  · rw [hrun] at h
    cases h
  · rw [hrun] at h
    cases h

/-- What a path and its source have in common when the path is in the snapshot. -/
theorem ReferenceCopy.closed (client : String) {reference : Reference} {origin path : String}
    (h : ReferenceCopy disk u reference origin path) :
    ∃ file ∈ u.files, path = join u.directory file.name
      ∧ Snapshot.read ⟨u.directory, client, u.files⟩ disk path = some file.content
      ∧ ∃ original, disk.read origin = some original ∧ reference.Same original file.content := by
  obtain ⟨original, name, copied, hread, rfl, hfile, hsame⟩ := h
  obtain ⟨hcopied, file, hmem, rfl, rfl⟩ :=
    Snapshot.read_join ⟨u.directory, client, u.files⟩ disk hfile
  exact ⟨file, hmem, rfl, hcopied, original, hread, hsame⟩

/-- A capture without references in arrays of tables is closed. -/
theorem closed_of_spelled {directory : NewDirectory disk} {config : String} {snapshot : Snapshot}
    (h : capture disk directory config = some snapshot) (hspelled : SpelledWithHeaders disk config) :
    Closed disk config snapshot := by
  obtain ⟨u, d, d', rfl, _, hd, hd', hedit⟩ := edited_of_capture h
  refine ⟨d, d', hd, hd', fun reference path hpath => ?_⟩
  have hrel := followed_rel (join u.directory "client.toml") hd hedit hspelled reference
  rw [hpath] at hrel
  generalize horigin : reference.followed disk.read d.root = origin at hrel
  cases hrel with
  | some hcopy =>
    obtain ⟨file, hmem, hname, hcopied, original, hread, hsame⟩ := hcopy.closed (join u.directory "client.toml")
    exact ⟨file, hmem, hname, hcopied, _, original, rfl, hread, hsame⟩

/-- A reference that stays as it is does not lead into the new directory. -/
theorem not_closed_of_kept {directory : NewDirectory disk} {config : String} {snapshot : Snapshot}
    (hdirectory : snapshot.directory = directory.path) (hclosed : Closed disk config snapshot)
    {d d' : Document} (hd : documentAt disk.read config = some d)
    (hd' : documentAt (snapshot.read disk) snapshot.config = some d') (reference : Reference)
    {path : String} (hsource : reference.followed disk.read d.root = some path)
    (hcopy : reference.followed (snapshot.read disk) d'.root = some path) : False := by
  obtain ⟨source, captured, hsource', hcaptured, hall⟩ := hclosed
  obtain rfl := Option.some.inj (hsource'.symm.trans hd)
  obtain rfl := Option.some.inj (hcaptured.symm.trans hd')
  obtain ⟨file, _, hpath, _, origin, original, horigin, hread, _⟩ := hall reference path hcopy
  obtain rfl := Option.some.inj (horigin.symm.trans hsource)
  rw [hpath, hdirectory, directory.new] at hread
  cases hread

/-- A closed capture has no references in arrays of tables. -/
theorem spelled_of_closed {directory : NewDirectory disk} {config : String} {snapshot : Snapshot}
    (h : capture disk directory config = some snapshot) (hclosed : Closed disk config snapshot) :
    SpelledWithHeaders disk config := by
  obtain ⟨u, d, d', rfl, hdirectory, hd, hd', hedit⟩ := edited_of_capture h
  intro source hsource
  obtain rfl := Option.some.inj (hd.symm.trans hsource)
  constructor
  · intro place hinline
    by_contra hsome
    obtain ⟨path, hpath⟩ := Option.ne_none_iff_exists'.mp hsome
    exact not_closed_of_kept hdirectory hclosed hd hd' (.client place) hpath
      (((hedit.place place).1 hinline).trans hpath)
  · intro origin catalog horigin hcatalog place hinline
    by_contra hsome
    obtain ⟨path, hpath⟩ := Option.ne_none_iff_exists'.mp hsome
    -- the catalog is copied, and its copy has the same path at this place
    have hitems : Option.Rel (CopyOf disk (fun u => Edited (EditedInbound (InboundVisit disk u))) u)
        (ClientPlace.inbound.itemAt d.root) (ClientPlace.inbound.itemAt d'.root) :=
      (hedit.place .inbound).2 rfl
    have hrel := paths_of_items hitems
    rw [show (ClientPlace.inbound.itemAt d.root).bind Item.asStr = some origin from horigin] at hrel
    generalize hcopy : (ClientPlace.inbound.itemAt d'.root).bind Item.asStr = copy at hrel
    cases hrel with
    | some hinbound =>
      obtain ⟨inner, inner', hinner, hinner', hedited⟩ :=
        PathCopy.documents (join u.directory "client.toml") hinbound
      obtain rfl := Option.some.inj (hinner.symm.trans hcatalog)
      have hkept := @not_closed_of_kept disk directory config _ hdirectory hclosed d d' hd hd'
        (.inbound place) path
      refine hkept ?_ ?_
      · show (ClientPlace.inbound.pathAt d.root).bind _ = _
        rw [horigin, Option.bind_some, pathIn, hcatalog]
        exact hpath
      · show ((ClientPlace.inbound.itemAt d'.root).bind Item.asStr).bind _ = _
        rw [hcopy, Option.bind_some, pathIn, hinner']
        exact ((hedited.place place).1 hinline).trans hpath

end

end CandyRuntime.Agent.SignedSnapshot
