import CandyRuntime.Lib.Growth
import Mathlib.Data.List.Forall2

/-!
# Documents of tables

TOML documents as trees. A list of tables has two spellings: headers (`[[name]]`) or an array of inline
tables, and a table is inline or has a header of its own. What a program does to the items of a table is a
`Proc`, and the table is written back in the spelling that it had.
-/

namespace CandyRuntime.Lib.Toml

open Proc

variable {item : Item}

/-! ## Items -/

/-- An item of a document; of a value that is no string, array or table only its text is kept. -/
inductive Item where
  | text (s : String)
  | scalar (s : String)
  | array (items : List Item)
  | inline (fields : List (String × Item))
  | table (fields : List (String × Item))
  | tables (rows : List (List (String × Item)))

/-- The fields of a table. -/
abbrev Fields := List (String × Item)

namespace Item

/-- `as_str`. -/
def asStr : Item → Option String
  | text s => some s
  | _ => none

/-- `as_table_like`. -/
def asTableLike : Item → Option Fields
  | inline fields => some fields
  | table fields => some fields
  | _ => none

/-- `as_array_of_tables`. -/
def asArrayOfTables : Item → Option (List Fields)
  | tables rows => some rows
  | _ => none

/-- The table with other fields, in the same spelling. -/
def withFields (fields : Fields) : Item → Item
  | inline _ => inline fields
  | table _ => table fields
  | item => item

/-- The tables of a list in either spelling. -/
def eitherSpelling : Item → List Fields
  | tables rows => rows
  | array items => items.filterMap fun
    | inline fields => some fields
    | _ => none
  | _ => []

/-- A list that is not spelled with headers. -/
def isArray : Item → Bool
  | array _ => true
  | _ => false

@[simp] theorem asTableLike_withFields {fields fields' : Fields}
    (h : item.asTableLike = some fields) :
    (item.withFields fields').asTableLike = some fields' := by
  cases item with
  | inline _ => rfl
  | table _ => rfl
  | _ => cases h

theorem withFields_self {fields : Fields} (h : item.asTableLike = some fields) :
    item.withFields fields = item := by
  cases item with
  | inline _ => exact congrArg inline (Option.some.inj h).symm
  | table _ => exact congrArg table (Option.some.inj h).symm
  | _ => cases h

theorem eitherSpelling_of_tables {rows : List Fields} (h : item.asArrayOfTables = some rows) :
    item.eitherSpelling = rows := by
  cases item with
  | tables _ => exact Option.some.inj h
  | _ => cases h

theorem eq_tables {rows : List Fields} (h : item.asArrayOfTables = some rows) :
    item = .tables rows := by
  cases item with
  | tables _ => exact congrArg tables (Option.some.inj h)
  | _ => cases h

/-- A list that is neither spelling has no tables. -/
theorem eitherSpelling_eq_nil (h : item.asArrayOfTables = none) (harray : item.isArray = false) :
    item.eitherSpelling = [] := by
  cases item with
  | tables _ => cases h
  | array _ => cases harray
  | _ => rfl

end Item

/-! ## Fields -/

namespace Fields

def get (fields : Fields) (key : String) : Option Item := fields.lookup key

/-- A field that is there gets another item. -/
def set (key : String) (item : Item) : Fields → Fields
  | [] => []
  | (name, old) :: rest =>
    if key = name then (name, item) :: rest else (name, old) :: set key item rest

theorem get_cons (key name : String) (item : Item) (rest : Fields) :
    get ((name, item) :: rest) key = if key = name then some item else get rest key := by
  unfold get
  rw [List.lookup_cons]
  by_cases h : key = name
  · rw [if_pos h, h, beq_self_eq_true]
  · rw [if_neg h, beq_false_of_ne h]

theorem get_set_same {fields : Fields} {key : String} {old : Item} (item : Item)
    (h : fields.get key = some old) : (set key item fields).get key = some item := by
  induction fields with
  | nil => cases h
  | cons field rest ih =>
    rw [get_cons] at h
    unfold set
    by_cases hkey : key = field.1
    · rw [if_pos hkey, get_cons, if_pos hkey]
    · rw [if_neg hkey] at h
      rw [if_neg hkey, get_cons, if_neg hkey]
      exact ih h

theorem get_set_of_ne {fields : Fields} {key other : String} (item : Item) (h : other ≠ key) :
    (set key item fields).get other = fields.get other := by
  induction fields with
  | nil => rfl
  | cons field rest ih =>
    unfold set
    by_cases hkey : key = field.1
    · have hother : other ≠ field.1 := fun heq => h (heq.trans hkey.symm)
      rw [if_pos hkey, get_cons, if_neg hother, get_cons, if_neg hother]
    · rw [if_neg hkey, get_cons, get_cons, ih]

/-- Writing back what is there. -/
theorem set_get {fields : Fields} {key : String} (h : fields.get key = some item) :
    fields.set key item = fields := by
  induction fields with
  | nil => cases h
  | cons field rest ih =>
    rw [get_cons] at h
    unfold set
    by_cases hkey : key = field.1
    · rw [if_pos hkey] at h ⊢
      rw [← Option.some.inj h]
    · rw [if_neg hkey] at h ⊢
      rw [ih h]

/-- Every field with its item changed as its name says. -/
def mapItems (f : String → Item → Item) (fields : Fields) : Fields :=
  fields.map fun field => (field.1, f field.1 field.2)

/-- A change that a map of the fields forgets. -/
theorem mapItems_set {f : String → Item → Item} {fields : Fields} {key : String} {item old : Item}
    (h : fields.get key = some old) (hf : f key item = f key old) :
    mapItems f (set key item fields) = mapItems f fields := by
  induction fields with
  | nil => rfl
  | cons field rest ih =>
    rw [get_cons] at h
    unfold set
    by_cases hkey : key = field.1
    · rw [if_pos hkey] at h ⊢
      obtain ⟨name, found⟩ := field
      obtain rfl : key = name := hkey
      obtain rfl : found = old := Option.some.inj h
      simp only [mapItems, List.map_cons, hf]
    · rw [if_neg hkey] at h ⊢
      have hrest := ih h
      simp only [mapItems, List.map_cons] at hrest ⊢
      rw [hrest]

end Fields

/-! ## Visits -/

variable {σ : Type}

/-- Visit the elements of a list in order. -/
def each {α β : Type} (visit : α → Proc σ String β) : List α → Proc σ String (List β)
  | [] => pure []
  | a :: rest => do
    let b ← visit a
    let bs ← each visit rest
    return b :: bs

namespace Fields

/-- Visit a field that must be there. -/
def visitRequired (key error : String) (visit : Item → Proc σ String Item) (fields : Fields) :
    Proc σ String Fields := do
  let item ← okOr (fields.get key) error
  let item' ← visit item
  return fields.set key item'

/-- Visit a field if it is there. -/
def visitOptional (key : String) (visit : Item → Proc σ String Item) (fields : Fields) :
    Proc σ String Fields :=
  match fields.get key with
  | some item => do
    let item' ← visit item
    return fields.set key item'
  | none => pure fields

/-- Visit the tables of a list that is spelled with headers. -/
def visitHeaders (key : String) (visit : Fields → Proc σ String Fields) (fields : Fields) :
    Proc σ String Fields :=
  match (fields.get key).bind Item.asArrayOfTables with
  | some rows => do
    let rows' ← each visit rows
    return fields.set key (.tables rows')
  | none => pure fields

end Fields

/-! ## What a visit changes -/

/-- At most one field differs, and its items are related. -/
structure Edit (key : String) (V : Option Item → Option Item → Prop) (fields fields' : Fields) :
    Prop where
  related : V (fields.get key) (fields'.get key)
  frame : ∀ other, other ≠ key → fields'.get other = fields.get other
  maps : ∀ f : String → Item → Item,
    (∀ item item', fields.get key = some item → fields'.get key = some item' →
      f key item' = f key item) → Fields.mapItems f fields' = Fields.mapItems f fields

/-- A required item. -/
def Required (V : Item → Item → Prop) (old new : Option Item) : Prop :=
  ∃ item item', old = some item ∧ new = some item' ∧ V item item'

/-- A list that is spelled with headers; anything else is left as it is. -/
def Headers (V : Fields → Fields → Prop) (old new : Option Item) : Prop :=
  (∃ rows rows', old = some (.tables rows) ∧ new = some (.tables rows') ∧ List.Forall₂ V rows rows')
    ∨ (old.bind Item.asArrayOfTables = none ∧ new = old)

/-- The elements of an array. -/
def Elements (V : Item → Item → Prop) (old new : Item) : Prop :=
  ∃ items items', old = .array items ∧ new = .array items' ∧ List.Forall₂ V items items'

namespace Edit

variable {key : String} {V : Option Item → Option Item → Prop} {fields fields' : Fields}

theorem of_set {item item' : Item} (hget : fields.get key = some item)
    (hV : V (some item) (some item')) : Edit key V fields (fields.set key item') where
  related := by rwa [Fields.get_set_same item' hget, hget]
  frame := fun _ hother => Fields.get_set_of_ne item' hother
  maps := fun _ hf => Fields.mapItems_set hget (hf item item' hget (Fields.get_set_same item' hget))

theorem of_same (hV : V (fields.get key) (fields.get key)) : Edit key V fields fields where
  related := hV
  frame := fun _ _ => rfl
  maps := fun _ _ => rfl

end Edit

/-! ## Related options -/

section

variable {α β γ δ : Type} {R : α → β → Prop}

theorem rel_getElem? {as : List α} {bs : List β} (h : List.Forall₂ R as bs) (i : ℕ) :
    Option.Rel R as[i]? bs[i]? := by
  induction h generalizing i with
  | nil => exact Option.Rel.none
  | cons hab _ ih =>
    cases i with
    | zero => exact Option.Rel.some hab
    | succ i => exact ih i

theorem rel_bind {S : γ → δ → Prop} {a : Option α} {b : Option β} {f : α → Option γ}
    {g : β → Option δ} (h : Option.Rel R a b) (hfg : ∀ a b, R a b → Option.Rel S (f a) (g b)) :
    Option.Rel S (a.bind f) (b.bind g) := by
  cases h with
  | none => exact Option.Rel.none
  | some hab => exact hfg _ _ hab

theorem rel_mono {S : α → β → Prop} {a : Option α} {b : Option β} (h : Option.Rel R a b)
    (hRS : ∀ a b, R a b → S a b) : Option.Rel S a b := by
  cases h with
  | none => exact Option.Rel.none
  | some hab => exact Option.Rel.some (hRS _ _ hab)

theorem Required.rel {V : Item → Item → Prop} {old new : Option Item} (h : Required V old new) :
    Option.Rel V old new := by
  obtain ⟨item, item', hold, hnew, hV⟩ := h
  rw [hold, hnew]
  exact Option.Rel.some hV

end

/-! ## What the visits establish -/

section

variable [Preorder σ]

theorem each_establishes {α β : Type} {visit : α → Proc σ String β} {Q : σ → α → β → Prop}
    (h : ∀ a, Establishes (visit a) fun u b => Q u a b) (as : List α) :
    Establishes (each visit as) fun u bs => List.Forall₂ (Q u) as bs := by
  induction as with
  | nil => exact Establishes.pure fun _ => .nil
  | cons a as ih =>
    exact (h a).bind (R := fun b u bs => ∃ rest, List.Forall₂ (Q u) as rest ∧ bs = b :: rest)
      (fun b => ih.map fun u rest hrest => ⟨rest, hrest, rfl⟩)
      fun u b bs hb ⟨_, hrest, hbs⟩ => hbs ▸ .cons hb hrest

namespace Fields

variable {visit : Item → Proc σ String Item} {V : σ → Item → Item → Prop}

theorem visitRequired_establishes (key error : String) (fields : Fields)
    (h : ∀ item, Establishes (visit item) fun u item' => V u item item') :
    Establishes (visitRequired key error visit fields) fun u fields' =>
      Edit key (Required (V u)) fields fields' :=
  Establishes.okOr_bind fun item hget =>
    (h item).map fun _ item' hV => Edit.of_set hget ⟨item, item', rfl, rfl, hV⟩

theorem visitOptional_establishes (key : String) (fields : Fields)
    (h : ∀ item, Establishes (visit item) fun u item' => V u item item') :
    Establishes (visitOptional key visit fields) fun u fields' =>
      Edit key (Option.Rel (V u)) fields fields' := by
  unfold visitOptional
  cases hget : fields.get key with
  | none =>
    refine Establishes.pure fun _ => Edit.of_same ?_
    rw [hget]
    exact Option.Rel.none
  | some item => exact (h item).map fun _ item' hV => Edit.of_set hget (.some hV)

theorem visitHeaders_establishes {visit : Fields → Proc σ String Fields}
    {V : σ → Fields → Fields → Prop} (key : String) (fields : Fields)
    (h : ∀ row, Establishes (visit row) fun u row' => V u row row') :
    Establishes (visitHeaders key visit fields) fun u fields' =>
      Edit key (Headers (V u)) fields fields' := by
  unfold visitHeaders
  cases hrows : (fields.get key).bind Item.asArrayOfTables with
  | none => exact Establishes.pure fun _ => Edit.of_same (.inr ⟨hrows, rfl⟩)
  | some rows =>
    obtain ⟨item, hget, hitem⟩ := Option.bind_eq_some_iff.mp hrows
    obtain rfl := Item.eq_tables hitem
    exact (each_establishes h rows).map fun _ rows' hV =>
      Edit.of_set hget (.inl ⟨rows, rows', rfl, rfl, hV⟩)

end Fields

end

/-! ## Visits that change nothing -/

section

variable [Preorder σ] {α : Type}

/-- Two visits that give back what they visit, in lockstep. -/
structure Steady (visit visit' : α → Proc σ String α) (W : α → Prop) : Prop where
  lockstep : ∀ a, Lockstep (visit a) (visit' a) fun b b' => b = a ∧ b' = a ∧ W a
  grows : ∀ a, Grows (visit a)
  grows' : ∀ a, Grows (visit' a)

namespace Steady

variable {visit visit' next next' : α → Proc σ String α} {W W' : α → Prop}

protected theorem mono (h : Steady visit visit' W) (hW : ∀ a, W a → W' a) : Steady visit visit' W' where
  lockstep := fun a => (h.lockstep a).mono fun _ _ hab => ⟨hab.1, hab.2.1, hW a hab.2.2⟩
  grows := h.grows
  grows' := h.grows'

/-- What follows two steady visits starts from the same value. -/
theorem bind_left {β γ : Type} {f : α → Proc σ String β} {f' : α → Proc σ String γ} {R : β → γ → Prop}
    (h : Steady visit visit' W) (a : α) (hf : W a → Lockstep (f a) (f' a) R)
    (hgrows : ∀ a, Grows (f a)) (hgrows' : ∀ a, Grows (f' a)) :
    Lockstep (visit a >>= f) (visit' a >>= f') R := by
  refine (h.lockstep a).bind (fun b b' hb => ?_) hgrows hgrows'
  obtain ⟨rfl, rfl, hW⟩ := hb
  exact hf hW

/-- One visit after the other. -/
theorem comp (h : Steady visit visit' W) (h' : Steady next next' W') :
    Steady (fun a => visit a >>= next) (fun a => visit' a >>= next') fun a => W a ∧ W' a where
  lockstep := fun a => h.bind_left a
    (fun hW => (h'.lockstep a).mono fun _ _ hab => ⟨hab.1, hab.2.1, hW, hab.2.2⟩) h'.grows h'.grows'
  grows := fun a => (h.grows a).bind h'.grows
  grows' := fun a => (h.grows' a).bind h'.grows'

theorem each (h : Steady visit visit' W) :
    Steady (Toml.each visit) (Toml.each visit') fun as => ∀ a ∈ as, W a where
  grows := fun as => Grows.of_establishes (each_establishes (Q := fun _ _ _ => True) h.grows as)
  grows' := fun as => Grows.of_establishes (each_establishes (Q := fun _ _ _ => True) h.grows' as)
  lockstep := by
    intro as
    induction as with
    | nil => exact Lockstep.pure ⟨rfl, rfl, fun a ha => absurd ha List.not_mem_nil⟩
    | cons a as ih =>
      have hrest : ∀ {visit : α → Proc σ String α}, (∀ a, Grows (visit a)) → ∀ b,
          Grows (do
            let bs ← Toml.each visit as
            return b :: bs) := fun hvisit _ =>
        (Grows.of_establishes (each_establishes (Q := fun _ _ _ => True) hvisit as)).bind
          fun _ => Grows.pure _
      refine h.bind_left a (fun hW => ?_) (hrest h.grows) (hrest h.grows')
      refine ih.bind (fun bs bs' hbs => ?_) (fun _ => Grows.pure _) fun _ => Grows.pure _
      obtain ⟨rfl, rfl, hrest⟩ := hbs
      exact Lockstep.pure ⟨rfl, rfl, List.forall_mem_cons.mpr ⟨hW, hrest⟩⟩

/-- A visit of a field that must be there. -/
theorem required {visit visit' : Item → Proc σ String Item} {V : Item → Item → Prop}
    (key error : String) (h : Steady visit visit' fun item => V item item) :
    Steady (Fields.visitRequired key error visit) (Fields.visitRequired key error visit') fun fields =>
      Edit key (Required V) fields fields where
  grows := fun fields => Grows.of_establishes
    (Fields.visitRequired_establishes (V := fun _ _ _ => True) key error fields h.grows)
  grows' := fun fields => Grows.of_establishes
    (Fields.visitRequired_establishes (V := fun _ _ _ => True) key error fields h.grows')
  lockstep := by
    intro fields
    refine (Lockstep.okOr _ error error).bind (fun item item' hitem => ?_)
      (fun item => (h.grows item).bind fun _ => Grows.pure _)
      fun item => (h.grows' item).bind fun _ => Grows.pure _
    obtain ⟨rfl, hget⟩ := hitem
    refine h.bind_left item (fun hV => ?_) (fun _ => Grows.pure _) fun _ => Grows.pure _
    rw [Fields.set_get hget]
    exact Lockstep.pure ⟨rfl, rfl, Edit.of_same ⟨_, _, hget, hget, hV⟩⟩

/-- A visit of a field that may be there. -/
theorem optional {visit visit' : Item → Proc σ String Item} {V : Item → Item → Prop} (key : String)
    (h : Steady visit visit' fun item => V item item) :
    Steady (Fields.visitOptional key visit) (Fields.visitOptional key visit') fun fields =>
      Edit key (Option.Rel V) fields fields where
  grows := fun fields => Grows.of_establishes
    (Fields.visitOptional_establishes (V := fun _ _ _ => True) key fields h.grows)
  grows' := fun fields => Grows.of_establishes
    (Fields.visitOptional_establishes (V := fun _ _ _ => True) key fields h.grows')
  lockstep := by
    intro fields
    unfold Fields.visitOptional
    cases hget : fields.get key with
    | none =>
      refine Lockstep.pure ⟨rfl, rfl, Edit.of_same ?_⟩
      rw [hget]
      exact Option.Rel.none
    | some item =>
      refine h.bind_left item (fun hV => ?_) (fun _ => Grows.pure _) fun _ => Grows.pure _
      rw [Fields.set_get hget]
      refine Lockstep.pure ⟨rfl, rfl, Edit.of_same ?_⟩
      rw [hget]
      exact Option.Rel.some hV

/-- A visit of the tables of a list with headers. -/
theorem headers {visit visit' : Fields → Proc σ String Fields} {V : Fields → Fields → Prop}
    (key : String) (h : Steady visit visit' fun row => V row row) :
    Steady (Fields.visitHeaders key visit) (Fields.visitHeaders key visit') fun fields =>
      Edit key (Headers V) fields fields where
  grows := fun fields => Grows.of_establishes
    (Fields.visitHeaders_establishes (V := fun _ _ _ => True) key fields h.grows)
  grows' := fun fields => Grows.of_establishes
    (Fields.visitHeaders_establishes (V := fun _ _ _ => True) key fields h.grows')
  lockstep := by
    intro fields
    unfold Fields.visitHeaders
    cases hrows : (fields.get key).bind Item.asArrayOfTables with
    | none => exact Lockstep.pure ⟨rfl, rfl, Edit.of_same (.inr ⟨hrows, rfl⟩)⟩
    | some rows =>
      obtain ⟨item, hget, hitem⟩ := Option.bind_eq_some_iff.mp hrows
      obtain rfl := Item.eq_tables hitem
      refine h.each.bind_left rows (fun hV => ?_) (fun _ => Grows.pure _) fun _ => Grows.pure _
      rw [Fields.set_get hget]
      exact Lockstep.pure ⟨rfl, rfl,
        Edit.of_same (.inl ⟨_, _, hget, hget, List.forall₂_same.mpr hV⟩)⟩

end Steady

end

end CandyRuntime.Lib.Toml
