import Mathlib

/-!
# Values of JSON

JSON as a tree, with the accessors of a reader that does not fail on a value of another shape: a
missing field reads as `null`, and a number or a text that is not there equals nothing.
-/

namespace CandyRuntime.Lib

/-- A value of JSON. Of a number that is no integer only its representation is kept. -/
inductive Json where
  | null
  | bool (b : Bool)
  | int (n : Int)
  | float (bits : UInt64)
  | str (text : String)
  | arr (values : List Json)
  | obj (fields : List (String × Json))
deriving Repr

namespace Json

/-! ## Equality -/

mutual

def beq : Json → Json → Bool
  | null, null => true
  | bool b, bool b' => b == b'
  | int n, int n' => n == n'
  | float bits, float bits' => bits == bits'
  | str text, str text' => text == text'
  | arr values, arr values' => beqList values values'
  | obj fields, obj fields' => beqFields fields fields'
  | _, _ => false

def beqList : List Json → List Json → Bool
  | [], [] => true
  | a :: as, b :: bs => beq a b && beqList as bs
  | _, _ => false

def beqFields : List (String × Json) → List (String × Json) → Bool
  | [], [] => true
  | (name, a) :: as, (name', b) :: bs => name == name' && beq a b && beqFields as bs
  | _, _ => false

end

mutual

theorem beq_iff : ∀ a b : Json, beq a b = true ↔ a = b
  | null, b => by cases b <;> simp [beq]
  | bool _, b => by cases b <;> simp [beq]
  | int _, b => by cases b <;> simp [beq]
  | float _, b => by cases b <;> simp [beq]
  | str _, b => by cases b <;> simp [beq]
  | arr values, b => by
    cases b with
    | arr values' => simp [beq, beqList_iff values values']
    | _ => simp [beq]
  | obj fields, b => by
    cases b with
    | obj fields' => simp [beq, beqFields_iff fields fields']
    | _ => simp [beq]

theorem beqList_iff : ∀ as bs : List Json, beqList as bs = true ↔ as = bs
  | [], bs => by cases bs <;> simp [beqList]
  | a :: as, bs => by
    cases bs with
    | nil => simp [beqList]
    | cons b bs => simp [beqList, beq_iff a b, beqList_iff as bs]

theorem beqFields_iff : ∀ as bs : List (String × Json), beqFields as bs = true ↔ as = bs
  | [], bs => by cases bs <;> simp [beqFields]
  | (name, a) :: as, bs => by
    cases bs with
    | nil => simp [beqFields]
    | cons b bs => simp [beqFields, beq_iff a b.2, beqFields_iff as bs, Prod.ext_iff]

end

instance : DecidableEq Json := fun a b => decidable_of_iff (beq a b = true) (beq_iff a b)

/-! ## Reading -/

/-- The value of a field; `null` where there is none. -/
def field (value : Json) (name : String) : Json :=
  match value with
  | obj fields => (fields.lookup name).getD null
  | _ => null

/-- The elements of an array. -/
def asArray : Json → Option (List Json)
  | arr values => some values
  | _ => none

/-- An unsigned number of 64 bits. -/
def asU64 : Json → Option ℕ
  | int n => if 0 ≤ n ∧ n < 2 ^ 64 then some n.toNat else none
  | _ => none

/-- The value is this number. -/
def isNat (value : Json) (n : ℕ) : Bool := value = int n

/-- The value is this text. -/
def isText (value : Json) (text : String) : Bool := value = str text

/-- The value is `true`. -/
def isTrue (value : Json) : Bool := value = bool true

/-- An array of numbers of eight bits, as bytes. -/
def asBytes : Json → Option (List UInt8)
  | arr values => values.mapM fun value =>
    match value with
    | int n => if 0 ≤ n ∧ n < 256 then some (UInt8.ofNat n.toNat) else none
    | _ => none
  | _ => none

/-! ## Writing -/

/-- Bytes are an array of numbers. -/
def ofBytes (bytes : List UInt8) : Json := arr (bytes.map fun b => int b.toNat)

theorem ofBytes_injective : Function.Injective ofBytes := by
  intro bytes bytes' h
  have hmap : bytes.map (fun b => int b.toNat) = bytes'.map (fun b => int b.toNat) := arr.inj h
  refine List.map_injective_iff.mpr ?_ hmap
  intro b b' hb
  have hnat : (b.toNat : Int) = b'.toNat := int.inj hb
  exact UInt8.toNat_inj.mp (Int.ofNat.inj hnat)

end Json

/-- `Serialize`, as `serde_json::to_value` takes it: different values are written differently. -/
class Serialize (α : Type) where
  json : α → Json
  injective : Function.Injective json

end CandyRuntime.Lib
