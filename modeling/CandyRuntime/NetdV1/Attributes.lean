import CandyRuntime.NetdV1.Record

/-!
# Netlink attributes

`emit_attr`, `nested_attr` and `parse_attrs` of `nft.rs`. An attribute is a length of 16 bits that
counts its header, a kind of 16 bits, and its payload, filled up with zeros to a multiple of four bytes.
The numbers are in the order of bytes of the machine.

The parser gives slices of its input, so their places in the input are kept. Its loop has fuel.
-/

namespace CandyRuntime.NetdV1

open Lib

/-- The order of bytes of the machine. -/
inductive Endianness where
  | little
  | big
deriving DecidableEq, Repr

/-- `u16::to_ne_bytes`. -/
def neBytes (e : Endianness) (value : UInt16) : Bytes :=
  match e with
  | .little => [value.toUInt8, (value >>> 8).toUInt8]
  | .big => [(value >>> 8).toUInt8, value.toUInt8]

/-- `u16::from_ne_bytes`. -/
def fromNeBytes (e : Endianness) (first second : UInt8) : UInt16 :=
  match e with
  | .little => first.toUInt16 ||| (second.toUInt16 <<< 8)
  | .big => second.toUInt16 ||| (first.toUInt16 <<< 8)

/-- `NLA_F_NESTED`. -/
def nlaFNested : UInt16 := 0x8000

/-- `align4`. -/
def align4 (value : ℕ) : ℕ := (value + 3) / 4 * 4

/-- `Vec::resize` with zeros. -/
def resize (bytes : Bytes) (length : ℕ) : Bytes :=
  bytes.take length ++ List.replicate (length - bytes.length) 0

/-- `Attribute`. -/
structure Attribute where
  kind : UInt16
  payload : Bytes
deriving DecidableEq, Repr

/-- `emit_attr`: the length is cut to 16 bits. -/
def emitAttr (e : Endianness) (output : Bytes) (a : Attribute) : Bytes :=
  let length := 4 + a.payload.length
  let output := output ++ neBytes e (UInt16.ofNat length) ++ neBytes e a.kind ++ a.payload
  resize output (align4 output.length)

/-- `nested_attr`. -/
def nestedAttr (e : Endianness) (kind : UInt16) (values : List Attribute) : Attribute :=
  { kind := kind ||| nlaFNested, payload := values.foldl (emitAttr e) [] }

/-- A range of the input of the parser. -/
structure InputSlice where
  start : ℕ
  stop : ℕ
deriving DecidableEq, Repr

/-- The bytes of the input in the range; there are none when the range does not fit. -/
def InputSlice.bytes? (s : InputSlice) (input : Bytes) : Option Bytes :=
  slice? input s.start s.stop

/-- One round of the loop of `parse_attrs`, with the rest of the input and its place: the attribute,
and how much of the rest it takes. -/
def parseAttr (e : Endianness) (offset : ℕ) (rest : Bytes) :
    Except NetworkError ((UInt16 × InputSlice) × ℕ) :=
  match rest with
  | b0 :: b1 :: b2 :: b3 :: _ =>
    let length := (fromNeBytes e b0 b1).toNat
    if length < 4 ∨ rest.length < length then .error .backend
    else
      let kind := fromNeBytes e b2 b3 &&& ~~~ nlaFNested
      if rest.length < align4 length then .error .backend
      else .ok ((kind, ⟨offset + 4, offset + length⟩), align4 length)
  | _ => .error .backend

/-- The loop of `parse_attrs`; there is no result when the fuel runs out. -/
def parseAttrsLoop (e : Endianness) : ℕ → ℕ → Bytes →
    Option (Except NetworkError (List (UInt16 × InputSlice)))
  | 0, _, _ => none
  | fuel + 1, offset, rest =>
    if rest = [] then some (.ok [])
    else
      match parseAttr e offset rest with
      | .error error => some (.error error)
      | .ok (value, aligned) =>
        (parseAttrsLoop e fuel (offset + aligned) (rest.drop aligned)).map
          (Except.map (value :: ·))

/-- `parse_attrs`. -/
def parseAttrs (e : Endianness) (input : Bytes) :
    Option (Except NetworkError (List (UInt16 × InputSlice))) :=
  parseAttrsLoop e (input.length + 1) 0 input

end CandyRuntime.NetdV1
