import SqlDraft.Value.Text
import SqlDraft.Wire.Type

/-!
# Binding values to column types

A bound value is sent in the binary form of the type of its place. Numbers are big-endian, text is
its UTF-8 bytes, and a list is an array of one dimension. A value that does not fit its type is
refused; only a list can be refused after some of its bytes have been written.
-/

namespace SqlDraft

/-- Why a value does not fit a type. -/
inductive BindFault where
  | tooLarge
  | tooSmall
  | incompatible (value : Value) (type : SqlType)

/-- What a reader is told of a value that does not fit. -/
def BindFault.message : BindFault → String
  | .tooLarge => "number too large to fit in target type"
  | .tooSmall => "number too small to fit in target type"
  | .incompatible v t => "cannot bind " ++ v.description ++ " to " ++ t.display

/-- Whether a bound value is there or is null. Null has no bytes. -/
inductive Presence where
  | null
  | present
deriving DecidableEq, Repr

/-- How writing something ended, and the bytes that it appended until then. -/
structure Written (α : Type) where
  result : Except BindFault α
  bytes : List UInt8

/-- The lowest bytes of a number, the most significant of them first. -/
def bigEndian : Nat → Nat → List UInt8
  | 0, _ => []
  | width + 1, n => bigEndian width (n / 256) ++ [UInt8.ofNat n]

/-- A number takes as many bytes as it is given. -/
@[simp] theorem length_bigEndian (width n : Nat) : (bigEndian width n).length = width := by
  induction width generalizing n with
  | zero => rfl
  | succ width ih => simp [bigEndian, ih]

/-- An integer in two's complement. -/
def bigEndianInt (width : Nat) (i : Int) : List UInt8 :=
  bigEndian width (i % (Nat.pow 256 width : Nat)).toNat

/-- The bytes of a text. -/
def utf8Bytes (s : String) : List UInt8 := s.toUTF8.data.toList

namespace Written

/-- A value that is there. -/
def present (bytes : List UInt8) : Written Presence := ⟨.ok .present, bytes⟩

/-- A refusal before anything was written. -/
def refused {α : Type} (fault : BindFault) : Written α := ⟨.error fault, []⟩

end Written

namespace Value

/-- Text for a type that takes text. -/
def textBytes (t : SqlType) (s : String) : List UInt8 :=
  (if t.isVersionedText then [1] else []) ++ utf8Bytes s

/-- The plain text of a value where the type takes text. -/
def writeAsText (v : Value) (t : SqlType) : Written Presence :=
  if t.isText then .present (textBytes t v.plainText) else .refused (.incompatible v t)

/-- An integer in so many bytes, if they hold it. -/
def writeInt (width : Nat) (i : Int64) : Written Presence :=
  let bound : Int := Nat.pow 2 (8 * width - 1)
  if bound ≤ i.toInt then .refused .tooLarge
  else if i.toInt < -bound then .refused .tooSmall
  else .present (bigEndianInt width i.toInt)

/-- What comes before the items of an array: dimensions, whether an item is null, the type of the
items, their number and the index of the first. -/
def arrayHeader (t member : SqlType) (count : Nat) (hasNull : Bool) : List UInt8 :=
  bigEndian 4 1 ++ bigEndian 4 (if hasNull then 1 else 0) ++ bigEndian 4 member.oid.toNat ++
    bigEndian 4 count ++ bigEndian 4 t.lowerBound

/-- The length that stands for null. -/
def nullLength : List UInt8 := bigEndianInt 4 (-1)

mutual

/-- Writes a value in the binary form of a type. That an array of `2 ^ 31` items or more is refused,
and an item of `2 ^ 31` bytes or more, is left out: here the number that stands for so many wraps
around, and everything is written. -/
def write (t : SqlType) : Value → Written Presence
  | .null => ⟨.ok .null, []⟩
  | .bool b =>
    match t with
    | .builtin .bool => .present [if b then 1 else 0]
    | t => (Value.bool b).writeAsText t
  | .int i =>
    match t with
    | .builtin .int2 => writeInt 2 i
    | .builtin .int4 => writeInt 4 i
    | .builtin .int8 => writeInt 8 i
    | .builtin .float4 => .present (bigEndian 4 (singleOfInt i.toInt).toNat)
    | .builtin .float8 => .present (bigEndian 8 (Binary64.ofInt i.toInt).bits.toNat)
    | t => (Value.int i).writeAsText t
  | .float x =>
    match t with
    | .builtin .float4 => .present (bigEndian 4 x.toSingle.toNat)
    | .builtin .float8 => .present (bigEndian 8 x.bits.toNat)
    | t => (Value.float x).writeAsText t
  | .text s => (Value.text s).writeAsText t
  | .list items =>
    match t.member? with
    | none => .refused (.incompatible (.list items) t)
    | some member =>
      let body := writeItems member items
      match body.result with
      | .error fault => ⟨.error fault, arrayHeader t member items.length false ++ body.bytes⟩
      | .ok hasNull => .present (arrayHeader t member items.length hasNull ++ body.bytes)

/-- Writes the items of an array, each after its length, and says whether one is null. The length
of an item is not known before the item is written. -/
def writeItems (member : SqlType) : List Value → Written Bool
  | [] => ⟨.ok false, []⟩
  | v :: rest =>
    let item := write member v
    match item.result with
    | .error fault => ⟨.error fault, bigEndian 4 0 ++ item.bytes⟩
    | .ok .null =>
      let others := writeItems member rest
      ⟨others.result.map fun _ => true, nullLength ++ others.bytes⟩
    | .ok .present =>
      let others := writeItems member rest
      ⟨others.result, bigEndian 4 item.bytes.length ++ item.bytes ++ others.bytes⟩

end

end Value

end SqlDraft
