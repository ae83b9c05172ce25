import SqlDraft.Proofs.Binding.Fitting

/-!
# Reading what is bound

The binary form of a type, as it is read: numbers are big-endian and whole numbers in two's
complement, text is UTF-8, and an array has one dimension and a length before each of its items. A
reader takes nothing else, and takes all of the bytes.
-/

namespace SqlDraft

/-! ## Numbers -/

/-- The number that bytes stand for, the most significant of them first. -/
def ofBigEndian (bytes : List UInt8) : Nat := bytes.foldl (fun n byte => 256 * n + byte.toNat) 0

/-- The number that bytes stand for in two's complement. -/
def ofTwosComplement (bytes : List UInt8) : Int :=
  let n := ofBigEndian bytes
  let modulus := Nat.pow 256 bytes.length
  if 2 * n < modulus then n else n - modulus

/-- Reads a number of four bytes and gives the bytes after it. -/
def readUnsigned (bytes : List UInt8) : Option (Nat × List UInt8) :=
  if 4 ≤ bytes.length then some (ofBigEndian (bytes.take 4), bytes.drop 4) else none

/-- Reads a number of four bytes in two's complement and gives the bytes after it. -/
def readSigned (bytes : List UInt8) : Option (Int × List UInt8) :=
  if 4 ≤ bytes.length then some (ofTwosComplement (bytes.take 4), bytes.drop 4) else none

/-- Bytes that are too few keep the lowest part of a number. -/
theorem ofBigEndian_bigEndian (width n : Nat) :
    ofBigEndian (bigEndian width n) = n % Nat.pow 256 width := by
  induction width generalizing n with
  | zero => exact (Nat.mod_one n).symm
  | succ width ih =>
    have hlast (bytes : List UInt8) (byte : UInt8) :
        ofBigEndian (bytes ++ [byte]) = 256 * ofBigEndian bytes + byte.toNat := by
      rw [ofBigEndian, List.foldl_append]
      rfl
    have hbyte : (UInt8.ofNat n).toNat = n % 256 := UInt8.toNat_ofNat'
    have hpower : Nat.pow 256 (width + 1) = 256 * Nat.pow 256 width := Nat.mul_comm _ _
    rw [bigEndian, hlast, ih, hbyte, hpower, Nat.mod_mul]
    omega

/-- A whole number that has room in half of the range on its side is read back. -/
theorem ofTwosComplement_bigEndianInt {width : Nat} {i : Int}
    (hlow : -(Nat.pow 256 width : Nat) ≤ 2 * i) (hhigh : 2 * i < (Nat.pow 256 width : Nat)) :
    ofTwosComplement (bigEndianInt width i) = i := by
  rw [ofTwosComplement, bigEndianInt, ofBigEndian_bigEndian, length_bigEndian]
  generalize Nat.pow 256 width = modulus at hlow hhigh
  have hresidue : i % (modulus : Int) = if 0 ≤ i then i else i + modulus := by
    by_cases hsign : 0 ≤ i
    · rw [if_pos hsign, Int.emod_eq_of_lt hsign (by omega)]
    · rw [if_neg hsign, ← Int.add_emod_right, Int.emod_eq_of_lt (by omega) (by omega)]
  have hlt : (i % (modulus : Int)).toNat < modulus := by
    rw [hresidue]
    split <;> omega
  rw [Nat.mod_eq_of_lt hlt, hresidue]
  split <;> split <;> omega

/-- A number in the lower half of the range is read back without a sign. -/
theorem ofTwosComplement_bigEndian {width n : Nat} (h : 2 * n < Nat.pow 256 width) :
    ofTwosComplement (bigEndian width n) = n := by
  rw [ofTwosComplement, ofBigEndian_bigEndian, length_bigEndian, Nat.mod_eq_of_lt (by omega)]
  exact if_pos h

/-- A number that four bytes hold is read back, whatever follows it. -/
theorem readUnsigned_append {n : Nat} (h : n < 4294967296) (rest : List UInt8) :
    readUnsigned (bigEndian 4 n ++ rest) = some (n, rest) := by
  have hlength : (bigEndian 4 n).length = 4 := length_bigEndian 4 n
  have hread : ofBigEndian (bigEndian 4 n) = n :=
    (ofBigEndian_bigEndian 4 n).trans (Nat.mod_eq_of_lt h)
  rw [readUnsigned, if_pos (by rw [List.length_append]; omega), List.take_left' hlength,
    List.drop_left' hlength, hread]

/-- Four bytes are read as the number that they stand for. -/
theorem readSigned_of_twosComplement {bytes : List UInt8} {i : Int} (hlength : bytes.length = 4)
    (h : ofTwosComplement bytes = i) (rest : List UInt8) :
    readSigned (bytes ++ rest) = some (i, rest) := by
  rw [readSigned, if_pos (by rw [List.length_append]; omega), List.take_left' hlength,
    List.drop_left' hlength, h]

/-- A number that is no more than a positive one can be is read back, whatever follows it. -/
theorem readSigned_append {n : Nat} (h : n < 2147483648) (rest : List UInt8) :
    readSigned (bigEndian 4 n ++ rest) = some ((n : Int), rest) := by
  have hmodulus : Nat.pow 256 4 = 4294967296 := rfl
  have hread : ofTwosComplement (bigEndian 4 n) = n :=
    ofTwosComplement_bigEndian (by rw [hmodulus]; omega)
  exact readSigned_of_twosComplement (length_bigEndian 4 n) hread rest

/-- The length that stands for null is read as minus one. -/
theorem readSigned_nullLength (rest : List UInt8) :
    readSigned (Value.nullLength ++ rest) = some (-1, rest) :=
  readSigned_of_twosComplement rfl (by decide) rest

/-! ## Values that are no lists -/

instance (t : SqlType) : Decidable t.TakesText := decidable_of_iff _ SqlType.takesText_iff.symm

/-- Reads a truth value, which has two forms. -/
def readBool : List UInt8 → Option Value
  | [0] => some (.bool false)
  | [1] => some (.bool true)
  | _ => none

/-- Reads a whole number of so many bytes. -/
def readInt (width : Nat) (bytes : List UInt8) : Option Value :=
  if bytes.length = width then some (.int (Int64.ofInt (ofTwosComplement bytes))) else none

/-- Reads text that has nothing before it. -/
def readUtf8 (bytes : List UInt8) : Option Value :=
  (String.fromUTF8? ⟨bytes.toArray⟩).map .text

/-- Reads text. The types of one extension have the number of their format before it. -/
def readText (t : SqlType) (bytes : List UInt8) : Option Value :=
  if t.name ∈ ["ltree", "lquery", "ltxtquery"] then
    match bytes with
    | 1 :: rest => readUtf8 rest
    | _ => none
  else readUtf8 bytes

/-- Reads a value that is no list. Numbers with a point are not read. -/
def SqlType.readWhole (t : SqlType) (bytes : List UInt8) : Option Value :=
  match t with
  | .builtin .bool => readBool bytes
  | .builtin .int2 => readInt 2 bytes
  | .builtin .int4 => readInt 4 bytes
  | .builtin .int8 => readInt 8 bytes
  | t => if t.TakesText then readText t bytes else none

/-! ## Arrays -/

/-- What comes before the items of an array. -/
structure ArrayHeader where
  dimensions : Int
  nullFlag : Int
  memberOid : Nat
  count : Int
  lowerBound : Int
deriving DecidableEq

/-- The number of the first item. The items of two types are counted from zero. -/
def SqlType.firstIndex : SqlType → Int
  | .builtin .int2vector | .builtin .oidvector => 0
  | _ => 1

/-- What has to come before items. -/
def ArrayHeader.of (t member : SqlType) (items : List Value) : ArrayHeader where
  dimensions := 1
  nullFlag := if items.any Value.isNull then 1 else 0
  memberOid := member.oid.toNat
  count := items.length
  lowerBound := t.firstIndex

/-- Reads what comes before the items of an array, and gives the bytes after it. -/
def readHeader (bytes : List UInt8) : Option (ArrayHeader × List UInt8) := do
  let (dimensions, bytes) ← readSigned bytes
  let (nullFlag, bytes) ← readSigned bytes
  let (memberOid, bytes) ← readUnsigned bytes
  let (count, bytes) ← readSigned bytes
  let (lowerBound, bytes) ← readSigned bytes
  return (⟨dimensions, nullFlag, memberOid, count, lowerBound⟩, bytes)

/-- Reads an item after its length, of which minus one stands for null. -/
def readItem (read : List UInt8 → Option Value) (bytes : List UInt8) :
    Option (Value × List UInt8) := do
  let (length, rest) ← readSigned bytes
  if length = -1 then return (.null, rest)
  else if 0 ≤ length ∧ length ≤ rest.length then do
    let item ← read (rest.take length.toNat)
    return (item, rest.drop length.toNat)
  else none

/-- Reads so many items one after the other. -/
def readItems (read : List UInt8 → Option Value) :
    Nat → List UInt8 → Option (List Value × List UInt8)
  | 0, bytes => some ([], bytes)
  | count + 1, bytes => do
    let (item, bytes) ← readItem read bytes
    let (items, bytes) ← readItems read count bytes
    return (item :: items, bytes)

/-- Reads an array with just as many items as it says, and with nothing behind them. -/
def readArray (t member : SqlType) (read : List UInt8 → Option Value) (bytes : List UInt8) :
    Option Value := do
  let (header, body) ← readHeader bytes
  -- A count below zero reads nothing, and is then not the count of what was read.
  let (items, rest) ← readItems read header.count.toNat body
  if header = .of t member items ∧ rest = [] then return .list items else none

mutual

/-- Reads a value in the binary form of a type. -/
def SqlType.read (t : SqlType) : List UInt8 → Option Value :=
  match t with
  | .builtin b =>
    match b.member? with
    -- The members of an array that every server has are no arrays themselves.
    | some m => readArray t (.builtin m) (SqlType.readWhole (.builtin m))
    | none => t.readWhole
  | .custom _ _ _ shape => shape.read t

/-- Reads a value of a type of the given shape. -/
def TypeShape.read (t : SqlType) : TypeShape → List UInt8 → Option Value
  | .array member => readArray t member member.read
  | .simple | .pseudo | .enumeration | .domain _ | .range _ | .multirange _ | .composite _ =>
    t.readWhole

end

/-- The value that is received, null if it has been said to be null and has no bytes. -/
def SqlType.receive (t : SqlType) : Presence → List UInt8 → Option Value
  | .null, [] => some .null
  | .null, _ => none
  | .present, bytes => t.read bytes

namespace SqlType

/-- An array is read item by item, whether a schema defines it or not. -/
theorem read_of_member {t member : SqlType} (h : t.member? = some member) :
    t.read = readArray t member member.read := by
  cases t with
  | builtin b =>
    obtain ⟨m, hm, rfl⟩ := Option.map_eq_some_iff.mp h
    have hnone : m.member? = none := by
      cases b <;> cases hm <;> rfl
    rw [read, read, hm, hnone]
  | custom name oid schema shape =>
    cases shape with
    | array m =>
      cases h
      rw [read, TypeShape.read]
    | simple | pseudo | enumeration | domain | range | multirange | composite => cases h

/-- A value of a type that is no array is read as a whole. -/
theorem read_of_not_member {t : SqlType} (h : t.member? = none) : t.read = t.readWhole := by
  cases t with
  | builtin b =>
    rw [read, Option.map_eq_none_iff.mp h]
  | custom name oid schema shape =>
    cases shape with
    | array m => cases h
    | simple | pseudo | enumeration | domain | range | multirange | composite =>
      rw [read, TypeShape.read]

end SqlType

end SqlDraft
