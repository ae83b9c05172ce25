/-!
# Binary floating point numbers as bit patterns

A binary format is fixed by its precision and by the width of its exponent field. Rounding sends
an exact quotient of natural numbers to the nearest value of a format, ties to even, so every
conversion of this library is one rounding of an exact number. A double is its 64 bits.
-/

namespace SqlDraft

/-- A binary interchange format: bits of precision, counting the hidden one, and exponent bits. -/
structure BinaryFormat where
  precision : Nat
  exponentBits : Nat
deriving DecidableEq, Repr

namespace BinaryFormat

/-- The format of eight bytes. -/
def double : BinaryFormat := ⟨53, 11⟩

/-- The format of four bytes. -/
def single : BinaryFormat := ⟨24, 8⟩

/-- Every finite value of the format is a whole multiple of two to this power. -/
def leastExponent (f : BinaryFormat) : Int :=
  3 - Nat.pow 2 (f.exponentBits - 1) - f.precision

/-- The bits of infinity without the sign: the exponent field holds ones only. -/
def infinity (f : BinaryFormat) : Nat :=
  (Nat.pow 2 f.exponentBits - 1) * Nat.pow 2 (f.precision - 1)

/-- The bits without the sign of the number that is no number. -/
def notANumber (f : BinaryFormat) : Nat :=
  f.infinity + Nat.pow 2 (f.precision - 2)

/-- The bit that holds the sign. -/
def signBit (f : BinaryFormat) : Nat :=
  Nat.pow 2 (f.precision + f.exponentBits - 1)

/-- The significand of a finite value, given its bits without the sign. -/
def significand (f : BinaryFormat) (magnitude : Nat) : Nat :=
  let hidden := Nat.pow 2 (f.precision - 1)
  let fraction := magnitude % hidden
  if magnitude < hidden then fraction else hidden + fraction

/-- The power of two that scales the significand. -/
def exponent (f : BinaryFormat) (magnitude : Nat) : Int :=
  f.leastExponent + (magnitude / Nat.pow 2 (f.precision - 1) - 1 : Nat)

end BinaryFormat

/-- The quotient to the nearest integer; a half goes to the even neighbour. -/
def roundHalfEven (num den : Nat) : Nat :=
  let q := num / den
  let r := num % den
  if 2 * r < den then q
  else if den < 2 * r then q + 1
  else if q % 2 = 0 then q else q + 1

/-- The rounded quotient is within half of the exact one. -/
theorem roundHalfEven_near (num : Nat) {den : Nat} (hd : 0 < den) :
    2 * num ≤ 2 * (roundHalfEven num den * den) + den ∧
      2 * (roundHalfEven num den * den) ≤ 2 * num + den := by
  have e : den * (num / den) + num % den = num := Nat.div_add_mod num den
  have hm : num % den < den := Nat.mod_lt num hd
  have he : num / den * den = den * (num / den) := Nat.mul_comm _ _
  have hs : (num / den + 1) * den = den * (num / den) + den := by
    rw [Nat.add_mul, Nat.one_mul, he]
  simp only [roundHalfEven]
  by_cases h₁ : 2 * (num % den) < den
  · rw [if_pos h₁]
    omega
  · rw [if_neg h₁]
    by_cases h₂ : den < 2 * (num % den)
    · rw [if_pos h₂]
      omega
    · rw [if_neg h₂]
      split <;> omega

/-- The greatest power of two that is at most the positive quotient `num / den`. -/
def floorLog2 (num den : Nat) : Int :=
  let e : Int := (num.log2 : Int) - (den.log2 : Int)
  if num * Nat.pow 2 (-e).toNat < den * Nat.pow 2 e.toNat then e - 1 else e

/-- The bits without the sign of the value nearest to `num / den`, ties to even. Consecutive
values have consecutive bits, so a carry out of the significand needs no case of its own. -/
def BinaryFormat.round (f : BinaryFormat) (num den : Nat) : Nat :=
  if num = 0 then 0
  else
    let q := max (floorLog2 num den + 1 - f.precision) f.leastExponent
    let m := roundHalfEven (num * Nat.pow 2 (-q).toNat) (den * Nat.pow 2 q.toNat)
    min ((q - f.leastExponent).toNat * Nat.pow 2 (f.precision - 1) + m) f.infinity

/-- A double, held as its bits. -/
structure Binary64 where
  bits : UInt64
deriving DecidableEq, Repr, Inhabited

namespace Binary64

/-- The bits without the sign. -/
def magnitude (x : Binary64) : Nat := x.bits.toNat % BinaryFormat.double.signBit

/-- Whether the sign bit is set, also for zero. -/
def isNegative (x : Binary64) : Bool := BinaryFormat.double.signBit ≤ x.bits.toNat

/-- Whether the bits stand for no number. -/
def isNaN (x : Binary64) : Bool := BinaryFormat.double.infinity < x.magnitude

/-- Whether the double is one of the two infinities. -/
def isInfinite (x : Binary64) : Bool := x.magnitude = BinaryFormat.double.infinity

/-- Whether the double is a number, neither infinite nor none at all. -/
def isFinite (x : Binary64) : Bool := x.magnitude < BinaryFormat.double.infinity

/-- The double with this sign and these other bits. -/
def ofMagnitude (negative : Bool) (magnitude : Nat) : Binary64 :=
  ⟨UInt64.ofNat (if negative then BinaryFormat.double.signBit + magnitude else magnitude)⟩

/-- The zero whose sign bit is set. -/
def negativeZero : Binary64 := ofMagnitude true 0

/-- The infinity of the given sign. -/
def infinity (negative : Bool) : Binary64 := ofMagnitude negative BinaryFormat.double.infinity

/-- What is no number, with the given sign bit. -/
def notANumber (negative : Bool) : Binary64 := ofMagnitude negative BinaryFormat.double.notANumber

/-- Equality of numbers: the two zeros are equal and what is no number equals nothing. -/
def equals (x y : Binary64) : Bool :=
  !x.isNaN && !y.isNaN && (x.bits == y.bits || (x.magnitude == 0 && y.magnitude == 0))

/-- The double nearest to an integer. -/
def ofInt (i : Int) : Binary64 :=
  ofMagnitude (i < 0) (BinaryFormat.double.round i.natAbs 1)

/-- The double nearest to `digits * 10 ^ exponent`. Far outside the range of the format the answer
is infinity or zero without raising ten to the exponent. -/
def ofDecimal (negative : Bool) (digits : Nat) (exponent : Int) : Binary64 :=
  let leading : Int := (Nat.toDigits 10 digits).length + exponent
  if digits = 0 ∨ leading < -400 then ofMagnitude negative 0
  else if 400 < leading then infinity negative
  else ofMagnitude negative
    (BinaryFormat.double.round (digits * Nat.pow 10 exponent.toNat)
      (Nat.pow 10 (-exponent).toNat))

/-- The bits of the nearest single. What is no number keeps its sign. -/
def toSingle (x : Binary64) : UInt32 :=
  let magnitude :=
    if x.isNaN then BinaryFormat.single.notANumber
    else if x.isInfinite then BinaryFormat.single.infinity
    else
      let e := BinaryFormat.double.exponent x.magnitude
      BinaryFormat.single.round
        (BinaryFormat.double.significand x.magnitude * Nat.pow 2 e.toNat)
        (Nat.pow 2 (-e).toNat)
  UInt32.ofNat (if x.isNegative then BinaryFormat.single.signBit + magnitude else magnitude)

end Binary64

/-- The bits of the single nearest to an integer. -/
def singleOfInt (i : Int) : UInt32 :=
  let magnitude := BinaryFormat.single.round i.natAbs 1
  UInt32.ofNat (if i < 0 then BinaryFormat.single.signBit + magnitude else magnitude)

end SqlDraft
