import SqlDraft.Number.Shortest

/-!
# The written form of a double

The digits of a double are those of its shortest decimal. How they are laid out is a record of
decisions; each place that writes doubles has one value of it.
-/

namespace SqlDraft

/-- How the digits of a double are laid out. -/
structure NumberLayout where
  /-- Whether a number whose first digit has this power of ten is written without an exponent. -/
  positional : Int → Bool
  /-- Whether a whole number written without an exponent ends in `.0`. -/
  pointZero : Bool
  /-- Whether a positive exponent has a sign. -/
  exponentPlus : Bool
  tie : Tie

namespace NumberLayout

/-- Digits around a decimal point, with zeros up to the point on either side. -/
def writePositional (l : NumberLayout) (s : Scientific) : String :=
  if s.exponent < 0 then
    "0." ++ String.ofList (List.replicate (-s.exponent - 1).toNat '0' ++ s.digits)
  else
    let whole := s.exponent.toNat + 1
    if s.digits.length ≤ whole then
      String.ofList (s.digits ++ List.replicate (whole - s.digits.length) '0') ++
        if l.pointZero then ".0" else ""
    else
      String.ofList (s.digits.take whole) ++ "." ++ String.ofList (s.digits.drop whole)

/-- One digit, the rest after a point if there is any, and the power of ten. -/
def writeExponent (l : NumberLayout) (s : Scientific) : String :=
  let fraction := s.digits.drop 1
  String.ofList (s.digits.take 1) ++
    (if fraction.isEmpty then "" else "." ++ String.ofList fraction) ++ "e" ++
    (if s.exponent < 0 then "-" else if l.exponentPlus then "+" else "") ++
    Nat.repr s.exponent.natAbs

/-- The text of a double. Zero keeps its sign, infinity has one, and what is no number has none. -/
def write (l : NumberLayout) (x : Binary64) : String :=
  if x.isNaN then "NaN"
  else
    (if x.isNegative then "-" else "") ++
      if x.isInfinite then "inf"
      else
        let s : Scientific := if x.magnitude = 0 then ⟨['0'], 0⟩ else x.shortest l.tie
        if l.positional s.exponent then l.writePositional s else l.writeExponent s

end NumberLayout

end SqlDraft
