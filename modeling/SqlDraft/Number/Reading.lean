import SqlDraft.Number.Binary

/-!
# Reading numbers from decimal text

Digit runs, signs and exponents are read once here, for the literals of every format.
-/

namespace SqlDraft

/-- The digits at the head of a text, and what follows them. -/
def takeDigits (s : List Char) : List Char × List Char :=
  (s.takeWhile Char.isDigit, s.dropWhile Char.isDigit)

/-- The number that decimal digits denote; none at all denote zero. -/
def digitsValue (digits : List Char) : Nat :=
  digits.foldl (fun n c => 10 * n + (c.toNat - '0'.toNat)) 0

/-- A number below the bound: digits alone, at least one, with an optional plus sign. -/
def readWhole? (bound : Nat) (s : List Char) : Option Nat :=
  let digits := match s with
    | '+' :: rest => rest
    | rest => rest
  let n := digitsValue digits
  if !digits.isEmpty && digits.all Char.isDigit && n < bound then some n else none

/-- A signed power of ten after its mark: at least one digit, with an optional sign. -/
def readExponent? (s : List Char) : Option (Int × List Char) :=
  let (negative, s) := match s with
    | '-' :: r => (true, r)
    | '+' :: r => (false, r)
    | r => (false, r)
  match takeDigits s with
  | ([], _) => none
  | (digits, rest) =>
    let n : Int := digitsValue digits
    some (if negative then -n else n, rest)

/-- The double that `whole.fraction` times ten to the power `exponent` rounds to. -/
def Binary64.ofParts (negative : Bool) (whole fraction : List Char) (exponent : Int) : Binary64 :=
  Binary64.ofDecimal negative (digitsValue (whole ++ fraction)) (exponent - fraction.length)

/-- A double from its text: an optional sign, then a word for infinity or for what is no number,
in any case of letters, or digits with an optional point and exponent, at least one digit standing
before the exponent. -/
def Binary64.ofText? (text : String) : Option Binary64 :=
  let (negative, s) := match text.toList with
    | '-' :: r => (true, r)
    | '+' :: r => (false, r)
    | r => (false, r)
  let word := String.ofList (s.map Char.toLower)
  if word = "nan" then some (Binary64.notANumber negative)
  else if word = "inf" ∨ word = "infinity" then some (Binary64.infinity negative)
  else
    let (whole, s) := takeDigits s
    let (fraction, s) := match s with
      | '.' :: r => takeDigits r
      | r => ([], r)
    if whole.isEmpty && fraction.isEmpty then none
    else
      let exponent? := match s with
        | 'e' :: r | 'E' :: r => readExponent? r
        | r => some (0, r)
      match exponent? with
      | some (e, []) => some (Binary64.ofParts negative whole fraction e)
      | _ => none

end SqlDraft
