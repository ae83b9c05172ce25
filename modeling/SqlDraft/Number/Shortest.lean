import SqlDraft.Number.Binary

/-!
# The fewest digits that read back

The reals that round to a double form an interval, closed exactly when its significand is even.
Brought to a common power of ten the double and both ends are natural numbers, and a decimal grid
is the set of multiples of a power of ten. The digits chosen are those of the nearest point of the
coarsest grid that meets the interval. The finest grid holds the double itself, so the search ends.
-/

namespace SqlDraft

/-- Which of two equally near decimals is taken. -/
inductive Tie where
  | up
  | toEven
deriving DecidableEq, Repr

/-- Decimal digits, the first before the point, times a power of ten. -/
structure Scientific where
  digits : List Char
  exponent : Int
deriving DecidableEq, Repr

/-- A double and the ends of its rounding interval as multiples of ten to the power `scale`. -/
structure RoundingInterval where
  lower : Nat
  value : Nat
  upper : Nat
  closed : Bool
  scale : Int

namespace RoundingInterval

/-- The interval of a finite double. Just above a power of two the gap below is half the gap
above, so everything is measured in quarters of the unit in the last place. -/
def ofFinite (x : Binary64) : RoundingInterval :=
  let f := BinaryFormat.double
  let m := f.significand x.magnitude
  let q := f.exponent x.magnitude - 2
  let narrow := m = Nat.pow 2 (f.precision - 1) ∧ f.leastExponent < f.exponent x.magnitude
  let unit := if 0 ≤ q then Nat.pow 2 q.toNat else Nat.pow 5 (-q).toNat
  { lower := (4 * m - if narrow then 1 else 2) * unit
    value := 4 * m * unit
    upper := (4 * m + 2) * unit
    closed := m % 2 = 0
    scale := min q 0 }

/-- Whether a multiple of the common power of ten rounds to the double. -/
def contains (i : RoundingInterval) (n : Nat) : Bool :=
  if i.closed then i.lower ≤ n && n ≤ i.upper else i.lower < n && n < i.upper

/-- The point of the grid of multiples of `step` that is in the interval and nearest to the
double, as a multiple of `step`. -/
def onGrid? (i : RoundingInterval) (tie : Tie) (step : Nat) : Option Nat :=
  let below := i.value / step
  let above := below + 1
  match i.contains (below * step), i.contains (above * step) with
  | false, false => none
  | true, false => some below
  | false, true => some above
  | true, true =>
    match compare (2 * i.value) ((below + above) * step) with
    | .lt => some below
    | .gt => some above
    | .eq => if tie = .toEven ∧ below % 2 = 0 then some below else some above

/-- A point taken from a grid is in the interval. -/
theorem contains_of_onGrid? {i : RoundingInterval} {tie : Tie} {step n : Nat}
    (h : i.onGrid? tie step = some n) : i.contains (n * step) = true := by
  simp only [onGrid?] at h
  split at h
  · simp at h
  · next hb _ =>
    simp only [Option.some.injEq] at h
    exact h ▸ hb
  · next _ ha =>
    simp only [Option.some.injEq] at h
    exact h ▸ ha
  · next hb ha =>
    split at h
    · simp only [Option.some.injEq] at h
      exact h ▸ hb
    · simp only [Option.some.injEq] at h
      exact h ▸ ha
    · split at h <;> simp only [Option.some.injEq] at h
      · exact h ▸ hb
      · exact h ▸ ha

/-- The point taken from the coarsest grid, the grids being the powers of ten up to `k`, with the
power of ten of its grid. -/
def coarsest (i : RoundingInterval) (tie : Tie) : Nat → Nat × Nat
  | 0 => (i.value, 0)
  | k + 1 =>
    match i.onGrid? tie (Nat.pow 10 (k + 1)) with
    | some n => (n, k + 1)
    | none => i.coarsest tie k

/-- What is taken reads back, since the double itself lies between the ends. -/
theorem contains_coarsest {i : RoundingInterval} (tie : Tie) (k : Nat)
    (hl : i.lower < i.value) (hu : i.value < i.upper) :
    i.contains ((i.coarsest tie k).1 * Nat.pow 10 (i.coarsest tie k).2) = true := by
  induction k with
  | zero =>
      simp only [coarsest, Nat.pow_eq, Nat.pow_zero, Nat.mul_one, contains]
      split <;> simp <;> omega
  | succ k ih =>
      simp only [coarsest]
      split
      · next n h => exact contains_of_onGrid? h
      · exact ih

end RoundingInterval

/-- The digits of a natural number without the zeros at its end, scaled by ten to the power `e`. -/
def Scientific.ofNat (n : Nat) (e : Int) : Scientific :=
  let digits := Nat.toDigits 10 n
  { digits := (digits.reverse.dropWhile (· = '0')).reverse
    exponent := e + digits.length - 1 }

/-- The fewest digits that read back to a finite double other than zero. -/
def Binary64.shortest (tie : Tie) (x : Binary64) : Scientific :=
  let i := RoundingInterval.ofFinite x
  let (n, k) := i.coarsest tie ((Nat.toDigits 10 i.value).length - 1)
  Scientific.ofNat n (i.scale + k)

end SqlDraft
