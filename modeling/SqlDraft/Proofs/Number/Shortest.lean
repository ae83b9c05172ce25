import SqlDraft.Number.Layout
import SqlDraft.Proofs.Number.Digits
import SqlDraft.Proofs.Number.Rounding

/-!
# Shortest decimals read back

The interval in which the shortest digits of a double are sought is the one whose numbers round to
the double. So they round to the double, whichever of two equally near decimals is taken.
-/

namespace SqlDraft

namespace RoundingInterval

/-- The unit of the interval is a quarter of the unit in the last place of the double. -/
theorem unit_scale (q : Int) :
    ((if 0 ≤ q then Nat.pow 2 q.toNat else Nat.pow 5 (-q).toNat : Nat) : ℚ) * 10 ^ min q 0 =
      2 ^ q := by
  split
  · next hq =>
    rw [min_eq_right hq, zpow_zero, mul_one, Nat.pow_eq, Nat.cast_pow, ← zpow_natCast,
      Int.toNat_of_nonneg hq]
    rfl
  · next hq =>
    rw [min_eq_left (by omega), Nat.pow_eq, Nat.cast_pow, ← zpow_natCast,
      Int.toNat_of_nonneg (by omega), show (10 : ℚ) = 5 * 2 by norm_num, mul_zpow, ← mul_assoc]
    push_cast
    rw [← zpow_add₀ (by norm_num), neg_add_cancel, zpow_zero, one_mul]

/-- What an interval contains is between its ends. -/
theorem contains_iff_between (i : RoundingInterval) (n : Nat) :
    i.contains n = true ↔ Between (i.closed = true) (i.lower : ℚ) i.upper n := by
  simp only [contains, Between, Nat.cast_le, Nat.cast_lt]
  split <;> simp

variable {x : Binary64}

/-- What the ends of the interval of a double are multiples of. -/
def quarterUnit (x : Binary64) : Nat :=
  let q := BinaryFormat.double.exponent x.magnitude - 2
  if 0 ≤ q then Nat.pow 2 q.toNat else Nat.pow 5 (-q).toNat

/-- The unit of the interval is not zero. -/
theorem quarterUnit_pos (x : Binary64) : 0 < quarterUnit x := by
  simp only [quarterUnit]
  split <;> exact Nat.pow_pos (by decide)

/-- At the scale of the interval its unit is a quarter of that in the last place. -/
theorem quarterUnit_scale (x : Binary64) :
    (quarterUnit x : ℚ) * 10 ^ (ofFinite x).scale =
      2 ^ BinaryFormat.double.exponent x.magnitude / 4 := by
  rw [quarterUnit, show (ofFinite x).scale = min (BinaryFormat.double.exponent x.magnitude - 2) 0
    from rfl, unit_scale, zpow_sub₀ two_ne_zero]
  norm_num

/-- The lower end is two units below the double, but one unit below a power of two. -/
theorem lower_eq (x : Binary64) :
    (ofFinite x).lower = (4 * BinaryFormat.double.significand x.magnitude -
      if BinaryFormat.double.AtPowerOfTwo x.magnitude then 1 else 2) * quarterUnit x := rfl

/-- The double is four units for each of those in its last place. -/
theorem value_eq (x : Binary64) :
    (ofFinite x).value = 4 * BinaryFormat.double.significand x.magnitude * quarterUnit x := rfl

/-- The upper end is two units above the double. -/
theorem upper_eq (x : Binary64) :
    (ofFinite x).upper =
      (4 * BinaryFormat.double.significand x.magnitude + 2) * quarterUnit x := rfl

/-- What the interval of a double contains are the numbers around the double. -/
theorem contains_iff_surrounds (hx : 0 < x.magnitude) (n : Nat) :
    (ofFinite x).contains n = true ↔
      BinaryFormat.double.Surrounds x.magnitude (n * 10 ^ (ofFinite x).scale) := by
  have hm := BinaryFormat.significand_pos (f := BinaryFormat.double) hx
  have hscale := quarterUnit_scale x
  have hlower : ((ofFinite x).lower : ℚ) * 10 ^ (ofFinite x).scale =
      (BinaryFormat.double.significand x.magnitude -
        if BinaryFormat.double.AtPowerOfTwo x.magnitude then 1 / 4 else 1 / 2) *
      2 ^ BinaryFormat.double.exponent x.magnitude := by
    rw [lower_eq, Nat.cast_mul, mul_assoc, hscale, Nat.cast_sub (by split <;> omega)]
    split <;> push_cast <;> ring
  have hupper : ((ofFinite x).upper : ℚ) * 10 ^ (ofFinite x).scale =
      (BinaryFormat.double.significand x.magnitude + 1 / 2) *
      2 ^ BinaryFormat.double.exponent x.magnitude := by
    rw [upper_eq, Nat.cast_mul, mul_assoc, hscale]
    push_cast
    ring
  rw [contains_iff_between, ← between_mul_iff (u := 10 ^ (ofFinite x).scale) (by positivity),
    hlower, hupper, BinaryFormat.Surrounds]
  simp only [Between, ofFinite, decide_eq_true_eq]

/-- The double is between the ends. -/
theorem ofFinite_lt (hx : 0 < x.magnitude) :
    (ofFinite x).lower < (ofFinite x).value ∧ (ofFinite x).value < (ofFinite x).upper := by
  have hm := BinaryFormat.significand_pos (f := BinaryFormat.double) hx
  have hunit := quarterUnit_pos x
  rw [lower_eq, value_eq, upper_eq]
  exact ⟨Nat.mul_lt_mul_of_pos_right (by split <;> omega) hunit,
    Nat.mul_lt_mul_of_pos_right (by omega) hunit⟩

end RoundingInterval

namespace Binary64

variable {x : Binary64}

/-- A double is its sign and its other bits. -/
theorem ofMagnitude_magnitude (x : Binary64) : ofMagnitude x.isNegative x.magnitude = x := by
  have hlt : x.bits.toNat < 2 * BinaryFormat.double.signBit := x.bits.toNat_lt
  have hbits : (if x.isNegative then BinaryFormat.double.signBit + x.magnitude else x.magnitude) =
      x.bits.toNat := by
    simp only [isNegative, magnitude, decide_eq_true_eq]
    split
    · next h => rw [Nat.mod_eq_sub_mod h, Nat.mod_eq_of_lt (by omega), Nat.add_sub_cancel' h]
    · next h => exact Nat.mod_eq_of_lt (not_le.mp h)
  rw [ofMagnitude, hbits, UInt64.ofNat_toNat]

/-- The point that is taken from a grid is a number around the double. -/
theorem surrounds_coarsest (hx : 0 < x.magnitude) (tie : Tie) (k : Nat) :
    BinaryFormat.double.Surrounds x.magnitude
      (((RoundingInterval.ofFinite x).coarsest tie k).1 *
        10 ^ ((RoundingInterval.ofFinite x).scale +
          ((RoundingInterval.ofFinite x).coarsest tie k).2)) := by
  obtain ⟨hl, hu⟩ := RoundingInterval.ofFinite_lt hx
  have hcontains := RoundingInterval.contains_coarsest tie k hl hu
  rw [RoundingInterval.contains_iff_surrounds hx] at hcontains
  convert hcontains using 1
  rw [zpow_add₀ (by norm_num), zpow_natCast, Nat.pow_eq]
  push_cast
  ring

/-- The digits of a double are those of a number around it. -/
theorem surrounds_shortest (hx : 0 < x.magnitude) (tie : Tie) :
    (x.shortest tie).Significant ∧
      BinaryFormat.double.Surrounds x.magnitude (x.shortest tie).value := by
  have hsurrounds := surrounds_coarsest hx tie
    ((Nat.toDigits 10 (RoundingInterval.ofFinite x).value).length - 1)
  have hpoint := hsurrounds.pos_of_mul (by decide) hx
  have hshortest : x.shortest tie = Scientific.ofNat _ _ := rfl
  rw [hshortest, Scientific.value_ofNat]
  exact ⟨Scientific.significant_ofNat hpoint _, hsurrounds⟩

/-- The unit in the last place of a finite double. -/
theorem exponent_le (hfinite : x.isFinite = true) :
    BinaryFormat.double.exponent x.magnitude ≤ 971 := by
  have hlt : x.magnitude < 2047 * 2 ^ 52 := of_decide_eq_true hfinite
  have hquotient : x.magnitude / 2 ^ 52 < 2047 := (Nat.div_lt_iff_lt_mul (by decide)).mpr hlt
  have hexponent : BinaryFormat.double.exponent x.magnitude =
      -1074 + (x.magnitude / 2 ^ 52 - 1 : Nat) := rfl
  omega

/-- The finite doubles end below the power of ten from which nothing is read digit by digit. -/
theorem two_zpow_le : (2 : ℚ) ^ (1024 : Int) ≤ 10 ^ (400 : Int) := by
  have hpow : 2 ^ 1024 ≤ 10 ^ 400 := by decide +kernel
  exact_mod_cast hpow

/-- Half of the least double is above the power of ten below which nothing is read digit by digit.
-/
theorem ten_zpow_le : (10 : ℚ) ^ (-401 : Int) ≤ 2 ^ (-1075 : Int) := by
  have hpow : 2 ^ 1075 ≤ 10 ^ 401 := by decide +kernel
  rw [zpow_neg, zpow_neg]
  exact inv_anti₀ (by positivity) (by exact_mod_cast hpow)

/-- A decimal around a finite double is within the range in which it is read digit by digit. -/
theorem leading_mem (hfinite : x.isFinite = true) (hx : 0 < x.magnitude) {digits : Nat}
    {exponent : Int} (h : BinaryFormat.double.Surrounds x.magnitude (digits * 10 ^ exponent)) :
    -400 ≤ (Nat.toDigits 10 digits).length + exponent ∧
      (Nat.toDigits 10 digits).length + exponent ≤ 400 := by
  obtain ⟨hl, hu⟩ := h.bounds (by decide) hx
  obtain ⟨hlength, hlength'⟩ := pow_length_toDigits (h.pos_of_mul (by decide) hx)
  have hpositive : 0 < (Nat.toDigits 10 digits).length := Nat.length_toDigits_pos
  have hexponent := exponent_le hfinite
  generalize (Nat.toDigits 10 digits).length = length at *
  constructor
  · -- Less than the least positive number that rounds away from zero is out of the question.
    have hlt : (2 : ℚ) ^ (-1075 : Int) < 10 ^ (length + exponent) := by
      calc (2 : ℚ) ^ (-1075 : Int) ≤ digits * 10 ^ exponent := hl
        _ < 10 ^ length * 10 ^ exponent := by
          gcongr
          exact_mod_cast hlength'
        _ = 10 ^ (length + exponent) := by rw [zpow_add₀ (by norm_num), zpow_natCast]
    by_contra hsmall
    have hle : (10 : ℚ) ^ (length + exponent) ≤ 10 ^ (-401 : Int) :=
      zpow_le_zpow_right₀ (by norm_num) (by omega)
    exact absurd (hlt.trans_le (hle.trans ten_zpow_le)) (lt_irrefl _)
  · have hlt : (10 : ℚ) ^ (length - 1 + exponent) < 2 ^ (1024 : Int) := by
      calc (10 : ℚ) ^ (length - 1 + exponent) = 10 ^ (length - 1 : Nat) * 10 ^ exponent := by
            rw [zpow_add₀ (by norm_num), ← zpow_natCast, Nat.cast_sub hpositive, Nat.cast_one]
        _ ≤ digits * 10 ^ exponent := by
          gcongr
          exact_mod_cast hlength
        _ < 2 ^ (BinaryFormat.double.exponent x.magnitude + BinaryFormat.double.precision) := hu
        _ ≤ 2 ^ (1024 : Int) := zpow_le_zpow_right₀ (by norm_num) (by
          rw [show BinaryFormat.double.precision = 53 from rfl]
          omega)
    by_contra hlarge
    have hle : (10 : ℚ) ^ (400 : Int) ≤ 10 ^ (length - 1 + exponent) :=
      zpow_le_zpow_right₀ (by norm_num) (by omega)
    exact absurd ((two_zpow_le.trans hle).trans_lt hlt) (lt_irrefl _)

/-- A decimal around a finite double is read as that double. -/
theorem ofDecimal_eq (hfinite : x.isFinite = true) (hx : 0 < x.magnitude) {digits : Nat}
    {exponent : Int}
    (h : BinaryFormat.double.Surrounds x.magnitude (digits * 10 ^ exponent)) :
    ofDecimal x.isNegative digits exponent = x := by
  obtain ⟨hleast, hgreatest⟩ := leading_mem hfinite hx h
  have hdigits := h.pos_of_mul (by decide) hx
  have hquotient : ((digits * Nat.pow 10 exponent.toNat : Nat) : ℚ) /
      (Nat.pow 10 (-exponent).toNat : Nat) = digits * 10 ^ exponent := by
    have hscaled := quotient_eq (b := 10) (by decide) digits 1 (-exponent)
    rw [neg_neg, Nat.one_mul] at hscaled
    rw [hscaled, Nat.cast_one, div_one, zpow_neg, div_inv_eq_mul]
    rfl
  rw [← hquotient] at h
  have hround : BinaryFormat.double.round (digits * Nat.pow 10 exponent.toNat)
      (Nat.pow 10 (-exponent).toNat) = x.magnitude :=
    BinaryFormat.round_eq (by decide) hx (of_decide_eq_true hfinite) (Nat.pow_pos (by decide)) h
  rw [ofDecimal, if_neg (by omega), if_neg (by omega), hround, ofMagnitude_magnitude]

end Binary64

/-- A finite double is written as its sign and its digits. -/
theorem NumberLayout.write_of_isFinite (l : NumberLayout) {x : Binary64}
    (hfinite : x.isFinite = true) :
    l.write x = (if x.isNegative then "-" else "") ++
      (let s : Scientific := if x.magnitude = 0 then ⟨['0'], 0⟩ else x.shortest l.tie
      if l.positional s.exponent then l.writePositional s else l.writeExponent s) := by
  have hmagnitude : x.magnitude < BinaryFormat.double.infinity := of_decide_eq_true hfinite
  have hnan : ¬ x.isNaN = true := by simpa [Binary64.isNaN] using hmagnitude.le
  have hinfinite : ¬ x.isInfinite = true := by simpa [Binary64.isInfinite] using hmagnitude.ne
  rw [write, if_neg hnan, if_neg hinfinite]

end SqlDraft
