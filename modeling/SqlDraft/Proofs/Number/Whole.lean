import SqlDraft.Proofs.Number.Shortest
import SqlDraft.Value.Text

/-!
# Large whole numbers as doubles

From `2 ^ 63` to `2 ^ 64` the doubles are 2048 apart, so that a multiple of a thousand is among the
numbers that round to a double. Its shortest digits are then followed by at least three zeros: its
plain text is that of a whole number that rounds to the same double, but of no other than a multiple
of a thousand.
-/

namespace SqlDraft

/-! ## Grids -/

namespace RoundingInterval

variable {i : RoundingInterval} {tie : Tie}

/-- A grid that is finer than the distance to the upper end has a point in the interval. -/
theorem isSome_onGrid? {step : Nat} (hstep : 0 < step) (hl : i.lower < i.value)
    (hu : i.value + step < i.upper) : (i.onGrid? tie step).isSome = true := by
  have hdivision := Nat.div_add_mod' i.value step
  have hremainder := Nat.mod_lt i.value hstep
  have habove : i.contains ((i.value / step + 1) * step) = true := by
    rw [contains, Nat.succ_mul]
    split <;> simp only [Bool.and_eq_true, decide_eq_true_eq] <;> omega
  rw [onGrid?, habove]
  cases i.contains (i.value / step * step) with
  | false => rfl
  | true =>
    dsimp only
    split
    · rfl
    · rfl
    · split <;> rfl

/-- What is taken is on the coarsest grid that has a point in the interval. -/
theorem le_coarsest {j k : Nat} (hj : (i.onGrid? tie (Nat.pow 10 j)).isSome = true) (hk : j ≤ k) :
    j ≤ (i.coarsest tie k).2 := by
  induction k with
  | zero => exact hk
  | succ k ih =>
    rw [coarsest]
    split
    · exact hk
    · next hnone =>
      refine ih (Nat.le_of_lt_succ (lt_of_le_of_ne hk fun heq => ?_))
      rw [heq, hnone] at hj
      cases hj

end RoundingInterval

/-! ## Plain text -/

/-- A zero behind its digits makes a number ten times as great. -/
theorem toDigits_append_zeros {n : Nat} (hn : 0 < n) (k : Nat) :
    Nat.toDigits 10 n ++ List.replicate k '0' = Nat.toDigits 10 (n * 10 ^ k) := by
  induction k with
  | zero => rw [List.replicate_zero, List.append_nil, Nat.pow_zero, Nat.mul_one]
  | succ k ih =>
    have hpos : 0 < n * 10 ^ k := Nat.mul_pos hn (Nat.pow_pos (by decide))
    have happend := Nat.toDigits_append_toDigits (b := 10) (d := 0) (by decide) hpos (by decide)
    rw [List.replicate_succ', ← List.append_assoc, ih, Nat.pow_succ, ← Nat.mul_assoc,
      Nat.mul_comm _ 10]
    exact happend

/-- A whole decimal without a point is written as the whole number it is. -/
theorem writePositional_ofNat {l : NumberLayout} (hl : l.pointZero = false) {n : Nat} (hn : 0 < n)
    (k : Nat) : l.writePositional (Scientific.ofNat n k) = Nat.repr (n * 10 ^ k) := by
  obtain ⟨zeros, hdigits⟩ := Scientific.exists_toDigits_eq n k
  have hlength : (Nat.toDigits 10 n).length = (Scientific.ofNat n k).digits.length + zeros := by
    rw [hdigits, List.length_append, List.length_replicate]
  have hpositive : 0 < (Nat.toDigits 10 n).length := Nat.length_toDigits_pos
  have hexponent : (Scientific.ofNat n k).exponent = k + (Nat.toDigits 10 n).length - 1 := rfl
  rw [NumberLayout.writePositional, if_neg (by omega)]
  dsimp only
  have hzeros : List.replicate ((Scientific.ofNat n k).exponent.toNat + 1 -
      (Scientific.ofNat n k).digits.length) '0' =
      List.replicate zeros '0' ++ List.replicate k '0' := by
    rw [← List.replicate_add]
    congr 1
    omega
  rw [if_pos (by omega), hl, hzeros, Nat.repr_eq_ofList_toDigits, ← toDigits_append_zeros hn,
    hdigits, List.append_assoc]
  exact String.append_empty

namespace Binary64

variable {x : Binary64}

/-- A double with so great a unit in the last place is not zero. -/
theorem magnitude_pos_of_exponent (h : 11 ≤ BinaryFormat.double.exponent x.magnitude) :
    0 < x.magnitude := by
  refine Nat.pos_of_ne_zero fun hzero => ?_
  rw [hzero] at h
  exact absurd h (by decide)

/-- Where the last place of a double is worth 2048 or more, its digits are followed by three zeros
or more. -/
theorem three_le_coarsest (h : 11 ≤ BinaryFormat.double.exponent x.magnitude) (tie : Tie) :
    3 ≤ ((RoundingInterval.ofFinite x).coarsest tie
      ((Nat.toDigits 10 (RoundingInterval.ofFinite x).value).length - 1)).2 := by
  have hx := magnitude_pos_of_exponent h
  have hm := BinaryFormat.significand_pos (f := BinaryFormat.double) hx
  have hunit : Nat.pow 2 9 ≤ RoundingInterval.quarterUnit x := by
    rw [RoundingInterval.quarterUnit, if_pos (by omega)]
    exact Nat.pow_le_pow_right two_pos (by omega)
  rw [show Nat.pow 2 9 = 512 from rfl] at hunit
  have hvalue : 4 * 512 ≤ (RoundingInterval.ofFinite x).value := by
    rw [RoundingInterval.value_eq]
    exact Nat.mul_le_mul (by omega) hunit
  have hupper : (RoundingInterval.ofFinite x).value + Nat.pow 10 3 <
      (RoundingInterval.ofFinite x).upper := by
    rw [RoundingInterval.value_eq, RoundingInterval.upper_eq, Nat.add_mul,
      show Nat.pow 10 3 = 1000 from rfl]
    omega
  have hlength : 3 < (Nat.toDigits 10 (RoundingInterval.ofFinite x).value).length := by
    by_contra hle
    have hlt := (Nat.length_toDigits_le_iff (by decide) (by decide)).mp (not_lt.mp hle)
    omega
  exact RoundingInterval.le_coarsest (RoundingInterval.isSome_onGrid? (Nat.pow_pos (by decide))
    (RoundingInterval.ofFinite_lt hx).1 hupper) (by omega)

/-- A whole number around a positive double is rounded to that double. -/
theorem ofInt_eq (hfinite : x.isFinite = true) (hnegative : x.isNegative = false)
    (hx : 0 < x.magnitude) {n : Nat}
    (h : BinaryFormat.double.Surrounds x.magnitude (n : ℚ)) : ofInt n = x := by
  have hquotient : BinaryFormat.double.Surrounds x.magnitude ((n : ℚ) / (1 : Nat)) := by
    rwa [Nat.cast_one, div_one]
  have hround := BinaryFormat.round_eq (by decide) hx (of_decide_eq_true hfinite) one_pos hquotient
  have hsign : decide ((n : Int) < 0) = x.isNegative := by
    rw [hnegative]
    exact decide_eq_false (by omega)
  rw [ofInt, Int.natAbs_natCast, hround, hsign, ofMagnitude_magnitude]

/-- A positive double whose last place is worth 2048 or more is shown as a multiple of a thousand,
which is its shortest decimal and rounds to it. -/
theorem exists_write_eq (hfinite : x.isFinite = true) (hnegative : x.isNegative = false)
    (hexponent : 11 ≤ BinaryFormat.double.exponent x.magnitude) {l : NumberLayout}
    (hpositional : ∀ e, l.positional e = true) (hpoint : l.pointZero = false) :
    ∃ shown : Nat, l.write x = Nat.repr shown ∧ (x.shortest l.tie).value = shown ∧
      1000 ∣ shown ∧ ofInt shown = x := by
  have hx := magnitude_pos_of_exponent hexponent
  have hk := three_le_coarsest hexponent l.tie
  have hsurrounds := surrounds_coarsest hx l.tie
    ((Nat.toDigits 10 (RoundingInterval.ofFinite x).value).length - 1)
  have hshortest : x.shortest l.tie = Scientific.ofNat _ _ := rfl
  have hscale : (RoundingInterval.ofFinite x).scale = 0 := min_eq_right (by omega)
  rw [hscale, zero_add] at hsurrounds hshortest
  generalize (RoundingInterval.ofFinite x).coarsest l.tie _ = point at *
  have hn := hsurrounds.pos_of_mul (by decide) hx
  refine ⟨point.1 * 10 ^ point.2, ?_, ?_, ?_, ?_⟩
  · rw [l.write_of_isFinite hfinite, hnegative]
    simp only [if_neg hx.ne', hpositional, hshortest, writePositional_ofNat hpoint hn]
    exact String.empty_append
  · rw [hshortest, Scientific.value_ofNat, zpow_natCast, Nat.cast_mul, Nat.cast_pow, Nat.cast_ofNat]
  · exact Dvd.dvd.mul_left (pow_dvd_pow 10 hk) _
  · refine ofInt_eq hfinite hnegative hx ?_
    rw [Nat.cast_mul, Nat.cast_pow, ← zpow_natCast]
    exact hsurrounds

/-- The bits of the double nearest to a whole number between `2 ^ 63` and `2 ^ 64`. -/
theorem round_bounds {n : Nat} (hl : 2 ^ 63 ≤ n) (hu : n < 2 ^ 64) :
    1086 * 2 ^ 52 ≤ BinaryFormat.double.round n 1 ∧
      BinaryFormat.double.round n 1 ≤ 1087 * 2 ^ 52 := by
  have hlog : floorLog2 n 1 = 63 := by
    rw [floorLog2_eq_log (by omega) one_pos, Nat.cast_one, div_one]
    exact log_eq one_lt_two (by exact_mod_cast hl) (by exact_mod_cast hu)
  have hunit : max (63 + 1 - (BinaryFormat.double.precision : Int))
      BinaryFormat.double.leastExponent = 11 := by decide
  have hround : BinaryFormat.double.round n 1 =
      min (1085 * 2 ^ 52 + roundHalfEven n 2048) (2047 * 2 ^ 52) := by
    rw [BinaryFormat.round, if_neg (by omega), hlog, hunit]
    show min (1085 * 2 ^ 52 + roundHalfEven (n * 1) 2048) (2047 * 2 ^ 52) = _
    rw [Nat.mul_one]
  obtain ⟨hlower, hupper⟩ := roundHalfEven_near n (by decide : 0 < 2048)
  rw [hround]
  omega

/-- The parts that a double is made of are its parts. -/
theorem parts_ofMagnitude {negative : Bool} {magnitude : Nat}
    (h : magnitude < BinaryFormat.double.signBit) :
    (ofMagnitude negative magnitude).magnitude = magnitude ∧
      (ofMagnitude negative magnitude).isNegative = negative := by
  have hsign : BinaryFormat.double.signBit = 2 ^ 63 := rfl
  have hbits : (ofMagnitude negative magnitude).bits.toNat =
      if negative then BinaryFormat.double.signBit + magnitude else magnitude := by
    rw [ofMagnitude]
    exact UInt64.toNat_ofNat_of_lt' (by split <;> simp only [UInt64.size] <;> omega)
  rw [Binary64.magnitude, isNegative, hbits]
  cases negative with
  | true => simp [Nat.mod_eq_of_lt h]
  | false => simp [Nat.mod_eq_of_lt h, h]

/-- The double nearest to a whole number between `2 ^ 63` and `2 ^ 64`. -/
theorem ofInt_spec {n : Nat} (hl : 2 ^ 63 ≤ n) (hu : n < 2 ^ 64) :
    (ofInt n).isFinite = true ∧ (ofInt n).isNegative = false ∧
      11 ≤ BinaryFormat.double.exponent (ofInt n).magnitude := by
  obtain ⟨hlower, hupper⟩ := round_bounds hl hu
  have hsign : decide ((n : Int) < 0) = false := decide_eq_false (by omega)
  have hlt : BinaryFormat.double.round n 1 < BinaryFormat.double.signBit :=
    hupper.trans_lt (by decide)
  have hparts := @parts_ofMagnitude false _ hlt
  rw [ofInt, hsign, Int.natAbs_natCast, isFinite, hparts.1, hparts.2]
  refine ⟨decide_eq_true (hupper.trans_lt (by decide)), rfl, ?_⟩
  have hquotient : 1086 ≤ BinaryFormat.double.round n 1 / 2 ^ 52 :=
    (Nat.le_div_iff_mul_le (by decide)).mpr hlower
  have hexponent : BinaryFormat.double.exponent (BinaryFormat.double.round n 1) =
      -1074 + (BinaryFormat.double.round n 1 / 2 ^ 52 - 1 : Nat) := rfl
  omega

end Binary64

end SqlDraft
