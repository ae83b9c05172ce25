import Mathlib.Algebra.Order.Field.Power
import Mathlib.Data.Int.Log
import Mathlib.Data.Nat.Log
import Mathlib.Data.Rat.Floor
import Mathlib.Tactic.FieldSimp
import Mathlib.Tactic.Linarith
import Mathlib.Tactic.Positivity
import Mathlib.Tactic.Ring
import SqlDraft.Number.Binary

/-!
# What rounds to a value

The numbers that round to a value of a binary format fill an interval around it: half a unit of its
last place to either side, but only a quarter below a power of two, where the unit halves. The ends
belong to it exactly when the significand is even. Rounding gives the value in whose interval the
number lies, which leaves no freedom to it.
-/

namespace SqlDraft

/-! ## Quotients and powers -/

/-- Between two ends, which belong or do not. -/
def Between (closed : Prop) [Decidable closed] (lower upper r : ℚ) : Prop :=
  if closed then lower ≤ r ∧ r ≤ upper else lower < r ∧ r < upper

/-- With or without its ends, what is between them is no less than the one and no more than the
other. -/
theorem Between.le {closed : Prop} [Decidable closed] {lower upper r : ℚ}
    (h : Between closed lower upper r) : lower ≤ r ∧ r ≤ upper := by
  unfold Between at h
  split at h
  · exact h
  · exact ⟨h.1.le, h.2.le⟩

/-- What is between two ends stays so when the lower one is lowered. -/
theorem Between.mono {closed : Prop} [Decidable closed] {lower lower' upper r : ℚ}
    (h : Between closed lower upper r) (hlower : lower' ≤ lower) :
    Between closed lower' upper r := by
  unfold Between at h ⊢
  split_ifs at h ⊢
  · exact ⟨hlower.trans h.1, h.2⟩
  · exact ⟨hlower.trans_lt h.1, h.2⟩

/-- Being between does not depend on the unit. -/
theorem between_mul_iff {closed : Prop} [Decidable closed] {lower upper r u : ℚ} (hu : 0 < u) :
    Between closed (lower * u) (upper * u) (r * u) ↔ Between closed lower upper r := by
  simp only [Between, mul_le_mul_iff_left₀ hu, mul_lt_mul_iff_left₀ hu]

/-- A scale above or below one, brought to the numerator or to the denominator. -/
theorem quotient_eq {b : Nat} (hb : 0 < b) (num den : Nat) (e : Int) :
    ((num * Nat.pow b (-e).toNat : Nat) : ℚ) / ((den * Nat.pow b e.toNat : Nat) : ℚ) =
      num / den / (b : ℚ) ^ e := by
  have hb0 : (b : ℚ) ≠ 0 := by positivity
  have hpow : (b : ℚ) ^ e = (b : ℚ) ^ e.toNat / (b : ℚ) ^ (-e).toNat := by
    rw [← zpow_natCast, ← zpow_natCast, ← zpow_sub₀ hb0]
    congr 1
    omega
  rw [hpow, Nat.cast_mul, Nat.cast_mul, Nat.pow_eq, Nat.pow_eq, Nat.cast_pow, Nat.cast_pow,
    div_div_div_eq]

/-- A number between two neighbouring powers has the exponent of the lower one. -/
theorem log_eq {b : Nat} (hb : 1 < b) {r : ℚ} {e : Int} (hl : (b : ℚ) ^ e ≤ r)
    (hu : r < (b : ℚ) ^ (e + 1)) : Int.log b r = e := by
  have hr : 0 < r := lt_of_lt_of_le (by positivity) hl
  have hle := (Int.zpow_le_iff_le_log hb hr).mp hl
  have hlt := (Int.lt_zpow_iff_log_lt hb hr).mp hu
  omega

/-- The lengths of the parts of a quotient give its power of two, or the one above. -/
theorem floorLog2_eq_log {num den : Nat} (hn : 0 < num) (hd : 0 < den) :
    floorLog2 num den = Int.log 2 (num / den : ℚ) := by
  have hnum : (2 : ℚ) ^ (num.log2 : Int) ≤ num ∧ (num : ℚ) < 2 ^ ((num.log2 : Int) + 1) :=
    ⟨mod_cast Nat.log2_self_le hn.ne', mod_cast Nat.lt_log2_self⟩
  have hden : (2 : ℚ) ^ (den.log2 : Int) ≤ den ∧ (den : ℚ) < 2 ^ ((den.log2 : Int) + 1) :=
    ⟨mod_cast Nat.log2_self_le hd.ne', mod_cast Nat.lt_log2_self⟩
  have hd0 : (0 : ℚ) < den := mod_cast hd
  rw [floorLog2]
  set e : Int := (num.log2 : Int) - den.log2 with he
  have hlower : (2 : ℚ) ^ (e - 1) ≤ num / den := by
    rw [le_div_iff₀ hd0]
    calc (2 : ℚ) ^ (e - 1) * den ≤ 2 ^ (e - 1) * 2 ^ ((den.log2 : Int) + 1) := by
          gcongr
          exact hden.2.le
      _ = 2 ^ (num.log2 : Int) := by
          rw [← zpow_add₀ two_ne_zero]
          congr 1
          omega
      _ ≤ num := hnum.1
  have hupper : (num : ℚ) / den < 2 ^ (e + 1) := by
    rw [div_lt_iff₀ hd0]
    calc (num : ℚ) < 2 ^ ((num.log2 : Int) + 1) := hnum.2
      _ = 2 ^ (e + 1) * 2 ^ (den.log2 : Int) := by
          rw [← zpow_add₀ two_ne_zero]
          congr 1
          omega
      _ ≤ 2 ^ (e + 1) * den := by
          gcongr
          exact hden.1
  have hpow : (0 : ℚ) < ((den * Nat.pow 2 e.toNat : Nat) : ℚ) := by
    have : 0 < den * Nat.pow 2 e.toNat := Nat.mul_pos hd (Nat.pow_pos two_pos)
    exact_mod_cast this
  have htest : num * Nat.pow 2 (-e).toNat < den * Nat.pow 2 e.toNat ↔ (num / den : ℚ) < 2 ^ e := by
    rw [← Nat.cast_lt (α := ℚ), ← div_lt_one hpow, quotient_eq two_pos, div_lt_one (by positivity)]
    rfl
  simp only [htest]
  split
  · next h => exact (log_eq one_lt_two hlower (by simpa using h)).symm
  · next h => exact (log_eq one_lt_two (by simpa using h) hupper).symm

/-! ## Halves to even -/

/-- The integer nearest to a quotient is the one in whose surroundings of a half to either side the
quotient is. -/
theorem roundHalfEven_eq {num den m : Nat} (hd : 0 < den)
    (h : Between (m % 2 = 0) (m - 1 / 2) (m + 1 / 2) (num / den : ℚ)) :
    roundHalfEven num den = m := by
  have hd0 : (0 : ℚ) < den := mod_cast hd
  have hscaled : Between (m % 2 = 0) ((2 * (den * m) : Nat) - den : ℚ)
      ((2 * (den * m) + den : Nat) : ℚ) ((2 * num : Nat) : ℚ) := by
    have hu : (0 : ℚ) < 2 * den := by positivity
    rw [← between_mul_iff hu] at h
    convert h using 1 <;> push_cast <;> field_simp
  have hdivision : den * (num / den) + num % den = num := Nat.div_add_mod num den
  have hremainder : num % den < den := Nat.mod_lt num hd
  obtain ⟨hl, hu⟩ := hscaled.le
  simp only [Between, sub_le_iff_le_add, sub_lt_iff_lt_add, ← Nat.cast_add, Nat.cast_le,
    Nat.cast_lt] at hscaled hl hu
  -- The quotient rounded down is the integer or the one below it.
  have hbelow : num / den ≤ m := by
    by_contra hlt
    have hmul := Nat.mul_le_mul_left den (Nat.succ_le_of_lt (not_le.mp hlt))
    rw [Nat.mul_succ] at hmul
    omega
  have habove : m ≤ num / den + 1 := by
    by_contra hlt
    have hmul := Nat.mul_le_mul_left den (Nat.succ_le_of_lt (not_le.mp hlt))
    rw [Nat.mul_succ, Nat.mul_succ] at hmul
    omega
  rw [roundHalfEven]
  generalize num / den = q at *
  obtain rfl | rfl : m = q ∨ m = q + 1 := by omega
  · split at hscaled <;> grind
  · rw [Nat.mul_succ] at hscaled
    split at hscaled <;> grind

/-! ## Values of a format -/

namespace BinaryFormat

variable {f : BinaryFormat} {bits : Nat}

/-- Whether the values just below one are closer together than those above it. -/
def AtPowerOfTwo (f : BinaryFormat) (bits : Nat) : Prop :=
  f.significand bits = Nat.pow 2 (f.precision - 1) ∧ f.leastExponent < f.exponent bits

instance (f : BinaryFormat) (bits : Nat) : Decidable (f.AtPowerOfTwo bits) :=
  inferInstanceAs (Decidable (_ ∧ _))

/-- The numbers around a value of a format, the value being given by its bits without the sign. -/
def Surrounds (f : BinaryFormat) (bits : Nat) (r : ℚ) : Prop :=
  Between (f.significand bits % 2 = 0)
    ((f.significand bits - if f.AtPowerOfTwo bits then 1 / 4 else 1 / 2) * 2 ^ f.exponent bits)
    ((f.significand bits + 1 / 2) * 2 ^ f.exponent bits) r

/-- No value is scaled by less than the least power of two. -/
theorem leastExponent_le_exponent (f : BinaryFormat) (bits : Nat) :
    f.leastExponent ≤ f.exponent bits := by
  rw [exponent]
  omega

/-- The hidden bit is no zero. -/
theorem hidden_pos (f : BinaryFormat) : 0 < Nat.pow 2 (f.precision - 1) := Nat.pow_pos two_pos

/-- Consecutive values have consecutive bits. -/
theorem exponent_significand (f : BinaryFormat) (bits : Nat) :
    (f.exponent bits - f.leastExponent).toNat * Nat.pow 2 (f.precision - 1) + f.significand bits =
      bits := by
  rw [exponent, significand, add_sub_cancel_left, Int.toNat_natCast]
  have hdivision := Nat.div_add_mod' bits (Nat.pow 2 (f.precision - 1))
  by_cases h : bits < Nat.pow 2 (f.precision - 1)
  · rw [if_pos h, Nat.div_eq_of_lt h, Nat.mod_eq_of_lt h, Nat.zero_sub, Nat.zero_mul, Nat.zero_add]
  · have hquotient := Nat.div_pos (not_lt.mp h) f.hidden_pos
    rw [if_neg h, ← Nat.add_assoc, ← Nat.succ_mul, Nat.succ_eq_add_one,
      Nat.sub_add_cancel hquotient, hdivision]

/-- The significand has no more bits than the precision. -/
theorem significand_lt (hf : 0 < f.precision) (bits : Nat) :
    f.significand bits < 2 ^ f.precision := by
  have hmod := Nat.mod_lt bits f.hidden_pos
  have hpow : 2 ^ f.precision = 2 * Nat.pow 2 (f.precision - 1) := by
    rw [Nat.pow_eq, ← Nat.pow_succ', Nat.succ_eq_add_one, Nat.sub_add_cancel hf]
  simp only [significand]
  split <;> omega

/-- A significand that is scaled has all bits of the precision. -/
theorem le_significand (h : f.leastExponent < f.exponent bits) :
    Nat.pow 2 (f.precision - 1) ≤ f.significand bits := by
  have hhidden : ¬ bits < Nat.pow 2 (f.precision - 1) := by
    intro hlt
    rw [exponent, Nat.div_eq_of_lt hlt] at h
    omega
  rw [significand, if_neg hhidden]
  omega

/-- Only zero has no significand. -/
theorem significand_pos (h : 0 < bits) : 0 < f.significand bits := by
  have hhidden := f.hidden_pos
  simp only [significand]
  split
  · next hlt => rwa [Nat.mod_eq_of_lt hlt]
  · omega

/-- A number around a value is at least half of the least value, and below what is too long for the
precision. -/
theorem Surrounds.bounds (hf : 0 < f.precision) (hbits : 0 < bits) {r : ℚ}
    (h : f.Surrounds bits r) :
    2 ^ (f.leastExponent - 1) ≤ r ∧ r < 2 ^ (f.exponent bits + f.precision) := by
  obtain ⟨hl, hu⟩ := h.le
  have hm : (1 : ℚ) ≤ f.significand bits := mod_cast significand_pos hbits
  have hm' : (f.significand bits : ℚ) + 1 ≤ 2 ^ f.precision := mod_cast significand_lt hf bits
  constructor
  · calc (2 : ℚ) ^ (f.leastExponent - 1) = 1 / 2 * 2 ^ f.leastExponent := by
          rw [zpow_sub_one₀ two_ne_zero, mul_comm, one_div]
      _ ≤ 1 / 2 * 2 ^ f.exponent bits := by
          gcongr
          · norm_num
          · exact f.leastExponent_le_exponent bits
      _ ≤ (f.significand bits - if f.AtPowerOfTwo bits then 1 / 4 else 1 / 2) *
            2 ^ f.exponent bits := by
          gcongr
          split <;> linarith
      _ ≤ r := hl
  · calc r ≤ (f.significand bits + 1 / 2) * 2 ^ f.exponent bits := hu
      _ < 2 ^ f.precision * 2 ^ f.exponent bits := by
        gcongr
        linarith
      _ = 2 ^ (f.exponent bits + f.precision) := by
        rw [zpow_add₀ two_ne_zero, zpow_natCast, mul_comm]

/-- What rounds to a positive value is positive. -/
theorem Surrounds.pos (hf : 0 < f.precision) (hbits : 0 < bits) {r : ℚ}
    (h : f.Surrounds bits r) : 0 < r :=
  lt_of_lt_of_le (by positivity) (h.bounds hf hbits).1

/-- A multiple that rounds to a positive value is one of a positive number. -/
theorem Surrounds.pos_of_mul (hf : 0 < f.precision) (hbits : 0 < bits) {n : Nat} {scale : ℚ}
    (h : f.Surrounds bits (n * scale)) : 0 < n := by
  by_contra hzero
  have hr := h.pos hf hbits
  rw [Nat.eq_zero_of_not_pos hzero, Nat.cast_zero, zero_mul] at hr
  exact lt_irrefl 0 hr

/-- Once the unit of the last place is known, what is left of rounding is to an integer. -/
theorem round_eq_of_unit {num den m : Nat} {q : Int} (hn : 0 < num) (hd : 0 < den)
    (hq : max (Int.log 2 (num / den : ℚ) + 1 - f.precision) f.leastExponent = q)
    (hm : Between (m % 2 = 0) (m - 1 / 2) (m + 1 / 2) (num / den / 2 ^ q : ℚ)) :
    f.round num den =
      min ((q - f.leastExponent).toNat * Nat.pow 2 (f.precision - 1) + m) f.infinity := by
  have hden : 0 < den * Nat.pow 2 q.toNat := Nat.mul_pos hd (Nat.pow_pos two_pos)
  have hscaled := quotient_eq two_pos num den q
  rw [Nat.cast_two] at hscaled
  rw [← hscaled] at hm
  rw [round, if_neg hn.ne', floorLog2_eq_log hn hd, hq]
  simp only [roundHalfEven_eq hden hm]

/-- The least value with an exponent of its own is the hidden bit on its scale. -/
theorem two_zpow_eq (hf : 0 < f.precision) (e : Int) :
    (2 : ℚ) ^ (e + f.precision - 1) = (Nat.pow 2 (f.precision - 1) : Nat) * 2 ^ e := by
  rw [Nat.pow_eq, Nat.cast_pow, Nat.cast_two, ← zpow_natCast, ← zpow_add₀ two_ne_zero]
  congr 1
  omega

/-- Below a power of two the unit of the last place is half that of the value, which is then twice
as many of them. -/
theorem round_eq_of_below (hf : 0 < f.precision) (hfinite : bits < f.infinity) {num den : Nat}
    (hn : 0 < num) (hd : 0 < den) (h : f.Surrounds bits (num / den : ℚ))
    (hscaled : f.leastExponent < f.exponent bits)
    (hbelow : (num / den : ℚ) < 2 ^ (f.exponent bits + f.precision - 1)) :
    f.round num den = bits := by
  have hr : (0 : ℚ) < num / den := by positivity
  have hunit : (0 : ℚ) < 2 ^ f.exponent bits := by positivity
  have hdigits := f.exponent_significand bits
  have hhidden : (1 : ℚ) ≤ (Nat.pow 2 (f.precision - 1) : Nat) := mod_cast f.hidden_pos
  have hbelow' := hbelow
  rw [two_zpow_eq hf] at hbelow'
  have hpower : f.AtPowerOfTwo bits := by
    by_contra hpower
    have hl := h.le.1
    rw [if_neg hpower] at hl
    have hlt := lt_of_mul_lt_mul_right (hl.trans_lt hbelow') hunit.le
    have hle : (f.significand bits : ℚ) < (Nat.pow 2 (f.precision - 1) + 1 : Nat) := by
      push_cast at hlt ⊢
      linarith
    rw [Nat.cast_lt] at hle
    exact hpower ⟨le_antisymm (Nat.le_of_lt_succ hle) (le_significand hscaled), hscaled⟩
  have hl := h.le.1
  rw [if_pos hpower, hpower.1] at hl
  have hq : max (Int.log 2 (num / den : ℚ) + 1 - f.precision) f.leastExponent =
      f.exponent bits - 1 := by
    have hlog := (Int.lt_zpow_iff_log_lt one_lt_two hr).mp (by simpa using hbelow)
    have hhalf : (2 : ℚ) ^ (f.exponent bits - 1 + f.precision - 1) ≤ num / den := by
      rw [two_zpow_eq hf, zpow_sub_one₀ two_ne_zero]
      refine le_trans ?_ hl
      nlinarith
    have hlog' := (Int.zpow_le_iff_le_log one_lt_two hr).mp (by simpa using hhalf)
    omega
  have hm : Between (2 * Nat.pow 2 (f.precision - 1) % 2 = 0)
      ((2 * Nat.pow 2 (f.precision - 1) : Nat) - 1 / 2)
      ((2 * Nat.pow 2 (f.precision - 1) : Nat) + 1 / 2)
      (num / den / 2 ^ (f.exponent bits - 1) : ℚ) := by
    rw [Between, if_pos (Nat.mul_mod_right 2 _), zpow_sub_one₀ two_ne_zero, Nat.cast_mul,
      le_div_iff₀ (by positivity), div_le_iff₀ (by positivity)]
    push_cast at hl hbelow' ⊢
    constructor <;> linarith
  have hexponent : (f.exponent bits - f.leastExponent).toNat =
      (f.exponent bits - 1 - f.leastExponent).toNat + 1 := by omega
  rw [hpower.1, hexponent, Nat.succ_mul] at hdigits
  rw [round_eq_of_unit hn hd hq hm, min_eq_left (by omega)]
  omega

/-- Rounding a number around a value gives the bits of that value. -/
theorem round_eq (hf : 0 < f.precision) (hbits : 0 < bits) (hfinite : bits < f.infinity)
    {num den : Nat} (hd : 0 < den) (h : f.Surrounds bits (num / den : ℚ)) :
    f.round num den = bits := by
  have hr := h.pos hf hbits
  have hupper := (h.bounds hf hbits).2
  have hn : 0 < num := Surrounds.pos_of_mul hf hbits (div_eq_mul_inv (num : ℚ) den ▸ h)
  by_cases hbelow : f.leastExponent < f.exponent bits ∧
      (num / den : ℚ) < 2 ^ (f.exponent bits + f.precision - 1)
  · exact round_eq_of_below hf hfinite hn hd h hbelow.1 hbelow.2
  · have hunit : (0 : ℚ) < 2 ^ f.exponent bits := by positivity
    have hq : max (Int.log 2 (num / den : ℚ) + 1 - f.precision) f.leastExponent =
        f.exponent bits := by
      have hlog := (Int.lt_zpow_iff_log_lt one_lt_two hr).mp (by simpa using hupper)
      rcases eq_or_lt_of_le (f.leastExponent_le_exponent bits) with heq | hlt
      · omega
      · have hge := not_lt.mp fun hlt' => hbelow ⟨hlt, hlt'⟩
        have hlog' := (Int.zpow_le_iff_le_log one_lt_two hr).mp (by simpa using hge)
        omega
    have hm : Between (f.significand bits % 2 = 0) (f.significand bits - 1 / 2)
        (f.significand bits + 1 / 2) (num / den / 2 ^ f.exponent bits : ℚ) := by
      rw [← between_mul_iff hunit, div_mul_cancel₀ _ hunit.ne']
      refine h.mono (mul_le_mul_of_nonneg_right ?_ hunit.le)
      split <;> linarith
    rw [round_eq_of_unit hn hd hq hm, f.exponent_significand, min_eq_left hfinite.le]

end BinaryFormat

end SqlDraft
