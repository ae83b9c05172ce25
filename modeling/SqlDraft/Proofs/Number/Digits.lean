import Mathlib.Algebra.Order.Field.Power
import Mathlib.Data.List.Basic
import Mathlib.Data.List.TakeWhile
import Mathlib.Tactic.NormNum
import SqlDraft.Number.Reading
import SqlDraft.Number.Shortest

/-!
# Decimal digits

The value of a run of digits, its parts and its zeros, and the digits that are written for a natural
number: they do not begin with a zero, and without the zeros at their end they are the same number
on another scale.
-/

namespace SqlDraft

/-! ## The value of digits -/

/-- Digits are read in the base ten. -/
theorem digitsValue_eq (digits : List Char) : digitsValue digits = Nat.ofDigitChars 10 digits 0 := by
  rw [digitsValue, Nat.ofDigitChars_eq_foldl]

/-- Digits before others count ten times more for each of those behind them. -/
theorem digitsValue_append (before after : List Char) :
    digitsValue (before ++ after) =
      digitsValue before * 10 ^ after.length + digitsValue after := by
  rw [digitsValue_eq, digitsValue_eq, digitsValue_eq, Nat.ofDigitChars_append,
    Nat.ofDigitChars_eq_ofDigitChars_zero, Nat.mul_comm]

/-- Zeros denote zero. -/
@[simp] theorem digitsValue_zeros (n : Nat) : digitsValue (List.replicate n '0') = 0 := by
  rw [digitsValue_eq, Nat.ofDigitChars_replicate_zero, Nat.mul_zero]

/-- A zero behind digits makes their number ten times as great. -/
theorem digitsValue_append_zeros (digits : List Char) (n : Nat) :
    digitsValue (digits ++ List.replicate n '0') = digitsValue digits * 10 ^ n := by
  rw [digitsValue_append, digitsValue_zeros, List.length_replicate, Nat.add_zero]

/-- Zeros before digits make no difference. -/
theorem digitsValue_zeros_append (n : Nat) (digits : List Char) :
    digitsValue (List.replicate n '0' ++ digits) = digitsValue digits := by
  rw [digitsValue_append, digitsValue_zeros, Nat.zero_mul, Nat.zero_add]

/-- The digits of a number denote it. -/
@[simp] theorem digitsValue_toDigits (n : Nat) : digitsValue (Nat.toDigits 10 n) = n := by
  rw [digitsValue_eq, Nat.ofDigitChars_ten_toDigits]

/-! ## Runs of digits -/

/-- A text that does not go on with a digit. -/
def NoDigit (rest : List Char) : Prop := ∀ c ∈ rest.head?, c.isDigit = false

/-- Digits are taken up to what is none. -/
theorem takeDigits_append_of {digits rest : List Char} (hdigits : ∀ c ∈ digits, c.isDigit = true)
    (hrest : NoDigit rest) : takeDigits (digits ++ rest) = (digits, rest) := by
  rw [takeDigits, List.takeWhile_append_of_pos hdigits, List.dropWhile_append_of_pos hdigits]
  cases rest with
  | nil => simp
  | cons c rest => simp [hrest c rfl]

/-! ## The digits of a number -/

/-- A positive number has no zero at the head of its digits. -/
theorem head?_toDigits_ne {n : Nat} (hn : 0 < n) : (Nat.toDigits 10 n).head? ≠ some '0' := by
  induction n using Nat.strongRecOn with
  | ind n ih =>
    by_cases h : n < 10
    · have hchar : ∀ d < 10, 0 < d → Nat.digitChar d ≠ '0' := by decide
      rw [Nat.toDigits_of_lt_base h, List.head?_cons]
      exact fun hzero => hchar n h hn (Option.some.inj hzero)
    · rw [Nat.toDigits_of_base_le (by decide) (not_lt.mp h),
        List.head?_append_of_ne_nil _ Nat.toDigits_ne_nil]
      exact ih (n / 10) (by omega) (by omega)

/-- A number has as many digits as it takes to write it. -/
theorem pow_length_toDigits {n : Nat} (hn : 0 < n) :
    10 ^ ((Nat.toDigits 10 n).length - 1) ≤ n ∧ n < 10 ^ (Nat.toDigits 10 n).length := by
  have hlength : 0 < (Nat.toDigits 10 n).length := Nat.length_toDigits_pos
  refine ⟨?_, (Nat.length_toDigits_le_iff (by decide) hlength).mp le_rfl⟩
  by_cases hone : (Nat.toDigits 10 n).length = 1
  · rw [hone]
    exact hn
  · by_contra hlt
    have hle := (Nat.length_toDigits_le_iff (b := 10) (by decide) (by omega)).mpr (not_le.mp hlt)
    omega

/-! ## Decimals -/

namespace Scientific

/-- The number that digits around a point and a power of ten stand for. -/
def value (s : Scientific) : ℚ :=
  digitsValue s.digits * 10 ^ (s.exponent + 1 - s.digits.length)

/-- Digits that are written without a zero before them and after them. -/
structure Significant (s : Scientific) : Prop where
  digits_ne : s.digits ≠ []
  isDigit : ∀ c ∈ s.digits, c.isDigit = true
  head_ne : s.digits.head? ≠ some '0'

/-- What is dropped from the end of the digits of a number is a run of zeros. -/
theorem exists_toDigits_eq (n : Nat) (e : Int) :
    ∃ zeros, Nat.toDigits 10 n = (ofNat n e).digits ++ List.replicate zeros '0' := by
  set digits := Nat.toDigits 10 n with hdigits
  refine ⟨(digits.reverse.takeWhile (· = '0')).length, ?_⟩
  have hzeros : digits.reverse.takeWhile (· = '0') =
      List.replicate (digits.reverse.takeWhile (· = '0')).length '0' :=
    List.eq_replicate_of_mem fun c hc => by simpa using List.mem_takeWhile_imp hc
  rw [ofNat, ← hdigits]
  dsimp only
  rw [← List.reverse_replicate, ← hzeros, ← List.reverse_append, List.takeWhile_append_dropWhile,
    List.reverse_reverse]

/-- The digits of a positive number do not begin with a zero. -/
theorem significant_ofNat {n : Nat} (hn : 0 < n) (e : Int) : (ofNat n e).Significant := by
  obtain ⟨zeros, hdigits⟩ := exists_toDigits_eq n e
  have hhead := head?_toDigits_ne hn
  have hne : (ofNat n e).digits ≠ [] := by
    intro hnil
    rw [hnil, List.nil_append] at hdigits
    rw [hdigits] at hhead
    cases zeros with
    | zero => exact Nat.toDigits_ne_nil hdigits
    | succ zeros => exact hhead rfl
  refine ⟨hne, fun c hc => ?_, ?_⟩
  · have hmem : c ∈ Nat.toDigits 10 n := hdigits ▸ List.mem_append_left _ hc
    exact Nat.isDigit_of_mem_toDigits (by decide) (by decide) hmem
  · rwa [hdigits, List.head?_append_of_ne_nil _ hne] at hhead

/-- A number keeps its value on its scale when the zeros at its end are dropped. -/
theorem value_ofNat (n : Nat) (e : Int) : (ofNat n e).value = n * 10 ^ e := by
  obtain ⟨zeros, hdigits⟩ := exists_toDigits_eq n e
  have hvalue : n = digitsValue (ofNat n e).digits * 10 ^ zeros := by
    rw [← digitsValue_append_zeros, ← hdigits, digitsValue_toDigits]
  have hlength : ((Nat.toDigits 10 n).length : Int) = (ofNat n e).digits.length + zeros := by
    rw [hdigits, List.length_append, List.length_replicate, Nat.cast_add]
  have hexponent : (ofNat n e).exponent + 1 - (ofNat n e).digits.length = zeros + e := by
    have : (ofNat n e).exponent = e + (Nat.toDigits 10 n).length - 1 := rfl
    omega
  rw [value, hexponent, zpow_add₀ (by norm_num), ← mul_assoc]
  congr 1
  conv_rhs => rw [hvalue]
  push_cast
  rfl

end Scientific

end SqlDraft
