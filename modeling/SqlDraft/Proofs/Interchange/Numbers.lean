import SqlDraft.Json.Printer
import SqlDraft.Json.Reader
import SqlDraft.Proofs.Number.Shortest

/-!
# Numbers in JSON texts

A number is read from its parts: a sign, digits before and behind a point, and a power of ten. Every
number that is written has such parts. A whole number has neither point nor power and is read as the
whole number it is; a double always has one of them and is read as that double, with its sign.
-/

namespace SqlDraft.Json

/-- What stands behind a value in a text without blanks: nothing, a comma or a closing mark. -/
def Follows (rest : List Char) : Prop := ∀ c ∈ rest.head?, c = ',' ∨ c = ']' ∨ c = '\x7d'

/-- A value may end the text. -/
theorem follows_nil : Follows [] := nofun

/-- What stands behind a value does not make a number longer. -/
theorem Follows.noDigit {rest : List Char} (h : Follows rest) : NoDigit rest := by
  intro c hc
  rcases h c hc with rfl | rfl | rfl <;> rfl

/-! ## The parts of a number -/

/-- The parts of a number. Without digits behind it there is no point. -/
structure Numeral where
  negative : Bool
  whole : List Char
  fraction : List Char
  scale : Option Int

namespace Numeral

/-- The point and the digits behind it, if there are any. -/
def fractionText : List Char → List Char
  | [] => []
  | fraction => '.' :: fraction

/-- The power of ten behind its mark, always with a sign. -/
def scaleText : Option Int → List Char
  | none => []
  | some e => 'e' :: (if e < 0 then '-' else '+') :: Nat.toDigits 10 e.natAbs

/-- The parts one after the other. -/
def text (n : Numeral) : List Char :=
  (if n.negative then ['-'] else []) ++ (n.whole ++ (fractionText n.fraction ++ scaleText n.scale))

/-- There are digits before the point, of which only a single one may be a zero at their head. -/
structure WellFormed (n : Numeral) : Prop where
  whole_ne : n.whole ≠ []
  isDigit_whole : ∀ c ∈ n.whole, c.isDigit = true
  isDigit_fraction : ∀ c ∈ n.fraction, c.isDigit = true
  length_of_zero : n.whole.head? = some '0' → n.whole.length = 1

/-- What the parts stand for. -/
def value (n : Numeral) : Json :=
  if n.fraction.isEmpty && n.scale.isNone then ofWhole n.negative (digitsValue n.whole)
  else .float (floatOfParts n.negative n.whole n.fraction (n.scale.getD 0))

/-- A power of ten does not make the digits before it longer. -/
theorem noDigit_scaleText (scale : Option Int) {rest : List Char} (hrest : NoDigit rest) :
    NoDigit (scaleText scale ++ rest) := by
  cases scale with
  | none => exact hrest
  | some e =>
    intro c hc
    cases hc
    rfl

/-- A point does not make the digits before it longer. -/
theorem noDigit_fractionText (fraction : List Char) {rest : List Char} (hrest : NoDigit rest) :
    NoDigit (fractionText fraction ++ rest) := by
  cases fraction with
  | nil => exact hrest
  | cons d fraction =>
    intro c hc
    cases hc
    rfl

/-- An exponent is read from its sign and its digits. -/
theorem readExponent?_toDigits (e : Int) {rest : List Char} (hrest : NoDigit rest) :
    readExponent? ((if e < 0 then '-' else '+') :: (Nat.toDigits 10 e.natAbs ++ rest)) =
      some (e, rest) := by
  have htake : takeDigits (Nat.toDigits 10 e.natAbs ++ rest) = (Nat.toDigits 10 e.natAbs, rest) :=
    takeDigits_append_of (fun _ => Nat.isDigit_of_mem_toDigits (by decide) (by decide)) hrest
  have hvalue := digitsValue_toDigits e.natAbs
  cases hdigits : Nat.toDigits 10 e.natAbs with
  | nil => exact absurd hdigits Nat.toDigits_ne_nil
  | cons d digits =>
    rw [hdigits] at htake hvalue
    by_cases he : e < 0
    · simp only [he, ite_true, readExponent?, htake, hvalue]
      congr 2
      omega
    · simp only [he, ite_false, readExponent?, htake, hvalue]
      simp
      omega

/-- A power of ten is read back, whether there is one or not. -/
theorem readScale_scaleText (scale : Option Int) {rest : List Char} (hrest : Follows rest) :
    readScale (scaleText scale ++ rest) = some (scale, rest) := by
  cases scale with
  | none =>
    cases rest with
    | nil => rfl
    | cons c rest => rcases hrest c rfl with rfl | rfl | rfl <;> rfl
  | some e =>
    rw [scaleText, List.cons_append, List.cons_append, readScale,
      readExponent?_toDigits e hrest.noDigit]
    rfl

/-- The digits behind a point are read back, whether there are any or not. -/
theorem readFraction_fractionText {fraction rest : List Char}
    (hfraction : ∀ c ∈ fraction, c.isDigit = true) (hrest : NoDigit rest)
    (hpoint : ∀ c ∈ rest.head?, c ≠ '.') :
    readFraction (fractionText fraction ++ rest) = some (fraction, rest) := by
  cases fraction with
  | nil =>
    cases rest with
    | nil => rfl
    | cons c rest =>
      have hc := hpoint c rfl
      rw [fractionText, List.nil_append, readFraction]
      intro s hs
      cases hs
      exact hc rfl
  | cons d fraction =>
    rw [fractionText, List.cons_append, readFraction, takeDigits_append_of hfraction hrest]
    nofun

/-- A number without digits behind a point has no point. -/
theorem head?_scaleText_ne (scale : Option Int) {rest : List Char} (hrest : Follows rest) :
    ∀ c ∈ (scaleText scale ++ rest).head?, c ≠ '.' := by
  cases scale with
  | none =>
    intro c hc
    rcases hrest c hc with rfl | rfl | rfl <;> decide
  | some e =>
    intro c hc
    cases hc
    decide

/-- Before what follows, the parts of a number stand one after the other. -/
theorem text_append (n : Numeral) (rest : List Char) :
    n.text ++ rest = (if n.negative then ['-'] else []) ++
      (n.whole ++ (fractionText n.fraction ++ (scaleText n.scale ++ rest))) := by
  rw [text, List.append_assoc, List.append_assoc, List.append_assoc]

/-- The sign of a number is told from its first character. -/
theorem eq_of_sign {n : Numeral} (hn : n.WellFormed) {rest : List Char} {negative : Bool}
    {s : List Char}
    (h : (match n.text ++ rest with
      | '-' :: r => (true, r)
      | r => (false, r)) = (negative, s)) :
    negative = n.negative ∧ s = n.whole ++ (fractionText n.fraction ++ (scaleText n.scale ++ rest)) := by
  rw [text_append] at h
  split at h
  · next r htext =>
    cases h
    cases hnegative : n.negative with
    | true =>
      rw [hnegative] at htext
      exact ⟨rfl, (List.cons.inj htext).2.symm⟩
    | false =>
      -- A digit is no sign.
      rw [hnegative] at htext
      cases hwhole : n.whole with
      | nil => exact absurd hwhole hn.whole_ne
      | cons d whole =>
        have hd := hn.isDigit_whole d (hwhole ▸ List.mem_cons_self)
        rw [hwhole] at htext
        cases htext
        cases hd
  · next htext =>
    cases h
    cases hnegative : n.negative with
    | true =>
      rw [hnegative] at htext
      exact absurd rfl (htext _)
    | false => exact ⟨rfl, rfl⟩

/-- A number is read from its parts, whatever follows. -/
theorem readNumber_text {n : Numeral} (hn : n.WellFormed)
    (hfinite : ∀ x, n.value = .float x → x.isFinite = true) {rest : List Char}
    (hrest : Follows rest) : readNumber (n.text ++ rest) = some (n.value, rest) := by
  have hscale := readScale_scaleText n.scale hrest
  have hnodigit := noDigit_scaleText n.scale hrest.noDigit
  have hfraction := readFraction_fractionText hn.isDigit_fraction hnodigit
    (head?_scaleText_ne n.scale hrest)
  have hwhole := takeDigits_append_of hn.isDigit_whole (noDigit_fractionText n.fraction hnodigit)
  have hzero : ¬ (n.whole.isEmpty ||
      (decide (n.whole.head? = some '0') && decide (1 < n.whole.length))) = true := by
    simp only [Bool.or_eq_true, List.isEmpty_iff, Bool.and_eq_true, decide_eq_true_eq]
    rintro (hnil | ⟨hhead, hlt⟩)
    · exact hn.whole_ne hnil
    · exact absurd (hn.length_of_zero hhead) hlt.ne'
  unfold readNumber
  split
  next negative s hsign =>
  obtain ⟨rfl, rfl⟩ := eq_of_sign hn hsign
  dsimp only
  rw [hwhole]
  dsimp only
  rw [hfraction, if_neg hzero]
  simp only [Option.bind_eq_bind, Option.bind_some, hscale]
  rw [← value]
  split
  · next x hx => rw [if_pos (hfinite x hx), hx]
  · rfl

/-- A number begins with its sign or with a digit. -/
theorem exists_text_eq {n : Numeral} (hn : n.WellFormed) :
    ∃ c rest, n.text = c :: rest ∧ (c = '-' ∨ c.isDigit = true) := by
  cases hnegative : n.negative with
  | true => exact ⟨'-', _, by rw [text, hnegative]; rfl, .inl rfl⟩
  | false =>
    cases hwhole : n.whole with
    | nil => exact absurd hwhole hn.whole_ne
    | cons d whole =>
      have hd := hn.isDigit_whole d (hwhole ▸ List.mem_cons_self)
      exact ⟨d, _, by rw [text, hnegative, hwhole]; rfl, .inr hd⟩

/-! ## Whole numbers -/

/-- The parts of a whole number. -/
def ofInt (n : Int) : Numeral := ⟨n < 0, Nat.toDigits 10 n.natAbs, [], none⟩

/-- A whole number is written in its parts. -/
theorem text_ofInt (n : Int) : (Int.repr n).toList = (ofInt n).text := by
  rw [Int.repr_eq_if]
  by_cases hn : n < 0
  · rw [if_neg (by omega), String.toList_append, Nat.repr_eq_ofList_toDigits, String.toList_ofList,
      show (-n).toNat = n.natAbs by omega]
    simp [text, ofInt, hn, fractionText, scaleText]
  · rw [if_pos (by omega), Nat.repr_eq_ofList_toDigits, String.toList_ofList,
      show n.toNat = n.natAbs by omega]
    simp [text, ofInt, hn, fractionText, scaleText]

/-- The digits of a whole number have no zero at their head, unless it is zero itself. -/
theorem wellFormed_ofInt (n : Int) : (ofInt n).WellFormed where
  whole_ne := Nat.toDigits_ne_nil
  isDigit_whole _ := Nat.isDigit_of_mem_toDigits (by decide) (by decide)
  isDigit_fraction := nofun
  length_of_zero hhead := by
    have hn : n.natAbs = 0 := by
      by_contra hne
      exact head?_toDigits_ne (Nat.pos_of_ne_zero hne) hhead
    simp [ofInt, hn]

/-- A whole number of at most 64 bits, with or without sign, is what its parts stand for. -/
theorem value_ofInt {n : Int} (hl : -2 ^ 63 ≤ n) (hu : n < 2 ^ 64) :
    (ofInt n).value = .integer n := by
  have hpow : Nat.pow 2 63 = 2 ^ 63 ∧ Nat.pow 2 64 = 2 ^ 64 := ⟨rfl, rfl⟩
  show ofWhole (decide (n < 0)) (digitsValue (Nat.toDigits 10 n.natAbs)) = _
  rw [digitsValue_toDigits, ofWhole, hpow.1, hpow.2]
  by_cases hn : n < 0
  · rw [if_pos (decide_eq_true hn), if_pos (by omega)]
    exact congrArg Json.integer (by omega)
  · rw [if_neg (by simpa using hn), if_pos (by omega)]
    exact congrArg Json.integer (by omega)

/-! ## Doubles -/

/-- The number that the digits and the power of ten make. -/
def decimal (n : Numeral) : ℚ :=
  digitsValue (n.whole ++ n.fraction) * 10 ^ (n.scale.getD 0 - n.fraction.length)

/-- Parts of a number around a double stand for that double. -/
theorem value_eq_float {n : Numeral} {x : Binary64} (hfinite : x.isFinite = true)
    (hx : 0 < x.magnitude) (hnegative : n.negative = x.isNegative)
    (hlength : n.whole.length ≤ wholeDigitLimit) (hpart : n.fraction ≠ [] ∨ n.scale ≠ none)
    (hdecimal : BinaryFormat.double.Surrounds x.magnitude n.decimal) : n.value = .float x := by
  have hwhole : ¬ (n.fraction.isEmpty && n.scale.isNone) = true := by
    simp only [Bool.and_eq_true, List.isEmpty_iff, Option.isNone_iff_eq_none]
    exact fun h => hpart.elim (· h.1) (· h.2)
  rw [value, if_neg hwhole, floatOfParts, if_pos hlength, Binary64.ofParts, hnegative,
    Binary64.ofDecimal_eq hfinite hx hdecimal]

/-- The parts are those of a decimal with this sign, and not of a whole number. -/
structure Spells (n : Numeral) (negative : Bool) (s : Scientific) : Prop where
  wellFormed : n.WellFormed
  negative_eq : n.negative = negative
  length_le : n.whole.length ≤ wholeDigitLimit
  part_ne : n.fraction ≠ [] ∨ n.scale ≠ none
  decimal_eq : n.decimal = s.value

/-- Zeros are digits. -/
theorem isDigit_zeros (n : Nat) : ∀ c ∈ List.replicate n '0', c.isDigit = true := by
  intro c hc
  rw [List.eq_of_mem_replicate hc]
  rfl

/-- A decimal below one is written with zeros between the point and its digits. -/
theorem spells_small {s : Scientific} (hs : s.Significant) (hexponent : s.exponent < 0)
    (negative : Bool) :
    Spells ⟨negative, ['0'], List.replicate (-s.exponent - 1).toNat '0' ++ s.digits, none⟩
      negative s where
  wellFormed :=
    { whole_ne := nofun
      isDigit_whole := isDigit_zeros 1
      isDigit_fraction := fun c hc => (List.mem_append.mp hc).elim (isDigit_zeros _ c) (hs.isDigit c)
      length_of_zero := fun _ => rfl }
  negative_eq := rfl
  length_le := by
    rw [wholeDigitLimit]
    exact Nat.succ_le_of_lt (by decide)
  part_ne := .inl (List.append_ne_nil_of_right_ne_nil _ hs.digits_ne)
  decimal_eq := by
    have hzeros : ['0'] ++ (List.replicate (-s.exponent - 1).toNat '0' ++ s.digits) =
        List.replicate ((-s.exponent - 1).toNat + 1) '0' ++ s.digits := rfl
    rw [decimal, Scientific.value, hzeros, digitsValue_zeros_append, List.length_append,
      List.length_replicate]
    congr 2
    simp only [Option.getD_none]
    omega

/-- A decimal whose digits all stand before the point is written with zeros up to it and one behind
it. -/
theorem spells_whole {s : Scientific} (hs : s.Significant) (hexponent : 0 ≤ s.exponent)
    (hlimit : s.exponent < 16) (hlength : s.digits.length ≤ s.exponent.toNat + 1)
    (negative : Bool) :
    Spells ⟨negative, s.digits ++ List.replicate (s.exponent.toNat + 1 - s.digits.length) '0',
      ['0'], none⟩ negative s where
  wellFormed :=
    { whole_ne := List.append_ne_nil_of_left_ne_nil hs.digits_ne _
      isDigit_whole := fun c hc => (List.mem_append.mp hc).elim (hs.isDigit c) (isDigit_zeros _ c)
      isDigit_fraction := isDigit_zeros 1
      length_of_zero := fun hhead => by
        rw [List.head?_append_of_ne_nil _ hs.digits_ne] at hhead
        exact absurd hhead hs.head_ne }
  negative_eq := rfl
  length_le := by
    rw [List.length_append, List.length_replicate, wholeDigitLimit]
    omega
  part_ne := .inl nofun
  decimal_eq := by
    have hzeros : s.digits ++ List.replicate (s.exponent.toNat + 1 - s.digits.length) '0' ++ ['0'] =
        s.digits ++ List.replicate (s.exponent.toNat + 1 - s.digits.length + 1) '0' := by
      rw [List.append_assoc, List.replicate_succ']
    rw [decimal, Scientific.value, hzeros, digitsValue_append_zeros, Nat.cast_mul, mul_assoc]
    congr 1
    rw [Nat.cast_pow, ← zpow_natCast, Nat.cast_ofNat, ← zpow_add₀ (by norm_num)]
    congr 1
    simp only [Option.getD_none, List.length_singleton]
    omega

/-- A decimal with digits on both sides of the point. -/
theorem spells_mixed {s : Scientific} (hs : s.Significant) (hexponent : 0 ≤ s.exponent)
    (hlimit : s.exponent < 16) (hlength : s.exponent.toNat + 1 < s.digits.length)
    (negative : Bool) :
    Spells ⟨negative, s.digits.take (s.exponent.toNat + 1), s.digits.drop (s.exponent.toNat + 1),
      none⟩ negative s where
  wellFormed :=
    { whole_ne := by simp [hs.digits_ne]
      isDigit_whole := fun c hc => hs.isDigit c (List.mem_of_mem_take hc)
      isDigit_fraction := fun c hc => hs.isDigit c (List.mem_of_mem_drop hc)
      length_of_zero := fun hhead => by
        rw [List.head?_take, if_neg (by omega)] at hhead
        exact absurd hhead hs.head_ne }
  negative_eq := rfl
  length_le := by
    rw [List.length_take, wholeDigitLimit]
    omega
  part_ne := .inl (by simp; omega)
  decimal_eq := by
    rw [decimal, Scientific.value, List.take_append_drop, List.length_drop]
    congr 2
    simp only [Option.getD_none]
    omega

/-- A decimal with one digit before the point and a power of ten. -/
theorem spells_scaled {s : Scientific} (hs : s.Significant) (negative : Bool) :
    Spells ⟨negative, s.digits.take 1, s.digits.drop 1, some s.exponent⟩ negative s where
  wellFormed :=
    { whole_ne := by simp [hs.digits_ne]
      isDigit_whole := fun c hc => hs.isDigit c (List.mem_of_mem_take hc)
      isDigit_fraction := fun c hc => hs.isDigit c (List.mem_of_mem_drop hc)
      length_of_zero := fun hhead => by
        rw [List.head?_take, if_neg one_ne_zero] at hhead
        exact absurd hhead hs.head_ne }
  negative_eq := rfl
  length_le := (List.length_take_le 1 _).trans (by decide)
  part_ne := .inr nofun
  decimal_eq := by
    have hlength := List.length_pos_iff.mpr hs.digits_ne
    rw [decimal, Scientific.value, List.take_append_drop, List.length_drop]
    congr 2
    simp only [Option.getD_some]
    omega

end Numeral

/-- Digits behind a point have the point before them. -/
theorem Numeral.fractionText_of_ne {fraction : List Char} (h : fraction ≠ []) :
    fractionText fraction = '.' :: fraction := by
  cases fraction with
  | nil => exact absurd rfl h
  | cons d fraction => rfl

/-- Digits around a point are the parts of a number. -/
theorem exists_writePositional {s : Scientific} (hs : s.Significant) (hlimit : s.exponent < 16)
    (negative : Bool) : ∃ n : Numeral, n.Spells negative s ∧
      n.text = (if negative then ['-'] else []) ++ (numberLayout.writePositional s).toList := by
  rw [NumberLayout.writePositional]
  by_cases hexponent : s.exponent < 0
  · have hspells := Numeral.spells_small hs hexponent negative
    refine ⟨_, hspells, ?_⟩
    rw [if_pos hexponent, Numeral.text,
      Numeral.fractionText_of_ne (hspells.part_ne.resolve_right (absurd rfl)), String.toList_append,
      String.toList_ofList]
    simp [Numeral.scaleText]
  · rw [if_neg hexponent]
    by_cases hlength : s.digits.length ≤ s.exponent.toNat + 1
    · refine ⟨_, Numeral.spells_whole hs (not_lt.mp hexponent) hlimit hlength negative, ?_⟩
      simp only [if_pos hlength, Numeral.text, String.toList_append, String.toList_ofList]
      simp [Numeral.fractionText, Numeral.scaleText, numberLayout]
    · have hspells := Numeral.spells_mixed hs (not_lt.mp hexponent) hlimit (not_le.mp hlength) negative
      refine ⟨_, hspells, ?_⟩
      rw [Numeral.text, Numeral.fractionText_of_ne (hspells.part_ne.resolve_right (absurd rfl))]
      simp only [if_neg hlength, String.toList_append, String.toList_ofList]
      simp [Numeral.scaleText]

/-- One digit, the rest after a point and a power of ten are the parts of a number. -/
theorem exists_writeExponent {s : Scientific} (hs : s.Significant) (negative : Bool) :
    ∃ n : Numeral, n.Spells negative s ∧
      n.text = (if negative then ['-'] else []) ++ (numberLayout.writeExponent s).toList := by
  refine ⟨_, Numeral.spells_scaled hs negative, ?_⟩
  have hsign : (if s.exponent < 0 then "-" else if numberLayout.exponentPlus then "+" else "").toList =
      [if s.exponent < 0 then '-' else '+'] := by
    split <;> rfl
  have hfraction : (if (s.digits.drop 1).isEmpty then ""
      else "." ++ String.ofList (s.digits.drop 1)).toList =
      Numeral.fractionText (s.digits.drop 1) := by
    cases s.digits.drop 1 with
    | nil => rfl
    | cons d fraction => simp [Numeral.fractionText]
  simp only [NumberLayout.writeExponent, Numeral.text, Numeral.scaleText, String.toList_append,
    String.toList_ofList, Nat.repr_eq_ofList_toDigits, hsign, hfraction]
  simp

/-- A sign is one character, or none. -/
theorem toList_sign (negative : Bool) :
    (if negative then "-" else "").toList = if negative then ['-'] else [] := by
  cases negative <;> rfl

/-- The digits of a decimal are laid out as the parts of a number. -/
theorem exists_layout {s : Scientific} (hs : s.Significant) (negative : Bool) :
    ∃ n : Numeral, n.Spells negative s ∧ n.text = (if negative then ['-'] else []) ++
      (if numberLayout.positional s.exponent then numberLayout.writePositional s
        else numberLayout.writeExponent s).toList := by
  by_cases hpositional : numberLayout.positional s.exponent = true
  · have hlimit : -5 ≤ s.exponent ∧ s.exponent < 16 := by
      simpa only [numberLayout, Bool.and_eq_true, decide_eq_true_eq] using hpositional
    rw [if_pos hpositional]
    exact exists_writePositional hs hlimit.2 negative
  · rw [if_neg hpositional]
    exact exists_writeExponent hs negative

/-- A finite double is written as the parts of a number that stands for it. -/
theorem exists_writeNumber {x : Binary64} (hfinite : x.isFinite = true) :
    ∃ n : Numeral, n.WellFormed ∧ n.value = .float x ∧ n.text = (numberLayout.write x).toList := by
  rw [numberLayout.write_of_isFinite hfinite, String.toList_append, toList_sign]
  by_cases hzero : x.magnitude = 0
  · refine ⟨⟨x.isNegative, ['0'], ['0'], none⟩,
      ⟨nofun, Numeral.isDigit_zeros 1, Numeral.isDigit_zeros 1, fun _ => rfl⟩, ?_, ?_⟩
    · have hx := x.ofMagnitude_magnitude
      rw [hzero] at hx
      exact congrArg Json.float hx
    · simp only [if_pos hzero]
      rfl
  · have hx := Nat.pos_of_ne_zero hzero
    obtain ⟨hs, hsurrounds⟩ := Binary64.surrounds_shortest hx .toEven
    obtain ⟨n, hn, htext⟩ := exists_layout hs x.isNegative
    refine ⟨n, hn.wellFormed, ?_, ?_⟩
    · exact Numeral.value_eq_float hfinite hx hn.negative_eq hn.length_le hn.part_ne
        (hn.decimal_eq ▸ hsurrounds)
    · simp only [if_neg hzero]
      exact htext

end SqlDraft.Json
