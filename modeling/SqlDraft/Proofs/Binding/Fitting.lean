import SqlDraft.Proofs.Results
import SqlDraft.Wire.Binding

/-!
# Values that fit a type

A value is bound to a type just when it fits the type, and a list fits an array if its items fit the
type of the members. Where a value does not fit, the refusal is that of the first thing in it that
does not fit the type which it would be bound to.
-/

namespace SqlDraft

/-! ## Fitting -/

/-- The types that take text: five that every server has, and those of extensions by their names. -/
def SqlType.TakesText (t : SqlType) : Prop :=
  t ∈ [.builtin .varchar, .builtin .text, .builtin .bpchar, .builtin .name, .builtin .unknown] ∨
    t.name ∈ ["citext", "ltree", "lquery", "ltxtquery"]

namespace Value

/-- The values that fit a type. -/
inductive Fits : Value → SqlType → Prop
  | null (t : SqlType) : Fits .null t
  | bool (b : Bool) : Fits (.bool b) (.builtin .bool)
  | boolText (b : Bool) {t : SqlType} (ht : t.TakesText) : Fits (.bool b) t
  | int2 {i : Int64} (hlow : -32768 ≤ i.toInt) (hhigh : i.toInt < 32768) :
      Fits (.int i) (.builtin .int2)
  | int4 {i : Int64} (hlow : -2147483648 ≤ i.toInt) (hhigh : i.toInt < 2147483648) :
      Fits (.int i) (.builtin .int4)
  | int8 (i : Int64) : Fits (.int i) (.builtin .int8)
  | intFloat4 (i : Int64) : Fits (.int i) (.builtin .float4)
  | intFloat8 (i : Int64) : Fits (.int i) (.builtin .float8)
  | intText (i : Int64) {t : SqlType} (ht : t.TakesText) : Fits (.int i) t
  | float4 (x : Binary64) : Fits (.float x) (.builtin .float4)
  | float8 (x : Binary64) : Fits (.float x) (.builtin .float8)
  | floatText (x : Binary64) {t : SqlType} (ht : t.TakesText) : Fits (.float x) t
  | text (s : String) {t : SqlType} (ht : t.TakesText) : Fits (.text s) t
  | list {items : List Value} {t member : SqlType} (ht : t.member? = some member)
      (h : ∀ v ∈ items, Fits v member) : Fits (.list items) t

/-- The value is bound to the type as a whole, and not item by item as a list to an array. -/
def BoundWhole (v : Value) (t : SqlType) : Prop := ∀ items, v = .list items → t.member? = none

/-- What is said of a value that does not fit a type. -/
def misfitMessage : Value → SqlType → String
  | .int i, .builtin .int2 | .int i, .builtin .int4 =>
    if i.toInt < 0 then "number too small to fit in target type"
    else "number too large to fit in target type"
  | v, t => "cannot bind " ++ v.description ++ " to " ++ t.display

end Value

/-- The code knows the types that take text, and no others. -/
theorem SqlType.takesText_iff {t : SqlType} : t.TakesText ↔ t.isText = true := by
  unfold isText
  split
  all_goals simp_all [TakesText, isVersionedText, versionedTextNames]

/-- What the code does not know as a type for text takes none. -/
theorem SqlType.not_takesText {t : SqlType} (h : t.isText = false) : ¬ t.TakesText := by
  rw [takesText_iff, h]
  exact Bool.false_ne_true

namespace Value

/-- A list fits just the arrays whose members all of its items fit. -/
theorem fits_list_iff {items : List Value} {t : SqlType} :
    (Value.list items).Fits t ↔
      ∃ member, t.member? = some member ∧ ∀ v ∈ items, v.Fits member := by
  constructor
  · intro h
    cases h with
    | list ht h => exact ⟨_, ht, h⟩
  · rintro ⟨member, ht, h⟩
    exact .list ht h

/-- Only a list that meets an array is bound item by item. -/
theorem boundWhole_or_list (v : Value) (t : SqlType) :
    v.BoundWhole t ∨ ∃ items member, v = .list items ∧ t.member? = some member := by
  by_cases hv : ∃ items, v = .list items
  · obtain ⟨items, rfl⟩ := hv
    cases ht : t.member? with
    | none => exact .inl fun _ _ => ht
    | some member => exact .inr ⟨items, member, rfl, rfl⟩
  · exact .inl fun items h => absurd ⟨items, h⟩ hv

/-- What was written for a value of a type: something if the value fits, and otherwise nothing but
the refusal of the value itself. -/
def Settles (w : Written Presence) (v : Value) (t : SqlType) : Prop :=
  (v.Fits t ∧ ∃ p, w.result = .ok p) ∨
    (¬ v.Fits t ∧ ∃ fault, w = .refused fault ∧ fault.message = v.misfitMessage t)

/-- A value that fits may be written as any bytes. -/
theorem settles_present {v : Value} {t : SqlType} (h : v.Fits t) (bytes : List UInt8) :
    Settles (.present bytes) v t :=
  .inl ⟨h, .present, rfl⟩

/-- A value that fits only where text is taken is written as its text there, and refused elsewhere.
-/
theorem settles_writeAsText {v : Value} {t : SqlType} (h : v.Fits t ↔ t.TakesText)
    (hmessage : v.misfitMessage t = "cannot bind " ++ v.description ++ " to " ++ t.display) :
    Settles (v.writeAsText t) v t := by
  rw [writeAsText]
  by_cases ht : t.TakesText
  · rw [if_pos (SqlType.takesText_iff.mp ht)]
    exact settles_present (h.mpr ht) _
  · rw [if_neg fun hb => ht (SqlType.takesText_iff.mpr hb)]
    exact .inr ⟨fun hf => ht (h.mp hf), _, rfl, hmessage.symm⟩

/-- A number is out of the range of so many bytes on the side of its sign. -/
theorem settles_writeInt {width : Nat} {i : Int64} {t : SqlType}
    (h : (Value.int i).Fits t ↔
      -(Nat.pow 2 (8 * width - 1) : Int) ≤ i.toInt ∧ i.toInt < (Nat.pow 2 (8 * width - 1) : Nat))
    (hmessage : ¬ (Value.int i).Fits t → (Value.int i).misfitMessage t =
      if i.toInt < 0 then BindFault.tooSmall.message else BindFault.tooLarge.message) :
    Settles (writeInt width i) (.int i) t := by
  rw [writeInt]
  generalize Nat.pow 2 (8 * width - 1) = bound at h
  by_cases hfits : (Value.int i).Fits t
  · have hrange := h.mp hfits
    rw [if_neg (by omega), if_neg (by omega)]
    exact settles_present hfits _
  · refine .inr ⟨hfits, ?_⟩
    rw [hmessage hfits]
    by_cases hsign : i.toInt < 0
    · have hlow : i.toInt < -bound := by
        by_contra hlow
        exact hfits (h.mpr (by omega))
      rw [if_neg (by omega), if_pos hlow]
      exact ⟨_, rfl, (if_pos hsign).symm⟩
    · have hhigh : (bound : Int) ≤ i.toInt := by
        by_contra hhigh
        exact hfits (h.mpr (by omega))
      rw [if_pos hhigh]
      exact ⟨_, rfl, (if_neg hsign).symm⟩

/-- A truth value has a form of its own, and is text besides. -/
theorem settles_write_bool (b : Bool) (t : SqlType) :
    Settles ((Value.bool b).write t) (.bool b) t := by
  unfold write
  split
  · exact settles_present (.bool b) _
  · next ht =>
    refine settles_writeAsText ⟨fun h => ?_, .boolText b⟩ rfl
    cases h with
    | bool => exact absurd rfl ht
    | boolText _ h => exact h

/-- An integer has five forms of its own, two of which do not hold all of them, and is text besides.
-/
theorem settles_write_int (i : Int64) (t : SqlType) :
    Settles ((Value.int i).write t) (.int i) t := by
  unfold write
  split
  · refine settles_writeInt ⟨fun h => ?_, fun h => .int2 h.1 h.2⟩ fun _ => rfl
    cases h with
    | int2 hlow hhigh => exact ⟨hlow, hhigh⟩
    | intText _ h => exact absurd h (SqlType.not_takesText rfl)
  · refine settles_writeInt ⟨fun h => ?_, fun h => .int4 h.1 h.2⟩ fun _ => rfl
    cases h with
    | int4 hlow hhigh => exact ⟨hlow, hhigh⟩
    | intText _ h => exact absurd h (SqlType.not_takesText rfl)
  · exact settles_writeInt (iff_of_true (.int8 i) ⟨i.le_toInt, i.toInt_lt⟩)
      fun h => absurd (.int8 i) h
  · exact settles_present (.intFloat4 i) _
  · exact settles_present (.intFloat8 i) _
  · next h2 h4 h8 hf4 hf8 =>
    refine settles_writeAsText ⟨fun h => ?_, .intText i⟩ ?_
    · cases h with
      | int2 _ _ => exact absurd rfl h2
      | int4 _ _ => exact absurd rfl h4
      | int8 => exact absurd rfl h8
      | intFloat4 => exact absurd rfl hf4
      | intFloat8 => exact absurd rfl hf8
      | intText _ h => exact h
    · unfold misfitMessage
      split
      · exact absurd rfl h2
      · exact absurd rfl h4
      · rfl

/-- A number with a point has two forms of its own, and is text besides. -/
theorem settles_write_float (x : Binary64) (t : SqlType) :
    Settles ((Value.float x).write t) (.float x) t := by
  unfold write
  split
  · exact settles_present (.float4 x) _
  · exact settles_present (.float8 x) _
  · next h4 h8 =>
    refine settles_writeAsText ⟨fun h => ?_, .floatText x⟩ rfl
    cases h with
    | float4 => exact absurd rfl h4
    | float8 => exact absurd rfl h8
    | floatText _ h => exact h

/-- A value that is bound as a whole is written if it fits, and otherwise refused before anything is
written. -/
theorem settles_write {v : Value} {t : SqlType} (hv : v.BoundWhole t) :
    Settles (v.write t) v t := by
  cases v with
  | null => exact .inl ⟨.null t, .null, rfl⟩
  | bool b => exact settles_write_bool b t
  | int i => exact settles_write_int i t
  | float x => exact settles_write_float x t
  | text s =>
    refine settles_writeAsText ⟨fun h => ?_, .text s⟩ rfl
    cases h with
    | text _ h => exact h
  | list items =>
    have ht : t.member? = none := hv items rfl
    rw [write, ht]
    refine .inr ⟨fun h => ?_, _, rfl, rfl⟩
    obtain ⟨member, ht', -⟩ := fits_list_iff.mp h
    rw [ht] at ht'
    cases ht'

/-! ## Lists -/

/-- Items are written one by one until one of them is refused. -/
theorem writeItems_result (member : SqlType) (items : List Value) :
    (writeItems member items).result =
      (items.mapM fun v : Value => (v.write member).result).map fun ps => ps.any (· = .null) := by
  induction items with
  | nil => rfl
  | cons v rest ih =>
    rw [writeItems, List.mapM_cons]
    dsimp only
    rcases (v.write member).result with fault | _ | _
    · rfl
    · dsimp only
      rw [ih]
      cases rest.mapM fun v : Value => (v.write member).result <;> rfl
    · dsimp only
      rw [ih]
      cases rest.mapM fun v : Value => (v.write member).result <;> rfl

/-- An array is refused for the first of its items that is. -/
theorem write_list_result {items : List Value} {t member : SqlType} (ht : t.member? = some member) :
    ((Value.list items).write t).result =
      (items.mapM fun v : Value => (v.write member).result).map fun _ => .present := by
  rw [write, ht]
  dsimp only
  rw [writeItems_result]
  cases items.mapM fun v : Value => (v.write member).result <;> rfl

/-! ## Results -/

/-- What holds of a value if it holds of its items, if it is a list, holds of every value. -/
theorem inductionOnItems {P : Value → Prop}
    (h : ∀ v, (∀ items, v = .list items → ∀ i ∈ items, P i) → P v) (v : Value) : P v := by
  apply h
  intro items hv i hi
  exact inductionOnItems h i
termination_by sizeOf v
decreasing_by
  have hsize := List.sizeOf_lt_of_mem hi
  rw [hv, Value.list.sizeOf_spec]
  omega

/-- Just what fits is written. -/
theorem exists_write_eq_ok_iff {v : Value} {t : SqlType} :
    (∃ p, (v.write t).result = .ok p) ↔ v.Fits t := by
  induction v using inductionOnItems generalizing t with
  | h v ih =>
  rcases boundWhole_or_list v t with hv | ⟨items, member, rfl, ht⟩
  · rcases settles_write hv with ⟨hfits, hok⟩ | ⟨hfits, fault, hw, -⟩
    · exact iff_of_true hok hfits
    · rw [hw]
      exact iff_of_false nofun hfits
  · rw [write_list_result ht, exists_map_eq_ok_iff, exists_mapM_eq_ok_iff, fits_list_iff, ht]
    simp only [Option.some.injEq, exists_eq_left']
    exact forall₂_congr fun v hv => ih items rfl v hv

end Value

end SqlDraft
