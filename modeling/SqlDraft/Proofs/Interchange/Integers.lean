import Mathlib
import SqlDraft.Proofs.Description.Conditions
import SqlDraft.Proofs.Interchange.Values
import SqlDraft.Proofs.Number.Whole
import SqlDraft.Proofs.Parameters.Leaves

/-!
# Whole numbers in JSON

A whole number of a JSON value that 64 bits hold with its sign is an integer in the value that is
read, with the digits it was written with, however deep it stands in a literal, a condition or a
row. One from `2 ^ 63` on is no integer any more. It is rounded to a double, and is shown as a
multiple of a thousand that rounds to the same double; nothing refuses it.
-/

namespace SqlDraft

/-! ## Parts that hold no others -/

namespace Json

mutual

/-- The parts of a JSON value that hold no others, from left to right. -/
def scalars : Json → List Json
  | .array items => scalarsOfItems items
  | .object members => scalarsOfMembers members
  | j => [j]

/-- The scalars of the items of an array. -/
def scalarsOfItems : List Json → List Json
  | [] => []
  | j :: rest => scalars j ++ scalarsOfItems rest

/-- The scalars of the members of an object. -/
def scalarsOfMembers : List (String × Json) → List Json
  | [] => []
  | (_, j) :: rest => scalars j ++ scalarsOfMembers rest

end

/-- The scalars of an array are those of its items in order. -/
theorem scalarsOfItems_eq_flatMap (items : List Json) :
    scalarsOfItems items = items.flatMap scalars := by
  induction items with
  | nil => rfl
  | cons j rest ih => rw [scalarsOfItems, List.flatMap_cons, ih]

/-- The scalars of an object are those of its members in order. -/
theorem scalarsOfMembers_eq_flatMap (members : List (String × Json)) :
    scalarsOfMembers members = members.flatMap fun member => member.2.scalars := by
  induction members with
  | nil => rfl
  | cons member rest ih => rw [scalarsOfMembers, List.flatMap_cons, ih]

end Json

namespace Value

mutual

/-- The parts of a value that are no lists, from left to right. -/
def scalars : Value → List Value
  | .list items => scalarsOfItems items
  | v => [v]

/-- The scalars of the items of a list. -/
def scalarsOfItems : List Value → List Value
  | [] => []
  | v :: rest => scalars v ++ scalarsOfItems rest

end

/-- The scalars of a list are those of its items in order. -/
theorem scalarsOfItems_eq_flatMap (items : List Value) :
    scalarsOfItems items = items.flatMap scalars := by
  induction items with
  | nil => rfl
  | cons v rest ih => rw [scalarsOfItems, List.flatMap_cons, ih]

/-- A value that is compared item by item has the scalars of its items. -/
theorem flatMap_scalars_items (v : Value) : v.items.flatMap scalars = v.scalars := by
  cases v with
  | list items => rw [items_list, scalars, scalarsOfItems_eq_flatMap]
  | _ => rfl

end Value

/-- An operand has the scalars of its value, whether it is compared as one or item by item. -/
theorem Operand.flatMap_scalars_leaves (operand : Operand) :
    operand.leaves.flatMap Value.scalars = operand.value.scalars := by
  cases operand with
  | literal v => exact List.flatMap_singleton Value.scalars v
  | compare op v =>
    rw [leaves]
    split
    · exact v.flatMap_scalars_items
    · exact List.flatMap_singleton Value.scalars v

/-! ## Scalars are read one by one -/

/-- The scalars of what is read are those of its source, each read by itself. -/
def ReadOneByOne (sources : List Json) (values : List Value) : Prop :=
  List.Forall₂ (fun j v => Value.ofJson j = .ok v) sources values

/-- Parts whose scalars are read one by one make a whole of which this holds. -/
theorem readOneByOne_flatMap {α β : Type} {R : α → β → Prop} {sources : List α} {results : List β}
    {f : α → List Json} {g : β → List Value} (h : List.Forall₂ R sources results)
    (hparts : ∀ a ∈ sources, ∀ b, R a b → ReadOneByOne (f a) (g b)) :
    ReadOneByOne (sources.flatMap f) (results.flatMap g) := by
  have hboth := (List.forall₂_and_left sources results).mpr ⟨hparts, h⟩
  exact List.rel_flatMap (hboth.imp fun a b hab => hab.1 b hab.2) fun _ _ hab => hab

namespace Value

mutual

/-- The scalars of a literal are read one by one. -/
theorem readOneByOne_ofJson : (j : Json) → {v : Value} → ofJson j = .ok v →
    ReadOneByOne j.scalars v.scalars
  | .null, _, h => by cases h; exact .cons rfl .nil
  | .bool _, _, h => by cases h; exact .cons rfl .nil
  | .integer n, _, h => by
    cases h
    have hscalars : (ofWhole n).scalars = [ofWhole n] := by
      rw [ofWhole]
      split <;> rfl
    rw [hscalars]
    exact .cons rfl .nil
  | .float _, _, h => by cases h; exact .cons rfl .nil
  | .string _, _, h => by cases h; exact .cons rfl .nil
  | .array items, _, h => by
    obtain ⟨vs, hvs, rfl⟩ := map_eq_ok_iff.mp h
    exact readOneByOne_ofJsonItems items hvs
  | .object _, _, h => by cases h

/-- The scalars of the items of a list are read one by one. -/
theorem readOneByOne_ofJsonItems : (items : List Json) → {vs : List Value} →
    ofJsonItems items = .ok vs → ReadOneByOne (Json.scalarsOfItems items) (scalarsOfItems vs)
  | [], _, h => by cases h; exact .nil
  | j :: rest, _, h => by
    obtain ⟨v, hv, h⟩ := bind_eq_ok_iff.mp h
    obtain ⟨vs, hvs, h⟩ := bind_eq_ok_iff.mp h
    cases h
    exact List.rel_append (readOneByOne_ofJson j hv) (readOneByOne_ofJsonItems rest hvs)

end

end Value

/-- The scalars of an operand are read one by one, with or without an operator. -/
theorem Operand.DescribedBy.readOneByOne {j : Json} {operand : Operand} (h : operand.DescribedBy j) :
    ReadOneByOne j.scalars (operand.leaves.flatMap Value.scalars) := by
  rw [operand.flatMap_scalars_leaves]
  cases h with
  | literal _ hv => exact Value.readOneByOne_ofJson j hv
  | compare _ hv =>
    rw [Json.scalars, Json.scalarsOfMembers_eq_flatMap, List.flatMap_singleton]
    exact Value.readOneByOne_ofJson _ hv

/-- The leaves of conditions are those of each of them in order. -/
theorem Condition.leavesOfAll_eq_flatMap (cs : List Condition) :
    leavesOfAll cs = cs.flatMap leaves := by
  induction cs with
  | nil => rfl
  | cons c rest ih => rw [leavesOfAll, List.flatMap_cons, ih]

/-- The scalars of a condition are read one by one, however deep its groups nest. -/
theorem Condition.readOneByOne {j : Json} (hkeys : j.DistinctKeys) {c : Condition}
    (h : ofJson j = .ok c) : ReadOneByOne j.scalars (c.leaves.flatMap Value.scalars) := by
  replace h := (ofJson_eq_ok_iff hkeys).mp h
  clear hkeys
  induction j using Json.inductionOnParts generalizing c with
  | h j ih =>
  have hgroup {key : String} {items : List Json} {children : List Condition}
      (hj : j = .object [(key, .array items)]) (h : List.Forall₂ DescribedBy items children) :
      ReadOneByOne j.scalars ((leavesOfAll children).flatMap Value.scalars) := by
    rw [leavesOfAll_eq_flatMap, List.flatMap_assoc, hj, Json.scalars,
      Json.scalarsOfMembers_eq_flatMap, List.flatMap_singleton, Json.scalars,
      Json.scalarsOfItems_eq_flatMap]
    exact readOneByOne_flatMap h fun i hi c hc => ih key items hj i hi hc
  cases h with
  | or h => exact hgroup rfl h
  | and h => exact hgroup rfl h
  | term h =>
    rw [leaves, Term.leaves, Keyed.values, List.flatMap_map, List.flatMap_assoc, Json.scalars,
      Json.scalarsOfMembers_eq_flatMap]
    exact readOneByOne_flatMap h fun _ _ _ hentry => hentry.2.2.readOneByOne

namespace Row

/-- The members of a row are read one by one, each for the column of its key. -/
theorem ofMembers_eq_ok {members : List (String × Json)} {entries : List (String × Value)}
    (h : ofMembers members = .ok entries) :
    List.Forall₂ (fun member entry => member.1 = entry.1 ∧ Value.ofJson member.2 = .ok entry.2)
      members entries := by
  induction members generalizing entries with
  | nil =>
    cases h
    exact .nil
  | cons member rest ih =>
    obtain ⟨v, hv, h⟩ := bind_eq_ok_iff.mp h
    obtain ⟨others, hothers, h⟩ := bind_eq_ok_iff.mp h
    cases h
    exact .cons ⟨rfl, hv⟩ (ih hothers)

/-- The scalars of a row are read one by one. -/
theorem readOneByOne {j : Json} (hkeys : j.DistinctKeys) {r : Row} (h : ofJson j = .ok r) :
    ReadOneByOne j.scalars (r.values.flatMap Value.scalars) := by
  cases j with
  | object members =>
    obtain ⟨entries, hentries, rfl⟩ := map_eq_ok_iff.mp h
    have hread := ofMembers_eq_ok hentries
    have hcolumns : members.map Prod.fst = entries.map Prod.fst :=
      map_eq_map_of_forall₂ (fun _ _ hentry => hentry.1) hread
    have hwritten : (Keyed.ofList entries).entries = entries :=
      Keyed.entries_insertAll_of_nodup .empty
        (hcolumns ▸ (Json.distinctKeys_object_iff.mp hkeys).1)
    rw [Keyed.values, hwritten, List.flatMap_map, Json.scalars, Json.scalarsOfMembers_eq_flatMap]
    exact readOneByOne_flatMap hread fun member _ _ hentry =>
      Value.readOneByOne_ofJson member.2 hentry.2
  | _ => cases h

end Row

/-! ## What becomes of a whole number -/

namespace Value

/-- What a whole number is read as. It is shown with its own digits if it is an integer, or else if
it is the shortest decimal of the double that it is rounded to. The digits of this double are those
of a multiple of a thousand. -/
structure Keeps (n : Int) (v : Value) : Prop where
  plainText_eq_iff : -2 ^ 63 ≤ n → n < 2 ^ 64 →
    (v.plainText = Int.repr n ↔
      n < 2 ^ 63 ∨ ((Binary64.ofInt n).shortest plainLayout.tie).value = n)
  rounded : 2 ^ 63 ≤ n → n < 2 ^ 64 → v = .float (.ofInt n) ∧
    ∃ shown : Int, v.plainText = Int.repr shown ∧ 1000 ∣ shown ∧
      Binary64.ofInt shown = Binary64.ofInt n

/-- A whole number that is an integer keeps its digits. -/
theorem plainText_ofWhole {n : Int} (hl : -2 ^ 63 ≤ n) (hu : n < 2 ^ 63) :
    (ofWhole n).plainText = Int.repr n := by
  rw [ofWhole, if_pos (fitsInt_iff.mpr ⟨hl, hu⟩), plainText, Int64.toInt_ofInt_of_le hl hu]

/-- A whole number that is too great to be an integer is read as a double, which is shown by the
digits of its shortest decimal. -/
theorem ofWhole_rounded {n : Int} (hl : 2 ^ 63 ≤ n) (hu : n < 2 ^ 64) :
    ofWhole n = .float (.ofInt n) ∧
      ∃ shown : Int, (ofWhole n).plainText = Int.repr shown ∧
        ((Binary64.ofInt n).shortest plainLayout.tie).value = shown ∧ 1000 ∣ shown ∧
        Binary64.ofInt shown = Binary64.ofInt n := by
  have hfits : ¬ fitsInt n = true := fun h => absurd (fitsInt_iff.mp h).2 (by omega)
  obtain ⟨m, rfl⟩ := Int.eq_ofNat_of_zero_le (by omega : 0 ≤ n)
  obtain ⟨hfinite, hnegative, hexponent⟩ := Binary64.ofInt_spec (n := m) (by omega) (by omega)
  obtain ⟨shown, htext, hvalue, hthousand, hdouble⟩ := Binary64.exists_write_eq hfinite hnegative
    hexponent (l := plainLayout) (fun _ => rfl) rfl
  rw [ofWhole, if_neg hfits]
  exact ⟨rfl, shown, htext, hvalue, Int.natCast_dvd_natCast.mpr hthousand, hdouble⟩

/-- A whole number becomes what it is read as. -/
theorem keeps_ofWhole (n : Int) : Keeps n (ofWhole n) where
  plainText_eq_iff hl hu := by
    by_cases hinteger : n < 2 ^ 63
    · exact iff_of_true (plainText_ofWhole hl hinteger) (.inl hinteger)
    · obtain ⟨-, shown, htext, hvalue, -⟩ := ofWhole_rounded (not_lt.mp hinteger) hu
      rw [or_iff_right hinteger, htext, hvalue, Int.repr_inj, Int.cast_inj]
  rounded hl hu := by
    obtain ⟨hfloat, shown, htext, -, hthousand, hdouble⟩ := ofWhole_rounded hl hu
    exact ⟨hfloat, shown, htext, hthousand, hdouble⟩

/-- A scalar is read, and a whole number becomes what it is read as. -/
def KeepsScalar (j : Json) (v : Value) : Prop :=
  ofJson j = .ok v ∧ ∀ n, j = .integer n → Keeps n v

/-- Scalars that are read one by one become what each of them is read as. -/
theorem forall₂_keepsScalar {sources : List Json} {values : List Value}
    (h : ReadOneByOne sources values) : List.Forall₂ KeepsScalar sources values := by
  refine h.imp fun j v hv => ⟨hv, ?_⟩
  rintro n rfl
  cases hv
  exact keeps_ofWhole n

/-- No whole number is refused, and in a literal, in a condition or in a row it becomes the scalar
at its place: an integer with its digits as long as there is one, and from `2 ^ 63` on a double. -/
theorem keeps_scalars (j : Json) :
    (∀ n, j = .integer n → ∃ v, ofJson j = .ok v) ∧
    (∀ v, ofJson j = .ok v → List.Forall₂ KeepsScalar j.scalars v.scalars) ∧
    (∀ c, j.DistinctKeys → Condition.ofJson j = .ok c →
      List.Forall₂ KeepsScalar j.scalars (c.leaves.flatMap scalars)) ∧
    ∀ r, j.DistinctKeys → Row.ofJson j = .ok r →
      List.Forall₂ KeepsScalar j.scalars (r.values.flatMap scalars) := by
  refine ⟨?_, fun v h => forall₂_keepsScalar (readOneByOne_ofJson j h),
    fun c hkeys h => forall₂_keepsScalar (Condition.readOneByOne hkeys h),
    fun r hkeys h => forall₂_keepsScalar (Row.readOneByOne hkeys h)⟩
  rintro n rfl
  exact ⟨ofWhole n, rfl⟩

/-- A description of a list in which the greatest integer stands beside a number that is too great
to be one. -/
def largeNumbers : Json :=
  .object [("id", .object [("$in", .array [.integer (2 ^ 63 - 1), .integer (2 ^ 63 + 1)])])]

/-- The condition that is described. -/
def ofLargeNumbers : Condition :=
  .term ((∅ : Term).compare "id" .isIn
    (.list [.int Int64.maxValue, .float (.ofInt (2 ^ 63 + 1))]))

/-- The list is read, with the greatest integer as it is and the other number as a double. -/
theorem keeps_scalars_largeNumbers :
    largeNumbers.DistinctKeys ∧ Condition.ofJson largeNumbers = .ok ofLargeNumbers ∧
      List.Forall₂ KeepsScalar [.integer (2 ^ 63 - 1), .integer (2 ^ 63 + 1)]
        [.int Int64.maxValue, .float (.ofInt (2 ^ 63 + 1))] := by
  have hkeys : largeNumbers.DistinctKeys := by simp [largeNumbers]
  have hread : Condition.ofJson largeNumbers = .ok ofLargeNumbers := rfl
  exact ⟨hkeys, hread, (keeps_scalars largeNumbers).2.2.1 ofLargeNumbers hkeys hread⟩

/-- A whole number that a text holds can be read as a value with other digits. -/
theorem changes_large_number :
    Json.read? "9223372036854775809" = some (.integer (2 ^ 63 + 1)) ∧
      (ofJson (.integer (2 ^ 63 + 1))).map plainText = .ok "9223372036854776000" ∧
      ¬ ∀ n : Int, -2 ^ 63 ≤ n → n < 2 ^ 64 →
        ∀ v, ofJson (.integer n) = .ok v → v.plainText = Int.repr n := by
  have hread : Json.read? "9223372036854775809" = some (.integer (2 ^ 63 + 1)) := by rfl
  have hchanged : (ofWhole (2 ^ 63 + 1)).plainText = "9223372036854776000" := by rfl
  refine ⟨hread, congrArg Except.ok hchanged, fun h => ?_⟩
  have hkept := h (2 ^ 63 + 1) (by decide) (by decide) _ rfl
  rw [hchanged] at hkept
  exact absurd hkept (by decide)

end Value

end SqlDraft
