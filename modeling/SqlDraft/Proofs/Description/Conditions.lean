import SqlDraft.Proofs.Description.Keys
import SqlDraft.Proofs.Description.Terms

/-!
# Descriptions of conditions

A condition is described by a group of descriptions or by the columns of a term. What describes no
condition is refused: with the symbol of an operator if the first thing in it that describes nothing
is a comparison by an operator that there is not, and as an invalid condition otherwise.
-/

namespace SqlDraft

/-! ## What describes a condition -/

namespace Condition

/-- What describes a condition: the only key of a group with descriptions of its parts, or the
columns of a term in their order. -/
inductive DescribedBy : Json → Condition → Prop
  | or {items : List Json} {children : List Condition}
      (h : List.Forall₂ DescribedBy items children) :
      DescribedBy (.object [("$or", .array items)]) (.or children)
  | and {items : List Json} {children : List Condition}
      (h : List.Forall₂ DescribedBy items children) :
      DescribedBy (.object [("$and", .array items)]) (.and children)
  | term {members : List (String × Json)} {t : Term}
      (h : List.Forall₂ Describes members t.entries) : DescribedBy (.object members) (.term t)

/-- The first thing that describes nothing is a comparison of a literal by an operator that there is
not, whose symbol is given. -/
inductive FirstUnknown : Json → String → Prop
  | member {before after : List (String × Json)} {column symbol : String} {operand : Json}
      (hbefore : ∀ member ∈ before, ∃ entry, Describes member entry)
      (hcolumn : ¬ IsGroupKey column) (hoperand : operand.Literal)
      (hsymbol : ∀ op : Operator, op.symbol ≠ symbol) :
      FirstUnknown (.object (before ++ (column, .object [(symbol, operand)]) :: after)) symbol
  | item {key symbol : String} {before after : List Json} {j : Json} (hkey : IsGroupKey key)
      (hbefore : ∀ i ∈ before, ∃ c, DescribedBy i c) (hj : FirstUnknown j symbol) :
      FirstUnknown (.object [(key, .array (before ++ j :: after))]) symbol

/-! ## Objects -/

/-- Conditions are read one by one until one of them is refused. -/
theorem ofJsonItems_eq_mapM (items : List Json) : ofJsonItems items = items.mapM ofJson := by
  induction items with
  | nil => rfl
  | cons j rest ih => rw [ofJsonItems, List.mapM_cons, ih]

/-- There are two groups, each with a key of its own. -/
theorem group?_eq_some_iff {key : String} {group : List Condition → Condition} :
    group? key = some group ↔ (key = "$or" ∧ group = .or) ∨ (key = "$and" ∧ group = .and) := by
  rw [group?]
  by_cases hor : key = "$or"
  · simp [hor, eq_comm]
  · by_cases hand : key = "$and" <;> simp [hor, hand, eq_comm]

/-- An object is a group with an array of parts, a group with something else, or a term. -/
theorem ofJson_object_cases (members : List (String × Json)) :
    (∃ key items group, members = [(key, .array items)] ∧ group? key = some group ∧
      ofJson (.object members) = (items.mapM ofJson).map group) ∨
    (∃ key j fault, members = [(key, j)] ∧ IsGroupKey key ∧ (∀ items, j ≠ .array items) ∧
      ofJson (.object members) = .error (.invalidCondition fault)) ∨
    ((∀ key j, members = [(key, j)] → ¬ IsGroupKey key) ∧
      ofJson (.object members) = (termOfMembers ∅ members).map .term) := by
  match members with
  | [] => exact .inr (.inr ⟨nofun, rfl⟩)
  | member :: second :: rest => exact .inr (.inr ⟨nofun, rfl⟩)
  | [(key, j)] =>
    rw [ofJson]
    cases hgroup : group? key with
    | none =>
      refine .inr (.inr ⟨fun key' j' h hkey => ?_, rfl⟩)
      cases h
      have hsome := isSome_group?_iff.mpr hkey
      rw [hgroup] at hsome
      cases hsome
    | some group =>
      have hkey : IsGroupKey key := isSome_group?_iff.mp (hgroup ▸ rfl)
      cases j with
      | array items =>
        refine .inl ⟨key, items, group, rfl, hgroup, ?_⟩
        rw [← ofJsonItems_eq_mapM]
      | null => exact .inr (.inl ⟨key, _, _, rfl, hkey, nofun, rfl⟩)
      | bool b => exact .inr (.inl ⟨key, _, _, rfl, hkey, nofun, rfl⟩)
      | integer n => exact .inr (.inl ⟨key, _, _, rfl, hkey, nofun, rfl⟩)
      | float x => exact .inr (.inl ⟨key, _, _, rfl, hkey, nofun, rfl⟩)
      | string s => exact .inr (.inl ⟨key, _, _, rfl, hkey, nofun, rfl⟩)
      | object others => exact .inr (.inl ⟨key, _, _, rfl, hkey, nofun, rfl⟩)

end Condition

/-- What holds of a JSON value if it holds of the parts of the group that this is, if it is one,
holds of every JSON value. -/
theorem Json.inductionOnParts {P : Json → Prop}
    (h : ∀ j, (∀ key items, j = .object [(key, .array items)] → ∀ i ∈ items, P i) → P j)
    (j : Json) : P j := by
  apply h
  intro key items hj i hi
  exact Json.inductionOnParts h i
termination_by sizeOf j
decreasing_by
  have hsize := List.sizeOf_lt_of_mem hi
  rw [hj]
  simp only [Json.object.sizeOf_spec, Json.array.sizeOf_spec, List.cons.sizeOf_spec,
    Prod.mk.sizeOf_spec]
  omega

namespace Condition

/-- A group is described by the descriptions of its parts, in their order. -/
theorem describedBy_of_group {key : String} {group : List Condition → Condition}
    (hgroup : group? key = some group) {items : List Json} {c : Condition} :
    DescribedBy (.object [(key, .array items)]) c ↔
      ∃ children, List.Forall₂ DescribedBy items children ∧ group children = c := by
  have hkey : IsGroupKey key := isSome_group?_iff.mp (hgroup ▸ rfl)
  constructor
  · intro h
    cases h with
    | or h =>
      cases hgroup
      exact ⟨_, h, rfl⟩
    | and h =>
      cases hgroup
      exact ⟨_, h, rfl⟩
    | term h =>
      obtain ⟨_, _, hmember, _, _⟩ := List.forall₂_cons_left_iff.mp h
      exact absurd hkey hmember.1
  · rintro ⟨children, h, rfl⟩
    rcases group?_eq_some_iff.mp hgroup with ⟨rfl, rfl⟩ | ⟨rfl, rfl⟩
    · exact .or h
    · exact .and h

/-- The key of a group describes no comparison. -/
theorem forall₂_describes_of_isGroupKey {key : String} (hkey : IsGroupKey key) {j : Json}
    {entries : List (String × Operand)} : ¬ List.Forall₂ Describes [(key, j)] entries := by
  intro h
  obtain ⟨_, _, hmember, _, _⟩ := List.forall₂_cons_left_iff.mp h
  exact hmember.1 hkey

/-- The parts of a group have different keys if the group has. -/
theorem distinctKeys_of_mem {key : String} {items : List Json}
    (h : (Json.object [(key, .array items)]).DistinctKeys) : ∀ i ∈ items, i.DistinctKeys := by
  have hmembers := (Json.distinctKeys_object_iff.mp h).2
  exact Json.distinctKeys_array_iff.mp (hmembers (key, .array items) List.mem_cons_self)

/-- Items are read just if each of them describes a condition. -/
theorem mapM_ofJson_eq_ok_iff {items : List Json} {cs : List Condition}
    (h : ∀ i ∈ items, ∀ c, ofJson i = .ok c ↔ DescribedBy i c) :
    items.mapM ofJson = .ok cs ↔ List.Forall₂ DescribedBy items cs :=
  mapM_eq_ok_iff.trans (forall₂_congr_of_mem h)

/-- Items are refused with the error of the first that describes no condition. -/
theorem mapM_ofJson_eq_error_iff {items : List Json} {e : Error}
    (h : ∀ i ∈ items, ∀ c, ofJson i = .ok c ↔ DescribedBy i c) :
    items.mapM ofJson = .error e ↔
      ∃ before i after, items = before ++ i :: after ∧
        (∀ b ∈ before, ∃ c, DescribedBy b c) ∧ ofJson i = .error e := by
  rw [mapM_eq_error_iff]
  constructor
  · rintro ⟨before, i, after, rfl, hbefore, hi⟩
    refine ⟨before, i, after, rfl, fun b hb => ?_, hi⟩
    obtain ⟨c, hc⟩ := hbefore b hb
    exact ⟨c, (h b (List.mem_append_left _ hb) c).mp hc⟩
  · rintro ⟨before, i, after, rfl, hbefore, hi⟩
    refine ⟨before, i, after, rfl, fun b hb => ?_, hi⟩
    obtain ⟨c, hc⟩ := hbefore b hb
    exact ⟨c, (h b (List.mem_append_left _ hb) c).mpr hc⟩

/-- Just what is described is read. -/
theorem ofJson_eq_ok_iff {j : Json} (hkeys : j.DistinctKeys) {c : Condition} :
    ofJson j = .ok c ↔ DescribedBy j c := by
  induction j using Json.inductionOnParts generalizing c with
  | h j ih =>
  cases j with
  | object members =>
    rcases ofJson_object_cases members with ⟨key, items, group, rfl, hgroup, hread⟩ |
      ⟨key, j, fault, rfl, hkey, hj, hread⟩ | ⟨hmembers, hread⟩
    · have hparts := distinctKeys_of_mem hkeys
      rw [hread, map_eq_ok_iff, describedBy_of_group hgroup]
      simp only [mapM_ofJson_eq_ok_iff fun i hi c => ih key items rfl i hi (hparts i hi)]
    · rw [hread]
      refine iff_of_false nofun fun h => ?_
      cases h with
      | or _ => exact hj _ rfl
      | and _ => exact hj _ rfl
      | term h => exact forall₂_describes_of_isGroupKey hkey h
    · rw [hread, map_eq_ok_iff]
      simp only [termOfMembers_eq_ok_iff (Json.distinctKeys_object_iff.mp hkeys).1]
      constructor
      · rintro ⟨t, ht, rfl⟩
        exact .term ht
      · intro h
        cases h with
        | or _ => exact absurd (.inl rfl) (hmembers _ _ rfl)
        | and _ => exact absurd (.inr rfl) (hmembers _ _ rfl)
        | term h => exact ⟨_, h, rfl⟩
  | _ =>
    refine iff_of_false (fun h => ?_) nofun
    cases h

/-! ## Refusals -/

/-- In an object the first unknown operator is that of a column, or it is in a part of a group. -/
theorem firstUnknown_object_iff {members : List (String × Json)} {symbol : String} :
    FirstUnknown (.object members) symbol ↔
      (∃ before member after, members = before ++ member :: after ∧
        (∀ b ∈ before, ∃ entry, Describes b entry) ∧ ¬ IsGroupKey member.1 ∧
        ∃ operand, member.2 = .object [(symbol, operand)] ∧ operand.Literal ∧
          ∀ op : Operator, op.symbol ≠ symbol) ∨
      ∃ key before i after, members = [(key, .array (before ++ i :: after))] ∧ IsGroupKey key ∧
        (∀ b ∈ before, ∃ c, DescribedBy b c) ∧ FirstUnknown i symbol := by
  constructor
  · intro h
    generalize hj : Json.object members = j at h
    cases h with
    | member hbefore hcolumn hoperand hsymbol =>
      cases hj
      exact .inl ⟨_, _, _, rfl, hbefore, hcolumn, _, rfl, hoperand, hsymbol⟩
    | item hkey hbefore hi =>
      cases hj
      exact .inr ⟨_, _, _, _, rfl, hkey, hbefore, hi⟩
  · rintro (⟨before, ⟨column, _⟩, after, rfl, hbefore, hcolumn, operand, rfl, hoperand, hsymbol⟩ |
      ⟨key, before, i, after, rfl, hkey, hbefore, hi⟩)
    · exact .member hbefore hcolumn hoperand hsymbol
    · exact .item hkey hbefore hi

/-- A group key that stands alone is no column, so an unknown operator is in a part of the group. -/
theorem firstUnknown_group_iff {key symbol : String} (hkey : IsGroupKey key) {j : Json} :
    FirstUnknown (.object [(key, j)]) symbol ↔
      ∃ before i after, j = .array (before ++ i :: after) ∧
        (∀ b ∈ before, ∃ c, DescribedBy b c) ∧ FirstUnknown i symbol := by
  rw [firstUnknown_object_iff]
  constructor
  · rintro (⟨before, member, after, hmembers, _, hcolumn, _⟩ | ⟨_, before, i, after, h, _, hrest⟩)
    · -- A list of one member has nothing before or after it.
      have hmem : member ∈ [(key, j)] := hmembers ▸ List.mem_append_right _ List.mem_cons_self
      rw [List.mem_singleton.mp hmem] at hcolumn
      exact absurd hkey hcolumn
    · cases h
      exact ⟨before, i, after, rfl, hrest⟩
  · rintro ⟨before, i, after, rfl, hrest⟩
    exact .inr ⟨key, before, i, after, rfl, hkey, hrest⟩

/-- A term is refused for a symbol just if its first member that describes nothing names the
symbol. -/
theorem termOfMembers_eq_unsupported_iff {members : List (String × Json)} {symbol : String}
    (hmembers : ∀ key j, members = [(key, j)] → ¬ IsGroupKey key) :
    termOfMembers ∅ members = .error (.unsupportedOperator symbol) ↔
      FirstUnknown (.object members) symbol := by
  rw [termOfMembers_eq, map_eq_error_iff, mapM_eq_error_iff, firstUnknown_object_iff]
  simp only [entryOfMember_eq_ok_iff, entryOfMember_eq_unsupported_iff]
  constructor
  · exact .inl
  · rintro (h | ⟨key, before, i, after, h, hkey, -⟩)
    · exact h
    · exact absurd hkey (hmembers key _ h)

/-- A reading fails with the symbol of an operator just where this is the first thing that describes
nothing. -/
theorem ofJson_eq_unsupported_iff {j : Json} (hkeys : j.DistinctKeys) {symbol : String} :
    ofJson j = .error (.unsupportedOperator symbol) ↔ FirstUnknown j symbol := by
  induction j using Json.inductionOnParts with
  | h j ih =>
  cases j with
  | object members =>
    rcases ofJson_object_cases members with ⟨key, items, group, rfl, hgroup, hread⟩ |
      ⟨key, j, fault, rfl, hkey, hj, hread⟩ | ⟨hmembers, hread⟩
    · have hparts := distinctKeys_of_mem hkeys
      have hkey : IsGroupKey key := isSome_group?_iff.mp (hgroup ▸ rfl)
      rw [hread, map_eq_error_iff, firstUnknown_group_iff hkey,
        mapM_ofJson_eq_error_iff fun i hi c => ofJson_eq_ok_iff (hparts i hi)]
      constructor
      · rintro ⟨before, i, after, rfl, hbefore, hi⟩
        have hmem : i ∈ before ++ i :: after := List.mem_append_right _ List.mem_cons_self
        exact ⟨before, i, after, rfl, hbefore, (ih key _ rfl i hmem (hparts i hmem)).mp hi⟩
      · rintro ⟨before, i, after, h, hbefore, hi⟩
        cases h
        have hmem : i ∈ before ++ i :: after := List.mem_append_right _ List.mem_cons_self
        exact ⟨before, i, after, rfl, hbefore, (ih key _ rfl i hmem (hparts i hmem)).mpr hi⟩
    · rw [hread, firstUnknown_group_iff hkey]
      refine iff_of_false nofun ?_
      rintro ⟨before, i, after, h, -⟩
      exact hj _ h
    · rw [hread, map_eq_error_iff]
      exact termOfMembers_eq_unsupported_iff hmembers
  | _ =>
    refine iff_of_false (fun h => ?_) nofun
    cases h

/-- A condition is refused only with errors of descriptions. -/
theorem ofDescription_of_ofJson {j : Json} {e : Error} (h : ofJson j = .error e) :
    e.OfDescription := by
  induction j using Json.inductionOnParts with
  | h j ih =>
  cases j with
  | object members =>
    rcases ofJson_object_cases members with ⟨key, items, group, rfl, -, hread⟩ |
      ⟨key, j, fault, rfl, -, -, hread⟩ | ⟨-, hread⟩
    · rw [hread, map_eq_error_iff, mapM_eq_error_iff] at h
      obtain ⟨before, i, after, rfl, -, hi⟩ := h
      exact ih key _ rfl i (List.mem_append_right _ List.mem_cons_self) hi
    · rw [hread] at h
      cases h
      trivial
    · rw [hread, map_eq_error_iff, termOfMembers_eq, map_eq_error_iff, mapM_eq_error_iff] at h
      obtain ⟨before, member, after, -, -, hmember⟩ := h
      exact ofDescription_of_entryOfMember hmember
  | _ =>
    cases h
    trivial

/-! ## Readings -/

/-- A JSON value whose objects have different keys is read as the condition that it describes. If it
describes none, the error names the unknown operator that is the first thing which describes
nothing, and where the first such thing is another the description is invalid. An array is read item
by item, and fails as its first item that describes nothing; any other value is one description. -/
theorem ofJson_describedBy (j : Json) (hkeys : j.DistinctKeys) :
    (∀ c, ofJson j = .ok c ↔ DescribedBy j c) ∧
    (∀ symbol, ofJson j = .error (.unsupportedOperator symbol) ↔ FirstUnknown j symbol) ∧
    ((∀ c, ¬ DescribedBy j c) → (∀ symbol, ¬ FirstUnknown j symbol) →
      ∃ fault, ofJson j = .error (.invalidCondition fault)) ∧
    (∀ items, j = .array items →
      (∀ cs, listOfJson j = .ok cs ↔ List.Forall₂ DescribedBy items cs) ∧
      ∀ e, listOfJson j = .error e ↔
        ∃ before i after, items = before ++ i :: after ∧
          (∀ b ∈ before, ∃ c, DescribedBy b c) ∧ ofJson i = .error e) ∧
    ((∀ items, j ≠ .array items) → listOfJson j = (ofJson j).map fun c => [c]) := by
  refine ⟨fun c => ofJson_eq_ok_iff hkeys, fun symbol => ofJson_eq_unsupported_iff hkeys,
    ?_, ?_, ?_⟩
  · intro hnone hunknown
    cases hread : ofJson j with
    | ok c => exact absurd ((ofJson_eq_ok_iff hkeys).mp hread) (hnone c)
    | error e =>
      have he := ofDescription_of_ofJson hread
      cases e with
      | unsupportedOperator symbol =>
        exact absurd ((ofJson_eq_unsupported_iff hkeys).mp hread) (hunknown symbol)
      | invalidCondition fault => exact ⟨fault, rfl⟩
      | invalidStatement _ => exact he.elim
      | malformedInsertRows _ _ _ => exact he.elim
      | query _ => exact he.elim
  · rintro items rfl
    have hparts := Json.distinctKeys_array_iff.mp hkeys
    have hread : ∀ i ∈ items, ∀ c, ofJson i = .ok c ↔ DescribedBy i c := fun i hi c =>
      ofJson_eq_ok_iff (hparts i hi)
    rw [listOfJson, ofJsonItems_eq_mapM]
    exact ⟨fun cs => mapM_ofJson_eq_ok_iff hread, fun e => mapM_ofJson_eq_error_iff hread⟩
  · intro harray
    cases j with
    | array items => exact absurd rfl (harray items)
    | _ => rfl

/-- A group of a term with two columns and of an empty group. -/
def describedGroup : Json :=
  .object [("$or", .array [
    .object [("age", .object [("$gte", .integer 18)]), ("tags", .array [.string "$or", .null])],
    .object [("$and", .array [])]])]

/-- A group whose part compares by an operator that there is not, before a group key that does not
stand alone. -/
def unknownGroup : Json :=
  .object [("$and", .array [
    .object [("name", .object [("$like", .string "a%")]), ("$or", .integer 1)]])]

/-- The condition of the group. -/
def ofDescribedGroup : Condition :=
  .or [.term (((∅ : Term).compare "age" .gte (.int 18)).literal "tags"
    (.list [.text "$or", .null])), .and []]

/-- The first of two descriptions is read, and the second is refused by its unknown operator and not
by what comes after it. -/
theorem ofJson_describedBy_groups :
    (Json.array [describedGroup, unknownGroup]).DistinctKeys ∧
    DescribedBy describedGroup ofDescribedGroup ∧
    ofJson describedGroup = .ok ofDescribedGroup ∧
    FirstUnknown unknownGroup "$like" ∧
    listOfJson (.array [describedGroup, unknownGroup]) = .error (.unsupportedOperator "$like") := by
  have hgroup : describedGroup.DistinctKeys := by simp [describedGroup]
  have hunknown : unknownGroup.DistinctKeys := by simp [unknownGroup]
  have hlist : (Json.array [describedGroup, unknownGroup]).DistinctKeys := by
    simp [hgroup, hunknown]
  have hage : Describes ("age", .object [("$gte", .integer 18)])
      ("age", .compare .gte (.int 18)) :=
    ⟨by decide, rfl, @Operand.DescribedBy.compare .gte _ _ (.integer 18) rfl⟩
  have htags : Describes ("tags", .array [.string "$or", .null])
      ("tags", .literal (.list [.text "$or", .null])) := by
    refine ⟨by decide, rfl, .literal (.array ?_) rfl⟩
    rintro j (_ | ⟨_, _ | ⟨_, hj⟩⟩)
    · exact .string "$or"
    · exact .null
    · cases hj
  have hdescribed : DescribedBy describedGroup ofDescribedGroup :=
    .or (.cons (.term (.cons hage (.cons htags .nil))) (.cons (.and .nil) .nil))
  have hlike : FirstUnknown unknownGroup "$like" := by
    refine @FirstUnknown.item "$and" _ [] [] _ (.inr rfl) nofun ?_
    refine @FirstUnknown.member [] [("$or", .integer 1)] "name" "$like" _ nofun (by decide)
      (.string "a%") ?_
    intro op
    cases op <;> decide
  refine ⟨hlist, hdescribed, ?_, hlike, ?_⟩
  · exact ((ofJson_describedBy describedGroup hgroup).1 ofDescribedGroup).mpr hdescribed
  · have hread := ((ofJson_describedBy unknownGroup hunknown).2.1 "$like").mpr hlike
    have hitems := (ofJson_describedBy _ hlist).2.2.2.1 [describedGroup, unknownGroup] rfl
    refine (hitems.2 _).mpr ⟨[describedGroup], unknownGroup, [], rfl, ?_, hread⟩
    rintro j (_ | ⟨_, hj⟩)
    · exact ⟨_, hdescribed⟩
    · cases hj

end Condition

end SqlDraft
