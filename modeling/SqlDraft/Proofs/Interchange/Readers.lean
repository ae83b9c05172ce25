import SqlDraft.Proofs.Description.Literals
import SqlDraft.Proofs.Interchange.Values

/-!
# Two ways of reading a value

A JSON value is read by its shape or as the first kind that accepts it. The kinds overlap only in
whole numbers, which are integers before they are doubles. Both ways therefore read the value that
a JSON value denotes, and refuse every JSON value in which an object occurs. A text is read as the
value that its document denotes; an object in it is what it is refused for, even if it is no
document.
-/

namespace SqlDraft

/-- The value that a JSON value denotes. A whole number that is no integer of 64 bits denotes the
nearest double, and a number written otherwise denotes its double, also where this is whole. -/
inductive Json.Denotes : Json → Value → Prop
  | null : Denotes .null .null
  | bool (b : Bool) : Denotes (.bool b) (.bool b)
  | int (i : Int64) : Denotes (.integer i.toInt) (.int i)
  | rounded {n : Int} (h : n < -2 ^ 63 ∨ 2 ^ 63 ≤ n) : Denotes (.integer n) (.float (.ofInt n))
  | float (x : Binary64) : Denotes (.float x) (.float x)
  | string (s : String) : Denotes (.string s) (.text s)
  | array {items : List Json} {values : List Value} (h : List.Forall₂ Denotes items values) :
    Denotes (.array items) (.list values)

namespace Value

/-! ## By the shape -/

/-- A whole number denotes the one value that it is read as. -/
theorem eq_ofWhole_iff {n : Int} {v : Value} : ofWhole n = v ↔ (Json.integer n).Denotes v := by
  constructor
  · rintro rfl
    rw [ofWhole]
    split
    · next hfits =>
      obtain ⟨hl, hu⟩ := fitsInt_iff.mp hfits
      have hint := Json.Denotes.int (Int64.ofInt n)
      rwa [Int64.toInt_ofInt_of_le hl hu] at hint
    · next hfits =>
      refine .rounded ?_
      rw [fitsInt_iff] at hfits
      omega
  · intro h
    cases h with
    | int i => exact ofWhole_toInt i
    | rounded h =>
      refine if_neg ?_
      rw [fitsInt_iff]
      omega

mutual

/-- By its shape a JSON value is read as what it denotes and as nothing else. -/
theorem ofJson_eq_ok_iff_denotes : (j : Json) → {v : Value} →
    (ofJson j = .ok v ↔ j.Denotes v)
  | .null, _ => ⟨fun h => Except.ok.inj h ▸ .null, fun h => by cases h; rfl⟩
  | .bool b, _ => ⟨fun h => Except.ok.inj h ▸ .bool b, fun h => by cases h; rfl⟩
  | .integer _, _ => ⟨fun h => eq_ofWhole_iff.mp (Except.ok.inj h),
    fun h => congrArg Except.ok (eq_ofWhole_iff.mpr h)⟩
  | .float x, _ => ⟨fun h => Except.ok.inj h ▸ .float x, fun h => by cases h; rfl⟩
  | .string s, _ => ⟨fun h => Except.ok.inj h ▸ .string s, fun h => by cases h; rfl⟩
  | .object _, _ => ⟨nofun, nofun⟩
  | .array items, v => by
    rw [ofJson, map_eq_ok_iff]
    constructor
    · rintro ⟨values, hvalues, rfl⟩
      exact .array ((ofJsonItems_eq_ok_iff_denotes items).mp hvalues)
    · intro h
      cases h with
      | array h => exact ⟨_, (ofJsonItems_eq_ok_iff_denotes items).mpr h, rfl⟩

/-- The items of an array are read by their shapes, each as what it denotes. -/
theorem ofJsonItems_eq_ok_iff_denotes : (items : List Json) → {values : List Value} →
    (ofJsonItems items = .ok values ↔ List.Forall₂ Json.Denotes items values)
  | [], _ => ⟨fun h => Except.ok.inj h ▸ .nil, fun h => by cases h; rfl⟩
  | j :: rest, values => by
    rw [ofJsonItems, bind_eq_ok_iff, List.forall₂_cons_left_iff]
    constructor
    · rintro ⟨v, hv, h⟩
      obtain ⟨others, hothers, h⟩ := bind_eq_ok_iff.mp h
      cases h
      exact ⟨v, others, (ofJson_eq_ok_iff_denotes j).mp hv,
        (ofJsonItems_eq_ok_iff_denotes rest).mp hothers, rfl⟩
    · rintro ⟨v, others, hv, hothers, rfl⟩
      refine ⟨v, (ofJson_eq_ok_iff_denotes j).mpr hv, bind_eq_ok_iff.mpr ?_⟩
      exact ⟨others, (ofJsonItems_eq_ok_iff_denotes rest).mpr hothers, rfl⟩

end

/-! ## As the first kind that accepts -/

/-- The first kind that accepts a whole number is the integers, if 64 bits hold it, and otherwise
the doubles. -/
theorem firstOfJson?_integer (n : Int) : firstOfJson? (.integer n) = some (ofWhole n) := by
  have hkinds : firstOfJson? (.integer n) = (asInt? (.integer n) <|> asFloat? (.integer n)) := rfl
  rw [hkinds, asInt?, asFloat?, ofWhole]
  split <;> rfl

mutual

/-- What the first kind reads is what the shape reads, and nothing where the shape is refused. -/
theorem firstOfJson?_eq_toOption : (j : Json) → firstOfJson? j = (ofJson j).toOption
  | .null => rfl
  | .bool _ => rfl
  | .integer n => firstOfJson?_integer n
  | .float _ => rfl
  | .string _ => rfl
  | .object _ => rfl
  | .array items => by
    rw [ofJson, firstOfJson?, firstOfJsonItems?_eq_toOption items]
    cases ofJsonItems items <;> rfl

/-- The items of an array are read alike both ways. -/
theorem firstOfJsonItems?_eq_toOption : (items : List Json) →
    firstOfJsonItems? items = (ofJsonItems items).toOption
  | [] => rfl
  | j :: rest => by
    rw [ofJsonItems, firstOfJsonItems?, firstOfJson?_eq_toOption j,
      firstOfJsonItems?_eq_toOption rest]
    cases ofJson j with
    | error e => rfl
    | ok v => cases ofJsonItems rest <;> rfl

end

/-- Both ways of reading accept the same values. -/
theorem firstOfJson?_eq_some_iff {j : Json} {v : Value} :
    firstOfJson? j = some v ↔ ofJson j = .ok v := by
  rw [firstOfJson?_eq_toOption]
  cases ofJson j <;> simp [Except.toOption]

/-- Both ways of reading accept the JSON values in which no object occurs and no others, and what
either of them reads is the value that the JSON value denotes. -/
theorem readers_agree (j : Json) :
    ((∃ v, firstOfJson? j = some v) ↔ ∃ v, ofJson j = .ok v) ∧
    ((∃ v, ofJson j = .ok v) ↔ j.Literal) ∧
    ∀ v, (firstOfJson? j = some v ↔ j.Denotes v) ∧ (ofJson j = .ok v ↔ j.Denotes v) := by
  refine ⟨exists_congr fun v => firstOfJson?_eq_some_iff, exists_ofJson_iff, fun v => ⟨?_, ?_⟩⟩
  · rw [firstOfJson?_eq_some_iff]
    exact ofJson_eq_ok_iff_denotes j
  · exact ofJson_eq_ok_iff_denotes j

/-! ## Reading a text -/

/-- A text is read as a value just if it is a document that denotes the value. -/
theorem readDocument_eq_ok_iff {text : String} {v : Value} :
    readDocument text = .ok v ↔ ∃ j, Json.read? text = some j ∧ j.Denotes v := by
  have hdenotes (j : Json) : firstOfJson? j = some v ↔ j.Denotes v :=
    firstOfJson?_eq_some_iff.trans (ofJson_eq_ok_iff_denotes j)
  rw [readDocument, Json.read?, Json.readNested?]
  rcases Json.readPrefix? Json.nestingLimit text with - | ⟨j, - | ⟨c, rest⟩⟩
  · refine iff_of_false (fun h => by cases h) ?_
    rintro ⟨_, hread, _⟩
    cases hread
  · simp only [Option.some.injEq, exists_eq_left', ← hdenotes]
    cases firstOfJson? j <;> simp
  · refine iff_of_false ?_ ?_
    · cases h : firstOfJson? j <;> simp [h]
    · rintro ⟨_, hread, _⟩
      cases hread

/-- A text is refused for its kind just if an object occurs in the value at its head. -/
theorem readDocument_eq_noKind_iff {text : String} :
    readDocument text = .error .noKind ↔
      ∃ j rest, Json.readPrefix? Json.nestingLimit text = some (j, rest) ∧ ¬ j.Literal := by
  rw [readDocument]
  rcases Json.readPrefix? Json.nestingLimit text with - | ⟨j, rest⟩
  · refine iff_of_false (fun h => by cases h) ?_
    rintro ⟨_, _, hread, _⟩
    cases hread
  · have hnone : firstOfJson? j = none ↔ ¬ j.Literal := by
      rw [← exists_ofJson_iff, Option.eq_none_iff_forall_ne_some, not_exists]
      exact forall_congr' fun v => not_congr firstOfJson?_eq_some_iff
    have hhead : (∃ k tail, some (j, rest) = some (k, tail) ∧ ¬ k.Literal) ↔ ¬ j.Literal := by simp
    rw [hhead, ← hnone]
    cases h : firstOfJson? j with
    | none => simp [h]
    | some v => cases rest <;> simp [h]

/-- The text of a value is read as all that JSON keeps of the value. -/
theorem readDocument_write {v : Value} (hdepth : v.depth ≤ 127) :
    readDocument v.toJson.write = .ok v.finitePart := by
  have hread : Json.read? v.toJson.write = some v.toJson :=
    Json.read?_write (writable_toJson v) (by rwa [depth_toJson])
  exact readDocument_eq_ok_iff.mpr
    ⟨v.toJson, hread, (ofJson_eq_ok_iff_denotes _).mp (ofJson_toJson v)⟩

end Value

end SqlDraft
