import SqlDraft.Proofs.Interchange.Documents
import SqlDraft.Value.Json

/-!
# Values as JSON

JSON has no value for a double that is not finite, so that null stands for it. Anything else in a
value is found again in the JSON value that stands for it, both by its shape and by the first kind
that accepts it: a double stays apart from a whole number, whatever its value. The JSON value is
found again in its text, unless its lists nest deeper than a reader goes.
-/

namespace SqlDraft.Value

mutual

/-- What JSON keeps of a value: null in place of every double that is not finite. -/
def finitePart : Value → Value
  | .float x => if x.isFinite then .float x else .null
  | .list items => .list (finiteParts items)
  | v => v

/-- What JSON keeps of the items of a list. -/
def finiteParts : List Value → List Value
  | [] => []
  | v :: rest => finitePart v :: finiteParts rest

end

/-! ## Whole numbers -/

/-- The whole numbers that are integers are those of 64 bits with a sign. -/
theorem fitsInt_iff {n : Int} : fitsInt n = true ↔ -2 ^ 63 ≤ n ∧ n < 2 ^ 63 := by
  simp only [fitsInt, Bool.and_eq_true, decide_eq_true_eq]
  have hmin : Int64.minValue.toInt = -2 ^ 63 := rfl
  have hmax : Int64.maxValue.toInt = 2 ^ 63 - 1 := rfl
  omega

/-- An integer is one of the whole numbers that are integers. -/
theorem fitsInt_toInt (i : Int64) : fitsInt i.toInt = true :=
  fitsInt_iff.mpr ⟨i.le_toInt, i.toInt_lt⟩

/-- The whole number of an integer is read as the integer. -/
theorem ofWhole_toInt (i : Int64) : ofWhole i.toInt = .int i := by
  rw [ofWhole, if_pos (fitsInt_toInt i), Int64.ofInt_toInt]

/-- The kind of integers accepts the whole number of an integer. -/
theorem asInt?_toInt (i : Int64) : asInt? (.integer i.toInt) = some (.int i) := by
  rw [asInt?, if_pos (fitsInt_toInt i), Int64.ofInt_toInt]

/-! ## Values -/

mutual

/-- By its shape all that JSON keeps of a value is read back. -/
theorem ofJson_toJson : (v : Value) → ofJson v.toJson = .ok v.finitePart
  | .null => rfl
  | .bool _ => rfl
  | .int i => congrArg Except.ok (ofWhole_toInt i)
  | .float x => by
    rw [toJson, finitePart]
    split <;> rfl
  | .text _ => rfl
  | .list items => by
    rw [toJson, ofJson, ofJsonItems_toJsonItems items, finitePart]
    rfl

/-- By their shapes all that JSON keeps of the items of a list is read back. -/
theorem ofJsonItems_toJsonItems : (items : List Value) →
    ofJsonItems (toJsonItems items) = .ok (finiteParts items)
  | [] => rfl
  | v :: rest => by
    rw [toJsonItems, ofJsonItems, ofJson_toJson v, ofJsonItems_toJsonItems rest, finiteParts]
    rfl

end

mutual

/-- As the first kind that accepts it all that JSON keeps of a value is read back: what stands for a
value is accepted by no kind before its own. -/
theorem firstOfJson?_toJson : (v : Value) → firstOfJson? v.toJson = some v.finitePart
  | .null => rfl
  | .bool _ => rfl
  | .int i => congrArg (· <|> asFloat? (.integer i.toInt)) (asInt?_toInt i)
  | .float x => by
    rw [toJson, finitePart]
    split <;> rfl
  | .text _ => rfl
  | .list items => by
    rw [toJson, firstOfJson?, firstOfJsonItems?_toJsonItems items]
    rfl

/-- As the first kinds that accept them all that JSON keeps of the items of a list is read back. -/
theorem firstOfJsonItems?_toJsonItems : (items : List Value) →
    firstOfJsonItems? (toJsonItems items) = some (finiteParts items)
  | [] => rfl
  | v :: rest => by
    rw [toJsonItems, firstOfJsonItems?, firstOfJson?_toJson v, firstOfJsonItems?_toJsonItems rest]
    rfl

end

/-! ## Texts -/

mutual

/-- How deep lists nest in a value. -/
def depth : Value → Nat
  | .list items => depthOfItems items + 1
  | _ => 0

/-- The greatest depth of the items of a list. -/
def depthOfItems : List Value → Nat
  | [] => 0
  | v :: rest => max (depth v) (depthOfItems rest)

end

mutual

/-- Arrays nest as deep as the lists that they stand for. -/
theorem depth_toJson : (v : Value) → v.toJson.depth = v.depth
  | .null => rfl
  | .bool _ => rfl
  | .int _ => rfl
  | .float x => by
    rw [toJson]
    split <;> rfl
  | .text _ => rfl
  | .list items => congrArg (· + 1) (depthOfItems_toJsonItems items)

/-- The items of an array nest as deep as those of the list that it stands for. -/
theorem depthOfItems_toJsonItems : (items : List Value) →
    Json.depthOfItems (toJsonItems items) = depthOfItems items
  | [] => rfl
  | v :: rest => by
    rw [toJsonItems, Json.depthOfItems, depth_toJson v, depthOfItems_toJsonItems rest, depthOfItems]

end

mutual

/-- No object stands for a value, and no double that is not finite. -/
theorem writable_toJson : (v : Value) → v.toJson.Writable
  | .null => .null
  | .bool b => .bool b
  | .int i => .integer i.le_toInt (lt_trans i.toInt_lt (by decide))
  | .float x => by
    rw [toJson]
    split
    · next hfinite => exact .float hfinite
    · exact .null
  | .text s => .string s
  | .list items => .array (writable_toJsonItems items)

/-- No object stands for an item of a list, and no double that is not finite. -/
theorem writable_toJsonItems : (items : List Value) → ∀ j ∈ toJsonItems items, j.Writable
  | [] => nofun
  | v :: rest => List.forall_mem_cons.mpr ⟨writable_toJson v, writable_toJsonItems rest⟩

end

/-- Both ways of reading find again all that JSON keeps of a value, in the JSON value that stands
for it, and this is found again in its text. -/
theorem interchange (v : Value) :
    (ofJson v.toJson = .ok v.finitePart ∧ firstOfJson? v.toJson = some v.finitePart) ∧
      (v.depth ≤ 127 → Json.read? v.toJson.write = some v.toJson) := by
  refine ⟨⟨ofJson_toJson v, firstOfJson?_toJson v⟩, fun hdepth => ?_⟩
  exact Json.read?_write (writable_toJson v) (by rwa [depth_toJson])

/-- An integer, doubles with and without a whole value, some of which are not finite, and a text
that needs escapes, nested in lists. -/
def mixedList : Value :=
  .list [.int 2, .float (.ofInt 2), .float .negativeZero, .float (.infinity true),
    .list [.text "\"\\\n\x01é", .list [], .list [.float (.notANumber false), .bool true]]]

/-- A whole double comes back as a double, the negative zero with its sign, and infinity as null. -/
theorem interchange_mixedList :
    mixedList.depth ≤ 127 ∧
      Json.read? mixedList.toJson.write = some mixedList.toJson ∧
      ofJson mixedList.toJson = .ok (.list [.int 2, .float (.ofInt 2), .float .negativeZero, .null,
        .list [.text "\"\\\n\x01é", .list [], .list [.null, .bool true]]]) :=
  have hdepth : mixedList.depth ≤ 127 := by decide
  ⟨hdepth, (interchange mixedList).2 hdepth, (interchange mixedList).1.1⟩

end SqlDraft.Value
