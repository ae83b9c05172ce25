import SqlDraft.Json.Reader

/-!
# Distinct keys

The members of an object are kept by their keys, so that no two members of an object in a value that
was read from a text have the same key.
-/

namespace SqlDraft.Json

/-- The members of an object have different keys, at every depth. -/
inductive DistinctKeys : Json → Prop
  | null : DistinctKeys .null
  | bool (b : Bool) : DistinctKeys (.bool b)
  | integer (n : Int) : DistinctKeys (.integer n)
  | float (x : Binary64) : DistinctKeys (.float x)
  | string (s : String) : DistinctKeys (.string s)
  | array {items : List Json} (h : ∀ j ∈ items, DistinctKeys j) : DistinctKeys (.array items)
  | object {members : List (String × Json)} (hkeys : (members.map Prod.fst).Nodup)
      (h : ∀ member ∈ members, DistinctKeys member.2) : DistinctKeys (.object members)

attribute [simp] DistinctKeys.null DistinctKeys.integer DistinctKeys.string

/-- An array has different keys if its items have. -/
@[simp] theorem distinctKeys_array_iff {items : List Json} :
    (Json.array items).DistinctKeys ↔ ∀ j ∈ items, j.DistinctKeys :=
  ⟨fun h => by cases h with | array h => exact h, .array⟩

/-- An object has different keys if its own are, and those of its members. -/
@[simp] theorem distinctKeys_object_iff {members : List (String × Json)} :
    (Json.object members).DistinctKeys ↔
      (members.map Prod.fst).Nodup ∧ ∀ member ∈ members, member.2.DistinctKeys :=
  ⟨fun h => by cases h with | object hkeys h => exact ⟨hkeys, h⟩, fun h => .object h.1 h.2⟩

/-! ## Readers -/

section

variable {α : Type} {P : α → Prop}

/-- What a reader reads has a property, whatever text it stands in. -/
def Gives (read : Reader α) (P : α → Prop) : Prop := ∀ s a rest, read s = some (a, rest) → P a

/-- Items have the property that the reader of one gives, if those before them have it. -/
theorem gives_readItemsFrom {item : Reader α} (hitem : Gives item P) (close : Char)
    {before : List α} (hbefore : ∀ a ∈ before, P a) (most : Nat) :
    Gives (readItemsFrom item close before most) fun items => ∀ a ∈ items, P a := by
  induction most generalizing before with
  | zero => nofun
  | succ most ih =>
    intro s items rest h
    rw [readItemsFrom] at h
    obtain ⟨⟨a, s'⟩, ha, h⟩ := Option.bind_eq_some_iff.mp h
    have hall : ∀ b ∈ a :: before, P b := List.forall_mem_cons.mpr ⟨hitem s a s' ha, hbefore⟩
    dsimp only at h
    split at h
    · cases h
    · exact ih hall _ items rest h
    · split at h
      · cases h
        exact fun b hb => hall b (List.mem_reverse.mp hb)
      · cases h

/-- All items of an array or of an object have the property that the reader of one gives. -/
theorem gives_readItems {item : Reader α} (hitem : Gives item P) (close : Char) (most : Nat) :
    Gives (readItems item close most) fun items => ∀ a ∈ items, P a := by
  intro s items rest h
  rw [readItems] at h
  split at h
  · cases h
  · split at h
    · cases h
      exact fun a ha => absurd ha List.not_mem_nil
    · exact gives_readItemsFrom hitem close (fun a ha => absurd ha List.not_mem_nil) most _ _ _ h

end

/-- A member has a value with the property that the reader of values gives. -/
theorem gives_readMember {value : Reader Json} {P : Json → Prop} (hvalue : Gives value P) :
    Gives (readMember value) fun member => P member.2 := by
  intro s member rest h
  obtain ⟨⟨key, s'⟩, _, h⟩ := Option.bind_eq_some_iff.mp h
  dsimp only at h
  split at h
  · obtain ⟨⟨j, s''⟩, hj, h⟩ := Option.bind_eq_some_iff.mp h
    cases h
    exact hvalue _ j s'' hj
  · cases h

/-- A word is read as its own value and as no other. -/
theorem gives_readWord {word : String} {value : Json} {P : Json → Prop} (h : P value) :
    Gives (readWord word value) P := by
  intro s j rest hread
  rw [readWord] at hread
  split at hread
  · cases hread
    exact h
  · cases hread

/-- A number is no object, whole or not. -/
theorem distinctKeys_number (whole negative : Bool) (n : Nat) (x : Binary64) :
    (if whole then ofWhole negative n else .float x).DistinctKeys := by
  unfold ofWhole
  split
  · split
    · split
      · exact .integer _
      · exact .float _
    · split
      · exact .integer _
      · exact .float _
  · exact .float x

/-- No number has keys. -/
theorem gives_readNumber : Gives readNumber DistinctKeys := by
  intro s j rest h
  unfold readNumber at h
  split at h
  next negative s _ =>
  dsimp only at h
  split at h
  · obtain ⟨_, h, _⟩ := Option.bind_eq_some_iff.mp h
    cases h
  · obtain ⟨⟨fraction, s'⟩, _, h⟩ := Option.bind_eq_some_iff.mp h
    obtain ⟨⟨scale, s''⟩, _, h⟩ := Option.bind_eq_some_iff.mp h
    dsimp only at h
    split at h
    · split at h
      · cases h
        exact distinctKeys_number _ _ _ _
      · cases h
    · cases h
      exact distinctKeys_number _ _ _ _

/-- What is neither array nor object has no keys. -/
theorem gives_readScalar : Gives readScalar DistinctKeys := by
  intro s j rest h
  unfold readScalar at h
  split at h
  · exact gives_readWord .null _ j rest h
  · exact gives_readWord (.bool true) _ j rest h
  · exact gives_readWord (.bool false) _ j rest h
  · obtain ⟨⟨t, s'⟩, _, h⟩ := Option.map_eq_some_iff.mp h
    cases h
    exact .string t
  · exact gives_readNumber _ j rest h

/-- A value is read with different keys at every depth: an object keeps its members by their keys.
-/
theorem gives_readValue (most depth : Nat) : Gives (readValue most depth) DistinctKeys := by
  induction depth with
  | zero => exact gives_readScalar
  | succ depth ih =>
    intro s j rest h
    unfold readValue at h
    split at h
    · obtain ⟨⟨items, s'⟩, hitems, h⟩ := Option.map_eq_some_iff.mp h
      cases h
      exact .array (gives_readItems ih _ most _ items _ hitems)
    · obtain ⟨⟨members, s'⟩, hmembers, h⟩ := Option.map_eq_some_iff.mp h
      cases h
      have hall := gives_readItems (gives_readMember ih) _ most _ members _ hmembers
      exact .object (Keyed.ofList members).nodup_keys
        (Keyed.forall_mem_insertAll (fun member hmember => absurd hmember List.not_mem_nil) hall)
    · exact gives_readScalar _ j rest h

/-- What is read from a document has different keys in every object. -/
theorem distinctKeys_of_read? {text : String} {j : Json} (h : read? text = some j) :
    j.DistinctKeys := by
  rw [read?, readNested?] at h
  split at h
  · next hread =>
    cases h
    obtain ⟨⟨j', rest⟩, hvalue, h⟩ := Option.map_eq_some_iff.mp hread
    obtain ⟨rfl, _⟩ := Prod.mk.inj h
    exact gives_readValue _ _ _ j' rest hvalue
  · cases h

end SqlDraft.Json
