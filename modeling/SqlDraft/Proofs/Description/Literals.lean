import SqlDraft.Proofs.Results
import SqlDraft.Value.Json

/-!
# Literals

A JSON value in which no object occurs denotes a value, and no other does.
-/

namespace SqlDraft

/-- A JSON value in which no object occurs. -/
inductive Json.Literal : Json → Prop
  | null : Literal .null
  | bool (b : Bool) : Literal (.bool b)
  | integer (n : Int) : Literal (.integer n)
  | float (x : Binary64) : Literal (.float x)
  | string (s : String) : Literal (.string s)
  | array {items : List Json} (h : ∀ j ∈ items, Literal j) : Literal (.array items)

namespace Value

mutual

/-- A literal denotes a value, and an object in it is the only fault that there can be. -/
theorem ofJson_cases : (j : Json) →
    (j.Literal ∧ ∃ v, ofJson j = .ok v) ∨
    (¬ j.Literal ∧ ofJson j = .error (.invalidCondition .objectLiteral))
  | .null => .inl ⟨.null, .null, rfl⟩
  | .bool b => .inl ⟨.bool b, .bool b, rfl⟩
  | .integer n => .inl ⟨.integer n, ofWhole n, rfl⟩
  | .float x => .inl ⟨.float x, .float x, rfl⟩
  | .string s => .inl ⟨.string s, .text s, rfl⟩
  | .object members => .inr ⟨nofun, rfl⟩
  | .array items => by
    rw [ofJson]
    rcases ofJsonItems_cases items with ⟨hitems, vs, hvs⟩ | ⟨hitems, he⟩
    · rw [hvs]
      exact .inl ⟨.array hitems, .list vs, rfl⟩
    · rw [he]
      refine .inr ⟨fun h => ?_, rfl⟩
      cases h with
      | array h => exact hitems h

/-- Items denote values if every one of them does, and otherwise the fault is that of one of them.
-/
theorem ofJsonItems_cases : (items : List Json) →
    ((∀ j ∈ items, j.Literal) ∧ ∃ vs, ofJsonItems items = .ok vs) ∨
    (¬ (∀ j ∈ items, j.Literal) ∧
      ofJsonItems items = .error (.invalidCondition .objectLiteral))
  | [] => .inl ⟨fun j hj => absurd hj List.not_mem_nil, [], rfl⟩
  | j :: rest => by
    rw [ofJsonItems, List.forall_mem_cons]
    rcases ofJson_cases j with ⟨hj, v, hv⟩ | ⟨hj, he⟩
    · rw [hv]
      rcases ofJsonItems_cases rest with ⟨hrest, vs, hvs⟩ | ⟨hrest, he⟩
      · rw [hvs]
        exact .inl ⟨⟨hj, hrest⟩, v :: vs, rfl⟩
      · rw [he]
        exact .inr ⟨fun h => hrest h.2, rfl⟩
    · rw [he]
      exact .inr ⟨fun h => hj h.1, rfl⟩

end

/-- Just what is free of objects denotes a value. -/
theorem exists_ofJson_iff {j : Json} : (∃ v, ofJson j = .ok v) ↔ j.Literal := by
  rcases ofJson_cases j with ⟨hj, hv⟩ | ⟨hj, he⟩
  · exact iff_of_true hv hj
  · refine iff_of_false (fun ⟨v, hv⟩ => ?_) hj
    rw [he] at hv
    cases hv

/-- A JSON value is refused just if an object occurs in it, and always with the same error. -/
theorem ofJson_eq_error_iff {j : Json} {e : Error} :
    ofJson j = .error e ↔ ¬ j.Literal ∧ e = .invalidCondition .objectLiteral := by
  rcases ofJson_cases j with ⟨hj, v, hv⟩ | ⟨hj, he⟩
  · rw [hv]
    exact iff_of_false nofun fun h => h.1 hj
  · rw [he]
    exact ⟨fun h => ⟨hj, (Except.error.inj h).symm⟩, fun h => h.2 ▸ rfl⟩

end Value

end SqlDraft
