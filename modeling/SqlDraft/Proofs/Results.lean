import Mathlib.Data.List.Forall2

/-!
# Results

What is read in steps is read if every step is, and otherwise fails as its first step that fails.
What is read item by item does so with the items in their order.
-/

namespace SqlDraft

variable {ε α β : Type}

/-- A mapped result is a result that is mapped. -/
theorem map_eq_ok_iff {x : Except ε α} {f : α → β} {b : β} :
    x.map f = .ok b ↔ ∃ a, x = .ok a ∧ f a = b := by
  cases x <;> simp [Except.map]

/-- Mapping leaves an error as it is. -/
theorem map_eq_error_iff {x : Except ε α} {f : α → β} {e : ε} :
    x.map f = .error e ↔ x = .error e := by
  cases x <;> simp [Except.map]

/-- Mapping does not change whether there is a result. -/
theorem exists_map_eq_ok_iff {x : Except ε α} {f : α → β} :
    (∃ b, x.map f = .ok b) ↔ ∃ a, x = .ok a := by
  cases x <;> simp [Except.map]

/-- Two steps succeed if the first gives something that the second succeeds with. -/
theorem bind_eq_ok_iff {x : Except ε α} {f : α → Except ε β} {b : β} :
    x >>= f = .ok b ↔ ∃ a, x = .ok a ∧ f a = .ok b := by
  cases x <;> simp [bind, Except.bind]

/-- Two steps fail if the first does, or else the second. -/
theorem bind_eq_error_iff {x : Except ε α} {f : α → Except ε β} {e : ε} :
    x >>= f = .error e ↔ x = .error e ∨ ∃ a, x = .ok a ∧ f a = .error e := by
  cases x <;> simp [bind, Except.bind]

/-- Lists are related alike by relations that agree on the items of the first. -/
theorem forall₂_congr_of_mem {R S : α → β → Prop} {items : List α} {results : List β}
    (h : ∀ item ∈ items, ∀ result, R item result ↔ S item result) :
    List.Forall₂ R items results ↔ List.Forall₂ S items results := by
  induction items generalizing results with
  | nil => rw [List.forall₂_nil_left_iff, List.forall₂_nil_left_iff]
  | cons item rest ih =>
    obtain ⟨hitem, hrest⟩ := List.forall_mem_cons.mp h
    simp only [List.forall₂_cons_left_iff, hitem, ih hrest]

/-- What related items have in common, their lists have in common. -/
theorem map_eq_map_of_forall₂ {γ : Type} {R : α → β → Prop} {f : α → γ} {g : β → γ}
    {items : List α} {results : List β} (hcommon : ∀ item result, R item result → f item = g result)
    (h : List.Forall₂ R items results) : items.map f = results.map g := by
  induction h with
  | nil => rfl
  | cons hitem _ ih => rw [List.map_cons, List.map_cons, hcommon _ _ hitem, ih]

/-- Items are read if each of them is. -/
theorem mapM_eq_ok_iff {read : α → Except ε β} {items : List α} {results : List β} :
    items.mapM read = .ok results ↔
      List.Forall₂ (fun item result => read item = .ok result) items results := by
  induction items generalizing results with
  | nil =>
    rw [List.mapM_nil, List.forall₂_nil_left_iff]
    exact ⟨fun h => (Except.ok.inj h).symm, fun h => h ▸ rfl⟩
  | cons item rest ih =>
    simp only [List.mapM_cons, List.forall₂_cons_left_iff, bind_eq_ok_iff, ih]
    constructor
    · rintro ⟨result, hitem, others, hrest, h⟩
      exact ⟨result, others, hitem, hrest, (Except.ok.inj h).symm⟩
    · rintro ⟨result, others, hitem, hrest, rfl⟩
      exact ⟨result, hitem, others, hrest, rfl⟩

/-- All items are read if each of them is. -/
theorem exists_mapM_eq_ok_iff {read : α → Except ε β} {items : List α} :
    (∃ results, items.mapM read = .ok results) ↔
      ∀ item ∈ items, ∃ result, read item = .ok result := by
  induction items with
  | nil => exact iff_of_true ⟨[], rfl⟩ nofun
  | cons item rest ih =>
    rw [List.forall_mem_cons, ← ih, List.mapM_cons]
    cases read item with
    | error e => simp [bind, Except.bind]
    | ok result => cases rest.mapM read <;> simp [bind, Except.bind, pure, Except.pure]

/-- Items fail as the first of them that fails, all before it being read. -/
theorem mapM_eq_error_iff {read : α → Except ε β} {items : List α} {e : ε} :
    items.mapM read = .error e ↔
      ∃ before item after, items = before ++ item :: after ∧
        (∀ i ∈ before, ∃ result, read i = .ok result) ∧ read item = .error e := by
  induction items with
  | nil =>
    constructor
    · intro h
      cases h
    · rintro ⟨before, item, after, h, -⟩
      cases before <;> cases h
  | cons first rest ih =>
    simp only [List.mapM_cons, bind_eq_error_iff, ih, pure, Except.pure, reduceCtorEq, and_false,
      exists_false, or_false]
    constructor
    · rintro (hfirst | ⟨result, hfirst, before, item, after, rfl, hbefore, hitem⟩)
      · exact ⟨[], first, rest, rfl, fun i hi => absurd hi List.not_mem_nil, hfirst⟩
      · refine ⟨first :: before, item, after, rfl, ?_, hitem⟩
        exact List.forall_mem_cons.mpr ⟨⟨result, hfirst⟩, hbefore⟩
    · rintro ⟨before, item, after, h, hbefore, hitem⟩
      cases before with
      | nil =>
        cases h
        exact .inl hitem
      | cons i before =>
        cases h
        obtain ⟨⟨result, hfirst⟩, hbefore⟩ := List.forall_mem_cons.mp hbefore
        exact .inr ⟨result, hfirst, before, item, after, rfl, hbefore, hitem⟩

end SqlDraft
