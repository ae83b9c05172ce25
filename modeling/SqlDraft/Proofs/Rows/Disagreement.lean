import SqlDraft.Proofs.Results
import SqlDraft.Proofs.Rows.Alignment

/-!
# Rows that disagree

The first row whose columns are not the given ones is refused where rows have to agree. Where they
need not, no row is refused, and the rows that keep their own order are those with other columns.
-/

namespace SqlDraft

/-- A row with just the given columns adds its tuple and is not noted. -/
theorem tuplesFrom_cons_of_hasColumns {columns : List String} {row : Row}
    (hnodup : columns.Nodup) (h : row.HasColumns columns) (strict : Bool) (index : Nat)
    (rest : List Row) :
    tuplesFrom strict columns index (row :: rest) =
      (tuplesFrom strict columns (index + 1) rest).map fun others =>
        ⟨row.tuple columns :: others.values, others.misaligned⟩ := by
  rw [tuplesFrom, rowTuple, Row.aligned?_eq_some_tuple hnodup h]
  cases tuplesFrom strict columns (index + 1) rest <;> rfl

/-- A row with other columns is refused, or adds its own values and is noted. -/
theorem tuplesFrom_cons_of_not_hasColumns {columns : List String} {row : Row}
    (hnodup : columns.Nodup) (h : ¬ row.HasColumns columns) (strict : Bool) (index : Nat)
    (rest : List Row) :
    tuplesFrom strict columns index (row :: rest) =
      if strict then .error (.malformedInsertRows index columns row.columns)
      else (tuplesFrom strict columns (index + 1) rest).map fun others =>
        ⟨row.tuple columns :: others.values, index :: others.misaligned⟩ := by
  have hnone : row.aligned? columns = none := by
    rw [← Option.not_isSome_iff_eq_none, Row.isSome_aligned?_iff hnodup]
    exact h
  rw [tuplesFrom, rowTuple, hnone, Row.tuple, if_neg h]
  cases strict with
  | true => rfl
  | false => cases tuplesFrom false columns (index + 1) rest <;> rfl

/-- Rows are refused where they have to agree and one of them does not; the first of these is the
one that is named. -/
theorem tuplesFrom_eq_error_iff {strict : Bool} {columns : List String} (hnodup : columns.Nodup)
    {rows : List Row} {index : Nat} {e : Error} :
    tuplesFrom strict columns index rows = .error e ↔
      strict = true ∧ ∃ before row after, rows = before ++ row :: after ∧
        (∀ r ∈ before, r.HasColumns columns) ∧ ¬ row.HasColumns columns ∧
        e = .malformedInsertRows (index + before.length) columns row.columns := by
  induction rows generalizing index with
  | nil =>
    constructor
    · intro h
      cases h
    · rintro ⟨-, before, row, after, h, -⟩
      cases before <;> cases h
  | cons first rest ih =>
    by_cases hfirst : first.HasColumns columns
    · rw [tuplesFrom_cons_of_hasColumns hnodup hfirst, map_eq_error_iff, ih]
      refine and_congr_right fun _ => ?_
      constructor
      · rintro ⟨before, row, after, rfl, hbefore, hrow, rfl⟩
        refine ⟨first :: before, row, after, rfl, ?_, hrow, ?_⟩
        · exact List.forall_mem_cons.mpr ⟨hfirst, hbefore⟩
        · rw [List.length_cons, Nat.add_right_comm, Nat.add_assoc]
      · rintro ⟨before, row, after, h, hbefore, hrow, rfl⟩
        cases before with
        | nil =>
          cases h
          exact absurd hfirst hrow
        | cons r before =>
          cases h
          refine ⟨before, row, after, rfl, (List.forall_mem_cons.mp hbefore).2, hrow, ?_⟩
          rw [List.length_cons, Nat.add_right_comm, Nat.add_assoc]
    · rw [tuplesFrom_cons_of_not_hasColumns hnodup hfirst]
      cases strict with
      | true =>
        rw [if_pos rfl, and_iff_right rfl]
        constructor
        · intro h
          cases h
          exact ⟨[], first, rest, rfl, nofun, hfirst, rfl⟩
        · rintro ⟨before, row, after, h, hbefore, hrow, rfl⟩
          cases before with
          | nil =>
            cases h
            rfl
          | cons r before =>
            cases h
            exact absurd (hbefore first List.mem_cons_self) hfirst
      | false =>
        -- Where rows need not agree, the rest is not refused either.
        rw [if_neg Bool.false_ne_true, map_eq_error_iff, ih]
        exact iff_of_false (fun h => Bool.false_ne_true h.1) fun h => Bool.false_ne_true h.1

/-- Rows that all have to agree are all written, or none of them is. -/
theorem exists_tuplesFrom_eq_ok_iff {strict : Bool} {columns : List String}
    (hnodup : columns.Nodup) {rows : List Row} {index : Nat} :
    (∃ tuples, tuplesFrom strict columns index rows = .ok tuples) ↔
      (strict = true → ∀ row ∈ rows, row.HasColumns columns) := by
  constructor
  · rintro ⟨tuples, h⟩
    exact (tuplesFrom_eq_ok hnodup h).2
  · intro h
    cases ht : tuplesFrom strict columns index rows with
    | ok tuples => exact ⟨tuples, rfl⟩
    | error e =>
      obtain ⟨hstrict, before, row, after, rfl, -, hrow, -⟩ := (tuplesFrom_eq_error_iff hnodup).mp ht
      exact absurd (h hstrict row (List.mem_append_right before List.mem_cons_self)) hrow

/-- The rows that are noted are those with other columns, in their order. -/
theorem misaligned_of_tuplesFrom {strict : Bool} {columns : List String} {rows : List Row}
    {index : Nat} {tuples : Tuples} (hnodup : columns.Nodup)
    (h : tuplesFrom strict columns index rows = .ok tuples) :
    tuples.misaligned = rows.findIdxs (fun row => ¬ row.HasColumns columns) index := by
  induction rows generalizing index tuples with
  | nil =>
    cases h
    rfl
  | cons first rest ih =>
    by_cases hfirst : first.HasColumns columns
    · rw [tuplesFrom_cons_of_hasColumns hnodup hfirst] at h
      obtain ⟨others, hothers, rfl⟩ := map_eq_ok_iff.mp h
      have hrest := ih hothers
      rw [List.findIdxs_cons, if_neg (by simpa using hfirst)]
      exact hrest
    · rw [tuplesFrom_cons_of_not_hasColumns hnodup hfirst] at h
      cases strict with
      | true => cases h
      | false =>
        obtain ⟨others, hothers, rfl⟩ := map_eq_ok_iff.mp h
        rw [List.findIdxs_cons, if_pos (by simpa using hfirst), ← ih hothers]

end SqlDraft
