import SqlDraft.Proofs.Keyed.Writes
import SqlDraft.Proofs.Rows.Alignment

/-!
# Rows with the same columns

Rows are compared by their number of columns and by looking up the columns of one in the other.
Because the columns of a row are distinct, that is equality of sets. It is also exactly when one row
has values in the order of the columns of the other, and these are all of its values.
-/

namespace SqlDraft.Row

/-- Looking up columns one after the other succeeds if each of them is there. -/
theorem isSome_mapM_get? (r : Row) (columns : List String) :
    (columns.mapM r.get?).isSome = columns.all fun column => (r.get? column).isSome := by
  induction columns with
  | nil => rfl
  | cons column rest ih =>
    rw [List.all_cons, ← ih, List.mapM_cons]
    cases r.get? column with
    | none => rfl
    | some v => cases rest.mapM r.get? <;> rfl

/-- A row is compared with another as the other is aligned with its columns. -/
theorem sameColumns_eq_isSome_aligned? (r other : Row) :
    r.sameColumns other = (other.aligned? r.columns).isSome := by
  rw [sameColumns, aligned?, Keyed.length_keys]
  by_cases hsize : r.size = other.size
  · rw [if_pos hsize.symm, isSome_mapM_get?, decide_eq_true hsize, Bool.true_and]
  · rw [if_neg fun h => hsize h.symm, decide_eq_false hsize, Bool.false_and]
    rfl

/-- Two rows have the same columns if every column is in both or in neither. -/
theorem sameColumns_iff {r other : Row} :
    r.sameColumns other = true ↔ ∀ column, column ∈ r.columns ↔ column ∈ other.columns := by
  rw [sameColumns_eq_isSome_aligned?, isSome_aligned?_iff r.nodup_columns, hasColumns_iff]
  exact forall_congr' fun column => iff_comm

/-- The values of an aligned row are all of its values. -/
theorem perm_values_of_aligned? {r : Row} {columns : List String} {values : List Value}
    (hnodup : columns.Nodup) (h : r.aligned? columns = some values) : values.Perm r.values := by
  have hvalues := (perm_columns_of_aligned? hnodup h).map r.get?
  rw [(aligned?_eq_some_iff.mp h).2, Keyed.map_get?_keys] at hvalues
  exact (List.map_perm_map_iff (Option.some_injective Value)).mp hvalues

/-- Comparing the columns of rows is equality of sets, so that it does not matter which row they are
looked up in, and rows that have the columns of one row have the same. A row is aligned with the
columns of another just if they have the same, and then it has the value of each column at its place
and no value is lost. -/
theorem sameColumns_alignment (a b c : Row) :
    (a.sameColumns b = true ↔ ∀ column, column ∈ a.columns ↔ column ∈ b.columns) ∧
    a.sameColumns b = b.sameColumns a ∧
    (a.sameColumns b = true → b.sameColumns c = true → a.sameColumns c = true) ∧
    (b.aligned? a.columns).isSome = a.sameColumns b ∧
    ∀ values, b.aligned? a.columns = some values →
      a.columns.map b.get? = values.map some ∧ values.Perm b.values := by
  refine ⟨sameColumns_iff, ?_, fun hab hbc => ?_, (sameColumns_eq_isSome_aligned? a b).symm,
    fun values h => ⟨(aligned?_eq_some_iff.mp h).2, perm_values_of_aligned? a.nodup_columns h⟩⟩
  · rw [Bool.eq_iff_iff, sameColumns_iff, sameColumns_iff]
    exact forall_congr' fun column => iff_comm
  · rw [sameColumns_iff] at hab hbc ⊢
    exact fun column => (hab column).trans (hbc column)

/-- Three rows with the same columns in different orders. -/
def idThenName : Row := Keyed.ofList [("id", .int 1), ("name", .text "A")]

def nameThenId : Row := Keyed.ofList [("name", .text "B"), ("id", .int 2)]

def rewrittenId : Row := (Keyed.ofList [("id", .int 3), ("name", .null)]).insert "id" (.int 4)

/-- A row is aligned with columns in another order, and nothing of it is lost. -/
theorem sameColumns_alignment_reordered :
    idThenName.sameColumns nameThenId = true ∧ nameThenId.sameColumns rewrittenId = true ∧
      idThenName.sameColumns rewrittenId = true ∧
      nameThenId.aligned? idThenName.columns = some [.int 2, .text "B"] ∧
      [Value.int 2, .text "B"].Perm nameThenId.values := by
  obtain ⟨-, -, htrans, -, haligned⟩ := sameColumns_alignment idThenName nameThenId rewrittenId
  have hvalues : nameThenId.aligned? idThenName.columns = some [.int 2, .text "B"] := rfl
  exact ⟨rfl, rfl, htrans rfl rfl, hvalues, (haligned _ hvalues).2⟩

end SqlDraft.Row
