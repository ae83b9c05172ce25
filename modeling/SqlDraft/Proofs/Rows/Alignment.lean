import Mathlib.Data.Finset.Dedup
import Mathlib.Data.List.Forall2
import Mathlib.Data.List.Perm.Subperm
import SqlDraft.Draft.Template

/-!
# Rows in the order of given columns

A row is aligned with distinct columns exactly if these are its columns, in any order. Its values in
the order of the columns are then the tuple that it adds to an insertion; a row with other columns
adds its values in its own order, where rows need not agree.
-/

namespace SqlDraft

namespace Row

/-- No column comes twice in a row. -/
theorem nodup_columns (r : Row) : r.columns.Nodup := r.nodup_keys

/-- Columns that are all found have their values in the order of the columns. -/
theorem mapM_get?_eq_some_iff {r : Row} {columns : List String} {values : List Value} :
    columns.mapM r.get? = some values ↔ columns.map r.get? = values.map some := by
  induction columns generalizing values with
  | nil => cases values <;> simp
  | cons column rest ih =>
    rw [List.mapM_cons, List.map_cons]
    cases hv : r.get? column with
    | none => cases values <;> simp
    | some v =>
      constructor
      · intro h
        obtain ⟨_, hu, h⟩ := Option.bind_eq_some_iff.mp h
        obtain ⟨others, hothers, h⟩ := Option.bind_eq_some_iff.mp h
        cases hu
        cases h
        rw [ih.mp hothers, List.map_cons]
      · intro h
        cases values with
        | nil => cases h
        | cons u others =>
          obtain ⟨hu, hothers⟩ := List.cons.inj h
          cases hu
          change (rest.mapM r.get?).bind _ = _
          rw [ih.mpr hothers]
          rfl

/-- A row is aligned with columns if it has as many as they are, and a value at each of them. -/
theorem aligned?_eq_some_iff {r : Row} {columns : List String} {values : List Value} :
    r.aligned? columns = some values ↔
      r.size = columns.length ∧ columns.map r.get? = values.map some := by
  rw [aligned?]
  by_cases hsize : r.size = columns.length
  · rw [if_pos hsize, mapM_get?_eq_some_iff, and_iff_right hsize]
  · rw [if_neg hsize]
    constructor
    · intro h
      cases h
    · rintro ⟨h, -⟩
      exact absurd h hsize

/-- An aligned row has a value for each of the columns. -/
theorem length_of_aligned? {r : Row} {columns : List String} {values : List Value}
    (h : r.aligned? columns = some values) : values.length = columns.length := by
  have hlength := congrArg List.length (aligned?_eq_some_iff.mp h).2
  rw [List.length_map, List.length_map] at hlength
  exact hlength.symm

/-- Distinct columns that a row is aligned with are its columns in another order. -/
theorem perm_columns_of_aligned? {r : Row} {columns : List String} {values : List Value}
    (hnodup : columns.Nodup) (h : r.aligned? columns = some values) : columns.Perm r.columns := by
  obtain ⟨hsize, hvalues⟩ := aligned?_eq_some_iff.mp h
  have hsubset : columns ⊆ r.columns := by
    intro c hc
    have hmem : r.get? c ∈ columns.map r.get? := List.mem_map_of_mem hc
    rw [hvalues] at hmem
    obtain ⟨v, _, hv⟩ := List.mem_map.mp hmem
    rw [Keyed.mem_keys_iff, ← hv]
    rfl
  have hlength : r.columns.length ≤ columns.length :=
    Nat.le_of_eq ((Keyed.length_keys r).trans hsize)
  -- Distinct columns that are all in the row, and as many as it has, are all of its columns.
  exact (hnodup.subperm hsubset).perm_of_length_le hlength

/-- A row that is aligned with distinct columns has these columns and no others. -/
theorem mem_columns_iff_of_aligned? {r : Row} {columns : List String} {values : List Value}
    (hnodup : columns.Nodup) (h : r.aligned? columns = some values) (column : String) :
    column ∈ r.columns ↔ column ∈ columns :=
  (perm_columns_of_aligned? hnodup h).symm.mem_iff

/-- A row has the columns of a set of columns, in any order. -/
def HasColumns (r : Row) (columns : List String) : Prop := r.columns.toFinset = columns.toFinset

instance (r : Row) (columns : List String) : Decidable (r.HasColumns columns) :=
  inferInstanceAs (Decidable (_ = _))

/-- Having just the given columns means having the same ones as the list. -/
theorem hasColumns_iff {r : Row} {columns : List String} :
    r.HasColumns columns ↔ ∀ column, column ∈ r.columns ↔ column ∈ columns := by
  simp only [HasColumns, Finset.ext_iff, List.mem_toFinset]

/-- The values that a row adds to an insertion into the given columns. -/
def tuple (columns : List String) (r : Row) : List Value :=
  if r.HasColumns columns then columns.filterMap r.get? else r.values

/-- A row with just the given columns is aligned with them, and adds the value at each of them. -/
theorem aligned?_eq_some_tuple {r : Row} {columns : List String} (hnodup : columns.Nodup)
    (h : r.HasColumns columns) : r.aligned? columns = some (r.tuple columns) := by
  have hmem := hasColumns_iff.mp h
  have hperm : r.columns.Perm columns := (List.perm_ext_iff_of_nodup r.nodup_columns hnodup).mpr hmem
  have hsize : r.size = columns.length := (Keyed.length_keys r).symm.trans hperm.length_eq
  have hvalue : ∀ column ∈ columns, (r.get? column).isSome := fun column hcolumn =>
    (Keyed.mem_keys_iff r column).mp ((hmem column).mpr hcolumn)
  rw [aligned?_eq_some_iff, tuple, if_pos h]
  refine ⟨hsize, ?_⟩
  clear h hmem hperm hsize hnodup
  induction columns with
  | nil => rfl
  | cons column rest ih =>
    obtain ⟨v, hv⟩ := Option.isSome_iff_exists.mp (hvalue column List.mem_cons_self)
    have hrest := ih fun c hc => hvalue c (List.mem_cons_of_mem column hc)
    rw [List.map_cons, List.filterMap_cons_some hv, List.map_cons, hv, hrest]

/-- A row is aligned with distinct columns exactly if these are its columns. -/
theorem isSome_aligned?_iff {r : Row} {columns : List String} (hnodup : columns.Nodup) :
    (r.aligned? columns).isSome ↔ r.HasColumns columns := by
  constructor
  · intro h
    obtain ⟨values, hvalues⟩ := Option.isSome_iff_exists.mp h
    exact hasColumns_iff.mpr (mem_columns_iff_of_aligned? hnodup hvalues)
  · intro h
    rw [aligned?_eq_some_tuple hnodup h]
    rfl

end Row

/-- A row that is not refused adds its tuple, and where rows have to agree it has the columns. -/
theorem rowTuple_eq_ok {strict : Bool} {columns : List String} {index : Nat} {row : Row}
    {values : List Value} {misaligned : List Nat} (hnodup : columns.Nodup)
    (h : rowTuple strict columns index row = .ok (values, misaligned)) :
    values = row.tuple columns ∧ (strict = true → row.HasColumns columns) := by
  rw [rowTuple] at h
  by_cases hcolumns : row.HasColumns columns
  · rw [Row.aligned?_eq_some_tuple hnodup hcolumns] at h
    cases h
    exact ⟨rfl, fun _ => hcolumns⟩
  · have hnone : row.aligned? columns = none := by
      rw [← Option.not_isSome_iff_eq_none, Row.isSome_aligned?_iff hnodup]
      exact hcolumns
    rw [hnone] at h
    cases strict with
    | true => cases h
    | false =>
      cases h
      refine ⟨?_, fun h => absurd h Bool.false_ne_true⟩
      rw [Row.tuple, if_neg hcolumns]

/-- Rows of which none is refused add their tuples one by one. -/
theorem tuplesFrom_eq_ok {strict : Bool} {columns : List String} {rows : List Row} {index : Nat}
    {tuples : Tuples} (hnodup : columns.Nodup)
    (h : tuplesFrom strict columns index rows = .ok tuples) :
    tuples.values = rows.map (Row.tuple columns) ∧
      (strict = true → ∀ row ∈ rows, row.HasColumns columns) := by
  induction rows generalizing index tuples with
  | nil =>
    cases h
    exact ⟨rfl, fun _ row hrow => absurd hrow List.not_mem_nil⟩
  | cons row rest ih =>
    rw [tuplesFrom] at h
    cases hr : rowTuple strict columns index row with
    | error e =>
      rw [hr] at h
      cases h
    | ok pair =>
      obtain ⟨values, misaligned⟩ := pair
      rw [hr] at h
      change (tuplesFrom strict columns (index + 1) rest >>= fun others => Except.ok _) = _ at h
      cases ht : tuplesFrom strict columns (index + 1) rest with
      | error e =>
        rw [ht] at h
        cases h
      | ok others =>
        rw [ht] at h
        cases h
        obtain ⟨hvalues, hcolumns⟩ := rowTuple_eq_ok hnodup hr
        obtain ⟨hothers, hrest⟩ := ih ht
        refine ⟨?_, fun hstrict => ?_⟩
        · rw [hvalues, hothers, List.map_cons]
        · exact List.forall_mem_cons.mpr ⟨hcolumns hstrict, hrest hstrict⟩

/-- Where rows have to agree, every tuple has the values of its row in the order of the columns. -/
theorem tuplesFrom_strict {columns : List String} {rows : List Row} {index : Nat} {tuples : Tuples}
    (hnodup : columns.Nodup) (h : tuplesFrom true columns index rows = .ok tuples) :
    List.Forall₂ (fun row values => row.aligned? columns = some values) rows tuples.values := by
  obtain ⟨hvalues, hcolumns⟩ := tuplesFrom_eq_ok hnodup h
  rw [hvalues, List.forall₂_map_right_iff, List.forall₂_same]
  exact fun row hrow => Row.aligned?_eq_some_tuple hnodup (hcolumns rfl row hrow)

/-- Tuples of rows that are aligned with columns have one value for each column. -/
theorem width_of_forall₂ {columns : List String} {rows : List Row} {tuples : List (List Value)}
    (h : List.Forall₂ (fun row values => row.aligned? columns = some values) rows tuples) :
    ∀ values ∈ tuples, values.length = columns.length := by
  induction h with
  | nil => exact fun values hvalues => absurd hvalues List.not_mem_nil
  | cons hrow _ ih => exact List.forall_mem_cons.mpr ⟨Row.length_of_aligned? hrow, ih⟩

/-- The values of an insertion are those of its tuples. -/
theorem values_insertTemplate (table : String) (columns : List String)
    (tuples : List (List Value)) :
    (insertTemplate table columns tuples).values = tuples.flatten := by
  have hlists : tuples.flatMap (fun values => (Template.list values).values) = tuples.flatten := by
    simp only [Template.values_list, List.flatMap_id']
  rw [insertTemplate, Template.values, Template.values_join, List.flatMap_map]
  exact hlists

end SqlDraft
