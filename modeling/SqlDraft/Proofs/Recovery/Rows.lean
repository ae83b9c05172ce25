import SqlDraft.Proofs.Rows.Alignment

/-!
# Rows from their values

The tuples of an insertion have the width of its first row, so they are read off the flat list of
the values. A tuple determines its row, up to the order of the columns: the row has a value for each
of the columns of the first row, and no other columns.
-/

namespace SqlDraft

/-- Two rows that give the same value to every column. -/
def Row.SameMapping (r s : Row) : Prop := ∀ column, r.get? column = s.get? column

/-! ## Tuples -/

private theorem length_flatten_of_width {α : Type} {width : Nat} {tuples : List (List α)}
    (h : ∀ values ∈ tuples, values.length = width) :
    tuples.flatten.length = tuples.length * width := by
  induction tuples with
  | nil => exact (Nat.zero_mul width).symm
  | cons values rest ih =>
    have hfirst := h values List.mem_cons_self
    have hrest := ih fun others hothers => h others (List.mem_cons_of_mem values hothers)
    rw [List.flatten_cons, List.length_append, hfirst, hrest, List.length_cons, Nat.succ_mul]
    omega

/-- Tuples of one width, of which none is empty, are read off the list of their items. -/
theorem eq_of_flatten_eq {α : Type} {width : Nat} (hwidth : 0 < width)
    {tuples tuples' : List (List α)} (h : ∀ values ∈ tuples, values.length = width)
    (h' : ∀ values ∈ tuples', values.length = width) (hflat : tuples.flatten = tuples'.flatten) :
    tuples = tuples' := by
  have hcount : tuples.length = tuples'.length := by
    have hlength := congrArg List.length hflat
    rw [length_flatten_of_width h, length_flatten_of_width h'] at hlength
    exact Nat.eq_of_mul_eq_mul_right hwidth hlength
  refine List.eq_iff_flatten_eq.mpr ⟨hflat, ?_⟩
  have hwidths (ts : List (List α)) (hts : ∀ values ∈ ts, values.length = width) :
      ts.map List.length = List.replicate ts.length width :=
    List.eq_replicate_iff.mpr ⟨List.length_map _, fun n hn => by
      obtain ⟨values, hvalues, rfl⟩ := List.mem_map.mp hn
      exact hts values hvalues⟩
  rw [hwidths tuples h, hwidths tuples' h', hcount]

namespace Row

/-- Two rows with one tuple are the same mapping. -/
theorem sameMapping_of_aligned? {r s : Row} {columns : List String} {values : List Value}
    (hnodup : columns.Nodup) (hr : r.aligned? columns = some values)
    (hs : s.aligned? columns = some values) : r.SameMapping s := by
  intro column
  by_cases hmem : column ∈ columns
  · have hall := (aligned?_eq_some_iff.mp hr).2.trans (aligned?_eq_some_iff.mp hs).2.symm
    exact List.map_inj_left.mp hall column hmem
  · have hnone (t : Row) (ht : t.aligned? columns = some values) : t.get? column = none := by
      have hcolumn : ¬ column ∈ t.keys := fun hc =>
        hmem ((mem_columns_iff_of_aligned? hnodup ht column).mp hc)
      rw [Keyed.mem_keys_iff] at hcolumn
      exact Option.not_isSome_iff_eq_none.mp hcolumn
    rw [hnone r hr, hnone s hs]

end Row

/-- Two lists of rows with the same tuples are the same mappings one by one. -/
theorem sameMapping_of_forall₂ {columns : List String} (hnodup : columns.Nodup)
    {rows rows' : List Row} {tuples : List (List Value)}
    (h : List.Forall₂ (fun row values => row.aligned? columns = some values) rows tuples)
    (h' : List.Forall₂ (fun row values => row.aligned? columns = some values) rows' tuples) :
    List.Forall₂ Row.SameMapping rows rows' := by
  induction h generalizing rows' with
  | nil =>
    cases h'
    exact .nil
  | cons hrow _ ih =>
    cases h' with
    | cons hrow' hrest' => exact .cons (Row.sameMapping_of_aligned? hnodup hrow hrow') (ih hrest')

end SqlDraft
