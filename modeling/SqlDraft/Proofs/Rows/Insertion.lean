import SqlDraft.Proofs.Rows.Disagreement
import SqlDraft.Proofs.Writing.Making
import SqlDraft.Proofs.Writing.Numbering

/-!
# Insertions whose rows have to agree

An insertion whose rows have to agree is a rectangle: every row has a value for each column of the
first row and for no other column. It is written with one tuple for each row, in the order of these
columns, and anything else is refused at its first row that does not fit.
-/

namespace SqlDraft

/-- The text of an insertion of tuples of texts. -/
def insertionText (table : String) (columns : List String) (tuples : List (List String)) : String :=
  "INSERT INTO " ++ table ++ " (" ++ ", ".intercalate columns ++ ") VALUES " ++
    ", ".intercalate (tuples.map tupleText)

namespace Template

/-- Lists of one width are numbered in steps of their width. -/
theorem numberedAll_lists {width : Nat} {tuples : List (List Value)}
    (h : ∀ values ∈ tuples, values.length = width) (first : Nat) :
    numberedAll first (tuples.map list) =
      (List.range tuples.length).map fun i =>
        tupleText (placeholdersFrom (first + i * width) width) := by
  induction tuples generalizing first with
  | nil => rfl
  | cons values rest ih =>
    obtain ⟨hvalues, hrest⟩ := List.forall_mem_cons.mp h
    have hshift (i : Nat) : first + width + i * width = first + (i + 1) * width := by
      rw [Nat.succ_mul]
      omega
    rw [List.map_cons, numberedAll, numbered_list, values_list, hvalues, ih hrest,
      List.length_cons, List.range_succ_eq_map, List.map_cons, List.map_map, Nat.zero_mul,
      Nat.add_zero]
    simp only [hshift]
    rfl

end Template

open Template

/-- The text of an insertion has the tuples of its rows. -/
theorem inline_insertTemplate (table : String) (columns : List String)
    (tuples : List (List Value)) :
    (insertTemplate table columns tuples).inline =
      insertionText table columns (tuples.map (List.map Value.inline)) := by
  have hlists : (tuples.map list).map Template.inline =
      (tuples.map (List.map Value.inline)).map tupleText := by
    rw [List.map_map, List.map_map]
    exact List.map_congr_left fun values _ => inline_list values
  rw [insertTemplate, Template.inline, inline_join, hlists]
  rfl

/-- The placeholders of an insertion go on from tuple to tuple. -/
theorem numbered_insertTemplate (table : String) (columns : List String) {width : Nat}
    {tuples : List (List Value)} (h : ∀ values ∈ tuples, values.length = width) :
    (insertTemplate table columns tuples).numbered 1 =
      insertionText table columns
        ((List.range tuples.length).map fun i => placeholdersFrom (1 + i * width) width) := by
  have htexts : numberedAll 1 (tuples.map list) =
      ((List.range tuples.length).map fun i =>
        placeholdersFrom (1 + i * width) width).map tupleText := by
    rw [numberedAll_lists h, List.map_map]
    rfl
  rw [insertTemplate, numbered, numbered_join_eq_numberedAll, htexts]
  rfl

/-- Where rows have to agree, an insertion is written just if its first row has columns and all of
its rows have the same ones. -/
theorem exists_render_insert_iff {table : String} {first : Row} {rest : List Row} :
    (∃ r, (Statement.insert table (first :: rest)).render true = .ok r) ↔
      first.columns ≠ [] ∧ ∀ row ∈ first :: rest, row.HasColumns first.columns := by
  rw [render_insert_cons]
  by_cases hempty : first.isEmpty = true
  · rw [if_pos hempty]
    constructor
    · rintro ⟨r, h⟩
      cases h
    · rintro ⟨hne, -⟩
      exact absurd (first.isEmpty_iff_keys.mp hempty) hne
  · have hne : first.columns ≠ [] := fun hnil => hempty (first.isEmpty_iff_keys.mpr hnil)
    rw [if_neg hempty, exists_map_eq_ok_iff, exists_tuplesFrom_eq_ok_iff first.nodup_columns,
      and_iff_right hne]
    exact ⟨fun h => h rfl, fun h _ => h⟩

namespace Draft

/-- A draft that makes an insertion has a table and a row. -/
theorem insertion_of_kind {d : Draft} (h : d.kind = .ok .insert) :
    ∃ table first rest, d.insertedInto = some table ∧ d.rows = first :: rest ∧
      d.statement = .ok (.insert table (first :: rest)) := by
  obtain ⟨s, hs, hkind⟩ := map_eq_ok_iff.mp h
  cases makes_of_statement hs with
  | select => cases hkind
  | update => cases hkind
  | delete => cases hkind
  | @insert table htable hrows =>
    obtain ⟨first, rest, hcons⟩ := List.exists_cons_of_ne_nil hrows
    rw [hcons] at hs
    exact ⟨table, first, rest, htable, hcons, hs⟩

/-- Neither output of a draft is made, for one reason. -/
def Refused (d : Draft) (e : Error) : Prop :=
  d.build.result = .error e ∧ d.buildQuery.result = .error e

/-- A draft whose statement cannot be rendered is refused with the error of the rendering. -/
theorem refused_of_render {d : Draft} {s : Statement} {e : Error} (h : d.statement = .ok s)
    (hrender : s.render d.config.strictRows = .error e) : d.Refused e := by
  obtain ⟨hbuild, hquery⟩ := result_of_statement h
  rw [hrender] at hbuild hquery
  exact ⟨hbuild, hquery⟩

/-- Both outputs of a draft insert one tuple for each row, which has the value of the row at each of
the columns. -/
structure Inserts (d : Draft) (table : String) (columns : List String)
    (tuples : List (List Value)) : Prop where
  tuples_eq : List.Forall₂ (fun row values => columns.map row.get? = values.map some) d.rows tuples
  build_eq : d.build.result =
    .ok (insertionText table columns (tuples.map (List.map fun v => "'" ++ v.plainText ++ "'")))
  query_eq : d.buildQuery.result = .ok ⟨.insert,
    insertionText table columns ((List.range d.rows.length).map fun i =>
      placeholdersFrom (1 + i * columns.length) columns.length),
    tuples.flatten⟩

/-- An insertion whose rows agree has a tuple for each of them. -/
theorem inserts_of_tuplesFrom {d : Draft} {table : String} {first : Row} {rest : List Row}
    {tuples : Tuples} (hrows : d.rows = first :: rest)
    (hstatement : d.statement = .ok (.insert table (first :: rest)))
    (hstrict : d.config.strictRows = true) (hne : first.columns ≠ [])
    (h : tuplesFrom true first.columns 0 (first :: rest) = .ok tuples) :
    d.Inserts table first.columns tuples.values := by
  have hempty : ¬ first.isEmpty = true := fun he => hne (first.isEmpty_iff_keys.mp he)
  have haligned := tuplesFrom_strict first.nodup_columns h
  have hcount : d.rows.length = tuples.values.length := by
    rw [hrows]
    exact haligned.length_eq
  obtain ⟨hbuild, hquery⟩ := result_of_statement hstatement
  rw [hstrict, render_insert_cons, if_neg hempty, h] at hbuild hquery
  refine ⟨?_, ?_, ?_⟩
  · rw [hrows]
    exact haligned.imp fun row values hrow => (Row.aligned?_eq_some_iff.mp hrow).2
  · rw [hbuild]
    exact congrArg Except.ok (inline_insertTemplate table first.columns tuples.values)
  · have htext := numbered_insertTemplate table first.columns (width_of_forall₂ haligned)
    have hvalues := values_insertTemplate table first.columns tuples.values
    rw [hquery, hcount, ← htext, ← hvalues]
    rfl

/-- An insertion whose rows have to agree succeeds just if its first row has columns and every row
has the same ones, and is then a rectangle of the values of the rows at these columns. Otherwise its
first row is empty, or it is refused with the first row that has other columns, which is not the
first row of all. -/
theorem strict_insertion {d : Draft} (hkind : d.kind = .ok .insert)
    (hstrict : d.config.strictRows = true) :
    ∃ table first rest, d.insertedInto = some table ∧ d.rows = first :: rest ∧
      ((∃ sql, d.build.result = .ok sql) ↔
        first.columns ≠ [] ∧ ∀ row ∈ d.rows, row.HasColumns first.columns) ∧
      ((∃ q, d.buildQuery.result = .ok q) ↔
        first.columns ≠ [] ∧ ∀ row ∈ d.rows, row.HasColumns first.columns) ∧
      (first.columns ≠ [] → (∀ row ∈ d.rows, row.HasColumns first.columns) →
        ∃ tuples, d.Inserts table first.columns tuples) ∧
      (first.columns = [] → d.Refused (.invalidStatement (.emptyFirstRow table))) ∧
      (first.columns ≠ [] → ∀ before row after, d.rows = before ++ row :: after →
        (∀ r ∈ before, r.HasColumns first.columns) → ¬ row.HasColumns first.columns →
        1 ≤ before.length ∧
          d.Refused (.malformedInsertRows before.length first.columns row.columns)) := by
  obtain ⟨table, first, rest, htable, hrows, hstatement⟩ := insertion_of_kind hkind
  obtain ⟨hbuild, hquery⟩ := result_of_statement hstatement
  rw [hstrict] at hbuild hquery
  refine ⟨table, first, rest, htable, hrows, ?_, ?_, ?_, ?_, ?_⟩
  · rw [hbuild, exists_map_eq_ok_iff, exists_render_insert_iff, hrows]
  · rw [hquery, exists_map_eq_ok_iff, exists_render_insert_iff, hrows]
  · intro hne hall
    rw [hrows] at hall
    have hwritten : ∃ tuples, tuplesFrom true first.columns 0 (first :: rest) = .ok tuples :=
      (exists_tuplesFrom_eq_ok_iff first.nodup_columns).mpr fun _ => hall
    obtain ⟨tuples, htuples⟩ := hwritten
    exact ⟨tuples.values, inserts_of_tuplesFrom hrows hstatement hstrict hne htuples⟩
  · intro hnil
    refine refused_of_render hstatement ?_
    rw [render_insert_cons, if_pos (first.isEmpty_iff_keys.mpr hnil)]
  · intro hne before row after hsplit hbefore hrow
    have hempty : ¬ first.isEmpty = true := fun he => hne (first.isEmpty_iff_keys.mp he)
    constructor
    · -- The first row of all has its own columns.
      cases before with
      | nil =>
        rw [hrows] at hsplit
        cases hsplit
        exact absurd rfl hrow
      | cons r before => exact Nat.succ_le_succ (Nat.zero_le _)
    · have hrefused : tuplesFrom true first.columns 0 (first :: rest) =
          .error (.malformedInsertRows before.length first.columns row.columns) := by
        rw [tuplesFrom_eq_error_iff first.nodup_columns]
        exact ⟨rfl, before, row, after, hrows.symm.trans hsplit, hbefore, hrow,
          by rw [Nat.zero_add]⟩
      refine refused_of_render hstatement ?_
      rw [hstrict, render_insert_cons, if_neg hempty, hrefused]
      rfl

/-- Two rows with the same columns, and more rows. -/
def insertingAfterTwo (more : List Row) : Draft :=
  (empty Config.default).addAll ([.insertInto "items",
    .row (Keyed.ofList [("id", .int 1), ("name", .null)]),
    .row (Keyed.ofList [("name", .text "b"), ("id", .int 2)])] ++ more.map .row)

/-- A row with another column, and an empty row. -/
def otherRows : List Row := [Keyed.ofList [("age", .int 3), ("id", .int 3)], ∅]

/-- The row with another column is refused by its index, and without the other rows the first two
are written. -/
theorem strict_insertion_insertingAfterTwo :
    (insertingAfterTwo otherRows).kind = .ok .insert ∧
    (insertingAfterTwo otherRows).config.strictRows = true ∧
    (insertingAfterTwo otherRows).Refused
      (.malformedInsertRows 2 ["id", "name"] ["age", "id"]) ∧
    (insertingAfterTwo []).kind = .ok .insert ∧
    (insertingAfterTwo []).config.strictRows = true ∧
    ∃ tuples, (insertingAfterTwo []).Inserts "items" ["id", "name"] tuples := by
  refine ⟨rfl, rfl, ?_, rfl, rfl, ?_⟩
  · obtain ⟨table, first, rest, -, hrows, -, -, -, -, hrefused⟩ := strict_insertion
      (d := insertingAfterTwo otherRows) rfl rfl
    obtain ⟨rfl, -⟩ := List.cons.inj hrows
    exact (hrefused (by decide) [_, _] _ [_] rfl (by decide) (by decide)).2
  · obtain ⟨table, first, rest, htable, hrows, -, -, hwritten, -⟩ := strict_insertion
      (d := insertingAfterTwo []) rfl rfl
    obtain ⟨rfl, -⟩ := List.cons.inj hrows
    cases htable
    exact hwritten (by decide) (by decide)

end Draft

end SqlDraft
