import Mathlib.Data.List.SplitLengths
import SqlDraft.Proofs.Rows.Insertion

/-!
# Insertions whose rows need not agree

An insertion that is written where its rows have to agree is written alike where they need not, and
nothing is warned of. Where they need not agree, only a first row without columns is refused. Every
row then has a tuple: a row with the columns of the first one is put in their order, and any other
keeps its own order and width, so that the placeholders go on over tuples of different widths.
-/

namespace SqlDraft

/-! ## Rows that agree -/

/-- A row that has to agree, and does, adds the same values where it need not. -/
theorem rowTuple_of_strict {columns : List String} {index : Nat} {row : Row}
    {tuple : List Value × List Nat} (h : rowTuple true columns index row = .ok tuple)
    (strict : Bool) : rowTuple strict columns index row = .ok tuple := by
  rw [rowTuple] at h ⊢
  cases ha : row.aligned? columns with
  | none =>
    rw [ha] at h
    cases h
  | some values =>
    rw [ha] at h
    exact h

/-- Rows that have to agree, and do, have the same tuples where they need not, and none of them is
noted. -/
theorem tuplesFrom_of_strict {columns : List String} {rows : List Row} {index : Nat}
    {tuples : Tuples} (h : tuplesFrom true columns index rows = .ok tuples) (strict : Bool) :
    tuplesFrom strict columns index rows = .ok tuples ∧ tuples.misaligned = [] := by
  induction rows generalizing index tuples with
  | nil =>
    cases h
    exact ⟨rfl, rfl⟩
  | cons row rest ih =>
    rw [tuplesFrom] at h
    obtain ⟨⟨values, misaligned⟩, hrow, h⟩ := bind_eq_ok_iff.mp h
    obtain ⟨others, hothers, h⟩ := bind_eq_ok_iff.mp h
    cases h
    obtain ⟨hrest, hnone⟩ := ih hothers
    refine ⟨?_, ?_⟩
    · rw [tuplesFrom, bind_eq_ok_iff]
      exact ⟨_, rowTuple_of_strict hrow strict, bind_eq_ok_iff.mpr ⟨others, hrest, rfl⟩⟩
    · change misaligned ++ others.misaligned = []
      rw [rowTuple_strict hrow, hnone, List.append_nil]

/-- A statement that is written where rows have to agree is the same where they need not. -/
theorem Statement.render_of_strict {s : Statement} {r : Rendered} (h : s.render true = .ok r)
    (strict : Bool) : s.render strict = .ok r ∧ r.warnings = [] := by
  cases s with
  | select =>
    cases h
    exact ⟨rfl, rfl⟩
  | update =>
    cases h
    exact ⟨rfl, rfl⟩
  | delete =>
    cases h
    exact ⟨rfl, rfl⟩
  | insert table rows =>
    obtain ⟨first, tuples, hfirst, hne, htuples, htemplate, hwarnings⟩ := render_insert h
    obtain ⟨rest, rfl⟩ := List.head?_eq_some_iff.mp hfirst
    obtain ⟨hwritten, hnone⟩ := tuplesFrom_of_strict htuples strict
    have hempty : ¬ first.isEmpty = true := fun he => hne (first.isEmpty_iff_keys.mp he)
    rw [hnone, List.map_nil] at hwarnings
    refine ⟨?_, hwarnings⟩
    rw [render_insert_cons, if_neg hempty, hwritten, map_eq_ok_iff]
    refine ⟨tuples, rfl, ?_⟩
    rw [hnone, ← htemplate, List.map_nil, ← hwarnings]

/-! ## Tuples of different widths -/

/-- Lists are numbered throughout: each of them has as many of the consecutive placeholders as it
has values. -/
theorem Template.numberedAll_lists_eq_splitLengths (tuples : List (List Value)) (first : Nat) :
    numberedAll first (tuples.map list) =
      ((tuples.map List.length).splitLengths
        (placeholdersFrom first tuples.flatten.length)).map tupleText := by
  induction tuples generalizing first with
  | nil => rfl
  | cons values rest ih =>
    have hwidth : (placeholdersFrom first values.length).length = values.length :=
      length_placeholdersFrom first values.length
    rw [List.map_cons, numberedAll, numbered_list, values_list, ih, List.map_cons,
      List.flatten_cons, List.length_append, placeholdersFrom_add, List.splitLengths_cons,
      List.take_left' hwidth, List.drop_left' hwidth, List.map_cons]

/-- The placeholders of an insertion go on from tuple to tuple, whatever the widths of the
tuples. -/
theorem numbered_insertTemplate_eq_splitLengths (table : String) (columns : List String)
    (tuples : List (List Value)) :
    (insertTemplate table columns tuples).numbered 1 =
      insertionText table columns
        ((tuples.map List.length).splitLengths (placeholdersFrom 1 tuples.flatten.length)) := by
  rw [insertTemplate, Template.numbered, Template.numbered_join_eq_numberedAll,
    Template.numberedAll_lists_eq_splitLengths]
  rfl

/-! ## Drafts -/

/-- The events warn of no row to insert. -/
def Unwarned (events : List Event) : Prop := ∀ table row, Event.misaligned table row ∉ events

namespace Draft

/-- A draft whose rows to insert have to agree, or need not. -/
def withStrictRows (d : Draft) (strict : Bool) : Draft :=
  { d with config := d.config.withStrictRows strict }

/-- What is rendered where rows have to agree is rendered alike where they need not. -/
theorem render_of_strict {d : Draft} {s : Statement} {r : Rendered}
    (h : (d.withStrictRows true).render = .ok (s, r)) :
    (d.withStrictRows false).render = .ok (s, r) ∧ r.warnings = [] := by
  obtain ⟨hstatement, hrender⟩ := render_eq_ok_iff.mp h
  obtain ⟨hlenient, hnone⟩ := Statement.render_of_strict hrender false
  exact ⟨render_eq_ok_iff.mpr ⟨hstatement, hlenient⟩, hnone⟩

/-- What is finished without warnings warns of no row. -/
theorem unwarned_shown {config : Config} {r : Rendered} (h : r.warnings = []) (kind : StatementKind)
    (parameters : Nat) (sql : String) :
    Unwarned (config.shown (r.warnings ++ [.built kind parameters sql])) := by
  intro table row hmem
  rw [h, List.nil_append, Config.shown] at hmem
  split at hmem
  · cases List.mem_singleton.mp hmem
  · cases hmem

/-- A draft that is built where rows have to agree is built alike where they need not. -/
theorem build_of_strict {d : Draft} {sql : String}
    (h : (d.withStrictRows true).build.result = .ok sql) :
    (d.withStrictRows false).build = (d.withStrictRows true).build ∧
      Unwarned (d.withStrictRows false).build.events := by
  obtain ⟨s, r, hr, -⟩ := exists_render_of_build h
  obtain ⟨hlenient, hnone⟩ := render_of_strict hr
  rw [build_eq, build_eq, hr, hlenient]
  exact ⟨rfl, unwarned_shown hnone _ _ _⟩

/-- A query that is made where rows have to agree is made alike where they need not. -/
theorem buildQuery_of_strict {d : Draft} {q : Query}
    (h : (d.withStrictRows true).buildQuery.result = .ok q) :
    (d.withStrictRows false).buildQuery = (d.withStrictRows true).buildQuery ∧
      Unwarned (d.withStrictRows false).buildQuery.events := by
  obtain ⟨s, r, hr, -⟩ := exists_render_of_buildQuery h
  obtain ⟨hlenient, hnone⟩ := render_of_strict hr
  rw [buildQuery_eq, buildQuery_eq, hr, hlenient]
  exact ⟨rfl, unwarned_shown hnone _ _ _⟩

/-- Both outputs of a draft insert one tuple for each row. A row with the columns has its value at
each of them, and any other row has all of its values in its own order. -/
structure InsertsEach (d : Draft) (table : String) (columns : List String)
    (tuples : List (List Value)) : Prop where
  tuples_eq : List.Forall₂ (fun row values =>
    (row.HasColumns columns → columns.map row.get? = values.map some) ∧
      (¬ row.HasColumns columns → values = row.values)) d.rows tuples
  build_eq : d.build.result =
    .ok (insertionText table columns (tuples.map (List.map fun v => "'" ++ v.plainText ++ "'")))
  query_eq : d.buildQuery.result = .ok ⟨.insert,
    insertionText table columns
      ((tuples.map List.length).splitLengths (placeholdersFrom 1 tuples.flatten.length)),
    tuples.flatten⟩

/-- An insertion whose rows need not agree has a tuple for each of them. -/
theorem insertsEach_of_statement {d : Draft} {table : String} {first : Row} {rest : List Row}
    (hrows : d.rows = first :: rest)
    (hstatement : d.statement = .ok (.insert table (first :: rest)))
    (hlenient : d.config.strictRows = false) (hne : first.columns ≠ []) :
    d.InsertsEach table first.columns (d.rows.map (Row.tuple first.columns)) := by
  have hempty : ¬ first.isEmpty = true := fun he => hne (first.isEmpty_iff_keys.mp he)
  obtain ⟨tuples, htuples⟩ := tuplesFrom_lenient first.columns (first :: rest) 0
  have hvalues := (tuplesFrom_eq_ok first.nodup_columns htuples).1
  obtain ⟨hbuild, hquery⟩ := result_of_statement hstatement
  rw [hlenient, render_insert_cons, if_neg hempty, htuples] at hbuild hquery
  rw [hrows, ← hvalues]
  refine ⟨?_, ?_, ?_⟩
  · rw [hrows, hvalues, List.forall₂_map_right_iff, List.forall₂_same]
    refine fun row _ => ⟨fun hcolumns => ?_, fun hcolumns => ?_⟩
    · exact (Row.aligned?_eq_some_iff.mp
        (Row.aligned?_eq_some_tuple first.nodup_columns hcolumns)).2
    · rw [Row.tuple, if_neg hcolumns]
  · rw [hbuild]
    exact congrArg Except.ok (inline_insertTemplate table first.columns tuples.values)
  · rw [hquery, ← numbered_insertTemplate_eq_splitLengths,
      ← values_insertTemplate table first.columns tuples.values]
    rfl

/-- Where rows need not agree, an insertion extends what it is where they have to. Whatever is
written where they have to agree is the same text with the same values and the same events, none of
which is a warning. A first row without columns is refused in either case and for one reason, and no
other rows are refused where they need not agree: each of them then has its tuple. -/
theorem lenient_insertion {d : Draft} (hkind : d.kind = .ok .insert) :
    ∃ table first rest, d.insertedInto = some table ∧ d.rows = first :: rest ∧
      (∀ sql, (d.withStrictRows true).build.result = .ok sql →
        (d.withStrictRows false).build = (d.withStrictRows true).build ∧
          Unwarned (d.withStrictRows false).build.events) ∧
      (∀ q, (d.withStrictRows true).buildQuery.result = .ok q →
        (d.withStrictRows false).buildQuery = (d.withStrictRows true).buildQuery ∧
          Unwarned (d.withStrictRows false).buildQuery.events) ∧
      (first.columns = [] →
        (d.withStrictRows true).Refused (.invalidStatement (.emptyFirstRow table)) ∧
          (d.withStrictRows false).Refused (.invalidStatement (.emptyFirstRow table))) ∧
      (first.columns ≠ [] →
        ∃ tuples, (d.withStrictRows false).InsertsEach table first.columns tuples) := by
  obtain ⟨table, first, rest, htable, hrows, hstatement⟩ := insertion_of_kind hkind
  have hmode (strict : Bool) :
      (d.withStrictRows strict).statement = .ok (.insert table (first :: rest)) := hstatement
  refine ⟨table, first, rest, htable, hrows, fun _ => build_of_strict, fun _ => buildQuery_of_strict,
    fun hnil => ?_, fun hne => ?_⟩
  · have hrefused (strict : Bool) :
        (d.withStrictRows strict).Refused (.invalidStatement (.emptyFirstRow table)) := by
      refine refused_of_render (hmode strict) ?_
      rw [render_insert_cons, if_pos (first.isEmpty_iff_keys.mpr hnil)]
    exact ⟨hrefused true, hrefused false⟩
  · exact ⟨_, insertsEach_of_statement hrows (hmode false) rfl hne⟩

/-- A row with one other column, and after it one with the columns of the first row. -/
def narrowRows : List Row :=
  [Keyed.ofList [("age", .int 3)], Keyed.ofList [("name", .text "$1"), ("id", .int 4)]]

/-- The narrow row keeps its column and the placeholders go on behind it, and without it nothing
depends on whether rows have to agree. -/
theorem lenient_insertion_insertingAfterTwo :
    (insertingAfterTwo narrowRows).kind = .ok .insert ∧
    ((insertingAfterTwo narrowRows).withStrictRows false).buildQuery.result = .ok ⟨.insert,
      "INSERT INTO items (id, name) VALUES ($1, $2), ($3, $4), ($5), ($6, $7)",
      [.int 1, .null, .int 2, .text "b", .int 3, .int 4, .text "$1"]⟩ ∧
    (∃ tuples, ((insertingAfterTwo narrowRows).withStrictRows false).InsertsEach "items"
      ["id", "name"] tuples) ∧
    (insertingAfterTwo []).kind = .ok .insert ∧
    ((insertingAfterTwo []).withStrictRows true).build.result =
      .ok "INSERT INTO items (id, name) VALUES ('1', 'null'), ('2', 'b')" ∧
    ((insertingAfterTwo []).withStrictRows false).build =
      ((insertingAfterTwo []).withStrictRows true).build := by
  refine ⟨rfl, rfl, ?_, rfl, rfl, ?_⟩
  · obtain ⟨table, first, rest, htable, hrows, -, -, -, hwritten⟩ := lenient_insertion
      (d := insertingAfterTwo narrowRows) rfl
    obtain ⟨rfl, -⟩ := List.cons.inj hrows
    cases htable
    exact hwritten (by decide)
  · obtain ⟨table, first, rest, -, -, hbuild, -⟩ := lenient_insertion
      (d := insertingAfterTwo []) rfl
    exact (hbuild _ rfl).1

end Draft

end SqlDraft
