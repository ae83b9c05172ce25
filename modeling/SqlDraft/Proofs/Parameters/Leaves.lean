import SqlDraft.Proofs.Rows.Alignment
import SqlDraft.Proofs.Writing.Making

/-!
# The values of a query

The leaves of a condition are its operands from left to right, a list of operands item by item. The
parameters of a query are the leaves of its conditions and the values that it assigns or inserts, in
the order of its text, and nothing else.
-/

namespace SqlDraft

/-! ## Leaves -/

/-- A list operator has one operand for each item, and none for an empty list. -/
def Operand.leaves : Operand → List Value
  | .literal v => [v]
  | .compare op v => if op.takesList then v.items else [v]

/-- The values of a term, in the order of its columns. -/
def Term.leaves (t : Term) : List Value := t.values.flatMap Operand.leaves

namespace Condition

mutual

/-- The operands of a condition from left to right. -/
def leaves : Condition → List Value
  | .term t => Term.leaves t
  | .and children | .or children => leavesOfAll children

/-- The operands of several conditions, one condition after the other. -/
def leavesOfAll : List Condition → List Value
  | [] => []
  | c :: rest => leaves c ++ leavesOfAll rest

end

end Condition

/-! ## Leaves are the values of templates -/

/-- The template of a comparison has the values of its operand. -/
theorem Operand.values_template (column : String) (operand : Operand) :
    (operand.template column).values = operand.leaves := by
  cases operand with
  | literal v => rfl
  | compare op v =>
    simp only [Operand.template, Operand.leaves]
    by_cases hlist : op.takesList = true
    · simp only [hlist, ite_true]
      by_cases hitems : v.items.isEmpty = true
      · -- An empty list is a constant in the text, and binds nothing.
        rw [if_pos hitems, Template.values_ofText, List.isEmpty_iff.mp hitems]
      · rw [if_neg hitems, Template.values, Template.values_list]
    · simp only [hlist, Bool.false_eq_true, ite_false]
      rfl

/-- The template of a term has its values. -/
theorem Term.values_template (t : Term) : (Term.template t).values = Term.leaves t := by
  rw [Term.template, Term.leaves, Keyed.values]
  by_cases hempty : t.isEmpty = true
  · rw [if_pos hempty, Template.values_ofText, List.isEmpty_iff.mp hempty]
    rfl
  · rw [if_neg hempty, allOf, Template.values_join, List.flatMap_map, List.flatMap_map]
    exact congrArg (fun f => t.entries.flatMap f)
      (funext fun entry => entry.2.values_template entry.1)

/-- The template of a group has the values of its parts, and none besides. -/
theorem values_groupTemplate (separator empty : String) (children : List Template) :
    (groupTemplate separator empty children).values = children.flatMap Template.values := by
  rw [groupTemplate, List.cons_append, Template.values, Template.values_append]
  cases children with
  | nil => rfl
  | cons t rest =>
    simp only [List.isEmpty_cons, Bool.false_eq_true, ite_false, Template.values_join,
      Template.values, List.append_nil]

namespace Condition

mutual

/-- The template of a condition has a slot for each of its leaves, in their order. -/
theorem values_template : (c : Condition) → c.template.values = c.leaves
  | .term t => by rw [template, leaves, Term.values_template]
  | .and children => by
    rw [template, leaves, values_groupTemplate, flatMap_values_templates children]
  | .or children => by
    rw [template, leaves, values_groupTemplate, flatMap_values_templates children]

/-- The templates of conditions have their values. -/
theorem flatMap_values_templates : (cs : List Condition) →
    (templates cs).flatMap Template.values = leavesOfAll cs
  | [] => rfl
  | c :: rest => by
    rw [templates, leavesOfAll, List.flatMap_cons, values_template c,
      flatMap_values_templates rest]

end

end Condition

/-- A predicate has the values of its conditions. -/
theorem values_predicate (conditions : List Condition) :
    (predicate conditions).values = Condition.leavesOfAll conditions := by
  rw [predicate]
  by_cases hempty : conditions.isEmpty = true
  · rw [if_pos hempty, Template.values_ofText, List.isEmpty_iff.mp hempty]
    rfl
  · rw [if_neg hempty, allOf, Template.values_join, ← Condition.templates_eq_map,
      Condition.flatMap_values_templates]

/-- A clause with conditions has their values. -/
theorem values_whereClause (conditions : List Condition) :
    (whereClause conditions).flatMap Template.values = Condition.leavesOfAll conditions := by
  rw [whereClause]
  by_cases hempty : conditions.isEmpty = true
  · rw [if_pos hempty, List.isEmpty_iff.mp hempty]
    rfl
  · rw [if_neg hempty, List.flatMap_singleton, Template.values, values_predicate]

/-- A join has the values of its conditions. -/
theorem Join.values_template (j : Join) : j.template.values = Condition.leavesOfAll j.on := by
  rw [Join.template, Template.values, values_predicate]

/-- Texts without values bind nothing. -/
theorem flatMap_values_ofText (texts : List String) :
    (texts.map Template.ofText).flatMap Template.values = [] := by
  rw [List.flatMap_map]
  exact List.flatMap_eq_nil_iff.mpr fun _ _ => rfl

/-- Assignments have the values that they assign. -/
theorem values_assignmentTemplates (entries : List (String × Value)) :
    (entries.map assignmentTemplate).flatMap Template.values = entries.map Prod.snd := by
  rw [List.flatMap_map, List.map_eq_flatMap]
  rfl

/-! ## What a statement binds -/

/-- The columns that an insertion names, which are those of its first row. -/
def Draft.insertedColumns (d : Draft) : List String := (d.rows.head?.map Row.columns).getD []

/-- The values that a statement of the given kind binds. -/
def Draft.boundValues (d : Draft) : StatementKind → List Value
  | .select =>
    d.joins.flatMap (fun j => Condition.leavesOfAll j.on) ++ Condition.leavesOfAll d.filters
  | .update => d.assignments.values ++ Condition.leavesOfAll d.filters
  | .insert => d.rows.flatMap (Row.tuple d.insertedColumns)
  | .delete => Condition.leavesOfAll d.filters

namespace Statement

/-- A selection has the values of its joins, then those of its filter. -/
theorem values_select {strict : Bool} {columns : List String} {source : String}
    {joins : List Join} {filters : List Condition} {ordering grouping : List String} {r : Rendered}
    (h : (Statement.select columns source joins filters ordering grouping).render strict = .ok r) :
    r.template.values =
      joins.flatMap (fun j => Condition.leavesOfAll j.on) ++ Condition.leavesOfAll filters := by
  cases h
  have hjoins : (joins.map Join.template).flatMap Template.values =
      joins.flatMap fun j => Condition.leavesOfAll j.on := by
    rw [List.flatMap_map]
    exact congrArg (fun f => joins.flatMap f) (funext Join.values_template)
  simp only [spacedTemplates, Template.values_join, List.flatMap_append, List.flatMap_cons,
    List.flatMap_nil, Template.values_ofText, flatMap_values_ofText, values_whereClause, hjoins,
    List.nil_append, List.append_nil]

/-- An update has the values that it assigns, then those of its filter. -/
theorem values_update {strict : Bool} {table : String} {assignments : Row}
    {filters : List Condition} {r : Rendered}
    (h : (Statement.update table assignments filters).render strict = .ok r) :
    r.template.values = assignments.values ++ Condition.leavesOfAll filters := by
  cases h
  rw [spacedTemplates, Template.values_join, List.flatMap_cons, values_whereClause,
    Template.values, Template.values_join, values_assignmentTemplates]
  rfl

/-- A deletion has the values of its filter. -/
theorem values_delete {strict : Bool} {table : String} {filters : List Condition} {r : Rendered}
    (h : (Statement.delete table filters).render strict = .ok r) :
    r.template.values = Condition.leavesOfAll filters := by
  cases h
  rw [spacedTemplates, Template.values_join, List.flatMap_cons, values_whereClause,
    Template.values_ofText, List.nil_append]

/-- An insertion binds the tuples of its rows, and has no rows with other columns where rows have to
agree. -/
theorem values_insert {strict : Bool} {table : String} {rows : List Row} {r : Rendered}
    (h : (Statement.insert table rows).render strict = .ok r) :
    ∃ first, rows.head? = some first ∧
      r.template.values = rows.flatMap (Row.tuple first.columns) ∧
      (strict = true → ∀ row ∈ rows, row.HasColumns first.columns) := by
  obtain ⟨first, tuples, hfirst, -, htuples, htemplate, -⟩ := render_insert h
  obtain ⟨hvalues, hcolumns⟩ := tuplesFrom_eq_ok first.nodup_columns htuples
  refine ⟨first, hfirst, ?_, hcolumns⟩
  rw [htemplate, values_insertTemplate, hvalues, List.flatMap_def]

end Statement

namespace Draft

/-- The parameters of a query are the values that its statement binds, each of them once and in
order. Where rows to insert have to agree, all of them have the columns of the first one. -/
theorem params_of_buildQuery {d : Draft} {q : Query} (h : d.buildQuery.result = .ok q) :
    q.params = d.boundValues q.kind ∧
      (q.kind = .insert → d.config.strictRows = true →
        ∀ row ∈ d.rows, row.HasColumns d.insertedColumns) := by
  obtain ⟨s, r, hmakes, hrender, hkind, -, hparams⟩ := makes_of_buildQuery h
  rw [hkind, hparams]
  cases hmakes with
  | select _ _ => exact ⟨Statement.values_select hrender, fun hinsert => by cases hinsert⟩
  | update _ _ => exact ⟨Statement.values_update hrender, fun hinsert => by cases hinsert⟩
  | delete _ => exact ⟨Statement.values_delete hrender, fun hinsert => by cases hinsert⟩
  | insert _ =>
    obtain ⟨first, hfirst, hvalues, hcolumns⟩ := Statement.values_insert hrender
    have hinserted : d.insertedColumns = first.columns := by
      rw [insertedColumns, hfirst]
      rfl
    rw [hinserted]
    refine ⟨?_, fun _ => hcolumns⟩
    rw [hvalues, ← hinserted]
    rfl

/-- Rows in three orders: the second has the columns of the first one the other way round, and the
third has another column in the place of one of them. -/
def unevenRows : Draft :=
  (empty (Config.default.withStrictRows false)).addAll [
    .row (Keyed.ofList [("id", .int 1), ("tags", .list [.text "a", .list []])]),
    .insertInto "items",
    .row (Keyed.ofList [("tags", .null), ("id", .int 2)]),
    .row (Keyed.ofList [("price", .text "$1"), ("id", .int 3)])]

/-- A row keeps its order only where its columns are others. -/
theorem params_unevenRows :
    unevenRows.buildQuery.result =
      .ok ⟨.insert, "INSERT INTO items (id, tags) VALUES ($1, $2), ($3, $4), ($5, $6)",
        [.int 1, .list [.text "a", .list []], .int 2, .null, .text "$1", .int 3]⟩ ∧
    [.int 1, .list [.text "a", .list []], .int 2, .null, .text "$1", .int 3] =
      unevenRows.boundValues .insert :=
  ⟨rfl, (params_of_buildQuery (d := unevenRows) (q := ⟨.insert, _, _⟩) rfl).1⟩

end Draft

end SqlDraft
