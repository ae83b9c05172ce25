import SqlDraft.Proofs.Writing.Readings

/-!
# Values do not influence the text

The skeleton of a draft is the draft without its values: of a list of operands it keeps the number
of items, and of any other value nothing. A draft and its skeleton have the same text with
placeholders, so that the text is a function of the skeleton.
-/

namespace SqlDraft

/-! ## Templates without their values -/

/-- A piece without its value. -/
def Piece.blank : Piece → Piece
  | .text s => .text s
  | .slot _ => .slot .null

namespace Template

/-- A template without its values. -/
def blank (t : Template) : Template := t.map Piece.blank

@[simp] theorem blank_append (s t : Template) : blank (s ++ t) = blank s ++ blank t :=
  List.map_append

/-- A separator holds no values. -/
theorem blank_join (separator : String) (templates : List Template) :
    blank (join separator templates) = join separator (templates.map blank) := by
  induction templates with
  | nil => rfl
  | cons t rest ih =>
    cases rest with
    | nil => rfl
    | cons u rest =>
      rw [join_cons_cons, blank_append, List.map_cons, List.map_cons, join_cons_cons]
      exact congrArg (fun u => blank t ++ Piece.text separator :: u) ih

/-- A list without its values keeps their number. -/
theorem blank_list (values : List Value) :
    blank (list values) = list (values.map fun _ => .null) := by
  rw [list, List.cons_append, list]
  change _ :: blank (_ ++ _) = _
  rw [blank_append, blank_join, List.map_map, List.map_map]
  rfl

/-- Placeholders do not show what they stand for. -/
theorem numbered_blank (t : Template) (first : Nat) :
    t.blank.numbered first = t.numbered first := by
  induction t generalizing first with
  | nil => rfl
  | cons piece rest ih =>
    cases piece with
    | text s => exact congrArg (s ++ ·) (ih first)
    | slot v => exact congrArg (placeholder first ++ ·) (ih (first + 1))

/-- A template keeps the number of its values without them. -/
theorem length_values_blank (t : Template) : t.blank.values.length = t.values.length := by
  induction t with
  | nil => rfl
  | cons piece rest ih =>
    cases piece with
    | text s => exact ih
    | slot v => exact congrArg (· + 1) ih

end Template

/-! ## Drafts without their values -/

/-- The values of a keyed list, each put through a function. -/
def Keyed.mapValues {α β : Type} (f : α → β) (m : Keyed α) : Keyed β where
  entries := m.entries.map fun entry => (entry.1, f entry.2)
  nodup_keys := by simpa only [List.map_map, Function.comp_def] using m.nodup_keys

/-- An operand without its value. A list of operands keeps the number of its items. -/
def Operand.skeleton : Operand → Operand
  | .literal _ => .literal .null
  | .compare op v =>
    .compare op (if op.takesList then .list (v.items.map fun _ => .null) else .null)

namespace Condition

mutual

/-- A condition without its values. -/
def skeleton : Condition → Condition
  | .term t => .term (t.mapValues Operand.skeleton)
  | .and children => .and (skeletons children)
  | .or children => .or (skeletons children)

/-- Conditions without their values. -/
def skeletons : List Condition → List Condition
  | [] => []
  | c :: rest => skeleton c :: skeletons rest

end

end Condition

/-- The columns of a row. -/
def Row.skeleton (r : Row) : Row := r.mapValues fun _ => .null

/-- A join without its values. -/
def Join.skeleton (j : Join) : Join := { j with on := Condition.skeletons j.on }

/-- A draft without its values. -/
def Draft.skeleton (d : Draft) : Draft :=
  { d with
    joins := d.joins.map Join.skeleton
    filters := Condition.skeletons d.filters
    assignments := d.assignments.skeleton
    rows := d.rows.map Row.skeleton }

/-- A statement without its values. -/
def Statement.skeleton : Statement → Statement
  | .select columns source joins filters ordering grouping =>
    .select columns source (joins.map Join.skeleton) (Condition.skeletons filters) ordering grouping
  | .update table assignments filters =>
    .update table assignments.skeleton (Condition.skeletons filters)
  | .insert table rows => .insert table (rows.map Row.skeleton)
  | .delete table filters => .delete table (Condition.skeletons filters)

/-! ## The template of a skeleton -/

/-- The template of an operand is the same but for the values. -/
theorem Operand.template_skeleton (column : String) (operand : Operand) :
    operand.skeleton.template column = (operand.template column).blank := by
  cases operand with
  | literal v => rfl
  | compare op v =>
    simp only [Operand.skeleton, Operand.template]
    by_cases h : op.takesList = true
    · simp only [h, ite_true, Value.items_list, List.isEmpty_map]
      split
      · rfl
      · exact congrArg (_ :: ·) (Template.blank_list v.items).symm
    · simp only [h, Bool.false_eq_true, ite_false]
      rfl

/-- A conjunction loses its values part by part. -/
theorem blank_allOf (templates : List Template) :
    (allOf templates).blank = allOf (templates.map Template.blank) :=
  Template.blank_join " AND " templates

/-- A term has the same comparisons without its values. -/
theorem Term.template_skeleton (t : Term) :
    Term.template (t.mapValues Operand.skeleton) = (Term.template t).blank := by
  rw [Term.template, Term.template, Keyed.isEmpty, Keyed.mapValues, List.isEmpty_map]
  change (if t.entries.isEmpty then _ else _) = Template.blank (if t.entries.isEmpty then _ else _)
  split
  · rfl
  · rw [blank_allOf, List.map_map, List.map_map]
    exact congrArg allOf (List.map_congr_left fun entry _ => entry.2.template_skeleton entry.1)

/-- A group loses its values child by child. -/
theorem blank_groupTemplate (separator empty : String) (children : List Template) :
    (groupTemplate separator empty children).blank =
      groupTemplate separator empty (children.map Template.blank) := by
  cases children with
  | nil => rfl
  | cons t rest =>
    have h := Template.blank_join separator (t :: rest)
    simp only [groupTemplate, List.isEmpty_cons, Bool.false_eq_true, ite_false, List.cons_append,
      List.map_cons] at h ⊢
    rw [← h, Template.blank, List.map_cons, List.map_append]
    rfl

namespace Condition

mutual

/-- A condition has the same template but for the values. -/
theorem template_skeleton : (c : Condition) → c.skeleton.template = c.template.blank
  | .term t => by rw [skeleton, template, template, Term.template_skeleton]
  | .and children => by
    rw [skeleton, template, template, blank_groupTemplate, templates_skeletons children]
  | .or children => by
    rw [skeleton, template, template, blank_groupTemplate, templates_skeletons children]

/-- Conditions have the same templates one by one. -/
theorem templates_skeletons : (cs : List Condition) →
    templates (skeletons cs) = (templates cs).map Template.blank
  | [] => rfl
  | c :: rest => by
    rw [skeletons, templates, templates, List.map_cons, template_skeleton c,
      templates_skeletons rest]

end

/-- Whether there are conditions is seen without their values. -/
theorem isEmpty_skeletons (cs : List Condition) : (skeletons cs).isEmpty = cs.isEmpty := by
  cases cs <;> rfl

end Condition

/-- The predicate of conditions is the same but for the values. -/
theorem predicate_skeletons (conditions : List Condition) :
    predicate (Condition.skeletons conditions) = (predicate conditions).blank := by
  have h := Condition.templates_skeletons conditions
  rw [Condition.templates_eq_map, Condition.templates_eq_map] at h
  rw [predicate, predicate, Condition.isEmpty_skeletons, h]
  split
  · rfl
  · rw [blank_allOf]

/-- Whether there is a clause and what it says is seen without the values. -/
theorem whereClause_skeletons (conditions : List Condition) :
    whereClause (Condition.skeletons conditions) = (whereClause conditions).map Template.blank := by
  rw [whereClause, whereClause, Condition.isEmpty_skeletons, predicate_skeletons]
  split <;> rfl

/-- A join has the same template but for the values. -/
theorem Join.template_skeleton (j : Join) : j.skeleton.template = j.template.blank := by
  rw [Join.template, Join.template, Join.skeleton, predicate_skeletons]
  rfl

/-! ## Rows without their values -/

namespace Row

@[simp] theorem columns_skeleton (r : Row) : r.skeleton.columns = r.columns := by
  simp only [columns, skeleton, Keyed.keys, Keyed.mapValues, List.map_map, Function.comp_def]

@[simp] theorem size_skeleton (r : Row) : r.skeleton.size = r.size := by
  rw [← Keyed.length_keys, ← Keyed.length_keys]
  exact congrArg List.length r.columns_skeleton

@[simp] theorem isEmpty_skeleton (r : Row) : r.skeleton.isEmpty = r.isEmpty := by
  simp only [Keyed.isEmpty, skeleton, Keyed.mapValues, List.isEmpty_map]

/-- The values of a row are all replaced. -/
theorem values_skeleton (r : Row) : r.skeleton.values = r.values.map fun _ => .null := by
  simp only [Keyed.values, skeleton, Keyed.mapValues, List.map_map, Function.comp_def]

/-- A column of a row is found without its value. -/
theorem get?_skeleton (r : Row) (column : String) :
    r.skeleton.get? column = (r.get? column).map fun _ => .null := by
  simp only [Keyed.get?, skeleton, Keyed.mapValues, List.find?_map, Option.map_map,
    Function.comp_def]

/-- Whether a row has given columns is seen without its values. -/
theorem aligned?_skeleton (r : Row) (columns : List String) :
    r.skeleton.aligned? columns = (r.aligned? columns).map (List.map fun _ => .null) := by
  have h : columns.mapM r.skeleton.get? = (columns.mapM r.get?).map (List.map fun _ => .null) := by
    induction columns with
    | nil => rfl
    | cons column rest ih =>
      rw [List.mapM_cons, List.mapM_cons, ih, get?_skeleton]
      cases r.get? column with
      | none => rfl
      | some v => cases rest.mapM r.get? <;> rfl
  rw [aligned?, aligned?, size_skeleton, h]
  split <;> rfl

end Row

/-- Tuples without their values. -/
def Tuples.blank (tuples : Tuples) : Tuples :=
  { tuples with values := tuples.values.map (List.map fun _ => .null) }

/-- The tuple of a row has the same places in the same order, and the same warning. -/
theorem rowTuple_skeleton (strict : Bool) (columns : List String) (index : Nat) (row : Row) :
    rowTuple strict columns index row.skeleton =
      (rowTuple strict columns index row).map fun (values, misaligned) =>
        (values.map fun _ => .null, misaligned) := by
  rw [rowTuple, rowTuple, Row.aligned?_skeleton, Row.columns_skeleton, Row.values_skeleton]
  cases row.aligned? columns with
  | some values => rfl
  | none => cases strict <;> rfl

/-- Which rows agree is seen without their values. -/
theorem tuplesFrom_skeleton (strict : Bool) (columns : List String) (rows : List Row)
    (index : Nat) :
    tuplesFrom strict columns index (rows.map Row.skeleton) =
      (tuplesFrom strict columns index rows).map Tuples.blank := by
  induction rows generalizing index with
  | nil => rfl
  | cons row rest ih =>
    rw [List.map_cons, tuplesFrom, tuplesFrom, rowTuple_skeleton, ih]
    cases rowTuple strict columns index row with
    | error e => rfl
    | ok tuple => cases tuplesFrom strict columns (index + 1) rest <;> rfl

/-- The columns that the first row gives, or the refusal, are seen without the values. -/
theorem firstColumns_skeleton (table : String) (rows : List Row) :
    firstColumns table (rows.map Row.skeleton) = firstColumns table rows := by
  cases rows with
  | nil => rfl
  | cons first rest =>
    rw [List.map_cons, firstColumns, firstColumns, Row.isEmpty_skeleton, Row.columns_skeleton]

/-! ## The text of a skeleton -/

@[simp] theorem Statement.kind_skeleton (s : Statement) : s.skeleton.kind = s.kind := by
  cases s <;> rfl

/-- A rendered statement without its values. -/
def Rendered.blank (r : Rendered) : Rendered := { r with template := r.template.blank }

/-- Clauses lose their values one by one. -/
theorem blank_spacedTemplates (templates : List Template) :
    (spacedTemplates templates).blank = spacedTemplates (templates.map Template.blank) :=
  Template.blank_join " " templates

/-- An insertion keeps its columns and the width of each tuple. -/
theorem blank_insertTemplate (table : String) (columns : List String) (tuples : List (List Value)) :
    (insertTemplate table columns tuples).blank =
      insertTemplate table columns (tuples.map (List.map fun _ => .null)) := by
  have h := Template.blank_join ", " (tuples.map Template.list)
  rw [List.map_map] at h
  rw [insertTemplate, insertTemplate, List.map_map]
  change _ :: Template.blank _ = _
  rw [h]
  exact congrArg (fun ts => _ :: Template.join ", " ts)
    (List.map_congr_left fun values _ => Template.blank_list values)

/-- A statement is rendered to the same template but for the values, or refused alike. -/
theorem Statement.render_skeleton (strict : Bool) (s : Statement) :
    s.skeleton.render strict = (s.render strict).map Rendered.blank := by
  cases s with
  | select columns source joins filters ordering grouping =>
    have hjoins : (joins.map Join.skeleton).map Join.template =
        (joins.map Join.template).map Template.blank := by
      rw [List.map_map, List.map_map]
      exact List.map_congr_left fun j _ => j.template_skeleton
    rw [skeleton, render, render, hjoins, whereClause_skeletons]
    change Except.ok _ = Except.ok _
    rw [Rendered.blank, blank_spacedTemplates]
    simp only [List.map_append, List.map_map]
    rfl
  | update table assignments filters =>
    have hassigned : assignments.skeleton.entries.map assignmentTemplate =
        (assignments.entries.map assignmentTemplate).map Template.blank := by
      rw [Row.skeleton, Keyed.mapValues, List.map_map, List.map_map]
      rfl
    rw [skeleton, render, render, hassigned, whereClause_skeletons, ← Template.blank_join]
    change Except.ok _ = Except.ok _
    rw [Rendered.blank, blank_spacedTemplates]
    rfl
  | insert table rows =>
    rw [skeleton, render, render, firstColumns_skeleton]
    cases firstColumns table rows with
    | error e => rfl
    | ok columns =>
      change (tuplesFrom strict columns 0 (rows.map Row.skeleton) >>= _) =
        Except.map _ (tuplesFrom strict columns 0 rows >>= _)
      rw [tuplesFrom_skeleton]
      cases tuplesFrom strict columns 0 rows with
      | error e => rfl
      | ok tuples =>
        change Except.ok _ = Except.ok _
        rw [Rendered.blank, blank_insertTemplate]
        rfl
  | delete table filters =>
    rw [skeleton, render, render, whereClause_skeletons]
    change Except.ok _ = Except.ok _
    rw [Rendered.blank, blank_spacedTemplates]
    rfl

namespace Draft

/-- Which statement a draft makes is seen without its values. -/
theorem statement_skeleton (d : Draft) :
    d.skeleton.statement = d.statement.map Statement.skeleton := by
  have hselection : d.skeleton.selection? = d.selection?.map Statement.skeleton := by
    rw [selection?, selection?, skeleton]
    split
    · rfl
    · cases d.source <;> rfl
  have hupdate : d.skeleton.update? = d.update?.map Statement.skeleton := by
    rw [update?, update?, skeleton, Row.isEmpty_skeleton]
    split
    · rfl
    · cases d.updated <;> rfl
  have hinsertion : d.skeleton.insertion? = d.insertion?.map Statement.skeleton := by
    rw [insertion?, insertion?, skeleton, List.isEmpty_map]
    split
    · rfl
    · cases d.insertedInto <;> rfl
  have hdeletion : d.skeleton.deletion? = d.deletion?.map Statement.skeleton := by
    rw [deletion?, deletion?, skeleton]
    cases d.deletedFrom <;> rfl
  rw [statement, statement, statement?, statement?, hselection, hupdate, hinsertion, hdeletion]
  cases d.selection? with
  | some s => rfl
  | none =>
    cases d.update? with
    | some s => rfl
    | none =>
      cases d.insertion? with
      | some s => rfl
      | none => cases d.deletion? <;> rfl

/-- A draft is rendered, or refused, in the same way without its values. -/
theorem render_skeleton (d : Draft) :
    d.skeleton.render = d.render.map fun (s, r) => (s.skeleton, r.blank) := by
  rw [render, render, statement_skeleton]
  cases d.statement with
  | error e => rfl
  | ok s =>
    change (s.skeleton.render d.config.strictRows >>= _) =
      Except.map _ (s.render d.config.strictRows >>= _)
    rw [Statement.render_skeleton]
    cases s.render d.config.strictRows <;> rfl

/-- The text with placeholders, or the error where there is none, depends on the skeleton alone. -/
theorem buildQuery_of_skeleton_eq {d e : Draft} (h : d.skeleton = e.skeleton) :
    (∃ err, d.buildQuery.result = .error err ∧ e.buildQuery.result = .error err) ∨
    ∃ q r, d.buildQuery.result = .ok q ∧ e.buildQuery.result = .ok r ∧
      q.kind = r.kind ∧ q.sql = r.sql ∧ q.params.length = r.params.length := by
  have hrender := congrArg render h
  rw [render_skeleton, render_skeleton] at hrender
  rw [buildQuery_eq, buildQuery_eq]
  cases hd : d.render with
  | error err =>
    cases he : e.render with
    | error err' =>
      rw [hd, he] at hrender
      cases hrender
      exact Or.inl ⟨err, rfl, rfl⟩
    | ok _ =>
      rw [hd, he] at hrender
      cases hrender
  | ok rendered =>
    cases he : e.render with
    | error _ =>
      rw [hd, he] at hrender
      cases hrender
    | ok rendered' =>
      obtain ⟨s, r⟩ := rendered
      obtain ⟨s', r'⟩ := rendered'
      rw [hd, he] at hrender
      injection hrender with hpair
      injection hpair with hs hr
      have hblank : r.template.blank = r'.template.blank := congrArg Rendered.template hr
      refine Or.inr ⟨_, _, rfl, rfl, ?_, ?_, ?_⟩
      · exact s.kind_skeleton.symm.trans ((congrArg Statement.kind hs).trans s'.kind_skeleton)
      · change r.template.numbered 1 = r'.template.numbered 1
        rw [← r.template.numbered_blank, hblank, r'.template.numbered_blank]
      · change r.template.values.length = r'.template.values.length
        rw [← r.template.length_values_blank, hblank, r'.template.length_values_blank]

/-- A search by a name and among identifiers, in a join and in a group. -/
def search (name ids : Value) : Draft :=
  (empty Config.default).addAll [
    .select ["id"],
    .source "users",
    .join "orders" [.term ((∅ : Term).insert "orders.user" (.compare .notIn ids))],
    .filter [.or [.term (Term.single "name" name),
      .term ((∅ : Term).insert "id" (.compare .isIn ids))]]]

/-- A name with marks, placeholders and parentheses is as good as none, and a list of one as its
item. -/
theorem buildQuery_search :
    (search (.text "' OR $1 = (") (.list [.int 1])).skeleton =
      (search .null (.text "7")).skeleton ∧
    ((∃ err, (search (.text "' OR $1 = (") (.list [.int 1])).buildQuery.result = .error err ∧
        (search .null (.text "7")).buildQuery.result = .error err) ∨
      ∃ q r, (search (.text "' OR $1 = (") (.list [.int 1])).buildQuery.result = .ok q ∧
        (search .null (.text "7")).buildQuery.result = .ok r ∧
        q.kind = r.kind ∧ q.sql = r.sql ∧ q.params.length = r.params.length) :=
  ⟨rfl, buildQuery_of_skeleton_eq rfl⟩

end Draft

end SqlDraft
