import SqlDraft.Draft.Build
import SqlDraft.Draft.Template

/-!
# Writers fill templates

Writing a condition or a statement is filling the slots of its template from left to right, whatever
the writer: no part is written twice, left out or written before a part that precedes it in the
text. An insertion that is refused has no template, and is refused with the same error.
-/

namespace SqlDraft

variable {σ : Type}

namespace Template

/-- Writes a template from left to right, its values left to a writer. -/
def fill (w : Writer σ) : Template → StateM σ String
  | [] => return ""
  | .text s :: rest => do
    let text ← fill w rest
    return s ++ text
  | .slot v :: rest => do
    let value ← w.value v
    let text ← fill w rest
    return value ++ text

/-- A text without values is written as it is. -/
@[simp] theorem fill_ofText (w : Writer σ) (s : String) : fill w (ofText s) = pure s := by
  simp only [ofText, fill, pure_bind, String.append_empty]

/-- A single value is left to the writer. -/
@[simp] theorem fill_slot (w : Writer σ) (v : Value) : fill w [.slot v] = w.value v := by
  simp only [fill, pure_bind, String.append_empty, bind_pure]

/-- Texts without values are as they stand. -/
theorem mapM_fill_ofText (w : Writer σ) (texts : List String) :
    (texts.map ofText).mapM (fill w) = pure texts := by
  induction texts with
  | nil => rw [List.map_nil, List.mapM_nil]
  | cons text rest ih => rw [List.map_cons, List.mapM_cons, fill_ofText, pure_bind, ih, pure_bind]

/-- A template in two parts is filled one part after the other. -/
theorem fill_append (w : Writer σ) (s t : Template) :
    fill w (s ++ t) = do
      let first ← fill w s
      let second ← fill w t
      return first ++ second := by
  induction s with
  | nil => simp only [List.nil_append, fill, pure_bind, String.empty_append, bind_pure]
  | cons piece rest ih =>
    cases piece with
    | text s => simp only [List.cons_append, fill, ih, bind_assoc, pure_bind, String.append_assoc]
    | slot v => simp only [List.cons_append, fill, ih, bind_assoc, pure_bind, String.append_assoc]

/-- Templates filled one by one, with a text put between them, are their joined template. -/
theorem fill_join (w : Writer σ) (separator : String) (templates : List Template) :
    fill w (join separator templates) = do
      let texts ← templates.mapM (fill w)
      return separator.intercalate texts := by
  induction templates with
  | nil => simp only [join, fill, List.mapM_nil, pure_bind, String.intercalate_nil]
  | cons t rest ih =>
    cases rest with
    | nil =>
      simp only [join, List.mapM_cons, List.mapM_nil, pure_bind, bind_assoc,
        String.intercalate_singleton, bind_pure]
    | cons u rest =>
      rw [join_cons_cons, fill_append]
      simp only [fill, ih, List.mapM_cons, bind_assoc, pure_bind, String.intercalate_cons_cons,
        String.append_assoc]

/-- Parts that each fill a template fill the templates of all of them. -/
theorem mapM_eq_mapM_fill {α : Type} (w : Writer σ) {write : α → StateM σ String}
    {template : α → Template} (h : ∀ a, write a = fill w (template a)) (as : List α) :
    as.mapM write = (as.map template).mapM (fill w) := by
  rw [List.mapM_map]
  exact congrArg (fun f => as.mapM f) (funext h)

/-- A list in parentheses is written as its template says. -/
theorem fill_list (w : Writer σ) (values : List Value) : fill w (list values) = w.list values := by
  have h := mapM_eq_mapM_fill w (fun v => (fill_slot w v).symm) values
  rw [list, List.cons_append, fill, fill_append, fill_join, ← h]
  simp only [fill, Writer.list, bind_assoc, pure_bind, String.append_empty, String.append_assoc]

/-- A conjunction is written from its parts. -/
theorem fill_allOf (w : Writer σ) (templates : List Template) :
    fill w (allOf templates) = do
      let texts ← templates.mapM (fill w)
      return conjoined texts :=
  fill_join w " AND " templates

/-- A group is written from its children. -/
theorem fill_groupTemplate (w : Writer σ) (separator empty : String) (children : List Template) :
    fill w (groupTemplate separator empty children) = do
      let texts ← children.mapM (fill w)
      return grouped separator empty texts := by
  cases children with
  | nil =>
    simp only [groupTemplate, List.isEmpty_nil, ite_true, ofText, List.cons_append, List.nil_append,
      fill, pure_bind, List.mapM_nil, grouped, String.append_empty, String.append_assoc]
  | cons t rest =>
    simp only [groupTemplate, List.isEmpty_cons, Bool.false_eq_true, ite_false, List.cons_append,
      fill, fill_append, fill_join, List.mapM_cons, bind_assoc, pure_bind, String.append_empty,
      grouped, String.append_assoc]

end Template

open Template

/-! ## Conditions -/

/-- Writing an operand is filling its template. -/
theorem Operand.write_eq_fill (w : Writer σ) (column : String) (operand : Operand) :
    operand.write w column = fill w (operand.template column) := by
  cases operand with
  | literal v =>
    simp only [Operand.write, Operand.template, fill, bind_assoc, pure_bind, String.append_empty]
  | compare op v =>
    simp only [Operand.write, Operand.template]
    split
    · split
      · rw [fill_ofText]
      · rw [fill, fill_list]
    · simp only [fill, bind_assoc, pure_bind, String.append_empty]

/-- Writing a term is filling its template. -/
theorem Term.write_eq_fill (w : Writer σ) (t : Term) : t.write w = fill w (Term.template t) := by
  rw [Term.write, Term.template]
  split
  · rw [fill_ofText]
  · have h := mapM_eq_mapM_fill w
      (fun entry : String × Operand => entry.2.write_eq_fill w entry.1) t.entries
    rw [fill_allOf, ← h]

mutual

/-- Writing a condition is filling its template. -/
theorem Condition.write_eq_fill (w : Writer σ) :
    (c : Condition) → c.write w = fill w c.template
  | .term t => by rw [Condition.write, Condition.template, Term.write_eq_fill]
  | .and children => by
    rw [Condition.write, Condition.template, fill_groupTemplate, Condition.templates_eq_map,
      Condition.writeAll_eq_mapM_fill w children]
  | .or children => by
    rw [Condition.write, Condition.template, fill_groupTemplate, Condition.templates_eq_map,
      Condition.writeAll_eq_mapM_fill w children]

/-- Writing several conditions is filling their templates in order. -/
theorem Condition.writeAll_eq_mapM_fill (w : Writer σ) : (cs : List Condition) →
    Condition.writeAll w cs = (cs.map Condition.template).mapM (fill w)
  | [] => by rw [Condition.writeAll, List.map_nil, List.mapM_nil]
  | c :: rest => by
    rw [Condition.writeAll, List.map_cons, List.mapM_cons, Condition.write_eq_fill w c,
      Condition.writeAll_eq_mapM_fill w rest]

end

/-! ## Statements -/

/-- Writing a predicate is filling its template. -/
theorem writePredicate_eq_fill (w : Writer σ) (conditions : List Condition) :
    writePredicate w conditions = fill w (predicate conditions) := by
  rw [writePredicate, predicate]
  split
  · rw [fill_ofText]
  · rw [fill_allOf, Condition.writeAll_eq_mapM_fill]

/-- Writing the clause of conditions is filling its template, if there is one. -/
theorem writeWhere_eq_mapM_fill (w : Writer σ) (conditions : List Condition) :
    writeWhere w conditions = (whereClause conditions).mapM (fill w) := by
  by_cases h : conditions.isEmpty = true
  · simp only [writeWhere, whereClause, h, ite_true, List.mapM_nil]
  · simp only [writeWhere, whereClause, predicate, h, Bool.false_eq_true, ite_false,
      List.mapM_cons, List.mapM_nil, fill, fill_allOf, Condition.writeAll_eq_mapM_fill,
      bind_assoc, pure_bind]

/-- Writing a join is filling its template. -/
theorem Join.write_eq_fill (w : Writer σ) (j : Join) : j.write w = fill w j.template := by
  rw [Join.write, Join.template, fill, writePredicate_eq_fill]

/-- Writing an assignment is filling its template. -/
theorem writeAssignment_eq_fill (w : Writer σ) (entry : String × Value) :
    writeAssignment w entry = fill w (assignmentTemplate entry) := by
  simp only [writeAssignment, assignmentTemplate, fill, bind_assoc, pure_bind, String.append_empty]

/-- Writing joins is filling their templates in order. -/
theorem writeJoins_eq_mapM_fill (w : Writer σ) (joins : List Join) :
    writeJoins w joins = (joins.map Join.template).mapM (fill w) :=
  mapM_eq_mapM_fill w (Join.write_eq_fill w) joins

/-- Writing assignments is filling their templates in the order of the columns. -/
theorem writeAssignments_eq_mapM_fill (w : Writer σ) (row : Row) :
    writeAssignments w row = (row.entries.map assignmentTemplate).mapM (fill w) :=
  mapM_eq_mapM_fill w (writeAssignment_eq_fill w) row.entries

/-- Clauses that are filled one by one are filled with a space between neighbours. -/
theorem fill_spacedTemplates (w : Writer σ) (templates : List Template) :
    fill w (spacedTemplates templates) = do
      let texts ← templates.mapM (fill w)
      return spaced texts :=
  fill_join w " " templates

end SqlDraft
