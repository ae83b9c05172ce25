import SqlDraft.Draft.Rendering
import SqlDraft.Condition.Template

/-!
# The template of a statement

A statement leaves its values to a writer in the order of its text, so that it has a template with
a slot for each of them. Which rows of an insertion agree is settled before any value is written.
-/

namespace SqlDraft

/-- Conditions side by side, or the constant that holds where there are none. -/
def predicate (conditions : List Condition) : Template :=
  if conditions.isEmpty then Template.ofText constantTrue
  else allOf (conditions.map Condition.template)

/-- A clause with its conditions, if it has any. -/
def whereClause (conditions : List Condition) : List Template :=
  if conditions.isEmpty then [] else [.text "WHERE " :: predicate conditions]

/-- The template of a join: its table and the conditions that it is made on. -/
def Join.template (j : Join) : Template :=
  .text ("JOIN " ++ j.table ++ " ON ") :: predicate j.on

/-- What an update assigns to a column. -/
def assignmentTemplate (entry : String × Value) : Template :=
  [.text (entry.1 ++ " = "), .slot entry.2]

/-- Clauses separated by single spaces. -/
def spacedTemplates (clauses : List Template) : Template := Template.join " " clauses

/-- The tuples of an insertion, and which of its rows keep their own order. -/
structure Tuples where
  values : List (List Value)
  misaligned : List Nat

/-- The tuples of rows, the first of which has the given index. -/
def tuplesFrom (strict : Bool) (columns : List String) (index : Nat) :
    List Row → Except Error Tuples
  | [] => .ok ⟨[], []⟩
  | row :: rest => do
    let (values, misaligned) ← rowTuple strict columns index row
    let others ← tuplesFrom strict columns (index + 1) rest
    return ⟨values :: others.values, misaligned ++ others.misaligned⟩

/-- A statement as text with slots. -/
structure Rendered where
  template : Template
  /-- One event for each row of an insertion that keeps its own order. -/
  warnings : List Event

/-- The text of an insertion. -/
def insertTemplate (table : String) (columns : List String) (tuples : List (List Value)) :
    Template :=
  .text ("INSERT INTO " ++ table ++ " (" ++ commaList columns ++ ") VALUES ") ::
    Template.join ", " (tuples.map Template.list)

/-- The template of a statement, unless rows disagree that have to agree. -/
def Statement.render (strict : Bool) : Statement → Except Error Rendered
  | .select columns source joins filters ordering grouping =>
    let names := namesClause "ORDER BY" ordering ++ namesClause "GROUP BY" grouping
    let template := spacedTemplates <|
      [Template.ofText ("SELECT " ++ commaList columns), Template.ofText ("FROM " ++ source)] ++
        joins.map Join.template ++ whereClause filters ++ names.map Template.ofText
    .ok ⟨template, []⟩
  | .update table assignments filters =>
    let head := Piece.text ("UPDATE " ++ table ++ " SET ") ::
      Template.join ", " (assignments.entries.map assignmentTemplate)
    .ok ⟨spacedTemplates (head :: whereClause filters), []⟩
  | .insert table rows => do
    let columns ← firstColumns table rows
    let tuples ← tuplesFrom strict columns 0 rows
    return ⟨insertTemplate table columns tuples.values, tuples.misaligned.map (.misaligned table)⟩
  | .delete table filters =>
    let head := Template.ofText ("DELETE FROM " ++ table)
    .ok ⟨spacedTemplates (head :: whereClause filters), []⟩

/-- The statement that a draft makes, with its template. -/
def Draft.render (d : Draft) : Except Error (Statement × Rendered) := do
  let s ← d.statement
  let r ← s.render d.config.strictRows
  return (s, r)

/-- A draft has a template exactly if it makes a statement and this is not refused. -/
theorem Draft.render_eq_ok_iff {d : Draft} {s : Statement} {r : Rendered} :
    d.render = .ok (s, r) ↔ d.statement = .ok s ∧ s.render d.config.strictRows = .ok r := by
  rw [render]
  constructor
  · intro h
    cases hs : d.statement with
    | error e =>
      rw [hs] at h
      cases h
    | ok s' =>
      rw [hs] at h
      change (s'.render d.config.strictRows >>= fun r => Except.ok (s', r)) = .ok (s, r) at h
      cases hr : s'.render d.config.strictRows with
      | error e =>
        rw [hr] at h
        cases h
      | ok r' =>
        rw [hr] at h
        cases h
        exact ⟨rfl, hr⟩
  · rintro ⟨hs, hr⟩
    rw [hs]
    change (s.render d.config.strictRows >>= fun r => Except.ok (s, r)) = .ok (s, r)
    rw [hr]
    rfl

end SqlDraft
