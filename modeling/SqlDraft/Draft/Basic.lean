import SqlDraft.Condition.Basic
import SqlDraft.Log
import SqlDraft.Row

/-!
# Drafts

A draft collects clauses in any order. Which kind of statement it makes is decided by the clauses
it has: a selection comes before an update, that before an insertion, and that before a deletion.
Clauses of other kinds are kept and play no part.
-/

namespace SqlDraft

/-- A table joined on conditions that all have to hold. -/
structure Join where
  table : String
  on : List Condition

/-- A clause of a statement. -/
inductive Clause where
  /-- The columns to select; none stand for all. -/
  | select (columns : List String)
  | source (table : String)
  | join (table : String) (on : List Condition)
  /-- The conditions that rows have to meet, in the place of earlier ones. -/
  | filter (conditions : List Condition)
  | orderBy (columns : List String)
  | groupBy (columns : List String)
  /-- The arms of a case expression, as text. -/
  | cases (arms : List (String × String))
  | update (table : String)
  /-- Assignments, written over earlier ones. -/
  | assign (row : Row)
  | insertInto (table : String)
  | row (row : Row)
  | deleteFrom (table : String)

/-- The clauses of one statement, collected so far. -/
structure Draft where
  config : Config
  columns : List String
  source : Option String
  joins : List Join
  filters : List Condition
  ordering : List String
  grouping : List String
  arms : List (String × String)
  updated : Option String
  assignments : Row
  insertedInto : Option String
  rows : List Row
  deletedFrom : Option String

/-- A statement with the clauses of its kind and no others. -/
inductive Statement where
  | select (columns : List String) (source : String) (joins : List Join)
      (filters : List Condition) (ordering grouping : List String)
  | update (table : String) (assignments : Row) (filters : List Condition)
  | insert (table : String) (rows : List Row)
  | delete (table : String) (filters : List Condition)

/-- The kind of a statement. -/
def Statement.kind : Statement → StatementKind
  | .select .. => .select
  | .update .. => .update
  | .insert .. => .insert
  | .delete .. => .delete

namespace Draft

/-- The draft without clauses. -/
def empty (config : Config) : Draft where
  config := config
  columns := []
  source := none
  joins := []
  filters := []
  ordering := []
  grouping := []
  arms := []
  updated := none
  assignments := ∅
  insertedInto := none
  rows := []
  deletedFrom := none

/-- Adds a clause. Joins and rows are appended, assignments are merged, and every other clause
takes the place of an earlier one of its name. -/
def add (d : Draft) : Clause → Draft
  | .select columns => { d with columns := if columns.isEmpty then ["*"] else columns }
  | .source table => { d with source := some table }
  | .join table on => { d with joins := d.joins ++ [⟨table, on⟩] }
  | .filter conditions => { d with filters := conditions }
  | .orderBy columns => { d with ordering := columns }
  | .groupBy columns => { d with grouping := columns }
  | .cases arms => { d with arms := arms }
  | .update table => { d with updated := some table }
  | .assign row => { d with assignments := d.assignments.merge row }
  | .insertInto table => { d with insertedInto := some table }
  | .row row => { d with rows := d.rows ++ [row] }
  | .deleteFrom table => { d with deletedFrom := some table }

/-- Adds clauses one after the other. -/
def addAll (d : Draft) (clauses : List Clause) : Draft := clauses.foldl add d

/-- A selection has columns and a source. -/
def selection? (d : Draft) : Option Statement :=
  if d.columns.isEmpty then none
  else d.source.map fun source => .select d.columns source d.joins d.filters d.ordering d.grouping

/-- An update has a table and assigns something. -/
def update? (d : Draft) : Option Statement :=
  if d.assignments.isEmpty then none
  else d.updated.map fun table => .update table d.assignments d.filters

/-- An insertion has a table and a row. -/
def insertion? (d : Draft) : Option Statement :=
  if d.rows.isEmpty then none else d.insertedInto.map fun table => .insert table d.rows

/-- A deletion has a table. -/
def deletion? (d : Draft) : Option Statement :=
  d.deletedFrom.map fun table => .delete table d.filters

/-- The statement of the first kind that has its clauses. -/
def statement? (d : Draft) : Option Statement :=
  d.selection? <|> d.update? <|> d.insertion? <|> d.deletion?

/-- The statement that a draft makes. -/
def statement (d : Draft) : Except Error Statement :=
  match d.statement? with
  | some s => .ok s
  | none => .error (.invalidStatement .incomplete)

/-- The kind of the statement that a draft makes. -/
def kind (d : Draft) : Except Error StatementKind := d.statement.map Statement.kind

/-- The case expression of the arms, if there are any. -/
def caseText (d : Draft) : Option String :=
  if d.arms.isEmpty then none
  else
    let arms := d.arms.map fun (condition, result) => "WHEN " ++ condition ++ " THEN " ++ result
    some ("CASE " ++ " ".intercalate arms ++ " END")

end Draft

end SqlDraft
