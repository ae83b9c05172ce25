import SqlDraft.Draft.Basic
import SqlDraft.Condition.Rendering

/-!
# The text of a statement

Clauses are separated by single spaces and follow a fixed order. Only an insertion can be refused.
Each of its rows is written in the order of the columns of the first row; a row with other columns
is refused or, where rows need not agree, is logged and keeps its own order.
-/

namespace SqlDraft

variable {σ : Type}

/-- Names between commas. -/
def commaList (names : List String) : String := ", ".intercalate names

/-- A clause with its names, if it has any. -/
def namesClause (keyword : String) (names : List String) : List String :=
  if names.isEmpty then [] else [keyword ++ " " ++ commaList names]

/-- Clauses separated by single spaces. -/
def spaced (clauses : List String) : String := " ".intercalate clauses

/-- Writes conditions side by side, or the constant that holds where there are none. -/
def writePredicate (w : Writer σ) (conditions : List Condition) : StateM σ String :=
  if conditions.isEmpty then return constantTrue
  else do
    let texts ← Condition.writeAll w conditions
    return conjoined texts

/-- Writes a clause with its conditions, if it has any. -/
def writeWhere (w : Writer σ) (conditions : List Condition) : StateM σ (List String) :=
  if conditions.isEmpty then return []
  else do
    let texts ← Condition.writeAll w conditions
    return ["WHERE " ++ conjoined texts]

/-- Writes a join with the conditions that it is made on. -/
def Join.write (w : Writer σ) (j : Join) : StateM σ String := do
  let predicate ← writePredicate w j.on
  return "JOIN " ++ j.table ++ " ON " ++ predicate

/-- Writes joins, one clause each. -/
def writeJoins (w : Writer σ) (joins : List Join) : StateM σ (List String) :=
  joins.mapM (Join.write w)

/-- Writes what an update assigns to a column. -/
def writeAssignment (w : Writer σ) (entry : String × Value) : StateM σ String := do
  let value ← w.value entry.2
  return entry.1 ++ " = " ++ value

/-- Writes what an update assigns, one text for each column. -/
def writeAssignments (w : Writer σ) (row : Row) : StateM σ (List String) :=
  row.entries.mapM (writeAssignment w)

/-- The columns of the first of the rows to insert; it must have some. -/
def firstColumns (table : String) (rows : List Row) : Except Error (List String) :=
  match rows with
  | first :: _ =>
    if first.isEmpty then .error (.invalidStatement (.emptyFirstRow table)) else .ok first.columns
  | [] => .error (.invalidStatement (.emptyFirstRow table))

/-- The values that a row adds. They are in the order of the columns if the row has just these; if
not, the row is refused, or it keeps its own order and its index is noted. -/
def rowTuple (strict : Bool) (columns : List String) (index : Nat) (row : Row) :
    Except Error (List Value × List Nat) :=
  match row.aligned? columns with
  | some values => .ok (values, [])
  | none =>
    if strict then .error (.malformedInsertRows index columns row.columns)
    else .ok (row.values, [index])

/-- Writes the tuples of rows, the first of which has the given index. A row that keeps its own
order is logged before it is written. -/
def writeTuples (w : Writer σ) (config : Config) (table : String) (columns : List String)
    (index : Nat) : List Row → Logging σ (List String)
  | [] => return []
  | row :: rest => do
    let (values, misaligned) ← rowTuple config.strictRows columns index row
    Logging.log config (misaligned.map (.misaligned table))
    let text ← w.list values
    let texts ← writeTuples w config table columns (index + 1) rest
    return text :: texts

/-- Writes a statement, refusing rows that disagree where they have to agree. -/
def Statement.write (w : Writer σ) (config : Config) : Statement → Logging σ String
  | .select columns source joins filters ordering grouping => do
    let joined ← writeJoins w joins
    let kept ← writeWhere w filters
    let clauses := ["SELECT " ++ commaList columns, "FROM " ++ source] ++ joined ++ kept ++
      namesClause "ORDER BY" ordering ++ namesClause "GROUP BY" grouping
    return spaced clauses
  | .update table assignments filters => do
    let assigned ← writeAssignments w assignments
    let kept ← writeWhere w filters
    return spaced (("UPDATE " ++ table ++ " SET " ++ commaList assigned) :: kept)
  | .insert table rows => do
    let columns ← firstColumns table rows
    let tuples ← writeTuples w config table columns 0 rows
    return "INSERT INTO " ++ table ++ " (" ++ commaList columns ++ ") VALUES " ++ commaList tuples
  | .delete table filters => do
    let kept ← writeWhere w filters
    return spaced (("DELETE FROM " ++ table) :: kept)

end SqlDraft
