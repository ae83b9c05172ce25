import SqlDraft.Keyed
import SqlDraft.Value.Json

/-!
# Rows

A row gives values to columns. It is what an update assigns and what an insert adds.
-/

namespace SqlDraft

/-- Values by column, in the order in which the columns were first named. -/
abbrev Row := Keyed Value

namespace Row

/-- The columns in order. -/
abbrev columns (r : Row) : List String := r.keys

/-- Whether two rows name the same columns, in any order. -/
def sameColumns (r other : Row) : Bool :=
  r.size = other.size && r.columns.all fun column => (other.get? column).isSome

/-- The values of a row in the order of the given columns, unless it has other columns. -/
def aligned? (r : Row) (columns : List String) : Option (List Value) :=
  if r.size = columns.length then columns.mapM r.get? else none

/-- Equality of rows with their order, values compared as values are. -/
def equals (r other : Row) : Bool :=
  r.columns = other.columns && Value.equalItems r.values other.values

/-- Reads the values of the members of an object. -/
def ofMembers : List (String × Json) → Except Error (List (String × Value))
  | [] => .ok []
  | (column, j) :: rest => do
    let v ← Value.ofJson j
    let others ← ofMembers rest
    return (column, v) :: others

/-- The row that a JSON object describes. -/
def ofJson : Json → Except Error Row
  | .object members => (ofMembers members).map Keyed.ofList
  | j => .error (.invalidCondition (.notARow j))

end Row

end SqlDraft
