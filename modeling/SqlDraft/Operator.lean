import SqlDraft.Error

/-!
# Comparison operators

A description names an operator by its symbol; a statement shows its token.
-/

namespace SqlDraft

/-- A comparison between a column and an operand. -/
inductive Operator where
  | eq
  | ne
  | gt
  | gte
  | lt
  | lte
  | isIn
  | notIn
deriving DecidableEq, Repr

namespace Operator

/-- Every operator, in the order of the declaration. -/
def all : List Operator := [.eq, .ne, .gt, .gte, .lt, .lte, .isIn, .notIn]

/-- The name in descriptions of conditions. -/
def symbol : Operator → String
  | .eq => "$eq"
  | .ne => "$ne"
  | .gt => "$gt"
  | .gte => "$gte"
  | .lt => "$lt"
  | .lte => "$lte"
  | .isIn => "$in"
  | .notIn => "$nin"

/-- The spelling in a statement. -/
def token : Operator → String
  | .eq => "="
  | .ne => "!="
  | .gt => ">"
  | .gte => ">="
  | .lt => "<"
  | .lte => "<="
  | .isIn => "IN"
  | .notIn => "NOT IN"

/-- Whether the operand is a list in parentheses. -/
def takesList : Operator → Bool
  | .isIn | .notIn => true
  | _ => false

/-- The operator with this symbol. -/
def ofSymbol? (s : String) : Option Operator := all.find? fun op => op.symbol = s

/-- The operator with this symbol, or the error that names the symbol. -/
def ofSymbol (s : String) : Except Error Operator :=
  match ofSymbol? s with
  | some op => .ok op
  | none => .error (.unsupportedOperator s)

/-- Every operator is found by its symbol. -/
@[simp] theorem ofSymbol?_symbol (op : Operator) : ofSymbol? op.symbol = some op := by
  cases op <;> decide

/-- A symbol names one operator, and no other text names any. -/
theorem ofSymbol?_eq_some_iff {s : String} {op : Operator} :
    ofSymbol? s = some op ↔ op.symbol = s := by
  constructor
  · intro h
    simpa using List.find?_some h
  · rintro rfl
    exact ofSymbol?_symbol op

end Operator

end SqlDraft
