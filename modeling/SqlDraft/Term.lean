import SqlDraft.Keyed
import SqlDraft.Operator
import SqlDraft.Value.Basic

/-!
# Terms

A term compares columns with operands, and holds if every comparison does. Naming a column again
replaces its comparison and keeps its place.
-/

namespace SqlDraft

/-- What a column is compared with. -/
inductive Operand where
  /-- A bare literal stands for equality. -/
  | literal (value : Value)
  | compare (op : Operator) (value : Value)

/-- The value of an operand. -/
def Operand.value : Operand → Value
  | .literal v | .compare _ v => v

/-- The operator that an operand names. -/
def Operand.operator? : Operand → Option Operator
  | .literal _ => none
  | .compare op _ => some op

/-- Equality of operands. A bare literal is not the equality operator. -/
def Operand.equals (a b : Operand) : Bool :=
  a.operator? = b.operator? && a.value.equals b.value

/-- Comparisons by column, in the order in which the columns were first named. -/
abbrev Term := Keyed Operand

/-- One step in the making of a term. The comparisons with a name of their own are steps with a
fixed operator. -/
inductive TermStep where
  | literal (column : String) (value : Value)
  | compare (column : String) (op : Operator) (value : Value)
  | isIn (column : String) (values : List Value)
  | notIn (column : String) (values : List Value)
  /-- The operator is named by its symbol. -/
  | compareBySymbol (column symbol : String) (value : Value)

namespace TermStep

/-- Equality is what a bare literal stands for. -/
def eq (column : String) (value : Value) : TermStep := .literal column value

/-- Compares a column with what it must not be. -/
def ne (column : String) (value : Value) : TermStep := .compare column .ne value

/-- Compares a column with a lower bound that is excluded. -/
def gt (column : String) (value : Value) : TermStep := .compare column .gt value

/-- Compares a column with its least value. -/
def gte (column : String) (value : Value) : TermStep := .compare column .gte value

/-- Compares a column with an upper bound that is excluded. -/
def lt (column : String) (value : Value) : TermStep := .compare column .lt value

/-- Compares a column with its greatest value. -/
def lte (column : String) (value : Value) : TermStep := .compare column .lte value

end TermStep

namespace Term

/-- Compares a column with a bare literal. -/
def literal (t : Term) (column : String) (value : Value) : Term :=
  t.insert column (.literal value)

/-- Compares a column by an operator. -/
def compare (t : Term) (column : String) (op : Operator) (value : Value) : Term :=
  t.insert column (.compare op value)

/-- Applies one step. Only a symbol can be refused. -/
def step (t : Term) : TermStep → Except Error Term
  | .literal column value => .ok (t.literal column value)
  | .compare column op value => .ok (t.compare column op value)
  | .isIn column values => .ok (t.compare column .isIn (.list values))
  | .notIn column values => .ok (t.compare column .notIn (.list values))
  | .compareBySymbol column symbol value => do
    let op ← Operator.ofSymbol symbol
    return t.compare column op value

/-- The term of a single comparison with a literal. -/
def single (column : String) (value : Value) : Term := literal Keyed.empty column value

/-- Equality of terms with their order. -/
def equals (s t : Term) : Bool :=
  s.keys = t.keys && (s.values.zip t.values).all fun (a, b) => a.equals b

end Term

end SqlDraft
