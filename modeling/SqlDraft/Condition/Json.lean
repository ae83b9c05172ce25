import SqlDraft.Condition.Basic
import SqlDraft.Value.Json

/-!
# Conditions described in JSON

An object whose only key names a group describes that group. Any other object describes a term:
each key is a column, and its value is a literal or an object with one operator and its operand.
-/

namespace SqlDraft.Condition

/-- The groups by the keys that name them. -/
def group? (key : String) : Option (List Condition → Condition) :=
  if key = "$or" then some .or else if key = "$and" then some .and else none

/-- What the value of a column describes. The operand is read before its operator is looked up. -/
def operandOfJson (column : String) : Json → Except Error Operand
  | .object [(symbol, operand)] => do
    let v ← Value.ofJson operand
    let op ← Operator.ofSymbol symbol
    return .compare op v
  | .object _ => .error (.invalidCondition (.operatorObject column))
  | j => (Value.ofJson j).map .literal

/-- Adds the comparisons that the members of an object describe. -/
def termOfMembers (t : Term) : List (String × Json) → Except Error Term
  | [] => .ok t
  | (column, j) :: rest => do
    if (group? column).isSome then .error (.invalidCondition (.groupNotAlone column))
    let operand ← operandOfJson column j
    termOfMembers (t.insert column operand) rest

mutual

/-- The condition that a JSON value describes. -/
def ofJson : Json → Except Error Condition
  | .object [(key, j)] =>
    match group? key with
    | some group =>
      match j with
      | .array items => (ofJsonItems items).map group
      | _ => .error (.invalidCondition (.groupNotArray key))
    | none => (termOfMembers ∅ [(key, j)]).map .term
  | .object members => (termOfMembers ∅ members).map .term
  | j => .error (.invalidCondition (.notAnObject j))

/-- The conditions that the items of an array describe. -/
def ofJsonItems : List Json → Except Error (List Condition)
  | [] => .ok []
  | j :: rest => do
    let c ← ofJson j
    let cs ← ofJsonItems rest
    return c :: cs

end

/-- Several conditions in an array, or one condition. -/
def listOfJson : Json → Except Error (List Condition)
  | .array items => ofJsonItems items
  | j => (ofJson j).map fun c => [c]

end SqlDraft.Condition
