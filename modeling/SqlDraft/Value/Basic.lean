import SqlDraft.Number.Binary

/-!
# Literal values

A value is what a statement compares a column with, assigns to it or inserts into it.
-/

namespace SqlDraft

/-- A literal value. -/
inductive Value where
  | null
  | bool (b : Bool)
  | int (i : Int64)
  | float (x : Binary64)
  | text (s : String)
  | list (items : List Value)
deriving Inhabited

namespace Value

/-- Whether a value is null. -/
def isNull : Value → Bool
  | .null => true
  | _ => false

/-- The items of a list; any other value is its own only item. -/
def items : Value → List Value
  | .list items => items
  | v => [v]

/-- A list is its items. -/
@[simp] theorem items_list (items : List Value) : (Value.list items).items = items := rfl

mutual

/-- Equality within a kind. Numbers compare as numbers, so a list that holds what is no number
differs from itself. -/
def equals : Value → Value → Bool
  | .null, .null => true
  | .bool a, .bool b => a == b
  | .int i, .int j => i == j
  | .float x, .float y => x.equals y
  | .text s, .text t => s == t
  | .list xs, .list ys => equalItems xs ys
  | _, _ => false

/-- Equality of lists of values, item by item. -/
def equalItems : List Value → List Value → Bool
  | [], [] => true
  | x :: xs, y :: ys => equals x y && equalItems xs ys
  | _, _ => false

end

end Value

end SqlDraft
