import SqlDraft.Number.Binary

/-!
# JSON values

A JSON value keeps the order of the members of its objects and keeps whole numbers apart from
numbers with a fraction or an exponent.
-/

namespace SqlDraft

/-- A JSON value. -/
inductive Json where
  | null
  | bool (b : Bool)
  /-- A number written without fraction and exponent. -/
  | integer (n : Int)
  | float (x : Binary64)
  | string (s : String)
  | array (items : List Json)
  | object (members : List (String × Json))
deriving Inhabited

end SqlDraft
