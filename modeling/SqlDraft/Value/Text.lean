import SqlDraft.Value.Basic
import SqlDraft.Number.Layout
import SqlDraft.Text.Quoted

/-!
# The texts of a value

The plain text of a value is what stands between quotation marks in a statement, and what is sent
where a column takes text. Its description names the kind of the value and is for messages.
-/

namespace SqlDraft.Value

/-- In plain text a number never has an exponent, and a whole number has no point. -/
def plainLayout : NumberLayout where
  positional _ := true
  pointZero := false
  exponentPlus := false
  tie := .up

/-- In a description a number always has a point or an exponent; it has no exponent from `1e-4` up
to `1e16`. -/
def descriptionLayout : NumberLayout where
  positional e := -4 ≤ e && e < 16
  pointZero := true
  exponentPlus := false
  tie := .up

/-- The word for a truth value. -/
def boolText (b : Bool) : String := if b then "true" else "false"

mutual

/-- The plain text of a value; the texts of list items stand between commas. -/
def plainText : Value → String
  | .null => "null"
  | .bool b => boolText b
  | .int i => Int.repr i.toInt
  | .float x => plainLayout.write x
  | .text s => s
  | .list items => ",".intercalate (plainTexts items)

/-- The plain texts of the items of a list. -/
def plainTexts : List Value → List String
  | [] => []
  | v :: rest => plainText v :: plainTexts rest

end

mutual

/-- The kind of a value and, in parentheses, what it holds. -/
def description : Value → String
  | .null => "Null"
  | .bool b => "Bool(" ++ boolText b ++ ")"
  | .int i => "Int(" ++ Int.repr i.toInt ++ ")"
  | .float x => "Float(" ++ descriptionLayout.write x ++ ")"
  | .text s => "Text(" ++ Text.quote s ++ ")"
  | .list items => "List([" ++ ", ".intercalate (descriptions items) ++ "])"

/-- The descriptions of the items of a list. -/
def descriptions : List Value → List String
  | [] => []
  | v :: rest => description v :: descriptions rest

end

end SqlDraft.Value
