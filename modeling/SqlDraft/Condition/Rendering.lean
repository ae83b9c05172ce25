import SqlDraft.Condition.Basic
import SqlDraft.Writer

/-!
# The text of a condition

A group stands in parentheses and a term does not: `AND` binds tighter than `OR`, and what joins
the comparisons of a term is `AND`. Where a part is empty a constant comparison keeps its meaning.
The values are left to a writer, in the order of the text.
-/

namespace SqlDraft

variable {σ : Type}

/-- The constant that always holds. -/
def constantTrue : String := "1=1"

/-- The constant that never holds. -/
def constantFalse : String := "1=0"

/-- Texts side by side that all have to hold, without parentheses. -/
def conjoined (texts : List String) : String := " AND ".intercalate texts

/-- Writes the comparison of a column. No list holds nothing, and every value is outside of it, so
an empty list of operands becomes a constant. -/
def Operand.write (w : Writer σ) (column : String) : Operand → StateM σ String
  | .literal v => do
    let value ← w.value v
    return column ++ " = " ++ value
  | .compare op v =>
    if op.takesList then
      if v.items.isEmpty then return if op = .isIn then constantFalse else constantTrue
      else do
        let values ← w.list v.items
        return column ++ " " ++ op.token ++ " " ++ values
    else do
      let value ← w.value v
      return column ++ " " ++ op.token ++ " " ++ value

/-- Writes the comparisons of a term. -/
def Term.write (w : Writer σ) (t : Term) : StateM σ String :=
  if t.isEmpty then return constantTrue
  else do
    let texts ← t.entries.mapM fun entry => entry.2.write w entry.1
    return conjoined texts

/-- A group in parentheses. -/
def grouped (separator empty : String) (children : List String) : String :=
  "(" ++ (if children.isEmpty then empty else separator.intercalate children) ++ ")"

namespace Condition

mutual

/-- Writes a condition. -/
def write (w : Writer σ) : Condition → StateM σ String
  | .term t => t.write w
  | .and children => do
    let texts ← writeAll w children
    return grouped " AND " constantTrue texts
  | .or children => do
    let texts ← writeAll w children
    return grouped " OR " constantFalse texts

/-- Writes several conditions, one text each. -/
def writeAll (w : Writer σ) : List Condition → StateM σ (List String)
  | [] => return []
  | c :: rest => do
    let text ← write w c
    let texts ← writeAll w rest
    return text :: texts

end

/-- The text of a condition with its values written into it. -/
def inline (c : Condition) : String := ((c.write Writer.quoting).run ()).run.1

end Condition

end SqlDraft
