import SqlDraft.Condition.Rendering
import SqlDraft.Template

/-!
# The template of a condition

What a condition leaves to a writer stands here as slots.
-/

namespace SqlDraft

/-- The comparison of a column. No list holds nothing, and every value is outside of it, so an
empty list of operands becomes a constant. -/
def Operand.template (column : String) : Operand → Template
  | .literal v => [.text (column ++ " = "), .slot v]
  | .compare op v =>
    if op.takesList then
      if v.items.isEmpty then
        .ofText (if op = .isIn then constantFalse else constantTrue)
      else
        .text (column ++ " " ++ op.token ++ " ") :: Template.list v.items
    else
      [.text (column ++ " " ++ op.token ++ " "), .slot v]

/-- Conditions side by side that all have to hold, without parentheses. -/
def allOf (templates : List Template) : Template := Template.join " AND " templates

/-- The comparisons of a term. -/
def Term.template (t : Term) : Template :=
  if t.isEmpty then Template.ofText constantTrue
  else allOf (t.entries.map fun entry => entry.2.template entry.1)

/-- A group in parentheses. -/
def groupTemplate (separator empty : String) (children : List Template) : Template :=
  .text "(" ::
    (if children.isEmpty then Template.ofText empty else Template.join separator children) ++
      [.text ")"]

namespace Condition

mutual

/-- The text of a condition with slots for its values. -/
def template : Condition → Template
  | .term t => Term.template t
  | .and children => groupTemplate " AND " constantTrue (templates children)
  | .or children => groupTemplate " OR " constantFalse (templates children)

/-- The texts of several conditions, one each. -/
def templates : List Condition → List Template
  | [] => []
  | c :: rest => template c :: templates rest

end

/-- The templates of conditions are those of each of them. -/
@[simp] theorem templates_eq_map (cs : List Condition) : templates cs = cs.map template := by
  induction cs with
  | nil => rfl
  | cons c rest ih => simp [templates, ih]

end Condition

end SqlDraft
