import SqlDraft.Writer

/-!
# Templates

A template is statement text with slots for values. It has two readings: with the plain text of
each value between quotation marks, or with numbered placeholders beside the list of the values.
Both readings share the text between the slots, and the placeholders follow the order of the text.
-/

namespace SqlDraft

/-- A stretch of text, or the place of a value. -/
inductive Piece where
  | text (s : String)
  | slot (v : Value)

/-- Statement text with slots for values. -/
abbrev Template := List Piece

namespace Template

/-- The template of a text without values. -/
def ofText (s : String) : Template := [.text s]

/-- Templates with a text between neighbours. -/
def join (separator : String) : List Template → Template
  | [] => []
  | [t] => t
  | t :: rest => t ++ .text separator :: join separator rest

/-- The separator stands once between neighbours. -/
theorem join_cons_cons (separator : String) (t u : Template) (rest : List Template) :
    join separator (t :: u :: rest) = t ++ .text separator :: join separator (u :: rest) := rfl

/-- A list of slots in parentheses. -/
def list (values : List Value) : Template :=
  .text "(" :: join ", " (values.map fun v => [.slot v]) ++ [.text ")"]

/-- The text with the values written into it. -/
def inline : Template → String
  | [] => ""
  | .text s :: rest => s ++ inline rest
  | .slot v :: rest => v.inline ++ inline rest

/-- The text with placeholders, the first of which has the given number. -/
def numbered (first : Nat) : Template → String
  | [] => ""
  | .text s :: rest => s ++ numbered first rest
  | .slot _ :: rest => placeholder first ++ numbered (first + 1) rest

/-- The values of the slots in order. -/
def values : Template → List Value
  | [] => []
  | .text _ :: rest => values rest
  | .slot v :: rest => v :: values rest

/-- The values of two templates in sequence are those of the first, then those of the second. -/
@[simp] theorem values_append (s t : Template) : values (s ++ t) = values s ++ values t := by
  induction s with
  | nil => rfl
  | cons piece rest ih => cases piece <;> simp [values, ih]

/-- A text holds no values. -/
@[simp] theorem values_ofText (s : String) : values (ofText s) = [] := rfl

/-- A separator adds no values. -/
@[simp] theorem values_join (separator : String) (templates : List Template) :
    values (join separator templates) = templates.flatMap values := by
  induction templates with
  | nil => rfl
  | cons t rest ih =>
      cases rest with
      | nil => simp [join]
      | cons u rest => simp [join, values, ih]

/-- A list has one slot for each value, in order. -/
@[simp] theorem values_list (vs : List Value) : values (list vs) = vs := by
  simp only [list, List.cons_append, values, values_append, values_join, List.append_nil]
  induction vs with
  | nil => rfl
  | cons v rest ih => simp [values, ih]

/-- The text of two templates in sequence is the text of the first, then that of the second. -/
@[simp] theorem inline_append (s t : Template) : inline (s ++ t) = inline s ++ inline t := by
  induction s with
  | nil => simp [inline]
  | cons piece rest ih => cases piece <;> simp [inline, ih, String.append_assoc]

/-- Joined templates are written as their texts with the separator between neighbours. -/
theorem inline_join (separator : String) (templates : List Template) :
    inline (join separator templates) = separator.intercalate (templates.map inline) := by
  induction templates with
  | nil => rfl
  | cons t rest ih =>
      cases rest with
      | nil => simp [join]
      | cons u rest =>
          rw [List.map_cons] at ih
          simp [join, inline, ih, String.append_assoc]

/-- Numbering goes on in the second part where the first part ends. -/
theorem numbered_append (first : Nat) (s t : Template) :
    numbered first (s ++ t) = numbered first s ++ numbered (first + s.values.length) t := by
  induction s generalizing first with
  | nil => simp [numbered, values]
  | cons piece rest ih =>
      cases piece with
      | text s => simp [numbered, values, ih, String.append_assoc]
      | slot v =>
          have h : first + 1 + (values rest).length = first + ((values rest).length + 1) := by omega
          simp [numbered, values, ih, String.append_assoc, h]

/-- Templates with one slot each have consecutive placeholders. -/
theorem numbered_join {α : Type} {template : α → Template} {text : α → Nat → String}
    (htext : ∀ a n, (template a).numbered n = text a n)
    (hslot : ∀ a, (template a).values.length = 1) (separator : String) (as : List α)
    (first : Nat) :
    (join separator (as.map template)).numbered first =
      separator.intercalate ((as.zipIdx first).map fun (a, n) => text a n) := by
  induction as generalizing first with
  | nil => rfl
  | cons a rest ih =>
    cases rest with
    | nil =>
      simp only [List.map_cons, List.map_nil, join, List.zipIdx_cons, List.zipIdx_nil,
        String.intercalate_singleton, htext]
    | cons b rest =>
      have hrest := ih (first + 1)
      rw [List.map_cons] at hrest
      rw [List.map_cons, List.map_cons, join_cons_cons, numbered_append, htext, hslot, numbered,
        hrest]
      simp only [List.zipIdx_cons, List.map_cons, String.intercalate_cons_cons,
        String.append_assoc]

end Template

end SqlDraft
