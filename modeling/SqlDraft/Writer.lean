import SqlDraft.Value.Text

/-!
# Writers

A writer puts values into text and may remember something from one value to the next. The quoting
writer writes a value itself and remembers nothing. The numbering writer collects the values, and
writes for each of them the placeholder with its number.
-/

namespace SqlDraft

/-- A value between quotation marks. Marks inside the value are not doubled. -/
def Value.inline (v : Value) : String := "'" ++ v.plainText ++ "'"

/-- The placeholder with the given number. -/
def placeholder (n : Nat) : String := "$" ++ Nat.repr n

/-- The values collected so far; the first has number one. -/
structure Parameters where
  values : List Value

namespace Parameters

/-- Parameters without values. -/
def empty : Parameters := ⟨[]⟩

/-- How many values have been collected. -/
def size (p : Parameters) : Nat := p.values.length

/-- Adds a value at the end. -/
def push (p : Parameters) (v : Value) : Parameters := ⟨p.values ++ [v]⟩

end Parameters

/-- A way of writing values into text; the state is what it remembers. -/
structure Writer (σ : Type) where
  value : Value → StateM σ String

namespace Writer

variable {σ : Type}

/-- Writes values between commas in parentheses. -/
def list (w : Writer σ) (values : List Value) : StateM σ String := do
  let texts ← values.mapM w.value
  return "(" ++ ", ".intercalate texts ++ ")"

/-- Writes the text of each value between quotation marks. -/
def quoting : Writer Unit where
  value v := return v.inline

/-- Adds each value to the parameters and writes its placeholder. -/
def numbering : Writer Parameters where
  value v := modifyGet fun p => (placeholder (p.push v).size, p.push v)

end Writer

end SqlDraft
