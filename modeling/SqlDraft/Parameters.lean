import SqlDraft.Condition.Template

/-!
# Parameters

Parameters collect the values of one statement while its parts are written. Each part goes on
numbering where the part before it ended, so the placeholder `$n` stands for the value at `n`.
-/

namespace SqlDraft

/-- One use of a parameter list. -/
inductive ParameterStep where
  /-- Adds a value and gives its number, writing nothing. -/
  | push (v : Value)
  | value (v : Value)
  | list (vs : List Value)
  | condition (c : Condition)
  | conditions (cs : List Condition)

/-- What a use of a parameter list answers. -/
inductive ParameterAnswer where
  | number (n : Nat)
  | text (s : String)
  | texts (ss : List String)
deriving DecidableEq, Repr

namespace Parameters

/-- Writes a template with the next placeholders and adds its values. -/
def write (p : Parameters) (t : Template) : String × Parameters :=
  (t.numbered (p.size + 1), ⟨p.values ++ t.values⟩)

/-- Makes one use of the list. -/
def step (p : Parameters) : ParameterStep → ParameterAnswer × Parameters
  | .push v =>
    let p := p.push v
    (.number p.size, p)
  | .value v =>
    let (s, p) := ((Writer.numbering.value v).run p).run
    (.text s, p)
  | .list vs =>
    let (s, p) := ((Writer.numbering.list vs).run p).run
    (.text s, p)
  | .condition c =>
    let (s, p) := ((c.write Writer.numbering).run p).run
    (.text s, p)
  | .conditions cs =>
    let (ss, p) := ((Condition.writeAll Writer.numbering cs).run p).run
    (.texts ss, p)

/-- Makes uses of the list one after the other, with an answer to each. -/
def run (p : Parameters) : List ParameterStep → List ParameterAnswer × Parameters
  | [] => ([], p)
  | s :: rest =>
    let (answer, p) := p.step s
    let (answers, p) := p.run rest
    (answer :: answers, p)

/-- Writing a template adds its values behind those that were collected before. -/
@[simp] theorem values_write (p : Parameters) (t : Template) :
    (p.write t).2.values = p.values ++ t.values := rfl

end Parameters

end SqlDraft
