import SqlDraft.Draft.Rendering

/-!
# Finishing a draft

A draft is finished as text with its values written into it, or as text with placeholders beside
the values. What is logged is the same for both but for the number of parameters.
-/

namespace SqlDraft

/-- A statement with placeholders and the values that they stand for. -/
structure Query where
  kind : StatementKind
  sql : String
  params : List Value

namespace Query

/-- The JSON value of a query. -/
def toJson (q : Query) : Json :=
  .object [
    ("kind", .string q.kind.label),
    ("sql", .string q.sql),
    ("params", .array (Value.toJsonItems q.params))]

end Query

namespace Draft

/-- Writes the statement that a draft makes and logs its text, beside the number of parameters. -/
def finish {σ : Type} (w : Writer σ) (parameters : σ → Nat) (d : Draft) :
    Logging σ (StatementKind × String) := do
  let s ← d.statement
  let sql ← s.write w d.config
  let state ← getThe σ
  Logging.log d.config [.built s.kind (parameters state) (truncate d.config.loggedBytes sql)]
  return (s.kind, sql)

/-- The statement with its values written into it. -/
def build (d : Draft) : Logged String :=
  let (finished, _) := (d.finish Writer.quoting fun _ => 0).start ()
  ⟨finished.result.map fun (_, sql) => sql, finished.events⟩

/-- The statement with placeholders, and its values. -/
def buildQuery (d : Draft) : Logged Query :=
  let (finished, p) := (d.finish Writer.numbering Parameters.size).start Parameters.empty
  ⟨finished.result.map fun (kind, sql) => ⟨kind, sql, p.values⟩, finished.events⟩

end Draft

end SqlDraft
