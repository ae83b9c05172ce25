import SqlDraft.Config
import SqlDraft.Error
import SqlDraft.Text.Boundary

/-!
# The log

Events are values: what is logged is part of the result of an operation, in order. Long statements
are cut between characters.
-/

namespace SqlDraft

/-- What a statement does. -/
inductive StatementKind where
  | select
  | update
  | insert
  | delete
deriving DecidableEq, Repr

namespace StatementKind

/-- The first word of a statement. -/
def keyword : StatementKind → String
  | .select => "SELECT"
  | .update => "UPDATE"
  | .insert => "INSERT"
  | .delete => "DELETE"

/-- The name in the log. -/
def name : StatementKind → String
  | .select => "Select"
  | .update => "Update"
  | .insert => "Insert"
  | .delete => "Delete"

/-- The name in JSON. -/
def label : StatementKind → String
  | .select => "select"
  | .update => "update"
  | .insert => "insert"
  | .delete => "delete"

end StatementKind

/-- A text cut to a number of bytes, with dots where something was cut off. -/
def truncate (limit : Option Nat) (s : String) : String :=
  match limit with
  | none => s
  | some n => if s.utf8ByteSize ≤ n then s else Text.clip n s ++ "..."

/-- What happened to a statement. -/
inductive Event where
  /-- A statement was finished, with so many parameters beside it. -/
  | built (kind : StatementKind) (parameters : Nat) (sql : String)
  /-- A row to insert has other columns than the first one and keeps its own order. -/
  | misaligned (table : String) (row : Nat)
  /-- A text is about to run. -/
  | executing (sql : String)
deriving DecidableEq, Repr

namespace Event

/-- How urgent an event is. -/
def level : Event → String
  | .misaligned .. => "WARN"
  | _ => "DEBUG"

/-- The text of an event without its particulars. -/
def message : Event → String
  | .built .. => "built statement"
  | .misaligned .. => "insert row columns differ from the first row; rendering in row order"
  | .executing _ => "executing statement"

end Event

/-- What a configuration lets into the log: every event or none. -/
def Config.shown (config : Config) (events : List Event) : List Event :=
  if config.logStatements then events else []

/-- Whether an event is shown does not depend on the events beside it. -/
theorem Config.shown_append (config : Config) (first second : List Event) :
    config.shown (first ++ second) = config.shown first ++ config.shown second := by
  simp only [shown]
  split
  · rfl
  · exact (List.append_nil []).symm

/-- The result of an operation with the events that it logged. -/
structure Logged (α : Type) where
  result : Except Error α
  events : List Event

/-- Operations on a state that log and that can be refused. What is logged before a refusal stays
in the log. -/
abbrev Logging (σ : Type) : Type → Type := ExceptT Error (StateT (List Event) (StateM σ))

namespace Logging

variable {σ α : Type}

/-- Logs events, unless the configuration keeps them out of the log. -/
def log (config : Config) (events : List Event) : Logging σ Unit :=
  modifyThe (List Event) fun before => before ++ config.shown events

/-- The result of an operation, and the log and the state after it. -/
def runFrom (action : Logging σ α) (log : List Event) (state : σ) :
    (Except Error α × List Event) × σ :=
  ((action.run.run log).run state).run

/-- What an operation comes to that starts with nothing logged, and the state after it. -/
def start (action : Logging σ α) (state : σ) : Logged α × σ :=
  let ((result, events), after) := action.runFrom [] state
  (⟨result, events⟩, after)

/-- A refusal ends an operation in steps, and keeps what was logged until then. -/
theorem runFrom_bind {β : Type} (action : Logging σ α) (next : α → Logging σ β)
    (log : List Event) (state : σ) :
    (action >>= next).runFrom log state =
      match action.runFrom log state with
      | ((.error e, log), after) => ((.error e, log), after)
      | ((.ok a, log), after) => (next a).runFrom log after := by
  simp only [runFrom, ExceptT.run_bind, StateT.run_bind, Id.run_bind]
  rcases ((action.run.run log).run state).run with ⟨⟨result, log⟩, after⟩
  cases result <;> rfl

end Logging

end SqlDraft
