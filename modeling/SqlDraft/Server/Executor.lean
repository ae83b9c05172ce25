import SqlDraft.Draft.Build
import SqlDraft.Server.Response

/-!
# Running statements

An executor runs texts and may change its own state with each. A draft is run by finishing it and
handing its text to the executor; a draft that cannot be finished reaches no executor.
-/

namespace SqlDraft

/-- Runs one text after the other. -/
structure Executor (σ : Type) where
  run : σ → String → Logged Outcome × σ

namespace Executor

/-- Gives every text the same outcome. -/
def always (o : Outcome) : Executor Unit := ⟨fun s _ => (⟨.ok o, []⟩, s)⟩

/-- Keeps the texts that an executor is given, in order. -/
def recorded {σ : Type} (e : Executor σ) : Executor (σ × List String) where
  run := fun (s, texts) sql =>
    let (answer, s) := e.run s sql
    (answer, s, texts ++ [sql])

end Executor

/-- Finishes a draft and runs its text. -/
def Draft.execute {σ : Type} (e : Executor σ) (s : σ) (d : Draft) : Logged Outcome × σ :=
  let built := d.build
  match built.result with
  | .error fault => (⟨.error fault, built.events⟩, s)
  | .ok sql =>
    let (answer, s) := e.run s sql
    (⟨answer.result, built.events ++ answer.events⟩, s)

/-- Runs drafts one after the other. -/
def Draft.executeAll {σ : Type} (e : Executor σ) (s : σ) :
    List Draft → List (Logged Outcome) × σ
  | [] => ([], s)
  | d :: rest =>
    let (answer, s) := d.execute e s
    let (answers, s) := executeAll e s rest
    (answer :: answers, s)

end SqlDraft
