import SqlDraft.Proofs.Keyed.Writes
import SqlDraft.Proofs.Recovery.Statement

/-!
# Rows and their histories

A row is written to, rows are merged into it, and it is started afresh from pairs. Whatever its
history is, it records the writes of that history. So an update that is assigned rows one after the
other is the same as with the merged rows, and assigns to no column twice.
-/

namespace SqlDraft

namespace Row

/-! ## Histories -/

/-- One operation on a row. -/
inductive Step where
  /-- Writes one column, in place or in a chain. -/
  | write (column : String) (value : Value)
  /-- Merges a row that has a history of its own. -/
  | merge (history : List Step)
  /-- Collects pairs into a new row. -/
  | collect (pairs : List (String × Value))

mutual

/-- The row after one operation. -/
def Step.apply (r : Row) : Step → Row
  | .write column value => r.insert column value
  | .merge history => r.merge (replay ∅ history)
  | .collect pairs => Keyed.ofList pairs

/-- The row after the operations of a history. -/
def replay (r : Row) : List Step → Row
  | [] => r
  | step :: rest => replay (step.apply r) rest

end

mutual

/-- The writes up to the end of an operation. Merging a row repeats the writes of its history. -/
def Step.writes (before : List (String × Value)) : Step → List (String × Value)
  | .write column value => before ++ [(column, value)]
  | .merge history => before ++ writes [] history
  | .collect pairs => pairs

/-- The writes up to the end of a history. -/
def writes (before : List (String × Value)) : List Step → List (String × Value)
  | [] => before
  | step :: rest => writes (step.writes before) rest

end

/-- The writes up to the end of an operation, as it performs them itself. Merging a row writes its
entries. -/
def Step.performed (before : List (String × Value)) : Step → List (String × Value)
  | .write column value => before ++ [(column, value)]
  | .merge history => before ++ (replay ∅ history).entries
  | .collect pairs => pairs

/-- The writes that the operations of a history perform themselves. -/
def performed (before : List (String × Value)) (history : List Step) : List (String × Value) :=
  history.foldl Step.performed before

/-! ## What a row records -/

/-- The empty row records no writes. -/
theorem records_empty : (∅ : Row).Records [] := Keyed.records_ofList []

mutual

/-- A row that records the writes before a step records the writes up to its end. -/
theorem Step.records_apply {r : Row} {before : List (String × Value)} (h : r.Records before) :
    ∀ step : Step, (step.apply r).Records (step.writes before)
  | .write column value => h.insert column value
  | .merge history => h.merge (records_replay records_empty history)
  | .collect pairs => Keyed.records_ofList pairs

/-- A row records the writes of its history. -/
theorem records_replay {r : Row} {before : List (String × Value)} (h : r.Records before) :
    ∀ history : List Step, (replay r history).Records (writes before history)
  | [] => h
  | step :: rest => records_replay (step.records_apply h) rest

end

/-- So it does for the writes that the step performs itself. -/
theorem Step.records_performed {r : Row} {before : List (String × Value)} (h : r.Records before)
    (step : Step) : (step.apply r).Records (step.performed before) := by
  cases step with
  | write column value => exact h.insert column value
  | merge history => exact h.merge (replay ∅ history).records_entries
  | collect pairs => exact Keyed.records_ofList pairs

/-- A row records the writes that its operations performed. -/
theorem records_performed {r : Row} {before : List (String × Value)} (h : r.Records before)
    (history : List Step) : (replay r history).Records (performed before history) := by
  induction history generalizing r before with
  | nil => exact h
  | cons step rest ih => exact ih (step.records_performed h)

end Row

/-! ## Updates -/

open Template

/-- The text of assignments lists each column with its written value. -/
theorem inline_assignments (entries : List (String × Value)) :
    (join ", " (entries.map assignmentTemplate)).inline =
      commaList (entries.map fun entry => entry.1 ++ " = " ++ entry.2.inline) := by
  rw [inline_join, List.map_map]
  congr 1
  refine List.map_congr_left fun entry _ => ?_
  simp only [Function.comp_apply, assignmentTemplate, Template.inline, String.append_empty]

namespace Draft

/-- A draft that makes an update has a table. -/
theorem update_of_kind {d : Draft} (h : d.kind = .ok .update) :
    ∃ table, d.updated = some table ∧ d.statement = .ok (.update table d.assignments d.filters) := by
  obtain ⟨s, hs, hkind⟩ := map_eq_ok_iff.mp h
  cases makes_of_statement hs with
  | select => cases hkind
  | @update table _ htable => exact ⟨table, htable, hs⟩
  | insert => cases hkind
  | delete => cases hkind

/-- The text of an update up to its filters. -/
def updateText (table : String) (assigned : List String) : String :=
  "UPDATE " ++ table ++ " SET " ++ commaList assigned

/-- Both outputs of a draft update a table. They assign to each column of a row once, in the order
of the columns, and end with the filters of the draft. -/
structure Updates (d : Draft) (table : String) (row : Row) : Prop where
  nodup_columns : row.columns.Nodup
  build_eq : d.build.result =
    .ok (updateText table (row.entries.map fun entry => entry.1 ++ " = " ++ entry.2.inline) ++
      (trail (whereClause d.filters)).inline)
  query_eq : d.buildQuery.result = .ok ⟨.update,
    updateText table ((row.columns.zipIdx 1).map assignmentText) ++
      (trail (whereClause d.filters)).numbered (1 + row.size),
    row.values ++ (trail (whereClause d.filters)).values⟩

/-- A draft that makes an update writes an assignment for each of its columns, and its filters. -/
theorem updates_of_statement {d : Draft} {table : String}
    (h : d.statement = .ok (.update table d.assignments d.filters)) :
    d.Updates table d.assignments := by
  have hcount : (join ", " (d.assignments.entries.map assignmentTemplate)).values.length =
      d.assignments.size := by
    rw [values_assignments, List.length_map, Keyed.size]
  obtain ⟨hbuild, hquery⟩ := result_of_statement h
  rw [render_update, List.append_nil] at hbuild hquery
  refine ⟨d.assignments.nodup_keys, hbuild.trans (congrArg Except.ok ?_),
    hquery.trans (congrArg Except.ok ?_)⟩
  · simp only [Template.inline, inline_append, inline_assignments, updateText, String.append_assoc]
  · rw [Query.mk.injEq]
    refine ⟨rfl, ?_, ?_⟩
    · rw [numbered, numbered_append, hcount, numbered_assignments, updateText,
        ← String.append_assoc]
      rfl
    · rw [values, values_append, values_assignments]
      rfl

end Draft

/-- A row records the writes of its history: it has each written column once, in the order of the
first writes, with the last value written to it. So rows are merged in any grouping, an empty row or
the row itself adds nothing, and a draft that is assigned two rows one after the other is the draft
that is assigned the merged rows. If it makes an update, this assigns to each column once. -/
theorem Row.records_history (history : List Row.Step) (r s t : Row) (d : Draft) :
    (Row.replay ∅ history).Records (Row.writes [] history) ∧
    (Row.replay ∅ history).Records (Row.performed [] history) ∧
    (r.merge s).merge t = r.merge (s.merge t) ∧
    r.merge ∅ = r ∧ (∅ : Row).merge r = r ∧ r.merge r = r ∧
    let e := d.add (.assign (r.merge s))
    (d.add (.assign r)).add (.assign s) = e ∧
    (e.kind = .ok .update →
      ∃ table, d.updated = some table ∧ e.Updates table (d.assignments.merge (r.merge s))) := by
  refine ⟨records_replay records_empty history, records_performed records_empty history,
    r.merge_assoc s t, r.merge_empty, r.empty_merge, r.merge_self, ?_, fun hkind => ?_⟩
  · simp only [Draft.add, Keyed.merge_assoc]
  · obtain ⟨table, htable, hstatement⟩ := Draft.update_of_kind hkind
    exact ⟨table, htable, Draft.updates_of_statement hstatement⟩

/-- Columns are written again, and the merged row was written to twice itself. -/
def Row.writtenAgain : List Row.Step :=
  [.write "a" (.int 1), .collect [("b", .int 2), ("a", .null), ("b", .text "B")],
    .merge [.write "c" (.int 3), .write "a" (.int 4), .write "c" (.int 5)], .write "b" (.int 6)]

/-- Both rows of an update assign to one of its columns, and this is named once. -/
theorem Row.records_history_writtenAgain :
    let d := (Draft.empty Config.default).add (.update "users")
    let r : Row := Keyed.ofList [("name", .text "A"), ("age", .int 30)]
    let s : Row := Keyed.ofList [("age", .int 31), ("city", .null)]
    let e := d.add (.assign (r.merge s))
    (Row.replay ∅ Row.writtenAgain).columns = ["b", "a", "c"] ∧
      (Row.replay ∅ Row.writtenAgain).values = [.int 6, .int 4, .int 5] ∧
      (d.add (.assign r)).add (.assign s) = e ∧ e.kind = .ok .update ∧
      (∃ table, d.updated = some table ∧ e.Updates table (d.assignments.merge (r.merge s))) ∧
      e.build.result = .ok "UPDATE users SET name = 'A', age = '31', city = 'null'" := by
  intro d r s e
  obtain ⟨-, -, -, -, -, -, hsame, hupdate⟩ := records_history Row.writtenAgain r s ∅ d
  exact ⟨rfl, rfl, hsame, rfl, hupdate rfl, rfl⟩

end SqlDraft
