import SqlDraft.Proofs.Results
import SqlDraft.Proofs.Writing.Readings

/-!
# What a draft makes

A draft that is finished makes a statement of its own clauses, and a query is the text and the
values of the template of that statement.
-/

namespace SqlDraft

/-- An insertion is refused if its first row has no columns, and otherwise as its tuples are. -/
theorem render_insert_cons (strict : Bool) (table : String) (first : Row) (rest : List Row) :
    (Statement.insert table (first :: rest)).render strict =
      if first.isEmpty then .error (.invalidStatement (.emptyFirstRow table))
      else (tuplesFrom strict first.columns 0 (first :: rest)).map fun tuples =>
        ⟨insertTemplate table first.columns tuples.values,
          tuples.misaligned.map (.misaligned table)⟩ := by
  rw [Statement.render, firstColumns]
  by_cases hempty : first.isEmpty = true
  · rw [if_pos hempty, if_pos hempty]
    rfl
  · rw [if_neg hempty, if_neg hempty]
    change (tuplesFrom strict first.columns 0 (first :: rest) >>= fun tuples => Except.ok _) = _
    cases tuplesFrom strict first.columns 0 (first :: rest) <;> rfl

/-- An insertion that is not refused has a first row with columns. -/
theorem render_insert {strict : Bool} {table : String} {rows : List Row} {r : Rendered}
    (h : (Statement.insert table rows).render strict = .ok r) :
    ∃ first tuples, rows.head? = some first ∧ first.columns ≠ [] ∧
      tuplesFrom strict first.columns 0 rows = .ok tuples ∧
      r.template = insertTemplate table first.columns tuples.values ∧
      r.warnings = tuples.misaligned.map (.misaligned table) := by
  cases rows with
  | nil => cases h
  | cons first rest =>
    rw [render_insert_cons] at h
    by_cases hempty : first.isEmpty = true
    · rw [if_pos hempty] at h
      cases h
    · rw [if_neg hempty] at h
      obtain ⟨tuples, ht, rfl⟩ := map_eq_ok_iff.mp h
      exact ⟨first, tuples, rfl, fun hnil => hempty (first.isEmpty_iff_keys.mpr hnil), ht, rfl,
        rfl⟩

namespace Draft

/-- The statements that a draft can make, with the clauses that they are made of. -/
inductive Makes (d : Draft) : Statement → Prop where
  | select {source : String} (hcolumns : d.columns ≠ []) (hsource : d.source = some source) :
      Makes d (.select d.columns source d.joins d.filters d.ordering d.grouping)
  | update {table : String} (hassigned : d.assignments.entries ≠ [])
      (htable : d.updated = some table) : Makes d (.update table d.assignments d.filters)
  | insert {table : String} (htable : d.insertedInto = some table) (hrows : d.rows ≠ []) :
      Makes d (.insert table d.rows)
  | delete {table : String} (htable : d.deletedFrom = some table) :
      Makes d (.delete table d.filters)

/-- A list and an option, where both of them are there. -/
private theorem guarded_eq_some_iff {α β γ : Type} {l : List α} {o : Option β} {f : β → γ} {c : γ} :
    (if l.isEmpty then none else o.map f) = some c ↔ l ≠ [] ∧ ∃ b, o = some b ∧ f b = c := by
  rw [Option.ite_none_left_eq_some, List.isEmpty_iff, Option.map_eq_some_iff]

/-- A query comes from a source. -/
theorem makes_of_selection? {d : Draft} {s : Statement} (h : d.selection? = some s) :
    d.Makes s := by
  obtain ⟨hcolumns, source, hsource, rfl⟩ := guarded_eq_some_iff.mp h
  exact .select hcolumns hsource

/-- An update comes from a table and its assignments. -/
theorem makes_of_update? {d : Draft} {s : Statement} (h : d.update? = some s) : d.Makes s := by
  obtain ⟨hassigned, table, htable, rfl⟩ := guarded_eq_some_iff.mp h
  exact .update hassigned htable

/-- An insertion comes from a table and its rows. -/
theorem makes_of_insertion? {d : Draft} {s : Statement} (h : d.insertion? = some s) :
    d.Makes s := by
  obtain ⟨hrows, table, htable, rfl⟩ := guarded_eq_some_iff.mp h
  exact .insert htable hrows

/-- A deletion comes from a table. -/
theorem makes_of_deletion? {d : Draft} {s : Statement} (h : d.deletion? = some s) : d.Makes s := by
  obtain ⟨table, htable, rfl⟩ := Option.map_eq_some_iff.mp h
  exact .delete htable

/-- A draft makes a statement of its own clauses. -/
theorem makes_of_statement {d : Draft} {s : Statement} (h : d.statement = .ok s) : d.Makes s := by
  rw [statement] at h
  cases hs : d.statement? with
  | none =>
    rw [hs] at h
    cases h
  | some t =>
    rw [hs] at h
    cases h
    simp only [statement?, Option.orElse_eq_orElse, Option.orElse_eq_or,
      Option.or_eq_some_iff] at hs
    rcases hs with hselect | ⟨_, hupdate | ⟨_, hinsert | ⟨_, hdelete⟩⟩⟩
    · exact makes_of_selection? hselect
    · exact makes_of_update? hupdate
    · exact makes_of_insertion? hinsert
    · exact makes_of_deletion? hdelete

/-- Both outputs of a draft that makes a statement are readings of its template. -/
theorem result_of_statement {d : Draft} {s : Statement} (h : d.statement = .ok s) :
    d.build.result = (s.render d.config.strictRows).map (fun r => r.template.inline) ∧
    d.buildQuery.result = (s.render d.config.strictRows).map fun r =>
      ⟨s.kind, r.template.numbered 1, r.template.values⟩ := by
  have hrender : d.render = (s.render d.config.strictRows >>= fun r => pure (s, r)) := by
    rw [render, h]
    rfl
  rw [build_eq, buildQuery_eq, hrender]
  cases s.render d.config.strictRows with
  | error e => exact ⟨rfl, rfl⟩
  | ok r => exact ⟨rfl, rfl⟩

/-- A draft that makes no statement is refused by both outputs with the same error. -/
theorem result_of_statement_error {d : Draft} {e : Error} (h : d.statement = .error e) :
    d.build.result = .error e ∧ d.buildQuery.result = .error e := by
  have hrender : d.render = .error e := by
    rw [render, h]
    rfl
  rw [build_eq, buildQuery_eq, hrender]
  exact ⟨rfl, rfl⟩

/-- A query is the text and the values of the template of a statement that the draft makes. -/
theorem makes_of_buildQuery {d : Draft} {q : Query} (h : d.buildQuery.result = .ok q) :
    ∃ s r, d.Makes s ∧ s.render d.config.strictRows = .ok r ∧ q.kind = s.kind ∧
      q.sql = r.template.numbered 1 ∧ q.params = r.template.values := by
  obtain ⟨s, r, hr, rfl⟩ := exists_render_of_buildQuery h
  obtain ⟨hstatement, hrender⟩ := render_eq_ok_iff.mp hr
  exact ⟨s, r, makes_of_statement hstatement, hrender, rfl, rfl, rfl⟩

end Draft

end SqlDraft
