import SqlDraft.Parameters
import SqlDraft.Proofs.Writing.Outcome

/-!
# Filled templates are readings

The quoting writer gives a template its inline reading and the numbering writer its numbered one.
So what a draft is finished as is a reading of its template, and what the numbering writer has
collected in the end are the values of the template.
-/

namespace SqlDraft

namespace Template

/-- The quoting writer writes each value into the text. -/
theorem fill_quoting (t : Template) : fill Writer.quoting t = pure t.inline := by
  induction t with
  | nil => rfl
  | cons piece rest ih =>
    cases piece with
    | text s =>
      rw [fill, ih]
      rfl
    | slot v =>
      rw [fill, ih]
      rfl

/-- The numbering writer goes on numbering where its parameters end. -/
theorem run_fill_numbering (t : Template) (p : Parameters) :
    (fill Writer.numbering t).run p = pure (p.write t) := by
  induction t generalizing p with
  | nil => simp only [fill, StateT.run_pure, Parameters.write, numbered, values, List.append_nil]
  | cons piece rest ih =>
    cases piece with
    | text s =>
      rw [fill, StateT.run_bind, ih]
      rfl
    | slot v =>
      have hv : (Writer.numbering.value v).run p =
          pure (placeholder (p.push v).size, p.push v) := rfl
      rw [fill, StateT.run_bind, hv, pure_bind, StateT.run_bind, ih, pure_bind, StateT.run_pure]
      simp only [Parameters.write, Parameters.push, Parameters.size, numbered, values,
        List.length_append, List.length_singleton, List.append_assoc, List.singleton_append]

end Template

namespace Condition

/-- The text of a condition is the inline reading of its template. -/
theorem inline_eq (c : Condition) : c.inline = c.template.inline := by
  rw [inline, write_eq_fill, Template.fill_quoting]
  rfl

/-- A condition under the numbering writer is its template with the next placeholders. -/
theorem run_write_numbering (c : Condition) (p : Parameters) :
    ((c.write Writer.numbering).run p).run = p.write c.template := by
  rw [write_eq_fill, Template.run_fill_numbering]
  rfl

/-- Conditions side by side under the numbering writer are one template. -/
theorem run_writeAll_numbering (cs : List Condition) (p : Parameters) :
    let (texts, after) := ((writeAll Writer.numbering cs).run p).run
    (conjoined texts, after) = p.write (allOf (cs.map template)) := by
  have h := Template.run_fill_numbering (allOf (cs.map template)) p
  rw [Template.fill_allOf, ← writeAll_eq_mapM_fill] at h
  exact h

end Condition

namespace Draft

/-- A draft that is built is the inline reading of its template. -/
theorem build_eq (d : Draft) : d.build =
    match d.render with
    | .error e => ⟨.error e, []⟩
    | .ok (s, r) =>
      ⟨.ok r.template.inline, d.config.shown
        (r.warnings ++ [.built s.kind 0 (truncate d.config.loggedBytes r.template.inline)])⟩ := by
  rw [build]
  cases hr : d.render with
  | error e =>
    obtain ⟨after, he⟩ := start_finish_error Writer.quoting (fun _ => 0) hr ()
    rw [he]
    rfl
  | ok rendered =>
    obtain ⟨s, r⟩ := rendered
    have h := start_finish_ok Writer.quoting (fun _ => 0) hr ()
    rw [Template.fill_quoting] at h
    rw [h]
    rfl

/-- A draft with placeholders is the numbered reading of its template, beside its values. -/
theorem buildQuery_eq (d : Draft) : d.buildQuery =
    match d.render with
    | .error e => ⟨.error e, []⟩
    | .ok (s, r) =>
      let sql := r.template.numbered 1
      ⟨.ok ⟨s.kind, sql, r.template.values⟩, d.config.shown
        (r.warnings ++
          [.built s.kind r.template.values.length (truncate d.config.loggedBytes sql)])⟩ := by
  rw [buildQuery]
  cases hr : d.render with
  | error e =>
    obtain ⟨after, he⟩ := start_finish_error Writer.numbering Parameters.size hr Parameters.empty
    rw [he]
    rfl
  | ok rendered =>
    obtain ⟨s, r⟩ := rendered
    have h := start_finish_ok Writer.numbering Parameters.size hr Parameters.empty
    rw [Template.run_fill_numbering] at h
    rw [h]
    rfl

/-- A text is built only if a statement is rendered. -/
theorem exists_render_of_build {d : Draft} {sql : String} (h : d.build.result = .ok sql) :
    ∃ s r, d.render = .ok (s, r) ∧ sql = r.template.inline := by
  rw [build_eq] at h
  cases hr : d.render with
  | error e =>
    rw [hr] at h
    cases h
  | ok rendered =>
    rw [hr] at h
    cases h
    exact ⟨rendered.1, rendered.2, rfl, rfl⟩

/-- A query is made only if a statement is rendered. -/
theorem exists_render_of_buildQuery {d : Draft} {q : Query} (h : d.buildQuery.result = .ok q) :
    ∃ s r, d.render = .ok (s, r) ∧ q = ⟨s.kind, r.template.numbered 1, r.template.values⟩ := by
  rw [buildQuery_eq] at h
  cases hr : d.render with
  | error e =>
    rw [hr] at h
    cases h
  | ok rendered =>
    rw [hr] at h
    cases h
    exact ⟨rendered.1, rendered.2, rfl, rfl⟩

end Draft

end SqlDraft
