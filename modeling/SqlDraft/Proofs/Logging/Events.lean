import SqlDraft.Proofs.Parameters.Leaves
import SqlDraft.Proofs.Rows.Disagreement
import SqlDraft.Proofs.Writing.Agreement
import SqlDraft.Server.Connection

/-!
# What is logged of a statement

Finishing a draft logs nothing unless it succeeds: first a warning for each row to insert that keeps
its own order, then the statement. A connection logs the text that it is given, whatever the draft
is configured to log.
-/

namespace SqlDraft

namespace Draft

/-- The warnings on the way to a statement: one for each row to insert whose columns are not those
of the first row, in the order of the rows. -/
def rowWarnings (d : Draft) : StatementKind → List Event
  | .insert =>
    (d.rows.findIdxs fun row => ¬ row.HasColumns d.insertedColumns).map
      (.misaligned (d.insertedInto.getD ""))
  | _ => []

/-- Warnings are for insertions whose rows need not agree. -/
theorem warnings_of_render {d : Draft} {s : Statement} {r : Rendered} (h : d.render = .ok (s, r)) :
    r.warnings = d.rowWarnings s.kind ∧
      (r.warnings ≠ [] → s.kind = .insert ∧ d.config.strictRows = false) := by
  obtain ⟨hstatement, hrender⟩ := render_eq_ok_iff.mp h
  cases makes_of_statement hstatement with
  | select _ _ =>
    cases hrender
    exact ⟨rfl, fun hne => absurd rfl hne⟩
  | update _ _ =>
    cases hrender
    exact ⟨rfl, fun hne => absurd rfl hne⟩
  | delete _ =>
    cases hrender
    exact ⟨rfl, fun hne => absurd rfl hne⟩
  | @insert table htable hrows =>
    obtain ⟨first, tuples, hfirst, -, htuples, -, hwarnings⟩ := render_insert hrender
    have hcolumns : d.insertedColumns = first.columns := by
      rw [insertedColumns, hfirst]
      rfl
    have hmisaligned := misaligned_of_tuplesFrom first.nodup_columns htuples
    have hequal : r.warnings = d.rowWarnings .insert := by
      rw [hwarnings, hmisaligned, rowWarnings, htable, hcolumns]
      rfl
    refine ⟨hequal, fun hne => ⟨rfl, ?_⟩⟩
    -- Where rows have to agree, no row has other columns, so that none is noted.
    by_contra hstrict
    have hall := (tuplesFrom_eq_ok first.nodup_columns htuples).2 (by simpa using hstrict)
    have hnone : tuples.misaligned = [] := by
      rw [hmisaligned, List.findIdxs_eq_nil_iff]
      exact fun row hrow => by simpa using hall row hrow
    rw [hwarnings, hnone] at hne
    exact hne rfl

/-- The events of a statement that was finished: its warnings, which only an insertion has whose
rows need not agree, and then the statement itself, cut to the bytes that a log shows. -/
structure Logs (d : Draft) (kind : StatementKind) (parameters : Nat) (sql : String)
    (events : List Event) : Prop where
  kind_eq : d.kind = .ok kind
  events_eq : events =
    d.rowWarnings kind ++ [.built kind parameters (truncate d.config.loggedBytes sql)]
  lenient : d.rowWarnings kind ≠ [] → kind = .insert ∧ d.config.strictRows = false
  levels : events.map Event.level =
    List.replicate (d.rowWarnings kind).length "WARN" ++ ["DEBUG"]

/-- Of its rows a draft says nothing but warnings. -/
theorem level_of_mem_rowWarnings {d : Draft} {kind : StatementKind} {level : String}
    (h : level ∈ (d.rowWarnings kind).map Event.level) : level = "WARN" := by
  obtain ⟨event, hevent, rfl⟩ := List.mem_map.mp h
  cases kind with
  | insert =>
    obtain ⟨index, -, rfl⟩ := List.mem_map.mp hevent
    rfl
  | select => exact absurd hevent List.not_mem_nil
  | update => exact absurd hevent List.not_mem_nil
  | delete => exact absurd hevent List.not_mem_nil

/-- What is logged of a draft that has a template. -/
theorem logs_of_render {d : Draft} {s : Statement} {r : Rendered} (h : d.render = .ok (s, r))
    (parameters : Nat) (sql : String) :
    d.Logs s.kind parameters sql
      (r.warnings ++ [.built s.kind parameters (truncate d.config.loggedBytes sql)]) := by
  obtain ⟨hwarnings, hlenient⟩ := warnings_of_render h
  rw [hwarnings] at hlenient ⊢
  refine ⟨kind_of_render h, rfl, hlenient, ?_⟩
  have hlevels : (d.rowWarnings s.kind).map Event.level =
      List.replicate (d.rowWarnings s.kind).length "WARN" :=
    List.eq_replicate_iff.mpr ⟨List.length_map _, fun _ => level_of_mem_rowWarnings⟩
  rw [List.map_append, hlevels]
  rfl

/-- Building a draft is refused without an event, or logs its statement without parameters. -/
theorem build_logs (d : Draft) :
    (∃ e, d.build = ⟨.error e, []⟩) ∨
      ∃ sql events, d.build = ⟨.ok sql, d.config.shown events⟩ ∧
        ∃ kind, d.Logs kind 0 sql events := by
  rw [build_eq]
  cases hr : d.render with
  | error e => exact .inl ⟨e, rfl⟩
  | ok rendered =>
    obtain ⟨s, r⟩ := rendered
    exact .inr ⟨_, _, rfl, s.kind, logs_of_render hr 0 _⟩

/-- A query is refused without an event, or logs its statement with the number of parameters. -/
theorem buildQuery_logs (d : Draft) :
    (∃ e, d.buildQuery = ⟨.error e, []⟩) ∨
      ∃ q events, d.buildQuery = ⟨.ok q, d.config.shown events⟩ ∧
        d.Logs q.kind q.params.length q.sql events := by
  rw [buildQuery_eq]
  cases hr : d.render with
  | error e => exact .inl ⟨e, rfl⟩
  | ok rendered =>
    obtain ⟨s, r⟩ := rendered
    exact .inr ⟨_, _, rfl, logs_of_render hr r.template.values.length _⟩

/-- What is refused without an event or logs certain events has none of them in the log if it is
refused or if nothing is to be logged, and just these if it succeeds and something is. -/
theorem events_of_logged {α : Type} {x : Logged α} {config : Config}
    {logs : α → List Event → Prop}
    (h : (∃ e, x = ⟨.error e, []⟩) ∨
      ∃ a events, x = ⟨.ok a, config.shown events⟩ ∧ logs a events) :
    (config.logStatements = false → x.events = []) ∧
      (∀ e, x.result = .error e → x.events = []) ∧
      (config.logStatements = true → ∀ a, x.result = .ok a → logs a x.events) := by
  rcases h with ⟨e, rfl⟩ | ⟨a, events, rfl, hlogs⟩
  · refine ⟨fun _ => rfl, fun _ _ => rfl, fun _ a ha => ?_⟩
    cases ha
  · refine ⟨fun hoff => ?_, fun e he => ?_, fun hon b hb => ?_⟩
    · exact if_neg (by rw [hoff]; exact Bool.false_ne_true)
    · cases he
    · cases hb
      have hshown : config.shown events = events := if_pos hon
      rw [hshown]
      exact hlogs

/-- Running a draft over a connection logs what finishing it does, and then the text. -/
theorem events_execute (d : Draft) (c : Connection) :
    (d.execute Connection.executor c).1.events = d.build.events ++
      match d.build.result with
      | .ok sql => [.executing (truncate (some 200) sql)]
      | .error _ => [] := by
  rw [execute]
  cases d.build.result with
  | error e => exact (List.append_nil _).symm
  | ok sql => rfl

/-- Finishing a draft logs nothing if the draft is not to be logged or is refused, and otherwise its
warnings and then the statement. Running it over a connection logs the text besides, cut to two
hundred bytes, just if there is one. -/
theorem finishing_logs (d : Draft) (c : Connection) :
    (d.config.logStatements = false → d.build.events = [] ∧ d.buildQuery.events = []) ∧
    (∀ e, d.build.result = .error e → d.build.events = []) ∧
    (∀ e, d.buildQuery.result = .error e → d.buildQuery.events = []) ∧
    (d.config.logStatements = true →
      (∀ sql, d.build.result = .ok sql → ∃ kind, d.Logs kind 0 sql d.build.events) ∧
      ∀ q, d.buildQuery.result = .ok q →
        d.Logs q.kind q.params.length q.sql d.buildQuery.events) ∧
    (d.execute Connection.executor c).1.events = d.build.events ++
      match d.build.result with
      | .ok sql => [.executing (truncate (some 200) sql)]
      | .error _ => [] := by
  obtain ⟨hbuildOff, hbuildRefused, hbuildLogs⟩ := events_of_logged d.build_logs
  obtain ⟨hqueryOff, hqueryRefused, hqueryLogs⟩ := events_of_logged d.buildQuery_logs
  exact ⟨fun hoff => ⟨hbuildOff hoff, hqueryOff hoff⟩, hbuildRefused, hqueryRefused,
    fun hon => ⟨hbuildLogs hon, hqueryLogs hon⟩, events_execute d c⟩

/-- Rows of which the last does not name the columns of the first. -/
def mixedRows : Draft :=
  (empty ⟨false, true, some 11⟩).addAll [
    .insertInto "items",
    .row (Keyed.ofList [("id", .int 1), ("name", .text "a")]),
    .row (Keyed.ofList [("name", .text "b"), ("id", .int 2)]),
    .row (Keyed.ofList [("id", .int 3)])]

/-- Only the last row is warned of, and the limit on what is logged holds for the finished statement
but not for the connection. -/
theorem finishing_logs_mixedRows :
    mixedRows.build.events = [.misaligned "items" 2, .built .insert 0 "INSERT INTO..."] ∧
    (mixedRows.execute Connection.executor ⟨false, [], []⟩).1.events =
      [.misaligned "items" 2, .built .insert 0 "INSERT INTO...",
        .executing "INSERT INTO items (id, name) VALUES ('1', 'a'), ('2', 'b'), ('3')"] := by
  have hwarnings : mixedRows.rowWarnings .insert = [.misaligned "items" 2] := by decide
  have hbuild : mixedRows.build.result =
      .ok "INSERT INTO items (id, name) VALUES ('1', 'a'), ('2', 'b'), ('3')" := rfl
  obtain ⟨-, -, -, hlogs, hrun⟩ := finishing_logs mixedRows ⟨false, [], []⟩
  obtain ⟨kind, hlog⟩ := (hlogs rfl).1 _ hbuild
  have hkind : kind = .insert := (Except.ok.inj hlog.kind_eq).symm
  subst hkind
  have hevents : mixedRows.build.events =
      [.misaligned "items" 2, .built .insert 0 "INSERT INTO..."] := by
    rw [hlog.events_eq, hwarnings]
    rfl
  refine ⟨hevents, ?_⟩
  rw [hrun, hevents, hbuild]
  rfl

end Draft

end SqlDraft
