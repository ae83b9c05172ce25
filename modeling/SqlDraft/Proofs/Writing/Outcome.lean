import SqlDraft.Proofs.Writing.Filling

/-!
# What writing a statement comes to

An insertion can be refused when some of its rows are written already. Whether it is refused, and
with which error, is the same for every writer, and what is not refused fills its template. Rows are
refused only where none of them is logged, so that a refusal leaves nothing in the log.
-/

namespace SqlDraft

variable {σ : Type}

/-- What writing comes to that can be refused: a refusal depends neither on the writer nor on what
it remembers and adds nothing to the log, and what is not refused is the given writing and adds the
given events. -/
def Settles {α : Type} (action : Logging σ α) : Except Error (List Event × StateM σ α) → Prop
  | .error e => ∀ log state, ∃ after, action.runFrom log state = ((.error e, log), after)
  | .ok (events, writing) => ∀ log,
      action.run.run log = (fun a => (.ok a, log ++ events)) <$> writing

namespace Settles

/-- An action that succeeds adds its events to the log and runs its writing. -/
theorem runFrom_ok {α : Type} {action : Logging σ α} {events : List Event} {writing : StateM σ α}
    (h : Settles action (.ok (events, writing))) (log : List Event) (state : σ) :
    action.runFrom log state =
      ((.ok (writing.run state).run.1, log ++ events), (writing.run state).run.2) := by
  have h' : action.run.run log = (fun a => (Except.ok a, log ++ events)) <$> writing := h log
  rw [Logging.runFrom, h']
  rfl

/-- What is written first does not look at the log. -/
theorem run_lift_bind {α β : Type} (first : StateM σ α) (action : α → Logging σ β)
    (log : List Event) :
    (ExceptT.lift (StateT.lift first) >>= action).run.run log =
      first >>= fun a => (action a).run.run log := by
  rw [ExceptT.run_bind_lift, StateT.run_bind, StateT.run_lift, bind_assoc]
  simp only [pure_bind]

/-- What is written before a refusal is lost with it. -/
theorem after_error {α β : Type} {action : α → Logging σ β} {e : Error} (first : StateM σ α)
    (h : ∀ a, Settles (action a) (.error e)) :
    Settles (ExceptT.lift (StateT.lift first) >>= action) (.error e) := by
  intro log state
  rw [Logging.runFrom, run_lift_bind]
  exact h (first.run state).run.1 log (first.run state).run.2

/-- Writing before an action that succeeds runs before its writing. -/
theorem after_ok {α β : Type} {action : α → Logging σ β} {events : List Event}
    {writing : α → StateM σ β} (first : StateM σ α)
    (h : ∀ a, Settles (action a) (.ok (events, writing a))) :
    Settles (ExceptT.lift (StateT.lift first) >>= action) (.ok (events, first >>= writing)) := by
  have h' : ∀ a log, (action a).run.run log = (fun b => (.ok b, log ++ events)) <$> writing a := h
  intro log
  simp only [run_lift_bind, h', map_bind]

/-- What is logged before a refusal stays in the log, unless the log shows nothing of it. -/
theorem logged_error {α : Type} {action : Logging σ α} {config : Config} {before : List Event}
    {e : Error} (hbefore : config.shown before = []) (h : Settles action (.error e)) :
    Settles (Logging.log config before >>= fun _ => action) (.error e) := by
  intro log state
  change ∃ after, action.runFrom (log ++ config.shown before) state = _
  rw [hbefore, List.append_nil]
  exact h log state

/-- Logging before an action that succeeds puts its events in front, where they are shown. -/
theorem logged_ok {α : Type} {action : Logging σ α} {events : List Event} {writing : StateM σ α}
    (config : Config) (before : List Event) (h : Settles action (.ok (events, writing))) :
    Settles (Logging.log config before >>= fun _ => action)
      (.ok (config.shown before ++ events, writing)) := by
  intro log
  change action.run.run (log ++ config.shown before) = _
  rw [← List.append_assoc]
  exact h (log ++ config.shown before)

/-- What only writes shows nothing in the log. -/
theorem of_unlogged {α : Type} {action : Logging σ α} {writing : StateM σ α} (config : Config)
    (h : ∀ log, action.run.run log = (fun a => (.ok a, log)) <$> writing) :
    Settles action (.ok (config.shown [], writing)) := by
  have hnone : config.shown [] = [] := ite_self []
  intro log
  rw [hnone, List.append_nil]
  exact h log

/-- What is made of a text in the end does not decide a refusal. -/
theorem map {α β : Type} {action : Logging σ α}
    {outcome : Except Error (List Event × StateM σ α)} (h : Settles action outcome) (f : α → β) :
    Settles (f <$> action) (outcome.map fun (events, writing) => (events, f <$> writing)) := by
  cases outcome with
  | error e =>
    intro log state
    obtain ⟨after, hafter⟩ := h log state
    refine ⟨after, ?_⟩
    rw [Logging.runFrom, ExceptT.run_map, StateT.run_map, StateT.run_map]
    exact congrArg (fun p => ((Except.map f p.1.1, p.1.2), p.2)) hafter
  | ok settled =>
    obtain ⟨events, writing⟩ := settled
    intro log
    have h' : action.run.run log = (fun a => (Except.ok a, log ++ events)) <$> writing := h log
    rw [ExceptT.run_map, StateT.run_map, h', Functor.map_map, Functor.map_map]
    rfl

end Settles

/-! ## Rows -/

/-- Where rows have to agree, no row keeps its own order. -/
theorem rowTuple_strict {columns : List String} {index : Nat} {row : Row} {values : List Value}
    {misaligned : List Nat} (h : rowTuple true columns index row = .ok (values, misaligned)) :
    misaligned = [] := by
  rw [rowTuple] at h
  cases ha : row.aligned? columns with
  | none =>
    rw [ha] at h
    cases h
  | some aligned =>
    rw [ha] at h
    cases h
    rfl

/-- Where rows need not agree, none is refused. -/
theorem tuplesFrom_lenient (columns : List String) (rows : List Row) (index : Nat) :
    ∃ tuples, tuplesFrom false columns index rows = .ok tuples := by
  induction rows generalizing index with
  | nil => exact ⟨_, rfl⟩
  | cons row rest ih =>
    obtain ⟨others, hothers⟩ := ih (index + 1)
    rw [tuplesFrom, hothers, rowTuple]
    cases row.aligned? columns <;> exact ⟨_, rfl⟩

/-- Rows before one that is refused are not logged. -/
theorem misaligned_eq_nil_of_refused {strict : Bool} {columns : List String} {index : Nat}
    {row : Row} {rest : List Row} {values : List Value} {misaligned : List Nat} {e : Error}
    (hrow : rowTuple strict columns index row = .ok (values, misaligned))
    (hrest : tuplesFrom strict columns (index + 1) rest = .error e) : misaligned = [] := by
  cases strict with
  | true => exact rowTuple_strict hrow
  | false =>
    obtain ⟨tuples, htuples⟩ := tuplesFrom_lenient columns rest (index + 1)
    rw [htuples] at hrest
    cases hrest

/-- Rows are refused, or agree on their tuples, apart from any writing; the tuples are written in
the order of the rows, and the rows that keep their own order are logged in it. -/
theorem writeTuples_settles (w : Writer σ) (config : Config) (table : String)
    (columns : List String) (rows : List Row) (index : Nat) :
    Settles (writeTuples w config table columns index rows)
      ((tuplesFrom config.strictRows columns index rows).map fun tuples =>
        (config.shown (tuples.misaligned.map (.misaligned table)), tuples.values.mapM w.list)) := by
  induction rows generalizing index with
  | nil => exact Settles.of_unlogged config fun log => rfl
  | cons row rest ih =>
    rw [writeTuples, tuplesFrom]
    cases hrow : rowTuple config.strictRows columns index row with
    | error e => exact fun log state => ⟨state, rfl⟩
    | ok tuple =>
      obtain ⟨values, misaligned⟩ := tuple
      have hrest (text : String) := (ih (index + 1)).map fun texts => text :: texts
      cases ht : tuplesFrom config.strictRows columns (index + 1) rest with
      | error e =>
        rw [ht] at hrest
        have hsilent : config.shown (misaligned.map (.misaligned table)) = [] := by
          rw [misaligned_eq_nil_of_refused hrow ht]
          exact ite_self []
        exact Settles.logged_error hsilent (Settles.after_error (w.list values) hrest)
      | ok others =>
        rw [ht] at hrest
        have h := Settles.logged_ok config (misaligned.map (.misaligned table))
          (Settles.after_ok (w.list values) hrest)
        intro log
        refine (h log).trans ?_
        simp only [List.mapM_cons, List.map_append, Config.shown_append, bind_pure_comp]

/-! ## Statements -/

/-- Writes the template of a statement, and shows its warnings in the log. -/
def Rendered.settled (w : Writer σ) (config : Config) (r : Rendered) :
    List Event × StateM σ String :=
  (config.shown r.warnings, r.template.fill w)

/-- A selection cannot be refused. -/
private theorem write_select (w : Writer σ) (config : Config) (columns : List String)
    (source : String) (joins : List Join) (filters : List Condition)
    (ordering grouping : List String) :
    let s := Statement.select columns source joins filters ordering grouping
    Settles (s.write w config) ((s.render config.strictRows).map (Rendered.settled w config)) := by
  intro s
  refine Settles.of_unlogged config fun log => ?_
  change (ExceptT.lift (StateT.lift (writeJoins w joins)) >>= fun joined =>
    ExceptT.lift (StateT.lift (writeWhere w filters)) >>= fun kept => pure _).run.run log = _
  simp only [Settles.run_lift_bind, ExceptT.run_pure, StateT.run_pure, writeJoins_eq_mapM_fill,
    writeWhere_eq_mapM_fill, fill_spacedTemplates, List.mapM_append, List.mapM_cons,
    Template.mapM_fill_ofText, Template.fill_ofText, List.cons_append, List.nil_append,
    List.append_assoc, bind_assoc, pure_bind, map_bind, map_pure]

/-- An update cannot be refused. -/
private theorem write_update (w : Writer σ) (config : Config) (table : String) (assignments : Row)
    (filters : List Condition) :
    let s := Statement.update table assignments filters
    Settles (s.write w config) ((s.render config.strictRows).map (Rendered.settled w config)) := by
  intro s
  refine Settles.of_unlogged config fun log => ?_
  change (ExceptT.lift (StateT.lift (writeAssignments w assignments)) >>= fun assigned =>
    ExceptT.lift (StateT.lift (writeWhere w filters)) >>= fun kept => pure _).run.run log = _
  simp only [Settles.run_lift_bind, ExceptT.run_pure, StateT.run_pure,
    writeAssignments_eq_mapM_fill, writeWhere_eq_mapM_fill, fill_spacedTemplates, Template.fill,
    Template.fill_join, commaList, List.mapM_cons, String.append_assoc, bind_assoc, pure_bind,
    map_bind, map_pure]

/-- An insertion is refused by its first row or by its tuples, and not by their text. -/
private theorem write_insert (w : Writer σ) (config : Config) (table : String) (rows : List Row) :
    let s := Statement.insert table rows
    Settles (s.write w config) ((s.render config.strictRows).map (Rendered.settled w config)) := by
  intro s
  rw [Statement.write, Statement.render]
  cases firstColumns table rows with
  | error e => exact fun log state => ⟨state, rfl⟩
  | ok columns =>
    have htuples := (writeTuples_settles w config table columns rows 0).map fun tuples =>
      "INSERT INTO " ++ table ++ " (" ++ commaList columns ++ ") VALUES " ++ commaList tuples
    change Settles _
      (Except.map _ (tuplesFrom config.strictRows columns 0 rows >>= fun tuples => pure _))
    cases ht : tuplesFrom config.strictRows columns 0 rows with
    | error e =>
      rw [ht] at htuples
      exact htuples
    | ok tuples =>
      rw [ht] at htuples
      intro log
      refine (htuples log).trans ?_
      have hlists := Template.mapM_eq_mapM_fill w
        (fun values => (Template.fill_list w values).symm) tuples.values
      simp only [insertTemplate, Template.fill, Template.fill_join, ← hlists, commaList,
        map_eq_pure_bind, bind_assoc, pure_bind]

/-- A deletion cannot be refused. -/
private theorem write_delete (w : Writer σ) (config : Config) (table : String)
    (filters : List Condition) :
    let s := Statement.delete table filters
    Settles (s.write w config) ((s.render config.strictRows).map (Rendered.settled w config)) := by
  intro s
  refine Settles.of_unlogged config fun log => ?_
  change (ExceptT.lift (StateT.lift (writeWhere w filters)) >>= fun kept => pure _).run.run log = _
  simp only [Settles.run_lift_bind, ExceptT.run_pure, StateT.run_pure, writeWhere_eq_mapM_fill,
    fill_spacedTemplates, Template.fill_ofText, List.mapM_cons, bind_assoc, pure_bind, map_bind,
    map_pure]

/-- A statement that is not refused fills its template. -/
theorem Statement.write_settles (w : Writer σ) (config : Config) (s : Statement) :
    Settles (s.write w config) ((s.render config.strictRows).map (Rendered.settled w config)) := by
  cases s with
  | select columns source joins filters ordering grouping =>
    exact write_select w config columns source joins filters ordering grouping
  | update table assignments filters => exact write_update w config table assignments filters
  | insert table rows => exact write_insert w config table rows
  | delete table filters => exact write_delete w config table filters

/-! ## Drafts -/

namespace Draft

/-- A draft without a template is refused, and nothing is logged. -/
theorem start_finish_error (w : Writer σ) (parameters : σ → Nat) {d : Draft} {e : Error}
    (h : d.render = .error e) (state : σ) :
    ∃ after, (d.finish w parameters).start state = (⟨.error e, []⟩, after) := by
  rw [render] at h
  rw [finish]
  cases hs : d.statement with
  | error fault =>
    rw [hs] at h
    cases h
    exact ⟨state, rfl⟩
  | ok s =>
    rw [hs] at h
    change (s.render d.config.strictRows >>= fun r => Except.ok (s, r)) = .error e at h
    have hwrite := s.write_settles w d.config
    cases hr : s.render d.config.strictRows with
    | ok r =>
      rw [hr] at h
      cases h
    | error fault =>
      rw [hr] at h hwrite
      cases h
      obtain ⟨after, hafter⟩ := hwrite [] state
      refine ⟨after, ?_⟩
      change (Logging.start (s.write w d.config >>= _) state) = _
      rw [Logging.start, Logging.runFrom_bind, hafter]

/-- A draft with a template is finished as what filling it gives, and is logged after its
warnings. -/
theorem start_finish_ok (w : Writer σ) (parameters : σ → Nat) {d : Draft} {s : Statement}
    {r : Rendered} (h : d.render = .ok (s, r)) (state : σ) :
    let (sql, after) := ((r.template.fill w).run state).run
    (d.finish w parameters).start state =
      (⟨.ok (s.kind, sql), d.config.shown
        (r.warnings ++ [.built s.kind (parameters after) (truncate d.config.loggedBytes sql)])⟩,
        after) := by
  obtain ⟨hs, hr⟩ := render_eq_ok_iff.mp h
  have hwrite := s.write_settles w d.config
  rw [hr] at hwrite
  rw [finish, hs]
  change Logging.start (s.write w d.config >>= _) state = _
  rw [Logging.start, Logging.runFrom_bind, Settles.runFrom_ok hwrite, Config.shown_append]
  rfl

end Draft

end SqlDraft
