import Mathlib.Tactic.MkIffOfInductiveProp
import SqlDraft.Proofs.Recovery.Statement

/-!
# Drafts with one text

Two drafts that refuse rows which disagree, that have plain names, and that come to the same kind,
text and parameters, make the same statement: they agree in every clause that belongs to the kind.
-/

namespace SqlDraft

open Template

namespace Draft

/-- The names of a draft are plain, and an asterisk may stand for the columns to select. -/
@[mk_iff]
structure PlainNames (d : Draft) : Prop where
  columns : ∀ name ∈ d.columns, IsSelectable name
  source : ∀ table ∈ d.source, IsPlain keywords table
  joins : ∀ j ∈ d.joins, j.PlainNames
  filters : ∀ column ∈ Condition.columnsOfAll d.filters, IsPlain keywords column
  ordering : ∀ name ∈ d.ordering, IsPlain keywords name
  grouping : ∀ name ∈ d.grouping, IsPlain keywords name
  updated : ∀ table ∈ d.updated, IsPlain keywords table
  assignments : ∀ column ∈ d.assignments.columns, IsPlain keywords column
  insertedInto : ∀ table ∈ d.insertedInto, IsPlain keywords table
  rows : ∀ row ∈ d.rows, ∀ column ∈ row.columns, IsPlain keywords column
  deletedFrom : ∀ table ∈ d.deletedFrom, IsPlain keywords table

instance (d : Draft) : Decidable d.PlainNames := decidable_of_iff' _ (plainNames_iff d)

/-- Two drafts agree in the clauses of a kind. Conditions agree if they are equivalent, and rows to
insert if they are the same mappings. -/
def Agrees : StatementKind → Draft → Draft → Prop
  | .select, d, e =>
    d.columns = e.columns ∧ d.source = e.source ∧ List.Forall₂ Join.Agrees d.joins e.joins ∧
      d.ordering = e.ordering ∧ d.grouping = e.grouping ∧ Equivalent d.filters e.filters
  | .update, d, e =>
    d.updated = e.updated ∧ d.assignments = e.assignments ∧ Equivalent d.filters e.filters
  | .insert, d, e =>
    d.insertedInto = e.insertedInto ∧ d.rows.head?.map Row.columns = e.rows.head?.map Row.columns ∧
      List.Forall₂ Row.SameMapping d.rows e.rows
  | .delete, d, e => d.deletedFrom = e.deletedFrom ∧ Equivalent d.filters e.filters

section

variable {d e : Draft} (hdplain : d.PlainNames) (heplain : e.PlainNames)

include hdplain heplain

/-- Drafts with plain names that make selections which are alike agree in them. -/
theorem agrees_select (hcolumns : d.columns ≠ []) (hcolumns' : e.columns ≠ [])
    {source source' : String} (hsource : d.source = some source)
    (hsource' : e.source = some source') {strict strict' : Bool} {r r' : Rendered}
    (hr : (Statement.select d.columns source d.joins d.filters d.ordering d.grouping).render
      strict = .ok r)
    (hr' : (Statement.select e.columns source' e.joins e.filters e.ordering e.grouping).render
      strict' = .ok r')
    (h : Alike 1 r.template r'.template) : Agrees .select d e := by
  rw [render_select] at hr hr'
  cases hr
  cases hr'
  have hend := led_selectionEnd d.filters d.ordering d.grouping
  have hend' := led_selectionEnd e.filters e.ordering e.grouping
  obtain ⟨hnames, htable, hrest⟩ := selection_of_alike hcolumns hcolumns' hdplain.columns
    heplain.columns (hdplain.source source hsource) (heplain.source source' hsource')
    (led_joins d.joins hend) (led_joins e.joins hend') h
  obtain ⟨hjoins, next, hnext, hafter⟩ := joins_of_alike (by decide) (by decide) hend hend'
    (fun j hj => (hdplain.joins j hj).readable) (fun j hj => (heplain.joins j hj).readable)
    Nat.one_pos hrest
  obtain ⟨hfilters, hordering, hgrouping⟩ := selectionEnd_of_alike hnext hdplain.filters
    heplain.filters hdplain.ordering heplain.ordering hdplain.grouping heplain.grouping hafter
  refine ⟨hnames, ?_, hjoins, hordering, hgrouping, hfilters⟩
  rw [hsource, hsource', htable]

/-- Drafts with plain names that make updates which are alike agree in them. -/
theorem agrees_update (hassigned : d.assignments.entries ≠ [])
    (hassigned' : e.assignments.entries ≠ []) {table table' : String}
    (htable : d.updated = some table) (htable' : e.updated = some table') {strict strict' : Bool}
    {r r' : Rendered} (hr : (Statement.update table d.assignments d.filters).render strict = .ok r)
    (hr' : (Statement.update table' e.assignments e.filters).render strict' = .ok r')
    (h : Alike 1 r.template r'.template) : Agrees .update d e := by
  rw [render_update] at hr hr'
  cases hr
  cases hr'
  obtain ⟨htables, hassignments, hfilters⟩ := update_of_alike (hdplain.updated table htable)
    (heplain.updated table' htable') hassigned hassigned' hdplain.assignments heplain.assignments
    hdplain.filters heplain.filters Nat.one_pos h
  refine ⟨?_, hassignments, hfilters⟩
  rw [htable, htable', htables]

/-- Drafts with plain names that make insertions which are alike agree in them, if they refuse rows
that disagree. -/
theorem agrees_insert {table table' : String} (htable : d.insertedInto = some table)
    (htable' : e.insertedInto = some table') {r r' : Rendered}
    (hr : (Statement.insert table d.rows).render true = .ok r)
    (hr' : (Statement.insert table' e.rows).render true = .ok r')
    (h : Alike 1 r.template r'.template) : Agrees .insert d e := by
  obtain ⟨first, tuples, hfirst, hne, htuples, htemplate, -⟩ := render_insert hr
  obtain ⟨first', tuples', hfirst', hne', htuples', htemplate', -⟩ := render_insert hr'
  rw [htemplate, htemplate'] at h
  have haligned := tuplesFrom_strict first.nodup_columns htuples
  have haligned' := tuplesFrom_strict first'.nodup_columns htuples'
  obtain ⟨rfl, hcolumns, hsame⟩ := insert_of_alike (hdplain.insertedInto table htable)
    (heplain.insertedInto table' htable') hne hne'
    (hdplain.rows first (List.mem_of_head? hfirst))
    (heplain.rows first' (List.mem_of_head? hfirst')) (width_of_forall₂ haligned)
    (width_of_forall₂ haligned') h
  rw [← hcolumns, ← hsame] at haligned'
  refine ⟨htable.trans htable'.symm, ?_,
    sameMapping_of_forall₂ first.nodup_columns haligned haligned'⟩
  rw [hfirst, hfirst', Option.map_some, Option.map_some, hcolumns]

/-- Drafts with plain names that make deletions which are alike agree in them. -/
theorem agrees_delete {table table' : String} (htable : d.deletedFrom = some table)
    (htable' : e.deletedFrom = some table') {strict strict' : Bool} {r r' : Rendered}
    (hr : (Statement.delete table d.filters).render strict = .ok r)
    (hr' : (Statement.delete table' e.filters).render strict' = .ok r')
    (h : Alike 1 r.template r'.template) : Agrees .delete d e := by
  rw [render_delete] at hr hr'
  cases hr
  cases hr'
  obtain ⟨htables, hfilters⟩ := delete_of_alike (hdplain.deletedFrom table htable)
    (heplain.deletedFrom table' htable') hdplain.filters heplain.filters Nat.one_pos h
  refine ⟨?_, hfilters⟩
  rw [htable, htable', htables]

end

/-- Strict drafts with plain names whose queries have one kind, one text and the same parameters
agree in every clause of the kind. -/
theorem agrees_of_buildQuery {d e : Draft} {q r : Query} (hd : d.config.strictRows = true)
    (he : e.config.strictRows = true) (hdplain : d.PlainNames) (heplain : e.PlainNames)
    (hq : d.buildQuery.result = .ok q) (hr : e.buildQuery.result = .ok r) (hkind : q.kind = r.kind)
    (hsql : q.sql = r.sql) (hparams : q.params = r.params) : Agrees q.kind d e := by
  obtain ⟨s, rendered, hmakes, hrender, hkinds, htext, hvalues⟩ := makes_of_buildQuery hq
  obtain ⟨s', rendered', hmakes', hrender', hkinds', htext', hvalues'⟩ := makes_of_buildQuery hr
  have halike : Alike 1 rendered.template rendered'.template :=
    ⟨by rw [← htext, hsql, htext'], by rw [← hvalues, hparams, hvalues']⟩
  rw [hkinds, hkinds'] at hkind
  rw [hkinds]
  -- Statements of different kinds are ruled out by their kinds, before any text is looked at.
  cases hmakes with
  | select hcolumns hsource =>
    cases hmakes' with
    | select hcolumns' hsource' =>
      exact agrees_select hdplain heplain hcolumns hcolumns' hsource hsource' hrender hrender' halike
    | update => cases hkind
    | insert => cases hkind
    | delete => cases hkind
  | update hassigned htable =>
    cases hmakes' with
    | update hassigned' htable' =>
      exact agrees_update hdplain heplain hassigned hassigned' htable htable' hrender hrender' halike
    | select => cases hkind
    | insert => cases hkind
    | delete => cases hkind
  | insert htable =>
    cases hmakes' with
    | insert htable' =>
      rw [hd] at hrender
      rw [he] at hrender'
      exact agrees_insert hdplain heplain htable htable' hrender hrender' halike
    | select => cases hkind
    | update => cases hkind
    | delete => cases hkind
  | delete htable =>
    cases hmakes' with
    | delete htable' =>
      exact agrees_delete hdplain heplain htable htable' hrender hrender' halike
    | select => cases hkind
    | update => cases hkind
    | insert => cases hkind

/-- A selection whose filter is one term, and whose join is on no conditions. -/
def filteredByTerm : Draft :=
  (empty Config.default).addAll [
    .select ["*"],
    .source "users",
    .join "teams" [],
    .filter [.term ((Term.single "name" (.text "' OR '")).compare "age" .gte (.int 18))]]

/-- A selection whose filter is two terms, and whose join is on a term without comparisons. -/
def filteredByTerms : Draft :=
  (empty Config.default).addAll [
    .source "users",
    .filter [.term (Term.single "name" (.text "' OR '")),
      .term ((∅ : Term).compare "age" .gte (.int 18))],
    .join "teams" [.term ∅],
    .select []]

/-- Two selections with one text filter by equivalent conditions. -/
theorem agrees_filteredByTerm : Agrees .select filteredByTerm filteredByTerms :=
  agrees_of_buildQuery rfl rfl (by decide) (by decide)
    (q := ⟨.select, "SELECT * FROM users JOIN teams ON 1=1 WHERE name = $1 AND age >= $2",
      [.text "' OR '", .int 18]⟩) rfl rfl rfl rfl rfl

end Draft

end SqlDraft
