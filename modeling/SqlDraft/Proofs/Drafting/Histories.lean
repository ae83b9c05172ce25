import Mathlib.Data.List.Induction
import SqlDraft.Proofs.Writing.Making

/-!
# Drafts and their histories

A history is the list of the clauses that were added to an empty draft. Of most clauses the last one
counts, but all joins, all assignments and all rows do. The history decides the kind of statement
that is made, and the text of a statement depends on nothing but the clauses that its kind uses.
-/

namespace SqlDraft

/-! ## Parts of clauses -/

namespace Clause

/-- The columns that a clause selects. -/
def columns? : Clause → Option (List String)
  | .select columns => some columns
  | _ => none

/-- The table that a clause selects from. -/
def source? : Clause → Option String
  | .source table => some table
  | _ => none

/-- The join that a clause adds. -/
def join? : Clause → Option Join
  | .join table on => some ⟨table, on⟩
  | _ => none

/-- The conditions that a clause filters by. -/
def conditions? : Clause → Option (List Condition)
  | .filter conditions => some conditions
  | _ => none

/-- The columns that a clause orders by. -/
def ordering? : Clause → Option (List String)
  | .orderBy columns => some columns
  | _ => none

/-- The columns that a clause groups by. -/
def grouping? : Clause → Option (List String)
  | .groupBy columns => some columns
  | _ => none

/-- The table that a clause updates. -/
def updated? : Clause → Option String
  | .update table => some table
  | _ => none

/-- The assignments that a clause makes. -/
def assigned? : Clause → Option Row
  | .assign r => some r
  | _ => none

/-- The table that a clause inserts into. -/
def insertedInto? : Clause → Option String
  | .insertInto table => some table
  | _ => none

/-- The row that a clause inserts. -/
def row? : Clause → Option Row
  | .row r => some r
  | _ => none

/-- The table that a clause deletes from. -/
def deletedFrom? : Clause → Option String
  | .deleteFrom table => some table
  | _ => none

end Clause

/-! ## Histories -/

/-- The clauses that were added to a draft, the first of them first. -/
abbrev History := List Clause

namespace History

variable {α : Type}

/-- The last of the parts of a name. -/
def last? (h : History) (part? : Clause → Option α) : Option α := (h.filterMap part?).getLast?

/-- Whether a clause has a part of a name. -/
def has (h : History) (part? : Clause → Option α) : Bool := h.any fun c => (part? c).isSome

/-- The kind of statement that the clauses make. An update has to assign to a column. -/
def kind? (h : History) : Option StatementKind :=
  if h.has Clause.columns? && h.has Clause.source? then some .select
  else if h.has Clause.updated? && (h.filterMap Clause.assigned?).any fun row => !row.isEmpty then
    some .update
  else if h.has Clause.insertedInto? && h.has Clause.row? then some .insert
  else if h.has Clause.deletedFrom? then some .delete
  else none

/-- The conditions of a statement are those of the last filter. -/
def filters (h : History) : List Condition := (h.last? Clause.conditions?).getD []

/-- The statement of a kind with the clauses that this kind uses. No columns stand for all. -/
def statement? (h : History) : StatementKind → Option Statement
  | .select => do
    let columns ← h.last? Clause.columns?
    let source ← h.last? Clause.source?
    return .select (if columns.isEmpty then ["*"] else columns) source (h.filterMap Clause.join?)
      h.filters ((h.last? Clause.ordering?).getD []) ((h.last? Clause.grouping?).getD [])
  | .update => do
    let table ← h.last? Clause.updated?
    return .update table ((h.filterMap Clause.assigned?).foldl Keyed.merge ∅) h.filters
  | .insert => do
    let table ← h.last? Clause.insertedInto?
    return .insert table (h.filterMap Clause.row?)
  | .delete => do
    let table ← h.last? Clause.deletedFrom?
    return .delete table h.filters

/-- There is a last part of a name just if there is one at all. -/
theorem has_eq_isSome_last? (h : History) (part? : Clause → Option α) :
    h.has part? = (h.last? part?).isSome := by
  rw [Bool.eq_iff_iff, has, last?, List.any_eq_true, List.getLast?_isSome, ne_eq,
    List.filterMap_eq_nil_iff]
  simp only [not_forall, Option.isSome_iff_ne_none, ne_eq, exists_prop]

end History

/-! ## What a draft remembers of its history -/

namespace Draft

variable {α β : Type}

/-- A field to which a clause adds its part, if it has one, has in the end all parts added to it. -/
theorem field_addAll (field : Draft → β) (part? : Clause → Option α) (put : β → α → β)
    (h : ∀ d c, field (d.add c) = (part? c).elim (field d) (put (field d))) (d : Draft)
    (clauses : History) :
    field (d.addAll clauses) = (clauses.filterMap part?).foldl put (field d) := by
  induction clauses generalizing d with
  | nil => rfl
  | cons c rest ih =>
    have hrest := ih (d.add c)
    rw [h d c] at hrest
    cases hpart : part? c with
    | none =>
      rw [hpart] at hrest
      rw [List.filterMap_cons_none hpart]
      exact hrest
    | some a =>
      rw [hpart] at hrest
      rw [List.filterMap_cons_some hpart]
      exact hrest

/-- A field that a part takes the place of is in the end the last part. -/
theorem replaced_addAll (field : Draft → β) (part? : Clause → Option α) (make : α → β)
    (h : ∀ d c, field (d.add c) = (part? c).elim (field d) make) (d : Draft) (clauses : History) :
    field (d.addAll clauses) = (clauses.last? part?).elim (field d) make := by
  rw [field_addAll field part? (fun _ a => make a) h, History.last?]
  generalize clauses.filterMap part? = parts
  induction parts using List.reverseRecOn with
  | nil => rfl
  | append_singleton before a _ =>
    rw [List.foldl_append, List.getLast?_concat]
    rfl

/-- A field that a part is appended to has in the end all parts behind each other. -/
theorem collected_addAll (field : Draft → List α) (part? : Clause → Option α)
    (h : ∀ d c, field (d.add c) = (part? c).elim (field d) fun a => field d ++ [a]) (d : Draft)
    (clauses : History) : field (d.addAll clauses) = field d ++ clauses.filterMap part? := by
  rw [field_addAll field part? (fun before a => before ++ [a]) h]
  generalize clauses.filterMap part? = parts
  induction parts using List.reverseRecOn with
  | nil => exact (List.append_nil _).symm
  | append_singleton before a ih =>
    rw [List.foldl_append, ih, ← List.append_assoc]
    rfl

/-- An empty draft to which clauses were added remembers the last clause of each name, and all
joins, assignments and rows. -/
structure Remembers (d : Draft) (h : History) : Prop where
  columns : d.columns =
    (h.last? Clause.columns?).elim [] fun columns => if columns.isEmpty then ["*"] else columns
  source : d.source = h.last? Clause.source?
  joins : d.joins = h.filterMap Clause.join?
  filters : d.filters = h.filters
  ordering : d.ordering = (h.last? Clause.ordering?).getD []
  grouping : d.grouping = (h.last? Clause.grouping?).getD []
  updated : d.updated = h.last? Clause.updated?
  assignments : d.assignments = (h.filterMap Clause.assigned?).foldl Keyed.merge ∅
  insertedInto : d.insertedInto = h.last? Clause.insertedInto?
  rows : d.rows = h.filterMap Clause.row?
  deletedFrom : d.deletedFrom = h.last? Clause.deletedFrom?

/-- A draft made of clauses remembers them, whatever its configuration is. -/
theorem remembers_addAll (config : Config) (h : History) :
    ((empty config).addAll h).Remembers h := by
  -- Of an optional field, and of a list that starts empty, the last part is what it is in the end.
  have elim_some {α : Type} (a? : Option α) : a?.elim none some = a? := by cases a? <;> rfl
  have elim_id {α : Type} (as? : Option (List α)) : as?.elim [] id = as?.getD [] := by
    cases as? <;> rfl
  constructor
  · exact replaced_addAll Draft.columns Clause.columns?
      (fun columns => if columns.isEmpty then ["*"] else columns)
      (fun d c => by cases c <;> rfl) (empty config) h
  · exact (replaced_addAll Draft.source Clause.source? some (fun d c => by cases c <;> rfl)
      (empty config) h).trans (elim_some _)
  · exact collected_addAll Draft.joins Clause.join? (fun d c => by cases c <;> rfl) (empty config) h
  · exact (replaced_addAll Draft.filters Clause.conditions? id (fun d c => by cases c <;> rfl)
      (empty config) h).trans (elim_id _)
  · exact (replaced_addAll Draft.ordering Clause.ordering? id (fun d c => by cases c <;> rfl)
      (empty config) h).trans (elim_id _)
  · exact (replaced_addAll Draft.grouping Clause.grouping? id (fun d c => by cases c <;> rfl)
      (empty config) h).trans (elim_id _)
  · exact (replaced_addAll Draft.updated Clause.updated? some (fun d c => by cases c <;> rfl)
      (empty config) h).trans (elim_some _)
  · exact field_addAll Draft.assignments Clause.assigned? Keyed.merge
      (fun d c => by cases c <;> rfl) (empty config) h
  · exact (replaced_addAll Draft.insertedInto Clause.insertedInto? some
      (fun d c => by cases c <;> rfl) (empty config) h).trans (elim_some _)
  · exact collected_addAll Draft.rows Clause.row? (fun d c => by cases c <;> rfl) (empty config) h
  · exact (replaced_addAll Draft.deletedFrom Clause.deletedFrom? some
      (fun d c => by cases c <;> rfl) (empty config) h).trans (elim_some _)

/-! ## The statement of a history -/

/-- Merged rows assign to a column if one of them does. -/
theorem isEmpty_foldl_merge (rows : List Row) (row : Row) :
    (rows.foldl Keyed.merge row).isEmpty = (row.isEmpty && rows.all fun r => r.isEmpty) := by
  induction rows generalizing row with
  | nil => exact (Bool.and_true _).symm
  | cons r rest ih => rw [List.foldl_cons, ih, Keyed.isEmpty_merge, List.all_cons, Bool.and_assoc]

namespace Remembers

variable {d : Draft} {h : History}

/-- A selection is made of a history with columns and a source. -/
theorem selection?_eq (hd : d.Remembers h) : d.selection? =
    if h.has Clause.columns? && h.has Clause.source? then h.statement? .select else none := by
  rw [selection?, hd.columns, hd.source, hd.joins, hd.filters, hd.ordering, hd.grouping,
    History.statement?, History.has_eq_isSome_last?, History.has_eq_isSome_last?]
  cases h.last? Clause.columns? with
  | none => rfl
  | some columns =>
    have hcolumns : (if columns.isEmpty then ["*"] else columns).isEmpty = false := by
      cases columns <;> rfl
    simp only [Option.elim_some, hcolumns, Bool.false_eq_true, ite_false]
    cases h.last? Clause.source? <;> rfl

/-- An update is made of a history with a table and an assignment to some column. -/
theorem update?_eq (hd : d.Remembers h) : d.update? =
    if h.has Clause.updated? && (h.filterMap Clause.assigned?).any fun row => !row.isEmpty then
      h.statement? .update
    else none := by
  have hempty : d.assignments.isEmpty =
      !(h.filterMap Clause.assigned?).any fun row => !row.isEmpty := by
    rw [hd.assignments, isEmpty_foldl_merge, List.not_any_eq_all_not]
    simp only [Bool.not_not]
    rfl
  rw [update?, hempty, hd.updated, hd.assignments, hd.filters, History.statement?,
    History.has_eq_isSome_last?]
  cases (h.filterMap Clause.assigned?).any fun row => !row.isEmpty <;>
    cases h.last? Clause.updated? <;> rfl

/-- An insertion is made of a history with a table and a row, even if the row has no columns. -/
theorem insertion?_eq (hd : d.Remembers h) : d.insertion? =
    if h.has Clause.insertedInto? && h.has Clause.row? then h.statement? .insert else none := by
  have hempty : d.rows.isEmpty = !h.has Clause.row? := by
    rw [hd.rows, History.has_eq_isSome_last?, History.last?]
    cases h.filterMap Clause.row? <;> simp
  rw [insertion?, hempty, hd.insertedInto, hd.rows, History.statement?,
    History.has_eq_isSome_last? h Clause.insertedInto?]
  cases h.has Clause.row? <;> cases h.last? Clause.insertedInto? <;> rfl

/-- A deletion is made of a history with a table to delete from. -/
theorem deletion?_eq (hd : d.Remembers h) : d.deletion? =
    if h.has Clause.deletedFrom? then h.statement? .delete else none := by
  rw [deletion?, hd.deletedFrom, hd.filters, History.statement?, History.has_eq_isSome_last?]
  cases h.last? Clause.deletedFrom? <;> rfl

end Remembers

end Draft

/-- A history has a statement of a kind if it has the names that the kind cannot do without. -/
theorem History.isSome_statement? (h : History) (kind : StatementKind) :
    (h.statement? kind).isSome =
      match kind with
      | .select => h.has Clause.columns? && h.has Clause.source?
      | .update => h.has Clause.updated?
      | .insert => h.has Clause.insertedInto?
      | .delete => h.has Clause.deletedFrom? := by
  cases kind with
  | select =>
    simp only [statement?, has_eq_isSome_last?]
    cases h.last? Clause.columns? <;> cases h.last? Clause.source? <;> rfl
  | update =>
    simp only [statement?, has_eq_isSome_last?]
    cases h.last? Clause.updated? <;> rfl
  | insert =>
    simp only [statement?, has_eq_isSome_last?]
    cases h.last? Clause.insertedInto? <;> rfl
  | delete =>
    simp only [statement?, has_eq_isSome_last?]
    cases h.last? Clause.deletedFrom? <;> rfl

namespace Draft

/-- The first kind that a history has all clauses of is its kind, and has its statement. -/
theorem orElse_eq_bind {h : History} {kind : StatementKind} {complete : Bool}
    {rest : Option Statement} {kinds : Option StatementKind}
    (hcomplete : complete = true → (h.statement? kind).isSome)
    (hrest : rest = kinds.bind h.statement?) :
    ((if complete then h.statement? kind else none) <|> rest) =
      (if complete then some kind else kinds).bind h.statement? := by
  by_cases hkind : complete = true
  · obtain ⟨s, hs⟩ := Option.isSome_iff_exists.mp (hcomplete hkind)
    rw [if_pos hkind, if_pos hkind, Option.bind_some, hs]
    rfl
  · rw [if_neg hkind, if_neg hkind, ← hrest]
    rfl

/-- A draft makes the statement of its history, if this makes one of some kind. -/
theorem Remembers.statement?_eq {d : Draft} {h : History} (hd : d.Remembers h) :
    d.statement? = h.kind?.bind h.statement? := by
  rw [statement?, hd.selection?_eq, hd.update?_eq, hd.insertion?_eq, hd.deletion?_eq, History.kind?]
  refine orElse_eq_bind (fun hselect => ?_) (orElse_eq_bind (fun hupdate => ?_)
    (orElse_eq_bind (fun hinsert => ?_) ?_))
  · exact (h.isSome_statement? .select).trans hselect
  · exact (h.isSome_statement? .update).trans (Bool.and_eq_true_iff.mp hupdate).1
  · exact (h.isSome_statement? .insert).trans (Bool.and_eq_true_iff.mp hinsert).1
  · cases h.has Clause.deletedFrom? <;> rfl

/-- A draft makes the statement that its history has of its kind. -/
theorem Remembers.statement_eq_ok {d : Draft} {h : History} (hd : d.Remembers h)
    {kind : StatementKind} {s : Statement} (hkind : h.kind? = some kind)
    (hs : h.statement? kind = some s) : d.statement = .ok s := by
  rw [statement, hd.statement?_eq, hkind, Option.bind_some, hs]

/-- A draft whose history makes no kind of statement is refused. -/
theorem Remembers.statement_eq_error {d : Draft} {h : History} (hd : d.Remembers h)
    (hkind : h.kind? = none) : d.statement = .error (.invalidStatement .incomplete) := by
  rw [statement, hd.statement?_eq, hkind, Option.bind_none]

end Draft

namespace History

/-- The statement of a kind is of this kind. -/
theorem kind_of_statement? {h : History} {kind : StatementKind} {s : Statement}
    (hs : h.statement? kind = some s) : s.kind = kind := by
  cases kind with
  | select =>
    obtain ⟨columns, _, hs⟩ := Option.bind_eq_some_iff.mp hs
    obtain ⟨source, _, hs⟩ := Option.bind_eq_some_iff.mp hs
    cases hs
    rfl
  | update =>
    obtain ⟨table, _, hs⟩ := Option.bind_eq_some_iff.mp hs
    cases hs
    rfl
  | insert =>
    obtain ⟨table, _, hs⟩ := Option.bind_eq_some_iff.mp hs
    cases hs
    rfl
  | delete =>
    obtain ⟨table, _, hs⟩ := Option.bind_eq_some_iff.mp hs
    cases hs
    rfl

/-- A history has a statement of its own kind. -/
theorem exists_statement?_of_kind? {h : History} {kind : StatementKind}
    (hkind : h.kind? = some kind) : ∃ s, h.statement? kind = some s := by
  apply Option.isSome_iff_exists.mp
  rw [kind?] at hkind
  split at hkind
  · next hselect =>
    cases hkind
    exact (h.isSome_statement? .select).trans hselect
  · split at hkind
    · next hupdate =>
      cases hkind
      exact (h.isSome_statement? .update).trans (Bool.and_eq_true_iff.mp hupdate).1
    · split at hkind
      · next hinsert =>
        cases hkind
        exact (h.isSome_statement? .insert).trans (Bool.and_eq_true_iff.mp hinsert).1
      · split at hkind
        · next hdelete =>
          cases hkind
          exact (h.isSome_statement? .delete).trans hdelete
        · cases hkind

end History

/-! ## What is made of a statement -/

/-- Only an insertion looks at whether rows have to agree. -/
theorem Statement.render_eq_render {s : Statement} {strict strict' : Bool}
    (h : s.kind = .insert → strict = strict') : s.render strict = s.render strict' := by
  cases s with
  | insert table rows => rw [h rfl]
  | select _ _ _ _ _ _ => rfl
  | update _ _ _ => rfl
  | delete _ _ => rfl

namespace Draft

/-- No clause changes the configuration. -/
theorem config_addAll (d : Draft) (clauses : History) : (d.addAll clauses).config = d.config := by
  induction clauses generalizing d with
  | nil => rfl
  | cons c rest ih =>
    have hrest := ih (d.add c)
    cases c <;> exact hrest

/-- Without a kind, clauses make no statement. With a kind, they make the statement that it has of
them, and all clauses that have this statement are finished alike, whatever else there is among
them, in which order they come and what their configuration is; only an insertion asks whether rows
have to agree. -/
theorem outcome_addAll (config : Config) (clauses : History) :
    let d := (empty config).addAll clauses
    (clauses.kind? = none →
      d.kind = .error (.invalidStatement .incomplete) ∧
      d.build.result = .error (.invalidStatement .incomplete) ∧
      d.buildQuery.result = .error (.invalidStatement .incomplete)) ∧
    ∀ kind, clauses.kind? = some kind →
      d.kind = .ok kind ∧ ∃ s, clauses.statement? kind = some s ∧ d.statement = .ok s ∧
        ∀ (config' : Config) (clauses' : History), clauses'.kind? = some kind →
          clauses'.statement? kind = some s →
          (kind = .insert → config'.strictRows = config.strictRows) →
          let e := (empty config').addAll clauses'
          e.build.result = d.build.result ∧ e.buildQuery.result = d.buildQuery.result := by
  intro d
  have hd : d.Remembers clauses := remembers_addAll config clauses
  constructor
  · intro hnone
    have hstatement := hd.statement_eq_error hnone
    refine ⟨?_, result_of_statement_error hstatement⟩
    rw [kind, hstatement]
    rfl
  · intro kind hkind
    obtain ⟨s, hs⟩ := History.exists_statement?_of_kind? hkind
    have hstatement := hd.statement_eq_ok hkind hs
    refine ⟨?_, s, hs, hstatement, fun config' clauses' hkind' hs' hstrict => ?_⟩
    · rw [Draft.kind, hstatement, ← History.kind_of_statement? hs]
      rfl
    · intro e
      have hstatement' := (remembers_addAll config' clauses').statement_eq_ok hkind' hs'
      have hrender : s.render (empty config').config.strictRows =
          s.render (empty config).config.strictRows := Statement.render_eq_render fun hinsert =>
        hstrict ((History.kind_of_statement? hs).symm.trans hinsert)
      obtain ⟨hbuild, hquery⟩ := result_of_statement hstatement
      obtain ⟨hbuild', hquery'⟩ := result_of_statement hstatement'
      rw [config_addAll] at hbuild hquery
      rw [config_addAll, hrender, ← hbuild] at hbuild'
      rw [config_addAll, hrender, ← hquery] at hquery'
      exact ⟨hbuild', hquery'⟩

/-- Clauses of every kind, of which an update uses its last table, both rows and the last filter. -/
def mixedHistory : History :=
  [.assign (Keyed.ofList [("name", .text "A"), ("age", .int 1)]), .select ["id"],
    .update "drafts", .row (Keyed.ofList [("id", .int 7)]), .insertInto "users",
    .filter [.or []], .update "users", .deleteFrom "users", .groupBy ["age"],
    .assign (Keyed.ofList [("city", .null), ("name", .text "B")]), .join "teams" [],
    .filter [.term (Term.single "id" (.int 7))], .cases [("TRUE", "1")]]

/-- The clauses of the same update and no others. -/
def plainHistory : History :=
  [.update "users", .filter [.term (Term.single "id" (.int 7))],
    .assign (Keyed.ofList [("name", .text "B"), ("age", .int 1), ("city", .null)])]

/-- Clauses that an update does not use, and how the log is configured, make no difference. -/
theorem outcome_mixedHistory :
    mixedHistory.kind? = some .update ∧ plainHistory.kind? = some .update ∧
    plainHistory.statement? .update = mixedHistory.statement? .update ∧
    let d := (empty Config.default).addAll mixedHistory
    let e := (empty ⟨false, false, none⟩).addAll plainHistory
    e.build.result = d.build.result ∧ e.buildQuery.result = d.buildQuery.result := by
  refine ⟨rfl, rfl, rfl, ?_⟩
  obtain ⟨-, s, hs, -, hsame⟩ := (outcome_addAll Config.default mixedHistory).2 .update rfl
  exact hsame ⟨false, false, none⟩ plainHistory rfl hs fun h => by cases h

end Draft

end SqlDraft
