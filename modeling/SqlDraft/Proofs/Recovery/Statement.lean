import SqlDraft.Proofs.Recovery.Clauses
import SqlDraft.Proofs.Recovery.Rows
import SqlDraft.Proofs.Writing.Making

/-!
# Statements from their text

The text of a statement with placeholders, together with its values, determines the statement: its
tables, columns and assignments, the mapping of each of its rows, and its predicates up to what they
mean. Names have to be plain, and rows to insert have to agree in their columns.
-/

namespace SqlDraft

open Template

/-- The words that a statement has between its names. -/
def keywords : List String :=
  ["SELECT", "FROM", "JOIN", "ON", "WHERE", "AND", "OR", "NOT", "IN", "ORDER", "GROUP", "BY",
    "UPDATE", "SET", "INSERT", "INTO", "VALUES", "DELETE"]

/-- A name that is no keyword is no connective. -/
theorem IsPlain.connectives {name : String} (h : IsPlain keywords name) :
    IsPlain connectives name := h.mono (by decide)

/-! ## Templates of statements -/

/-- What comes after the joins of a selection. -/
def selectionEnd (filters : List Condition) (ordering grouping : List String) : Template :=
  trail (whereClause filters) ++
    (trail ((namesClause ("ORDER" ++ " BY") ordering).map ofText) ++
      (trail ((namesClause ("GROUP" ++ " BY") grouping).map ofText) ++ []))

/-- The end of a selection is led by its grouping, if by anything. -/
theorem led_grouping (names : List String) :
    (trail ((namesClause ("GROUP" ++ " BY") names).map ofText) ++ []).Led ["GROUP"] :=
  led_names (by decide) names (led_nil [])

/-- The end of a selection from its ordering on is led by that or by its grouping. -/
theorem led_ordering (names grouping : List String) :
    (trail ((namesClause ("ORDER" ++ " BY") names).map ofText) ++
      (trail ((namesClause ("GROUP" ++ " BY") grouping).map ofText) ++ [])).Led
        ["ORDER", "GROUP"] :=
  led_names (by decide) names (led_grouping grouping)

/-- What a selection has behind its joins is led by one of three keywords. -/
theorem led_selectionEnd (filters : List Condition) (ordering grouping : List String) :
    (selectionEnd filters ordering grouping).Led ["WHERE", "ORDER", "GROUP"] :=
  led_whereClause filters (led_ordering ordering grouping)

/-- A clause with a space before each after the first. -/
theorem spacedTemplates_cons (t : Template) (clauses : List Template) :
    spacedTemplates (t :: clauses) = t ++ trail clauses := by
  induction clauses generalizing t with
  | nil => exact (List.append_nil t).symm
  | cons u rest ih =>
    have hrest := ih u
    rw [spacedTemplates] at hrest ⊢
    rw [join_cons_cons, hrest, trail_cons]

/-- A selection is its columns and its table, with the other clauses behind them. -/
theorem render_select (strict : Bool) (columns : List String) (source : String)
    (joins : List Join) (filters : List Condition) (ordering grouping : List String) :
    (Statement.select columns source joins filters ordering grouping).render strict =
      .ok ⟨.text ("SELECT " ++ commaList columns) :: .text " " :: .text ("FROM " ++ source) ::
        (trail (joins.map Join.template) ++ selectionEnd filters ordering grouping), []⟩ := by
  rw [Statement.render]
  simp only [List.map_append, List.append_assoc, List.cons_append, List.nil_append,
    spacedTemplates_cons, trail_cons, trail_append, selectionEnd, List.append_nil]
  rfl

/-- An update is its table and its assignments, with its filter behind them. -/
theorem render_update (strict : Bool) (table : String) (assignments : Row)
    (filters : List Condition) :
    (Statement.update table assignments filters).render strict =
      .ok ⟨.text ("UPDATE " ++ table ++ " SET ") ::
        (join ", " (assignments.entries.map assignmentTemplate) ++
          (trail (whereClause filters) ++ [])), []⟩ := by
  rw [Statement.render, spacedTemplates_cons, List.append_nil]
  rfl

/-- A deletion is its table, with its filter behind it. -/
theorem render_delete (strict : Bool) (table : String) (filters : List Condition) :
    (Statement.delete table filters).render strict =
      .ok ⟨.text ("DELETE FROM " ++ table) :: (trail (whereClause filters) ++ []), []⟩ := by
  rw [Statement.render, spacedTemplates_cons, List.append_nil]
  rfl

/-! ## Statements that are alike -/

/-- A joined table and the columns that it is joined on are plain. -/
def Join.PlainNames (j : Join) : Prop :=
  IsPlain keywords j.table ∧ ∀ column ∈ Condition.columnsOfAll j.on, IsPlain keywords column

instance (j : Join) : Decidable j.PlainNames := inferInstanceAs (Decidable (_ ∧ _))

/-- Joins of plain names can be read off. -/
theorem Join.PlainNames.readable {j : Join} (h : j.PlainNames) : j.Readable :=
  ⟨h.1.isWord, fun column hcolumn => (h.2 column hcolumn).connectives⟩

/-- The name of a selected column, or the asterisk for all of them. -/
def IsSelectable (name : String) : Prop := name = "*" ∨ IsPlain keywords name

instance (name : String) : Decidable (IsSelectable name) := inferInstanceAs (Decidable (_ ∨ _))

/-- What can be selected is a word: a plain name, or all columns. -/
theorem IsSelectable.isWord {name : String} (h : IsSelectable name) : IsWord name := by
  rcases h with rfl | h
  · decide
  · exact h.isWord

/-- Plain names are words. -/
theorem isWord_of_plain {names : List String} (h : ∀ name ∈ names, IsPlain keywords name) :
    ∀ name ∈ names, IsWord name := fun name hname => (h name hname).isWord

/-- Plain names are no connectives. -/
theorem connectives_of_plain {names : List String} (h : ∀ name ∈ names, IsPlain keywords name) :
    ∀ name ∈ names, IsPlain connectives name := fun name hname => (h name hname).connectives

/-- The ends of two selections agree if they are alike. -/
theorem selectionEnd_of_alike {filters filters' : List Condition}
    {ordering ordering' grouping grouping' : List String} {first : Nat} (hfirst : 0 < first)
    (hfilters : ∀ column ∈ Condition.columnsOfAll filters, IsPlain keywords column)
    (hfilters' : ∀ column ∈ Condition.columnsOfAll filters', IsPlain keywords column)
    (hordering : ∀ name ∈ ordering, IsPlain keywords name)
    (hordering' : ∀ name ∈ ordering', IsPlain keywords name)
    (hgrouping : ∀ name ∈ grouping, IsPlain keywords name)
    (hgrouping' : ∀ name ∈ grouping', IsPlain keywords name)
    (h : Alike first (selectionEnd filters ordering grouping)
      (selectionEnd filters' ordering' grouping')) :
    Equivalent filters filters' ∧ ordering = ordering' ∧ grouping = grouping' := by
  obtain ⟨hequivalent, next, _, hnames⟩ := filters_of_alike (by decide) (by decide)
    (led_ordering ordering grouping) (led_ordering ordering' grouping')
    (connectives_of_plain hfilters) (connectives_of_plain hfilters') hfirst h
  obtain ⟨hsame, hgroup⟩ := names_of_alike (by decide) (by decide) (led_grouping grouping)
    (led_grouping grouping') (isWord_of_plain hordering) (isWord_of_plain hordering') hnames
  obtain ⟨hsame', -⟩ := names_of_alike (by decide) List.not_mem_nil (led_nil []) (led_nil [])
    (isWord_of_plain hgrouping) (isWord_of_plain hgrouping') hgroup
  exact ⟨hequivalent, hsame, hsame'⟩

/-- The columns and the source of a selection are read off, and what comes after them is alike. -/
theorem selection_of_alike {columns columns' : List String} (hne : columns ≠ [])
    (hne' : columns' ≠ []) (hcolumns : ∀ name ∈ columns, IsSelectable name)
    (hcolumns' : ∀ name ∈ columns', IsSelectable name) {source source' : String}
    (hsource : IsPlain keywords source) (hsource' : IsPlain keywords source') {first : Nat}
    {keywords : List String} {u u' : Template} (hu : u.Led keywords) (hu' : u'.Led keywords)
    (h : Alike first
      (.text ("SELECT " ++ commaList columns) :: .text " " :: .text ("FROM " ++ source) :: u)
      (.text ("SELECT " ++ commaList columns') :: .text " " :: .text ("FROM " ++ source') :: u')) :
    columns = columns' ∧ source = source' ∧ Alike first u u' := by
  have hspace : Clash ", " " " := by decide
  have htext := h.text_eq
  simp only [numbered, String.append_assoc, String.append_right_inj] at htext
  obtain ⟨hnames, htext⟩ := commaList_append_inj hne hne'
    (fun name hname => (hcolumns name hname).isWord)
    (fun name hname => (hcolumns' name hname).isWord) (bounded_space _) (hspace.not_startsWith _)
    (bounded_space _) (hspace.not_startsWith _) htext
  simp only [String.append_right_inj] at htext
  obtain ⟨htable, hrest⟩ :=
    hsource.isWord.append_inj hsource'.isWord (hu.bounded first) (hu'.bounded first) htext
  exact ⟨hnames, htable, hrest, h.values_eq⟩

/-- The table and the assignments of an update are read off, and its filters up to what they
mean. -/
theorem update_of_alike {table table' : String} (htable : IsPlain keywords table)
    (htable' : IsPlain keywords table') {assignments assignments' : Row}
    (hne : assignments.entries ≠ []) (hne' : assignments'.entries ≠ [])
    (hcolumns : ∀ column ∈ assignments.columns, IsPlain keywords column)
    (hcolumns' : ∀ column ∈ assignments'.columns, IsPlain keywords column)
    {filters filters' : List Condition}
    (hfilters : ∀ column ∈ Condition.columnsOfAll filters, IsPlain keywords column)
    (hfilters' : ∀ column ∈ Condition.columnsOfAll filters', IsPlain keywords column)
    {first : Nat} (hfirst : 0 < first)
    (h : Alike first
      (.text ("UPDATE " ++ table ++ " SET ") ::
        (join ", " (assignments.entries.map assignmentTemplate) ++
          (trail (whereClause filters) ++ [])))
      (.text ("UPDATE " ++ table' ++ " SET ") ::
        (join ", " (assignments'.entries.map assignmentTemplate) ++
          (trail (whereClause filters') ++ [])))) :
    table = table' ∧ assignments = assignments' ∧ Equivalent filters filters' := by
  have hset (s : String) : Bounded (" SET " ++ s) := bounded_append (by decide) s
  have hwhere (conditions : List Condition) :
      (trail (whereClause conditions) ++ []).Led ["WHERE"] := led_whereClause conditions (led_nil [])
  have hwords {row : Row} (hrow : ∀ column ∈ row.columns, IsPlain keywords column) :
      ∀ entry ∈ row.entries, IsWord entry.1 := fun entry hentry =>
    (hrow entry.1 (List.mem_map_of_mem hentry)).isWord
  have htext := h.text_eq
  simp only [numbered, String.append_assoc, String.append_right_inj] at htext
  obtain ⟨htables, htext⟩ := htable.isWord.append_inj htable'.isWord (hset _) (hset _) htext
  have hassigned : Alike first
      (join ", " (assignments.entries.map assignmentTemplate) ++
        (trail (whereClause filters) ++ []))
      (join ", " (assignments'.entries.map assignmentTemplate) ++
        (trail (whereClause filters') ++ [])) :=
    ⟨(String.append_right_inj " SET ").mp htext, h.values_eq⟩
  obtain ⟨hentries, next, hnext, hrest⟩ := assignments_of_alike (hwhere filters)
    (hwhere filters') hne hne' (hwords hcolumns) (hwords hcolumns') hassigned
  obtain ⟨hequivalent, -⟩ := filters_of_alike List.not_mem_nil List.not_mem_nil (led_nil [])
    (led_nil []) (connectives_of_plain hfilters) (connectives_of_plain hfilters')
    (Nat.lt_of_lt_of_le hfirst hnext) hrest
  exact ⟨htables, Keyed.ext_entries hentries, hequivalent⟩

/-- The table of a deletion is read off, and its filters up to what they mean. -/
theorem delete_of_alike {table table' : String} (htable : IsPlain keywords table)
    (htable' : IsPlain keywords table') {filters filters' : List Condition}
    (hfilters : ∀ column ∈ Condition.columnsOfAll filters, IsPlain keywords column)
    (hfilters' : ∀ column ∈ Condition.columnsOfAll filters', IsPlain keywords column)
    {first : Nat} (hfirst : 0 < first)
    (h : Alike first (.text ("DELETE FROM " ++ table) :: (trail (whereClause filters) ++ []))
      (.text ("DELETE FROM " ++ table') :: (trail (whereClause filters') ++ []))) :
    table = table' ∧ Equivalent filters filters' := by
  have hwhere (conditions : List Condition) :
      (trail (whereClause conditions) ++ []).Led ["WHERE"] := led_whereClause conditions (led_nil [])
  have htext := h.text_eq
  simp only [numbered, String.append_assoc, String.append_right_inj] at htext
  obtain ⟨htables, hrest⟩ := htable.isWord.append_inj htable'.isWord
    ((hwhere filters).bounded first) ((hwhere filters').bounded first) htext
  obtain ⟨hequivalent, -⟩ := filters_of_alike List.not_mem_nil List.not_mem_nil (led_nil [])
    (led_nil []) (connectives_of_plain hfilters) (connectives_of_plain hfilters') hfirst
    ⟨hrest, h.values_eq⟩
  exact ⟨htables, hequivalent⟩

/-- The table and the columns of an insertion are read off, and its tuples. -/
theorem insert_of_alike {table table' : String} (htable : IsPlain keywords table)
    (htable' : IsPlain keywords table') {columns columns' : List String} (hne : columns ≠ [])
    (hne' : columns' ≠ []) (hcolumns : ∀ column ∈ columns, IsPlain keywords column)
    (hcolumns' : ∀ column ∈ columns', IsPlain keywords column) {tuples tuples' : List (List Value)}
    (hwidth : ∀ values ∈ tuples, values.length = columns.length)
    (hwidth' : ∀ values ∈ tuples', values.length = columns'.length) {first : Nat}
    (h : Alike first (insertTemplate table columns tuples)
      (insertTemplate table' columns' tuples')) :
    table = table' ∧ columns = columns' ∧ tuples = tuples' := by
  have hopen (s : String) : Bounded (" (" ++ s) := bounded_append (by decide) s
  have hclose (s : String) : Bounded (") VALUES " ++ s) :=
    bounded_append (by decide) s
  have hcomma : Clash ", " ") VALUES " := by decide
  have htext := h.text_eq
  simp only [insertTemplate, numbered, String.append_assoc, String.append_right_inj] at htext
  obtain ⟨htables, htext⟩ := htable.isWord.append_inj htable'.isWord (hopen _) (hopen _) htext
  obtain ⟨rfl, -⟩ := commaList_append_inj hne hne' (isWord_of_plain hcolumns)
    (isWord_of_plain hcolumns') (hclose _) (hcomma.not_startsWith _) (hclose _)
    (hcomma.not_startsWith _) ((String.append_right_inj " (").mp htext)
  have hvalues := h.values_eq
  rw [values_insertTemplate, values_insertTemplate] at hvalues
  exact ⟨htables, rfl, eq_of_flatten_eq (List.length_pos_of_ne_nil hne) hwidth hwidth' hvalues⟩

end SqlDraft
