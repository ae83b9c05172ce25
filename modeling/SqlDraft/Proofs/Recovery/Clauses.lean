import Mathlib.Data.List.Forall2
import SqlDraft.Proofs.Predicate.Meaning

/-!
# Clauses one after the other

Two templates are alike if they have one text with placeholders and the same values. Templates that
are alike are taken apart from the left. A clause is recognised by the keyword it begins with, so it
is seen where the clause before it ends, and which of the optional clauses are there.
-/

namespace SqlDraft

/-- Two lists of conditions that hold under the same valuations, all conditions of a list taken
together. No conditions hold always. -/
def Equivalent (cs ds : List Condition) : Prop :=
  ∀ v : Valuation, (cs.all fun c => c.eval v) = ds.all fun c => c.eval v

/-- Joins of one table on equivalent conditions. -/
structure Join.Agrees (j k : Join) : Prop where
  table_eq : j.table = k.table
  on_equivalent : Equivalent j.on k.on

namespace Template

/-- Templates with the same values and, numbered from one number on, with the same text. -/
structure Alike (first : Nat) (t u : Template) : Prop where
  text_eq : t.numbered first = u.numbered first
  values_eq : t.values = u.values

/-- It makes no difference which of two templates is named first. -/
theorem Alike.symm {first : Nat} {t u : Template} (h : Alike first t u) : Alike first u t :=
  ⟨h.text_eq.symm, h.values_eq.symm⟩

/-- Behind a text that both have, two templates are alike if they are with it. -/
theorem Alike.of_text {first : Nat} {s : String} {t u : Template}
    (h : Alike first (.text s :: t) (.text s :: u)) : Alike first t u :=
  ⟨(String.append_right_inj s).mp h.text_eq, h.values_eq⟩

/-- Clauses with a space before each. -/
def trail (clauses : List Template) : Template := clauses.flatMap fun t => .text " " :: t

/-- Clauses in sequence follow each other as they do alone. -/
theorem trail_append (clauses more : List Template) :
    trail (clauses ++ more) = trail clauses ++ trail more := List.flatMap_append

/-- The first of several clauses stands behind a space. -/
theorem trail_cons (t : Template) (clauses : List Template) :
    trail (t :: clauses) = .text " " :: (t ++ trail clauses) := List.flatMap_cons

/-- What comes after several clauses comes after the others behind the first. -/
theorem trail_cons_append (t : Template) (clauses : List Template) (rest : Template) :
    trail (t :: clauses) ++ rest = .text " " :: (t ++ (trail clauses ++ rest)) := by
  rw [trail_cons, List.cons_append, List.append_assoc]

/-! ## Keywords -/

/-- However it is numbered, the text of a template begins with a keyword. -/
def Headed (keyword : String) (t : Template) : Prop :=
  ∀ first, StartsWith (keyword ++ " ") (t.numbered first)

/-- However it is numbered, the text of a template is empty, or begins with a space and one of the
keywords. -/
def Led (keywords : List String) (t : Template) : Prop :=
  ∀ first, t.numbered first = "" ∨ ∃ keyword ∈ keywords, IsWord keyword ∧
    StartsWith (" " ++ (keyword ++ " ")) (t.numbered first)

/-- What is empty is led by any keyword. -/
theorem led_nil (keywords : List String) : Led keywords [] := fun _ => Or.inl rfl

/-- The first of several clauses puts its keyword behind a space. -/
theorem Headed.startsWith_trail {keyword : String} {t : Template} (h : t.Headed keyword)
    (clauses : List Template) (rest : Template) (first : Nat) :
    StartsWith (" " ++ (keyword ++ " ")) ((trail (t :: clauses) ++ rest).numbered first) := by
  obtain ⟨body, hbody⟩ := h first
  refine ⟨body ++ (trail clauses ++ rest).numbered (first + t.values.length), ?_⟩
  rw [trail_cons_append, numbered, numbered_append, hbody]
  simp only [String.append_assoc]

/-- Clauses that begin with a keyword are led by it. -/
theorem led_trail {keyword : String} (hword : IsWord keyword) {keywords : List String}
    {clauses : List Template} (h : ∀ t ∈ clauses, t.Headed keyword) {rest : Template}
    (hrest : rest.Led keywords) : (trail clauses ++ rest).Led (keyword :: keywords) := by
  intro first
  cases clauses with
  | nil =>
    rcases hrest first with hempty | ⟨other, hmem, hstart⟩
    · exact Or.inl hempty
    · exact Or.inr ⟨other, List.mem_cons_of_mem _ hmem, hstart⟩
  | cons t clauses =>
    have hstart := (h t List.mem_cons_self).startsWith_trail clauses rest first
    exact Or.inr ⟨keyword, List.mem_cons_self, hword, hstart⟩

namespace Led

variable {keywords : List String} {t : Template}

/-- What is led by keywords ends a word. -/
theorem bounded (h : t.Led keywords) (first : Nat) : Bounded (t.numbered first) := by
  rcases h first with hempty | ⟨keyword, _, _, rest, hrest⟩
  · rw [hempty]
    exact bounded_empty
  · rw [hrest, String.append_assoc]
    exact bounded_space _

/-- What is led by keywords does not go on with a list. -/
theorem not_startsWith_comma (h : t.Led keywords) (first : Nat) :
    ¬ StartsWith ", " (t.numbered first) := by
  rcases h first with hempty | ⟨keyword, _, _, rest, hrest⟩
  · rw [hempty]
    exact not_startsWith_empty (by decide)
  · have hspace : Clash ", " " " := by decide
    rw [hrest, String.append_assoc]
    exact hspace.not_startsWith _

/-- A text that is led by keywords begins with no other keyword. -/
theorem not_startsWith (h : t.Led keywords) {keyword : String} (hword : IsWord keyword)
    (hmem : keyword ∉ keywords) (first : Nat) :
    ¬ StartsWith (" " ++ (keyword ++ " ")) (t.numbered first) := by
  rcases h first with hempty | ⟨other, hother, hotherWord, rest, hrest⟩
  · rw [hempty]
    refine not_startsWith_empty fun hnil => ?_
    exact absurd (String.append_eq_empty_iff.mp hnil).1 (by decide)
  · rintro ⟨rest', hrest'⟩
    rw [hrest] at hrest'
    simp only [String.append_assoc, String.append_right_inj] at hrest'
    obtain ⟨rfl, -⟩ := hotherWord.append_inj hword (bounded_space _) (bounded_space _) hrest'
    exact hmem hother

/-- A text that is led by keywords goes on with no conjunction. -/
theorem endsConjunction (h : t.Led keywords) (hmem : "AND" ∉ keywords) (first : Nat) :
    EndsConjunction (t.numbered first) :=
  ⟨h.bounded first, h.not_startsWith (by decide) hmem first⟩

end Led

/-- Of what is alike both or neither has clauses with a keyword, if no such clause follows. -/
theorem eq_nil_of_alike {keyword : String} (hword : IsWord keyword) {keywords : List String}
    (hmem : keyword ∉ keywords) {clauses : List Template} (h : ∀ t ∈ clauses, t.Headed keyword)
    {rest rest' : Template} (hrest' : rest'.Led keywords) {first : Nat}
    (halike : Alike first (trail clauses ++ rest) rest') : clauses = [] := by
  cases clauses with
  | nil => rfl
  | cons t clauses =>
    have hstart := (h t List.mem_cons_self).startsWith_trail clauses rest first
    rw [halike.text_eq] at hstart
    exact absurd hstart (hrest'.not_startsWith hword hmem first)

/-! ## Predicates -/

/-- Predicates that are alike with what comes after them mean the same, and what comes after them
is alike. -/
theorem Conjunctive.of_alike {t t' u u' : Template} {meaning meaning' : Valuation → Bool}
    {first : Nat} (hfirst : 0 < first) (ht : t.Conjunctive meaning) (ht' : t'.Conjunctive meaning')
    (hu : ∀ n, EndsConjunction (u.numbered n)) (hu' : ∀ n, EndsConjunction (u'.numbered n))
    (h : Alike first (t ++ u) (t' ++ u')) :
    meaning = meaning' ∧ ∃ next, 0 < next ∧ Alike next u u' := by
  obtain ⟨c, hc⟩ := ht first
  obtain ⟨c', hc'⟩ := ht' first
  have htext : c.text ++ u.numbered (first + t.values.length) =
      c'.text ++ u'.numbered (first + t'.values.length) := by
    rw [hc.text_eq, hc'.text_eq, ← numbered_append, ← numbered_append, h.text_eq]
  obtain ⟨rfl, hrest⟩ := c.text_append_inj (hu _) (hu' _) c' htext
  -- One parse has one list of placeholders, so both predicates take the same number of values.
  have hlength : t.values.length = t'.values.length := by
    have hnumbers := congrArg List.length (hc.numbers_eq.symm.trans hc'.numbers_eq)
    rwa [List.length_range', List.length_range'] at hnumbers
  have hvalues := h.values_eq
  rw [values_append, values_append] at hvalues
  obtain ⟨hsame, hafter⟩ := List.append_inj hvalues hlength
  constructor
  · funext v
    have hbefore : (List.replicate (first - 1) Value.null).length + 1 = first := by
      rw [List.length_replicate]
      omega
    have heval := hc.eval_eq _ [] v hbefore
    have heval' := hc'.eval_eq _ [] v hbefore
    rw [hsame, heval'] at heval
    exact (Option.some.inj heval).symm
  · refine ⟨first + t.values.length, by omega, ?_, hafter⟩
    rw [hrest, hlength]

end Template

open Template

/-- Conditions side by side mean that all of them hold. -/
theorem conjunctive_predicate {conditions : List Condition}
    (h : ∀ column ∈ Condition.columnsOfAll conditions, IsPlain connectives column) :
    (predicate conditions).Conjunctive fun v => conditions.all fun c => c.eval v := by
  cases conditions with
  | nil => exact conjunctive_constant true
  | cons c rest =>
    have hall := Condition.conjunctive_of_mem (c :: rest) h
    exact Conjunctive.join_and hall (List.cons_ne_nil c rest)

/-- The predicates of two clauses that are alike are equivalent. -/
theorem equivalent_of_alike {conditions conditions' : List Condition} {u u' : Template}
    {first : Nat} (hfirst : 0 < first)
    (hplain : ∀ column ∈ Condition.columnsOfAll conditions, IsPlain connectives column)
    (hplain' : ∀ column ∈ Condition.columnsOfAll conditions', IsPlain connectives column)
    (hu : ∀ n, EndsConjunction (u.numbered n)) (hu' : ∀ n, EndsConjunction (u'.numbered n))
    (h : Alike first (predicate conditions ++ u) (predicate conditions' ++ u')) :
    Equivalent conditions conditions' ∧ ∃ next, 0 < next ∧ Alike next u u' := by
  obtain ⟨hmeaning, hrest⟩ := Conjunctive.of_alike hfirst (conjunctive_predicate hplain)
    (conjunctive_predicate hplain') hu hu' h
  exact ⟨congrFun hmeaning, hrest⟩

/-! ## Filters -/

/-- Conditions make one clause. -/
theorem whereClause_cons (c : Condition) (conditions : List Condition) :
    whereClause (c :: conditions) = [.text "WHERE " :: predicate (c :: conditions)] := rfl

/-- A clause with conditions begins with its keyword. -/
theorem headed_whereClause (conditions : List Condition) :
    ∀ t ∈ whereClause conditions, t.Headed "WHERE" := by
  intro t ht first
  cases conditions with
  | nil => exact absurd ht List.not_mem_nil
  | cons c conditions =>
    obtain rfl := List.mem_singleton.mp ht
    exact ⟨(predicate (c :: conditions)).numbered first, rfl⟩

/-- A filter that may be missing is led by its keyword, or by those of what comes after it. -/
theorem led_whereClause {keywords : List String} (conditions : List Condition) {rest : Template}
    (hrest : rest.Led keywords) :
    (trail (whereClause conditions) ++ rest).Led ("WHERE" :: keywords) :=
  led_trail (by decide) (headed_whereClause conditions) hrest

/-- The filters of two statements that are alike from there on are equivalent. -/
theorem filters_of_alike {keywords : List String} (hand : "AND" ∉ keywords)
    (hwhere : "WHERE" ∉ keywords) {filters filters' : List Condition} {rest rest' : Template}
    (hrest : rest.Led keywords) (hrest' : rest'.Led keywords)
    (hplain : ∀ column ∈ Condition.columnsOfAll filters, IsPlain connectives column)
    (hplain' : ∀ column ∈ Condition.columnsOfAll filters', IsPlain connectives column)
    {first : Nat} (hfirst : 0 < first)
    (h : Alike first (trail (whereClause filters) ++ rest)
      (trail (whereClause filters') ++ rest')) :
    Equivalent filters filters' ∧ ∃ next, 0 < next ∧ Alike next rest rest' := by
  cases filters with
  | nil =>
    cases filters' with
    | nil => exact ⟨fun _ => rfl, first, hfirst, h⟩
    | cons c' filters' =>
      cases eq_nil_of_alike (by decide) hwhere (headed_whereClause (c' :: filters')) hrest h.symm
  | cons c filters =>
    cases filters' with
    | nil => cases eq_nil_of_alike (by decide) hwhere (headed_whereClause (c :: filters)) hrest' h
    | cons c' filters' =>
      have hpredicates : Alike first (predicate (c :: filters) ++ rest)
          (predicate (c' :: filters') ++ rest') := by
        rw [whereClause_cons, whereClause_cons, trail_cons_append, trail_cons_append] at h
        exact h.of_text.of_text
      exact equivalent_of_alike hfirst hplain hplain' (hrest.endsConjunction hand)
        (hrest'.endsConjunction hand) hpredicates

/-! ## Joins -/

/-- A join begins with its keyword. -/
theorem Join.headed_template (j : Join) : j.template.Headed "JOIN" := by
  intro first
  refine ⟨j.table ++ (" ON " ++ (predicate j.on).numbered first), ?_⟩
  rw [Join.template, numbered]
  simp only [String.append_assoc]
  rfl

/-- Joins begin with one keyword, each of them. -/
theorem headed_joins (joins : List Join) : ∀ t ∈ joins.map Join.template, t.Headed "JOIN" := by
  intro t ht
  obtain ⟨j, _, rfl⟩ := List.mem_map.mp ht
  exact j.headed_template

/-- Joins that may be missing are led by their keyword, or by those of what comes after them. -/
theorem led_joins {keywords : List String} (joins : List Join) {rest : Template}
    (hrest : rest.Led keywords) :
    (trail (joins.map Join.template) ++ rest).Led ("JOIN" :: keywords) :=
  led_trail (by decide) (headed_joins joins) hrest

/-- A table that is joined, and what comes after it, are read off. -/
theorem Join.alike_on {j k : Join} {first : Nat} {u u' : Template} (hj : IsWord j.table)
    (hk : IsWord k.table) (h : Alike first (j.template ++ u) (k.template ++ u')) :
    j.table = k.table ∧ Alike first (predicate j.on ++ u) (predicate k.on ++ u') := by
  have hon (s : String) : Bounded (" ON " ++ s) := bounded_append (by decide) s
  have htext := h.text_eq
  simp only [Join.template, List.cons_append, numbered, String.append_assoc,
    String.append_right_inj] at htext
  obtain ⟨htable, hrest⟩ := hj.append_inj hk (hon _) (hon _) htext
  exact ⟨htable, (String.append_right_inj " ON ").mp hrest, h.values_eq⟩

/-- A join can be read: its table is a word, and its columns are plain. -/
structure Join.Readable (j : Join) : Prop where
  table : IsWord j.table
  on : ∀ column ∈ Condition.columnsOfAll j.on, IsPlain connectives column

/-- Joins that are alike with what comes after them agree one by one. -/
theorem joins_of_alike {keywords : List String} (hand : "AND" ∉ keywords)
    (hjoin : "JOIN" ∉ keywords) {rest rest' : Template} (hrest : rest.Led keywords)
    (hrest' : rest'.Led keywords) {joins joins' : List Join} (hplain : ∀ j ∈ joins, j.Readable)
    (hplain' : ∀ j ∈ joins', j.Readable) {first : Nat} (hfirst : 0 < first)
    (h : Alike first (trail (joins.map Join.template) ++ rest)
      (trail (joins'.map Join.template) ++ rest')) :
    List.Forall₂ Join.Agrees joins joins' ∧ ∃ next, 0 < next ∧ Alike next rest rest' := by
  induction joins generalizing joins' first with
  | nil =>
    cases joins' with
    | nil => exact ⟨.nil, first, hfirst, h⟩
    | cons k ks => cases eq_nil_of_alike (by decide) hjoin (headed_joins (k :: ks)) hrest h.symm
  | cons j js ih =>
    cases joins' with
    | nil => cases eq_nil_of_alike (by decide) hjoin (headed_joins (j :: js)) hrest' h
    | cons k ks =>
      have hj := hplain j List.mem_cons_self
      have hk := hplain' k List.mem_cons_self
      have hand' : "AND" ∉ "JOIN" :: keywords := by
        rw [List.mem_cons, not_or]
        exact ⟨by decide, hand⟩
      rw [List.map_cons, List.map_cons, trail_cons_append, trail_cons_append] at h
      obtain ⟨htable, hon⟩ := Join.alike_on hj.table hk.table h.of_text
      obtain ⟨hequivalent, next, hnext, hafter⟩ := equivalent_of_alike hfirst hj.on hk.on
        ((led_joins js hrest).endsConjunction hand') ((led_joins ks hrest').endsConjunction hand')
        hon
      obtain ⟨hjoins, hlast⟩ := ih (fun l hl => hplain l (List.mem_cons_of_mem j hl))
        (fun l hl => hplain' l (List.mem_cons_of_mem k hl)) hnext hafter
      exact ⟨.cons ⟨htable, hequivalent⟩ hjoins, hlast⟩

/-! ## Names -/

/-- Names and what comes after them are read off if it does not go on with a list. -/
theorem commaList_append_inj {names names' : List String} (hne : names ≠ []) (hne' : names' ≠ [])
    (hwords : ∀ name ∈ names, IsWord name) (hwords' : ∀ name ∈ names', IsWord name) {s t : String}
    (hs : Bounded s) (hs' : ¬ StartsWith ", " s) (ht : Bounded t) (ht' : ¬ StartsWith ", " t)
    (h : commaList names ++ s = commaList names' ++ t) : names = names' ∧ s = t := by
  refine readsOff_word.separated bounded_comma hne hne' hwords hwords' hs hs' ht ht' ?_
  rw [List.map_id, List.map_id]
  exact h

/-- The text of a clause with names, and what comes after it. -/
theorem numbered_names (keyword name : String) (names : List String) (rest : Template)
    (first : Nat) :
    (trail ((namesClause keyword (name :: names)).map ofText) ++ rest).numbered first =
      " " ++ (keyword ++ (" " ++ (commaList (name :: names) ++ rest.numbered first))) := by
  change (trail [ofText (keyword ++ " " ++ commaList (name :: names))] ++ rest).numbered first = _
  rw [trail_cons_append, ofText, List.singleton_append, numbered, numbered]
  simp only [String.append_assoc]
  rfl

/-- A clause with names begins with its keyword. -/
theorem headed_names (lead : String) (names : List String) :
    ∀ t ∈ (namesClause (lead ++ " BY") names).map ofText, t.Headed lead := by
  intro t ht first
  cases names with
  | nil => exact absurd ht List.not_mem_nil
  | cons name names =>
    obtain rfl := List.mem_singleton.mp ht
    refine ⟨"BY " ++ commaList (name :: names), ?_⟩
    simp only [ofText, numbered, String.append_empty, String.append_assoc]
    rfl

/-- A clause with names that may be missing is led by its keyword, or by those of what comes after
it. -/
theorem led_names {lead : String} (hlead : IsWord lead) {keywords : List String}
    (names : List String) {rest : Template} (hrest : rest.Led keywords) :
    (trail ((namesClause (lead ++ " BY") names).map ofText) ++ rest).Led (lead :: keywords) :=
  led_trail hlead (headed_names lead names) hrest

/-- Two clauses with names, one of which may be missing, have the same names if they are alike with
what comes after them. -/
theorem names_of_alike {lead : String} (hlead : IsWord lead) {keywords : List String}
    (hmem : lead ∉ keywords) {names names' : List String} {rest rest' : Template}
    (hrest : rest.Led keywords) (hrest' : rest'.Led keywords)
    (hnames : ∀ name ∈ names, IsWord name) (hnames' : ∀ name ∈ names', IsWord name) {first : Nat}
    (h : Alike first (trail ((namesClause (lead ++ " BY") names).map ofText) ++ rest)
      (trail ((namesClause (lead ++ " BY") names').map ofText) ++ rest')) :
    names = names' ∧ Alike first rest rest' := by
  cases names with
  | nil =>
    cases names' with
    | nil => exact ⟨rfl, h⟩
    | cons name' names' =>
      cases eq_nil_of_alike hlead hmem (headed_names lead (name' :: names')) hrest h.symm
  | cons name names =>
    cases names' with
    | nil => cases eq_nil_of_alike hlead hmem (headed_names lead (name :: names)) hrest' h
    | cons name' names' =>
      have htext := h.text_eq
      rw [numbered_names, numbered_names] at htext
      simp only [String.append_right_inj] at htext
      obtain ⟨hsame, hafter⟩ := commaList_append_inj (List.cons_ne_nil name names)
        (List.cons_ne_nil name' names') hnames hnames' (hrest.bounded first)
        (hrest.not_startsWith_comma first) (hrest'.bounded first)
        (hrest'.not_startsWith_comma first) htext
      exact ⟨hsame, hafter, h.values_eq⟩

/-! ## Assignments -/

/-- An assignment to a column, whose value has a number. -/
def assignmentText (column : String × Nat) : String :=
  column.1 ++ (" = " ++ placeholder column.2)

/-- Assignments are read off, each up to its placeholder. -/
theorem readsOff_assignmentText : ReadsOff (fun column => IsWord column.1) assignmentText := by
  intro a b s t ha hb hs ht h
  have hequals (s : String) : Bounded (" = " ++ s) := bounded_append (by decide) s
  simp only [assignmentText, String.append_assoc] at h
  obtain ⟨hcolumn, h⟩ := ha.append_inj hb (hequals _) (hequals _) h
  obtain ⟨hnumber, hst⟩ := readsOff_placeholder a.2 b.2 s t trivial trivial hs ht
    ((String.append_right_inj " = ").mp h)
  exact ⟨Prod.ext hcolumn hnumber, hst⟩

/-- Assignments have consecutive placeholders. -/
theorem numbered_assignments (entries : List (String × Value)) (first : Nat) :
    (join ", " (entries.map assignmentTemplate)).numbered first =
      ", ".intercalate (((entries.map Prod.fst).zipIdx first).map assignmentText) := by
  have htext (entry : String × Value) (n : Nat) :
      (assignmentTemplate entry).numbered n = assignmentText (entry.1, n) := by
    simp only [assignmentTemplate, numbered, assignmentText, String.append_empty,
      String.append_assoc]
  rw [numbered_join htext (fun _ => rfl), List.zipIdx_map, List.map_map]
  rfl

/-- Assignments have the values that they assign. -/
theorem values_assignments (entries : List (String × Value)) :
    (join ", " (entries.map assignmentTemplate)).values = entries.map Prod.snd := by
  rw [values_join, List.flatMap_map, List.map_eq_flatMap]
  rfl

/-- Assignments that are alike with what comes after them are the same. -/
theorem assignments_of_alike {keywords : List String} {u u' : Template} (hu : u.Led keywords)
    (hu' : u'.Led keywords) {entries entries' : List (String × Value)} (hne : entries ≠ [])
    (hne' : entries' ≠ []) (hwords : ∀ entry ∈ entries, IsWord entry.1)
    (hwords' : ∀ entry ∈ entries', IsWord entry.1) {first : Nat}
    (h : Alike first (join ", " (entries.map assignmentTemplate) ++ u)
      (join ", " (entries'.map assignmentTemplate) ++ u')) :
    entries = entries' ∧ ∃ next, first ≤ next ∧ Alike next u u' := by
  have htext := h.text_eq
  rw [numbered_append, numbered_append, numbered_assignments, numbered_assignments] at htext
  have hnil {es : List (String × Value)} (hes : es ≠ []) : (es.map Prod.fst).zipIdx first ≠ [] := by
    rw [Ne, List.zipIdx_eq_nil_iff, List.map_eq_nil_iff]
    exact hes
  have hcolumn {es : List (String × Value)} (hes : ∀ entry ∈ es, IsWord entry.1) :
      ∀ column ∈ (es.map Prod.fst).zipIdx first, IsWord column.1 := by
    intro column hmem
    obtain ⟨entry, hentry, hname⟩ := List.mem_map.mp (List.fst_mem_of_mem_zipIdx hmem)
    exact hname ▸ hes entry hentry
  obtain ⟨hzip, hafter⟩ := readsOff_assignmentText.separated bounded_comma (hnil hne) (hnil hne')
    (hcolumn hwords) (hcolumn hwords') (hu.bounded _) (hu.not_startsWith_comma _) (hu'.bounded _)
    (hu'.not_startsWith_comma _) htext
  have hcolumns : entries.map Prod.fst = entries'.map Prod.fst := by
    have hfst := congrArg (List.map Prod.fst) hzip
    rwa [List.zipIdx_map_fst, List.zipIdx_map_fst] at hfst
  have hlength : entries.length = entries'.length := by
    have hlengths := congrArg List.length hcolumns
    rwa [List.length_map, List.length_map] at hlengths
  have hall := h.values_eq
  rw [values_append, values_append, values_assignments, values_assignments] at hall
  obtain ⟨hvalues, hrest⟩ :=
    List.append_inj hall (by rw [List.length_map, List.length_map, hlength])
  rw [values_assignments, values_assignments, List.length_map, List.length_map, ← hlength] at hafter
  refine ⟨?_, first + entries.length, Nat.le_add_right _ _, hafter, hrest⟩
  exact (List.zip_of_prod hcolumns hvalues).trans (List.zip_of_prod rfl rfl).symm

end SqlDraft
