import SqlDraft.Proofs.Parameters.Leaves
import SqlDraft.Proofs.Predicate.Evaluation

/-!
# Parentheses

The parentheses of a condition's text are those of its groups and of its lists. They are balanced,
and nest as deep as groups and lists nest in the tree. Neither placeholders nor values without
parentheses add to them, so that both texts of a condition have the same ones.
-/

namespace SqlDraft

/-! ## Balanced parentheses -/

/-- Parentheses are balanced and nest to the given depth: no beginning closes more of them than it
opens, the whole closes all that it opens, and the depth is the greatest number that a beginning
leaves open. -/
structure Nests (cs : List Char) (depth : Nat) : Prop where
  opened : ∀ start, start <+: cs → start.count ')' ≤ start.count '('
  closed : cs.count '(' = cs.count ')'
  bounded : ∀ start, start <+: cs → start.count '(' ≤ start.count ')' + depth
  reached : ∃ start, start <+: cs ∧ start.count '(' = start.count ')' + depth

/-- A beginning of two lists is one of the first, or goes on with one of the second. -/
private theorem prefix_append_cases {start first second : List Char}
    (h : start <+: first ++ second) :
    start <+: first ∨ ∃ more, more <+: second ∧ start = first ++ more := by
  obtain ⟨rest, hrest⟩ := h
  rcases List.append_eq_append_iff.mp hrest with ⟨others, rfl, -⟩ | ⟨more, rfl, rfl⟩
  · exact .inl (List.prefix_append start others)
  · exact .inr ⟨more, List.prefix_append more rest, rfl⟩

namespace Nests

/-- Without parentheses nothing is nested. -/
theorem nil : Nests [] 0 where
  opened start h := by rw [List.prefix_nil.mp h]; exact Nat.le_refl 0
  closed := rfl
  bounded start h := by rw [List.prefix_nil.mp h]; exact Nat.le_refl 0
  reached := ⟨[], List.prefix_rfl, rfl⟩

/-- Side by side, parentheses nest as deep as the deeper of the two. -/
theorem append {first second : List Char} {m n : Nat} (h : Nests first m) (h' : Nests second n) :
    Nests (first ++ second) (max m n) where
  opened start hstart := by
    rcases prefix_append_cases hstart with hfirst | ⟨more, hmore, rfl⟩
    · exact h.opened start hfirst
    · have hclosed := h.closed
      have hopened := h'.opened more hmore
      rw [List.count_append, List.count_append]
      omega
  closed := by rw [List.count_append, List.count_append, h.closed, h'.closed]
  bounded start hstart := by
    rcases prefix_append_cases hstart with hfirst | ⟨more, hmore, rfl⟩
    · have hbounded := h.bounded start hfirst
      omega
    · have hclosed := h.closed
      have hbounded := h'.bounded more hmore
      rw [List.count_append, List.count_append]
      omega
  reached := by
    rcases Nat.le_total n m with hle | hle
    · obtain ⟨start, hstart, hreached⟩ := h.reached
      rw [Nat.max_eq_left hle]
      exact ⟨start, List.prefix_append_of_prefix hstart, hreached⟩
    · obtain ⟨more, hmore, hreached⟩ := h'.reached
      rw [Nat.max_eq_right hle]
      refine ⟨first ++ more, (List.prefix_append_right_inj first).mpr hmore, ?_⟩
      rw [List.count_append, List.count_append, h.closed, hreached, Nat.add_assoc]

/-- A pair of parentheses adds one to the depth of what it encloses. -/
theorem enclosed {cs : List Char} {depth : Nat} (h : Nests cs depth) :
    Nests ('(' :: cs ++ [')']) (1 + depth) := by
  have hstarts (start : List Char) (hstart : start <+: '(' :: cs ++ [')']) :
      start = [] ∨ start = '(' :: cs ++ [')'] ∨ ∃ inner, inner <+: cs ∧ start = '(' :: inner := by
    rw [List.cons_append, List.prefix_cons_iff] at hstart
    rcases hstart with rfl | ⟨inner, rfl, hinner⟩
    · exact .inl rfl
    · rcases List.prefix_concat_iff.mp hinner with rfl | hinner
      · exact .inr (.inl rfl)
      · exact .inr (.inr ⟨inner, hinner, rfl⟩)
  have hopen (inner : List Char) : ('(' :: inner).count '(' = inner.count '(' + 1 :=
    List.count_cons_self
  have hclose (inner : List Char) : ('(' :: inner).count ')' = inner.count ')' :=
    List.count_cons_of_ne (by decide)
  have hopenAll : ('(' :: cs ++ [')']).count '(' = cs.count '(' + 1 := by
    rw [List.cons_append, hopen, List.count_append]
    rfl
  have hcloseAll : ('(' :: cs ++ [')']).count ')' = cs.count ')' + 1 := by
    rw [List.cons_append, hclose, List.count_append]
    rfl
  have hclosed := h.closed
  refine ⟨fun start hstart => ?_, ?_, fun start hstart => ?_, ?_⟩
  · rcases hstarts start hstart with rfl | rfl | ⟨inner, hinner, rfl⟩
    · exact Nat.le_refl 0
    · omega
    · have hopened := h.opened inner hinner
      rw [hopen, hclose]
      omega
  · omega
  · rcases hstarts start hstart with rfl | rfl | ⟨inner, hinner, rfl⟩
    · exact Nat.zero_le _
    · omega
    · have hbounded := h.bounded inner hinner
      rw [hopen, hclose]
      omega
  · obtain ⟨inner, hinner, hreached⟩ := h.reached
    refine ⟨'(' :: inner, ?_, ?_⟩
    · exact (List.prefix_cons_inj '(').mpr (List.prefix_append_of_prefix hinner)
    · rw [hopen, hclose]
      omega

end Nests

/-! ## The parentheses of a text -/

/-- Whether a character opens or closes a group. -/
def isParenthesis (c : Char) : Bool := c = '(' || c = ')'

/-- A text in which no parenthesis occurs. -/
def Unparenthesized (s : String) : Prop := '(' ∉ s.toList ∧ ')' ∉ s.toList

instance (s : String) : Decidable (Unparenthesized s) := inferInstanceAs (Decidable (_ ∧ _))

/-- The parentheses of a text in order. -/
def parentheses (s : String) : List Char := s.toList.filter isParenthesis

/-- How parentheses nest is a matter of the parentheses alone. -/
theorem nests_toList {s : String} {depth : Nat} (h : Nests (parentheses s) depth) :
    Nests s.toList depth := by
  have hopen (cs : List Char) : (cs.filter isParenthesis).count '(' = cs.count '(' :=
    List.count_filter (by decide)
  have hclose (cs : List Char) : (cs.filter isParenthesis).count ')' = cs.count ')' :=
    List.count_filter (by decide)
  refine ⟨fun start hstart => ?_, ?_, fun start hstart => ?_, ?_⟩
  · rw [← hopen, ← hclose]
    exact h.opened _ (hstart.filter isParenthesis)
  · rw [← hopen, ← hclose]
    exact h.closed
  · rw [← hopen, ← hclose]
    exact h.bounded _ (hstart.filter isParenthesis)
  · obtain ⟨_, hmost, hreached⟩ := h.reached
    obtain ⟨start, hstart, rfl⟩ := List.prefix_filter_iff.mp hmost
    rw [hopen, hclose] at hreached
    exact ⟨start, hstart, hreached⟩

/-- The parentheses of two texts in sequence are those of the first, then those of the second. -/
@[simp] theorem parentheses_append (s t : String) :
    parentheses (s ++ t) = parentheses s ++ parentheses t := by
  rw [parentheses, String.toList_append, List.filter_append]
  rfl

/-- Nothing is left of a text without parentheses. -/
theorem Unparenthesized.parentheses_eq {s : String} (h : Unparenthesized s) :
    parentheses s = [] := by
  rw [parentheses, List.filter_eq_nil_iff]
  intro c hc hparenthesis
  simp only [isParenthesis, Bool.or_eq_true, decide_eq_true_eq] at hparenthesis
  rcases hparenthesis with rfl | rfl
  · exact h.1 hc
  · exact h.2 hc

/-- Parentheses end a word. -/
theorem IsWord.unparenthesized {w : String} (h : IsWord w) : Unparenthesized w := by
  rw [isWord_iff] at h
  exact ⟨fun hmem => absurd (h _ hmem) (by decide), fun hmem => absurd (h _ hmem) (by decide)⟩

/-- The spelling of an operator has no parentheses. -/
theorem parentheses_token (op : Operator) : parentheses op.token = [] := by
  cases op <;> decide

namespace Template

/-- The parentheses of a template, apart from its values. -/
def parentheses : Template → List Char
  | [] => []
  | .text s :: rest => SqlDraft.parentheses s ++ parentheses rest
  | .slot _ :: rest => parentheses rest

/-- The parentheses of two templates in sequence are those of the first, then those of the second.
-/
@[simp] theorem parentheses_append (s t : Template) :
    parentheses (s ++ t) = parentheses s ++ parentheses t := by
  induction s with
  | nil => rfl
  | cons piece rest ih =>
    cases piece with
    | text s => rw [List.cons_append, parentheses, parentheses, ih, List.append_assoc]
    | slot v => exact ih

/-- A text without parentheses between templates adds none. -/
theorem parentheses_join {separator : String} (h : SqlDraft.parentheses separator = [])
    (templates : List Template) :
    parentheses (join separator templates) = templates.flatMap parentheses := by
  induction templates with
  | nil => rfl
  | cons t rest ih =>
    cases rest with
    | nil => simp [join]
    | cons u rest =>
      rw [join_cons_cons, parentheses_append, parentheses, h, ih, List.nil_append]
      rfl

/-- A list of values has the parentheses around it. -/
theorem parentheses_list (vs : List Value) : parentheses (list vs) = ['(', ')'] := by
  have hslots : (vs.map fun v => [Piece.slot v]).flatMap parentheses = [] := by
    rw [List.flatMap_map]
    exact List.flatMap_eq_nil_iff.mpr fun _ _ => rfl
  rw [list, List.cons_append, parentheses, parentheses_append, parentheses_join (by decide), hslots]
  decide

/-- Placeholders have no parentheses. -/
theorem parentheses_numbered (t : Template) (first : Nat) :
    SqlDraft.parentheses (t.numbered first) = t.parentheses := by
  induction t generalizing first with
  | nil => rfl
  | cons piece rest ih =>
    cases piece with
    | text s => rw [numbered, SqlDraft.parentheses_append, ih, parentheses]
    | slot v =>
      rw [numbered, SqlDraft.parentheses_append, ih, parentheses,
        (isWord_placeholder first).unparenthesized.parentheses_eq, List.nil_append]

/-- Values without parentheses add none to the text. -/
theorem parentheses_inline {t : Template} (h : ∀ v ∈ t.values, Unparenthesized v.plainText) :
    SqlDraft.parentheses t.inline = t.parentheses := by
  induction t with
  | nil => rfl
  | cons piece rest ih =>
    cases piece with
    | text s => rw [inline, SqlDraft.parentheses_append, ih h, parentheses]
    | slot v =>
      obtain ⟨hv, hrest⟩ := List.forall_mem_cons.mp h
      have hquote : SqlDraft.parentheses "'" = [] := by decide
      rw [inline, Value.inline, SqlDraft.parentheses_append, SqlDraft.parentheses_append,
        SqlDraft.parentheses_append, hquote, hv.parentheses_eq, ih hrest, parentheses]
      rfl

end Template

/-! ## Depths -/

/-- Whether an operand stands in the text as a list in parentheses, which an empty one does not. -/
def Operand.isWrittenAsList : Operand → Bool
  | .literal _ => false
  | .compare op v => op.takesList && !v.items.isEmpty

/-- How deep parentheses nest in the text of a term. -/
def Term.nesting (t : Term) : Nat := if t.values.any Operand.isWrittenAsList then 1 else 0

namespace Condition

mutual

/-- How deep parentheses nest in the text of a condition. -/
def nesting : Condition → Nat
  | .term t => Term.nesting t
  | .and children | .or children => 1 + greatestNesting children

/-- The greatest nesting in a list; none has depth zero. -/
def greatestNesting : List Condition → Nat
  | [] => 0
  | c :: rest => max (nesting c) (greatestNesting rest)

end

mutual

/-- The operands of a condition from left to right. -/
def operands : Condition → List Operand
  | .term t => t.values
  | .and children | .or children => operandsOfAll children

/-- The operands of several conditions, one condition after the other. -/
def operandsOfAll : List Condition → List Operand
  | [] => []
  | c :: rest => operands c ++ operandsOfAll rest

end

end Condition

/-! ## The parentheses of a condition -/

/-- A column without parentheses leaves its comparison the parentheses of a list, or none. -/
theorem Operand.nests_template {column : String} (hcolumn : Unparenthesized column)
    (operand : Operand) :
    Nests (operand.template column).parentheses (if operand.isWrittenAsList then 1 else 0) := by
  have hnone := hcolumn.parentheses_eq
  have hspace : parentheses " " = [] := by decide
  cases operand with
  | literal v =>
    have hequals : parentheses " = " = [] := by decide
    simp only [template, Template.parentheses, parentheses_append, hnone, hequals]
    exact Nests.nil
  | compare op v =>
    have hhead : parentheses (column ++ " " ++ op.token ++ " ") = [] := by
      simp only [parentheses_append, hnone, hspace, parentheses_token, List.append_nil]
    simp only [template, isWrittenAsList]
    by_cases hlist : op.takesList = true
    · by_cases hitems : v.items.isEmpty = true
      · -- The two constants have no parentheses either.
        have hconstant : parentheses (if op = .isIn then constantFalse else constantTrue) = [] := by
          split <;> decide
        simp only [hlist, hitems, ite_true, Template.ofText, Template.parentheses, hconstant]
        exact Nests.nil
      · simp only [hlist, hitems, ite_true, Bool.false_eq_true, ite_false, Bool.not_false,
          Bool.and_self, Template.parentheses, hhead, Template.parentheses_list]
        exact Nests.nil.enclosed
    · simp only [hlist, Bool.false_eq_true, ite_false, Bool.false_and, Template.parentheses, hhead]
      exact Nests.nil

/-- Comparisons side by side have the parentheses of lists, or none. -/
theorem Term.nests_comparisons {entries : List (String × Operand)}
    (h : ∀ entry ∈ entries, Unparenthesized entry.1) :
    Nests ((entries.map fun entry => entry.2.template entry.1).flatMap Template.parentheses)
      (if (entries.map Prod.snd).any Operand.isWrittenAsList then 1 else 0) := by
  induction entries with
  | nil => exact Nests.nil
  | cons entry rest ih =>
    obtain ⟨hentry, hrest⟩ := List.forall_mem_cons.mp h
    have hboth := (Operand.nests_template hentry entry.2).append (ih hrest)
    rw [List.map_cons, List.flatMap_cons, List.map_cons, List.any_cons]
    cases hlist : entry.2.isWrittenAsList <;>
      cases hothers : (rest.map Prod.snd).any Operand.isWrittenAsList <;>
      · rw [hlist, hothers] at hboth
        exact hboth

/-- A term nests as deep as its lists. -/
theorem Term.nests_template {t : Term} (hcolumns : ∀ column ∈ t.keys, Unparenthesized column) :
    Nests (Term.template t).parentheses (Term.nesting t) := by
  have hall : ∀ entry ∈ t.entries, Unparenthesized entry.1 := fun entry hentry =>
    hcolumns entry.1 (List.mem_map_of_mem hentry)
  rw [Term.template, Term.nesting, Keyed.values]
  by_cases hempty : t.isEmpty = true
  · rw [if_pos hempty, List.isEmpty_iff.mp hempty]
    exact Nests.nil
  · rw [if_neg hempty, allOf, Template.parentheses_join (by decide)]
    exact Term.nests_comparisons hall

/-- A group has the parentheses around it and those of its children. -/
theorem nests_groupTemplate {separator empty : String} (hseparator : parentheses separator = [])
    (hempty : parentheses empty = []) {children : List Template} {depth : Nat}
    (h : Nests (children.flatMap Template.parentheses) depth) :
    Nests (groupTemplate separator empty children).parentheses (1 + depth) := by
  have hinner : Template.parentheses
      (if children.isEmpty then Template.ofText empty else Template.join separator children) =
        children.flatMap Template.parentheses := by
    cases children with
    | nil => exact (List.append_nil _).trans hempty
    | cons t rest => exact Template.parentheses_join hseparator (t :: rest)
  have houter : (groupTemplate separator empty children).parentheses =
      '(' :: children.flatMap Template.parentheses ++ [')'] := by
    rw [groupTemplate, List.cons_append, Template.parentheses, Template.parentheses_append, hinner]
    rfl
  rw [houter]
  exact h.enclosed

namespace Condition

mutual

/-- The parentheses of a condition are balanced and nest as deep as its groups and lists. -/
theorem nests_template : (c : Condition) → (∀ column ∈ c.columns, Unparenthesized column) →
    Nests c.template.parentheses c.nesting
  | .term _, h => Term.nests_template h
  | .and children, h =>
    nests_groupTemplate (by decide) (by decide) (nests_templates children h)
  | .or children, h =>
    nests_groupTemplate (by decide) (by decide) (nests_templates children h)

/-- Side by side conditions nest as deep as the one that nests deepest. -/
theorem nests_templates : (cs : List Condition) →
    (∀ column ∈ columnsOfAll cs, Unparenthesized column) →
    Nests ((templates cs).flatMap Template.parentheses) (greatestNesting cs)
  | [], _ => Nests.nil
  | c :: rest, h => by
    obtain ⟨hc, hrest⟩ := List.forall_mem_append.mp h
    rw [templates, List.flatMap_cons, greatestNesting]
    exact (nests_template c hc).append (nests_templates rest hrest)

end

mutual

/-- Without lists in parentheses, all parentheses are those of groups. -/
theorem nesting_eq_groupDepth : (c : Condition) →
    (∀ operand ∈ c.operands, operand.isWrittenAsList = false) → c.nesting = c.groupDepth
  | .term t, h => by
    have hnone : t.values.any Operand.isWrittenAsList = false :=
      List.any_eq_false.mpr fun operand hoperand => Bool.not_eq_true _ ▸ h operand hoperand
    rw [nesting, groupDepth, Term.nesting, hnone]
    rfl
  | .and children, h => by
    rw [nesting, groupDepth, greatestNesting_eq_greatestDepth children h]
  | .or children, h => by
    rw [nesting, groupDepth, greatestNesting_eq_greatestDepth children h]

/-- Where no list is written, parts nest as deep as their groups. -/
theorem greatestNesting_eq_greatestDepth : (cs : List Condition) →
    (∀ operand ∈ operandsOfAll cs, operand.isWrittenAsList = false) →
    greatestNesting cs = greatestDepth cs
  | [], _ => rfl
  | c :: rest, h => by
    obtain ⟨hc, hrest⟩ := List.forall_mem_append.mp h
    rw [greatestNesting, greatestDepth, nesting_eq_groupDepth c hc,
      greatestNesting_eq_greatestDepth rest hrest]

end

/-- Where no column has a parenthesis, the text of a condition with placeholders is balanced and
nests as deep as the groups and lists of the condition, whatever the number of its first
placeholder. So does the text with values if none of them has a parenthesis. Groups alone make up
the depth if no operand is written as a list. -/
theorem nests_write (c : Condition) (hcolumns : ∀ column ∈ c.columns, Unparenthesized column) :
    (∀ p : Parameters, Nests ((c.write Writer.numbering).run p).run.1.toList c.nesting) ∧
    ((∀ v ∈ c.leaves, Unparenthesized v.plainText) → Nests c.inline.toList c.nesting) ∧
    ((∀ operand ∈ c.operands, operand.isWrittenAsList = false) → c.nesting = c.groupDepth) := by
  have hnests := nests_template c hcolumns
  refine ⟨fun p => ?_, fun hvalues => ?_, nesting_eq_groupDepth c⟩
  · rw [run_write_numbering]
    apply nests_toList
    rw [Parameters.write, Template.parentheses_numbered]
    exact hnests
  · rw [← values_template] at hvalues
    apply nests_toList
    rw [inline_eq, Template.parentheses_inline hvalues]
    exact hnests

/-- An empty group beside lists, one of them empty, in two groups. -/
def listsInGroups : Condition :=
  .and [.or [], .or [.term (Keyed.ofList [
    ("id", .compare .isIn (.list [.int 1, .text "x"])),
    ("tag", .compare .notIn (.list [])),
    ("name", .literal (.list []))])]]

/-- The list inside of two groups is the third level, and the empty group is at the second. -/
theorem nests_write_listsInGroups :
    (∀ column ∈ listsInGroups.columns, Unparenthesized column) ∧
    listsInGroups.inline = "((1=0) AND (id IN ('1', 'x') AND 1=1 AND name = ''))" ∧
    ((listsInGroups.write Writer.numbering).run ⟨[.null]⟩).run.1 =
      "((1=0) AND (id IN ($2, $3) AND 1=1 AND name = $4))" ∧
    Nests "((1=0) AND (id IN ('1', 'x') AND 1=1 AND name = ''))".toList 3 ∧
    Nests "((1=0) AND (id IN ($2, $3) AND 1=1 AND name = $4))".toList 3 ∧
    (Condition.and [.or []]).nesting = (Condition.and [.or []]).groupDepth := by
  have hcolumns : ∀ column ∈ listsInGroups.columns, Unparenthesized column := by decide
  have hvalues : ∀ v ∈ listsInGroups.leaves, Unparenthesized v.plainText := by
    intro v hv
    rcases hv with _ | ⟨_, _ | ⟨_, _ | ⟨_, hv⟩⟩⟩
    · decide
    · decide
    · decide
    · cases hv
  obtain ⟨hnumbered, hinline, -⟩ := nests_write listsInGroups hcolumns
  exact ⟨hcolumns, rfl, rfl, hinline hvalues, hnumbered ⟨[.null]⟩,
    (nests_write (.and [.or []]) (by decide)).2.2 (by decide)⟩

end Condition

end SqlDraft
