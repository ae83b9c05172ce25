import SqlDraft.Proofs.Writing.Readings
import SqlDraft.Proofs.Writing.Numbering
import SqlDraft.Proofs.Predicate.Evaluation

/-!
# The text of a condition means what the condition means

A template stands for a tree of the grammar if, from whatever number on it is numbered, the tree has
its text and its placeholders, and holds whenever the meaning of the template does. The template of
a condition stands for a conjunction with the meaning of the condition: what is joined by `OR` is
always in parentheses, and where a part is empty a constant stands for it.
-/

namespace SqlDraft

/-- The placeholders of consecutive values stand for these values. -/
theorem mapM_parameter (before values after : List Value) :
    (List.range' (before.length + 1) values.length).mapM
      (parameter (before ++ values ++ after)) = some values := by
  induction values generalizing before with
  | nil => rfl
  | cons v rest ih =>
    have hfirst : parameter (before ++ v :: rest ++ after) (before.length + 1) = some v := by
      simp only [parameter, List.append_assoc, List.getElem?_append_right (Nat.le_refl _),
        Nat.sub_self, List.cons_append, List.getElem?_cons_zero]
    have hrest := ih (before ++ [v])
    rw [List.length_append, List.length_singleton, List.append_assoc before [v] rest,
      List.singleton_append] at hrest
    rw [List.length_cons, List.range'_succ, List.mapM_cons, hfirst, hrest]
    rfl

/-- A template that is numbered from a first number on has a text, placeholders and an evaluation,
and its meaning is what it evaluates to. -/
structure Template.Renders (t : Template) (first : Nat) (meaning : Valuation → Bool)
    (text : String) (numbers : List Nat) (eval : List Value → Valuation → Option Bool) : Prop where
  text_eq : text = t.numbered first
  numbers_eq : numbers = List.range' first t.values.length
  eval_eq : ∀ before after v, before.length + 1 = first →
    eval (before ++ t.values ++ after) v = some (meaning v)

namespace Template

/-- Numbered from wherever, the template is a conjunction with the meaning. -/
def Conjunctive (t : Template) (meaning : Valuation → Bool) : Prop :=
  ∀ first, ∃ c : Conjunction, t.Renders first meaning c.text c.numbers c.eval

/-- Numbered from wherever, the template is a disjunction with the meaning. -/
def Disjunctive (t : Template) (meaning : Valuation → Bool) : Prop :=
  ∀ first, ∃ e : Disjunction, t.Renders first meaning e.text e.numbers e.eval

/-- Two templates side by side hold as their connective says. -/
theorem Renders.beside {t u : Template} {first : Nat} {meaning meaning' : Valuation → Bool}
    {text text' : String} {numbers numbers' : List Nat}
    {eval eval' : List Value → Valuation → Option Bool}
    (h : t.Renders first meaning text numbers eval)
    (h' : u.Renders (first + t.values.length) meaning' text' numbers' eval')
    (separator : String) (connect : Bool → Bool → Bool) :
    (t ++ .text separator :: u).Renders first (fun v => connect (meaning v) (meaning' v))
      (text ++ separator ++ text') (numbers ++ numbers') (fun params v => do
        let a ← eval params v
        let b ← eval' params v
        return connect a b) where
  text_eq := by
    rw [h.text_eq, h'.text_eq, numbered_append, String.append_assoc]
    rfl
  numbers_eq := by
    rw [h.numbers_eq, h'.numbers_eq, values_append, List.length_append]
    exact List.range'_append_1
  eval_eq := by
    intro before after v hfirst
    have hleft := h.eval_eq before (u.values ++ after) v hfirst
    have hright := h'.eval_eq (before ++ t.values) after v
      (by rw [List.length_append]; omega)
    have hvalues : before ++ values (t ++ .text separator :: u) ++ after =
        before ++ t.values ++ (u.values ++ after) := by
      simp only [values_append, values, List.append_assoc]
    simp only [hvalues, hleft]
    rw [← List.append_assoc, hright]
    rfl

/-- What can be parsed as a conjunction can be parsed as a disjunction of nothing else. -/
theorem Conjunctive.disjunctive {t : Template} {meaning : Valuation → Bool}
    (h : t.Conjunctive meaning) : t.Disjunctive meaning := by
  intro first
  obtain ⟨c, hc⟩ := h first
  exact ⟨.last c, hc⟩

/-- A constant has no placeholders. -/
theorem conjunctive_constant (holds : Bool) :
    (ofText (constantText holds)).Conjunctive fun _ => holds := by
  intro first
  refine ⟨.last (.constant holds), ?_, rfl, fun _ _ _ _ => rfl⟩
  simp only [ofText, numbered, String.append_empty]
  rfl

/-- A disjunction in parentheses is a conjunction. -/
theorem Disjunctive.group {t : Template} {meaning : Valuation → Bool} (h : t.Disjunctive meaning) :
    (.text "(" :: t ++ [.text ")"] : Template).Conjunctive meaning := by
  intro first
  obtain ⟨e, he⟩ := h first
  have hvalues : values (.text "(" :: t ++ [.text ")"]) = t.values := by
    simp only [List.cons_append, values, values_append, List.append_nil]
  refine ⟨.last (.group e), ?_, ?_, ?_⟩
  · simp only [Conjunction.text, Primary.text, he.text_eq, List.cons_append, numbered,
      numbered_append, String.append_empty, String.append_assoc]
  · rw [hvalues]
    exact he.numbers_eq
  · rw [hvalues]
    exact he.eval_eq

/-- Conjunctions joined by `AND` are one conjunction. -/
theorem Conjunctive.join_and {α : Type} {template : α → Template} {meaning : α → Valuation → Bool}
    {as : List α} (h : ∀ a ∈ as, (template a).Conjunctive (meaning a)) (hne : as ≠ []) :
    (join " AND " (as.map template)).Conjunctive fun v => as.all fun a => meaning a v := by
  induction as with
  | nil => exact absurd rfl hne
  | cons a as ih =>
    have ha := h a List.mem_cons_self
    cases as with
    | nil =>
      simp only [List.map_cons, List.map_nil, join, List.all_cons, List.all_nil, Bool.and_true]
      exact ha
    | cons b as =>
      intro first
      have hrest := ih (fun a' ha' => h a' (List.mem_cons_of_mem a ha')) (List.cons_ne_nil b as)
      obtain ⟨c, hc⟩ := ha first
      obtain ⟨d, hd⟩ := hrest (first + (template a).values.length)
      -- A term or a list of conditions has no parentheses of its own, so its conjuncts become
      -- conjuncts of the whole.
      have hboth := hc.beside hd " AND " and
      refine ⟨c.append d, ?_⟩
      rw [Conjunction.text_append, Conjunction.numbers_append]
      simp only [← Conjunction.eval_append] at hboth
      exact hboth

/-- Conjunctions joined by `OR` are one disjunction. -/
theorem Conjunctive.join_or {α : Type} {template : α → Template} {meaning : α → Valuation → Bool}
    {as : List α} (h : ∀ a ∈ as, (template a).Conjunctive (meaning a)) (hne : as ≠ []) :
    (join " OR " (as.map template)).Disjunctive fun v => as.any fun a => meaning a v := by
  induction as with
  | nil => exact absurd rfl hne
  | cons a as ih =>
    have ha := h a List.mem_cons_self
    cases as with
    | nil =>
      simp only [List.map_cons, List.map_nil, join, List.any_cons, List.any_nil, Bool.or_false]
      exact ha.disjunctive
    | cons b as =>
      intro first
      have hrest := ih (fun a' ha' => h a' (List.mem_cons_of_mem a ha')) (List.cons_ne_nil b as)
      obtain ⟨c, hc⟩ := ha first
      obtain ⟨e, he⟩ := hrest (first + (template a).values.length)
      exact ⟨.or c e, hc.beside he " OR " or⟩

end Template

/-! ## Conditions -/

namespace Template

/-- A comparison with one value. -/
theorem conjunctive_scalar (column : Column) (op : Operator) (takesOne : op.takesList = false)
    (value : Value) :
    Conjunctive [.text (column.val ++ " " ++ op.token ++ " "), .slot value]
      fun v => v column.val op.token [value] := by
  intro first
  refine ⟨.last (.comparison (.scalar column op takesOne first)), ?_, rfl, ?_⟩
  · simp only [Conjunction.text, Primary.text, Comparison.text, Comparison.column,
      Comparison.operator, Comparison.operandText, numbered, String.append_empty,
      String.append_assoc]
  · intro before after v hfirst
    subst hfirst
    have hparameter := mapM_parameter before [value] after
    rw [List.length_singleton, List.range'_one] at hparameter
    simp only [Conjunction.eval, Primary.eval, Comparison.eval, Comparison.numbers, values,
      hparameter]
    rfl

/-- A comparison with the values of a list. -/
theorem conjunctive_member (column : Column) (op : Operator) (takesList : op.takesList = true)
    {items : List Value} (hne : items ≠ []) :
    Conjunctive (.text (column.val ++ " " ++ op.token ++ " ") :: list items)
      fun v => v column.val op.token items := by
  intro first
  cases items with
  | nil => exact absurd rfl hne
  | cons item rest =>
    have hnumbers : List.range' first (item :: rest).length =
        first :: List.range' (first + 1) rest.length := List.range'_succ
    have hvalues : values (.text (column.val ++ " " ++ op.token ++ " ") :: list (item :: rest)) =
        item :: rest := values_list (item :: rest)
    refine ⟨.last (.comparison (.member column op takesList first
      (List.range' (first + 1) rest.length))), ?_, ?_, ?_⟩
    · rw [numbered, list, List.cons_append, numbered, numbered_append, numbered_slots,
        placeholdersFrom, hnumbers]
      simp only [placeholders, Conjunction.text, Primary.text, Comparison.text, Comparison.column,
        Comparison.operator, Comparison.operandText, numbered, String.append_empty,
        String.append_assoc]
    · rw [hvalues, hnumbers]
      rfl
    · intro before after v hfirst
      subst hfirst
      have hparameter := mapM_parameter before (item :: rest) after
      rw [hnumbers] at hparameter
      rw [hvalues]
      simp only [Conjunction.eval, Primary.eval, Comparison.eval, Comparison.numbers, hparameter]
      rfl

end Template

open Template

/-- The comparison of a plain column means what the operand says. -/
theorem Operand.conjunctive_template {column : String} (h : IsPlain connectives column)
    (operand : Operand) : (operand.template column).Conjunctive (operand.eval column) := by
  cases operand with
  | literal value =>
    have hspelling : column ++ " = " = column ++ " " ++ Operator.eq.token ++ " " := by
      rw [String.append_assoc, String.append_assoc]
      rfl
    rw [Operand.template, hspelling]
    exact conjunctive_scalar ⟨column, h⟩ .eq rfl value
  | compare op value =>
    simp only [Operand.template]
    cases hop : op.takesList with
    | false =>
      have heval : Operand.eval column (.compare op value) =
          fun v => v column op.token [value] := by
        funext v
        simp only [Operand.eval, hop, Bool.false_eq_true, ite_false]
      rw [heval]
      exact conjunctive_scalar ⟨column, h⟩ op hop value
    | true =>
      by_cases hitems : value.items.isEmpty = true
      · have heval : Operand.eval column (.compare op value) = fun _ => decide (op = .notIn) := by
          funext v
          simp only [Operand.eval, hop, hitems, ite_true]
        rw [heval]
        simp only [hitems, ite_true]
        have hconstant := conjunctive_constant (decide (op = .notIn))
        cases op with
        | isIn => exact hconstant
        | notIn => exact hconstant
        | _ => exact absurd hop Bool.false_ne_true
      · have heval : Operand.eval column (.compare op value) =
            fun v => v column op.token value.items := by
          funext v
          simp only [Operand.eval, hop, hitems, Bool.false_eq_true, ite_true, ite_false]
        rw [heval]
        simp only [hitems, Bool.false_eq_true, ite_true, ite_false]
        exact conjunctive_member ⟨column, h⟩ op hop fun hnil => hitems (by rw [hnil]; rfl)

/-- A term with plain columns means that all of its comparisons hold. -/
theorem Term.conjunctive_template {t : Term} (h : ∀ column ∈ t.keys, IsPlain connectives column) :
    (Term.template t).Conjunctive (Term.eval t) := by
  rw [Term.template]
  by_cases hempty : t.isEmpty = true
  · have heval : Term.eval t = fun _ => true := by
      funext v
      rw [Term.eval, List.isEmpty_iff.mp hempty, List.all_nil]
    rw [if_pos hempty, heval]
    exact conjunctive_constant true
  · rw [if_neg hempty]
    refine Conjunctive.join_and (fun entry hentry => ?_) fun hnil => hempty (by
      rw [Keyed.isEmpty, hnil, List.isEmpty_nil])
    exact entry.2.conjunctive_template (h entry.1 (List.mem_map_of_mem hentry))

/-- A group of plain conditions that all have to hold. -/
theorem conjunctive_groupTemplate_and {children : List Condition}
    (h : ∀ c ∈ children, c.template.Conjunctive c.eval) :
    (groupTemplate " AND " constantTrue (children.map Condition.template)).Conjunctive
      fun v => children.all fun c => c.eval v := by
  cases children with
  | nil => exact (conjunctive_constant true).disjunctive.group
  | cons c rest => exact (Conjunctive.join_and h (List.cons_ne_nil c rest)).disjunctive.group

/-- A group of plain conditions of which one has to hold. -/
theorem conjunctive_groupTemplate_or {children : List Condition}
    (h : ∀ c ∈ children, c.template.Conjunctive c.eval) :
    (groupTemplate " OR " constantFalse (children.map Condition.template)).Conjunctive
      fun v => children.any fun c => c.eval v := by
  cases children with
  | nil => exact (conjunctive_constant false).disjunctive.group
  | cons c rest => exact (Conjunctive.join_or h (List.cons_ne_nil c rest)).group

namespace Condition

mutual

/-- The template of a condition with plain columns means what the condition means. -/
theorem conjunctive_template : (c : Condition) → c.PlainColumns → c.template.Conjunctive c.eval
  | .term t, h => Term.conjunctive_template h
  | .and children, h => by
    have hall := conjunctive_of_mem children h
    rw [template, templates_eq_map]
    have heval : (Condition.and children).eval = fun v => children.all fun c => c.eval v := by
      funext v
      rw [eval, everyHolds_eq_all]
    rw [heval]
    exact conjunctive_groupTemplate_and hall
  | .or children, h => by
    have hall := conjunctive_of_mem children h
    rw [template, templates_eq_map]
    have heval : (Condition.or children).eval = fun v => children.any fun c => c.eval v := by
      funext v
      rw [eval, someHolds_eq_any]
    rw [heval]
    exact conjunctive_groupTemplate_or hall

/-- The same for each of several conditions. -/
theorem conjunctive_of_mem : (cs : List Condition) →
    (∀ column ∈ columnsOfAll cs, IsPlain connectives column) →
    ∀ c ∈ cs, c.template.Conjunctive c.eval
  | [], _ => fun c hc => absurd hc List.not_mem_nil
  | c :: rest, h => by
    have hfirst := conjunctive_template c fun column hc => h column (List.mem_append_left _ hc)
    have hrest := conjunctive_of_mem rest fun column hc => h column (List.mem_append_right _ hc)
    intro d hd
    rcases List.mem_cons.mp hd with rfl | hd
    · exact hfirst
    · exact hrest d hd

end

end Condition

/-! ## Texts that express a meaning -/

/-- A text has exactly one parse, and with the given values the parse holds just when the meaning
does. -/
def Expresses (sql : String) (params : List Value) (meaning : Valuation → Bool) : Prop :=
  ∃ e : Disjunction, (∀ e' : Disjunction, e'.text = sql ↔ e' = e) ∧
    ∀ v, e.eval params v = some (meaning v)

/-- A template with a meaning is a text that expresses it. -/
theorem Template.Conjunctive.expresses {t : Template} {meaning : Valuation → Bool}
    (h : t.Conjunctive meaning) : Expresses (t.numbered 1) t.values meaning := by
  obtain ⟨e, he⟩ := h.disjunctive 1
  refine ⟨e, fun e' => ⟨fun h' => ?_, fun h' => ?_⟩, fun v => ?_⟩
  · exact Disjunction.text_injective (h'.trans he.text_eq.symm)
  · rw [h', he.text_eq]
  · have hv := he.eval_eq [] [] v rfl
    rwa [List.nil_append, List.append_nil] at hv

namespace Condition

/-- The text of a condition with plain columns has exactly one parse, and it holds when the
condition does. So has the text of conditions side by side, and it holds when all of them do. -/
theorem write_expresses :
    (∀ c : Condition, c.PlainColumns →
      let (sql, p) := ((c.write Writer.numbering).run Parameters.empty).run
      Expresses sql p.values c.eval) ∧
    ∀ cs : List Condition, cs ≠ [] → (∀ c ∈ cs, c.PlainColumns) →
      let (texts, p) := ((writeAll Writer.numbering cs).run Parameters.empty).run
      Expresses (conjoined texts) p.values fun v => cs.all fun c => c.eval v := by
  constructor
  · intro c h
    rw [run_write_numbering]
    exact (conjunctive_template c h).expresses
  · intro cs hne h
    have hall : (allOf (cs.map template)).Conjunctive fun v => cs.all fun c => c.eval v :=
      Conjunctive.join_and (fun c hc => conjunctive_template c (h c hc)) hne
    have hwritten := run_writeAll_numbering cs Parameters.empty
    generalize ((writeAll Writer.numbering cs).run Parameters.empty).run = written at hwritten ⊢
    obtain ⟨texts, p⟩ := written
    have htext : conjoined texts = (allOf (cs.map template)).numbered 1 :=
      congrArg Prod.fst hwritten
    have hparams : p.values = (allOf (cs.map template)).values :=
      congrArg (fun w => w.2.values) hwritten
    simp only [htext, hparams]
    exact hall.expresses

/-- Two alternatives: two comparisons side by side, and a group that excludes nothing. -/
def alternatives : Condition :=
  .or [.term ((Term.single "name" (.text "x' OR '1'='1")).compare "age" .gte (.int 18)),
    .and [.term (Keyed.empty.insert "role" (.compare .isIn (.list [.int 1, .int 2]))),
      .term (Keyed.empty.insert "id" (.compare .notIn (.list [])))]]

/-- A value that looks like text of a predicate stays a value, and an empty list is a constant. -/
theorem write_expresses_alternatives :
    Expresses "(name = $1 AND age >= $2 OR (role IN ($3, $4) AND 1=1))"
      [.text "x' OR '1'='1", .int 18, .int 1, .int 2] alternatives.eval ∧
    Expresses "(name = $1 AND age >= $2 OR (role IN ($3, $4) AND 1=1)) AND 1=1"
      [.text "x' OR '1'='1", .int 18, .int 1, .int 2]
      fun v => [alternatives, .term ∅].all fun c => c.eval v :=
  ⟨write_expresses.1 alternatives (by decide),
    write_expresses.2 [alternatives, .term ∅] (by decide) (by decide)⟩

end Condition

end SqlDraft
