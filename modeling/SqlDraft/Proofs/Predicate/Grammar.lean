import SqlDraft.Condition.Rendering
import SqlDraft.Proofs.Predicate.Words

/-!
# The grammar of predicates

A predicate is a disjunction of conjunctions. What they connect is a comparison, a constant or a
predicate in parentheses. A parse of a text is a tree of the grammar with that text. The grammar is
not ambiguous: a text has at most one parse, also where other text comes after it.
-/

namespace SqlDraft

/-- The words that a predicate has between its columns. -/
def connectives : List String := ["AND", "OR", "NOT", "IN"]

/-- A column that stands in a predicate as it is. -/
abbrev Column := {name : String // IsPlain connectives name}

/-- A column, an operator, and the numbers of the placeholders that the column is compared with. -/
inductive Comparison where
  | scalar (column : Column) (op : Operator) (takesOne : op.takesList = false) (n : Nat)
  | member (column : Column) (op : Operator) (takesList : op.takesList = true) (first : Nat)
      (rest : List Nat)

mutual

/-- Conjunctions of which one has to hold. -/
inductive Disjunction where
  | last (c : Conjunction)
  | or (c : Conjunction) (rest : Disjunction)

/-- Primaries of which all have to hold. -/
inductive Conjunction where
  | last (p : Primary)
  | and (p : Primary) (rest : Conjunction)

/-- What is not connected. -/
inductive Primary where
  | group (e : Disjunction)
  | comparison (c : Comparison)
  | constant (holds : Bool)

end

/-- The placeholders of a list between commas. -/
def placeholders (numbers : List Nat) : String := ", ".intercalate (numbers.map placeholder)

namespace Comparison

/-- The column that is compared. -/
def column : Comparison → Column
  | .scalar column .. | .member column .. => column

/-- The operator that it is compared by. -/
def operator : Comparison → Operator
  | .scalar _ op .. | .member _ op .. => op

/-- The numbers of the placeholders in order. -/
def numbers : Comparison → List Nat
  | .scalar _ _ _ n => [n]
  | .member _ _ _ first rest => first :: rest

/-- The placeholder of a single value, or those of a list in parentheses. -/
def operandText : Comparison → String
  | .scalar _ _ _ n => placeholder n
  | .member _ _ _ first rest => "(" ++ (placeholders (first :: rest) ++ ")")

/-- The text of a comparison. -/
def text (c : Comparison) : String :=
  c.column.val ++ (" " ++ (c.operator.token ++ (" " ++ c.operandText)))

end Comparison

/-- The constant that has a truth value. -/
def constantText (holds : Bool) : String := if holds then constantTrue else constantFalse

mutual

/-- The text of a disjunction. -/
def Disjunction.text : Disjunction → String
  | .last c => c.text
  | .or c rest => c.text ++ " OR " ++ rest.text

/-- The text of a conjunction. -/
def Conjunction.text : Conjunction → String
  | .last p => p.text
  | .and p rest => p.text ++ " AND " ++ rest.text

/-- The text of a primary. -/
def Primary.text : Primary → String
  | .group e => "(" ++ e.text ++ ")"
  | .comparison c => c.text
  | .constant holds => constantText holds

end

/-! ## Comparisons -/

/-- The spelling of an operator ends where the operand begins. -/
theorem Operator.token_append_inj {op op' : Operator} {s t : String}
    (h : op.token ++ (" " ++ s) = op'.token ++ (" " ++ t)) : op = op' ∧ s = t := by
  have hchars := congrArg String.toList h
  cases op <;> cases op' <;> simp [token] at hchars ⊢ <;> exact String.toList_inj.mp hchars

/-- The placeholders of a list are read off up to its closing parenthesis. -/
theorem placeholders_append_inj {ms ns : List Nat} {s t : String} (hm : ms ≠ []) (hn : ns ≠ [])
    (h : placeholders ms ++ (")" ++ s) = placeholders ns ++ (")" ++ t)) : ms = ns ∧ s = t := by
  have hclose : Clash ", " ")" := by decide
  obtain ⟨hns, hst⟩ := readsOff_placeholder.separated bounded_comma hm hn (fun _ _ => trivial)
    (fun _ _ => trivial) (bounded_close s) (hclose.not_startsWith s) (bounded_close t)
    (hclose.not_startsWith t) h
  exact ⟨hns, (String.append_right_inj ")").mp hst⟩

/-- The column and the operator of a comparison are read off its text. -/
theorem Comparison.operandText_append_eq {c c' : Comparison} {s t : String}
    (h : c.text ++ s = c'.text ++ t) :
    c.column = c'.column ∧ c.operator = c'.operator ∧
      c.operandText ++ s = c'.operandText ++ t := by
  simp only [text, String.append_assoc] at h
  obtain ⟨hcolumn, h⟩ := c.column.property.isWord.append_inj c'.column.property.isWord
    (bounded_space _) (bounded_space _) h
  obtain ⟨hop, h⟩ := Operator.token_append_inj ((String.append_right_inj " ").mp h)
  exact ⟨Subtype.ext hcolumn, hop, h⟩

/-- A comparison is read off: its operator says whether a list is to come. -/
theorem Comparison.text_append_inj {c c' : Comparison} {s t : String} (hs : Bounded s)
    (ht : Bounded t) (h : c.text ++ s = c'.text ++ t) : c = c' ∧ s = t := by
  obtain ⟨hcolumn, hop, h⟩ := operandText_append_eq h
  cases c with
  | scalar column op takesOne n =>
    cases c' with
    | scalar column' op' takesOne' n' =>
      obtain ⟨rfl, hst⟩ := readsOff_placeholder n n' s t trivial trivial hs ht h
      cases hcolumn
      cases hop
      exact ⟨rfl, hst⟩
    | member column' op' takesList first rest =>
      cases hop
      exact absurd (takesOne.symm.trans takesList) Bool.false_ne_true
  | member column op takesList first rest =>
    cases c' with
    | scalar column' op' takesOne n' =>
      cases hop
      exact absurd (takesOne.symm.trans takesList) Bool.false_ne_true
    | member column' op' takesList' first' rest' =>
      simp only [operandText, String.append_assoc] at h
      obtain ⟨hlist, hst⟩ := placeholders_append_inj (List.cons_ne_nil first rest)
        (List.cons_ne_nil first' rest') ((String.append_right_inj "(").mp h)
      cases hcolumn
      cases hop
      cases hlist
      exact ⟨rfl, hst⟩

/-! ## Predicates -/

/-- No conjunction goes on with the text. -/
def EndsConjunction (s : String) : Prop := Bounded s ∧ ¬ StartsWith " AND " s

/-- No disjunction goes on with the text. -/
def EndsDisjunction (s : String) : Prop := EndsConjunction s ∧ ¬ StartsWith " OR " s

/-- At the end of a text nothing goes on. -/
theorem endsDisjunction_empty : EndsDisjunction "" :=
  ⟨⟨bounded_empty, not_startsWith_empty (by decide)⟩, not_startsWith_empty (by decide)⟩

/-- At a closing parenthesis nothing goes on. -/
theorem endsDisjunction_close (s : String) : EndsDisjunction (")" ++ s) := by
  have hand : Clash " AND " ")" := by decide
  have hor : Clash " OR " ")" := by decide
  exact ⟨⟨bounded_close s, hand.not_startsWith s⟩, hor.not_startsWith s⟩

/-- A conjunction ends where the next one of a disjunction begins. -/
theorem endsConjunction_or (s : String) : EndsConjunction (" OR " ++ s) := by
  have hand : Clash " AND " " OR " := by decide
  exact ⟨bounded_append (by decide) s, hand.not_startsWith s⟩

/-- A primary ends where the next one of a conjunction begins. -/
theorem bounded_and (s : String) : Bounded (" AND " ++ s) :=
  bounded_append (by decide) s

/-- A constant is a word. -/
theorem isWord_constantText (holds : Bool) : IsWord (constantText holds) := by
  cases holds <;> decide

/-- A constant is no empty word. -/
theorem constantText_ne_empty (holds : Bool) : constantText holds ≠ "" := by
  cases holds <;> decide

/-- A constant has a sign in it that no name has. -/
theorem Column.ne_constantText (column : Column) (holds : Bool) :
    column.val ≠ constantText holds := by
  intro h
  have hsign : '=' ∈ column.val.toList := by
    rw [h]
    cases holds <;> decide
  exact absurd (List.all_eq_true.mp column.property.2.1 '=' hsign) (by decide)

/-- The two constants differ. -/
theorem constantText_injective {a b : Bool} (h : constantText a = constantText b) : a = b := by
  cases a <;> cases b <;> first | rfl | exact absurd h (by decide)

/-- A comparison does not begin with a parenthesis. -/
theorem Comparison.text_append_ne_open (c : Comparison) (s t : String) :
    c.text ++ s ≠ "(" ++ t := by
  rw [text, String.append_assoc, String.append_assoc]
  exact c.column.property.isWord.append_ne_open c.column.property.1 (bounded_space _)

/-- A constant does not begin with a parenthesis. -/
theorem constantText_append_ne_open (holds : Bool) {s : String} (hs : Bounded s) (t : String) :
    constantText holds ++ s ≠ "(" ++ t :=
  (isWord_constantText holds).append_ne_open (constantText_ne_empty holds) hs

/-- A comparison does not begin with a constant, because its column is none. -/
theorem Comparison.text_append_ne_constantText (c : Comparison) (holds : Bool) (s : String)
    {t : String} (ht : Bounded t) : c.text ++ s ≠ constantText holds ++ t := by
  intro h
  rw [text, String.append_assoc, String.append_assoc] at h
  exact c.column.ne_constantText holds (c.column.property.isWord.append_inj
    (isWord_constantText holds) (bounded_space _) ht h).1

mutual

/-- A disjunction is read off a text that goes on with no disjunction. -/
theorem Disjunction.text_append_inj {s t : String} (hs : EndsDisjunction s)
    (ht : EndsDisjunction t) : (e e' : Disjunction) → e.text ++ s = e'.text ++ t → e = e' ∧ s = t
  | .last c, .last c', h => by
    obtain ⟨rfl, hst⟩ := c.text_append_inj hs.1 ht.1 c' h
    exact ⟨rfl, hst⟩
  | .last c, .or c' rest', h => by
    -- Read as one conjunction, both begin alike; the first would then go on with ` OR `.
    simp only [Disjunction.text, String.append_assoc] at h
    obtain ⟨-, hst⟩ := c.text_append_inj hs.1 (endsConjunction_or _) c' h
    exact absurd ⟨_, hst⟩ hs.2
  | .or c rest, .last c', h => by
    simp only [Disjunction.text, String.append_assoc] at h
    obtain ⟨-, hst⟩ := c.text_append_inj (endsConjunction_or _) ht.1 c' h
    exact absurd ⟨_, hst.symm⟩ ht.2
  | .or c rest, .or c' rest', h => by
    simp only [Disjunction.text, String.append_assoc] at h
    obtain ⟨rfl, hrest⟩ := c.text_append_inj (endsConjunction_or _) (endsConjunction_or _) c' h
    obtain ⟨rfl, hst⟩ :=
      rest.text_append_inj hs ht rest' ((String.append_right_inj " OR ").mp hrest)
    exact ⟨rfl, hst⟩

/-- A conjunction is read off a text that goes on with no conjunction. -/
theorem Conjunction.text_append_inj {s t : String} (hs : EndsConjunction s)
    (ht : EndsConjunction t) : (c c' : Conjunction) → c.text ++ s = c'.text ++ t → c = c' ∧ s = t
  | .last p, .last p', h => by
    obtain ⟨rfl, hst⟩ := p.text_append_inj hs.1 ht.1 p' h
    exact ⟨rfl, hst⟩
  | .last p, .and p' rest', h => by
    simp only [Conjunction.text, String.append_assoc] at h
    obtain ⟨-, hst⟩ := p.text_append_inj hs.1 (bounded_and _) p' h
    exact absurd ⟨_, hst⟩ hs.2
  | .and p rest, .last p', h => by
    simp only [Conjunction.text, String.append_assoc] at h
    obtain ⟨-, hst⟩ := p.text_append_inj (bounded_and _) ht.1 p' h
    exact absurd ⟨_, hst.symm⟩ ht.2
  | .and p rest, .and p' rest', h => by
    simp only [Conjunction.text, String.append_assoc] at h
    obtain ⟨rfl, hrest⟩ := p.text_append_inj (bounded_and _) (bounded_and _) p' h
    obtain ⟨rfl, hst⟩ :=
      rest.text_append_inj hs ht rest' ((String.append_right_inj " AND ").mp hrest)
    exact ⟨rfl, hst⟩

/-- A primary is read off by its first word, or by the parenthesis before it. -/
theorem Primary.text_append_inj {s t : String} (hs : Bounded s) (ht : Bounded t) :
    (p p' : Primary) → p.text ++ s = p'.text ++ t → p = p' ∧ s = t
  | .group e, .group e', h => by
    simp only [Primary.text, String.append_assoc] at h
    obtain ⟨rfl, hst⟩ := e.text_append_inj (endsDisjunction_close s) (endsDisjunction_close t) e'
      ((String.append_right_inj "(").mp h)
    exact ⟨rfl, (String.append_right_inj ")").mp hst⟩
  | .group e, .comparison c, h => by
    simp only [Primary.text, String.append_assoc] at h
    exact absurd h.symm (c.text_append_ne_open _ _)
  | .group e, .constant holds, h => by
    simp only [Primary.text, String.append_assoc] at h
    exact absurd h.symm (constantText_append_ne_open holds ht _)
  | .comparison c, .group e, h => by
    simp only [Primary.text, String.append_assoc] at h
    exact absurd h (c.text_append_ne_open _ _)
  | .comparison c, .comparison c', h => by
    obtain ⟨rfl, hst⟩ := Comparison.text_append_inj hs ht h
    exact ⟨rfl, hst⟩
  | .comparison c, .constant holds, h => absurd h (c.text_append_ne_constantText holds s ht)
  | .constant holds, .group e, h => by
    simp only [Primary.text, String.append_assoc] at h
    exact absurd h (constantText_append_ne_open holds hs _)
  | .constant holds, .comparison c, h => absurd h.symm (c.text_append_ne_constantText holds t hs)
  | .constant holds, .constant holds', h => by
    obtain ⟨hword, hst⟩ :=
      (isWord_constantText holds).append_inj (isWord_constantText holds') hs ht h
    cases constantText_injective hword
    exact ⟨rfl, hst⟩

end

/-- A text has at most one parse. -/
theorem Disjunction.text_injective {e e' : Disjunction} (h : e.text = e'.text) : e = e' := by
  have hend : e.text ++ "" = e'.text ++ "" := by rw [h]
  exact (e.text_append_inj endsDisjunction_empty endsDisjunction_empty e' hend).1

end SqlDraft
