import SqlDraft.Proofs.Predicate.Grammar

/-!
# Truth of conditions and of predicates

A valuation says which atomic comparisons hold. Under a valuation a condition is true or false by
its tree, and a predicate by its parse and the values that its placeholders stand for.
-/

namespace SqlDraft

/-- Which comparisons of a column hold, by the spelling of the operator and by the operands. -/
abbrev Valuation := String → String → List Value → Bool

/-! ## Conditions -/

/-- No list holds nothing, and every value is outside of it. -/
def Operand.eval (column : String) : Operand → Valuation → Bool
  | .literal value, v => v column Operator.eq.token [value]
  | .compare op value, v =>
    if op.takesList then
      if value.items.isEmpty then op = .notIn else v column op.token value.items
    else v column op.token [value]

/-- All comparisons of a term have to hold. -/
def Term.eval (t : Term) (v : Valuation) : Bool := t.entries.all fun entry => entry.2.eval entry.1 v

namespace Condition

mutual

/-- Whether a condition holds. -/
def eval : Condition → Valuation → Bool
  | .term t, v => Term.eval t v
  | .and children, v => everyHolds children v
  | .or children, v => someHolds children v

/-- Whether all conditions of a list hold. -/
def everyHolds : List Condition → Valuation → Bool
  | [], _ => true
  | c :: rest, v => eval c v && everyHolds rest v

/-- Whether one condition of a list holds. -/
def someHolds : List Condition → Valuation → Bool
  | [], _ => false
  | c :: rest, v => eval c v || someHolds rest v

end

/-- Conditions hold together if each of them does. -/
theorem everyHolds_eq_all (cs : List Condition) (v : Valuation) :
    everyHolds cs v = cs.all fun c => c.eval v := by
  induction cs with
  | nil => rfl
  | cons c rest ih => rw [everyHolds, ih, List.all_cons]

/-- One of some conditions holds if any of them does. -/
theorem someHolds_eq_any (cs : List Condition) (v : Valuation) :
    someHolds cs v = cs.any fun c => c.eval v := by
  induction cs with
  | nil => rfl
  | cons c rest ih => rw [someHolds, ih, List.any_cons]

mutual

/-- The columns that a condition names. -/
def columns : Condition → List String
  | .term t => t.keys
  | .and children | .or children => columnsOfAll children

/-- The columns that the conditions of a list name. -/
def columnsOfAll : List Condition → List String
  | [] => []
  | c :: rest => columns c ++ columnsOfAll rest

end

/-- Every column of a condition stands in a predicate as it is. -/
def PlainColumns (c : Condition) : Prop := ∀ column ∈ c.columns, IsPlain connectives column

instance (c : Condition) : Decidable c.PlainColumns :=
  inferInstanceAs (Decidable (∀ column ∈ c.columns, IsPlain connectives column))

end Condition

/-! ## Predicates -/

/-- The value that a placeholder stands for; the first has number one. -/
def parameter (params : List Value) : Nat → Option Value
  | 0 => none
  | n + 1 => params[n]?

/-- Whether a comparison holds, unless it has a placeholder that stands for nothing. -/
def Comparison.eval (c : Comparison) (params : List Value) (v : Valuation) : Option Bool := do
  let operands ← c.numbers.mapM (parameter params)
  return v c.column.val c.operator.token operands

mutual

/-- Whether a disjunction holds. -/
def Disjunction.eval : Disjunction → List Value → Valuation → Option Bool
  | .last c, params, v => c.eval params v
  | .or c rest, params, v => do
    let first ← c.eval params v
    let others ← rest.eval params v
    return first || others

/-- Whether a conjunction holds. -/
def Conjunction.eval : Conjunction → List Value → Valuation → Option Bool
  | .last p, params, v => p.eval params v
  | .and p rest, params, v => do
    let first ← p.eval params v
    let others ← rest.eval params v
    return first && others

/-- Whether a primary holds. -/
def Primary.eval : Primary → List Value → Valuation → Option Bool
  | .group e, params, v => e.eval params v
  | .comparison c, params, v => c.eval params v
  | .constant holds, _, _ => some holds

end

mutual

/-- The numbers of the placeholders in order. -/
def Disjunction.numbers : Disjunction → List Nat
  | .last c => c.numbers
  | .or c rest => c.numbers ++ rest.numbers

/-- The numbers of the placeholders of a conjunction. -/
def Conjunction.numbers : Conjunction → List Nat
  | .last p => p.numbers
  | .and p rest => p.numbers ++ rest.numbers

/-- The numbers of the placeholders of a primary. A constant has none. -/
def Primary.numbers : Primary → List Nat
  | .group e => e.numbers
  | .comparison c => c.numbers
  | .constant _ => []

end

/-! ## Conjunctions side by side -/

namespace Conjunction

/-- A conjunction followed by another one. -/
def append : Conjunction → Conjunction → Conjunction
  | .last p, d => .and p d
  | .and p rest, d => .and p (append rest d)

/-- Conjunctions side by side are written with one more connective between them. -/
theorem text_append : (c d : Conjunction) → (c.append d).text = c.text ++ " AND " ++ d.text
  | .last p, d => rfl
  | .and p rest, d => by
    rw [append, text, text, text_append rest d]
    simp only [String.append_assoc]

/-- Conjunctions side by side have the placeholders of the first, then those of the second. -/
theorem numbers_append : (c d : Conjunction) → (c.append d).numbers = c.numbers ++ d.numbers
  | .last p, d => rfl
  | .and p rest, d => by rw [append, numbers, numbers, numbers_append rest d, List.append_assoc]

/-- Conjunctions side by side hold if both do. -/
theorem eval_append (params : List Value) (v : Valuation) : (c d : Conjunction) →
    (c.append d).eval params v = do
      let first ← c.eval params v
      let others ← d.eval params v
      return first && others
  | .last p, d => rfl
  | .and p rest, d => by
    rw [append, eval, eval, eval_append params v rest d]
    simp only [bind_assoc, pure_bind, Bool.and_assoc]

end Conjunction

end SqlDraft
