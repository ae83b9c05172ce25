import SqlDraft.Term

/-!
# Conditions

A condition is a term or a group of conditions, all or some of which have to hold.
-/

namespace SqlDraft

/-- A tree of groups over terms. -/
inductive Condition where
  | term (t : Term)
  | and (children : List Condition)
  | or (children : List Condition)

namespace Condition

mutual

/-- How many groups enclose the innermost part of a condition. -/
def groupDepth : Condition → Nat
  | .term _ => 0
  | .and children | .or children => 1 + greatestDepth children

/-- The greatest group depth in a list; none has depth zero. -/
def greatestDepth : List Condition → Nat
  | [] => 0
  | c :: rest => max (groupDepth c) (greatestDepth rest)

end

mutual

/-- Equality of trees with their order. -/
def equals : Condition → Condition → Bool
  | .term s, .term t => Term.equals s t
  | .and xs, .and ys => equalLists xs ys
  | .or xs, .or ys => equalLists xs ys
  | _, _ => false

/-- Equality of lists of conditions, one by one. -/
def equalLists : List Condition → List Condition → Bool
  | [], [] => true
  | x :: xs, y :: ys => equals x y && equalLists xs ys
  | _, _ => false

end

end Condition

end SqlDraft
