import Mathlib.Data.List.SplitLengths
import SqlDraft.Proofs.Description.Terms
import SqlDraft.Proofs.Keyed.Writes
import SqlDraft.Proofs.Parameters.Leaves
import SqlDraft.Proofs.Writing.Numbering

/-!
# Terms and their histories

A term is made in steps, and a step is refused only if it names its operator by a symbol that there
is not. Whatever its history is, a term records the writes of the other steps. Its text has one
comparison for each of its columns, in their order, with the values or with placeholders that go on
from one comparison to the next.
-/

namespace SqlDraft

/-! ## Steps -/

/-- The symbols with the operators that they name. -/
def operatorSymbols : List (String × Operator) :=
  [("$eq", .eq), ("$ne", .ne), ("$gt", .gt), ("$gte", .gte), ("$lt", .lt), ("$lte", .lte),
    ("$in", .isIn), ("$nin", .notIn)]

/-- A symbol is looked up as it stands in the table. -/
theorem Operator.ofSymbol?_eq_lookup (symbol : String) :
    ofSymbol? symbol = operatorSymbols.lookup symbol := by
  have hlookup (ops : List Operator) :
      (ops.map fun op => (op.symbol, op)).lookup symbol =
        ops.find? fun op => op.symbol = symbol := by
    induction ops with
    | nil => rfl
    | cons op rest ih =>
      rw [List.map_cons, List.lookup_cons, List.find?_cons, ih]
      by_cases h : op.symbol = symbol
      · simp [h]
      · simp [h, beq_eq_false_iff_ne.mpr (Ne.symm h)]
  exact (hlookup all).symm

/-- A symbol stands for an operator if it is one of the table. -/
theorem Operator.isSome_ofSymbol?_iff {symbol : String} :
    (ofSymbol? symbol).isSome ↔ symbol ∈ operatorSymbols.map Prod.fst := by
  have hsymbols : operatorSymbols.map Prod.fst = all.map Operator.symbol := rfl
  rw [hsymbols, ofSymbol?, List.find?_isSome, List.mem_map]
  simp only [decide_eq_true_eq]

namespace TermStep

/-- The column and the operand that a step writes, unless the step is refused. -/
def write? : TermStep → Option (String × Operand)
  | .literal column value => some (column, .literal value)
  | .compare column op value => some (column, .compare op value)
  | .isIn column values => some (column, .compare .isIn (.list values))
  | .notIn column values => some (column, .compare .notIn (.list values))
  | .compareBySymbol column symbol value =>
    (operatorSymbols.lookup symbol).map fun op => (column, .compare op value)

/-- The error of a step that is refused. -/
def refusal? : TermStep → Option Error
  | .compareBySymbol _ symbol _ =>
    if symbol ∈ operatorSymbols.map Prod.fst then none else some (.unsupportedOperator symbol)
  | _ => none

end TermStep

namespace Term

/-- The error of a step that is refused, and the term after the step. A refused step leaves the term
as it was. -/
def attempt (t : Term) (s : TermStep) : Option Error × Term :=
  match t.step s with
  | .ok t => (none, t)
  | .error e => (some e, t)

/-- Attempts steps one after the other. -/
def run (t : Term) : List TermStep → List (Option Error) × Term
  | [] => ([], t)
  | s :: rest =>
    let (error?, t) := t.attempt s
    let (errors, t) := run t rest
    (error? :: errors, t)

/-- A step makes the write that it stands for, or is refused. -/
theorem attempt_eq (t : Term) (s : TermStep) :
    t.attempt s = (s.refusal?, t.insertAll s.write?.toList) := by
  cases s with
  | literal column value => rfl
  | compare column op value => rfl
  | isIn column values => rfl
  | notIn column values => rfl
  | compareBySymbol column symbol value =>
    rw [attempt, step, Operator.ofSymbol, TermStep.refusal?, TermStep.write?,
      ← Operator.ofSymbol?_eq_lookup]
    cases h : Operator.ofSymbol? symbol with
    | none =>
      rw [if_neg fun hmem => by simpa [h] using Operator.isSome_ofSymbol?_iff.mpr hmem]
      rfl
    | some op =>
      rw [if_pos (Operator.isSome_ofSymbol?_iff.mp (by rw [h]; rfl))]
      rfl

/-- A run answers each step by itself, and all accepted steps are written in order. -/
theorem run_eq (t : Term) (steps : List TermStep) :
    t.run steps =
      (steps.map TermStep.refusal?, t.insertAll (steps.filterMap TermStep.write?)) := by
  induction steps generalizing t with
  | nil => rfl
  | cons s rest ih =>
    simp only [run, attempt_eq, ih, List.map_cons, List.filterMap_cons]
    cases s.write? <;> rfl

end Term

/-! ## Comparisons -/

namespace Operand

/-- The comparison of a column, with texts in the places of the values of its operand. There is one
text unless the operator takes a list. -/
def comparison (operand : Operand) (column : String) (texts : List String) : String :=
  match operand with
  | .literal _ => column ++ " = " ++ commaList texts
  | .compare .isIn _ => if texts = [] then "1=0" else column ++ " IN " ++ tupleText texts
  | .compare .notIn _ => if texts = [] then "1=1" else column ++ " NOT IN " ++ tupleText texts
  | .compare op _ => column ++ " " ++ op.token ++ " " ++ commaList texts

/-- A comparison with one value has its operator between column and value. -/
theorem comparison_of_takesOne {op : Operator} (h : op.takesList = false) (v : Value)
    (column : String) (texts : List String) :
    (compare op v).comparison column texts =
      column ++ " " ++ op.token ++ " " ++ commaList texts := by
  cases op with
  | isIn => cases h
  | notIn => cases h
  | _ => rfl

/-- A comparison with several values has them in parentheses behind its operator. -/
theorem comparison_of_takesList {op : Operator} (h : op.takesList = true) (v : Value)
    (column : String) {texts : List String} (hne : texts ≠ []) :
    (compare op v).comparison column texts =
      column ++ " " ++ op.token ++ " " ++ tupleText texts := by
  have hin : " IN " = " " ++ "IN" ++ " " := rfl
  have hnotIn : " NOT IN " = " " ++ "NOT IN" ++ " " := rfl
  cases op with
  | isIn => simp only [comparison, if_neg hne, hin, Operator.token, String.append_assoc]
  | notIn => simp only [comparison, if_neg hne, hnotIn, Operator.token, String.append_assoc]
  | _ => cases h

/-- Nothing is in the empty list, and everything is outside of it. -/
theorem comparison_nil {op : Operator} (h : op.takesList = true) (v : Value) (column : String) :
    (compare op v).comparison column [] = if op = .isIn then constantFalse else constantTrue := by
  cases op with
  | isIn => rfl
  | notIn => rfl
  | _ => cases h

/-- How an operand is written: a text with one value after it, a constant, or a text with a list of
values after it. -/
inductive Shape (operand : Operand) (column : String) : Prop where
  | scalar (head : String) (v : Value) (htemplate : operand.template column = [.text head, .slot v])
      (hleaves : operand.leaves = [v]) (h : ∀ text, operand.comparison column [text] = head ++ text)
  | constant (text : String) (htemplate : operand.template column = Template.ofText text)
      (hleaves : operand.leaves = []) (h : operand.comparison column [] = text)
  | list (head : String) (vs : List Value)
      (htemplate : operand.template column = .text head :: Template.list vs)
      (hleaves : operand.leaves = vs) (hne : vs ≠ [])
      (h : ∀ texts, texts ≠ [] → operand.comparison column texts = head ++ tupleText texts)

/-- Every operand compares in one of the shapes. -/
theorem shape (operand : Operand) (column : String) : operand.Shape column := by
  cases operand with
  | literal v =>
    refine .scalar (column ++ " = ") v rfl rfl fun text => ?_
    rw [comparison, commaList, String.intercalate_singleton]
  | compare op v =>
    cases hlist : op.takesList with
    | false =>
      refine .scalar (column ++ " " ++ op.token ++ " ") v ?_ ?_ fun text => ?_
      · rw [template, if_neg (ne_true_of_eq_false hlist)]
      · rw [leaves, if_neg (ne_true_of_eq_false hlist)]
      · rw [comparison_of_takesOne hlist, commaList, String.intercalate_singleton]
    | true =>
      by_cases hitems : v.items = []
      · refine .constant (if op = .isIn then constantFalse else constantTrue) ?_ ?_ ?_
        · rw [template, if_pos hlist, if_pos (List.isEmpty_iff.mpr hitems)]
        · rw [leaves, if_pos hlist, hitems]
        · exact comparison_nil hlist v column
      · refine .list (column ++ " " ++ op.token ++ " ") v.items ?_ ?_ hitems fun texts hne => ?_
        · rw [template, if_pos hlist, if_neg (List.isEmpty_iff.not.mpr hitems)]
        · rw [leaves, if_pos hlist]
        · exact comparison_of_takesList hlist v column hne

/-- The text of an operand with its values is the comparison of its column. -/
theorem inline_template (operand : Operand) (column : String) :
    (operand.template column).inline =
      operand.comparison column (operand.leaves.map Value.inline) := by
  rcases operand.shape column with
    ⟨head, v, htemplate, hleaves, h⟩ | ⟨text, htemplate, hleaves, h⟩ |
    ⟨head, vs, htemplate, hleaves, hne, h⟩
  · rw [htemplate, hleaves, List.map_singleton, h]
    simp only [Template.inline, String.append_empty]
  · rw [htemplate, hleaves, List.map_nil, h]
    exact String.append_empty
  · rw [htemplate, hleaves, h _ (List.map_eq_nil_iff.not.mpr hne), Template.inline,
      Template.inline_list]

/-- With placeholders the comparison has these in the places of the values. -/
theorem numbered_template (operand : Operand) (column : String) (first : Nat) :
    (operand.template column).numbered first =
      operand.comparison column (placeholdersFrom first operand.leaves.length) := by
  rcases operand.shape column with
    ⟨head, v, htemplate, hleaves, h⟩ | ⟨text, htemplate, hleaves, h⟩ |
    ⟨head, vs, htemplate, hleaves, hne, h⟩
  · rw [htemplate, hleaves]
    simp only [Template.numbered, String.append_empty]
    exact (h _).symm
  · rw [htemplate, hleaves]
    exact String.append_empty.trans h.symm
  · have hplaceholders : placeholdersFrom first vs.length ≠ [] := by
      rw [← List.length_pos_iff, length_placeholdersFrom]
      exact List.length_pos_iff.mpr hne
    rw [htemplate, hleaves, h _ hplaceholders, Template.numbered, Template.numbered_list]

end Operand

/-! ## Terms -/

namespace Term

open Template

/-- The texts of comparisons, each with as many of the consecutive placeholders as it has values. -/
theorem numberedAll_comparisons (entries : List (String × Operand)) (first : Nat) :
    numberedAll first (entries.map fun entry => entry.2.template entry.1) =
      List.zipWith (fun entry texts => entry.2.comparison entry.1 texts) entries
        ((entries.map fun entry => entry.2.leaves.length).splitLengths
          (placeholdersFrom first (entries.flatMap fun entry => entry.2.leaves).length)) := by
  induction entries generalizing first with
  | nil => rfl
  | cons entry rest ih =>
    have hwidth := length_placeholdersFrom first entry.2.leaves.length
    rw [List.map_cons, numberedAll, entry.2.numbered_template, entry.2.values_template, ih,
      List.map_cons, List.flatMap_cons, List.length_append, placeholdersFrom_add,
      List.splitLengths_cons, List.take_left' hwidth, List.drop_left' hwidth,
      List.zipWith_cons_cons]

/-- A term is written with one comparison for each of its columns, in their order. -/
structure Writes (t : Term) (p : Parameters) : Prop where
  inline_eq : (Condition.term t).inline = " AND ".intercalate
    (t.entries.map fun entry =>
      entry.2.comparison entry.1 (entry.2.leaves.map fun v => "'" ++ v.plainText ++ "'"))
  numbered_eq : (((Condition.term t).write Writer.numbering).run p).run.1 = " AND ".intercalate
    (List.zipWith (fun entry texts => entry.2.comparison entry.1 texts) t.entries
      ((t.values.map fun operand => operand.leaves.length).splitLengths
        (placeholdersFrom (p.size + 1) t.leaves.length)))

/-- A term with an entry writes its comparisons, whatever values are held before. -/
theorem writes_of_ne {t : Term} (h : t.entries ≠ []) (p : Parameters) : t.Writes p := by
  have htemplate : (Condition.term t).template =
      join " AND " (t.entries.map fun entry => entry.2.template entry.1) :=
    if_neg (List.isEmpty_iff.not.mpr h)
  refine ⟨?_, ?_⟩
  · rw [Condition.inline_eq, htemplate, inline_join, List.map_map]
    congr 1
    exact List.map_congr_left fun entry _ => entry.2.inline_template entry.1
  · rw [Condition.run_write_numbering, Parameters.write, htemplate, numbered_join_eq_numberedAll,
      numberedAll_comparisons, leaves, Keyed.values, List.flatMap_map, List.map_map]
    rfl

/-- Whatever the steps that a term was made in, those are refused that name no operator, with the
symbol that they name, and the term records the writes of the others: it has each column that one of
them wrote once, in the order of the first writes, with the operand of the last. Unless it has no
column, its text has one comparison for each of them, in the same order. -/
theorem run_records (steps : List TermStep) (p : Parameters) :
    (run ∅ steps).1 = steps.map TermStep.refusal? ∧
    (run ∅ steps).2.Records (steps.filterMap TermStep.write?) ∧
    ((run ∅ steps).2.entries ≠ [] → (run ∅ steps).2.Writes p) := by
  rw [run_eq]
  exact ⟨rfl, Keyed.records_ofList _, fun h => writes_of_ne h p⟩

/-- A column is compared again after others, and one step names no operator. -/
def comparedAgain : List TermStep :=
  [.eq "a" (.int 1), .compareBySymbol "b" "$like" (.text "x"),
    .compareBySymbol "c" "$nin" (.list []), .gt "a" (.int 2),
    .isIn "b" [.int 4, .text "$1"]]

/-- The refused step leaves no trace: its column comes where a later step names it. The empty list
is a constant, and has no placeholder. -/
theorem run_records_comparedAgain :
    let t := (run ∅ comparedAgain).2
    (run ∅ comparedAgain).1 = [none, some (.unsupportedOperator "$like"), none, none, none] ∧
    t.entries = [("a", .compare .gt (.int 2)), ("c", .compare .notIn (.list [])),
      ("b", .compare .isIn (.list [.int 4, .text "$1"]))] ∧
    t.keys = ["a", "c", "b"] ∧
    (Condition.term t).inline = "a > '2' AND 1=1 AND b IN ('4', '$1')" ∧
    (((Condition.term t).write Writer.numbering).run ⟨[.null]⟩).run.1 =
      "a > $2 AND 1=1 AND b IN ($3, $4)" := by
  obtain ⟨herrors, hrecords, hwrites⟩ := run_records comparedAgain ⟨[.null]⟩
  have hentries : (run ∅ comparedAgain).2.entries =
      [("a", .compare .gt (.int 2)), ("c", .compare .notIn (.list [])),
        ("b", .compare .isIn (.list [.int 4, .text "$1"]))] := rfl
  obtain ⟨hinline, hnumbered⟩ := hwrites (by rw [hentries]; exact List.cons_ne_nil _ _)
  exact ⟨herrors, hentries, hrecords.keys_eq, hinline, hnumbered⟩

end Term

end SqlDraft
