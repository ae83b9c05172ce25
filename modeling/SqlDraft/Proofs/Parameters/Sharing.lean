import SqlDraft.Proofs.Parameters.Leaves
import SqlDraft.Proofs.Writing.Numbering

/-!
# A shared parameter list

Operations that share a parameter list only add to it: each appends the values of its own template,
and numbers its placeholders from the first free number on. So what a run collects is what its steps
contribute, in order, and a step answers what it would answer on a fresh list, its placeholders
moved up by the number of values that the list holds by then.
-/

namespace SqlDraft

namespace Template

/-- Templates are numbered throughout when they are filled one after the other. -/
theorem run_mapM_fill_numbering (templates : List Template) (p : Parameters) :
    (templates.mapM (fill Writer.numbering)).run p =
      pure (numberedAll (p.size + 1) templates, ⟨p.values ++ templates.flatMap values⟩) := by
  induction templates generalizing p with
  | nil =>
    rw [List.mapM_nil, StateT.run_pure, numberedAll, List.flatMap_nil, List.append_nil]
  | cons t rest ih =>
    have hsize : (p.write t).2.size + 1 = p.size + 1 + t.values.length := by
      rw [Parameters.size, Parameters.values_write, List.length_append, Parameters.size]
      omega
    rw [List.mapM_cons, StateT.run_bind, run_fill_numbering, pure_bind, StateT.run_bind, ih,
      pure_bind, StateT.run_pure, hsize, Parameters.values_write, List.append_assoc]
    rfl

end Template

open Template

/-! ## What a step writes and adds -/

namespace ParameterStep

/-- The values that a step adds. -/
def contributed : ParameterStep → List Value
  | .push v | .value v => [v]
  | .list vs => vs
  | .condition c => c.leaves
  | .conditions cs => Condition.leavesOfAll cs

/-- Whether a step only adds a value and writes nothing. -/
def isPush : ParameterStep → Bool
  | .push _ => true
  | _ => false

/-- The templates of the texts that a step writes. -/
def templates : ParameterStep → List Template
  | .push _ => []
  | .value v => [[.slot v]]
  | .list vs => [Template.list vs]
  | .condition c => [c.template]
  | .conditions cs => cs.map Condition.template

/-- What a step answers if the next placeholder has the given number. -/
def answer (next : Nat) : ParameterStep → ParameterAnswer
  | .push _ => .number next
  | .value v => .text (numbered next [.slot v])
  | .list vs => .text ((Template.list vs).numbered next)
  | .condition c => .text (c.template.numbered next)
  | .conditions cs => .texts (numberedAll next (cs.map Condition.template))

end ParameterStep

/-- The texts of an answer. -/
def ParameterAnswer.written : ParameterAnswer → List String
  | .number _ => []
  | .text s => [s]
  | .texts ss => ss

/-- Where a list holds some values, an answer is the one on a fresh list with each placeholder `$j`
moved up by as many numbers. The fragments between the placeholders are the same. -/
inductive ParameterAnswer.MovedUp (held placeholders : Nat) :
    ParameterAnswer → ParameterAnswer → Prop
  | number : MovedUp held placeholders (.number 1) (.number (held + 1))
  | text (first : String) (rest : List String) (h : rest.length = placeholders) :
    MovedUp held placeholders (.text (weave first (placeholdersFrom 1 placeholders) rest))
      (.text (weave first (placeholdersFrom (held + 1) placeholders) rest))
  | texts (shapes : List (String × List String)) (h : gaps shapes = placeholders) :
    MovedUp held placeholders (.texts (weaveAll shapes (placeholdersFrom 1 placeholders)))
      (.texts (weaveAll shapes (placeholdersFrom (held + 1) placeholders)))

/-- Templates of conditions have the leaves of the conditions. -/
theorem Condition.flatMap_values_map_template (cs : List Condition) :
    (cs.map template).flatMap values = leavesOfAll cs := by
  rw [← templates_eq_map, flatMap_values_templates]

namespace ParameterStep

/-- What a step writes has a slot for each value that it adds. -/
theorem flatMap_values_templates {s : ParameterStep} (h : s.isPush = false) :
    s.templates.flatMap Template.values = s.contributed := by
  cases s with
  | push v => cases h
  | value v => rfl
  | list vs => rw [templates, List.flatMap_singleton, values_list, contributed]
  | condition c => rw [templates, List.flatMap_singleton, c.values_template, contributed]
  | conditions cs => exact Condition.flatMap_values_map_template cs

/-- The texts of an answer are the templates of the step, numbered throughout. -/
theorem written_answer (s : ParameterStep) (next : Nat) :
    (s.answer next).written = numberedAll next s.templates := by
  cases s <;> rfl

/-- The placeholders of an answer move up with the number of the first of them. -/
theorem movedUp_answer (s : ParameterStep) (held : Nat) :
    ParameterAnswer.MovedUp held s.contributed.length (s.answer 1) (s.answer (held + 1)) := by
  have htext (t : Template) (ht : t.values = s.contributed) :
      ParameterAnswer.MovedUp held s.contributed.length (.text (t.numbered 1))
        (.text (t.numbered (held + 1))) := by
    rw [numbered_eq_weave, numbered_eq_weave, ht]
    exact .text t.leading t.trailing (by rw [length_trailing, ht])
  cases s with
  | push v => exact .number
  | value v => exact htext [.slot v] rfl
  | list vs => exact htext (Template.list vs) (values_list vs)
  | condition c => exact htext c.template c.values_template
  | conditions cs =>
    have hvalues := Condition.flatMap_values_map_template cs
    rw [answer, answer, numberedAll_eq_weaveAll, numberedAll_eq_weaveAll, hvalues]
    exact .texts (shapes (cs.map Condition.template)) (by rw [gaps_shapes, hvalues, contributed])

end ParameterStep

namespace Parameters

/-- A step appends what it contributes, and numbers from the first free number on. -/
theorem step_eq (p : Parameters) (s : ParameterStep) :
    p.step s = (s.answer (p.size + 1), ⟨p.values ++ s.contributed⟩) := by
  -- A step that writes one text is the filling of one template.
  have hfill (t : Template) :
      ((fill Writer.numbering t).run p).run =
        (t.numbered (p.size + 1), ⟨p.values ++ t.values⟩) := by
    rw [run_fill_numbering]
    rfl
  cases s with
  | push v =>
    have hsize : (p.push v).size = p.size + 1 := by
      rw [push, size, List.length_append, List.length_singleton, size]
    rw [step, hsize]
    rfl
  | value v => rw [step, ← fill_slot, hfill]; rfl
  | list vs => rw [step, ← fill_list, hfill, values_list]; rfl
  | condition c => rw [step, c.write_eq_fill, hfill, c.values_template]; rfl
  | conditions cs =>
    rw [step, Condition.writeAll_eq_mapM_fill, run_mapM_fill_numbering,
      Condition.flatMap_values_map_template]
    rfl

/-- A step adds what it contributes. -/
theorem values_step (p : Parameters) (s : ParameterStep) :
    (p.step s).2.values = p.values ++ s.contributed := by
  rw [step_eq]

/-! ## Runs -/

/-- A run makes its first step, and the others after it. -/
theorem run_cons (p : Parameters) (s : ParameterStep) (rest : List ParameterStep) :
    p.run (s :: rest) =
      ((p.step s).1 :: ((p.step s).2.run rest).1, ((p.step s).2.run rest).2) := rfl

/-- A run goes on with the list that the steps before have left. -/
theorem run_append (p : Parameters) (before later : List ParameterStep) :
    p.run (before ++ later) =
      ((p.run before).1 ++ ((p.run before).2.run later).1, ((p.run before).2.run later).2) := by
  induction before generalizing p with
  | nil => rfl
  | cons s rest ih => rw [List.cons_append, run_cons, ih, run_cons, List.cons_append]

/-- A run has one answer for each step. -/
theorem length_run (p : Parameters) (steps : List ParameterStep) :
    (p.run steps).1.length = steps.length := by
  induction steps generalizing p with
  | nil => rfl
  | cons s rest ih => rw [run_cons, List.length_cons, List.length_cons, ih]

/-- What a run adds is what its steps contribute, in order. -/
theorem values_run (p : Parameters) (steps : List ParameterStep) :
    (p.run steps).2.values = p.values ++ steps.flatMap ParameterStep.contributed := by
  induction steps generalizing p with
  | nil => rw [run, List.flatMap_nil, List.append_nil]
  | cons s rest ih =>
    rw [run_cons, ih, values_step, List.flatMap_cons, List.append_assoc]

/-- Without a step that only adds a value, the texts of a run are numbered throughout. -/
theorem written_run (p : Parameters) {steps : List ParameterStep}
    (h : ∀ s ∈ steps, s.isPush = false) :
    (p.run steps).1.flatMap ParameterAnswer.written =
      numberedAll (p.size + 1) (steps.flatMap ParameterStep.templates) := by
  induction steps generalizing p with
  | nil => rfl
  | cons s rest ih =>
    obtain ⟨hs, hrest⟩ := List.forall_mem_cons.mp h
    have hsize : (p.step s).2.size + 1 =
        p.size + 1 + (s.templates.flatMap Template.values).length := by
      rw [size, values_step, List.length_append, ParameterStep.flatMap_values_templates hs, size]
      omega
    rw [run_cons, List.flatMap_cons, ih _ hrest, hsize, List.flatMap_cons, numberedAll_append,
      step_eq, ParameterStep.written_answer]

/-- Operations on one list, whatever they are and in whatever order, collect what they contribute
and never touch a value that is there. Each answers what it would answer on a fresh list, with its
placeholders moved up by the number of values held before it, and adding a value answers the new
number of values. If every step writes what it adds, the placeholders of all answers are those from
`$1` to the number of values, in order and each of them once. -/
theorem shared_run (steps : List ParameterStep) :
    (empty.run steps).2.values = steps.flatMap ParameterStep.contributed ∧
    (∀ before s later, steps = before ++ s :: later →
      let held := (empty.run before).2
      held.values <+: (empty.run steps).2.values ∧
      (empty.run steps).1[before.length]? = some (held.step s).1 ∧
      (s.isPush = true → (held.step s).1 = .number (held.step s).2.size) ∧
      ParameterAnswer.MovedUp held.size s.contributed.length (empty.step s).1 (held.step s).1) ∧
    ((∀ s ∈ steps, s.isPush = false) →
      ∃ shapes, gaps shapes = (empty.run steps).2.size ∧
        (empty.run steps).1.flatMap ParameterAnswer.written =
          weaveAll shapes (placeholdersFrom 1 (empty.run steps).2.size)) := by
  have hvalues : (empty.run steps).2.values = steps.flatMap ParameterStep.contributed :=
    values_run empty steps
  have hsize : (empty.run steps).2.size = (steps.flatMap ParameterStep.contributed).length := by
    rw [size, hvalues]
  refine ⟨hvalues, ?_, ?_⟩
  · rintro before s later rfl held
    refine ⟨?_, ?_, ?_, ?_⟩
    · rw [run_append]
      exact ⟨_, (values_run held (s :: later)).symm⟩
    · rw [run_append, List.getElem?_append_right (length_run empty before).le, length_run,
        Nat.sub_self, run_cons]
      rfl
    · intro hpush
      cases s with
      | push v => rfl
      | value | list | condition | conditions => cases hpush
    · rw [step_eq, step_eq]
      exact s.movedUp_answer held.size
  · intro hwritten
    have hslots : (steps.flatMap ParameterStep.templates).flatMap Template.values =
        steps.flatMap ParameterStep.contributed := by
      rw [List.flatMap_assoc]
      exact List.flatMap_congr fun s hs => ParameterStep.flatMap_values_templates (hwritten s hs)
    refine ⟨shapes (steps.flatMap ParameterStep.templates), ?_, ?_⟩
    · rw [gaps_shapes, hslots, hsize]
    · rw [written_run empty hwritten, numberedAll_eq_weaveAll, hslots, hsize]
      rfl

/-- A condition, an addition, a list of conditions and a bare value on one list. -/
def mixedSteps : List ParameterStep := [
  .condition (.term (Keyed.empty.insert "id" (.compare .isIn (.list [.int 1, .int 2])))),
  .push (.text "$1"),
  .conditions [
    .or [.term (Keyed.empty.insert "tag" (.compare .isIn (.list []))),
      .term (Term.single "name" .null)],
    .term ∅],
  .value (.bool true)]

/-- What comes after the addition goes on behind it, and has the first numbers on a fresh list. -/
theorem shared_run_mixedSteps :
    (empty.run mixedSteps).1 =
      [.text "id IN ($1, $2)", .number 3, .texts ["(1=0 OR name = $4)", "1=1"], .text "$5"] ∧
    ParameterAnswer.MovedUp 3 1 (.texts ["(1=0 OR name = $1)", "1=1"])
      (.texts ["(1=0 OR name = $4)", "1=1"]) ∧
    ∃ shapes, gaps shapes = 2 ∧
      ["(1=0 OR name = $1)", "1=1", "$2"] = weaveAll shapes ["$1", "$2"] :=
  ⟨rfl, ((shared_run mixedSteps).2.1 (mixedSteps.take 2) _ _ rfl).2.2.2,
    (shared_run (mixedSteps.drop 2)).2.2 (by decide)⟩

end Parameters

end SqlDraft
