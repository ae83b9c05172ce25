import SqlDraft.Proofs.Drafting.Refusals
import SqlDraft.Proofs.Logging.Events

/-!
# Drafts run one after the other

An executor that runs drafts one after the other receives the texts of those that can be finished,
in order and once each. A draft that cannot be finished is answered with its own error and does not
reach the executor. Every other draft is answered as the executor answers its text in the state that
the texts before it have left, whatever the answers to those were.
-/

namespace SqlDraft

variable {σ : Type}

/-! ## Executors -/

namespace Executor

/-- The state of an executor after texts. What it answered to them plays no part. -/
def after (e : Executor σ) (s : σ) (texts : List String) : σ :=
  texts.foldl (fun s sql => (e.run s sql).2) s

/-- Texts in two parts lead from state to state one part after the other. -/
theorem after_append (e : Executor σ) (s : σ) (texts more : List String) :
    e.after s (texts ++ more) = e.after (e.after s texts) more :=
  List.foldl_append

/-- Texts that are kept are those that were given, and do not change the executor. -/
theorem after_recorded (e : Executor σ) (s : σ) (received texts : List String) :
    e.recorded.after (s, received) texts = (e.after s texts, received ++ texts) := by
  induction texts generalizing s received with
  | nil => rw [List.append_nil]; rfl
  | cons sql rest ih =>
    have hrest := ih (e.run s sql).2 (received ++ [sql])
    rw [List.append_assoc] at hrest
    exact hrest

end Executor

namespace Draft

/-! ## One draft -/

/-- The texts of the drafts that can be finished, in the order of the drafts. -/
def texts (drafts : List Draft) : List String :=
  drafts.filterMap fun d => d.build.result.toOption

/-- The texts of drafts in two parts are those of the first part and then of the second. -/
theorem texts_append (drafts more : List Draft) :
    texts (drafts ++ more) = texts drafts ++ texts more :=
  List.filterMap_append

/-- A draft that is refused does not reach the executor. -/
theorem execute_of_error {d : Draft} {fault : Error} (h : d.build.result = .error fault)
    (e : Executor σ) (s : σ) : d.execute e s = (⟨.error fault, []⟩, s) := by
  rcases d.build_logs with ⟨fault', hrefused⟩ | ⟨sql, events, hbuilt, -⟩
  · rw [hrefused] at h
    cases h
    rw [execute, hrefused]
  · rw [hbuilt] at h
    cases h

/-- A draft that is finished is answered by the executor. -/
theorem execute_of_ok {d : Draft} {sql : String} (h : d.build.result = .ok sql) (e : Executor σ)
    (s : σ) :
    d.execute e s =
      (⟨(e.run s sql).1.result, d.build.events ++ (e.run s sql).1.events⟩, (e.run s sql).2) := by
  rw [execute, h]

/-- A draft leaves the executor as its text does, if it has one. -/
theorem state_execute (e : Executor σ) (s : σ) (d : Draft) :
    (d.execute e s).2 = e.after s (texts [d]) := by
  cases h : d.build.result with
  | error fault => rw [execute_of_error h, texts, List.filterMap_cons_none (by rw [h]; rfl)]; rfl
  | ok sql => rw [execute_of_ok h, texts, List.filterMap_cons_some (by rw [h]; rfl)]; rfl

/-- Keeping the texts changes no answer. -/
theorem answer_recorded (e : Executor σ) (s : σ) (received : List String) (d : Draft) :
    (d.execute e.recorded (s, received)).1 = (d.execute e s).1 := by
  cases h : d.build.result with
  | error fault => rw [execute_of_error h, execute_of_error h]
  | ok sql => rw [execute_of_ok h, execute_of_ok h]; rfl

/-! ## Several drafts -/

/-- Drafts are executed from the first, the others in the state that it leaves. -/
theorem executeAll_cons (e : Executor σ) (s : σ) (d : Draft) (rest : List Draft) :
    executeAll e s (d :: rest) =
      ((d.execute e s).1 :: (executeAll e (d.execute e s).2 rest).1,
        (executeAll e (d.execute e s).2 rest).2) := rfl

/-- Executing drafts leaves the state that their texts lead to. -/
theorem state_executeAll (e : Executor σ) (s : σ) (drafts : List Draft) :
    (executeAll e s drafts).2 = e.after s (texts drafts) := by
  induction drafts generalizing s with
  | nil => rfl
  | cons d rest ih =>
    rw [executeAll_cons, ih, state_execute, ← Executor.after_append, ← texts_append]
    rfl

/-- Every draft is answered. -/
theorem length_answers (e : Executor σ) (s : σ) (drafts : List Draft) :
    (executeAll e s drafts).1.length = drafts.length := by
  induction drafts generalizing s with
  | nil => rfl
  | cons d rest ih => rw [executeAll_cons, List.length_cons, List.length_cons, ih]

/-- Drafts are answered in the state that the texts before them lead to. -/
theorem answers_append (e : Executor σ) (s : σ) (drafts more : List Draft) :
    (executeAll e s (drafts ++ more)).1 =
      (executeAll e s drafts).1 ++ (executeAll e (e.after s (texts drafts)) more).1 := by
  induction drafts generalizing s with
  | nil => rfl
  | cons d rest ih =>
    rw [List.cons_append, executeAll_cons, ih, executeAll_cons, List.cons_append, state_execute,
      ← Executor.after_append, ← texts_append]
    rfl

/-- An executor that keeps what it receives answers as it did. -/
theorem answers_recorded (e : Executor σ) (s : σ) (received : List String) (drafts : List Draft) :
    (executeAll e.recorded (s, received) drafts).1 = (executeAll e s drafts).1 := by
  induction drafts generalizing s received with
  | nil => rfl
  | cons d rest ih =>
    rw [executeAll_cons, executeAll_cons, answer_recorded, state_execute, state_execute,
      Executor.after_recorded, ih]

/-- A draft is answered in the state that the texts before it have left. -/
theorem answers_at (e : Executor σ) (s : σ) (before : List Draft) (d : Draft) (later : List Draft) :
    (executeAll e s (before ++ d :: later)).1[before.length]? =
      some (d.execute e (e.after s (texts before))).1 := by
  rw [answers_append, executeAll_cons, List.getElem?_append_right (length_answers e s before).le,
    length_answers, Nat.sub_self, List.getElem?_cons_zero]

/-- The answers to drafts that an executor runs one after the other, from the given state. -/
structure Answers (e : Executor σ) (s : σ) (drafts : List Draft)
    (answers : List (Logged Outcome)) : Prop where
  length_eq : answers.length = drafts.length
  /-- A draft that cannot be finished is answered with its own error, and nothing is logged. -/
  refused : ∀ before d later fault, drafts = before ++ d :: later →
    d.build.result = .error fault → answers[before.length]? = some ⟨.error fault, []⟩
  /-- The error of such a draft is what is wrong with it. -/
  faulty_iff : ∀ d ∈ drafts, ∀ fault, d.build.result = .error fault ↔ d.Faulty fault
  /-- Any other draft is answered as the executor answers its text. -/
  answered : ∀ before d later sql, drafts = before ++ d :: later → d.build.result = .ok sql →
    let answer := (e.run (e.after s (texts before)) sql).1
    answers[before.length]? = some ⟨answer.result, d.build.events ++ answer.events⟩
  /-- Later drafts are answered as if they were run on their own, in the state that the texts before
  them have left. -/
  later_eq : ∀ before later, drafts = before ++ later →
    answers.drop before.length = (executeAll e (e.after s (texts before)) later).1

/-- Each draft is answered by its own error or in the state the texts before it lead to. -/
theorem answers_executeAll (e : Executor σ) (s : σ) (drafts : List Draft) :
    Answers e s drafts (executeAll e s drafts).1 where
  length_eq := length_answers e s drafts
  refused before d later fault hsplit h := by
    rw [hsplit, answers_at, execute_of_error h]
  faulty_iff _ _ _ := build_eq_error_iff
  answered before d later sql hsplit h := by
    rw [hsplit, answers_at, execute_of_ok h]
  later_eq before later hsplit := by
    rw [hsplit, answers_append, List.drop_left' (length_answers e s before)]

/-- An executor that runs drafts one after the other receives the texts of those that can be
finished, in order and once each, and is left as these texts leave it. Each draft that cannot be
finished is answered with its own error, and each other draft with the executor's answer to its
text. -/
theorem executeAll_recorded (e : Executor σ) (s : σ) (drafts : List Draft) :
    ∃ answers, Answers e s drafts answers ∧
      executeAll e s drafts = (answers, e.after s (texts drafts)) ∧
      executeAll e.recorded (s, []) drafts =
        (answers, e.after s (texts drafts), texts drafts) := by
  refine ⟨_, answers_executeAll e s drafts, ?_, ?_⟩
  · rw [← state_executeAll]
  · refine Prod.ext (answers_recorded e s [] drafts) ?_
    rw [state_executeAll, Executor.after_recorded, List.nil_append]

/-- A deletion of all rows of a table. -/
def deletingFrom (table : String) : Draft := (empty Config.default).add (.deleteFrom table)

/-- A draft without clauses and one whose rows disagree, between two deletions. -/
def twoDeletions : List Draft :=
  [deletingFrom "users", empty Config.default, insertingAfterTwo otherRows, deletingFrom "items"]

/-- The server rejects the first deletion and performs the second, and receives nothing else. -/
theorem executeAll_recorded_twoDeletions :
    let c : Connection := ⟨true, [[.rejected "42P01" "no such table"], [.complete "DELETE 2"]], []⟩
    let run := executeAll Connection.executor.recorded (c, []) twoDeletions
    run.2.2 = ["DELETE FROM users", "DELETE FROM items"] ∧
    run.1[0]? = some ⟨.error (.query .database),
      [.built .delete 0 "DELETE FROM users", .executing "DELETE FROM users"]⟩ ∧
    (empty Config.default).Faulty (.invalidStatement .incomplete) ∧
    run.1[1]? = some ⟨.error (.invalidStatement .incomplete), []⟩ ∧
    (insertingAfterTwo otherRows).Faulty (.malformedInsertRows 2 ["id", "name"] ["age", "id"]) ∧
    run.1[2]? = some ⟨.error (.malformedInsertRows 2 ["id", "name"] ["age", "id"]), []⟩ ∧
    run.1[3]? = some ⟨.ok ⟨[], 2⟩,
      [.built .delete 0 "DELETE FROM items", .executing "DELETE FROM items"]⟩ := by
  intro c run
  obtain ⟨answers, hanswers, -, hrun⟩ := executeAll_recorded Connection.executor c twoDeletions
  have hreceived : run.2.2 = texts twoDeletions := congrArg (fun r => r.2.2) hrun
  have hrun : run.1 = answers := congrArg Prod.fst hrun
  have hempty : (empty Config.default).build.result = .error (.invalidStatement .incomplete) := rfl
  have hrows : (insertingAfterTwo otherRows).build.result =
      .error (.malformedInsertRows 2 ["id", "name"] ["age", "id"]) := rfl
  rw [hreceived, hrun]
  refine ⟨rfl, ?_, ?_, ?_, ?_, ?_, ?_⟩
  · exact hanswers.answered [] _ _ _ rfl rfl
  · exact (hanswers.faulty_iff _ (by simp [twoDeletions]) _).mp hempty
  · exact hanswers.refused [_] _ _ _ rfl hempty
  · exact (hanswers.faulty_iff _ (by simp [twoDeletions]) _).mp hrows
  · exact hanswers.refused [_, _] _ _ _ rfl hrows
  · exact hanswers.answered [_, _, _] _ _ _ rfl rfl

end Draft

end SqlDraft
