import SqlDraft.Proofs.Rows.Insertion

/-!
# Why a draft is refused

A draft is refused because no kind of statement has the clauses that it requires, because the first
row to insert has no columns, or because rows disagree that have to agree. There is no other reason,
and a draft that has one of these is refused for it.
-/

namespace SqlDraft

namespace Draft

/-- What is wrong with a draft that is refused. -/
inductive Faulty (d : Draft) : Error → Prop where
  /-- No kind of statement has the clauses that it requires. -/
  | incomplete (hselect : d.columns = [] ∨ d.source = none)
      (hupdate : d.assignments.entries = [] ∨ d.updated = none)
      (hinsert : d.rows = [] ∨ d.insertedInto = none) (hdelete : d.deletedFrom = none) :
      Faulty d (.invalidStatement .incomplete)
  | emptyFirstRow {table : String} {first : Row} {rest : List Row} (hkind : d.kind = .ok .insert)
      (htable : d.insertedInto = some table) (hrows : d.rows = first :: rest)
      (hempty : first.columns = []) : Faulty d (.invalidStatement (.emptyFirstRow table))
  /-- The row after the first ones that agree is the first that does not. -/
  | otherColumns {first row : Row} {rest before after : List Row} (hkind : d.kind = .ok .insert)
      (hstrict : d.config.strictRows = true) (hrows : d.rows = first :: rest)
      (hne : first.columns ≠ []) (hsplit : d.rows = before ++ row :: after)
      (hbefore : ∀ r ∈ before, r.HasColumns first.columns)
      (hrow : ¬ row.HasColumns first.columns) :
      Faulty d (.malformedInsertRows before.length first.columns row.columns)

/-! ## Drafts without a statement -/

/-- A list and an option that both have to be there. -/
private theorem guarded_eq_none_iff {α β γ : Type} {l : List α} {o : Option β} {f : β → γ} :
    (if l.isEmpty then none else o.map f) = none ↔ l = [] ∨ o = none := by
  cases l with
  | nil => exact iff_of_true rfl (.inl rfl)
  | cons a rest =>
    rw [List.isEmpty_cons, if_neg Bool.false_ne_true, Option.map_eq_none_iff]
    exact (or_iff_right (List.cons_ne_nil a rest)).symm

/-- A draft makes no statement just if of each kind it lacks a clause that the kind requires. -/
theorem statement?_eq_none_iff {d : Draft} :
    d.statement? = none ↔
      (d.columns = [] ∨ d.source = none) ∧ (d.assignments.entries = [] ∨ d.updated = none) ∧
        (d.rows = [] ∨ d.insertedInto = none) ∧ d.deletedFrom = none := by
  simp only [statement?, Option.orElse_eq_orElse, Option.orElse_eq_or, Option.or_eq_none_iff]
  refine and_congr guarded_eq_none_iff (and_congr guarded_eq_none_iff ?_)
  exact and_congr guarded_eq_none_iff Option.map_eq_none_iff

/-- There is one error for drafts that make no statement. -/
theorem statement_eq_error_iff {d : Draft} {e : Error} :
    d.statement = .error e ↔ d.statement? = none ∧ e = .invalidStatement .incomplete := by
  rw [statement]
  cases d.statement? with
  | none => simp [eq_comm]
  | some s => simp

/-! ## Reasons -/

/-- A draft that is refused has something wrong with it, which its error names. -/
theorem faulty_of_build {d : Draft} {e : Error} (h : d.build.result = .error e) : d.Faulty e := by
  cases hs : d.statement with
  | error e' =>
    have he : e = e' := by
      rw [(result_of_statement_error hs).1] at h
      exact (Except.error.inj h).symm
    obtain ⟨hnone, rfl⟩ := statement_eq_error_iff.mp (he ▸ hs)
    obtain ⟨hselect, hupdate, hinsert, hdelete⟩ := statement?_eq_none_iff.mp hnone
    exact .incomplete hselect hupdate hinsert hdelete
  | ok s =>
    rw [(result_of_statement hs).1, map_eq_error_iff] at h
    cases makes_of_statement hs with
    | select => cases h
    | update => cases h
    | delete => cases h
    | @insert table htable hrows =>
      have hkind : d.kind = .ok .insert := by
        rw [kind, hs]
        rfl
      obtain ⟨first, rest, hcons⟩ := List.exists_cons_of_ne_nil hrows
      rw [hcons, render_insert_cons] at h
      by_cases hempty : first.isEmpty = true
      · rw [if_pos hempty] at h
        cases h
        exact .emptyFirstRow hkind htable hcons (first.isEmpty_iff_keys.mp hempty)
      · rw [if_neg hempty, map_eq_error_iff, tuplesFrom_eq_error_iff first.nodup_columns] at h
        obtain ⟨hstrict, before, row, after, hsplit, hbefore, hrow, rfl⟩ := h
        rw [Nat.zero_add]
        exact .otherColumns hkind hstrict hcons
          (fun hnil => hempty (first.isEmpty_iff_keys.mpr hnil)) (hcons.trans hsplit) hbefore hrow

/-- A draft with something wrong is refused in both forms, and logs nothing. -/
theorem Faulty.refused {d : Draft} {e : Error} (h : d.Faulty e) : d.Refused e := by
  cases h with
  | incomplete hselect hupdate hinsert hdelete =>
    have hnone := statement?_eq_none_iff.mpr ⟨hselect, hupdate, hinsert, hdelete⟩
    exact result_of_statement_error (statement_eq_error_iff.mpr ⟨hnone, rfl⟩)
  | @emptyFirstRow table first rest hkind htable hrows hempty =>
    obtain ⟨table', first', rest', htable', hrows', hstatement⟩ := insertion_of_kind hkind
    obtain rfl := Option.some.inj (htable.symm.trans htable')
    obtain ⟨rfl, rfl⟩ := List.cons.inj (hrows.symm.trans hrows')
    refine refused_of_render hstatement ?_
    rw [render_insert_cons, if_pos (first.isEmpty_iff_keys.mpr hempty)]
  | @otherColumns first row rest before after hkind hstrict hrows hne hsplit hbefore hrow =>
    obtain ⟨table, first', rest', -, hrows', hstatement⟩ := insertion_of_kind hkind
    obtain ⟨rfl, rfl⟩ := List.cons.inj (hrows.symm.trans hrows')
    have hrefused : tuplesFrom true first.columns 0 (first :: rest) =
        .error (.malformedInsertRows before.length first.columns row.columns) := by
      rw [tuplesFrom_eq_error_iff first.nodup_columns]
      exact ⟨rfl, before, row, after, hrows.symm.trans hsplit, hbefore, hrow, by rw [Nat.zero_add]⟩
    refine refused_of_render hstatement ?_
    rw [hstrict, render_insert_cons, if_neg fun he => hne (first.isEmpty_iff_keys.mp he), hrefused]
    rfl

/-- A draft is refused for what is wrong with it. -/
theorem build_eq_error_iff {d : Draft} {e : Error} : d.build.result = .error e ↔ d.Faulty e :=
  ⟨faulty_of_build, fun h => h.refused.1⟩

end Draft

end SqlDraft
