import SqlDraft.Condition.Json
import SqlDraft.Proofs.Description.Literals

/-!
# Descriptions of terms

A member of an object describes the comparison of a column: the column is its key, and it is
compared with a literal, or with the literal beside the symbol of an operator. A term is read from
an object if every member describes a comparison, and otherwise fails as its first member that
describes none.
-/

namespace SqlDraft

/-- The keys that name a group. -/
def IsGroupKey (key : String) : Prop := key = "$or" ∨ key = "$and"

instance (key : String) : Decidable (IsGroupKey key) := inferInstanceAs (Decidable (_ ∨ _))

/-- What a column is compared with: a literal, or the literal beside the symbol of an operator. -/
inductive Operand.DescribedBy : Json → Operand → Prop
  | literal {j : Json} {v : Value} (hj : j.Literal) (hv : Value.ofJson j = .ok v) :
      DescribedBy j (.literal v)
  | compare {op : Operator} {j : Json} {v : Value} (hj : j.Literal) (hv : Value.ofJson j = .ok v) :
      DescribedBy (.object [(op.symbol, j)]) (.compare op v)

/-- A member of an object describes the comparison of the column that its key names. -/
def Describes (member : String × Json) (entry : String × Operand) : Prop :=
  ¬ IsGroupKey member.1 ∧ entry.1 = member.1 ∧ Operand.DescribedBy member.2 entry.2

/-! ## Comparisons -/

/-- An operator is read from its symbol and from nothing else. -/
theorem Operator.ofSymbol_eq_ok_iff {s : String} {op : Operator} :
    ofSymbol s = .ok op ↔ op.symbol = s := by
  rw [← ofSymbol?_eq_some_iff, ofSymbol]
  cases ofSymbol? s <;> simp

/-- A text that is the symbol of no operator is refused by name. -/
theorem Operator.ofSymbol_eq_error_iff {s : String} {e : Error} :
    ofSymbol s = .error e ↔ (∀ op : Operator, op.symbol ≠ s) ∧ e = .unsupportedOperator s := by
  have hnone : ofSymbol? s = none ↔ ∀ op : Operator, op.symbol ≠ s := by
    simp only [ne_eq, ← ofSymbol?_eq_some_iff, Option.eq_none_iff_forall_ne_some]
  rw [← hnone, ofSymbol]
  cases ofSymbol? s <;> simp [eq_comm]

/-- The errors of what describes no condition. -/
def Error.OfDescription : Error → Prop
  | .unsupportedOperator _ | .invalidCondition _ => True
  | _ => False

namespace Condition

/-- The keys of groups are those that are read as groups. -/
theorem isSome_group?_iff {key : String} : (group? key).isSome ↔ IsGroupKey key := by
  rw [group?, IsGroupKey]
  by_cases hor : key = "$or"
  · simp [hor]
  · by_cases hand : key = "$and" <;> simp [hor, hand]

/-- An operand is read just from what describes it. -/
theorem operandOfJson_eq_ok_iff {column : String} {j : Json} {operand : Operand} :
    operandOfJson column j = .ok operand ↔ Operand.DescribedBy j operand := by
  constructor
  · intro h
    unfold operandOfJson at h
    split at h
    · next symbol j =>
      obtain ⟨v, hv, h⟩ := bind_eq_ok_iff.mp h
      obtain ⟨op, hop, h⟩ := bind_eq_ok_iff.mp h
      cases h
      rw [← Operator.ofSymbol_eq_ok_iff.mp hop]
      exact .compare (Value.exists_ofJson_iff.mp ⟨v, hv⟩) hv
    · cases h
    · obtain ⟨v, hv, rfl⟩ := map_eq_ok_iff.mp h
      exact .literal (Value.exists_ofJson_iff.mp ⟨v, hv⟩) hv
  · rintro (⟨hj, hv⟩ | ⟨hj, hv⟩)
    · cases hj <;> exact map_eq_ok_iff.mpr ⟨_, hv, rfl⟩
    · rw [operandOfJson, hv, Operator.ofSymbol_eq_ok_iff.mpr rfl]
      rfl

/-- An operand is refused for its symbol only after its literal has been read. -/
theorem operandOfJson_eq_unsupported_iff {column symbol : String} {j : Json} :
    operandOfJson column j = .error (.unsupportedOperator symbol) ↔
      ∃ operand, j = .object [(symbol, operand)] ∧ operand.Literal ∧
        ∀ op : Operator, op.symbol ≠ symbol := by
  constructor
  · intro h
    unfold operandOfJson at h
    split at h
    · next symbol' operand =>
      rcases bind_eq_error_iff.mp h with hv | ⟨v, hv, h⟩
      · cases (Value.ofJson_eq_error_iff.mp hv).2
      · rcases bind_eq_error_iff.mp h with hop | ⟨op, _, h⟩
        · obtain ⟨hsymbol, he⟩ := Operator.ofSymbol_eq_error_iff.mp hop
          cases he
          exact ⟨operand, rfl, Value.exists_ofJson_iff.mp ⟨v, hv⟩, hsymbol⟩
        · cases h
    · cases h
    · cases (Value.ofJson_eq_error_iff.mp (map_eq_error_iff.mp h)).2
  · rintro ⟨operand, rfl, hoperand, hsymbol⟩
    obtain ⟨v, hv⟩ := Value.exists_ofJson_iff.mpr hoperand
    rw [operandOfJson, hv, Operator.ofSymbol_eq_error_iff.mpr ⟨hsymbol, rfl⟩]
    rfl

/-- An operand is refused only with errors of descriptions. -/
theorem ofDescription_of_operandOfJson {column : String} {j : Json} {e : Error}
    (h : operandOfJson column j = .error e) : e.OfDescription := by
  unfold operandOfJson at h
  split at h
  · rcases bind_eq_error_iff.mp h with hv | ⟨v, _, h⟩
    · rw [(Value.ofJson_eq_error_iff.mp hv).2]
      trivial
    · rcases bind_eq_error_iff.mp h with hop | ⟨op, _, h⟩
      · rw [(Operator.ofSymbol_eq_error_iff.mp hop).2]
        trivial
      · cases h
  · cases h
    trivial
  · rw [(Value.ofJson_eq_error_iff.mp (map_eq_error_iff.mp h)).2]
    trivial

/-! ## Terms -/

/-- Reads a member of an object that describes a term. -/
def entryOfMember (member : String × Json) : Except Error (String × Operand) :=
  if IsGroupKey member.1 then .error (.invalidCondition (.groupNotAlone member.1))
  else (operandOfJson member.1 member.2).map fun operand => (member.1, operand)

/-- Members are read one by one, and written into the term when all of them are. -/
theorem termOfMembers_eq (t : Term) (members : List (String × Json)) :
    termOfMembers t members = (members.mapM entryOfMember).map t.insertAll := by
  induction members generalizing t with
  | nil => rfl
  | cons member rest ih =>
    obtain ⟨column, j⟩ := member
    rw [termOfMembers, List.mapM_cons, entryOfMember]
    by_cases hkey : IsGroupKey column
    · rw [if_pos (isSome_group?_iff.mpr hkey), if_pos hkey]
      rfl
    · rw [if_neg fun h => hkey (isSome_group?_iff.mp h), if_neg hkey]
      cases ho : operandOfJson column j with
      | error e => rfl
      | ok operand =>
        change termOfMembers (t.insert column operand) rest = _
        rw [ih]
        cases rest.mapM entryOfMember <;> rfl

/-- A comparison is read just from a member that describes it. -/
theorem entryOfMember_eq_ok_iff {member : String × Json} {entry : String × Operand} :
    entryOfMember member = .ok entry ↔ Describes member entry := by
  rw [entryOfMember, Describes]
  by_cases hkey : IsGroupKey member.1
  · rw [if_pos hkey]
    exact iff_of_false nofun fun h => h.1 hkey
  · rw [if_neg hkey, map_eq_ok_iff, and_iff_right hkey]
    constructor
    · rintro ⟨operand, ho, rfl⟩
      exact ⟨rfl, operandOfJson_eq_ok_iff.mp ho⟩
    · rintro ⟨hcolumn, ho⟩
      exact ⟨entry.2, operandOfJson_eq_ok_iff.mpr ho, Prod.ext hcolumn.symm rfl⟩

/-- A comparison is refused for its symbol only if its key names a column. -/
theorem entryOfMember_eq_unsupported_iff {member : String × Json} {symbol : String} :
    entryOfMember member = .error (.unsupportedOperator symbol) ↔
      ¬ IsGroupKey member.1 ∧ ∃ operand, member.2 = .object [(symbol, operand)] ∧
        operand.Literal ∧ ∀ op : Operator, op.symbol ≠ symbol := by
  rw [entryOfMember, ← operandOfJson_eq_unsupported_iff]
  by_cases hkey : IsGroupKey member.1
  · rw [if_pos hkey]
    exact iff_of_false nofun fun h => h.1 hkey
  · rw [if_neg hkey, map_eq_error_iff, and_iff_right hkey]

/-- A comparison is refused only with errors of descriptions. -/
theorem ofDescription_of_entryOfMember {member : String × Json} {e : Error}
    (h : entryOfMember member = .error e) : e.OfDescription := by
  rw [entryOfMember] at h
  split at h
  · cases h
    trivial
  · exact ofDescription_of_operandOfJson (map_eq_error_iff.mp h)

/-- Members with different keys are the entries of a term if each describes one. -/
theorem termOfMembers_eq_ok_iff {members : List (String × Json)} {t : Term}
    (hkeys : (members.map Prod.fst).Nodup) :
    termOfMembers ∅ members = .ok t ↔ List.Forall₂ Describes members t.entries := by
  have hread (entries : List (String × Operand)) :
      members.mapM entryOfMember = .ok entries ↔ List.Forall₂ Describes members entries := by
    rw [mapM_eq_ok_iff]
    simp only [entryOfMember_eq_ok_iff]
  have hwritten (entries : List (String × Operand)) (h : List.Forall₂ Describes members entries) :
      ((∅ : Term).insertAll entries).entries = entries := by
    have hsame : members.map Prod.fst = entries.map Prod.fst :=
      map_eq_map_of_forall₂ (fun _ _ hentry => hentry.2.1.symm) h
    exact Keyed.entries_insertAll_of_nodup ∅ (hsame ▸ hkeys)
  rw [termOfMembers_eq, map_eq_ok_iff]
  constructor
  · rintro ⟨entries, hentries, rfl⟩
    have h := (hread entries).mp hentries
    rw [hwritten entries h]
    exact h
  · intro h
    exact ⟨t.entries, (hread t.entries).mpr h, Keyed.ext_entries (hwritten t.entries h)⟩

end Condition

end SqlDraft
