import SqlDraft.Proofs.Writing.Agreement

/-!
# Numbers that go on from text to text

Texts that are written one after the other share one numbering: the placeholders of each go on where
those of the one before it end. Put between the fragments of the texts they are consecutive.
-/

namespace SqlDraft

/-- Placeholders with consecutive numbers. -/
def placeholdersFrom (first count : Nat) : List String :=
  (List.range' first count).map placeholder

/-- There are as many placeholders as were asked for. -/
theorem length_placeholdersFrom (first count : Nat) :
    (placeholdersFrom first count).length = count := by
  rw [placeholdersFrom, List.length_map, List.length_range']

/-- The first placeholders, and those after them. -/
theorem placeholdersFrom_add (first count more : Nat) :
    placeholdersFrom first (count + more) =
      placeholdersFrom first count ++ placeholdersFrom (first + count) more := by
  rw [placeholdersFrom, placeholdersFrom, placeholdersFrom, ← List.map_append,
    List.range'_append_1]

/-- Texts between commas in parentheses. -/
def tupleText (texts : List String) : String := "(" ++ ", ".intercalate texts ++ ")"

/-! ## Several texts as fragments -/

/-- The number of gaps between the fragments of several texts, each of which is a first fragment and
the fragments that follow its gaps. -/
def gaps : List (String × List String) → Nat
  | [] => 0
  | (_, rest) :: others => rest.length + gaps others

/-- Puts fillers into the gaps of several texts, one after the other. -/
def weaveAll : List (String × List String) → List String → List String
  | [], _ => []
  | (first, rest) :: others, fillers =>
    weave first (fillers.take rest.length) rest :: weaveAll others (fillers.drop rest.length)

namespace Template

/-! ## Several templates -/

/-- Templates with placeholders, the first of which has the given number. -/
def numberedAll (first : Nat) : List Template → List String
  | [] => []
  | t :: rest => t.numbered first :: numberedAll (first + t.values.length) rest

/-- The fragments of templates. -/
def shapes (templates : List Template) : List (String × List String) :=
  templates.map fun t => (t.leading, t.trailing)

/-- The shapes of several templates begin with that of the first. -/
theorem shapes_cons (t : Template) (rest : List Template) :
    shapes (t :: rest) = (t.leading, t.trailing) :: shapes rest := rfl

/-- Templates have as many gaps as values. -/
theorem gaps_shapes (templates : List Template) :
    gaps (shapes templates) = (templates.flatMap values).length := by
  induction templates with
  | nil => rfl
  | cons t rest ih =>
    rw [shapes_cons, gaps, length_trailing, ih, List.flatMap_cons, List.length_append]

/-- Numbered throughout, templates are their fragments with consecutive placeholders between. -/
theorem numberedAll_eq_weaveAll (templates : List Template) (first : Nat) :
    numberedAll first templates =
      weaveAll (shapes templates)
        (placeholdersFrom first (templates.flatMap values).length) := by
  induction templates generalizing first with
  | nil => rfl
  | cons t rest ih =>
    have htake : t.trailing.length = (placeholdersFrom first t.values.length).length := by
      rw [length_placeholdersFrom, length_trailing]
    rw [numberedAll, ih, numbered_eq_weave, List.flatMap_cons, List.length_append,
      placeholdersFrom_add, shapes_cons, weaveAll, htake, List.take_left, List.drop_left]
    rfl

/-- Numbering goes on in the templates that follow. -/
theorem numberedAll_append (templates more : List Template) (first : Nat) :
    numberedAll first (templates ++ more) =
      numberedAll first templates ++
        numberedAll (first + (templates.flatMap values).length) more := by
  induction templates generalizing first with
  | nil => rfl
  | cons t rest ih =>
    rw [List.cons_append, numberedAll, numberedAll, ih, List.flatMap_cons, List.length_append,
      Nat.add_assoc, List.cons_append]

/-- Joined templates are numbered throughout. -/
theorem numbered_join_eq_numberedAll (separator : String) (templates : List Template)
    (first : Nat) :
    (join separator templates).numbered first =
      separator.intercalate (numberedAll first templates) := by
  induction templates generalizing first with
  | nil => rfl
  | cons t rest ih =>
    cases rest with
    | nil => rw [join, numberedAll, numberedAll, String.intercalate_singleton]
    | cons u rest =>
      have hrest := ih (first + t.values.length)
      simp only [join_cons_cons, numbered_append, numbered, hrest, numberedAll,
        String.intercalate_cons_cons, String.append_assoc]

/-- Slots between commas are consecutive placeholders. -/
theorem numbered_slots (vs : List Value) (first : Nat) :
    (join ", " (vs.map fun v => [.slot v])).numbered first =
      ", ".intercalate (placeholdersFrom first vs.length) := by
  have hslot (v : Value) (n : Nat) : numbered n [.slot v] = placeholder n := by
    rw [numbered, numbered, String.append_empty]
  rw [numbered_join hslot fun _ => rfl, placeholdersFrom, ← List.zipIdx_map_snd, List.map_map]
  rfl

/-- A list is the texts of its values between commas in parentheses. -/
theorem inline_list (vs : List Value) : (list vs).inline = tupleText (vs.map Value.inline) := by
  have hslots : (vs.map fun v => [Piece.slot v]).map inline = vs.map Value.inline := by
    rw [List.map_map]
    exact List.map_congr_left fun v _ => String.append_empty
  rw [list, List.cons_append, inline, inline_append, inline_join, hslots, tupleText,
    String.append_assoc]
  rfl

/-- With placeholders a list has these in the places of its values. -/
theorem numbered_list (vs : List Value) (first : Nat) :
    (list vs).numbered first = tupleText (placeholdersFrom first vs.length) := by
  rw [list, List.cons_append, numbered, numbered_append, numbered_slots, numbered, numbered,
    String.append_empty, tupleText, String.append_assoc]

end Template

end SqlDraft
