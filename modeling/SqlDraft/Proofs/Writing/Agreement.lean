import SqlDraft.Proofs.Writing.Readings

/-!
# The two outputs of a draft

Text with values and text with placeholders have the same fragments in the same order. What stands
between two fragments is a value in one of them and the placeholder with its number in the other.
-/

namespace SqlDraft

/-- A first fragment followed by fillers, each with the fragment that comes after it. -/
def weave (first : String) : List String → List String → String
  | filler :: fillers, next :: rest => first ++ filler ++ weave next fillers rest
  | _, _ => first

/-- A text before a woven one is a text before its first fragment. -/
theorem append_weave (s first : String) (fillers rest : List String) :
    s ++ weave first fillers rest = weave (s ++ first) fillers rest := by
  cases fillers with
  | nil => rfl
  | cons filler fillers =>
    cases rest with
    | nil => rfl
    | cons next rest => simp only [weave, String.append_assoc]

namespace Template

/-- The fragment before the first slot. -/
def leading : Template → String
  | .text s :: rest => s ++ leading rest
  | _ => ""

/-- The fragments after the slots, one for each of them. -/
def trailing : Template → List String
  | [] => []
  | .text _ :: rest => trailing rest
  | .slot _ :: rest => leading rest :: trailing rest

/-- A template has one fragment more than it has slots. -/
theorem length_trailing (t : Template) : t.trailing.length = t.values.length := by
  induction t with
  | nil => rfl
  | cons piece rest ih => cases piece <;> simp only [trailing, values, List.length_cons, ih]

/-- The inline reading has the values between quotation marks between the fragments. -/
theorem inline_eq_weave (t : Template) :
    t.inline = weave t.leading (t.values.map Value.inline) t.trailing := by
  induction t with
  | nil => rfl
  | cons piece rest ih =>
    cases piece with
    | text s =>
      rw [inline, ih, append_weave]
      rfl
    | slot v =>
      rw [inline, ih]
      simp only [leading, values, trailing, List.map_cons, weave, String.empty_append]

/-- The numbered reading has consecutive placeholders between the fragments. -/
theorem numbered_eq_weave (t : Template) (first : Nat) :
    t.numbered first =
      weave t.leading ((List.range' first t.values.length).map placeholder) t.trailing := by
  induction t generalizing first with
  | nil => rfl
  | cons piece rest ih =>
    cases piece with
    | text s =>
      rw [numbered, ih, append_weave]
      rfl
    | slot v =>
      rw [numbered, ih]
      simp only [leading, values, trailing, List.length_cons, List.range'_succ, List.map_cons,
        weave, String.empty_append]

end Template

/-- The kind of a draft that is rendered is that of its statement. -/
theorem Draft.kind_of_render {d : Draft} {s : Statement} {r : Rendered}
    (h : d.render = .ok (s, r)) : d.kind = .ok s.kind := by
  rw [Draft.kind, (Draft.render_eq_ok_iff.mp h).1]
  rfl

/-- Both outputs of a draft fail with the same error, or they are one statement: they share their
fragments, and where the text with placeholders has `$i` the other has the text of the `i`-th
parameter between quotation marks. -/
theorem Draft.build_buildQuery_weave (d : Draft) :
    (∃ e, d.build.result = .error e ∧ d.buildQuery.result = .error e) ∨
    ∃ sql q, d.build.result = .ok sql ∧ d.buildQuery.result = .ok q ∧ d.kind = .ok q.kind ∧
      ∃ first rest, rest.length = q.params.length ∧
        q.sql = weave first ((List.range' 1 q.params.length).map placeholder) rest ∧
        sql = weave first (q.params.map fun v => "'" ++ v.plainText ++ "'") rest := by
  rw [Draft.build_eq, Draft.buildQuery_eq]
  cases hr : d.render with
  | error e => exact Or.inl ⟨e, rfl, rfl⟩
  | ok rendered =>
    obtain ⟨s, r⟩ := rendered
    refine Or.inr ⟨_, _, rfl, rfl, Draft.kind_of_render hr, r.template.leading,
      r.template.trailing, r.template.length_trailing, ?_, ?_⟩
    · exact r.template.numbered_eq_weave 1
    · exact r.template.inline_eq_weave

end SqlDraft
