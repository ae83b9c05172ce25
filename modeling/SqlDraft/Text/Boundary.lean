/-!
# Cuts between characters

A text is measured in bytes and is cut between characters. An offset inside a character is moved
back to where that character begins.
-/

namespace SqlDraft.Text

/-- Goes back from a byte offset to the last one at which a character begins or the text ends. -/
def boundaryBefore (s : String) : Nat → Nat
  | 0 => 0
  | offset + 1 =>
    if String.Pos.Raw.isValid s ⟨offset + 1⟩ then offset + 1 else boundaryBefore s offset

/-- Going back never ends inside a character. -/
theorem isValid_boundaryBefore (s : String) (offset : Nat) :
    String.Pos.Raw.IsValid s ⟨boundaryBefore s offset⟩ := by
  induction offset with
  | zero => exact String.Pos.Raw.isValid_zero
  | succ offset ih =>
    rw [boundaryBefore]
    split
    · next h => exact String.Pos.Raw.isValid_eq_true_iff.mp h
    · exact ih

/-- The place in a text where it is cut to a number of bytes. -/
def cutPosition (limit : Nat) (s : String) : s.Pos :=
  s.pos ⟨boundaryBefore s limit⟩ (isValid_boundaryBefore s limit)

/-- The position is that of the last boundary up to the limit. -/
@[simp] theorem byteIdx_cutPosition (limit : Nat) (s : String) :
    (cutPosition limit s).offset.byteIdx = boundaryBefore s limit := rfl

/-- A text cut to a number of bytes. -/
def clip (limit : Nat) (s : String) : String :=
  if s.utf8ByteSize ≤ limit then s else (s.sliceTo (cutPosition limit s)).copy

end SqlDraft.Text
