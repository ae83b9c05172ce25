import SqlDraft.Number.Reading

/-!
# Rejections

A rejection is sent as fields, each a letter and a value that ends with a null character. A null
character in the code or the text of a rejection therefore ends that value early, and what follows
it is read as one more field. A rejection counts only when all of its fields can be read.
-/

namespace SqlDraft

/-- One field of a rejection. -/
structure RejectionField where
  /-- What the value is about. -/
  letter : Char
  value : List Char
deriving DecidableEq, Repr

/-- How grave a message can be. -/
def severities : List String :=
  ["DEBUG", "LOG", "INFO", "NOTICE", "WARNING", "ERROR", "FATAL", "PANIC"]

namespace RejectionField

/-- The field in front of a null character. Nothing at all there would be the end of the fields,
which comes only after the last. -/
def ofPart? : List Char → Option RejectionField
  | [] => none
  | letter :: value => some ⟨letter, value⟩

/-- Whether a value suits its letter: a position in the statement, a position in a statement of the
server's own and a line are numbers of at most 32 bits, and there are eight severities. -/
def isValid (f : RejectionField) : Bool :=
  match f.letter with
  | 'P' | 'p' | 'L' => (readWhole? (Nat.pow 2 32) f.value).isSome
  | 'V' => severities.contains (String.ofList f.value)
  | _ => true

end RejectionField

/-- The fields that a code and a text make. -/
def rejectionFields? (code text : String) : Option (List RejectionField) :=
  (('C' :: code.toList ++ '\x00' :: 'M' :: text.toList).splitOn '\x00').mapM RejectionField.ofPart?

/-- Without null characters a code and a text make one field each. -/
theorem rejectionFields?_eq_some {code text : String} (hc : '\x00' ∉ code.toList)
    (ht : '\x00' ∉ text.toList) :
    rejectionFields? code text = some [⟨'C', code.toList⟩, ⟨'M', text.toList⟩] := by
  have hcode : '\x00' ∉ 'C' :: code.toList := by simpa using hc
  have htext : '\x00' ∉ 'M' :: text.toList := by simpa using ht
  rw [rejectionFields?, List.splitOn_append_cons_self_of_not_mem hcode,
    List.splitOn_eq_singleton htext]
  rfl

/-- Whether a rejection can be read. A position in a statement of the server's own needs that
statement, unless there is a position in the statement that was sent. -/
def isReadableRejection (code text : String) : Bool :=
  match rejectionFields? code text with
  | none => false
  | some fields =>
    let has letter := fields.any fun f => f.letter = letter
    fields.all RejectionField.isValid && (has 'P' || !has 'p' || has 'q')

/-- Without null characters every rejection can be read. -/
theorem isReadableRejection_eq_true {code text : String} (hc : '\x00' ∉ code.toList)
    (ht : '\x00' ∉ text.toList) : isReadableRejection code text = true := by
  simp [isReadableRejection, rejectionFields?_eq_some hc ht, RejectionField.isValid]

end SqlDraft
