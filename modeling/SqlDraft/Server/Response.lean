import SqlDraft.Error
import SqlDraft.Server.Rejection

/-!
# What a server answers

A text can hold several statements, so the answer to it is a stream: descriptions of columns, rows
under the last description, with a value for each of its columns, and the counts of finished
commands. Folded together it gives the rows in order and the sum of the counts. A fault anywhere in
the stream leaves nothing of it.
-/

namespace SqlDraft

/-- A row as text: values by position under the names of their columns. -/
structure TextRow where
  columns : List String
  values : List (Option String)
deriving DecidableEq, Repr

/-- The value under the first column of this name, unless it is missing or null. -/
def TextRow.get? (r : TextRow) (column : String) : Option String :=
  match r.columns.findIdx? fun name => name = column with
  | some i => (r.values[i]?).join
  | none => none

/-- What running a text gives. -/
structure Outcome where
  rows : List TextRow
  affected : UInt64
deriving DecidableEq, Repr

/-- One part of an answer. -/
inductive Reply where
  | description (columns : List String)
  | row (columns : List String) (values : List (Option String))
  | complete (count : UInt64)
deriving DecidableEq, Repr

namespace Outcome

/-- What running a text without any command gives. -/
def empty : Outcome := ⟨[], 0⟩

/-- Adds one part of an answer. -/
def add (o : Outcome) : Reply → Outcome
  | .description _ => o
  | .row columns values => { o with rows := o.rows ++ [⟨columns, values⟩] }
  | .complete count => { o with affected := o.affected + count }

/-- The outcome of a whole answer. -/
def ofReplies (replies : List Reply) : Outcome := replies.foldl add empty

end Outcome

namespace Outcome

/-- The rows of an answer come behind those that are there already. -/
private theorem rows_foldl_add (replies : List Reply) (o : Outcome) :
    (replies.foldl add o).rows = o.rows ++ (replies.foldl add empty).rows := by
  induction replies generalizing o with
  | nil => simp [empty]
  | cons r rest ih =>
      simp only [List.foldl_cons]
      rw [ih (o.add r), ih (empty.add r)]
      cases r <;> simp [add, empty]

/-- The rows of two answers in sequence are the rows of the first, then those of the second. -/
theorem rows_ofReplies_append (first second : List Reply) :
    (ofReplies (first ++ second)).rows = (ofReplies first).rows ++ (ofReplies second).rows := by
  rw [ofReplies, List.foldl_append, rows_foldl_add]
  rfl

end Outcome

/-- A message from the server. -/
inductive Message where
  /-- The names of the columns of the rows that follow. -/
  | columns (names : List String)
  | row (values : List (Option String))
  /-- A command is finished; its tag may end in a count. -/
  | complete (tag : String)
  /-- The text held no command. -/
  | emptyCommand
  | rejected (code text : String)
  /-- An answer to a request that was not made. -/
  | parseComplete
  /-- The server ends the connection. -/
  | hangUp
deriving DecidableEq, Repr

/-- The count at the end of a command tag: the word after the last space, if it is a number of at
most 64 bits, a plus sign before it being allowed. Any other tag counts nothing. -/
def affectedCount (tag : String) : UInt64 :=
  let word := (tag.toList.reverse.takeWhile (· ≠ ' ')).reverse
  UInt64.ofNat ((readWhole? (Nat.pow 2 64) word).getD 0)

/-- Whether a text has a null character. Texts on the wire end with one, so this text would be
cut short there. -/
def hasNull (s : String) : Bool := s.toList.contains '\x00'

/-- The answer that messages make, under the columns described last. A row with more or fewer
values than columns cannot be read, nor can a name or a tag that would be cut short, nor a
rejection with a broken field; the first fault is the one that counts. -/
def repliesFrom (described : Option (List String)) :
    List Message → Except QueryFault (List Reply)
  | [] => .ok []
  | .columns names :: rest =>
    if names.any hasNull then .error .unreadable
    else (repliesFrom (some names) rest).map (.description names :: ·)
  | .row values :: rest =>
    match described with
    | some names =>
      if values.length = names.length then
        (repliesFrom described rest).map (.row names values :: ·)
      else .error .unreadable
    | none => .error .unexpectedMessage
  | .complete tag :: rest =>
    if hasNull tag then .error .unreadable
    else (repliesFrom described rest).map (.complete (affectedCount tag) :: ·)
  | .emptyCommand :: rest => (repliesFrom described rest).map (.complete 0 :: ·)
  | .rejected code text :: _ =>
    .error (if isReadableRejection code text then .database else .unreadable)
  | .parseComplete :: _ => .error .unexpectedMessage
  | .hangUp :: _ => .error .connectionClosed

end SqlDraft
