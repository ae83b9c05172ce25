import SqlDraft.Server.Executor

/-!
# Connections

A connection sends texts to a server until the server hangs up. A text with a null character cannot
be sent at all. Every attempt to run a text is logged first, cut to the default number of bytes.
-/

namespace SqlDraft

/-- One end of a connection, with the answers of the other end that are still to come. -/
structure Connection where
  isOpen : Bool
  /-- The messages that answer the next texts, one list for each. -/
  answers : List (List Message)
  /-- The texts that the server has received. -/
  received : List String

namespace Connection

/-- Sends a text and reads the answer. -/
def query (c : Connection) (sql : String) : Except QueryFault (List Reply) × Connection :=
  if hasNull sql then (.error .unsendable, c)
  else if !c.isOpen then (.error .connectionClosed, c)
  else
    let messages := c.answers.headD []
    (repliesFrom none messages,
      { isOpen := !messages.contains .hangUp
        answers := c.answers.drop 1
        received := c.received ++ [sql] })

/-- The outcome of a text. -/
def execute (c : Connection) (sql : String) : Logged Outcome × Connection :=
  let (answer, c) := c.query sql
  let result := match answer with
    | .ok replies => .ok (Outcome.ofReplies replies)
    | .error fault => .error (.query fault)
  (⟨result, [.executing (truncate (some defaultLoggedBytes) sql)]⟩, c)

/-- Runs texts over a connection. -/
def executor : Executor Connection := ⟨execute⟩

end Connection

end SqlDraft
