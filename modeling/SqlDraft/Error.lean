import SqlDraft.Json.Printer

/-!
# Errors

An error says which rule was broken and by what; its message is the text for a reader. Each kind
of error also takes a message of the caller's own.
-/

namespace SqlDraft

/-- Why the clauses of a draft make no statement. -/
inductive StatementFault where
  /-- No kind of statement has the clauses that it requires. -/
  | incomplete
  /-- The first row to insert into the table has no columns. -/
  | emptyFirstRow (table : String)
  | other (message : String)

/-- Why a JSON value describes no condition, no literal value or no row. -/
inductive ConditionFault where
  /-- A condition is an object, and this is none. -/
  | notAnObject (got : Json)
  /-- A row is an object, and this is none. -/
  | notARow (got : Json)
  /-- An object stands in the place of a literal value. -/
  | objectLiteral
  /-- The key of a group has a value that is no array. -/
  | groupNotArray (key : String)
  /-- The key of a group has other keys beside it. -/
  | groupNotAlone (key : String)
  /-- The object that describes the comparison of a column has not exactly one key. -/
  | operatorObject (column : String)
  | other (message : String)

/-- Why running a text failed. -/
inductive QueryFault where
  /-- The database rejected the text. -/
  | database
  /-- The server sent what has no place in a response. -/
  | unexpectedMessage
  /-- A message of the response cannot be read. -/
  | unreadable
  | connectionClosed
  /-- The text cannot be sent. -/
  | unsendable

/-- What can go wrong between describing a statement and running it. -/
inductive Error where
  | invalidStatement (fault : StatementFault)
  | unsupportedOperator (symbol : String)
  /-- A row to insert has other columns than the first row. -/
  | malformedInsertRows (row : Nat) (expected found : List String)
  | invalidCondition (fault : ConditionFault)
  | query (fault : QueryFault)

/-- What a reader is told of clauses that make no statement. -/
def StatementFault.message : StatementFault → String
  | .incomplete =>
    "no statement kind has its required fields set " ++
      "(select+from, update+set, insert_into+values, or delete_from)"
  | .emptyFirstRow table => "insert into " ++ table ++ " has no columns in its first row"
  | .other message => message

/-- What a reader is told of a JSON value that cannot be read. -/
def ConditionFault.message : ConditionFault → String
  | .notAnObject got => "expected an object, got " ++ got.write
  | .notARow got => "expected an object of column values, got " ++ got.write
  | .objectLiteral => "an object is not a literal value"
  | .groupNotArray key => key ++ " expects an array"
  | .groupNotAlone key => key ++ " must be the only key of its object"
  | .operatorObject column => "operator object for " ++ column ++ " must have exactly one key"
  | .other message => message

/-- What a reader is told of a text that was not run. -/
def QueryFault.message : QueryFault → String
  | .database => "db error"
  | .unexpectedMessage => "unexpected message from server"
  | .unreadable => "error parsing response from server"
  | .connectionClosed => "connection closed"
  | .unsendable => "error encoding message to server"

namespace Error

/-- The text of an error for a reader. -/
def message : Error → String
  | .invalidStatement fault => "Invalid statement: " ++ fault.message
  | .unsupportedOperator symbol => "Unsupported operator: " ++ symbol
  | .malformedInsertRows row expected found =>
    "Malformed insert rows: row " ++ Nat.repr row ++ " has columns [" ++ ", ".intercalate found ++
      "], expected [" ++ ", ".intercalate expected ++ "]"
  | .invalidCondition fault => "Invalid condition: " ++ fault.message
  | .query fault => "Query error: " ++ fault.message

/-- Whether the clauses of a draft are what is wrong. -/
def isInvalidStatement : Error → Bool
  | .invalidStatement _ => true
  | _ => false

/-- Whether the symbol of an operator is what is wrong. -/
def isUnsupportedOperator : Error → Bool
  | .unsupportedOperator _ => true
  | _ => false

/-- Whether the columns of a row are what is wrong. -/
def isMalformedInsertRows : Error → Bool
  | .malformedInsertRows .. => true
  | _ => false

end Error

end SqlDraft
