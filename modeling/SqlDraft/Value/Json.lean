import SqlDraft.Value.Text
import SqlDraft.Json.Reader
import SqlDraft.Error

/-!
# Values and JSON

A value is read from JSON in two ways: by the shape of the JSON value, and by trying the kinds of
values in a fixed order, of which the first that fits is taken. Objects are no values in either. A
text is read the second way.
-/

namespace SqlDraft.Value

/-- Whether 64 bits hold a whole number with its sign. -/
def fitsInt (n : Int) : Bool := Int64.minValue.toInt ≤ n && n ≤ Int64.maxValue.toInt

/-- A whole number is an integer where 64 bits hold it with its sign, and the nearest double
otherwise. -/
def ofWhole (n : Int) : Value :=
  if fitsInt n then .int (Int64.ofInt n) else .float (Binary64.ofInt n)

mutual

/-- The value that a JSON value without objects denotes. -/
def ofJson : Json → Except Error Value
  | .null => .ok .null
  | .bool b => .ok (.bool b)
  | .integer n => .ok (ofWhole n)
  | .float x => .ok (.float x)
  | .string s => .ok (.text s)
  | .array items => (ofJsonItems items).map .list
  | .object _ => .error (.invalidCondition .objectLiteral)

/-- The values that the items of an array denote. -/
def ofJsonItems : List Json → Except Error (List Value)
  | [] => .ok []
  | j :: rest => do
    let v ← ofJson j
    let vs ← ofJsonItems rest
    return v :: vs

end

/-- Only null. -/
def asNull? : Json → Option Value
  | .null => some .null
  | _ => none

/-- Only truth values. -/
def asBool? : Json → Option Value
  | .bool b => some (.bool b)
  | _ => none

/-- Whole numbers that 64 bits hold with their sign. -/
def asInt? : Json → Option Value
  | .integer n => if fitsInt n then some (.int (Int64.ofInt n)) else none
  | _ => none

/-- All numbers; a whole number becomes the nearest double. -/
def asFloat? : Json → Option Value
  | .integer n => some (.float (Binary64.ofInt n))
  | .float x => some (.float x)
  | _ => none

/-- Only texts. -/
def asText? : Json → Option Value
  | .string s => some (.text s)
  | _ => none

mutual

/-- The value of the first kind that accepts a JSON value. -/
def firstOfJson? (j : Json) : Option Value :=
  asNull? j <|> asBool? j <|> asInt? j <|> asFloat? j <|> asText? j <|>
    match j with
    | .array items => (firstOfJsonItems? items).map .list
    | _ => none

/-- The values of the items of an array, each of the first kind that accepts it. -/
def firstOfJsonItems? : List Json → Option (List Value)
  | [] => some []
  | j :: rest => do
    let v ← firstOfJson? j
    let vs ← firstOfJsonItems? rest
    return v :: vs

end

/-- Why a text is read as no value. -/
inductive ReadFault where
  | notJson
  /-- No kind accepts what the text begins with. -/
  | noKind
deriving DecidableEq, Repr

/-- The value that a JSON text stands for. What no kind accepts is refused as that, also where the
text goes on behind it and is no JSON. -/
def readDocument (text : String) : Except ReadFault Value :=
  match Json.readPrefix? Json.nestingLimit text with
  | none => .error .notJson
  | some (j, rest) =>
    match firstOfJson? j with
    | none => .error .noKind
    | some v => if rest.isEmpty then .ok v else .error .notJson

mutual

/-- The JSON value that stands for a value. JSON has no text for a double that is not finite. -/
def toJson : Value → Json
  | .null => .null
  | .bool b => .bool b
  | .int i => .integer i.toInt
  | .float x => if x.isFinite then .float x else .null
  | .text s => .string s
  | .list items => .array (toJsonItems items)

/-- The JSON values that stand for the items of a list. -/
def toJsonItems : List Value → List Json
  | [] => []
  | v :: rest => toJson v :: toJsonItems rest

end

end SqlDraft.Value
