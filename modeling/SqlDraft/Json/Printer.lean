import SqlDraft.Json.Basic
import SqlDraft.Number.Layout
import SqlDraft.Text.Quoted

/-!
# Writing JSON text

Compact text without blanks, members in their order.
-/

namespace SqlDraft.Json

/-- Doubles keep a point or an exponent, so that they read back as doubles; they are written
without an exponent from `1e-5` up to `1e16`. -/
def numberLayout : NumberLayout where
  positional e := -5 ≤ e && e < 16
  pointZero := true
  exponentPlus := true
  tie := .toEven

/-- A character inside a text literal. Only quotation mark, backslash and control characters are
escaped, the latter by a letter where one exists. -/
def escapeChar (c : Char) : String :=
  match c with
  | '"' => "\\\""
  | '\\' => "\\\\"
  | '\x08' => "\\b"
  | '\x0c' => "\\f"
  | '\n' => "\\n"
  | '\r' => "\\r"
  | '\t' => "\\t"
  | c =>
    if c.toNat < 0x20 then
      (if c.toNat < 0x10 then "\\u000" else "\\u00") ++ Text.hexDigits c.toNat
    else c.toString

/-- A text literal. -/
def writeText (s : String) : String :=
  "\"" ++ String.join (s.toList.map escapeChar) ++ "\""

mutual

/-- The text of a value. -/
def write : Json → String
  | .null => "null"
  | .bool b => if b then "true" else "false"
  | .integer n => Int.repr n
  | .float x => if x.isFinite then numberLayout.write x else "null"
  | .string s => writeText s
  | .array items => "[" ++ ",".intercalate (writeItems items) ++ "]"
  | .object members => "\x7b" ++ ",".intercalate (writeMembers members) ++ "\x7d"

/-- The texts of the items of an array. -/
def writeItems : List Json → List String
  | [] => []
  | j :: rest => write j :: writeItems rest

/-- The texts of the members of an object. -/
def writeMembers : List (String × Json) → List String
  | [] => []
  | (key, j) :: rest => (writeText key ++ ":" ++ write j) :: writeMembers rest

end

end SqlDraft.Json
