import SqlDraft.Text.Unprintable

/-!
# Text between quotation marks, as messages show it

Every character that cannot be read back from a message is written as an escape, so two different
texts never look alike in one.
-/

namespace SqlDraft.Text

/-- The lower case hexadecimal digits of a number. -/
def hexDigits (n : Nat) : String := String.ofList (Nat.toDigits 16 n)

/-- A character between quotation marks: the mark itself and the backslash behind a backslash,
line breaks, tabs and the null character by a letter, the unprintable by code point. -/
def quoteChar (c : Char) : String :=
  match c with
  | '"' => "\\\""
  | '\\' => "\\\\"
  | '\n' => "\\n"
  | '\r' => "\\r"
  | '\t' => "\\t"
  | '\x00' => "\\0"
  | c => if isUnprintable c then "\\u\x7b" ++ hexDigits c.toNat ++ "\x7d" else c.toString

/-- A text between quotation marks. -/
def quote (s : String) : String :=
  "\"" ++ String.join (s.toList.map quoteChar) ++ "\""

end SqlDraft.Text
