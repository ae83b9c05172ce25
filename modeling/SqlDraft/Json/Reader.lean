import SqlDraft.Json.Basic
import SqlDraft.Keyed
import SqlDraft.Number.Reading

/-!
# Reading JSON text

The grammar is the strict one: no comments, no trailing commas, no leading zeros, nothing after the
value but blanks. Arrays and objects nest to a fixed depth. A repeated key keeps the place of its
first member and the value of its last. A reader takes the characters of a text and gives what it
has read together with the characters that follow.
-/

namespace SqlDraft.Json

/-- Reads something at the head of a text, and says what follows it. -/
abbrev Reader (α : Type) := List Char → Option (α × List Char)

/-- The four characters that may stand between tokens. -/
def isBlank (c : Char) : Bool := c = ' ' || c = '\t' || c = '\n' || c = '\r'

/-- What a text holds behind the blanks at its head. -/
def skipBlanks (s : List Char) : List Char := s.dropWhile isBlank

/-- Reads one given word. -/
def readWord (word : String) (value : Json) : Reader Json := fun s =>
  if word.toList.isPrefixOf s then some (value, s.drop word.length) else none

/-- A whole number that fits 64 bits, with or without sign, stays whole; minus zero and all
others become the nearest double. -/
def ofWhole (negative : Bool) (n : Nat) : Json :=
  if negative then
    if 0 < n ∧ n ≤ Nat.pow 2 63 then .integer (-n) else .float (Binary64.ofDecimal true n 0)
  else
    if n < Nat.pow 2 64 then .integer n else .float (Binary64.ofDecimal false n 0)

/-- A fraction behind a point: at least one digit. Without a point there are none. -/
def readFraction : Reader (List Char)
  | '.' :: s =>
    match takeDigits s with
    | ([], _) => none
    | found => some found
  | s => some ([], s)

/-- An exponent behind its mark, if there is one. -/
def readScale : Reader (Option Int)
  | 'e' :: s | 'E' :: s => (readExponent? s).map fun (e, rest) => (some e, rest)
  | s => some (none, s)

/-- How many digits of a whole part are told apart. -/
def wholeDigitLimit : Nat := 768

/-- The double that the parts of a number stand for. All that follows the limit of a whole part
counts as one more digit, a one. No number halfway between two doubles has as many digits, so the
double is the nearest one all the same, except when what follows is nothing but zeros: then a number
halfway between two doubles goes away from zero. -/
def floatOfParts (negative : Bool) (whole fraction : List Char) (scale : Int) : Binary64 :=
  if whole.length ≤ wholeDigitLimit then Binary64.ofParts negative whole fraction scale
  else
    let dropped := whole.length - wholeDigitLimit
    Binary64.ofParts negative (whole.take wholeDigitLimit) ['1'] (scale + dropped)

/-- A number. One beyond the largest double is refused. -/
def readNumber : Reader Json := fun s => do
  let (negative, s) := match s with
    | '-' :: r => (true, r)
    | r => (false, r)
  let (whole, s) := takeDigits s
  if whole.isEmpty || (whole.head? = some '0' && 1 < whole.length) then none
  let (fraction, s) ← readFraction s
  let (scale, s) ← readScale s
  let value :=
    if fraction.isEmpty && scale.isNone then ofWhole negative (digitsValue whole)
    else .float (floatOfParts negative whole fraction (scale.getD 0))
  match value with
  | .float x => if x.isFinite then some (value, s) else none
  | _ => some (value, s)

/-- The value of a hexadecimal digit. -/
def hexValue? (c : Char) : Option Nat :=
  if c.isDigit then some (c.toNat - '0'.toNat)
  else if 'a' ≤ c ∧ c ≤ 'f' then some (c.toNat - 'a'.toNat + 10)
  else if 'A' ≤ c ∧ c ≤ 'F' then some (c.toNat - 'A'.toNat + 10)
  else none

/-- The number that hexadecimal digits denote. -/
def hexNumber? (digits : List Char) : Option Nat :=
  digits.foldlM (fun n c => (hexValue? c).map fun d => 16 * n + d) 0

/-- What a text literal is written with: characters, and 16-bit units given by number. -/
inductive TextUnit where
  | char (c : Char)
  | unit (n : Nat)

/-- The character that a one-letter escape stands for. -/
def escaped? : Char → Option Char
  | '"' => some '"'
  | '\\' => some '\\'
  | '/' => some '/'
  | 'b' => some '\x08'
  | 'f' => some '\x0c'
  | 'n' => some '\n'
  | 'r' => some '\r'
  | 't' => some '\t'
  | _ => none

/-- The rest of a text literal behind its opening mark, after the units in `before`, last first.
Control characters have to be escaped. -/
def readUnitsFrom (before : List TextUnit) : Reader (List TextUnit)
  | [] => none
  | '"' :: rest => some (before.reverse, rest)
  | '\\' :: 'u' :: a :: b :: c :: d :: rest =>
    match hexNumber? [a, b, c, d] with
    | some n => readUnitsFrom (.unit n :: before) rest
    | none => none
  | '\\' :: c :: rest =>
    match escaped? c with
    | some c => readUnitsFrom (.char c :: before) rest
    | none => none
  | c :: rest => if c.toNat < 0x20 then none else readUnitsFrom (.char c :: before) rest

/-- Whether a unit is the first half of a character beyond 16 bits. -/
def isHighHalf (n : Nat) : Bool := 0xD800 ≤ n && n < 0xDC00

/-- Whether a unit is the second half of a character beyond 16 bits. -/
def isLowHalf (n : Nat) : Bool := 0xDC00 ≤ n && n < 0xE000

/-- The characters that units make, after those in `before`, last first. A half of a character has
to stand beside its other half. -/
def joinUnitsFrom (before : List Char) : List TextUnit → Option (List Char)
  | [] => some before.reverse
  | .char c :: rest => joinUnitsFrom (c :: before) rest
  | .unit n :: rest =>
    if isHighHalf n then
      match rest with
      | .unit m :: rest =>
        if isLowHalf m then
          joinUnitsFrom (Char.ofNat (0x10000 + (n - 0xD800) * 0x400 + (m - 0xDC00)) :: before) rest
        else none
      | _ => none
    else if isLowHalf n then none
    else joinUnitsFrom (Char.ofNat n :: before) rest

/-- A text literal. -/
def readText : Reader String
  | '"' :: s => do
    let (units, rest) ← readUnitsFrom [] s
    let cs ← joinUnitsFrom [] units
    some (String.ofList cs, rest)
  | _ => none

/-- A value that is neither array nor object. -/
def readScalar : Reader Json := fun s =>
  match s with
  | 'n' :: _ => readWord "null" .null s
  | 't' :: _ => readWord "true" (.bool true) s
  | 'f' :: _ => readWord "false" (.bool false) s
  | '"' :: _ => (readText s).map fun (t, rest) => (.string t, rest)
  | _ => readNumber s

/-- At most so many items between commas up to a closing character, after the items in `before`,
last first. -/
def readItemsFrom {α : Type} (item : Reader α) (close : Char) (before : List α) :
    Nat → Reader (List α)
  | 0, _ => none
  | most + 1, s => do
    let (a, rest) ← item s
    match skipBlanks rest with
    | [] => none
    | ',' :: rest => readItemsFrom item close (a :: before) most (skipBlanks rest)
    | c :: rest => if c = close then some ((a :: before).reverse, rest) else none

/-- At most so many items between commas, behind the opening character. -/
def readItems {α : Type} (item : Reader α) (close : Char) (most : Nat) : Reader (List α) := fun s =>
  match skipBlanks s with
  | [] => none
  | c :: rest => if c = close then some ([], rest) else readItemsFrom item close [] most (c :: rest)

/-- A member of an object: a key, a colon and a value. -/
def readMember (value : Reader Json) : Reader (String × Json) := fun s => do
  let (key, s) ← readText s
  match skipBlanks s with
  | ':' :: s =>
    let (j, s) ← value (skipBlanks s)
    some ((key, j), s)
  | _ => none

/-- A value that nests arrays and objects to the given depth, with at most so many items in each. -/
def readValue (most : Nat) : Nat → Reader Json
  | 0, s => readScalar s
  | depth + 1, s =>
    match s with
    | '[' :: s =>
      (readItems (readValue most depth) ']' most s).map fun (items, rest) => (.array items, rest)
    | '\x7b' :: s =>
      (readItems (readMember (readValue most depth)) '\x7d' most s).map fun (members, rest) =>
        (.object (Keyed.ofList members).entries, rest)
    | s => readScalar s

/-- How deep arrays and objects may nest in a document. -/
def nestingLimit : Nat := 127

/-- The value at the head of a text, nested at most to `depth`, and what follows it. An item takes
at least one character, so a text has no more items than characters. -/
def readPrefix? (depth : Nat) (text : String) : Option (Json × List Char) :=
  (readValue text.length depth (skipBlanks text.toList)).map fun (j, rest) => (j, skipBlanks rest)

/-- The value that is a whole text, nested at most to `depth`. -/
def readNested? (depth : Nat) (text : String) : Option Json :=
  match readPrefix? depth text with
  | some (j, []) => some j
  | _ => none

/-- The value that is a whole document. -/
def read? (text : String) : Option Json := readNested? nestingLimit text

end SqlDraft.Json
