import ScreenRetrofit.Toml.Scalar
import ScreenRetrofit.Toml.Table

/-!
# TOML documents

A document is read in two steps: its lines by their grammar, then its tables from the lines.
Arrays and inline tables may be nested less than eighty deep, and a key may have less than eighty
parts. A text is refused without a reason: it is no document.
-/

namespace ScreenRetrofit.Toml

open Text

/-- A key before an equals sign: the parts before the last, the last, and the value. -/
abbrev Assignment := List Text × Text × Value

/-- A line of a document. -/
inductive Line where
  /-- A line that says nothing. -/
  | blank
  /-- A key and its value. -/
  | assign (assignment : Assignment)
  /-- The header of a table. -/
  | table (keys : List Text) (key : Text)
  /-- The header of one of an array of tables. -/
  | row (keys : List Text) (key : Text)

namespace Reader

open Text.Reader

/-- The bound that nesting and the parts of a key stay below. -/
def depthLimit : Nat := 80

/-- One part of a key. -/
def keyPart : Reader Text :=
  basicString <|> literalString <|> (do
    let kind (c : Char) : Bool := c.isAlphanum || c = '-' || c = '_'
    let first ← one kind
    return first :: (← allOf kind))

/-- A key: the parts before the last, and the last. -/
def key : Reader (List Text × Text) := do
  let parts ← separated (spaces *> keyPart <* spaces) (fixed ".")
  match parts.getLast? with
  | some last => if parts.length < depthLimit then return (parts.dropLast, last) else failure
  | none => failure

/-- A key, an equals sign and a value. -/
def assignment (value : Reader Value) : Reader Assignment := do
  let (keys, last) ← key
  fixed "="
  spaces
  return (keys, last, ← value)

/-- An array of values; ends of lines may stand between them, and a comma after the last. -/
def array (value : Reader Value) : Reader Value := do
  fixed "["
  let items ← (separated (gaps *> value <* gaps) (fixed ",") <* skip (fixed ",")) <|> pure []
  gaps
  fixed "]"
  return .array items

/-- A table between braces; it stands on one line and has no comma after the last value. -/
def inlineTable (value : Reader Value) : Reader Value := do
  fixed "\x7b"
  let assignments ← separated (assignment value <* spaces) (fixed ",") <|> pure []
  spaces
  fixed "\x7d"
  match Entries.assignAll .braces [] assignments with
  | some entries => return .table .braces entries
  | none => failure

/-- A value that holds arrays and inline tables nested so deep at most. -/
def value : Nat → Reader Value
  | 0 => scalar
  | depth + 1 => scalar <|> array (value depth) <|> inlineTable (value depth)

/-- A header of a table or of one of an array of tables. -/
def header : Reader Line :=
  (do
    fixed "[["
    let (keys, last) ← key
    fixed "]]"
    return .row keys last) <|> (do
    fixed "["
    let (keys, last) ← key
    fixed "]"
    return .table keys last)

/-- A line that is not empty of characters. -/
def line : Reader Line :=
  (newline *> pure .blank) <|>
  (comment *> (newline <|> finished) *> pure .blank) <|>
  (header <* lineEnd) <|>
  (do return .assign (← assignment (value (depthLimit - 1)) <* lineEnd))

/-- The lines of a document, after a mark of the byte order if there is one. -/
def lines : Reader (List Line) := do
  skip (fixed "\uFEFF")
  spaces
  many (line <* spaces)

end Reader

/-- Lines by the header they stand below: the assignments before the first header, then every
header with the assignments below it. -/
def sections : List Line → List Assignment × List (Line × List Assignment)
  | [] => ([], [])
  | line :: lines =>
    let (first, rest) := sections lines
    match line with
    | .blank => (first, rest)
    | .assign assignment => (assignment :: first, rest)
    | header => ([], (header, first) :: rest)

/-- The tables of a document with one more section. -/
def addSection (entries : Entries) : Line × List Assignment → Option Entries
  | (.table keys key, below) => entries.openTable keys key below
  | (.row keys key, below) => entries.openRow keys key below
  | (_, _) => some entries

/-- The top table that lines build. -/
def ofLines? (lines : List Line) : Option Entries := do
  let (first, rest) := sections lines
  rest.foldlM addSection (← Entries.assignAll .header [] first)

/-- The top table of a document. -/
def read? (text : Text) : Option Entries := Reader.lines.readAll? text >>= ofLines?

end ScreenRetrofit.Toml
