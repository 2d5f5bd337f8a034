import ScreenRetrofit.Toml.Layout
import ScreenRetrofit.Toml.Value

/-!
# Scalars of TOML

Readers of strings, numbers, truth values, dates and times.
-/

namespace ScreenRetrofit.Toml

open Text

namespace Reader

open Text.Reader

/-- The character with a code point written in an exact number of hexadecimal digits. -/
def codePoint (digits : Nat) : Reader Char := do
  let value := numeral 16 (← exactly isHexDigit digits)
  if value.isValidChar then return Char.ofNat value else failure

/-- A character written with a backslash. -/
def escaped : Reader Char := do
  fixed "\\"
  match ← one fun _ => true with
  | 'b' => return '\x08'
  | 'f' => return '\x0c'
  | 'n' => return '\n'
  | 'r' => return '\r'
  | 't' => return '\t'
  | 'u' => codePoint 4
  | 'U' => codePoint 8
  | '\\' => return '\\'
  | '"' => return '"'
  | _ => failure

/-- A character that stands for itself between double quotes. -/
def isBasic (c : Char) : Bool :=
  isSpace c || isForeign c || (isVisible c && c != '"' && c != '\\')

/-- A character that stands for itself between single quotes. -/
def isLiteral (c : Char) : Bool := isSpace c || isForeign c || (isVisible c && c != '\'')

/-- A string between double quotes. -/
def basicString : Reader Text :=
  fixed "\"" *> many (one isBasic <|> escaped) <* fixed "\""

/-- A string between single quotes. -/
def literalString : Reader Text := fixed "'" *> allOf isLiteral <* fixed "'"

/-- One or two quotes inside a string between triple quotes. -/
def innerQuotes (quote : Char) : Reader Text := do
  let quotes ← allOf (· = quote)
  if quotes.length = 1 ∨ quotes.length = 2 then return quotes else failure

/-- The triple quotes at the end of a string; up to two more belong to the string. -/
def closingQuotes (quote : Char) : Reader Text := do
  let quotes ← allOf (· = quote)
  if 3 ≤ quotes.length ∧ quotes.length ≤ 5 then return quotes.drop 3 else failure

/-- An end of line in a string between triple quotes, which is a newline in every spelling. -/
def innerNewline : Reader Text := newline *> pure ['\n']

/-- A backslash at the end of a line takes the blanks and line ends after it out of a string. -/
def foldedNewline : Reader Text := do
  fixed "\\"
  spaces
  newline
  discard <| many (newline <|> (one isSpace *> pure ()))
  return []

/-- A string between triple double quotes. -/
def longBasicString : Reader Text := do
  fixed "\"\"\""
  skip newline
  let content ← many ((do return [← one isBasic]) <|> foldedNewline <|> (do return [← escaped]) <|>
    innerNewline <|> innerQuotes '"')
  return content.flatten ++ (← closingQuotes '"')

/-- A string between triple single quotes. -/
def longLiteralString : Reader Text := do
  fixed "'''"
  skip newline
  let content ← many ((do return [← one isLiteral]) <|> innerNewline <|> innerQuotes '\'')
  return content.flatten ++ (← closingQuotes '\'')

/-- A string in any of the four spellings. -/
def string : Reader Text := longBasicString <|> basicString <|> longLiteralString <|> literalString

/-- Digits of a kind, with single underscores between them allowed; the underscores are left
out. -/
def digits (kind : Char → Bool) : Reader Text := do
  let first ← one kind
  return first :: (← many (skip (fixed "_") *> one kind))

/-- A sign, and whether it is a minus. -/
def sign : Reader Bool :=
  (fixed "-" *> pure true) <|> (fixed "+" *> pure false) <|> pure false

/-- The digits of a decimal integer: none before another is zero. -/
def decimalDigits : Reader Text := do
  let digits ← (do
    let first ← one fun c => c.isDigit && c != '0'
    return first :: (← many (skip (fixed "_") *> one Char.isDigit))) <|>
      (fixed "0" *> pure ['0'])
  return digits

/-- The least integer of 64 bits. -/
def leastInteger : Int := -9223372036854775808

/-- The greatest integer of 64 bits. -/
def greatestInteger : Int := 9223372036854775807

/-- An integer in hexadecimal, octal, binary or decimal digits that fits into 64 bits. -/
def integer : Reader Int := do
  let value ←
    (do fixed "0x"; return (numeral 16 (← digits isHexDigit) : Int)) <|>
    (do fixed "0o"; return (numeral 8 (← digits fun c => '0' ≤ c && c ≤ '7') : Int)) <|>
    (do fixed "0b"; return (numeral 2 (← digits fun c => c = '0' || c = '1') : Int)) <|>
    (do
      let negative ← sign
      let magnitude := numeral 10 (← decimalDigits)
      return if negative then -(magnitude : Int) else magnitude)
  if leastInteger ≤ value ∧ value ≤ greatestInteger then return value else failure

/-- The exponent of a floating-point number. -/
def exponent : Reader Int := do
  fixed "e" <|> fixed "E"
  let negative ← sign
  let magnitude := numeral 10 (← digits Char.isDigit)
  return if negative then -(magnitude : Int) else magnitude

/-- A floating-point number in digits. A positive one must not be beyond the greatest number; a
negative one may, and is infinite. -/
def decimalFloat : Reader Decimal.Float64 := do
  let negative ← sign
  let whole ← decimalDigits
  let (fraction, power) ← (do return ([], ← exponent)) <|> (do
    fixed "."
    let fraction ← digits Char.isDigit
    return (fraction, ← exponent <|> pure 0))
  let value := Decimal.Float64.ofDecimal negative (numeral 10 (whole ++ fraction))
    (power - fraction.length)
  if value = .infinite false then failure else return value

/-- An infinity or the value that is no number. -/
def specialFloat : Reader Decimal.Float64 := do
  let negative ← sign
  (fixed "inf" *> pure (.infinite negative)) <|> (fixed "nan" *> pure .nan)

/-- A floating-point number. -/
def float : Reader Decimal.Float64 := decimalFloat <|> specialFloat

/-- A number of an exact count of decimal digits between two bounds. -/
def field (count low high : Nat) : Reader Nat := do
  let value := numeral 10 (← exactly Char.isDigit count)
  if low ≤ value ∧ value ≤ high then return value else failure

/-- How many days a month has. -/
def daysIn (year month : Nat) : Nat :=
  if month = 2 then
    if year % 4 = 0 ∧ (year % 100 ≠ 0 ∨ year % 400 = 0) then 29 else 28
  else if month ∈ [4, 6, 9, 11] then 30
  else 31

/-- A date. -/
def date : Reader Unit := do
  let year ← field 4 0 9999
  fixed "-"
  let month ← field 2 1 12
  fixed "-"
  discard <| field 2 1 (daysIn year month)

/-- A time of day; a second may be a leap second and have a fraction. -/
def time : Reader Unit := do
  discard <| field 2 0 23
  fixed ":"
  discard <| field 2 0 59
  fixed ":"
  discard <| field 2 0 60
  skip (fixed "." *> one Char.isDigit *> allOf Char.isDigit)

/-- How far a time is from universal time. -/
def offset : Reader Unit :=
  (one (fun c => c = 'Z' || c = 'z') *> pure ()) <|> (do
    fixed "+" <|> fixed "-"
    discard <| field 2 0 23
    fixed ":"
    discard <| field 2 0 59)

/-- A date, a date and a time with or without an offset, or a time. -/
def moment : Reader Unit :=
  (do
    date
    skip (one (fun c => c = 'T' || c = 't' || c = ' ') *> time *> skip offset)) <|> time

/-- A scalar. What could be a moment is one, and what could be a float is no integer. -/
def scalar : Reader Value :=
  (do return .string (← string)) <|>
  (fixed "true" *> pure (.boolean true)) <|>
  (fixed "false" *> pure (.boolean false)) <|>
  (moment *> pure .moment) <|>
  (do return .float (← float)) <|>
  (do return .integer (← integer))

end Reader

end ScreenRetrofit.Toml
