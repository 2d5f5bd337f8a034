import ScreenRetrofit.Decimal.Binary64

/-!
# Values of TOML documents

The value types of TOML. A table remembers how it came about, since that decides what later lines
of its document may add to it. Of a date or a time only its presence is kept.
-/

namespace ScreenRetrofit.Toml

/-- How a table came about. -/
inductive Origin where
  /-- Written between braces; nothing can be added. -/
  | braces
  /-- Opened by a header of its own. -/
  | header
  /-- Passed through by the header of a table below it. -/
  | passed
  /-- Passed through by a dotted key. -/
  | dotted
  deriving DecidableEq, Repr

/-- A value of a document. -/
inductive Value where
  /-- A string. -/
  | string (text : Text)
  /-- An integer of 64 bits. -/
  | integer (value : Int)
  /-- A floating-point number. -/
  | float (value : Decimal.Float64)
  /-- A truth value. -/
  | boolean (value : Bool)
  /-- A date, a time, or both. -/
  | moment
  /-- An array written between brackets. -/
  | array (items : List Value)
  /-- An array of tables, each opened by a header of double brackets. -/
  | rows (tables : List (List (Text × Value)))
  /-- A table with its keys in the order of their first mention. -/
  | table (origin : Origin) (entries : List (Text × Value))

/-- Keys and their values in order. -/
abbrev Entries := List (Text × Value)

end ScreenRetrofit.Toml
