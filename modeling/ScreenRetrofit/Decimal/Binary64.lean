import ScreenRetrofit.Text.Basic

/-!
# Decimal texts of binary floating-point numbers

A number of the format binary64 is a significand of at most 53 bits times a power of two. A
decimal number is rounded to the nearest of them, a tie to the even significand; a number is
written with the fewest digits that are rounded back to it, in positional notation and always
with a point. All arithmetic is exact, on natural numbers.
-/

namespace ScreenRetrofit.Decimal

/-- A fraction times powers of two and ten: a numerator and a denominator. -/
structure Ratio where
  /-- The numerator. -/
  num : Nat
  /-- The denominator. -/
  den : Nat
  deriving DecidableEq, Repr

namespace Ratio

/-- A ratio times a power of a base. -/
def scale (ratio : Ratio) (base : Nat) (exponent : Int) : Ratio :=
  if 0 ≤ exponent then { ratio with num := ratio.num * Nat.pow base exponent.toNat }
  else { ratio with den := ratio.den * Nat.pow base (-exponent).toNat }

/-- The whole part. -/
def floor (ratio : Ratio) : Nat := ratio.num / ratio.den

/-- The nearest whole number, a tie to the even one. -/
def round (ratio : Ratio) : Nat :=
  let low := ratio.floor
  let rest := 2 * (ratio.num % ratio.den)
  if rest < ratio.den then low
  else if ratio.den < rest then low + 1
  else if low % 2 = 0 then low else low + 1

/-- Whether one ratio is less than another. -/
def less (left right : Ratio) : Bool := left.num * right.den < right.num * left.den

/-- How far apart two ratios are. -/
def distance (left right : Ratio) : Ratio :=
  let a := left.num * right.den
  let b := right.num * left.den
  ⟨(a - b) + (b - a), left.den * right.den⟩

end Ratio

/-- A finite positive number of the format binary64, or zero. -/
structure Binary64 where
  /-- The significand, below the fifty-third power of two. -/
  significand : Nat
  /-- The power of two it is multiplied with. -/
  exponent : Int
  deriving DecidableEq, Repr

namespace Binary64

/-- The least significand of full size, the fifty-second power of two. -/
def fullSignificand : Nat := 4503599627370496

/-- The least exponent. -/
def leastExponent : Int := -1074

/-- The exponent at which a number leaves the format. -/
def overflowExponent : Int := 1024

/-- The value of a number. -/
def ratio (number : Binary64) : Ratio :=
  Ratio.scale ⟨number.significand, 1⟩ 2 number.exponent

/-- The number nearest to a ratio, or nothing if that is beyond the greatest one. -/
def nearest? (value : Ratio) : Option Binary64 :=
  if value.num = 0 then some ⟨0, leastExponent⟩
  else
    let size : Int := (value.num.log2 : Int) - value.den.log2 - 53
    let guess := if size < leastExponent then leastExponent else size
    let exponent :=
      if (value.scale 2 (-guess)).floor < 2 * fullSignificand then guess else guess + 1
    let rounded := (value.scale 2 (-exponent)).round
    let number : Binary64 :=
      if rounded = 2 * fullSignificand then ⟨fullSignificand, exponent + 1⟩
      else ⟨rounded, exponent⟩
    if (number.significand.log2 : Int) + number.exponent < overflowExponent then some number
    else none

/-- The ends of the interval of values that are rounded to a number. -/
def interval (number : Binary64) : Ratio × Ratio :=
  let quarter := number.exponent - 2
  let low :=
    if number.significand = fullSignificand ∧ number.exponent ≠ leastExponent then 1 else 2
  (Ratio.scale ⟨4 * number.significand - low, 1⟩ 2 quarter,
    Ratio.scale ⟨4 * number.significand + 2, 1⟩ 2 quarter)

/-- Whether a value is rounded to a number. -/
def readsBack (number : Binary64) (value : Ratio) : Bool :=
  let (low, high) := number.interval
  if number.significand % 2 = 0 then !value.less low && !high.less value
  else low.less value && value.less high

/-- A whole number of units of a power of ten. -/
def grid (digits : Nat) (exponent : Int) : Ratio := Ratio.scale ⟨digits, 1⟩ 10 exponent

/-- The point of a decimal grid next to a number that is rounded to it, if there is one; of two
the nearer, and the upper one if they are equally near. -/
def onGrid? (number : Binary64) (exponent : Int) : Option Nat :=
  let below := (number.ratio.scale 10 (-exponent)).floor
  let near (digits : Nat) : Ratio := number.ratio.distance (grid digits exponent)
  let fits (digits : Nat) : Bool := number.readsBack (grid digits exponent)
  if fits below && (!fits (below + 1) || (near below).less (near (below + 1))) then some below
  else if fits (below + 1) then some (below + 1)
  else none

/-- The position of the first digit of a positive number: its value is at least that power of
ten and below the next. -/
def leadingExponent (number : Binary64) : Int :=
  (Nat.toDigits 10 (number.ratio.scale 10 400).floor).length - 401

/-- The first of the grids from an exponent down that holds a number, with its point. -/
def firstGrid (number : Binary64) (exponent : Int) : Nat → Nat × Int
  | 0 => ((number.ratio.scale 10 (-exponent)).round, exponent)
  | more + 1 =>
    match number.onGrid? exponent with
    | some digits => (digits, exponent)
    | none => firstGrid number (exponent - 1) more

/-- The shortest decimal number that is rounded to a number: digits and a power of ten. The first
grid is one above the leading digit, for a number that is rounded up to a power of ten. -/
def shortest (number : Binary64) : Nat × Int :=
  if number.significand = 0 then (0, 0)
  else firstGrid number (number.leadingExponent + 1) 18

end Binary64

/-- Digits times a power of ten in positional notation, with a point and a digit after it. -/
def positional (digits : Nat) (exponent : Int) : Text :=
  let written := Nat.toDigits 10 digits
  if 0 ≤ exponent then written ++ List.replicate exponent.toNat '0' ++ ['.', '0']
  else
    let places := (-exponent).toNat
    let padded := List.replicate (places + 1 - written.length) '0' ++ written
    padded.take (padded.length - places) ++ '.' :: padded.drop (padded.length - places)

/-- A number with a sign, or one of the values that are no numbers. -/
inductive Float64 where
  /-- A finite number with its sign. -/
  | finite (negative : Bool) (magnitude : Binary64)
  /-- An infinity with its sign. -/
  | infinite (negative : Bool)
  /-- Not a number. -/
  | nan
  deriving DecidableEq, Repr

namespace Float64

/-- The value of digits times a power of ten, rounded; beyond the greatest number it is
infinite. A power so great or so small that rounding cannot tell is not computed. -/
def ofDecimal (negative : Bool) (digits : Nat) (exponent : Int) : Float64 :=
  let first : Int := (Nat.toDigits 10 digits).length + exponent
  if digits = 0 ∨ first < -400 then .finite negative ⟨0, Binary64.leastExponent⟩
  else if 400 < first then .infinite negative
  else match Binary64.nearest? (Binary64.grid digits exponent) with
    | some magnitude => .finite negative magnitude
    | none => .infinite negative

/-- The text of a number. -/
def render : Float64 → Text
  | .finite negative magnitude =>
    let (digits, exponent) := magnitude.shortest
    (if negative then ['-'] else []) ++ positional digits exponent
  | .infinite negative => if negative then "-inf".toList else "inf".toList
  | .nan => "NaN".toList

end Float64

end ScreenRetrofit.Decimal
