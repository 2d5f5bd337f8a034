import ScreenRetrofit.Text.Basic
import ScreenRetrofit.Text.Graphic
import ScreenRetrofit.Text.Extender

/-!
# Quoted texts

A quoted text stands between double quotes and shows on one line: a quote, a backslash and the
four controls with a letter of their own are written with a backslash, and every other character
that does not show alone is written by its code point. A single quote is kept.
-/

namespace ScreenRetrofit.Text

/-- The digits of a number in lower-case hexadecimal. -/
def hexadecimal (n : Nat) : Text := Nat.toDigits 16 n

/-- A character as it is written between double quotes. -/
def escape (c : Char) : Text :=
  match c with
  | '\x00' => ['\\', '0']
  | '\t' => ['\\', 't']
  | '\r' => ['\\', 'r']
  | '\n' => ['\\', 'n']
  | '"' => ['\\', '"']
  | '\\' => ['\\', '\\']
  | c =>
    if isGraphic c && !isExtender c then [c]
    else ['\\', 'u', '\x7b'] ++ hexadecimal c.toNat ++ ['\x7d']

/-- A text between double quotes. -/
def quoted (text : Text) : Text := '"' :: text.flatMap escape ++ ['"']

end ScreenRetrofit.Text
