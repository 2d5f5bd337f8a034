import ScreenRetrofit.Text.Reader

/-!
# Layout of documents

The classes of characters that documents are made of, and readers of what stands between their
parts.
-/

namespace ScreenRetrofit.Toml

open Text

/-- A space or a tab. -/
def isSpace (c : Char) : Bool := c = ' ' || c = '\t'

/-- A character outside ASCII. -/
def isForeign (c : Char) : Bool := 0x80 ≤ c.toNat

/-- A character that shows in ASCII. -/
def isVisible (c : Char) : Bool := 0x21 ≤ c.toNat && c.toNat ≤ 0x7E

namespace Reader

open Text.Reader

/-- Spaces and tabs. -/
def spaces : Reader Unit := allOf isSpace *> pure ()

/-- The end of a line inside a text. -/
def newline : Reader Unit := fixed "\n" <|> fixed "\r\n"

/-- A comment without the end of its line. -/
def comment : Reader Unit :=
  fixed "#" *> allOf (fun c => isSpace c || isVisible c || isForeign c) *> pure ()

/-- The rest of a line: spaces, a comment if there is one, and the end of the line or text. -/
def lineEnd : Reader Unit := spaces *> skip comment *> (newline <|> finished)

/-- Spaces, comments and ends of lines. -/
def gaps : Reader Unit := do
  spaces
  discard <| many (skip comment *> newline *> spaces)

end Reader

end ScreenRetrofit.Toml
