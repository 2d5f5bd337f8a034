import ScreenRetrofit.Log.Message

/-!
# Spans

A span is a stretch of work that messages are said in. Its fields tell what the work is on, and a
message that is said in it can be shown with the span in front.
-/

namespace ScreenRetrofit.Log

/-- A stretch of work. -/
structure Span where
  /-- What is done. -/
  name : Text
  /-- The part of the program that does it. -/
  source : Text
  /-- How much it matters. -/
  level : Level
  /-- Names and values that tell what it is done on, in order. -/
  fields : List (Text × Text)
  deriving DecidableEq, Repr

namespace Span

/-- A span as it stands in front of a message. -/
def lead (span : Span) : Text :=
  let fields := span.fields.map fun (name, value) => name ++ '=' :: value
  span.name ++ '\x7b' :: [' '].intercalate fields ++ "\x7d: ".toList

end Span

end ScreenRetrofit.Log
