import ScreenRetrofit.Log.Level

/-!
# Log messages

A message has a level, a source (the part of the program that speaks), a text and named fields.
It is written as its level, its text and its fields, each by name and value.
-/

namespace ScreenRetrofit.Log

/-- One message of a log. -/
structure Message where
  /-- How much it matters. -/
  level : Level
  /-- The part of the program that speaks. -/
  source : Text
  /-- What it says. -/
  text : Text
  /-- Names and values that go with it, in order. -/
  fields : List (Text × Text) := []
  deriving DecidableEq, Repr

namespace Message

/-- The text of a message followed by its fields. -/
def body (message : Message) : Text :=
  message.text ++ message.fields.flatMap fun (name, value) => ' ' :: name ++ '=' :: value

/-- A message with its level in front. -/
def render (message : Message) : Text := message.level.name ++ ' ' :: message.body

end Message

end ScreenRetrofit.Log
