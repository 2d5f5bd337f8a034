import ScreenRetrofit.Log.Span
import ScreenRetrofit.Log.ValuePattern.Basic

/-!
# Directives

A directive sets the least important level that is shown of some sources: those whose names start
with its target. It can ask for more: for a span with a name, for a field, and for a value of that
field. A directive is general if it asks for no span and no value, and it concerns the messages
and the spans of its sources by themselves; it is of spans if it asks for a span or a field, and
it concerns all that is said in the spans it asks for. One that asks for a field alone is both.
-/

namespace ScreenRetrofit.Log

/-- What a value of a field has to be. -/
inductive ValueCondition where
  /-- A number or a truth value, which no text is. -/
  | literal
  /-- A text that a pattern accepts. The pattern is kept as it is written too. -/
  | pattern (written : Text) (pattern : ValuePattern)
  deriving DecidableEq, Repr

/-- Whether a text is as a condition asks for. -/
def ValueCondition.holds : ValueCondition → Text → Bool
  | literal, _ => false
  | pattern _ accepted, value => accepted.accepts value

/-- A field that has to be there. -/
structure FieldCondition where
  /-- The name of the field. -/
  name : Text
  /-- What its value has to be, if anything is asked of it. -/
  value? : Option ValueCondition := none
  deriving DecidableEq, Repr

/-- What a directive concerns. -/
structure Selector where
  /-- What the names of the sources start with; an empty target stands for all sources. -/
  target : Text := []
  /-- The name of the span. -/
  span? : Option Text := none
  /-- The field. -/
  field? : Option FieldCondition := none
  deriving DecidableEq, Repr

/-- What is shown of some sources. -/
structure Directive extends Selector where
  /-- How talkative they may be; zero silences them. -/
  verbosity : Nat
  deriving DecidableEq, Repr

namespace Selector

/-- Whether a value of a field is asked for. -/
def asksForValue (selector : Selector) : Bool := selector.field?.any (·.value?.isSome)

/-- Whether neither a span nor a value is asked for. -/
def isGeneral (selector : Selector) : Bool := selector.span?.isNone && !selector.asksForValue

/-- Whether a span or a field is asked for. -/
def isOfSpans (selector : Selector) : Bool := selector.span?.isSome || selector.field?.isSome

/-- A selector that asks for nothing but a target is general and not of spans, and every other
one that is general is of spans too. -/
theorem isGeneral_and_not_isOfSpans {selector : Selector} :
    (selector.isGeneral && !selector.isOfSpans) = true ↔
      selector = { target := selector.target } := by
  obtain ⟨target, span?, field?⟩ := selector
  cases span? <;> cases field? <;> simp [isGeneral, isOfSpans, asksForValue]

/-- Whether a source is concerned. -/
def concernsSource (selector : Selector) (source : Text) : Bool :=
  selector.target.isPrefixOf source

/-- Whether a message is concerned, as far as its source and its fields go. The text of a message
is a field too. -/
def concernsMessage (selector : Selector) (message : Message) : Bool :=
  selector.concernsSource message.source && selector.field?.all fun field =>
    field.name = "message".toList || message.fields.any (·.1 = field.name)

/-- Whether a span is concerned, whatever the values of its fields. -/
def concernsSpan (selector : Selector) (span : Span) : Bool :=
  selector.concernsSource span.source && selector.span?.all (· = span.name) &&
    selector.field?.all fun field => span.fields.any (·.1 = field.name)

/-- Whether a span has the values that are asked for. -/
def isMetBy (selector : Selector) (span : Span) : Bool :=
  selector.field?.all fun field => field.value?.all fun condition =>
    span.fields.any fun (name, value) => name = field.name && condition.holds value

/-- Whether a selector says at least as much as another one about the sources that both concern:
by a longer target, then by a field, then by a field whose name comes later by its characters. -/
def atLeastAsSpecific (selector other : Selector) : Bool :=
  other.target.length < selector.target.length ||
    other.target.length == selector.target.length &&
      match other.field?, selector.field? with
      | none, _ => true
      | some _, none => false
      | some first, some second =>
        !second.name.lex first.name fun left right => left.toNat < right.toNat

end Selector

end ScreenRetrofit.Log
