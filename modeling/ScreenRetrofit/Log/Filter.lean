import ScreenRetrofit.Log.Directive.Written
import ScreenRetrofit.Log.Setup

/-!
# Log filters

A filter is a list of directives. Of the general ones that concern a message or a span the most
specific decides whether it is shown, of equals the last. The directives of spans let more
through: in a span that they concern every message is shown up to the most talkative of those
that the span has the values for, of two with one selector the last. A span is told in front of
its messages if a directive lets it through or a directive of spans concerns it. A filter can be
written as a comma list, in which a directive that is none is left out with a complaint.
-/

namespace ScreenRetrofit.Log

/-- Directives in the order they were given. -/
abbrev Filter := List Directive

namespace Filter

/-- Of some directives the one that decides: the most specific, of equals the last. -/
def deciding? (directives : List Directive) : Option Directive :=
  directives.foldl (fun best? directive =>
    match best? with
    | some best => if directive.atLeastAsSpecific best.toSelector then some directive else best?
    | none => some directive) none

/-- Whether some directives let a level through. -/
def letsThrough (directives : List Directive) (level : Level) : Bool :=
  (deciding? directives).any fun directive => level.verbosity ≤ directive.verbosity

/-- The directives that decide about messages and spans by themselves. -/
def general (filter : Filter) : List Directive := filter.filter (·.isGeneral)

/-- The directives that decide about what is said in spans. One gives way to a later one with the
same selector. -/
def ofSpans : Filter → List Directive
  | [] => []
  | directive :: later =>
    if directive.isOfSpans && !later.any (·.toSelector = directive.toSelector) then
      directive :: ofSpans later
    else ofSpans later

/-- The greatest of some verbosities. -/
def greatest (verbosities : List Nat) : Nat := verbosities.foldl max 0

/-- How talkative anything can be. Where a value is asked for every span has to be looked at. -/
def ceiling (filter : Filter) : Nat :=
  if filter.any (·.asksForValue) then Level.trace.verbosity
  else greatest (filter.map Directive.verbosity)

/-- Whether a span is looked at, and told in front of its messages. -/
def opens (filter : Filter) (span : Span) : Bool :=
  span.level.verbosity ≤ filter.ceiling &&
    (filter.ofSpans.any (·.concernsSpan span) ||
      letsThrough (filter.general.filter (·.concernsSource span.source)) span.level)

/-- How talkative messages in a span can be because of the span. -/
def allowance (filter : Filter) (span : Span) : Nat :=
  if filter.opens span then
    greatest ((filter.ofSpans.filter fun directive =>
      directive.concernsSpan span && directive.isMetBy span).map Directive.verbosity)
  else 0

/-- Whether a message is shown that is said in a span or outside. -/
def shows (filter : Filter) (span? : Option Span) (message : Message) : Bool :=
  letsThrough (filter.general.filter (·.concernsMessage message)) message.level ||
    span?.any fun span => message.level.verbosity ≤ filter.allowance span

/-- The directive that only errors are shown, which holds where nothing else is said. -/
def errorsOnly : Directive := { verbosity := Level.error.verbosity }

/-- What the names of all sources of the program start with. -/
def programTarget : Text := "game_video_retrofit".toList

/-- The filter of the settings of a call. -/
def ofSetup (setup : Setup) : Filter :=
  [errorsOnly, { target := programTarget, verbosity := setup.level.verbosity }]

/-- The texts between the commas of a text. -/
def cutAtCommas (text : Text) : List Text :=
  text.foldr (fun c parts =>
    match parts with
    | [] => [[c]]
    | part :: parts => if c = ',' then [] :: part :: parts else (c :: part) :: parts) [[]]

/-- A written filter: the directives it has, and each part that is none with the complaint. -/
def read (text : Text) : Filter × List (Text × Directive.Complaint) :=
  let parts := (cutAtCommas text).filter (! ·.isEmpty)
  let readings := parts.map fun part => (part, Directive.read part)
  let directives := readings.filterMap fun (_, reading) => reading.toOption
  let complaints := readings.filterMap fun (part, reading) =>
    match reading with
    | .error complaint => some (part, complaint)
    | .ok _ => none
  (if directives.isEmpty then [errorsOnly] else directives, complaints)

end Filter

end ScreenRetrofit.Log
