import ScreenRetrofit.Log.Filter
import ScreenRetrofit.Run.Basic

/-!
# Lines of a run's log

An event of a visit is said in the span of the visit, which names the file. The span stands in
front of the event where the filter opens it.
-/

namespace ScreenRetrofit

/-- The span of a visit to a file. -/
def Run.visitSpan (file : Text) : Log.Span where
  name := "process_record".toList
  source := Event.visitSource
  level := .info
  fields := [("file".toList, file)]

namespace Log

/-- What a log shows and how. -/
structure View where
  /-- What is shown. -/
  filter : Filter
  /-- Whether a message names its source. -/
  showSource : Bool
  deriving DecidableEq, Repr

namespace View

/-- The line of a message that is said in a span or outside, if it is shown. -/
def line? (view : View) (span? : Option Span) (message : Message) : Option Text :=
  if view.filter.shows span? message then
    let lead := ((span?.filter view.filter.opens).map Span.lead).getD []
    let source := if view.showSource then message.source ++ ": ".toList else []
    some (message.level.name ++ ' ' :: lead ++ source ++ message.body)
  else none

/-- The line of an event of a run, if it is shown. -/
def entryLine? (view : View) (item : Run.Entry) : Option Text :=
  view.line? (item.file?.map Run.visitSpan) item.event.message

/-- The lines of a run. -/
def runLines (view : View) (run : Run) : List Text := run.log.filterMap view.entryLine?

end View

end Log

end ScreenRetrofit
