import ScreenRetrofit.Screen.Anchor
import ScreenRetrofit.Screen.Notice
import ScreenRetrofit.Screen.Template

/-!
# The three edits of a game screen

Each stage makes one edit of a screen's source, unless the screen carries the mark of that edit
already or lacks the landmark that the edit attaches to; then it leaves the screen alone. An edit
is known from a screen left alone by its output: `Edited.output` is absent exactly when the stage
wrote nothing, and `Edited.result` is the screen after the stage in both cases.
-/

namespace ScreenRetrofit.Screen

open Text (occursIn)

/-- What became of a screen, and what was said on the way. -/
structure Edited where
  /-- The new source, or nothing for a screen left alone. -/
  output : Option Text
  /-- The notices in the order they were given. -/
  notices : List Notice
  deriving DecidableEq, Repr

namespace Edited

/-- A screen left alone, with the reason. -/
def leave (notices : List Notice) : Edited := ⟨none, notices⟩

/-- A screen rewritten. -/
def write (source : Text) (notices : List Notice) : Edited := ⟨some source, notices⟩

/-- The source of the screen afterwards. -/
def result (edited : Edited) (source : Text) : Text := edited.output.getD source

end Edited

/-- Put the import of the video widget after the last import. -/
def insertImport (source : Text) : Edited :=
  if occursIn Template.videoImport source then .leave []
  else match Anchor.importLine.segments source with
    | ([], _) => .leave [.noImport]
    | (segments, rest) =>
      .write (segments.flatMap Landmark.Segment.whole ++ Template.videoImportLine ++ rest) []

/-- Put the helper method above the first build method. -/
def insertHelper (source : Text) : Edited :=
  if occursIn Template.helperMark source then .leave []
  else match Anchor.memberBuild.find? source with
    | none => .leave [.noMemberBuild]
    | some cut => .write (cut.before ++ Template.helperMethod ++ cut.found ++ cut.after) []

/-- Whether a screen shows the video: it carries both marks. -/
def showsVideo (source : Text) : Bool :=
  occursIn Template.widgetMark source && occursIn Template.showVideoMark source

/-- Turn the game area into a row beside the video, and close the row after it. -/
def openRow (source : Text) : Edited :=
  match Anchor.gameArea.find? source with
  | none => .write source [.noGameArea]
  | some area =>
    match Anchor.layoutClosing.find? area.after with
    | none => .write (area.before ++ Template.videoRow ++ area.after) [.noLayoutClosing]
    | some closing =>
      .write (area.before ++ Template.videoRow ++
        (closing.before ++ Template.rowClosing ++ closing.after)) []

/-- Give every build method that returns a scaffold its locals, then open the row. -/
def rewriteBuild (source : Text) : Edited :=
  if showsVideo source then .leave [.alreadyShown]
  else match Anchor.scaffoldBuild.find? source with
    | none => .leave [.noScaffoldBuild]
    | some _ => openRow (Anchor.scaffoldBuild.insertAtEach Template.buildLocals source)

/-- The edits by name. -/
inductive Stage where
  /-- Put the import of the video widget after the last import. -/
  | insertImport
  /-- Put the helper method above the first build method. -/
  | insertHelper
  /-- Give the build methods their locals and show the video beside the game. -/
  | rewriteBuild
  deriving DecidableEq, Repr

namespace Stage

/-- The name of a stage. -/
def name : Stage → Text
  | insertImport => "insert-import".toList
  | insertHelper => "insert-helper".toList
  | rewriteBuild => "rewrite-build".toList

/-- The stages in the order of a retrofit. -/
def all : List Stage := [insertImport, insertHelper, rewriteBuild]

/-- The stage with a name. -/
def ofName? (name : Text) : Option Stage := all.find? fun stage => stage.name = name

/-- Every stage is found by its own name. -/
theorem ofName?_name (stage : Stage) : ofName? stage.name = some stage := by
  cases stage <;> rfl

/-- What a stage makes of a screen. -/
def apply : Stage → Text → Edited
  | insertImport => Screen.insertImport
  | insertHelper => Screen.insertHelper
  | rewriteBuild => Screen.rewriteBuild

end Stage

end ScreenRetrofit.Screen
