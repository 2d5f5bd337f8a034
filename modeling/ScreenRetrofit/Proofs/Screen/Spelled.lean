import ScreenRetrofit.Screen.Anchor
import ScreenRetrofit.Screen.Template
import ScreenRetrofit.Proofs.Pattern.Standing

/-!
# The landmarks and templates of a retrofit, spelled out

Every landmark of a game screen is definite, so a search for it misses nothing. Landmarks and
templates are spelled out as slots here, once each; whether two of them are apart is then read off
their slots.
-/

namespace ScreenRetrofit

open Pattern (Spelling)

namespace Anchor

/-- Imports are found wherever they stand. -/
theorem importLine_definite : importLine.Definite := ⟨rfl, rfl, rfl⟩

/-- Build methods of a class are found wherever they stand. -/
theorem memberBuild_definite : memberBuild.Definite := ⟨rfl, rfl, rfl⟩

/-- Build methods that return a scaffold are found wherever they stand. -/
theorem scaffoldBuild_definite : scaffoldBuild.Definite := ⟨rfl, rfl, rfl⟩

/-- Game areas are found wherever they stand. -/
theorem gameArea_definite : gameArea.Definite := ⟨rfl, rfl, rfl⟩

/-- Closings of the layout are found wherever they stand. -/
theorem layoutClosing_definite : layoutClosing.Definite := ⟨rfl, rfl, rfl⟩

/-- The end of an import statement and of its line. -/
def importEnd : Pattern := [.literal ";\n".toList]

end Anchor

namespace Spelled

/-- The end of an import statement and of its line. -/
def importEnd : Spelling Anchor.importEnd := .literal rfl .nil

/-- An import statement and the end of its line. -/
def importLine : Spelling Anchor.importLine.pattern :=
  .literal rfl <| .some <| .literal rfl .nil

/-- A build method of a class. -/
def memberBuild : Spelling Anchor.memberBuild.pattern :=
  .literal rfl <| .some <| .literal rfl .nil

/-- A build method that returns a scaffold. -/
def scaffoldBuild : Spelling Anchor.scaffoldBuild.pattern :=
  .literal rfl <| .some <| .literal rfl <| .many <| .literal rfl <| .many <| .literal rfl .nil

/-- The opening of the game area. -/
def gameArea : Spelling Anchor.gameArea.pattern :=
  .literal rfl <| .some <| .literal rfl <| .some <| .literal rfl <| .some <| .literal rfl .nil

/-- The closing of the layout. -/
def layoutClosing : Spelling Anchor.layoutClosing.pattern :=
  .literal rfl <| .some <| .literal rfl <| .some <| .literal rfl <| .some <| .literal rfl <|
    .many <| .literal rfl <| .some <| .literal rfl <| .some <| .literal rfl <| .some <|
      .literal rfl <| .some <| .literal rfl .nil

/-- The import of the video widget. -/
def videoImport : Spelling [.literal Template.videoImport] := .literal rfl .nil

/-- The line of the import of the video widget. -/
def videoImportLine : Spelling [.literal Template.videoImport, .literal "\n".toList] :=
  .literal rfl <| .literal rfl .nil

/-- The mark of the helper method. -/
def helperMark : Spelling [.literal Template.helperMark] := .literal rfl .nil

set_option maxRecDepth 2000 in
/-- The helper method. -/
def helperMethod : Spelling [.literal Template.helperMethod] := .literal rfl .nil

/-- The first mark of a screen that shows the video. -/
def widgetMark : Spelling [.literal Template.widgetMark] := .literal rfl .nil

/-- The second mark of a screen that shows the video. -/
def showVideoMark : Spelling [.literal Template.showVideoMark] := .literal rfl .nil

/-- The locals of a build method, with the start of the body that they are put before. -/
def buildLocals : Spelling (.literal Template.buildLocals :: Anchor.scaffoldBuild.tail) :=
  .literal rfl <| .many <| .literal rfl .nil

set_option maxRecDepth 8000 in
/-- The opening of the row. -/
def videoRow : Spelling [.literal Template.videoRow] := .literal rfl .nil

/-- The closing of the row. -/
def rowClosing : Spelling [.literal Template.rowClosing] := .literal rfl .nil

end Spelled

namespace Text

/-- What is true of the characters of a literal is true of the literal. -/
theorem of_literal {motive : Text → Prop} {written : String} {chars : Text}
    (spelled : written = String.ofList chars) (checked : motive chars) : motive written.toList := by
  rw [spelled, String.toList_ofList]
  exact checked

/-- Whether a literal occurs in another is told by their characters. -/
theorem occursIn_of_literals {needle text : String} {inner outer : Text} {answer : Bool}
    (first : needle = String.ofList inner) (second : text = String.ofList outer)
    (checked : occursIn inner outer = answer) : occursIn needle.toList text.toList = answer := by
  rw [first, second, String.toList_ofList, String.toList_ofList]
  exact checked

end Text

namespace Template

set_option maxRecDepth 2000 in
/-- The helper method has its mark. -/
theorem helperMark_standsIn_helperMethod :
    Pattern.StandsIn [.literal helperMark] helperMethod :=
  Pattern.standsIn_literal.mpr (Text.occursIn_of_literals rfl rfl (by decide))

set_option maxRecDepth 8000 in
/-- The row calls the helper method. -/
theorem helperMark_standsIn_videoRow : Pattern.StandsIn [.literal helperMark] videoRow :=
  Pattern.standsIn_literal.mpr (Text.occursIn_of_literals rfl rfl (by decide))

set_option maxRecDepth 8000 in
/-- The row has the first mark of a screen that shows the video. -/
theorem widgetMark_standsIn_videoRow : Pattern.StandsIn [.literal widgetMark] videoRow :=
  Pattern.standsIn_literal.mpr (Text.occursIn_of_literals rfl rfl (by decide))

/-- The locals have the second mark of a screen that shows the video. -/
theorem showVideoMark_standsIn_buildLocals :
    Pattern.StandsIn [.literal showVideoMark] buildLocals :=
  Pattern.standsIn_literal.mpr (Text.occursIn_of_literals rfl rfl (by decide))

end Template

namespace Screen

/-- No build method starts inside another. -/
theorem scaffoldBuild_closed : Anchor.scaffoldBuild.pattern.Closed :=
  Spelled.scaffoldBuild.closed (by decide)

end Screen

end ScreenRetrofit
