import ScreenRetrofit.Log.Message

/-!
# Notices of the edits

What an edit of a game screen has to say when it leaves the screen alone or can do only a part of
its work.
-/

namespace ScreenRetrofit.Screen

/-- A remark on one edit of one screen. -/
inductive Notice where
  /-- There is no import to put the video's import after. -/
  | noImport
  /-- There is no build method to put the helper above. -/
  | noMemberBuild
  /-- The screen shows the video already. -/
  | alreadyShown
  /-- No build method starts by returning a scaffold. -/
  | noScaffoldBuild
  /-- Only the locals could be added. -/
  | noGameArea
  /-- The row was opened and could not be closed. -/
  | noLayoutClosing
  deriving DecidableEq, Repr

/-- The message that a notice is logged as. -/
def Notice.message : Notice → Log.Message
  | noImport =>
    ⟨.debug, "game_video_retrofit::retrofit::import".toList,
      "no import statement found, skipping video import".toList, []⟩
  | noMemberBuild =>
    ⟨.debug, "game_video_retrofit::retrofit::helper".toList,
      "no build method at member indentation, skipping helper".toList, []⟩
  | alreadyShown =>
    ⟨.info, "game_video_retrofit::retrofit::build_method".toList,
      "video already integrated".toList, []⟩
  | noScaffoldBuild =>
    ⟨.info, "game_video_retrofit::retrofit::build_method".toList,
      "no standard build method found".toList, []⟩
  | noGameArea =>
    ⟨.info, "game_video_retrofit::retrofit::build_method".toList,
      "game area not found, only screen width locals were added".toList, []⟩
  | noLayoutClosing =>
    ⟨.warn, "game_video_retrofit::retrofit::build_method".toList,
      "layout closing not found, rewritten build method is unbalanced".toList, []⟩

end ScreenRetrofit.Screen
