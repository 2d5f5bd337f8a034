import ScreenRetrofit.Path.Basic
import ScreenRetrofit.Run.Outcome
import ScreenRetrofit.Screen.Notice

/-!
# Events of a run

What a run has to log, from its start to its end, and the messages that the events are logged as.
-/

namespace ScreenRetrofit

/-- One thing that a run logs. -/
inductive Event where
  /-- A run starts on so many files of a directory. -/
  | started (baseDir : Path) (files : Nat)
  /-- A group of so many files is next. -/
  | group (subject : Text) (files : Nat)
  /-- There is no regular file at a path. -/
  | notRegular (path : Path)
  /-- An edit of a screen has a remark. -/
  | remark (notice : Screen.Notice)
  /-- A screen was written: its sizes in bytes before and after. -/
  | wrote (before after : Nat)
  /-- A file could not be read or written. -/
  | failed (file message : Text)
  /-- A run is over. -/
  | finished (summary : Summary)
  deriving DecidableEq, Repr

namespace Event

/-- The part of the program that visits the files in order. -/
def runSource : Text := "game_video_retrofit::driver".toList

/-- The part of the program that works on one file. -/
def visitSource : Text := "game_video_retrofit::processor".toList

/-- A number as a field shows it. -/
private def number (n : Nat) : Text := Nat.toDigits 10 n

/-- The message that an event is logged as. -/
def message : Event → Log.Message
  | started baseDir files =>
    ⟨.info, runSource, "starting video retrofit".toList,
      [("base_dir".toList, baseDir.quoted), ("files".toList, number files)]⟩
  | group subject files =>
    ⟨.info, runSource, "processing group".toList,
      [("subject".toList, subject), ("files".toList, number files)]⟩
  | notRegular path =>
    ⟨.debug, visitSource, "not a regular file".toList, [("path".toList, path.quoted)]⟩
  | remark notice => notice.message
  | wrote before after =>
    ⟨.debug, visitSource, "wrote rewritten screen".toList,
      [("before".toList, number before), ("after".toList, number after)]⟩
  | failed file message =>
    ⟨.warn, runSource, "failed to process file".toList,
      [("file".toList, file), ("error".toList, message)]⟩
  | finished summary =>
    ⟨.info, runSource, "video retrofit finished".toList,
      [("updated".toList, number summary.updated), ("unchanged".toList, number summary.unchanged),
        ("missing".toList, number summary.missing), ("errors".toList, number summary.errors)]⟩

end Event

end ScreenRetrofit
