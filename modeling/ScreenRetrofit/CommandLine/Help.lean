import ScreenRetrofit.CommandLine.Options

/-!
# Help texts

The explanation of the program in a short and a long form, and its version.
-/

namespace ScreenRetrofit.CommandLine

/-- The name of the program. -/
def programName : Text := "game-video-retrofit".toList

/-- The version of the program. -/
def programVersion : Text := "0.1.0".toList

/-- The answer to a question for the version. -/
def versionText : Text := programName ++ ' ' :: programVersion ++ ['\n']

/-- What the program does, in one sentence. -/
def summary : Text := "Retrofits the shared game video widget into Flutter game screens".toList

/-- What the program does, and how it is called. -/
def description : Text :=
  ("Rewrites each configured game screen in place: adds the video widget import, the " ++
    "_getCurrentVideoType() helper, and a two-column layout with the video next to the game " ++
    "area. Files that are already migrated are left untouched, so the tool can be run any " ++
    "number of times.\n\nExamples:\n  game-video-retrofit\n  game-video-retrofit --base-dir " ++
    "/path/to/app/lib/presentation/screens/games\n  game-video-retrofit --config " ++
    "retrofit.toml").toList

/-- How the program is called. -/
def usage : Text := "Usage: game-video-retrofit [OPTIONS]\n".toList

/-- The explanation of an option, in the short or in the long help. -/
def explain (long : Bool) : Opt → Text
  | .config => "TOML file with the base directory and game file list".toList
  | .baseDir => "Directory holding the game screens (overrides the config file)".toList
  | .logLevel => "Set logging level".toList
  | .verbose => "Show debug diagnostics".toList
  | .quiet => "Quiet mode - only log errors".toList
  | .help =>
    if long then "Print help (see a summary with '-h')".toList
    else "Print help (see more with '--help')".toList
  | .version => "Print version".toList

/-- The spellings of an option at the start of a line; a missing letter leaves its place blank. -/
def spellings (opt : Opt) : Text :=
  "  ".toList ++
    (match opt.letter? with
    | some letter => ['-', letter, ',', ' ']
    | none => List.replicate 4 ' ') ++ opt.shown

/-- The width of the column of spellings: the longest of them and two blanks. -/
def spellingWidth : Nat := (Opt.all.map fun opt => (spellings opt).length).foldl max 0 + 2

/-- An option in the short help: one line. -/
def shortEntry (opt : Opt) : Text :=
  spellings opt ++ List.replicate (spellingWidth - (spellings opt).length) ' ' ++
    explain false opt ++ ['\n']

/-- An option in the long help: the spellings, and the explanation below them. -/
def longEntry (opt : Opt) : Text :=
  spellings opt ++ '\n' :: List.replicate 10 ' ' ++ explain true opt ++ ['\n']

/-- The short or the long help. -/
def helpText (long : Bool) : Text :=
  (if long then description else summary) ++ "\n\n".toList ++ usage ++ "\nOptions:\n".toList ++
    if long then ['\n'].intercalate (Opt.all.map longEntry) else Opt.all.flatMap shortEntry

end ScreenRetrofit.CommandLine
