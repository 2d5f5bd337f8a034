import ScreenRetrofit.Path.Part

/-!
# Configurations

A configuration names the directory of the game screens and lists the screens by school subject.
Its checks come in a fixed order: the directory, then whether there is any screen, then the
screens one by one, so that of several defects the first one is told.
-/

namespace ScreenRetrofit

/-- The screens of one school subject. -/
structure Config.Group where
  /-- The subject. -/
  subject : Text
  /-- The file names of its screens. -/
  files : List Text
  deriving DecidableEq, Repr

/-- What a run works on. -/
structure Config where
  /-- The directory of the screens. -/
  baseDir : Path
  /-- The screens by subject, in the order of the run. -/
  groups : List Config.Group
  deriving DecidableEq, Repr

namespace Config

/-- All file names in the order of the run. -/
def files (config : Config) : List Text := config.groups.flatMap Group.files

/-- How many files a run visits. -/
def fileCount (config : Config) : Nat := config.files.length

/-- Why a configuration is not fit for a run. -/
inductive Defect where
  /-- There is no directory. -/
  | emptyBaseDir
  /-- There is no file. -/
  | noFiles
  /-- A file name could lead out of the directory. -/
  | invalidFileName (name : Text)
  /-- A file name is listed twice. -/
  | duplicateFile (name : Text)
  deriving DecidableEq, Repr

/-- The words for a defect. -/
def Defect.message : Defect → Text
  | emptyBaseDir => "Base directory is empty".toList
  | noFiles => "No game files configured".toList
  | invalidFileName name =>
    "Invalid game file name '".toList ++ name ++
      "': must be a plain file name inside the base directory".toList
  | duplicateFile name => "Game file '".toList ++ name ++ "' is listed more than once".toList

/-- The first name that is not plain or was seen before, if there is one. -/
def firstDefect? (seen : List Text) : List Text → Option Defect
  | [] => none
  | name :: names =>
    if !Path.isPlainName name then some (.invalidFileName name)
    else if name ∈ seen then some (.duplicateFile name)
    else firstDefect? (name :: seen) names

/-- The first defect of a configuration, if there is one. -/
def defect? (config : Config) : Option Defect :=
  if config.baseDir.text = [] then some .emptyBaseDir
  else if config.files = [] then some .noFiles
  else firstDefect? [] config.files

end Config

end ScreenRetrofit
