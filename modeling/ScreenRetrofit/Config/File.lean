import ScreenRetrofit.Config.Shape
import ScreenRetrofit.Store.Basic
import ScreenRetrofit.Toml.Document

/-!
# Configuration files

A configuration file is a TOML document. A relative directory in it is seen from the directory
that holds the file, so a run does not depend on where it is started from.
-/

namespace ScreenRetrofit.Config

/-- Why there is no configuration to run on. -/
inductive Fault where
  /-- The file could not be read. -/
  | unreadable (path : Path) (cause : SystemFault)
  /-- The text is no TOML document. -/
  | notToml
  /-- The document is no configuration. -/
  | misfit (reason : Misfit)
  /-- The configuration is not fit for a run. -/
  | defect (reason : Defect)
  deriving DecidableEq, Repr

/-- The words for a fault. -/
def Fault.message : Fault → Text
  | unreadable path cause =>
    "Failed to read config file ".toList ++ path.quoted ++ ": ".toList ++ cause.message
  | notToml => "Failed to parse config: not a TOML document".toList
  | misfit reason => "Failed to parse config: ".toList ++ reason.message
  | defect reason => reason.message

/-- The configuration that a text describes. -/
def ofText (text : Text) : Except Fault Config :=
  match Toml.read? text with
  | none => .error .notToml
  | some entries => (ofEntries entries).mapError .misfit

/-- A configuration read from a file at a path, with its directory as the run sees it. -/
def placedAt (path : Path) (config : Config) : Config :=
  if config.baseDir.isAbsolute then config
  else match path.parent? with
    | none => config
    | some parent => { config with baseDir := parent.join config.baseDir }

/-- The configuration of a file at a path, from what reading the file gave. -/
def ofFile (path : Path) (read : Except SystemFault Text) : Except Fault Config := do
  let text ← read.mapError (.unreadable path)
  return (← ofText text).placedAt path

/-- A configuration that is fit for a run. -/
def checked (config : Config) : Except Fault Config :=
  match config.defect? with
  | none => .ok config
  | some defect => .error (.defect defect)

end ScreenRetrofit.Config
