import ScreenRetrofit.Path.Basic

/-!
# Parts of a path

The parts of a path are its steps: the root, the starting directory, one directory up, or a name.
Repeated slashes, slashes at the end and single dots past the start are no parts, so spellings
that differ only in them have the same parts and name the same file. A step up is a part of its
own; nothing is cancelled against it.
-/

namespace ScreenRetrofit.Path

/-- One step of a path. -/
inductive Part where
  /-- The root, which an absolute path starts at. -/
  | root
  /-- The starting directory, written as a dot at the front. -/
  | here
  /-- One directory up, written as two dots. -/
  | up
  /-- An entry of a directory. -/
  | name (name : Text)
  deriving DecidableEq, Repr

/-- The step that a piece past the start stands for, if it stands for one. -/
def Part.ofPiece? (piece : Text) : Option Part :=
  if isFiller piece then none
  else if piece = ['.', '.'] then some .up
  else some (.name piece)

/-- The steps of a path. -/
def parts (path : Path) : List Part :=
  let steps := path.pieces.filterMap Part.ofPiece?
  if path.isAbsolute then .root :: steps
  else if path.pieces.head? = some ['.'] then .here :: steps
  else steps

/-- Whether a text is a plain file name: as a path it is one name, and it holds no separator of
any system. -/
def isPlainName (text : Text) : Bool :=
  !text.contains '/' && !text.contains '\\' && parts ⟨text⟩ == [.name text]

end ScreenRetrofit.Path
