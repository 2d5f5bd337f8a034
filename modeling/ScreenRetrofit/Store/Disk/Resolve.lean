import ScreenRetrofit.Store.Basic
import ScreenRetrofit.Store.Disk.Tree

/-!
# Resolving paths on a disk

A path is walked piece by piece from the root or the working directory. A link is replaced by the
pieces of its target, at most forty times; two dots lead to the directory above; whatever stands
in front of a slash must be a directory. The walk ends at the location of a directory or a file,
or with the reason why it cannot go on. A file is opened only by a path whose spelling is not too
long; the place that a path leads to can be told for every spelling.
-/

namespace ScreenRetrofit.Disk

/-- How many links one walk follows. -/
def linkLimit : Nat := 40

/-- The greatest size of a name in bytes. -/
def nameLimit : Nat := 255

/-- The size in bytes that a path has to stay below. -/
def pathLimit : Nat := 4096

/-- Walk pieces from a directory, following so many links. -/
def walk (disk : Disk) (links : Nat) (here : Location) (pieces : List Text) :
    Except SystemFault Location :=
  match pieces with
  | [] => .ok here
  | piece :: rest =>
    if Path.isFiller piece then disk.walk links here rest
    else if piece = ['.', '.'] then disk.walk links here.dropLast rest
    else if Text.utf8Length piece > nameLimit then .error .nameTooLong
    else match disk.entryAt? (here ++ [piece]) with
      | none => .error .noEntry
      | some .directory => disk.walk links (here ++ [piece]) rest
      | some (.file ..) => if rest = [] then .ok (here ++ [piece]) else .error .notDirectory
      | some (.link target) =>
        match links with
        | 0 => .error .linkLoop
        | links + 1 =>
          disk.walk links (if target.isAbsolute then [] else here) (target.pieces ++ rest)
termination_by (links, pieces.length)

/-- Where the walk of a path starts. -/
def start (disk : Disk) (path : Path) : Location :=
  if path.isAbsolute then [] else disk.workingDir

/-- Why a path is no spelling of any place, if it is none. -/
def refusal? (path : Path) : Option SystemFault :=
  if '\x00' ∈ path.text then some .nulInPath
  else if path.text = [] then some .noEntry
  else none

/-- The location of the directory or file that a path leads to, however long its spelling is. -/
def locate (disk : Disk) (path : Path) : Except SystemFault Location :=
  match refusal? path with
  | some fault => .error fault
  | none => disk.walk linkLimit (disk.start path) path.pieces

/-- Whether the spelling of a path is longer than a file can be opened by. -/
def isTooLong (path : Path) : Bool := Text.utf8Length path.text ≥ pathLimit

/-- The location of the directory or file that is opened by a path. -/
def resolve (disk : Disk) (path : Path) : Except SystemFault Location :=
  match refusal? path with
  | some fault => .error fault
  | none => if isTooLong path then .error .nameTooLong else disk.locate path

/-- The location of a new entry of a path's name: the last piece names it in the directory that the
pieces before lead to, and a link there is not followed. -/
def place (disk : Disk) (path : Path) : Except SystemFault Location := do
  if let some fault := refusal? path then throw fault
  if isTooLong path then throw .nameTooLong
  let directory ← disk.walk linkLimit (disk.start path) path.pieces.dropLast
  let name := path.pieces.getLastD []
  if !disk.isDirectory directory then throw .notDirectory
  else if name = [] then throw (if directory = [] then .busy else .notDirectory)
  else if name = ['.'] ∨ name = ['.', '.'] then throw .busy
  else if Text.utf8Length name > nameLimit then throw .nameTooLong
  else return directory ++ [name]

/-- The location at which a file takes the place of whatever stands at a path, which must not be a
directory. -/
def slot (disk : Disk) (path : Path) : Except SystemFault Location := do
  let location ← disk.place path
  if disk.isDirectory location then throw .isDirectory else return location

end ScreenRetrofit.Disk
