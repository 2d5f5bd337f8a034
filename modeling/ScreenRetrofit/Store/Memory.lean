import ScreenRetrofit.Path.Part
import ScreenRetrofit.Store.Basic

/-!
# Stores in memory

A store in memory keeps its texts by the parts of their paths, so that every spelling of a path
reaches the same text; a relative path is seen from the root of the store. Files can be marked as
unreadable or read-only, before or after they are stored, and no operation takes a mark back.
Every write that succeeds is recorded with the path it was made to.
-/

namespace ScreenRetrofit

/-- What two spellings of one path have in common. -/
abbrev Memory.Key := List Path.Part

/-- A store in memory. -/
structure Memory where
  /-- The directory that relative paths are seen from. -/
  root : Path
  /-- The stored texts, the latest first. -/
  files : List (Memory.Key × Text) := []
  /-- The files that cannot be read. -/
  unreadable : List Memory.Key := []
  /-- The files that cannot be written. -/
  readOnly : List Memory.Key := []
  /-- The paths written to, in order. -/
  writes : List Path := []
  deriving DecidableEq, Repr

namespace Memory

/-- The root of a store that is given none. -/
def defaultRoot : Path := .ofString "/mock"

/-- A path as the store sees it. -/
def locate (memory : Memory) (path : Path) : Path :=
  if path.isAbsolute then path else memory.root.join path

/-- What the store keeps a path's text under. -/
def key (memory : Memory) (path : Path) : Key := (memory.locate path).parts

/-- The text stored at a path. -/
def contents (memory : Memory) (path : Path) : Option Text :=
  memory.files.lookup (memory.key path)

/-- Store a text, whatever marks the file has. -/
def addFile (memory : Memory) (path : Path) (text : Text) : Memory :=
  { memory with files := (memory.key path, text) :: memory.files }

/-- Store an empty text and mark the file as unreadable. -/
def addUnreadable (memory : Memory) (path : Path) : Memory :=
  { memory.addFile path [] with unreadable := memory.key path :: memory.unreadable }

/-- Mark a file as read-only, whether it is stored or not. -/
def makeReadOnly (memory : Memory) (path : Path) : Memory :=
  { memory with readOnly := memory.key path :: memory.readOnly }

/-- Whether a file is stored at a path. -/
def isFile (memory : Memory) (path : Path) : Bool := (memory.contents path).isSome

/-- The text stored at a path; the mark of an unreadable file wins over its absence. -/
def read (memory : Memory) (path : Path) : Except StoreFault Text :=
  if memory.key path ∈ memory.unreadable then .error (.unreadable (memory.locate path))
  else match memory.contents path with
    | none => .error (.absent (memory.locate path))
    | some text => .ok text

/-- The store after a write of a text, which a read-only file refuses. -/
def write (memory : Memory) (path : Path) (text : Text) : Except StoreFault Memory :=
  if memory.key path ∈ memory.readOnly then .error (.readOnly (memory.locate path))
  else .ok { memory.addFile path text with writes := memory.writes ++ [memory.locate path] }

/-- The operations of a store that is threaded through a computation. -/
def store : Store (StateM Memory) := .ofState isFile read write

end Memory

end ScreenRetrofit
