import ScreenRetrofit.Store.Disk.Resolve

/-!
# Stores on a disk

Reading follows links. A write goes to the end of the links: the new text is prepared in a temporary
file beside the file that a path leads to, gets the mode of that file, and takes its place in one
step, so a link to it stays a link. Where the path leads nowhere, the write puts a new file of mode
600 in the directory that the path names, in place of a link that leads nowhere if there is one.

Every step of a write may be refused by the operating system for reasons that the tree does not show
(`System`); a temporary file that does not come to take its place is deleted.
-/

namespace ScreenRetrofit.Disk

/-- The mode of a file that a write makes. -/
def newFileMode : Nat := 0o600

/-- Whether a path leads to a file. -/
def isFile (disk : Disk) (path : Path) : Bool :=
  match disk.resolve path with
  | .error _ => false
  | .ok location =>
    match disk.entryAt? location with
    | some (.file ..) => true
    | _ => false

/-- The text of the file that a path leads to. -/
def readText (disk : Disk) (path : Path) : Except SystemFault Text := do
  let location ← disk.resolve path
  match disk.entryAt? location with
  | some (.file bytes _) =>
    match decode? bytes with
    | some text => return text
    | none => throw .notUtf8
  | some _ => throw .isDirectory
  | none => throw .noEntry

/-- The text of a file, with the path in every failure. -/
def read (disk : Disk) (path : Path) : Except StoreFault Text :=
  (disk.readText path).mapError (.readFailed path)

/-- A step of a write that an operating system takes. -/
inductive Step where
  /-- Tell the mode of the file. -/
  | metadata
  /-- Make a temporary file. -/
  | create
  /-- Put the new text into it. -/
  | fill
  /-- Give it the mode of the file. -/
  | setMode
  /-- Let it take the place of the file. -/
  | rename
  deriving DecidableEq, Repr

/-- What an operating system decides about writes, besides what follows from the tree. -/
structure System where
  /-- The names that are tried for a temporary file, from the greatest number down. -/
  name : Nat → Text
  /-- How many names are tried. -/
  tries : Nat
  /-- Why a step is refused that the tree allows, such as a full disk. -/
  refusal? : Step → Disk → Option SystemFault

/-- The system that refuses nothing of its own accord. -/
def System.standard : System where
  name number := ".tmp".toList ++ (Nat.toDigits 10 (1000000 + number)).tail
  tries := 65536
  refusal? _ _ := none

/-- Work on a tree that may fail; what was done before a failure stays done. -/
abbrev Work := ExceptT StoreFault (StateM Disk)

/-- Fail where the system refuses a step. -/
def System.allow (system : System) (step : Step) (fault : SystemFault → StoreFault) :
    Work Unit := do
  match system.refusal? step (← get) with
  | some cause => throw (fault cause)
  | none => return ()

/-- The mode of the file at a location; a directory has none that a file could be given. -/
def modeAt? (disk : Disk) (location : Location) : Option Nat :=
  match disk.entryAt? location with
  | some (.file _ mode) => some mode
  | _ => none

/-- The path that a write puts its text at, and the mode of the file there. A path that leads
somewhere is followed, and a path that leads nowhere is taken as it is. -/
def System.target (system : System) (path : Path) : Work (Path × Option Nat) := do
  match (← get).locate path with
  | .error _ => return (path, none)
  | .ok location =>
    system.allow .metadata (.noMetadata location.path)
    match (← get).resolve location.path with
    | .error cause => throw (.noMetadata location.path cause)
    | .ok resolved => return (location.path, (← get).modeAt? resolved)

/-- The directory in which the new text of a file is prepared. -/
def workplace (target : Path) : Path :=
  match target.parent? with
  | none => .ofString "."
  | some parent => if parent.text = [] then .ofString "." else parent

/-- The first free location of those tried for a temporary file in a directory. -/
def freeLocation (system : System) (disk : Disk) (directory : Path) :
    Nat → Except SystemFault Location
  | 0 => .error (.other "too many temporary files exist".toList)
  | number + 1 =>
    match disk.place (disk.workingDir.path.join (directory.join ⟨system.name number⟩)) with
    | .error cause => .error cause
    | .ok location =>
      if (disk.entryAt? location).isSome then freeLocation system disk directory number
      else .ok location

/-- Make a temporary file in a directory. -/
def System.create (system : System) (directory : Path) : Work Location := do
  system.allow .create (.noTemporary directory)
  match freeLocation system (← get) directory system.tries with
  | .error cause => throw (.noTemporary directory cause)
  | .ok temporary =>
    modify (·.put temporary (.file .empty newFileMode))
    return temporary

/-- Let a temporary file take the place of whatever stands at a path, in one step. -/
def System.rename (system : System) (temporary : Location) (target : Path) : Work Unit := do
  system.allow .rename (.notReplaced target)
  match (← get).slot target with
  | .error cause => throw (.notReplaced target cause)
  | .ok location => modify (·.move temporary location)

/-- Give a temporary file its text and its mode, and let it take the place that it is made for. -/
def System.persist (system : System) (temporary : Location) (target : Path) (mode? : Option Nat)
    (text : Text) : Work Unit := do
  system.allow .fill (.notFilled target)
  modify (·.put temporary (.file (encode text) newFileMode))
  if let some mode := mode? then
    system.allow .setMode (.modeNotKept target)
    modify (·.put temporary (.file (encode text) mode))
  system.rename temporary target

/-- Write a text to a path: it is prepared in a temporary file, which is deleted where it cannot
take its place. -/
def System.write (system : System) (path : Path) (text : Text) : Work Unit := do
  let (target, mode?) ← system.target path
  let temporary ← system.create (workplace target)
  tryCatch (system.persist temporary target mode? text) fun fault => do
    modify (·.remove temporary)
    throw fault

/-- The operations of a tree that is threaded through a computation, on a given system. -/
def System.store (system : System) : Store (StateM Disk) where
  isFile path := return (← get).isFile path
  read path := return (← get).read path
  write path text := (system.write path text).run

/-- The operations of a tree that is threaded through a computation. -/
def store : Store (StateM Disk) := System.standard.store

end ScreenRetrofit.Disk
