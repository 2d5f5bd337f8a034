import ScreenRetrofit.Path.Basic

/-!
# Stores

A store holds texts by path. It is given by its three operations, which may fail for the causes
listed here; a failure is shown as its headline alone or with the cause that it was met with.
-/

namespace ScreenRetrofit

/-- Why an operating system refuses a path, or a file is no text. -/
inductive SystemFault where
  /-- There is nothing at the path. -/
  | noEntry
  /-- A directory stands where a file is wanted. -/
  | isDirectory
  /-- A file stands where a directory is wanted. -/
  | notDirectory
  /-- Too many links were followed. -/
  | linkLoop
  /-- A name or the whole path is too long. -/
  | nameTooLong
  /-- The entry is in use. -/
  | busy
  /-- The path holds a NUL character. -/
  | nulInPath
  /-- The bytes are no UTF-8. -/
  | notUtf8
  /-- Another refusal, in the words of the system. -/
  | other (words : Text)
  deriving DecidableEq, Repr

/-- The words for a refusal. -/
def SystemFault.message : SystemFault → Text
  | noEntry => "No such file or directory (os error 2)".toList
  | isDirectory => "Is a directory (os error 21)".toList
  | notDirectory => "Not a directory (os error 20)".toList
  | linkLoop => "Too many levels of symbolic links (os error 40)".toList
  | nameTooLong => "File name too long (os error 36)".toList
  | busy => "Device or resource busy (os error 16)".toList
  | nulInPath => "file name contained an unexpected NUL byte".toList
  | notUtf8 => "stream did not contain valid UTF-8".toList
  | other words => words

/-- Why an operation of a store failed. -/
inductive StoreFault where
  /-- The file is marked as one that cannot be read. -/
  | unreadable (path : Path)
  /-- Nothing is stored at the path. -/
  | absent (path : Path)
  /-- The file is marked as one that cannot be written. -/
  | readOnly (path : Path)
  /-- The file could not be read. -/
  | readFailed (path : Path) (cause : SystemFault)
  /-- The mode of the file could not be told. -/
  | noMetadata (target : Path) (cause : SystemFault)
  /-- There is no place beside the file for its new text. -/
  | noTemporary (directory : Path) (cause : SystemFault)
  /-- The new text could not be put there. -/
  | notFilled (target : Path) (cause : SystemFault)
  /-- The new text could not be given the mode of the file. -/
  | modeNotKept (target : Path) (cause : SystemFault)
  /-- The new text could not take the place of the file. -/
  | notReplaced (target : Path) (cause : SystemFault)
  deriving DecidableEq, Repr

namespace StoreFault

/-- What failed. -/
def headline : StoreFault → Text
  | unreadable path => "stream did not contain valid UTF-8: ".toList ++ path.quoted
  | absent path => "File not found: ".toList ++ path.quoted
  | readOnly path => "Permission denied: ".toList ++ path.quoted
  | readFailed path _ => "Failed to read file ".toList ++ path.quoted
  | noMetadata target _ => "Failed to get metadata for ".toList ++ target.quoted
  | noTemporary directory _ => "Failed to create temporary file in ".toList ++ directory.quoted
  | notFilled target _ => "Failed to write temporary file for ".toList ++ target.quoted
  | modeNotKept target _ => "Failed to copy permissions of ".toList ++ target.quoted
  | notReplaced target _ => "Failed to replace file ".toList ++ target.quoted

/-- What it was met with, where the store knows. -/
def cause? : StoreFault → Option SystemFault
  | unreadable _ | absent _ | readOnly _ => none
  | readFailed _ cause | noMetadata _ cause | noTemporary _ cause | notFilled _ cause
  | modeNotKept _ cause | notReplaced _ cause => some cause

/-- What failed and what it was met with. -/
def message (fault : StoreFault) : Text :=
  match fault.cause? with
  | none => fault.headline
  | some cause => fault.headline ++ ": ".toList ++ cause.message

end StoreFault

/-- The operations of a store whose steps are effects of `m`. -/
structure Store (m : Type → Type) where
  /-- Whether a file is stored at a path. -/
  isFile : Path → m Bool
  /-- The text stored at a path. -/
  read : Path → m (Except StoreFault Text)
  /-- Store a text at a path. -/
  write : Path → Text → m (Except StoreFault Unit)

namespace Store

/-- The store of a state that is threaded through a computation. It is asked and read without
changing it; a write gives the state after it, and one that fails leaves the state as it is. -/
def ofState {σ : Type} (isFile : σ → Path → Bool) (read : σ → Path → Except StoreFault Text)
    (write : σ → Path → Text → Except StoreFault σ) : Store (StateM σ) where
  isFile path := do return isFile (← get) path
  read path := do return read (← get) path
  write path text := do
    match write (← get) path text with
    | .ok state => set state; return .ok ()
    | .error fault => return .error fault

section OfState

variable {σ : Type} (isFile : σ → Path → Bool) (read : σ → Path → Except StoreFault Text)
  (write : σ → Path → Text → Except StoreFault σ)

/-- Asking for a file leaves the state as it is. -/
@[simp] theorem run_isFile_ofState (path : Path) (state : σ) :
    ((ofState isFile read write).isFile path).run state = pure (isFile state path, state) := rfl

/-- Reading leaves the state as it is. -/
@[simp] theorem run_read_ofState (path : Path) (state : σ) :
    ((ofState isFile read write).read path).run state = pure (read state path, state) := rfl

/-- A write that succeeds gives the state after it. -/
theorem run_write_ofState {path : Path} {text : Text} {state after : σ}
    (written : write state path text = .ok after) :
    ((ofState isFile read write).write path text).run state = pure (.ok (), after) := by
  simp [ofState, written]

/-- A write that fails leaves the state as it is. -/
theorem run_write_ofState_error {path : Path} {text : Text} {state : σ} {fault : StoreFault}
    (refused : write state path text = .error fault) :
    ((ofState isFile read write).write path text).run state = pure (.error fault, state) := by
  simp [ofState, refused]

end OfState

end Store

end ScreenRetrofit
