import ScreenRetrofit.Program
import ScreenRetrofit.Store.Disk.Basic

/-!
# The command

The program in the world of the operating system. A file that is there is written in place, at
the end of every link to it, so that it keeps its mode and its links.
-/

namespace ScreenRetrofit.Command

/-- The number that the operating system gives a refusal, if it gives one. -/
def systemCode? : IO.Error → Option Nat
  | .alreadyExists _ code _ | .otherError code _ | .resourceBusy code _
  | .resourceVanished code _ | .unsupportedOperation code _ | .hardwareFault code _
  | .unsatisfiedConstraints code _ | .illegalOperation code _ | .protocolError code _
  | .timeExpired code _ | .interrupted _ code _ | .noFileOrDirectory _ code _
  | .invalidArgument _ code _ | .permissionDenied _ code _ | .resourceExhausted _ code _
  | .inappropriateType _ code _ | .noSuchThing _ code _ =>
    some (if code.toNat < 0x80000000 then code.toNat else 0x100000000 - code.toNat)
  | .unexpectedEof | .userError _ => none

/-- What a refusal of the operating system means. -/
def faultOf (error : IO.Error) : SystemFault :=
  match systemCode? error with
  | some 2 => .noEntry
  | some 16 => .busy
  | some 20 => .notDirectory
  | some 21 => .isDirectory
  | some 36 => .nameTooLong
  | some 40 => .linkLoop
  | _ => .other error.toString.toList

/-- The spelling of a path as the operating system takes it. -/
def spelling (path : Path) : String := String.ofList path.text

/-- Whether a path leads to a regular file. -/
def isFile (path : Path) : IO Bool := do
  try
    let place ← IO.FS.realPath (spelling path)
    return (← place.metadata).type == .file
  catch _ => return false

/-- The text of a file. -/
def readText (path : Path) : IO (Except SystemFault Text) := do
  if '\x00' ∈ path.text then return .error .nulInPath
  try
    match Disk.decode? (← IO.FS.readBinFile (spelling path)) with
    | some text => return .ok text
    | none => return .error .notUtf8
  catch error => return .error (faultOf error)

/-- Write a text to a file in place. -/
def write (path : Path) (text : Text) : IO (Except StoreFault Unit) := do
  try
    IO.FS.writeBinFile (spelling path) (Disk.encode text)
    return .ok ()
  catch error => return .error (.notReplaced path (faultOf error))

/-- The world of the operating system. -/
def world : World IO where
  store := {
    isFile := isFile
    read := fun path => return (← readText path).mapError (.readFailed path)
    write := write }
  readText := readText
  workingDir := return .ofString (← IO.currentDir).toString

end ScreenRetrofit.Command

open ScreenRetrofit in
/-- Run the program with the arguments of the command line. -/
def main (arguments : List String) : IO UInt32 := do
  let directives? := (← IO.getEnv "RUST_LOG").map String.toList
  let exit ← Program.call Command.world directives? (arguments.map String.toList)
  IO.print (String.ofList exit.output)
  IO.eprint (String.ofList exit.errors)
  return UInt32.ofNat exit.code
