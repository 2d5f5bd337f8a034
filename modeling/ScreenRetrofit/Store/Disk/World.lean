import ScreenRetrofit.Program
import ScreenRetrofit.Store.Disk.Basic

/-!
# A disk to work in

The world of a program that works on a disk tree.
-/

namespace ScreenRetrofit.Disk

/-- The disk tree as a world. -/
def world : World (StateM Disk) where
  store := store
  readText path := do return (← get).readText path
  workingDir := do return (← get).workingDir.path

end ScreenRetrofit.Disk
