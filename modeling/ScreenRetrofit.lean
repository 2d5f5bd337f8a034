import ScreenRetrofit.CommandLine.Answer
import ScreenRetrofit.Main
import ScreenRetrofit.Proofs.Screen.AtOnce
import ScreenRetrofit.Proofs.Run.Confined
import ScreenRetrofit.Proofs.Run.DiskVisit
import ScreenRetrofit.Proofs.Run.Independence
import ScreenRetrofit.Proofs.Run.Outcome
import ScreenRetrofit.Proofs.Screen.Balance
import ScreenRetrofit.Proofs.Screen.Changed
import ScreenRetrofit.Proofs.Screen.Course
import ScreenRetrofit.Proofs.Screen.Helper
import ScreenRetrofit.Proofs.Screen.InBytes
import ScreenRetrofit.Proofs.Screen.Rerun
import ScreenRetrofit.Proofs.Screen.Scan
import ScreenRetrofit.Store.Disk.World
import ScreenRetrofit.Store.Memory
import ScreenRetrofit.Proofs.Store.Disk.Canonical
import ScreenRetrofit.Proofs.Store.Disk.Written
import ScreenRetrofit.Proofs.Pattern.Single
import ScreenRetrofit.Proofs.Screen.Import
import ScreenRetrofit.Proofs.Config.Placed
import ScreenRetrofit.Proofs.Screen.Class
import ScreenRetrofit.Proofs.Screen.Front
import ScreenRetrofit.Proofs.Screen.Undone
import ScreenRetrofit.Proofs.Run.Account
import ScreenRetrofit.Proofs.Store.History
