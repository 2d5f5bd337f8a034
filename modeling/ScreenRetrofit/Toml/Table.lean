import ScreenRetrofit.Toml.Value

/-!
# Building tables

A document adds to its tables line by line. Dotted keys and headers pass through tables and make
those that are missing; the origin of a table says which of the two may pass and what may be
added. A key is never given a second value.
-/

namespace ScreenRetrofit.Toml

namespace Entries

/-- The value of a key. -/
def value? (entries : Entries) (key : Text) : Option Value := entries.lookup key

/-- The entries with the value of a key replaced where the key stands, or added at the end. -/
def set (key : Text) (value : Value) : Entries → Entries
  | [] => [(key, value)]
  | (other, kept) :: entries =>
    if other = key then (key, value) :: entries else (other, kept) :: set key value entries

/-- Change the last of several tables. -/
def changeLast (change : Entries → Option Entries) : List Entries → Option (List Entries)
  | [] => none
  | [last] => do return [← change last]
  | first :: rest => do return first :: (← changeLast change rest)

/-- Pass from a table along keys and change the table at their end. Missing tables are made with
an origin; `mayEnter` says which tables may be passed. The last table of an array of tables may
always be passed and counts as one of a header of its own. -/
def along (made : Origin) (mayEnter : Origin → Bool)
    (change : Origin → Entries → Option Entries) : List Text → Origin → Entries → Option Entries
  | [], origin, entries => change origin entries
  | key :: keys, _, entries =>
    match entries.value? key with
    | none => do
      let inner ← along made mayEnter change keys made []
      return entries.set key (.table made inner)
    | some (.table origin inner) => do
      guard (mayEnter origin)
      let changed ← along made mayEnter change keys origin inner
      return entries.set key (.table origin changed)
    | some (.rows tables) => do
      let changed ← changeLast (along made mayEnter change keys .header) tables
      return entries.set key (.rows changed)
    | some _ => none

/-- Give a key its value, passing along the keys before it; only tables that were passed through
before may be passed, and the last of them must come from dotted keys itself. -/
def assign (keys : List Text) (key : Text) (value : Value) (origin : Origin) (entries : Entries) :
    Option Entries :=
  along .dotted (fun origin => origin = .passed || origin = .dotted)
    (fun reached inner =>
      if (!keys.isEmpty && reached != .dotted) || (inner.value? key).isSome then none
      else some (inner ++ [(key, value)]))
    keys origin entries

/-- Make several assignments in order. -/
def assignAll (origin : Origin) (entries : Entries) :
    List (List Text × Text × Value) → Option Entries
  | [] => some entries
  | (keys, key, value) :: rest => do
    assignAll origin (← assign keys key value origin entries) rest

/-- Whether a header may pass a table. -/
def headerMayEnter (origin : Origin) : Bool := origin != .braces

/-- Open a table by a header, with the assignments below the header. A table that was only passed
through is opened where it is found, and becomes the last one of those around it. -/
def openTable (keys : List Text) (key : Text) (below : List (List Text × Text × Value))
    (entries : Entries) : Option Entries :=
  along .passed headerMayEnter
    (fun _ inner => do
      let found ← match inner.value? key with
        | none => some []
        | some (.table .passed found) => some found
        | some _ => none
      let filled ← assignAll .header found below
      return inner.filter (fun entry => entry.1 ≠ key) ++ [(key, .table .header filled)])
    keys .header entries

/-- Open one more table of an array of tables by a header, with the assignments below it. -/
def openRow (keys : List Text) (key : Text) (below : List (List Text × Text × Value))
    (entries : Entries) : Option Entries :=
  along .passed headerMayEnter
    (fun _ inner => do
      let rows ← match inner.value? key with
        | none => some []
        | some (.rows rows) => some rows
        | some _ => none
      let filled ← assignAll .header [] below
      return inner.set key (.rows (rows ++ [filled])))
    keys .header entries

end Entries

end ScreenRetrofit.Toml
