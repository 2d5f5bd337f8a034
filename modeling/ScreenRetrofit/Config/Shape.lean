import ScreenRetrofit.Config.Basic
import ScreenRetrofit.Text.Quoted
import ScreenRetrofit.Toml.Value

/-!
# The shape of a configuration document

A document becomes a configuration when the keys it shares with a configuration hold values of
the right types. Keys are looked at in the order of the document, and the first value of a wrong
type is told; a missing key is told when all keys are right. Other keys are passed over. A group
may also be written as an array of its subject and its files.
-/

namespace ScreenRetrofit.Config

open Toml (Value Entries)

/-- Why a document is no configuration. -/
inductive Misfit where
  /-- A key that must be there is not. -/
  | missing (key : Text)
  /-- A value has a type that is not expected in its place. -/
  | wrongType (found expected : Text)
  /-- A group is written as an array of nothing. -/
  | emptyGroup
  deriving DecidableEq, Repr

/-- The words for a misfit. -/
def Misfit.message : Misfit → Text
  | missing key => "missing field `".toList ++ key ++ "`".toList
  | wrongType found expected =>
    "invalid type: ".toList ++ found ++ ", expected ".toList ++ expected
  | emptyGroup => "invalid length 0, expected struct GameGroup with 2 elements".toList

/-- A value as a misfit names it: its type, and what it is if that is short. -/
def describe : Value → Text
  | .string text => "string ".toList ++ Text.quoted text
  | .integer value => "integer `".toList ++ (toString value).toList ++ "`".toList
  | .float value => "floating point `".toList ++ value.render ++ "`".toList
  | .boolean true => "boolean `true`".toList
  | .boolean false => "boolean `false`".toList
  | .array _ | .rows _ => "sequence".toList
  | .table .. | .moment => "map".toList

/-- A value of a type that is not expected. -/
def wrong {α : Type} (value : Value) (expected : String) : Except Misfit α :=
  .error (.wrongType (describe value) expected.toList)

/-- A string, where one is expected under some name. -/
def stringOf (expected : String) : Value → Except Misfit Text
  | .string text => .ok text
  | other => wrong other expected

/-- The values of a sequence. -/
def sequenceOf : Value → Except Misfit (List Value)
  | .array items => .ok items
  | .rows tables => .ok (tables.map (Value.table .header))
  | other => wrong other "a sequence"

/-- The file names of a group. -/
def filesOf (value : Value) : Except Misfit (List Text) := do
  (← sequenceOf value).mapM (stringOf "a string")

/-- The keys of a group that were seen. -/
structure GroupKeys where
  /-- The subject. -/
  subject? : Option Text := none
  /-- The file names. -/
  files? : Option (List Text) := none

/-- The keys of a group with one more entry. -/
def GroupKeys.add (keys : GroupKeys) : Text × Value → Except Misfit GroupKeys
  | (key, value) => do
    if key = "subject".toList then
      return { keys with subject? := some (← stringOf "a string" value) }
    else if key = "files".toList then return { keys with files? := some (← filesOf value) }
    else return keys

/-- The group that entries describe. -/
def groupOfEntries (entries : Entries) : Except Misfit Group := do
  let keys ← entries.foldlM GroupKeys.add {}
  match keys.subject? with
  | some subject => return ⟨subject, keys.files?.getD []⟩
  | none => throw (.missing "subject".toList)

/-- The group that a value describes. -/
def groupOf : Value → Except Misfit Group
  | .table _ entries => groupOfEntries entries
  | .moment => groupOfEntries []
  | .array [] => .error .emptyGroup
  | .array (subject :: rest) => do
    let subject ← stringOf "a string" subject
    match rest with
    | [] => return ⟨subject, []⟩
    | files :: _ => return ⟨subject, ← filesOf files⟩
  | other => wrong other "struct GameGroup"

/-- The keys of a configuration that were seen. -/
structure ConfigKeys where
  /-- The directory. -/
  baseDir? : Option Path := none
  /-- The groups. -/
  groups? : Option (List Group) := none

/-- The keys of a configuration with one more entry. -/
def ConfigKeys.add (keys : ConfigKeys) : Text × Value → Except Misfit ConfigKeys
  | (key, value) => do
    if key = "base_dir".toList then
      return { keys with baseDir? := some ⟨← stringOf "path string" value⟩ }
    else if key = "groups".toList then
      return { keys with groups? := some (← (← sequenceOf value).mapM groupOf) }
    else return keys

/-- The configuration that the top table of a document describes. -/
def ofEntries (entries : Entries) : Except Misfit Config := do
  let keys ← entries.foldlM ConfigKeys.add {}
  match keys.baseDir? with
  | some baseDir => return ⟨baseDir, keys.groups?.getD []⟩
  | none => throw (.missing "base_dir".toList)

end ScreenRetrofit.Config
