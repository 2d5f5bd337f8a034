import ScreenRetrofit.Text.Basic

/-!
# Command-line options

The options of the program with their spellings and the texts that explain them.
-/

namespace ScreenRetrofit.CommandLine

/-- An option of the program. -/
inductive Opt where
  /-- The configuration file. -/
  | config
  /-- The directory of the screens. -/
  | baseDir
  /-- The level of the log. -/
  | logLevel
  /-- A talkative log. -/
  | verbose
  /-- A log of errors only. -/
  | quiet
  /-- The explanation of the options. -/
  | help
  /-- The version of the program. -/
  | version
  deriving DecidableEq, Repr

namespace Opt

/-- All options in the order they are explained. -/
def all : List Opt := [config, baseDir, logLevel, verbose, quiet, help, version]

/-- The letter of an option after one dash. -/
def letter? : Opt → Option Char
  | config => some 'c'
  | baseDir => some 'd'
  | logLevel => none
  | verbose => some 'v'
  | quiet => some 'q'
  | help => some 'h'
  | version => some 'V'

/-- The word of an option after two dashes. -/
def word : Opt → Text
  | config => "config".toList
  | baseDir => "base-dir".toList
  | logLevel => "log-level".toList
  | verbose => "verbose".toList
  | quiet => "quiet".toList
  | help => "help".toList
  | version => "version".toList

/-- What stands for the value of an option that takes one. -/
def placeholder? : Opt → Option Text
  | config => some "FILE".toList
  | baseDir => some "DIR".toList
  | logLevel => some "LEVEL".toList
  | verbose | quiet | help | version => none

/-- Whether an option takes a value. -/
def takesValue (opt : Opt) : Bool := opt.placeholder?.isSome

/-- Whether the value of an option may be empty; a path may not. -/
def mayBeEmpty (opt : Opt) : Bool := opt = logLevel

/-- An option with the place of its value, as messages name it. -/
def shown (opt : Opt) : Text :=
  "--".toList ++ opt.word ++
    match opt.placeholder? with
    | some name => " <".toList ++ name ++ ['>']
    | none => []

/-- The option with a letter. -/
def ofLetter? (letter : Char) : Option Opt := all.find? fun opt => opt.letter? = some letter

/-- The option with a word. -/
def ofWord? (word : Text) : Option Opt := all.find? fun opt => opt.word = word

/-- Every option is found by its word. -/
theorem ofWord?_word (opt : Opt) : ofWord? opt.word = some opt := by cases opt <;> rfl

end Opt

end ScreenRetrofit.CommandLine
