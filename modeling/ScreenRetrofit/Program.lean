import ScreenRetrofit.CommandLine.Answer
import ScreenRetrofit.Config.Builtin
import ScreenRetrofit.Config.File
import ScreenRetrofit.Run.Line
import ScreenRetrofit.Run.Report

/-!
# The program

A call of the program from its arguments to its exit code. The program works in a world: a store
of files, files to read a configuration from, and a working directory. The report of a run goes to
the standard output, its log and every complaint to the standard error.
-/

namespace ScreenRetrofit

open CommandLine (Arguments Refusal)

/-- What the program works in. -/
structure World (m : Type → Type) where
  /-- The files that are visited. -/
  store : Store m
  /-- The text of a file. -/
  readText : Path → m (Except SystemFault Text)
  /-- The directory that relative paths are seen from. -/
  workingDir : m Path

/-- What a call came to. -/
structure Exit where
  /-- The exit code. -/
  code : Nat
  /-- What went to the standard output. -/
  output : Text
  /-- What went to the standard error. -/
  errors : Text
  deriving DecidableEq, Repr

namespace Program

/-- The part of the program that starts a run. -/
def source : Text := "game_video_retrofit".toList

/-- Lines as they are written. -/
def written (lines : List Text) : Text := lines.flatMap (· ++ ['\n'])

/-- An optional text as the log shows it. -/
private def shownOption : Option Text → Text
  | none => "None".toList
  | some text => "Some(".toList ++ Text.quoted text ++ [')']

/-- A truth value as the log shows it. -/
private def shownFlag (flag : Bool) : Text := (toString flag).toList

/-- The message that tells the arguments. -/
def argumentsMessage (arguments : Arguments) : Log.Message where
  level := .debug
  source := source
  text := "Arguments: CliArgs \x7b config: ".toList ++ shownOption arguments.config ++
    ", base_dir: ".toList ++ shownOption arguments.baseDir ++
    ", log_level: ".toList ++ shownOption arguments.logLevel ++
    ", verbose: ".toList ++ shownFlag arguments.verbose ++
    ", quiet: ".toList ++ shownFlag arguments.quiet ++ " \x7d".toList

/-- The message that tells the version. -/
def versionMessage : Log.Message where
  level := .debug
  source := source
  text := CommandLine.programName ++ " v".toList ++ CommandLine.programVersion ++
    " starting".toList

/-- What the log of a call shows, and the complaints about what it was asked to show. Directives
from the environment win over the level that the arguments ask for. -/
def logging (arguments : Arguments) (directives? : Option Text) : Log.View × List Text :=
  let setup := Log.Setup.ofFlags arguments.logLevel arguments.verbose arguments.quiet
  let levelComplaints := (arguments.logLevel.bind Log.Setup.complaint?).toList
  match directives? with
  | none => (⟨.ofSetup setup, setup.showSource⟩, levelComplaints)
  | some text =>
    let (filter, complaints) := Log.Filter.read text
    (⟨filter, setup.showSource⟩, levelComplaints ++ complaints.map fun (part, complaint) =>
      "ignoring `".toList ++ part ++ "`: ".toList ++ complaint.message)

/-- The configuration that the arguments ask for, with what is wrong with it if anything is. -/
def configOf {m : Type → Type} [Monad m] (world : World m) (arguments : Arguments) :
    m (Except Config.Fault Config) := do
  let loaded ← match arguments.config with
    | some file => Config.ofFile ⟨file⟩ <$> world.readText ⟨file⟩
    | none => (.ok ∘ Config.builtin) <$> world.workingDir
  let placed (config : Config) : Config :=
    match arguments.baseDir with
    | some baseDir => { config with baseDir := ⟨baseDir⟩ }
    | none => config
  return loaded >>= fun config => (placed config).checked

/-- Run the program as the arguments ask for. -/
def perform {m : Type → Type} [Monad m] (world : World m) (directives? : Option Text)
    (arguments : Arguments) : m Exit := do
  let (view, complaints) := logging arguments directives?
  let opening := complaints ++
    [versionMessage, argumentsMessage arguments].filterMap (view.line? none)
  match ← configOf world arguments with
  | .error fault => return ⟨1, [], written (opening ++ ["Error: ".toList ++ fault.message])⟩
  | .ok config =>
    let run ← Run.perform world.store config
    return ⟨0,
      written (Report.banner :: Report.fileLines run ++ [Report.summary run.summary]),
      written (opening ++ view.runLines run)⟩

/-- Call the program with arguments, and with the directives of the environment for its log. -/
def call {m : Type → Type} [Monad m] (world : World m) (directives? : Option Text)
    (arguments : List Text) : m Exit :=
  match Arguments.read arguments with
  | .ok arguments => perform world directives? arguments
  | .error refusal =>
    let said := refusal.message .stream
    return if refusal.exitCode = 0 then ⟨0, said, []⟩ else ⟨refusal.exitCode, [], said⟩

end Program

end ScreenRetrofit
