import ScreenRetrofit.CommandLine.Options

/-!
# Reading arguments

Arguments are read from left to right. An option that takes a value waits for the next argument
unless the value is attached to it; it is settled when the next option comes or the arguments
end, and only then can it be refused. So an argument that is no option at all is told before a
missing value of the option in front of it. After two dashes alone no option is read.
-/

namespace ScreenRetrofit.CommandLine

/-- Why the arguments ask for no run. -/
inductive Refusal where
  /-- The help was asked for, in the short or in the long form. -/
  | help (long : Bool)
  /-- The version was asked for. -/
  | version
  /-- An argument is no option, and no option waits for it. -/
  | unknown (argument : Text)
  /-- An option has no value where it needs one. -/
  | noValue (opt : Opt)
  /-- An option has a value and takes none. -/
  | extraValue (opt : Opt) (value : Text)
  /-- An option is given twice. -/
  | repeated (opt : Opt)
  /-- Two options exclude each other. -/
  | conflict (first second : Opt)
  deriving DecidableEq, Repr

/-- What a run is asked for. -/
structure Arguments where
  /-- The configuration file. -/
  config : Option Text
  /-- The directory of the screens. -/
  baseDir : Option Text
  /-- The name of the level of the log. -/
  logLevel : Option Text
  /-- Whether the log is to be talkative. -/
  verbose : Bool
  /-- Whether the log is to hold errors only. -/
  quiet : Bool
  deriving DecidableEq, Repr

/-- What has been read of the arguments. -/
structure Reading where
  /-- The options settled so far with their values, in order. -/
  settled : List (Opt × Text) := []
  /-- The option that is not settled yet, with its value if it has come. -/
  waiting : Option (Opt × Option Text) := none
  deriving DecidableEq, Repr

namespace Reading

/-- Settle an option with its value; one without a value is given the empty text. -/
def settle (reading : Reading) (opt : Opt) (value : Text) : Except Refusal Reading :=
  if reading.settled.any (·.1 = opt) then .error (.repeated opt)
  else if opt.takesValue && value.isEmpty && !opt.mayBeEmpty then .error (.noValue opt)
  else .ok { reading with settled := reading.settled ++ [(opt, value)] }

/-- Settle the option that waits, if one does. -/
def settleWaiting (reading : Reading) : Except Refusal Reading :=
  match reading.waiting with
  | none => .ok reading
  | some (opt, none) => .error (.noValue opt)
  | some (opt, some value) => { reading with waiting := none }.settle opt value

/-- Read an option without an attached value. -/
def take (reading : Reading) (opt : Opt) (long : Bool) : Except Refusal Reading := do
  let reading ← reading.settleWaiting
  match opt with
  | .help => throw (.help long)
  | .version => throw .version
  | opt =>
    if opt.takesValue then return { reading with waiting := some (opt, none) }
    else reading.settle opt []

/-- Read an option with an attached value. -/
def takeAttached (reading : Reading) (opt : Opt) (value : Text) : Except Refusal Reading := do
  (← reading.settleWaiting).settle opt value

/-- Read what follows two dashes. -/
def takeWord (reading : Reading) (text : Text) : Except Refusal Reading :=
  let word := text.takeWhile (· != '=')
  match Opt.ofWord? word with
  | none => .error (.unknown ("--".toList ++ word))
  | some opt =>
    match text.drop word.length with
    | [] => reading.take opt true
    | _ :: value =>
      if opt.takesValue then reading.takeAttached opt value else .error (.extraValue opt value)

/-- Read what follows one dash: letters of options, and after the first one that takes a value
that value, with or without an equals sign. -/
def takeLetters (reading : Reading) : Text → Except Refusal Reading
  | [] => .ok reading
  | letter :: rest =>
    match Opt.ofLetter? letter with
    | none => .error (.unknown ['-', letter])
    | some opt =>
      if opt.takesValue then
        match rest with
        | [] => reading.take opt false
        | '=' :: value => reading.takeAttached opt value
        | value => reading.takeAttached opt value
      else do takeLetters (← reading.take opt false) rest

/-- Read an argument that is no option: the value that an option waits for. -/
def takeValue (reading : Reading) (argument : Text) : Except Refusal Reading :=
  match reading.waiting with
  | some (opt, none) => .ok { reading with waiting := some (opt, some argument) }
  | _ => .error (.unknown argument)

/-- Read all arguments. -/
def takeAll (reading : Reading) : List Text → Except Refusal Reading
  | [] => reading.settleWaiting
  | argument :: rest =>
    match argument with
    | ['-', '-'] =>
      match rest with
      | [] => reading.settleWaiting
      | value :: _ => .error (.unknown value)
    | '-' :: '-' :: text => do takeAll (← reading.takeWord text) rest
    | '-' :: letter :: letters => do takeAll (← reading.takeLetters (letter :: letters)) rest
    | value => do takeAll (← reading.takeValue value) rest

/-- The options that exclude each other, if both were given, in the order they came. -/
def conflict? (reading : Reading) : Option Refusal :=
  match (reading.settled.map Prod.fst).filter fun opt => opt = .verbose || opt = .quiet with
  | first :: second :: _ => some (.conflict first second)
  | _ => none

/-- What the settled options ask for. -/
def arguments (reading : Reading) : Arguments where
  config := reading.settled.lookup .config
  baseDir := reading.settled.lookup .baseDir
  logLevel := reading.settled.lookup .logLevel
  verbose := (reading.settled.lookup .verbose).isSome
  quiet := (reading.settled.lookup .quiet).isSome

end Reading

/-- What arguments ask for. -/
def Arguments.read (arguments : List Text) : Except Refusal Arguments := do
  let reading ← Reading.takeAll {} arguments
  match reading.conflict? with
  | some refusal => throw refusal
  | none => return reading.arguments

end ScreenRetrofit.CommandLine
