import ScreenRetrofit.Log.Directive.Basic
import ScreenRetrofit.Log.ValuePattern.Written
import ScreenRetrofit.Text.Alphanumeric
import ScreenRetrofit.Text.Blank

/-!
# Written directives

A directive is written as a level, as a target, or as a target, a span in brackets and a level
behind an equals sign, each of which can be left out. In the brackets stand the name of the span
and a field in braces, whose value is a number, a truth value or a pattern. A target or a span
without a level lets everything through.
-/

namespace ScreenRetrofit.Log

namespace ValueCondition

/-- A text without a sign in front. -/
private def unsigned : Text → Text
  | '+' :: rest | '-' :: rest => rest
  | text => text

/-- Whether a text is the exponent of a number, or empty. -/
private def isExponent : Text → Bool
  | [] => true
  | c :: rest =>
    let digits := unsigned rest
    c.toLower = 'e' && !digits.isEmpty && digits.all Char.isDigit

/-- Whether a text is a number: an infinity, none, or digits with a point and an exponent. -/
def isNumber (text : Text) : Bool :=
  let number := unsigned text
  let whole := number.takeWhile Char.isDigit
  let rest := number.drop whole.length
  let fraction := if rest.head? = some '.' then (rest.drop 1).takeWhile Char.isDigit else []
  let rest := if rest.head? = some '.' then rest.drop (fraction.length + 1) else rest
  ["inf".toList, "infinity".toList, "nan".toList].contains (Text.lowerAscii number) ||
    !(whole ++ fraction).isEmpty && isExponent rest

/-- The condition that a text is written as. -/
def read (text : Text) : Except ValuePattern.Fault ValueCondition :=
  if ["true".toList, "false".toList].contains text || isNumber text then .ok .literal
  else (ValuePattern.read text).map (.pattern text)

end ValueCondition

/-- The condition on a field that a text is written as: a name, and behind an equals sign what the
value has to be. A second equals sign ends the value. -/
def FieldCondition.read (text : Text) : Except ValuePattern.Fault FieldCondition :=
  let name := text.takeWhile (· != '=')
  match text.drop name.length with
  | [] => .ok { name }
  | _ :: rest =>
    let value := ValueCondition.read (rest.takeWhile (· != '='))
    value.map fun value => { name, value? := some value }

namespace Directive

/-- Why a text is no directive. -/
inductive Complaint where
  /-- It does not have the form of one. -/
  | noDirective
  /-- What it gives as a level is none. -/
  | noLevel
  /-- What it gives as a value of a field is none. -/
  | noValue (fault : ValuePattern.Fault)
  deriving DecidableEq, Repr

/-- The words for a complaint. -/
def Complaint.message : Complaint → Text
  | noDirective => "invalid filter directive".toList
  | noLevel =>
    ("error parsing level filter: expected one of \"off\", \"error\", \"warn\", " ++
      "\"info\", \"debug\", \"trace\", or a number 0-5").toList
  | noValue .malformed => "invalid field filter: error building NFA".toList
  | noValue .scriptEdge =>
    ("invalid field filter: unsupported regex feature for DFAs: cannot build DFAs for regexes " ++
      "with Unicode word boundaries; switch to ASCII word boundaries, or heuristically enable " ++
      "Unicode word boundaries or use a different regex engine").toList

/-- A character that a target can start with. -/
def startsTarget (c : Char) : Bool := Text.isAlphanumeric c || c ∈ ['_', '-', ':']

/-- A text without the blanks at its ends. -/
def trim (text : Text) : Text :=
  ((text.dropWhile Text.isBlank).reverse.dropWhile Text.isBlank).reverse

/-- The level that stands behind the equals sign at the start of a text, or the most talkative one
where there is neither. -/
private def levelOf (text : Text) : Except Complaint Nat :=
  match text.drop 1 with
  | [] => .ok Level.trace.verbosity
  | name =>
    match Level.verbosityOf? name with
    | some verbosity => .ok verbosity
    | none => .error .noLevel

/-- The directive that a text is written as. Its form is looked for between the blanks at its
ends, but its parts are counted off from its start in bytes, so blanks in front belong to the
first part and move every other one ahead; where a level stands there is none then. Blanks at the
end belong to the last part. -/
def read (written : Text) : Except Complaint Directive := do
  let piece (front middle : Text) : Text :=
    Text.stretch (Text.utf8Length front) (Text.utf8Length middle) written
  let behind (front : Text) : Text := Text.dropBytes (Text.utf8Length front) written
  let text := trim written
  let lead := text.takeWhile fun c => c != '=' && c != '['
  unless text.head?.any fun c => c = '[' || startsTarget c do throw .noDirective
  let target := piece [] lead
  match text.drop lead.length with
  | [] =>
    match Level.verbosityOf? written with
    | some verbosity => return { verbosity }
    | none => return { target := written, verbosity := Level.trace.verbosity }
  | '=' :: _ => return { target, verbosity := ← levelOf (behind lead) }
  | bracket :: inside =>
    let front := lead ++ [bracket]
    let name := inside.takeWhile fun c => c != ']' && c != '\x7b'
    let span := piece front name
    let front := front ++ name
    let (selector, front, rest) : Selector × Text × Text ←
      match inside.drop name.length with
      | '\x7b' :: rest =>
        let front := front ++ ['\x7b']
        let condition := rest.takeWhile (· != '\x7d')
        match rest.drop condition.length with
        | close :: rest =>
          if condition.isEmpty then throw .noDirective
          let field ← match FieldCondition.read (piece front condition) with
            | .ok field => pure field
            | .error fault => throw (.noValue fault)
          let span? := if span.isEmpty then none else some span
          pure ({ target, span?, field? := some field }, front ++ condition ++ [close], rest)
        | [] => throw .noDirective
      | rest => pure ({ target, span? := some span }, front, rest)
    match rest with
    | ']' :: rest =>
      match rest with
      | [] => return { selector with verbosity := Level.trace.verbosity }
      | '=' :: _ => return { selector with verbosity := ← levelOf (behind (front ++ [']'])) }
      | _ => throw .noDirective
    | _ => throw .noDirective

end Directive

end ScreenRetrofit.Log
