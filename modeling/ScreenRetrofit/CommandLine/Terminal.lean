import ScreenRetrofit.Text.Basic

/-!
# Text without terminal controls

A message may quote what a user typed. Before it is shown, escape sequences and the control
characters of ASCII other than blanks are taken out, so that a message cannot steer a terminal. A
sequence that the text does not end is over where the text ends.
-/

namespace ScreenRetrofit.CommandLine

/-- Where a text is with respect to escape sequences. -/
inductive TerminalState where
  /-- Outside any sequence. -/
  | plain
  /-- After an escape character. -/
  | escape
  /-- After an escape character and intermediate characters. -/
  | escapeMiddle
  /-- In a control sequence, which a character from `@` to `~` ends. -/
  | control
  /-- At the start of a device control string. -/
  | deviceStart
  /-- In the parameters of a device control string. -/
  | deviceParameters
  /-- In the intermediate characters of a device control string. -/
  | deviceMiddle
  /-- In the body of a string. -/
  | string
  /-- In an operating system command, which a bell ends. -/
  | command
  deriving DecidableEq, Repr

namespace TerminalState

/-- Whether a character is a control of ASCII. -/
def isControl (c : Char) : Bool := c.toNat < 0x20 || c.toNat = 0x7F

/-- Whether a character is a blank among the controls of ASCII. -/
def isBlankControl (c : Char) : Bool := c ∈ ['\t', '\n', '\x0c', '\r']

/-- Whether a character is shown outside any sequence. -/
def isShown (c : Char) : Bool := !isControl c || isBlankControl c

/-- Whether one of the bytes after the first of a character's UTF-8 form is the byte 9C, which
ends a string. -/
def holdsTerminator (c : Char) : Bool :=
  ((String.singleton c).toUTF8.toList.drop 1).contains 0x9C

/-- Whether a blank control in a state is shown and breaks the sequence off. -/
def breaksAtBlank : TerminalState → Bool
  | escape | escapeMiddle | control => true
  | _ => false

/-- The state after a character of a sequence that neither starts another one nor breaks this one
off. -/
def next (state : TerminalState) (c : Char) : TerminalState :=
  match state with
  | plain => plain
  | escape =>
    if isControl c || '~' < c then escape
    else if c ≤ '/' then escapeMiddle
    else if c = '[' then control
    else if c = ']' then command
    else if c = 'P' then deviceStart
    else if c ∈ ['X', '^', '_'] then string
    else plain
  | escapeMiddle => if '0' ≤ c ∧ c ≤ '~' then plain else escapeMiddle
  | control => if '@' ≤ c ∧ c ≤ '~' then plain else control
  | deviceStart =>
    if isControl c || '~' < c then deviceStart
    else if c ≤ '/' then deviceMiddle
    else if c ≤ '?' then deviceParameters
    else string
  | deviceParameters =>
    if isControl c || '~' < c then deviceParameters
    else if c ≤ '/' then deviceMiddle
    else if c ≤ ';' then deviceParameters
    else string
  | deviceMiddle => if '0' ≤ c ∧ c ≤ '~' then string else deviceMiddle
  | string => if holdsTerminator c then plain else string
  | command => if c = '\x07' then plain else command

end TerminalState

/-- Where a message goes. -/
inductive Medium where
  /-- Into a text. A sequence that a blank breaks off is forgotten. -/
  | text
  /-- Onto a stream. A sequence that a blank breaks off goes on at the next control. -/
  | stream
  deriving DecidableEq, Repr

open TerminalState in
/-- What is shown of a text in a state. While the sequence of that state is broken off, characters
are shown as outside any sequence. -/
def withoutControls (medium : Medium) (broken : Bool) (state : TerminalState) : Text → Text
  | [] => []
  | c :: rest =>
    if c = '\x1b' then withoutControls medium false .escape rest
    else if c = '\x18' || c = '\x1a' then withoutControls medium false .plain rest
    else if (broken || state = .plain) && isShown c then
      if c.toNat < 0x80 then c :: withoutControls medium broken state rest
      else c :: withoutControls medium false .plain rest
    else if state.breaksAtBlank && isBlankControl c then
      match medium with
      | .text => c :: withoutControls medium false .plain rest
      | .stream => c :: withoutControls medium true state rest
    else withoutControls medium false (state.next c) rest

/-- Every character that is left is one that a terminal shows. -/
theorem isShown_of_mem_withoutControls {medium : Medium} {broken : Bool} {state : TerminalState}
    {text : Text} {c : Char} (left : c ∈ withoutControls medium broken state text) :
    TerminalState.isShown c = true := by
  induction text generalizing broken state with
  | nil => contradiction
  | cons first rest ih =>
    have shown {others : Text} (visible : TerminalState.isShown first = true)
        (later : c ∈ others → TerminalState.isShown c = true) (member : c ∈ first :: others) :
        TerminalState.isShown c = true := by
      rcases List.mem_cons.mp member with rfl | other
      · exact visible
      · exact later other
    have blankShown (blank : (state.breaksAtBlank && TerminalState.isBlankControl first) = true) :
        TerminalState.isShown first = true := by
      simp only [Bool.and_eq_true] at blank
      simp [TerminalState.isShown, blank.2]
    simp only [withoutControls] at left
    split at left
    · exact ih left
    · split at left
      · exact ih left
      · split at left
        · rename_i visible
          have visible := ((Bool.and_eq_true _ _).mp visible).2
          split at left
          · exact shown visible ih left
          · exact shown visible ih left
        · split at left
          · rename_i blank
            split at left
            · exact shown (blankShown blank) ih left
            · exact shown (blankShown blank) ih left
          · exact ih left

/-- What is shown of a text that a user typed. -/
def shown (medium : Medium) (text : Text) : Text := withoutControls medium false .plain text

end ScreenRetrofit.CommandLine
