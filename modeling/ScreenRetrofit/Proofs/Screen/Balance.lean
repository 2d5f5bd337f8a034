import ScreenRetrofit.Proofs.Screen.Edit

/-!
# Brackets of a rewritten screen

The excess of a kind of bracket in a text is how many more of it open than close. Texts of one
pattern have one excess when no run of the pattern takes a bracket, so what an edit adds is known
from the templates that it brings in and the landmarks that it takes out
(`Pattern.Spelling.excess`).

The locals of a build method add nothing. A row that is opened and closed leaves two parentheses
open and closes a brace that is not open (`excess_complete_rewrite`): beside what it takes the place
of, its closing has the square bracket that the row needs, no parentheses for the row and the area
inside it, and a brace. So a screen whose brackets were balanced never stays balanced.
-/

namespace ScreenRetrofit

/-- The kinds of brackets. -/
inductive Bracket where
  /-- Parentheses. -/
  | round
  /-- Square brackets. -/
  | square
  /-- Braces. -/
  | curly
  deriving DecidableEq, Repr

namespace Bracket

/-- The character that opens a bracket. -/
def opening : Bracket → Char
  | round => '('
  | square => '['
  | curly => '\x7b'

/-- The character that closes a bracket. -/
def closing : Bracket → Char
  | round => ')'
  | square => ']'
  | curly => '\x7d'

/-- How many more of a bracket a text opens than it closes. -/
def excess (bracket : Bracket) (text : Text) : Int :=
  text.count bracket.opening - text.count bracket.closing

/-- One number for each kind of bracket. -/
def each (ofRound ofSquare ofCurly : Int) : Bracket → Int
  | round => ofRound
  | square => ofSquare
  | curly => ofCurly

variable {bracket : Bracket}

/-- The excess of two texts in order is that of both together. -/
@[simp] theorem excess_append (left right : Text) :
    bracket.excess (left ++ right) = bracket.excess left + bracket.excess right := by
  simp only [excess, List.count_append]
  omega

/-- The excess of a text with a first character is that of the character and of the others. -/
theorem excess_cons (c : Char) (text : Text) :
    bracket.excess (c :: text) = bracket.excess [c] + bracket.excess text :=
  excess_append [c] text

/-- Whether a class has a bracket among its characters. -/
def isIn (bracket : Bracket) (chars : CharClass) : Bool :=
  chars.has bracket.opening || chars.has bracket.closing

/-- A character of a class without the bracket counts nothing. -/
theorem excess_of_not_isIn {chars : CharClass} {c : Char} (plain : bracket.isIn chars = false)
    (inside : chars.has c = true) : bracket.excess [c] = 0 := by
  simp only [isIn, Bool.or_eq_false_iff] at plain
  have opens : c ≠ bracket.opening := by
    rintro rfl
    simp [plain.1] at inside
  have closes : c ≠ bracket.closing := by
    rintro rfl
    simp [plain.2] at inside
  simp [excess, opens, closes]

end Bracket

namespace Slot

/-- The excess of all texts that slots describe, if no class among them has the bracket. -/
def excess? (bracket : Bracket) : List Slot → Option Int
  | [] => some 0
  | char expected :: slots => (excess? bracket slots).map (bracket.excess [expected] + ·)
  | one chars :: slots => if bracket.isIn chars then none else excess? bracket slots
  | run chars :: slots => if bracket.isIn chars then none else excess? bracket slots

/-- Described texts have the excess of their slots. -/
theorem Describe.excess {bracket : Bracket} {slots : List Slot} {text : Text} {excess : Int}
    (described : Describe slots text) (counted : excess? bracket slots = some excess) :
    bracket.excess text = excess := by
  induction described generalizing excess with
  | nil => exact Option.some.inj counted
  | @take slot c slots text single suits _ ih =>
    rw [Bracket.excess_cons]
    cases slot with
    | char expected =>
      obtain ⟨others, later, rfl⟩ := Option.map_eq_some_iff.mp counted
      obtain rfl : c = expected := by simpa [has] using suits
      rw [ih later]
    | one chars =>
      simp only [excess?] at counted
      split at counted
      · contradiction
      · rename_i plain
        rw [ih counted, Bracket.excess_of_not_isIn (by simpa using plain) suits, Int.zero_add]
    | run chars => contradiction
  | @stay slot c slots text repeats suits _ ih =>
    rw [Bracket.excess_cons, ih counted]
    cases slot with
    | char expected => contradiction
    | one chars => contradiction
    | run chars =>
      simp only [excess?] at counted
      split at counted
      · contradiction
      · rename_i plain
        rw [Bracket.excess_of_not_isIn (by simpa using plain) suits, Int.zero_add]
  | @leave slot slots text repeats _ ih =>
    cases slot with
    | char expected => contradiction
    | one chars => contradiction
    | run chars =>
      simp only [excess?] at counted
      split at counted
      · contradiction
      · exact ih counted

end Slot

/-- Texts of a pattern have the excess of its slots. -/
theorem Pattern.Spelling.excess {pattern : Pattern} (spelling : Spelling pattern) {text : Text}
    (described : pattern.Accepts text) {bracket : Bracket} {excess : Int}
    (counted : Slot.excess? bracket spelling.slots = .some excess) : bracket.excess text = excess :=
  (spelling.describe described).excess counted

/-- A text put at every landmark that opens as much as it closes keeps the excess. -/
theorem Landmark.Definite.excess_insertAtEach {landmark : Landmark} (definite : landmark.Definite)
    {bracket : Bracket} {inserted : Text} (even : bracket.excess inserted = 0) (text : Text) :
    bracket.excess (landmark.insertAtEach inserted text) = bracket.excess text := by
  induction text using definite.scan with
  | missing text missing => rw [insertAtEach_of_find?_eq_none missing]
  | found text cut found ih =>
    rw [definite.insertAtEach_of_find?_eq_some found]
    conv => rhs; rw [← whole_of_find? found, Cut.whole]
    simp only [Bracket.excess_append, ih, even]
    omega

namespace Screen

variable {source output : Text} {bracket : Bracket}

set_option maxRecDepth 2000 in
/-- The locals open as much as they close. -/
theorem excess_buildLocals (bracket : Bracket) : bracket.excess Template.buildLocals = 0 := by
  refine Pattern.Spelling.excess (.literal rfl .nil) (Pattern.accepts_literal.mpr rfl) ?_
  cases bracket <;> decide

/-- What the opening of a row adds to the excess when it takes the place of a game area. -/
def opened : Bracket → Int := Bracket.each 2 1 0

/-- What the closing of a row adds to the excess when it takes the place of a layout's closing. -/
def closed : Bracket → Int := Bracket.each 0 (-1) (-1)

set_option maxRecDepth 8000 in
/-- The opening of a row against that of a game area. -/
theorem excess_videoRow {area : Text} (described : Anchor.gameArea.pattern.Accepts area)
    (bracket : Bracket) :
    bracket.excess Template.videoRow = bracket.excess area + opened bracket := by
  have row : bracket.excess Template.videoRow = bracket.each 4 1 0 :=
    Spelled.videoRow.excess (Pattern.accepts_literal.mpr rfl) (by cases bracket <;> decide)
  have plain : bracket.excess area = bracket.each 2 0 0 :=
    Spelled.gameArea.excess described (by cases bracket <;> decide)
  rw [row, plain]
  cases bracket <;> rfl

set_option maxRecDepth 2000 in
/-- The closing of a row against that of the layout. -/
theorem excess_rowClosing {closing : Text}
    (described : Anchor.layoutClosing.pattern.Accepts closing) (bracket : Bracket) :
    bracket.excess Template.rowClosing = bracket.excess closing + closed bracket := by
  have row : bracket.excess Template.rowClosing = bracket.each (-7) (-2) (-1) :=
    Spelled.rowClosing.excess (Pattern.accepts_literal.mpr rfl)
      (by cases bracket <;> decide)
  have plain : bracket.excess closing = bracket.each (-7) (-1) 0 :=
    Spelled.layoutClosing.excess described (by cases bracket <;> decide)
  rw [row, plain]
  cases bracket <;> rfl

/-- What a rewrite adds to the excess, by what it had to say. -/
def added (bracket : Bracket) : List Notice → Int
  | [] => opened bracket + closed bracket
  | [.noLayoutClosing] => opened bracket
  | _ => 0

/-- Opening the row adds what it brings in anew, as far as it comes. -/
theorem excess_openRow (source : Text) (bracket : Bracket) :
    bracket.excess ((openRow source).result source) =
      bracket.excess source + added bracket (openRow source).notices := by
  rcases openRow_cases source with
    ⟨_, course⟩ | ⟨area, found, ⟨_, course⟩ | ⟨closing, last, course⟩⟩
  · rw [course]
    exact (Int.add_zero _).symm
  · have row := excess_videoRow (Anchor.gameArea_definite.accepts_found found) bracket
    have whole := congrArg bracket.excess (Landmark.whole_of_find? found)
    rw [course]
    simp only [Edited.write, Edited.result, Option.getD_some, Bracket.excess_append, Cut.whole,
      Cut.found, added] at row whole ⊢
    omega
  · have row := excess_videoRow (Anchor.gameArea_definite.accepts_found found) bracket
    have whole := congrArg bracket.excess (Landmark.whole_of_find? found)
    have row' := excess_rowClosing (Anchor.layoutClosing_definite.accepts_found last) bracket
    have whole' := congrArg bracket.excess (Landmark.whole_of_find? last)
    rw [course]
    simp only [Edited.write, Edited.result, Option.getD_some, Bracket.excess_append, Cut.whole,
      Cut.found, added] at row whole row' whole' ⊢
    omega

/-- An edit that wrote and said nothing wrote a text in silence. -/
theorem Edited.exists_write {edited : Edited}
    (silent : edited.output.isSome = true ∧ edited.notices = []) :
    ∃ output, edited = .write output [] := by
  obtain ⟨output, notices⟩ := edited
  obtain ⟨wrote, rfl⟩ := silent
  obtain ⟨text, rfl⟩ := Option.isSome_iff_exists.mp wrote
  exact ⟨text, rfl⟩

/-- A rewrite of build methods adds to the excess what opening the row does. -/
theorem excess_rewriteBuild {notices : List Notice}
    (written : rewriteBuild source = .write output notices) (bracket : Bracket) :
    bracket.excess output = bracket.excess source + added bracket notices := by
  have wrote : (rewriteBuild source).output = some output := by rw [written]; rfl
  obtain ⟨_, _, course⟩ := exists_of_rewriteBuild wrote
  have located := Anchor.scaffoldBuild_definite.excess_insertAtEach (excess_buildLocals bracket)
    source
  have opens := excess_openRow (Anchor.scaffoldBuild.insertAtEach Template.buildLocals source)
    bracket
  rw [course] at written
  rw [written, located] at opens
  exact opens

/-- A small screen whose brackets are balanced. -/
def balancedScreen : Text := "@override
Widget build(BuildContext context) \x7b
  return Scaffold(a(b(c([
    // Área de juego
    Expanded( child: Center( d(
    ), ), ), ], ), ), ), );
\x7d".toList

set_option maxRecDepth 2000 in
/-- The small screen gets its row, opened and closed. -/
theorem exists_rewriteBuild_balancedScreen :
    ∃ output, rewriteBuild balancedScreen = .write output [] :=
  Edited.exists_write <| Text.of_literal (motive := fun source =>
    (rewriteBuild source).output.isSome = true ∧ (rewriteBuild source).notices = []) rfl
    (by decide +kernel)

/-- A rewrite that opens a row and closes it leaves two parentheses open and closes a brace that is
not open. The square brackets come out even. -/
theorem excess_complete_rewrite (complete : rewriteBuild source = .write output []) :
    Bracket.round.excess output = Bracket.round.excess source + 2 ∧
      Bracket.square.excess output = Bracket.square.excess source ∧
      Bracket.curly.excess output = Bracket.curly.excess source - 1 := by
  have round := excess_rewriteBuild complete .round
  have square := excess_rewriteBuild complete .square
  have curly := excess_rewriteBuild complete .curly
  simp only [added, opened, closed, Bracket.each] at round square curly
  omega

/-- The small screen, written with its row, has two parentheses and a brace out of balance. -/
theorem excess_complete_rewrite_balancedScreen :
    ∃ output, rewriteBuild balancedScreen = .write output [] ∧
      Bracket.round.excess output = Bracket.round.excess balancedScreen + 2 ∧
      Bracket.square.excess output = Bracket.square.excess balancedScreen ∧
      Bracket.curly.excess output = Bracket.curly.excess balancedScreen - 1 := by
  obtain ⟨output, complete⟩ := exists_rewriteBuild_balancedScreen
  exact ⟨output, complete, excess_complete_rewrite complete⟩

set_option maxRecDepth 2000 in
/-- The small screen was balanced and does not stay so. -/
theorem balancedScreen_unbalanced : (∀ bracket : Bracket, bracket.excess balancedScreen = 0) ∧
    ∃ output, rewriteBuild balancedScreen = .write output [] ∧
      Bracket.round.excess output ≠ 0 ∧ Bracket.curly.excess output ≠ 0 := by
  have balanced : ∀ bracket : Bracket, bracket.excess balancedScreen = 0 :=
    Text.of_literal (motive := fun source => ∀ bracket : Bracket, bracket.excess source = 0) rfl
      (by intro bracket; cases bracket <;> decide)
  obtain ⟨output, complete⟩ := exists_rewriteBuild_balancedScreen
  have round := excess_rewriteBuild complete .round
  have curly := excess_rewriteBuild complete .curly
  simp only [balanced, added, opened, closed, Bracket.each] at round curly
  exact ⟨balanced, output, complete, by omega, by omega⟩

end Screen

end ScreenRetrofit
