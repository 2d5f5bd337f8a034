import Mathlib.Data.List.SplitBy
import ScreenRetrofit.Proofs.Screen.Import

/-!
# The video's import and the first class

An import statement is known by its words alone, wherever they stand, so that of a comment inside a
class counts as one. Whether the import of the video comes in above the first class is therefore a
matter of what stands from that class on, and of whether an import above it is left open
(`videoImport_aboveClass_iff`). Both come from one condition for any place of a screen: every import
ends in front of it (`videoImport_before_iff`).
-/

namespace ScreenRetrofit

/-- The lines of a text, each with the newline that ends it. -/
def Text.lines (text : Text) : List Text := text.splitBy fun c _ => c != '\n'

/-- In front of a line stands nothing, or a newline. -/
theorem Text.exists_newline_of_lines {text line : Text} {before after : List Text}
    (cut : Text.lines text = before ++ line :: after) (some : before ≠ []) :
    ∃ lead, before.flatten = lead ++ ['\n'] := by
  obtain ⟨front, last, rfl⟩ := (List.eq_nil_or_concat' before).resolve_left some
  have chain := List.isChain_getLast_head_splitBy (fun c _ => c != '\n') text
  change List.IsChain _ (Text.lines text) at chain
  rw [cut, List.append_assoc, List.singleton_append, List.isChain_append] at chain
  obtain ⟨full, _, ended⟩ := (List.isChain_cons_cons.mp chain.2.1).1
  have newline : last.getLast full = '\n' := by simpa using ended
  refine ⟨front.flatten ++ last.dropLast, ?_⟩
  rw [List.flatten_concat, List.append_assoc, ← newline, List.dropLast_concat_getLast]

namespace Screen

open Text (occursIn)

variable {source output front rest : Text}

/-- The import of the video comes in in front of a place exactly when every import ends there. -/
theorem videoImport_before_iff (written : (insertImport source).output = some output)
    (cut : source = front ++ rest) :
    (∃ left right, front = left ++ right ∧
        output = left ++ Template.videoImportLine ++ right ++ rest) ↔
      ∀ before found after, source = before ++ found ++ after →
        Anchor.importLine.pattern.Accepts found → ∃ gap, front = before ++ found ++ gap := by
  have once := videoImport_once_of_insertImport written
  obtain ⟨lead, statement, behind, rfl, rfl, described, last⟩ :=
    exists_last_of_insertImport written
  constructor
  · rintro ⟨left, right, rfl, placed⟩ before found after split described'
    obtain ⟨gap, ends⟩ := over_by_last described last split described'
    -- The import of the video stands once, so it was put in here and nowhere else.
    have put : lead ++ statement ++ Template.videoImportLine ++ behind =
        lead ++ statement ++ Template.videoImport ++ ("\n".toList ++ behind) := by
      simp [Template.videoImportLine]
    have put' : lead ++ statement ++ Template.videoImportLine ++ behind =
        left ++ Template.videoImport ++ ("\n".toList ++ (right ++ rest)) := by
      rw [placed]
      simp [Template.videoImportLine]
    have here : lead ++ statement = left :=
      once.start_eq put (Pattern.accepts_literal.mpr rfl) put' (Pattern.accepts_literal.mpr rfl)
    exact ⟨gap ++ right, by rw [← here, ends, List.append_assoc]⟩
  · intro within
    obtain ⟨gap, rfl⟩ := within lead statement behind rfl described
    have tail : behind = gap ++ rest := by simpa using cut
    exact ⟨lead ++ statement, gap, rfl, by simp [tail]⟩

/-- A text leaves an import open when it has the words of one and no semicolon behind them. -/
def LeavesImportOpen (text : Text) : Prop :=
  ∃ before body, text = before ++ "import ".toList ++ body ∧ ';' ∉ body

/-- A text finishes an import that is left open when its first semicolon ends a line. -/
def FinishesImport (text : Text) : Prop :=
  ∃ body after, text = body ++ ";\n".toList ++ after ∧ ';' ∉ body

/-- An import is its words, a body without a semicolon, and the end of the statement. -/
theorem accepts_importLine_iff {found : Text} : Anchor.importLine.pattern.Accepts found ↔
    ∃ body, found = "import ".toList ++ body ++ ";\n".toList ∧ body ≠ [] ∧ ';' ∉ body := by
  have pieces : Anchor.importLine.pattern =
      [.literal "import ".toList, .some (.except ';'), .literal ";\n".toList] := rfl
  have free (body : Text) : (∀ c ∈ body, CharClass.has (.except ';') c = true) ↔ ';' ∉ body := by
    simp only [CharClass.has, bne_iff_ne, ne_eq]
    exact ⟨fun other member => other ';' member rfl, fun absent c member same =>
      absent (same ▸ member)⟩
  rw [pieces]
  constructor
  · rintro ⟨_, _, rfl, rfl, body, _, rfl, ⟨some, inside⟩, last⟩
    exact ⟨body, by rw [Pattern.accepts_literal.mp last, List.append_assoc], some,
      (free body).mp inside⟩
  · rintro ⟨body, rfl, some, absent⟩
    exact ⟨_, _, List.append_assoc _ _ _, rfl, body, _, rfl, ⟨some, (free body).mpr absent⟩,
      Pattern.accepts_literal.mpr rfl⟩

/-- An import that goes on across the start of a line is left open above the line and finished from
there on. -/
theorem open_of_across {lead inner outer before after : Text}
    (line : before ++ inner = lead ++ ['\n']) (started : inner ≠ []) (goes : outer ≠ [])
    (described : Anchor.importLine.pattern.Accepts (inner ++ outer)) :
    LeavesImportOpen (before ++ inner) ∧ FinishesImport (outer ++ after) := by
  obtain ⟨body, whole, _, absent⟩ := accepts_importLine_iff.mp described
  obtain ⟨start, last, rfl⟩ := (List.eq_nil_or_concat' inner).resolve_left started
  obtain rfl : last = '\n' := by
    rw [← List.append_assoc] at line
    exact List.singleton_inj.mp (List.append_inj' line rfl).2
  -- Of the end of the statement nothing stands in front of the line: the newline there is none of
  -- its own, since something follows.
  have ended : ∃ gap, outer = gap ++ ";\n".toList ∧
      "import ".toList ++ body = start ++ ['\n'] ++ gap := by
    rcases List.append_eq_append_iff.mp whole with ⟨gap, longer, tail⟩ | ⟨gap, longer, tail⟩
    · exact ⟨gap, tail, longer⟩
    · cases gap with
      | nil => exact ⟨[], tail.symm, by rw [longer, List.append_nil, List.append_nil]⟩
      | cons first gap =>
        have rest : gap ++ outer = ['\n'] := (List.cons.inj tail).2.symm
        obtain ⟨rfl, _⟩ := (List.append_eq_singleton_iff.mp rest).resolve_right fun all => goes all.2
        have semicolon : ['\n'] = [first] := (List.append_inj' longer rfl).2
        have same : ';' = first := (List.cons.inj tail).1
        rw [← same] at semicolon
        contradiction
  obtain ⟨gap, rfl, cut⟩ := ended
  rcases List.append_eq_append_iff.mp cut with ⟨front, above, rfl⟩ | ⟨more, words, _⟩
  · rw [List.mem_append, not_or] at absent
    exact ⟨⟨before, front, by rw [above, List.append_assoc], absent.1⟩, gap, after, rfl, absent.2⟩
  · have inWords : '\n' ∈ "import ".toList := by simp [words]
    contradiction

/-- Where a line starts, an import that is left open above it and finished from there on ends behind
the start of the line. -/
theorem exists_across (line : front = [] ∨ ∃ lead, front = lead ++ ['\n'])
    (opened : LeavesImportOpen front) (finished : FinishesImport rest) :
    ∃ before found after, front ++ rest = before ++ found ++ after ∧
      Anchor.importLine.pattern.Accepts found ∧ front.length < (before ++ found).length := by
  obtain ⟨before, body, rfl, closed⟩ := opened
  obtain ⟨body', after, rfl, closed'⟩ := finished
  -- The words of an import do not end with a newline, so there is at least one behind them.
  have some : body ++ body' ≠ [] := by
    intro empty
    obtain rfl : body = [] := (List.append_eq_nil_iff.mp empty).1
    rw [List.append_nil] at line
    rcases line with none | ⟨lead, ends⟩
    · have words := (List.append_eq_nil_iff.mp none).2
      contradiction
    · have words : before ++ "import ".toList = before ++ "import".toList ++ [' '] := by simp
      have last : [' '] = ['\n'] := (List.append_inj' (words.symm.trans ends) rfl).2
      contradiction
  have described : Anchor.importLine.pattern.Accepts
      ("import ".toList ++ (body ++ body') ++ ";\n".toList) :=
    accepts_importLine_iff.mpr ⟨body ++ body', rfl, some, by simp [closed, closed']⟩
  have last : ";\n".toList.length = 2 := rfl
  refine ⟨before, _, after, by simp, described, ?_⟩
  simp only [List.length_append]
  omega

/-- Every import ends in front of a line exactly when none stands from there on and none is left
open above the line and finished from there on. -/
theorem over_iff_of_line (line : front = [] ∨ ∃ lead, front = lead ++ ['\n']) (rest : Text) :
    (∀ before found after, front ++ rest = before ++ found ++ after →
        Anchor.importLine.pattern.Accepts found → ∃ gap, front = before ++ found ++ gap) ↔
      ¬ Anchor.importLine.pattern.StandsIn rest ∧
        ¬ (LeavesImportOpen front ∧ FinishesImport rest) := by
  constructor
  · intro within
    have short (before found after : Text) (split : front ++ rest = before ++ found ++ after)
        (described : Anchor.importLine.pattern.Accepts found) :
        (before ++ found).length ≤ front.length := by
      obtain ⟨gap, ends⟩ := within before found after split described
      have size := congrArg List.length ends
      simp only [List.length_append] at size ⊢
      omega
    constructor
    · rintro ⟨before, found, after, rfl, described⟩
      have size := short (front ++ before) found after (by simp) described
      have some := List.length_pos_iff.mpr
        (Pattern.ne_nil_of_isSolid Anchor.importLine_definite.solid described)
      simp only [List.length_append] at size
      omega
    · rintro ⟨opened, finished⟩
      obtain ⟨before, found, after, split, described, long⟩ := exists_across line opened finished
      have size := short before found after split described
      omega
  · rintro ⟨absent, across⟩ before found after split described
    rcases List.append_eq_append_iff.mp split with ⟨outer, cut, rfl⟩ | ⟨gap, cut, _⟩
    · rcases List.append_eq_append_iff.mp cut with ⟨inner, rfl, rfl⟩ | ⟨gap, _, rfl⟩
      · by_cases started : inner = []
        · subst started
          exact (absent ⟨[], outer, after, rfl, described⟩).elim
        · by_cases goes : outer = []
          · exact ⟨[], by rw [goes, List.append_nil, List.append_nil]⟩
          · obtain ⟨lead, ends⟩ : ∃ lead, before ++ inner = lead ++ ['\n'] :=
              line.resolve_left fun none => started (List.append_eq_nil_iff.mp none).2
            exact (across (open_of_across ends started goes described)).elim
      · exact (absent ⟨gap, found, after, rfl, described⟩).elim
    · exact ⟨gap, cut⟩

/-- Whether a line starts with the word that opens a class. -/
def opensClass (line : Text) : Bool := "class ".toList.isPrefixOf line

/-- Whether the first characters of a line that are not blank are the words of an import. -/
def opensImport (line : Text) : Bool :=
  "import ".toList.isPrefixOf (line.dropWhile Text.isBlank)

/-- What stands above the first class of a screen; the whole screen, if it has none. -/
def aboveClass (source : Text) : Text :=
  ((Text.lines source).takeWhile fun line => !opensClass line).flatten

/-- What stands in a screen from its first class on. -/
def fromClass (source : Text) : Text :=
  ((Text.lines source).dropWhile fun line => !opensClass line).flatten

/-- That no line from the first class on opens an import. -/
def ImportsFirst (source : Text) : Prop :=
  ∀ line ∈ (Text.lines source).dropWhile (fun line => !opensClass line), opensImport line = false

/-- A screen is what stands above its first class and what stands from there on. -/
theorem aboveClass_append_fromClass (source : Text) :
    aboveClass source ++ fromClass source = source := by
  rw [aboveClass, fromClass, ← List.flatten_append, List.takeWhile_append_dropWhile, Text.lines,
    List.flatten_splitBy]

/-- The first class starts a line, where there is a class. -/
theorem line_of_fromClass (some : fromClass source ≠ []) :
    aboveClass source = [] ∨ ∃ lead, aboveClass source = lead ++ ['\n'] := by
  rw [fromClass] at some
  rw [aboveClass]
  have whole : (Text.lines source).takeWhile _ ++ (Text.lines source).dropWhile _ =
      Text.lines source := List.takeWhile_append_dropWhile (p := fun line => !opensClass line)
  cases below : (Text.lines source).dropWhile fun line => !opensClass line with
  | nil => simp [below] at some
  | cons line after =>
    rw [below] at whole
    by_cases first : (Text.lines source).takeWhile (fun line => !opensClass line) = []
    · exact .inl (by rw [first, List.flatten_nil])
    · exact .inr (Text.exists_newline_of_lines whole.symm first)

/-- The import of the video comes in above the first class exactly when no import stands from that
class on and none is left open above the class and finished from it on. -/
theorem videoImport_aboveClass_iff (written : (insertImport source).output = some output) :
    (∃ left right, aboveClass source = left ++ right ∧
        output = left ++ Template.videoImportLine ++ right ++ fromClass source) ↔
      ¬ Anchor.importLine.pattern.StandsIn (fromClass source) ∧
        ¬ (LeavesImportOpen (aboveClass source) ∧ FinishesImport (fromClass source)) := by
  have whole := aboveClass_append_fromClass source
  rw [videoImport_before_iff written whole.symm]
  by_cases classless : fromClass source = []
  · rw [classless, List.append_nil] at whole
    rw [classless, whole]
    constructor
    · intro _
      refine ⟨Pattern.not_standsIn_nil Anchor.importLine_definite.solid, ?_⟩
      rintro ⟨_, body, after, empty, _⟩
      simp at empty
    · intro _ before found after split _
      exact ⟨after, split⟩
  · have within := over_iff_of_line (line_of_fromClass classless) (fromClass source)
    rwa [whole] at within

/-- A screen with one import above its class, which has nothing in it. -/
def emptyClass : Text := "import 'a.dart';\nclass A \x7b\x7d\n".toList

set_option maxRecDepth 4000 in
/-- Above the class with nothing in it the import of the video comes in. -/
theorem videoImport_aboveClass_emptyClass :
    ∃ output, (insertImport emptyClass).output = some output ∧
      ∃ left right, aboveClass emptyClass = left ++ right ∧
        output = left ++ Template.videoImportLine ++ right ++ fromClass emptyClass := by
  have unmarked : occursIn Template.videoImport emptyClass = false :=
    Text.occursIn_of_literals rfl rfl (by decide)
  have checks : (Anchor.importLine.find? emptyClass).isSome = true ∧
      Anchor.importLine.find? (fromClass emptyClass) = none ∧ ';' ∉ fromClass emptyClass :=
    Text.of_literal (motive := fun source => (Anchor.importLine.find? source).isSome = true ∧
      Anchor.importLine.find? (fromClass source) = none ∧ ';' ∉ fromClass source) rfl (by decide)
  obtain ⟨found, absent, closed⟩ := checks
  have imported := Anchor.importLine_definite.find?_isSome_iff.mp found
  obtain ⟨output, written⟩ := exists_insertImport unmarked imported
  refine ⟨output, written, (videoImport_aboveClass_iff written).mpr ⟨?_, ?_⟩⟩
  · exact Anchor.importLine_definite.find?_eq_none_iff.mp absent
  · rintro ⟨_, body, after, split, _⟩
    have semicolon : ';' ∈ fromClass emptyClass := by simp [split]
    exact closed semicolon

/-- A screen with one import above its class, and with a comment in the class that speaks of
importing. -/
def strayImport : Text := "import 'a.dart';

class A \x7b
  // import the sounds first
  int x = 1;
\x7d
".toList

set_option maxRecDepth 8000 in
/-- Though its imports come first, the screen with the comment gets the import of the video inside
the class. -/
theorem strayImport_not_aboveClass : ImportsFirst strayImport ∧ fromClass strayImport ≠ [] ∧
    ∃ output, (insertImport strayImport).output = some output ∧
      ¬ ∃ left right, aboveClass strayImport = left ++ right ∧
        output = left ++ Template.videoImportLine ++ right ++ fromClass strayImport := by
  have unmarked : occursIn Template.videoImport strayImport = false :=
    Text.occursIn_of_literals rfl rfl (by decide)
  have checks : ImportsFirst strayImport ∧ fromClass strayImport ≠ [] ∧
      (Anchor.importLine.find? (fromClass strayImport)).isSome = true :=
    Text.of_literal (motive := fun source => ImportsFirst source ∧ fromClass source ≠ [] ∧
      (Anchor.importLine.find? (fromClass source)).isSome = true) rfl
      (by unfold ImportsFirst; decide)
  obtain ⟨first, classed, found⟩ := checks
  have stands := Anchor.importLine_definite.find?_isSome_iff.mp found
  have whole := aboveClass_append_fromClass strayImport
  have imported := stands.append_left (aboveClass strayImport)
  rw [whole] at imported
  obtain ⟨output, written⟩ := exists_insertImport unmarked imported
  refine ⟨first, classed, output, written, fun placed => ?_⟩
  have within := (videoImport_before_iff written whole.symm).mp placed
  have condition := over_iff_of_line (line_of_fromClass classed) (fromClass strayImport)
  rw [whole] at condition
  exact (condition.mp within).1 stands

end Screen

end ScreenRetrofit
