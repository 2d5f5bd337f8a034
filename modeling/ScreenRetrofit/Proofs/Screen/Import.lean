import Mathlib.Order.Bounds.Defs
import ScreenRetrofit.Proofs.Pattern.Insertion
import ScreenRetrofit.Proofs.Pattern.Occurrence
import ScreenRetrofit.Proofs.Pattern.Single
import ScreenRetrofit.Proofs.Screen.Rerun

/-!
# The place of the video's import

The import of the video goes behind the last of the imports that a search finds one after the other.
Imports may overlap, since the body of one may hold the words of another; but a semicolon ends all of
them, so none goes on across the end of another (`importLine_avoids_end`). The last import of the
search is therefore the one that ends last (`isGreatest_stops`). The import of the video then stands
once in the screen, and the later stages neither bring it in again nor break it
(`insertImport_behind_last`).
-/

namespace ScreenRetrofit.Screen

open Pattern (StandsIn StandsOnce)
open Text (occursIn utf8Length)

variable {source output lead statement rest before found after : Text}

/-- Where an import ends no import goes on. -/
theorem importLine_avoids_end (left right : Text) :
    Anchor.importLine.pattern.Avoids (left ++ ";\n".toList) [] right :=
  Spelled.importLine.avoids_end Spelled.importEnd (by decide) (Pattern.accepts_literal.mpr rfl) left
    right

/-- An import that no other follows is the last to end. -/
theorem over_by_last (described : Anchor.importLine.pattern.Accepts statement)
    (last : ¬ Anchor.importLine.pattern.StandsIn rest)
    (split : lead ++ statement ++ rest = before ++ found ++ after)
    (described' : Anchor.importLine.pattern.Accepts found) :
    ∃ gap, lead ++ statement = before ++ found ++ gap := by
  obtain ⟨words, rfl⟩ := exists_importEnd described
  have around : before ++ found ++ after = lead ++ words ++ ";\n".toList ++ [] ++ rest := by
    rw [← split]
    simp
  rcases importLine_avoids_end (lead ++ words) rest described' around with
    ⟨gap, ends⟩ | ⟨gap, behind⟩
  · exact ⟨gap, by rw [← ends, List.append_assoc]⟩
  · exact (last ⟨gap, found, after, behind, described'⟩).elim

/-- The end of an import that no other follows is the greatest of the ends of imports. -/
theorem isGreatest_stops (described : Anchor.importLine.pattern.Accepts statement)
    (last : ¬ Anchor.importLine.pattern.StandsIn rest) :
    IsGreatest (Anchor.importLine.stops (lead ++ statement ++ rest))
      (utf8Length (lead ++ statement)) := by
  constructor
  · obtain ⟨head, tail, rfl, first, second⟩ := Pattern.accepts_append.mp described
    exact ⟨_, ⟨⟨lead, head, tail, rest⟩, by simp [Cut.whole], first, second, rfl⟩, rfl⟩
  · rintro _ ⟨_, ⟨cut, whole, first, second, rfl⟩, rfl⟩
    have accepted : Anchor.importLine.pattern.Accepts cut.found :=
      Pattern.accepts_append.mpr ⟨_, _, rfl, first, second⟩
    obtain ⟨gap, ends⟩ := over_by_last described last (whole.symm.trans cut.whole_eq) accepted
    have size := congrArg utf8Length ends
    rw [Text.utf8Length_append (cut.before ++ cut.found)] at size
    have stop : cut.span.stop = utf8Length (cut.before ++ cut.found) := rfl
    omega

/-- The import of the video never starts inside itself. -/
theorem videoImport_closed : Pattern.Closed [.literal Template.videoImport] :=
  Spelled.videoImport.closed (by decide)

/-- The import of the video is not empty. -/
theorem videoImport_solid : Pattern.isSolid [.literal Template.videoImport] = true := rfl

/-- Put into a screen without it the import of the video stands once. -/
theorem videoImport_once_of_insertImport
    (written : (insertImport source).output = some output) :
    StandsOnce [.literal Template.videoImport] output := by
  have unmarked : ¬ StandsIn [.literal Template.videoImport] source := by
    intro stands
    have alone : (insertImport source).output = none :=
      insertImport_output_eq_none_iff.mpr (.inl (Pattern.standsIn_literal.mp stands))
    rw [alone] at written
    contradiction
  obtain ⟨lead, statement, rest, rfl, rfl, _⟩ := exists_last_of_insertImport written
  have before : ¬ StandsIn [.literal Template.videoImport] (lead ++ statement) :=
    fun stands => unmarked (stands.append_right rest)
  -- The newline behind the import belongs to no import, so what follows is as it was.
  have behind : ¬ StandsIn [.literal Template.videoImport] ("\n".toList ++ rest) := by
    intro stands
    have apart : Pattern.Apart [.literal Template.videoImport] [.literal "\n".toList] :=
      Spelled.videoImport.apart (.literal rfl .nil) (by decide)
    have newline : Pattern.Accepts [.literal "\n".toList] "\n".toList :=
      Pattern.accepts_literal.mpr rfl
    rw [← List.nil_append "\n".toList, Pattern.standsIn_around apart newline] at stands
    rcases stands with empty | stands
    · exact Pattern.not_standsIn_nil videoImport_solid empty
    · exact unmarked (stands.append_left (lead ++ statement))
  have once := videoImport_closed.standsOnce_around (Pattern.accepts_literal.mpr rfl) before behind
  simpa [Template.videoImportLine] using once

/-- The later stages leave the import of the video standing once. -/
theorem videoImport_once_after (stage : Stage) (other : stage ≠ .insertImport)
    (once : StandsOnce [.literal Template.videoImport] source) :
    StandsOnce [.literal Template.videoImport] (stage.after source) :=
  (stage.reaches_after source).standsOnce videoImport_closed videoImport_solid
    (videoImport_apart_cut other) (videoImport_apart_brought other) once

/-- The retrofit of a screen that its import stage rewrites has the import of the video once. -/
theorem videoImport_once_retrofit (written : (insertImport source).output = some output) :
    StandsOnce [.literal Template.videoImport] (retrofit source) := by
  have imported : Stage.insertImport.after source = output := Stage.after_of_some written
  rw [retrofit_eq, imported]
  have once := videoImport_once_of_insertImport written
  have helped := videoImport_once_after .insertHelper (by decide) once
  exact videoImport_once_after .rewriteBuild (by decide) helped

/-- The import stage rewrites a screen that has an import, and not that of the video. -/
theorem exists_insertImport (unmarked : occursIn Template.videoImport source = false)
    (imported : Anchor.importLine.pattern.StandsIn source) :
    ∃ output, (insertImport source).output = some output := by
  have writes : (insertImport source).output ≠ none := by
    rw [Ne, insertImport_output_eq_none_iff, unmarked]
    simp [imported]
  exact Option.ne_none_iff_exists'.mp writes

/-- In a screen that has an import, and not that of the video, the import of the video comes in as a
line behind the import that ends last, of all that stand in the screen, whether they overlap or not.
No import stands behind it, and the import of the video stands once in what is written and once in
the retrofit. -/
theorem insertImport_behind_last (unmarked : occursIn Template.videoImport source = false)
    (imported : Anchor.importLine.pattern.StandsIn source) :
    ∃ front rest, source = front ++ rest ∧
      (insertImport source).output = some (front ++ Template.videoImportLine ++ rest) ∧
      IsGreatest (Anchor.importLine.stops source) (utf8Length front) ∧
      ¬ Anchor.importLine.pattern.StandsIn rest ∧
      StandsOnce [.literal Template.videoImport] (front ++ Template.videoImportLine ++ rest) ∧
      StandsOnce [.literal Template.videoImport] (retrofit source) := by
  obtain ⟨output, written⟩ := exists_insertImport unmarked imported
  have once := videoImport_once_of_insertImport written
  have kept := videoImport_once_retrofit written
  obtain ⟨lead, statement, rest, rfl, rfl, described, last⟩ := exists_last_of_insertImport written
  exact ⟨lead ++ statement, rest, rfl, written, isGreatest_stops described last, last, once, kept⟩

/-- A screen with an import in the body of another, one without a body and one that does not end its
line, and with a build method for each of the later stages. -/
def nestedImports : Text := "import a import b\nc;\nimport ;\nimport d; class A \x7b
  @override
  Widget build(BuildContext context) \x7breturn Scaffold(".toList

set_option maxRecDepth 4000 in
/-- In the screen with an import in the body of another the two end together, and the import of the
video comes in behind both. -/
theorem insertImport_behind_last_nestedImports :
    occursIn Template.videoImport nestedImports = false ∧
      Anchor.importLine.pattern.StandsIn nestedImports ∧
      ∃ front rest, nestedImports = front ++ rest ∧
        (insertImport nestedImports).output = some (front ++ Template.videoImportLine ++ rest) ∧
        IsGreatest (Anchor.importLine.stops nestedImports) (utf8Length front) ∧
        ¬ Anchor.importLine.pattern.StandsIn rest ∧
        StandsOnce [.literal Template.videoImport] (front ++ Template.videoImportLine ++ rest) ∧
        StandsOnce [.literal Template.videoImport] (retrofit nestedImports) := by
  have unmarked : occursIn Template.videoImport nestedImports = false :=
    Text.occursIn_of_literals rfl rfl (by decide)
  have found : (Anchor.importLine.find? nestedImports).isSome = true :=
    Text.of_literal (motive := fun source => (Anchor.importLine.find? source).isSome = true) rfl
      (by decide)
  have imported := Anchor.importLine_definite.find?_isSome_iff.mp found
  exact ⟨unmarked, imported, insertImport_behind_last unmarked imported⟩

end ScreenRetrofit.Screen
