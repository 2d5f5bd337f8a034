import ScreenRetrofit.Proofs.Pattern.Search
import ScreenRetrofit.Proofs.Screen.Spelled
import ScreenRetrofit.Screen.Stage

/-!
# The edits of a screen in bytes

The three stages on the bytes of a screen. Every search starts at a byte offset, and every part is
copied, put in or replaced at byte offsets, any of which may be refused. None is refused in the
bytes of a text, whatever the text is and however its bytes are searched (`InBytes.never_refused`).
The stages make of the bytes what they make of the text (`InBytes.stage_bytes`), and the offsets are
sound (`InBytes.SoundCuts`): each lies between two characters, the ends of the headers are in order,
and the end of the row is inside the screen with the row, and not behind the closing found there.
-/

namespace ScreenRetrofit

open Text (occursIn utf8Length)
open Landmark (Span Segment spansFrom)

namespace Cut

variable (cut : Cut)

/-- The landmark of a cut can be replaced in the bytes of the text that was cut. -/
theorem replaceRange_span (new : Text) :
    (Text.bytes cut.whole).replaceRange cut.span.start cut.span.stop (Text.bytes new) =
      .ok (Text.bytes (cut.before ++ new ++ cut.after)) := by
  rw [whole_eq]
  exact Bytes.replaceRange_bytes cut.before cut.found cut.after new

/-- Behind a front the same is replaced, and the front is kept. -/
theorem replaceRange_span_behind (front new : Text) :
    (Text.bytes (front ++ cut.whole)).replaceRange (cut.behind front).span.start
        (cut.behind front).span.stop (Text.bytes new) =
      .ok (Text.bytes (front ++ (cut.before ++ new ++ cut.after))) := by
  have replaced := (cut.behind front).replaceRange_span new
  rw [whole_behind] at replaced
  rw [replaced]
  simp [behind]

end Cut

namespace Landmark

/-- The last of some spans ends where their segments do. -/
theorem stop_of_getLast?_spansFrom {segments : List Segment} {offset : Nat} {last : Span}
    (ends : (spansFrom offset segments).getLast? = some last) :
    last.stop = offset + utf8Length (segments.flatMap Segment.whole) := by
  induction segments generalizing offset with
  | nil => contradiction
  | cons segment segments ih =>
    have size : offset + utf8Length segment.before + utf8Length segment.head +
        utf8Length segment.tail = offset + utf8Length segment.whole := by
      simp [Segment.whole, Nat.add_assoc]
    rw [List.flatMap_cons, Text.utf8Length_append, ← Nat.add_assoc, ← size]
    simp only [spansFrom, List.getLast?_cons, Option.some.injEq] at ends
    cases later : (spansFrom (offset + utf8Length segment.before + utf8Length segment.head +
        utf8Length segment.tail) segments).getLast? with
    | none =>
      rw [later, Option.getD_none] at ends
      have alone : segments = [] := by
        cases segments with
        | nil => rfl
        | cons => simp [spansFrom] at later
      rw [← ends, alone]
      rfl
    | some _ =>
      rw [later, Option.getD_some] at ends
      exact ih (later.trans (congrArg some ends))

end Landmark

/-- How much of a source is copied: what came out so far, and where the copy goes on. -/
structure Copying where
  /-- What came out. -/
  out : Bytes
  /-- How many bytes of the source it took. -/
  copied : Nat

namespace Copying

/-- Copy a source up to a place and put new bytes there. -/
def putAt (source new : Bytes) (copying : Copying) (place : Nat) : Except BadRange Copying := do
  let part ← source.slice copying.copied place
  return ⟨copying.out ++ part ++ new, place⟩

/-- Copy the rest of a source. -/
def finish (source : Bytes) (copying : Copying) : Except BadRange Bytes := do
  let rest ← source.slice copying.copied source.length
  return copying.out ++ rest

variable {source : Text}

/-- A copy goes on up to a place between two characters. -/
theorem putAt_bytes {front middle rest : Text} (split : source = front ++ middle ++ rest)
    (new out : Bytes) :
    putAt (Text.bytes source) new ⟨out, utf8Length front⟩ (utf8Length (front ++ middle)) =
      .ok ⟨out ++ Text.bytes middle ++ new, utf8Length (front ++ middle)⟩ := by
  rw [putAt, split, Bytes.slice_bytes]
  rfl

/-- A copy comes to its end from a place between two characters. -/
theorem finish_bytes {front rest : Text} (split : source = front ++ rest) (out : Bytes) :
    finish (Text.bytes source) ⟨out, utf8Length front⟩ = .ok (out ++ Text.bytes rest) := by
  rw [finish, split, Bytes.slice_behind]
  rfl

/-- A copy that has come to a front, with segments and a rest ahead of it, puts the new text at the
place of every segment. -/
theorem foldlM_putAt (new : Text) (segments : List Segment) (front kept : Text) {rest : Text}
    (out : Bytes) (split : source = front ++ (kept ++ segments.flatMap Segment.whole ++ rest)) :
    (((spansFrom (utf8Length (front ++ kept)) segments).map Span.place).foldlM
        (putAt (Text.bytes source) (Text.bytes new)) ⟨out, utf8Length front⟩ >>=
      finish (Text.bytes source)) =
    .ok (out ++ Text.bytes (kept ++ segments.flatMap (fun segment =>
      segment.before ++ segment.head ++ new ++ segment.tail) ++ rest)) := by
  -- What is kept is the tail of the segment before, which is copied with the next part.
  induction segments generalizing front kept out with
  | nil => exact finish_bytes split out
  | cons segment segments ih =>
    have place : utf8Length (front ++ kept) + utf8Length segment.before + utf8Length segment.head =
        utf8Length (front ++ (kept ++ segment.before ++ segment.head)) := by
      simp [Nat.add_assoc]
    have ahead : source = front ++ (kept ++ segment.before ++ segment.head) ++
        (segment.tail ++ segments.flatMap Segment.whole ++ rest) := by
      simp [split, Segment.whole]
    have step := putAt_bytes ahead (Text.bytes new) out
    have later := ih (front ++ (kept ++ segment.before ++ segment.head)) segment.tail
      (out ++ Text.bytes (kept ++ segment.before ++ segment.head) ++ Text.bytes new) ahead
    rw [Text.utf8Length_append _ segment.tail] at later
    simp only [spansFrom, List.map_cons, List.foldlM_cons, place, step]
    refine Eq.trans later ?_
    simp

end Copying

namespace Bytes

/-- A source with new bytes at each of some places. -/
def insertAt (source new : Bytes) (places : List Nat) : Except BadRange Bytes :=
  places.foldlM (Copying.putAt source new) ⟨[], 0⟩ >>= Copying.finish source

/-- At the places of a landmark a new text is put in as it is in the text. -/
theorem insertAt_places (landmark : Landmark) (new source : Text) :
    insertAt (Text.bytes source) (Text.bytes new) ((landmark.spans source).map Span.place) =
      .ok (Text.bytes (landmark.insertAtEach new source)) :=
  Copying.foldlM_putAt new (landmark.segments source).1 [] [] []
    (landmark.join_segments source).symm

end Bytes

namespace Screen

/-- What became of a screen, in bytes: its new source, or nothing, and the notices. -/
abbrev Edited.InBytes := Option Bytes × List Notice

/-- What became of a screen, in bytes. -/
def Edited.inBytes (edited : Edited) : Edited.InBytes :=
  (edited.output.map Text.bytes, edited.notices)

namespace InBytes

variable (search : Search)

/-- Where the last import stands. -/
def lastImport? (source : Bytes) : Except BadRange (Option Span) :=
  (·.getLast?) <$> search.allFrom Anchor.importLine source 0

/-- Put the import of the video widget behind the last import. -/
def insertImport (source : Bytes) : Except BadRange Edited.InBytes :=
  if source.contains (Text.bytes Template.videoImport) then .ok (none, [])
  else do
    match ← lastImport? search source with
    | none => return (none, [.noImport])
    | some last =>
      let imported ← source.putIn last.stop (Text.bytes Template.videoImportLine)
      return (some imported, [])

/-- Where the first build method stands. -/
def firstBuild? (source : Bytes) : Except BadRange (Option Span) :=
  search.firstFrom Anchor.memberBuild source 0

/-- Put the helper method above the first build method. -/
def insertHelper (source : Bytes) : Except BadRange Edited.InBytes :=
  if source.contains (Text.bytes Template.helperMark) then .ok (none, [])
  else do
    match ← firstBuild? search source with
    | none => return (none, [.noMemberBuild])
    | some build =>
      let helped ← source.putIn build.start (Text.bytes Template.helperMethod)
      return (some helped, [])

/-- Where the bodies of the build methods open that return a scaffold. -/
def headerEnds (source : Bytes) : Except BadRange (List Nat) :=
  (·.map Span.place) <$> search.allFrom Anchor.scaffoldBuild source 0

/-- Where the game area stands. -/
def gameArea? (source : Bytes) : Except BadRange (Option Span) :=
  search.firstFrom Anchor.gameArea source 0

/-- Where the row ends that is put in for a game area. -/
def rowEnd (area : Span) : Nat := area.start + (Text.bytes Template.videoRow).length

/-- Where the closing of the layout stands behind a row. -/
def layoutClosing? (opened : Bytes) (area : Span) : Except BadRange (Option Span) :=
  search.firstFrom Anchor.layoutClosing opened (rowEnd area)

/-- Turn the game area into a row beside the video, and close the row behind it. -/
def openRow (source : Bytes) : Except BadRange Edited.InBytes := do
  match ← gameArea? search source with
  | none => return (some source, [.noGameArea])
  | some area =>
    let opened ← source.replaceRange area.start area.stop (Text.bytes Template.videoRow)
    match ← layoutClosing? search opened area with
    | none => return (some opened, [.noLayoutClosing])
    | some closing =>
      let closed ← opened.replaceRange closing.start closing.stop (Text.bytes Template.rowClosing)
      return (some closed, [])

/-- Give every build method that returns a scaffold its locals, then open the row. -/
def rewriteBuild (source : Bytes) : Except BadRange Edited.InBytes :=
  if source.contains (Text.bytes Template.widgetMark) &&
      source.contains (Text.bytes Template.showVideoMark) then .ok (none, [.alreadyShown])
  else do
    match ← headerEnds search source with
    | [] => return (none, [.noScaffoldBuild])
    | ends =>
      let located ← source.insertAt (Text.bytes Template.buildLocals) ends
      openRow search located

end InBytes

/-- What a stage makes of the bytes of a screen. -/
def Stage.inBytes (search : Search) : Stage → Bytes → Except BadRange Edited.InBytes
  | .insertImport => InBytes.insertImport search
  | .insertHelper => InBytes.insertHelper search
  | .rewriteBuild => InBytes.rewriteBuild search

namespace InBytes

/-- The offsets that the row is put in and closed at in the bytes of a screen. -/
def SoundRow (search : Search) (source : Bytes) : Prop :=
  ∃ area?, gameArea? search source = .ok area? ∧ ∀ area ∈ area?,
    source.IsRange area.start area.stop ∧ ∃ opened,
      source.replaceRange area.start area.stop (Text.bytes Template.videoRow) = .ok opened ∧
      opened.CutsAt (rowEnd area) ∧ ∃ closing?,
        layoutClosing? search opened area = .ok closing? ∧ ∀ closing ∈ closing?,
          rowEnd area ≤ closing.start ∧ opened.IsRange closing.start closing.stop

/-- The offsets that the stages cut the bytes of a screen at. -/
structure SoundCuts (search : Search) (source : Bytes) : Prop where
  /-- The screen can be cut at the end of the last import. -/
  lastImport : ∃ last?, lastImport? search source = .ok last? ∧
    ∀ last ∈ last?, source.CutsAt last.stop
  /-- The screen can be cut at the start of the first build method. -/
  firstBuild : ∃ build?, firstBuild? search source = .ok build? ∧
    ∀ build ∈ build?, source.CutsAt build.start
  /-- The ends of the headers are in order, each part between two of them can be cut out, and with
  the locals put in there the offsets of the row are sound. -/
  headerEnds : ∃ ends, headerEnds search source = .ok ends ∧ ends.Pairwise (· < ·) ∧
    (0 :: ends ++ [source.length]).Pairwise source.IsRange ∧ ∃ located,
      source.insertAt (Text.bytes Template.buildLocals) ends = .ok located ∧
      SoundRow search located

variable (search : Search) (source : Text)

/-- The last import of a screen is found in its bytes. -/
theorem lastImport?_bytes : lastImport? search (Text.bytes source) =
    .ok (Anchor.importLine.spans source).getLast? := by
  rw [lastImport?, search.allFrom_zero Anchor.importLine_definite]
  rfl

/-- The ends of the headers of a screen are found in its bytes. -/
theorem headerEnds_bytes : headerEnds search (Text.bytes source) =
    .ok ((Anchor.scaffoldBuild.spans source).map Span.place) := by
  rw [headerEnds, search.allFrom_zero Anchor.scaffoldBuild_definite]
  rfl

/-- The end of the row parts what stands in front of it with the row from the rest. -/
theorem rowEnd_span (area : Cut) :
    rowEnd area.span = utf8Length (area.before ++ Template.videoRow) := by
  rw [rowEnd, Text.length_bytes, Text.utf8Length_append]
  rfl

/-- The closing of the layout is found in the bytes behind the row. -/
theorem layoutClosing?_bytes (area : Cut) :
    layoutClosing? search (Text.bytes (area.before ++ Template.videoRow ++ area.after)) area.span =
      .ok ((Anchor.layoutClosing.find? area.after).map fun closing =>
        (closing.behind (area.before ++ Template.videoRow)).span) := by
  rw [layoutClosing?, rowEnd_span, search.firstFrom_eq Anchor.layoutClosing_definite]
  simp only [Cut.span_behind]

/-- The import is put into the bytes of a screen as into the screen. -/
theorem insertImport_bytes :
    insertImport search (Text.bytes source) = .ok (Screen.insertImport source).inBytes := by
  rw [insertImport, Screen.insertImport, Text.contains_bytes (by decide), lastImport?_bytes,
    Landmark.spans]
  have joined := Anchor.importLine.join_segments source
  cases occursIn Template.videoImport source with
  | true => rfl
  | false =>
    generalize Anchor.importLine.segments source = parts at joined ⊢
    obtain ⟨segments, rest⟩ := parts
    cases segments with
    | nil => rfl
    | cons segment segments =>
      obtain ⟨last, ends⟩ : ∃ last, (spansFrom 0 (segment :: segments)).getLast? = some last :=
        ⟨_, List.getLast?_cons⟩
      have stop := Landmark.stop_of_getLast?_spansFrom ends
      rw [Nat.zero_add] at stop
      have imported := Bytes.putIn_bytes ((segment :: segments).flatMap Segment.whole) rest
        Template.videoImportLine
      rw [joined, ← stop] at imported
      simp only [ends, imported, BadRange.ok_bind]
      rfl

/-- The helper is put into the bytes of a screen as into the screen. -/
theorem insertHelper_bytes :
    insertHelper search (Text.bytes source) = .ok (Screen.insertHelper source).inBytes := by
  rw [insertHelper, Screen.insertHelper, Text.contains_bytes (by decide), firstBuild?,
    search.firstFrom_zero Anchor.memberBuild_definite]
  cases occursIn Template.helperMark source with
  | true => rfl
  | false =>
    cases found : Anchor.memberBuild.find? source with
    | none => rfl
    | some build =>
      have helped := Bytes.putIn_bytes build.before (build.found ++ build.after)
        Template.helperMethod
      rw [← List.append_assoc, ← Cut.whole_eq, Landmark.whole_of_find? found,
        ← List.append_assoc] at helped
      have start : build.span.start = utf8Length build.before := rfl
      simp only [Option.map_some, start, helped, BadRange.ok_bind]
      rfl

/-- The row is opened and closed in the bytes of a screen as in the screen. -/
theorem openRow_bytes :
    openRow search (Text.bytes source) = .ok (Screen.openRow source).inBytes := by
  rw [openRow, gameArea?, search.firstFrom_zero Anchor.gameArea_definite, Screen.openRow]
  cases found : Anchor.gameArea.find? source with
  | none => rfl
  | some area =>
    have opened := area.replaceRange_span Template.videoRow
    rw [Landmark.whole_of_find? found] at opened
    rw [Option.map_some, BadRange.ok_bind]
    dsimp only
    rw [opened, BadRange.ok_bind, layoutClosing?_bytes]
    cases found' : Anchor.layoutClosing.find? area.after with
    | none => rfl
    | some closing =>
      rw [Option.map_some, BadRange.ok_bind]
      dsimp only
      rw [← Landmark.whole_of_find? found', Cut.replaceRange_span_behind, BadRange.ok_bind]
      rfl

/-- The build methods are rewritten in the bytes of a screen as in the screen. -/
theorem rewriteBuild_bytes :
    rewriteBuild search (Text.bytes source) = .ok (Screen.rewriteBuild source).inBytes := by
  rw [rewriteBuild, Screen.rewriteBuild, Text.contains_bytes (by decide),
    Text.contains_bytes (by decide), headerEnds_bytes, ← showsVideo]
  cases showsVideo source with
  | true => rfl
  | false =>
    have located := Bytes.insertAt_places Anchor.scaffoldBuild Template.buildLocals source
    cases found : Anchor.scaffoldBuild.find? source with
    | none =>
      have missing : Anchor.scaffoldBuild.spans source = [] :=
        Landmark.Definite.spansFrom_of_find?_eq_none found 0
      simp only [missing, BadRange.ok_bind]
      rfl
    | some build =>
      have spans : Anchor.scaffoldBuild.spans source = _ :=
        Anchor.scaffoldBuild_definite.spansFrom_of_find?_eq_some found 0
      rw [spans, List.map_cons] at located ⊢
      simp only [located, BadRange.ok_bind]
      exact openRow_bytes search _

/-- The offsets of the row are sound in the bytes of every screen. -/
theorem soundRow : SoundRow search (Text.bytes source) := by
  refine ⟨_, search.firstFrom_zero Anchor.gameArea_definite source, fun span member => ?_⟩
  obtain ⟨area, found, rfl⟩ := Option.map_eq_some_iff.mp member
  have stands := Anchor.gameArea_definite.standsAt_of_find? found
  have opened := area.replaceRange_span Template.videoRow
  rw [Landmark.whole_of_find? found] at opened
  refine ⟨stands.isRange, _, opened, ?_, _, layoutClosing?_bytes search area, ?_⟩
  · rw [rowEnd_span]
    exact Bytes.cutsAt _ _
  · intro span member
    obtain ⟨closing, found, rfl⟩ := Option.map_eq_some_iff.mp member
    have stands := (Anchor.layoutClosing_definite.standsAt_of_find? found).shift
      (area.before ++ Template.videoRow)
    rw [← Cut.span_behind] at stands
    refine ⟨?_, stands.isRange⟩
    rw [rowEnd_span, Cut.span_behind]
    exact Nat.le_add_right _ _

/-- The screen can be cut at the end of its last import. -/
theorem cutsAt_lastImport {last : Span}
    (found : (Anchor.importLine.spans source).getLast? = some last) :
    (Text.bytes source).CutsAt last.stop := by
  have stop := Landmark.stop_of_getLast?_spansFrom found
  have cut := Bytes.cutsAt ((Anchor.importLine.segments source).1.flatMap Segment.whole)
    (Anchor.importLine.segments source).2
  rwa [Anchor.importLine.join_segments, ← Nat.zero_add (utf8Length _), ← stop] at cut

/-- The ends of the headers of a screen are in order. -/
theorem pairwise_headerEnds :
    ((Anchor.scaffoldBuild.spans source).map Span.place).Pairwise (· < ·) := by
  refine List.pairwise_map.mpr ((Landmark.pairwise_spansFrom 0 _).imp_of_mem ?_)
  intro first second member member' behind
  have inside := (Landmark.le_start_of_mem_spansFrom member).2.2
  have stands := (Anchor.scaffoldBuild_definite.mem_spans_iff scaffoldBuild_closed).mp member'
  have within := stands.start_lt_place rfl
  omega

/-- The stages make of the bytes of a screen what they make of the screen. -/
theorem stage_bytes (stage : Stage) :
    stage.inBytes search (Text.bytes source) = .ok (stage.apply source).inBytes := by
  cases stage with
  | insertImport => exact insertImport_bytes search source
  | insertHelper => exact insertHelper_bytes search source
  | rewriteBuild => exact rewriteBuild_bytes search source

/-- No cut is refused in the bytes of a screen, whatever its text is. The stages make of the bytes
what they make of the text, and all offsets that they cut at are sound. -/
theorem never_refused :
    (∀ stage : Stage,
      stage.inBytes search (Text.bytes source) = .ok (stage.apply source).inBytes) ∧
      SoundCuts search (Text.bytes source) := by
  refine ⟨stage_bytes search source,
    ⟨_, lastImport?_bytes search source, fun _ => cutsAt_lastImport source⟩,
    ⟨_, search.firstFrom_zero Anchor.memberBuild_definite source, fun span member => ?_⟩,
    ⟨_, headerEnds_bytes search source, pairwise_headerEnds source, ?_, _,
      Bytes.insertAt_places _ _ source, soundRow search _⟩⟩
  · obtain ⟨build, found, rfl⟩ := Option.map_eq_some_iff.mp member
    exact (Anchor.memberBuild_definite.standsAt_of_find? found).cutsAt.1
  · refine Bytes.pairwise_isRange (pairwise_headerEnds source) fun place member => ?_
    obtain ⟨span, found, rfl⟩ := List.mem_map.mp member
    exact ((Anchor.scaffoldBuild_definite.mem_spans_iff scaffoldBuild_closed).mp found).cutsAt.2.1

/-- A screen for every stage, with letters of two bytes and blanks of two and three in and around
its landmarks. -/
def wideScreen : Text := "import 'á.dart';
\u3000import 'ñ.dart';

  @override\u3000
  Widget build(BuildContext context)\u2003\x7b\u3000return Scaffold(\u00a0
    // Área de juego\u3000Expanded(\u2003child:\u2003Center( é ),\u3000), ), ],\u2003), ), ), );
\x7d".toList

set_option maxRecDepth 4000 in
/-- Every stage rewrites the screen with wide characters, and none of its cuts is refused. -/
theorem never_refused_wideScreen :
    (∀ stage : Stage, (stage.apply wideScreen).output.isSome = true ∧
      (stage.apply wideScreen).notices = []) ∧
      (∀ stage : Stage, stage.inBytes .byCharacters (Text.bytes wideScreen) =
        .ok (stage.apply wideScreen).inBytes) ∧
      SoundCuts .byCharacters (Text.bytes wideScreen) := by
  refine ⟨fun stage => ?_, never_refused .byCharacters wideScreen⟩
  refine Text.of_literal (motive := fun source => (stage.apply source).output.isSome = true ∧
    (stage.apply source).notices = []) rfl ?_
  cases stage <;> decide +kernel

end InBytes

end Screen

end ScreenRetrofit
