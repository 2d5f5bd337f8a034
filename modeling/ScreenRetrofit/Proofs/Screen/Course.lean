import ScreenRetrofit.Proofs.Pattern.Insertion
import ScreenRetrofit.Proofs.Screen.Once

/-!
# The course of a rewrite

A rewrite of build methods is known from its course: the build methods that get their locals, the
game area that becomes a row, and the closing behind it. What is written is what the edits of the
course make of the screen, and without a course nothing is (`takes_course?`). How far a course goes,
and what is said about it, depends on nothing but the landmarks and marks that stand in the screen,
and on their order (`extent_eq_of_alike`).

The import and the helper come in at places across which none of these goes on. So the stages in
front of a rewrite leave its course as it was, though they move what it works on, and the rewrite
makes as many edits of each kind as it makes without them (`course_after_insertions`).
-/

namespace ScreenRetrofit.Screen

open Pattern (InOrder Alike Spelling)

variable {source source' output : Text}

/-- A screen with locals in its build methods: each of them with what stands before it, and what
stands behind the last. -/
def withLocals (builds : List Landmark.Segment) (rest : Text) : Text :=
  builds.flatMap (fun build => build.before ++ build.head ++ Template.buildLocals ++ build.tail) ++
    rest

/-- The edits that a rewrite of build methods is made of. -/
structure Course where
  /-- The build methods that get their locals, each with what stands before it. -/
  builds : List Landmark.Segment
  /-- What stands behind the last of them. -/
  rest : Text
  /-- The game area that becomes a row, in the screen with its locals. -/
  area? : Option Cut
  /-- The closing that becomes that of the row, in what stands behind the area. -/
  closing? : Option Cut

/-- How far a course goes. -/
structure Extent where
  /-- How many build methods get their locals. -/
  locals : Nat
  /-- Whether a game area becomes a row. -/
  opens : Bool
  /-- Whether a closing becomes that of the row. -/
  closes : Bool
  deriving DecidableEq, Repr

namespace Course

/-- The course on a screen cut at its build methods. -/
def of (builds : List Landmark.Segment) (rest : Text) : Course :=
  let area? := Anchor.gameArea.find? (withLocals builds rest)
  ⟨builds, rest, area?, area?.bind fun area => Anchor.layoutClosing.find? area.after⟩

/-- What the edits of a course make of the screen, and what is said. -/
def edited (course : Course) : Edited :=
  match course.area?, course.closing? with
  | none, _ => .write (withLocals course.builds course.rest) [.noGameArea]
  | some area, none => .write (area.before ++ Template.videoRow ++ area.after) [.noLayoutClosing]
  | some area, some closing =>
    .write (area.before ++ Template.videoRow ++
      (closing.before ++ Template.rowClosing ++ closing.after)) []

/-- How far a course goes. -/
def extent (course : Course) : Extent :=
  ⟨course.builds.length, course.area?.isSome, course.closing?.isSome⟩

end Course

/-- The course that a rewrite of build methods takes, where it takes one. -/
def course? (source : Text) : Option Course :=
  if showsVideo source then none
  else match Anchor.scaffoldBuild.segments source with
    | ([], _) => none
    | (builds, rest) => some (.of builds rest)

/-- With its locals in place a screen is opened as its course has it. -/
theorem openRow_withLocals (builds : List Landmark.Segment) (rest : Text) :
    openRow (withLocals builds rest) = (Course.of builds rest).edited := by
  simp only [openRow, Course.edited, Course.of]
  cases Anchor.gameArea.find? (withLocals builds rest) with
  | none => rfl
  | some area =>
    dsimp only [Option.bind_some]
    cases Anchor.layoutClosing.find? area.after <;> rfl

/-- A rewrite of build methods makes the edits of its course, and none without one. -/
theorem rewriteBuild_eq (source : Text) : rewriteBuild source =
    match course? source with
    | none => .leave [if showsVideo source then .alreadyShown else .noScaffoldBuild]
    | some course => course.edited := by
  rw [rewriteBuild, course?]
  split
  · rfl
  · cases search : Anchor.scaffoldBuild.find? source with
    | none => rw [Landmark.Definite.segments_of_find?_eq_none search]
    | some cut =>
      have segments := Anchor.scaffoldBuild_definite.segments_of_find?_eq_some search
      rw [Landmark.insertAtEach, segments]
      exact openRow_withLocals _ _

/-- A rewrite takes no course exactly when the screen shows the video or has no build method for
it. -/
theorem course?_eq_none_iff : course? source = none ↔
    showsVideo source = true ∨ ¬ Anchor.scaffoldBuild.pattern.StandsIn source := by
  rw [← rewriteBuild_output_eq_none_iff, rewriteBuild_eq]
  cases course? source with
  | none => simp [Edited.leave]
  | some course =>
    have writes : course.edited.output ≠ none := by
      rw [Course.edited]
      split <;> simp [Edited.write]
    simp [writes]

/-- A course is that of the screen cut at its build methods. -/
theorem course_eq_of {course : Course} (taken : course? source = some course) :
    course = .of (Anchor.scaffoldBuild.segments source).1
      (Anchor.scaffoldBuild.segments source).2 := by
  rw [course?] at taken
  split at taken
  · contradiction
  · split at taken
    · contradiction
    · rename_i cut
      rw [cut]
      exact (Option.some.inj taken).symm

/-- A course fits a screen when its edits are edits of that screen. -/
structure Course.Fits (course : Course) (source : Text) : Prop where
  /-- The build methods, with what stands before each and behind the last, make up the screen. -/
  whole : course.builds.flatMap Landmark.Segment.whole ++ course.rest = source
  /-- There are such build methods. -/
  located : course.builds ≠ []
  /-- Each of them returns a scaffold, and the locals go to the top of its body. -/
  build : ∀ build ∈ course.builds, Anchor.scaffoldBuild.head.Accepts build.head ∧
    Anchor.scaffoldBuild.tail.Accepts build.tail
  /-- The game area stands in the screen with its locals. -/
  area : ∀ area ∈ course.area?, area.whole = withLocals course.builds course.rest ∧
    Anchor.gameArea.pattern.Accepts area.found
  /-- The closing stands behind the game area. -/
  closing : ∀ closing ∈ course.closing?, ∃ area ∈ course.area?, closing.whole = area.after ∧
    Anchor.layoutClosing.pattern.Accepts closing.found

/-- What a rewrite of build methods makes of a screen, by the course that it takes there. -/
inductive Takes (source : Text) : Option Course → Edited → Prop
  /-- A screen that shows the video is left alone. -/
  | shown (marked : showsVideo source = true) : Takes source none (.leave [.alreadyShown])
  /-- A screen without a build method that returns a scaffold is left alone. -/
  | bare (unmarked : showsVideo source = false)
    (absent : ¬ Anchor.scaffoldBuild.pattern.StandsIn source) :
    Takes source none (.leave [.noScaffoldBuild])
  /-- Every other screen is written with the edits of a course on it. -/
  | along {course : Course} (unmarked : showsVideo source = false) (fits : course.Fits source) :
    Takes source (some course) course.edited

/-- The course of a rewrite fits the screen. -/
theorem fits_of_course? {course : Course} (taken : course? source = some course) :
    course.Fits source := by
  obtain rfl := course_eq_of taken
  refine ⟨Anchor.scaffoldBuild.join_segments source, fun empty => ?_,
    fun build member => Anchor.scaffoldBuild_definite.accepts_of_mem_segments member,
    fun area found => ⟨Landmark.whole_of_find? found,
      Anchor.gameArea_definite.accepts_found found⟩, fun closing found => ?_⟩
  · have cut : Anchor.scaffoldBuild.segments source =
        ([], (Anchor.scaffoldBuild.segments source).2) := Prod.ext empty rfl
    rw [course?, cut] at taken
    split at taken <;> contradiction
  · obtain ⟨area, opened, closed⟩ := Option.bind_eq_some_iff.mp found
    exact ⟨area, opened, Landmark.whole_of_find? closed,
      Anchor.layoutClosing_definite.accepts_found closed⟩

/-- A rewrite of build methods takes its course. -/
theorem takes_course? (source : Text) : Takes source (course? source) (rewriteBuild source) := by
  rw [rewriteBuild_eq]
  cases taken : course? source with
  | none =>
    cases shown : showsVideo source with
    | true => exact .shown shown
    | false =>
      have absent := (course?_eq_none_iff.mp taken).resolve_left (by simp [shown])
      exact .bare shown absent
  | some course =>
    have unmarked : showsVideo source = false := by
      rw [← Bool.not_eq_true]
      intro shown
      rw [course?_eq_none_iff.mpr (.inl shown)] at taken
      contradiction
    exact .along unmarked (fits_of_course? taken)

/-- Locals neither bring in nor take away a game area or a closing. -/
theorem located_alike (source : Text) :
    Alike [Anchor.gameArea.pattern, Anchor.layoutClosing.pattern]
      (Anchor.scaffoldBuild.insertAtEach Template.buildLocals source) source := by
  have cuts : ∀ pattern ∈ [Anchor.gameArea.pattern, Anchor.layoutClosing.pattern],
      ∀ change ∈ [localsChange], pattern.Apart change.cut := by
    intro pattern member
    simp only [List.mem_cons, List.not_mem_nil, or_false] at member
    rcases member with rfl | rfl
    · exact Change.apart_cut Spelled.gameArea (by decide)
    · exact Change.apart_cut Spelled.layoutClosing (by decide)
  have brings : ∀ pattern ∈ [Anchor.gameArea.pattern, Anchor.layoutClosing.pattern],
      ∀ change ∈ [localsChange], pattern.Apart change.brought := by
    intro pattern member
    simp only [List.mem_cons, List.not_mem_nil, or_false] at member
    rcases member with rfl | rfl
    · exact Change.apart_brought Spelled.gameArea (by decide)
    · exact Change.apart_brought Spelled.layoutClosing (by decide)
  intro ordered subset
  have reaches := reaches_located source
  exact ⟨reaches.inOrder_back fun pattern member => brings pattern (subset member),
    reaches.inOrder fun pattern member => cuts pattern (subset member)⟩

/-- How far a course goes is known from the order in which landmarks stand in the screen. -/
theorem extent_iff {course : Course} (taken : course? source = some course) :
    (∀ count, count ≤ course.extent.locals ↔
        InOrder (List.replicate count Anchor.scaffoldBuild.pattern) source) ∧
      (course.extent.opens = true ↔ InOrder [Anchor.gameArea.pattern] source) ∧
      (course.extent.closes = true ↔
        InOrder [Anchor.gameArea.pattern, Anchor.layoutClosing.pattern] source) := by
  obtain rfl := course_eq_of taken
  have located : withLocals (Anchor.scaffoldBuild.segments source).1
      (Anchor.scaffoldBuild.segments source).2 =
        Anchor.scaffoldBuild.insertAtEach Template.buildLocals source := rfl
  refine ⟨fun count => ?_, ?_, ?_⟩
  · exact Anchor.scaffoldBuild_definite.le_length_segments_iff scaffoldBuild_closed count source
  · rw [← located_alike source (by simp), Pattern.inOrder_singleton]
    exact Anchor.gameArea_definite.find?_isSome_iff
  · rw [← located_alike source (by simp)]
    exact Anchor.gameArea_definite.find?_after_isSome_iff (Spelled.gameArea.closed (by decide))
      Anchor.layoutClosing_definite

/-- What is said about a course that goes so far. -/
def Extent.notices : Extent → List Notice
  | ⟨_, false, _⟩ => [.noGameArea]
  | ⟨_, true, false⟩ => [.noLayoutClosing]
  | ⟨_, true, true⟩ => []

/-- What is said about a course depends on how far it goes. -/
theorem Course.notices_edited (course : Course) :
    course.edited.notices = course.extent.notices := by
  obtain ⟨builds, rest, area?, closing?⟩ := course
  cases area? with
  | none => rfl
  | some area => cases closing? <;> rfl

/-- What a rewrite of build methods looks for. -/
def rewriteMarks : List Pattern :=
  [[.literal Template.widgetMark], [.literal Template.showVideoMark], Anchor.scaffoldBuild.pattern,
    Anchor.gameArea.pattern, Anchor.layoutClosing.pattern]

/-- Of two screens with the same marks both show the video or none does. -/
theorem showsVideo_eq_of_alike (alike : Alike rewriteMarks source source') :
    showsVideo source = showsVideo source' := by
  rw [Bool.eq_iff_iff, showsVideo_iff, showsVideo_iff, alike.standsIn_iff (by simp [rewriteMarks]),
    alike.standsIn_iff (by simp [rewriteMarks])]

/-- On screens with the same marks and landmarks in order a course goes equally far. -/
theorem extent_eq_of_alike (alike : Alike rewriteMarks source source') :
    (course? source).map Course.extent = (course? source').map Course.extent := by
  have none_iff : course? source = none ↔ course? source' = none := by
    rw [course?_eq_none_iff, course?_eq_none_iff, showsVideo_eq_of_alike alike,
      alike.standsIn_iff (by simp [rewriteMarks])]
  cases taken : course? source with
  | none =>
    rw [none_iff.mp taken]
  | some course =>
    cases taken' : course? source' with
    | none =>
      rw [none_iff.mpr taken'] at taken
      contradiction
    | some course' =>
      obtain ⟨locals, opens, closes⟩ := extent_iff taken
      obtain ⟨locals', opens', closes'⟩ := extent_iff taken'
      have ordered {patterns : List Pattern} (subset : patterns ⊆ rewriteMarks) :
          InOrder patterns source ↔ InOrder patterns source' := alike subset
      have builds (count : Nat) : count ≤ course.extent.locals ↔ count ≤ course'.extent.locals := by
        rw [locals, locals', ordered (List.replicate_subset.mpr (.inr (by simp [rewriteMarks])))]
      rw [Option.map_some, Option.map_some, Option.some.injEq, Extent.mk.injEq]
      refine ⟨?_, ?_, ?_⟩
      · exact Nat.le_antisymm ((builds _).mp (Nat.le_refl _)) ((builds _).mpr (Nat.le_refl _))
      · rw [Bool.eq_iff_iff, opens, opens', ordered (by simp [rewriteMarks])]
      · rw [Bool.eq_iff_iff, closes, closes', ordered (by simp [rewriteMarks])]

/-- The import of the video comes in behind a semicolon and in front of a newline. -/
def importInsertion : Insertion where
  front := [.literal ";".toList]
  back := [.literal "\n".toList]
  brought := [.literal "\n".toList, .literal Template.videoImport]
  frontSpelled := .literal rfl .nil
  backSpelled := .literal rfl .nil
  broughtSpelled := .literal rfl <| .literal rfl .nil

/-- The helper comes in in front of a build method of a class. -/
def helperInsertion : Insertion where
  front := []
  back := Anchor.memberBuild.pattern
  brought := [.literal Template.helperMethod]
  frontSpelled := .nil
  backSpelled := Spelled.memberBuild
  broughtSpelled := Spelled.helperMethod

/-- What the helper's stage looks for. -/
def helperMarks : List Pattern :=
  [[.literal Template.helperMark], Anchor.memberBuild.pattern]

/-- The import goes in across none of the later stages' marks and landmarks. -/
theorem importInsertion_spares :
    ∀ pattern ∈ helperMarks ++ rewriteMarks, importInsertion.Spares pattern := by
  intro pattern member
  simp only [helperMarks, rewriteMarks, List.cons_append, List.nil_append, List.mem_cons,
    List.not_mem_nil, or_false] at member
  rcases member with rfl | rfl | rfl | rfl | rfl | rfl | rfl
  · exact .of_slots Spelled.helperMark (by decide)
  · exact .of_slots Spelled.memberBuild (by decide)
  · exact .of_slots Spelled.widgetMark (by decide)
  · exact .of_slots Spelled.showVideoMark (by decide)
  · exact .of_slots Spelled.scaffoldBuild (by decide)
  · exact .of_slots Spelled.gameArea (by decide)
  · exact .of_slots Spelled.layoutClosing (by decide)

/-- The helper goes in across none of a rewrite's marks and landmarks. -/
theorem helperInsertion_spares : ∀ pattern ∈ rewriteMarks, helperInsertion.Spares pattern := by
  intro pattern member
  simp only [rewriteMarks, List.mem_cons, List.not_mem_nil, or_false] at member
  rcases member with rfl | rfl | rfl | rfl | rfl
  · exact .of_slots Spelled.widgetMark (by decide)
  · exact .of_slots Spelled.showVideoMark (by decide)
  · exact .of_slots Spelled.scaffoldBuild (by decide)
  · exact .of_slots Spelled.gameArea (by decide)
  · exact .of_slots Spelled.layoutClosing (by decide)

/-- The import leaves the later stages' marks and landmarks as they stand. -/
theorem insertImport_alike (source : Text) :
    Alike (helperMarks ++ rewriteMarks) (Stage.insertImport.after source) source := by
  cases written : (Stage.insertImport.apply source).output with
  | none =>
    rw [Stage.after_of_none written]
    exact .refl _ source
  | some output =>
    rw [Stage.after_of_some written]
    obtain ⟨left, right, rfl, rfl⟩ := exists_of_insertImport written
    have leads : importInsertion.Leads (left ++ ";\n".toList ++ right)
        (left ++ ";\n".toList ++ Template.videoImportLine ++ right) :=
      ⟨left, ";".toList, "\n".toList ++ Template.videoImport, "\n".toList, right, by simp,
        by simp [Template.videoImportLine], Pattern.accepts_literal.mpr rfl,
        Pattern.accepts_literal.mpr rfl, _, _, rfl, rfl, Pattern.accepts_literal.mpr rfl⟩
    exact leads.alike importInsertion_spares

/-- The helper leaves a rewrite's marks and landmarks as they stand. -/
theorem insertHelper_alike (source : Text) :
    Alike rewriteMarks (Stage.insertHelper.after source) source := by
  cases written : (Stage.insertHelper.apply source).output with
  | none =>
    rw [Stage.after_of_none written]
    exact .refl _ source
  | some output =>
    rw [Stage.after_of_some written]
    obtain ⟨cut, found, rfl⟩ := exists_of_insertHelper written
    have whole : source = cut.before ++ [] ++ (cut.found ++ cut.after) := by
      rw [← Landmark.whole_of_find? found]
      simp [Cut.whole, Cut.found]
    have leads : helperInsertion.Leads source
        (cut.before ++ Template.helperMethod ++ cut.found ++ cut.after) :=
      ⟨cut.before, [], Template.helperMethod, cut.found, cut.after, whole, by simp, rfl,
        Anchor.memberBuild_definite.accepts_found found, Pattern.accepts_literal.mpr rfl⟩
    exact leads.alike helperInsertion_spares

/-- The import and the helper leave a rewrite's marks and landmarks as they stand. -/
theorem insertions_alike (source : Text) : Alike rewriteMarks
    (Stage.insertHelper.after (Stage.insertImport.after source)) source :=
  (insertHelper_alike _).trans
    ((insertImport_alike source).mono (List.subset_append_right _ _))

/-- With the same mark and landmark for the helper two screens are both left alone or none is. -/
theorem insertHelper_alone_iff_of_alike (alike : Alike helperMarks source source') :
    (insertHelper source).output = none ↔ (insertHelper source').output = none := by
  rw [insertHelper_output_eq_none_iff, insertHelper_output_eq_none_iff,
    ← Pattern.standsIn_literal, ← Pattern.standsIn_literal,
    alike.standsIn_iff (by simp [helperMarks]), alike.standsIn_iff (by simp [helperMarks])]

/-- Behind the import the helper's stage leaves the screen alone exactly when it does without. -/
theorem insertHelper_alone_imported_iff (source : Text) :
    (insertHelper (Stage.insertImport.after source)).output = none ↔
      (insertHelper source).output = none :=
  insertHelper_alone_iff_of_alike
    ((insertImport_alike source).mono (List.subset_append_left _ _))

/-- What is said of a rewrite is the same on screens with the same marks and landmarks in order. -/
theorem notices_eq_of_alike (alike : Alike rewriteMarks source source') :
    (rewriteBuild source).notices = (rewriteBuild source').notices := by
  have extents := extent_eq_of_alike alike
  rw [rewriteBuild_eq, rewriteBuild_eq, showsVideo_eq_of_alike alike]
  cases taken : course? source with
  | none =>
    cases taken' : course? source' with
    | none => rfl
    | some course' => simp [taken, taken'] at extents
  | some course =>
    cases taken' : course? source' with
    | none => simp [taken, taken'] at extents
    | some course' =>
      simp only [taken, taken', Option.map_some, Option.some.injEq] at extents
      rw [Course.notices_edited, Course.notices_edited, extents]

/-- The stages of a retrofit leave the work of those behind them as it was. The helper comes in
behind the import exactly when it does without it. Behind both a rewrite of build methods says the
same as without them. In both screens it takes its course, so what it writes is the screen with the
edits of that course, or nothing where there is none, and the courses go equally far: as many build
methods get locals, a game area becomes a row or none does, and so with the closing. -/
theorem course_after_insertions (source : Text) :
    let helped := Stage.insertHelper.after (Stage.insertImport.after source)
    (insertHelper (Stage.insertImport.after source)).output.isSome =
        (insertHelper source).output.isSome ∧
      (rewriteBuild helped).notices = (rewriteBuild source).notices ∧
      Takes helped (course? helped) (rewriteBuild helped) ∧
      Takes source (course? source) (rewriteBuild source) ∧
      (course? helped).map Course.extent = (course? source).map Course.extent := by
  have alike := insertions_alike source
  refine ⟨?_, notices_eq_of_alike alike, takes_course? _, takes_course? source,
    extent_eq_of_alike alike⟩
  rw [Bool.eq_iff_iff, Option.isSome_iff_ne_none, Option.isSome_iff_ne_none, Ne, Ne,
    insertHelper_alone_imported_iff]

end ScreenRetrofit.Screen
