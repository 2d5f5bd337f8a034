import ScreenRetrofit.Proofs.Pattern.Occurrence
import ScreenRetrofit.Proofs.Pattern.Single
import ScreenRetrofit.Proofs.Screen.Helper

/-!
# The place of the helper

The helper comes in directly above the first build method of a class, and there it stays: nothing that
a later rewrite brings in is such a build method, and nothing that it cuts reaches into the helper or
into the build method behind it. The rewrite keeps the first parenthesis of a closing and the header of
a build method, both of which the build method of a class may share with it. So its changes are taken
as narrow as they are (`narrowChanges`), and what they keep decides the place
(`HelperAbove.of_kept`, `helper_above_first_build`).
-/

namespace ScreenRetrofit

open Pattern (Spelling)

namespace Anchor

/-- The top of a build method that returns a scaffold, from the brace that opens its body. -/
def bodyTop : Pattern := .literal "\x7b".toList :: scaffoldBuild.tail

/-- A closing of the layout behind its first parenthesis. -/
def closingRest : Pattern := .literal ("),".toList.drop 1) :: layoutClosing.pattern.tail

/-- The helper method with a build method of a class directly behind it. -/
def helperAndBuild : Pattern := [.literal Template.helperMethod] ++ memberBuild.pattern

end Anchor

namespace Template

set_option maxRecDepth 2000 in
/-- The closing of the row starts with a parenthesis. -/
theorem rowClosing_eq : rowClosing = ")".toList ++ rowClosing.drop 1 :=
  Text.of_literal (motive := fun closing => closing = ")".toList ++ closing.drop 1) rfl (by decide)

set_option maxRecDepth 2000 in
/-- The helper method ends with a newline. -/
theorem helperMethod_eq : helperMethod = helperMethod.dropLast ++ "\n".toList :=
  Text.of_literal (motive := fun helper => helper = helper.dropLast ++ "\n".toList) rfl (by decide)

end Template

namespace Spelled

/-- The top of a build method that returns a scaffold. -/
def bodyTop : Spelling Anchor.bodyTop := .literal rfl <| .many <| .literal rfl .nil

/-- A closing of the layout behind its first parenthesis. -/
def closingRest : Spelling Anchor.closingRest :=
  .made (List.drop 1) rfl <| .some <| .literal rfl <| .some <| .literal rfl <| .some <|
    .literal rfl <| .many <| .literal rfl <| .some <| .literal rfl <| .some <| .literal rfl <|
      .some <| .literal rfl <| .some <| .literal rfl .nil

/-- The closing of the row behind its first parenthesis. -/
def rowClosingRest : Spelling [.literal (Template.rowClosing.drop 1)] :=
  .made (List.drop 1) rfl .nil

set_option maxRecDepth 2000 in
/-- The helper method without the newline that ends it. -/
def helperBody : Spelling [.literal Template.helperMethod.dropLast] := .made List.dropLast rfl .nil

set_option maxRecDepth 2000 in
/-- The helper method with a build method of a class directly behind it. -/
def helperAndBuild : Spelling Anchor.helperAndBuild :=
  .literal rfl <| .literal rfl <| .some <| .literal rfl .nil

end Spelled

namespace Screen

open Pattern (StandsIn StandsOnce InOrder Apart)
open Text (occursIn)

variable {source output : Text}

/-- The locals come in behind the brace that opens the body of a build method. -/
def bodyChange : Change :=
  ⟨Anchor.bodyTop, .literal Template.buildLocals :: Anchor.scaffoldBuild.tail, Spelled.bodyTop,
    Spelled.buildLocals⟩

/-- The rest of the closing of a row comes in for that of a closing of the layout. -/
def closingRestChange : Change :=
  ⟨Anchor.closingRest, [.literal (Template.rowClosing.drop 1)], Spelled.closingRest,
    Spelled.rowClosingRest⟩

/-- The changes of a rewrite of build methods, as narrow as they are. -/
def narrowChanges : List Change := [bodyChange, openingChange, closingRestChange]

/-- A closing that becomes that of the row is changed behind its first parenthesis. -/
theorem closingRestChange_leads {cut : Cut} (found : Anchor.layoutClosing.find? source = some cut) :
    closingRestChange.Leads source (cut.before ++ Template.rowClosing ++ cut.after) := by
  obtain ⟨first, rest, closing, rfl, described⟩ := Anchor.layoutClosing_definite.accepts_found found
  have whole := Landmark.whole_of_find? found
  rw [Cut.whole_eq, closing] at whole
  refine ⟨cut.before ++ ")".toList, [], ",".toList ++ rest, [], cut.after,
    Template.rowClosing.drop 1, ?_, ?_, ?_, Pattern.accepts_literal.mpr rfl⟩
  · rw [← whole]
    simp
  · rw [List.append_nil, List.nil_append, List.append_assoc cut.before ")".toList,
      ← Template.rowClosing_eq]
  · exact ⟨",".toList, rest, by simp, rfl, described⟩

/-- Opening a row is a sequence of its narrow changes. -/
theorem reaches_openRow_narrow (source : Text) :
    Change.Reaches narrowChanges source ((openRow source).result source) := by
  rcases openRow_cases source with
    ⟨_, course⟩ | ⟨area, found, ⟨_, course⟩ | ⟨closing, closed, course⟩⟩
  · rw [course]
    exact .refl source
  · have opens : openingChange.Leads source (area.before ++ Template.videoRow ++ area.after) :=
      leads_of_find? Anchor.gameArea_definite found rfl rfl
    rw [course]
    exact opens.reaches (by simp [narrowChanges])
  · have opens : openingChange.Leads source (area.before ++ Template.videoRow ++ area.after) :=
      leads_of_find? Anchor.gameArea_definite found rfl rfl
    have later := (closingRestChange_leads closed).append_left (area.before ++ Template.videoRow)
    rw [course]
    exact .step (by simp [narrowChanges]) opens (later.reaches (by simp [narrowChanges]))

/-- Whatever a rewrite of build methods makes of a screen it reaches by its narrow changes. -/
theorem reaches_rewriteBuild_narrow (source : Text) :
    Change.Reaches narrowChanges source (Stage.rewriteBuild.after source) := by
  cases written : (Stage.rewriteBuild.apply source).output with
  | none =>
    rw [Stage.after_of_none written]
    exact .refl source
  | some output =>
    have located : Change.Reaches [bodyChange] source
        (Anchor.scaffoldBuild.insertAtEach Template.buildLocals source) :=
      Anchor.scaffoldBuild_definite.reaches_insertAtEach_near
        (Anchor.buildSignature ++ [.many .blank]) [.literal "\x7b".toList] rfl rfl rfl source
    rw [Stage.after_of_some written, ← result_openRow_of_rewriteBuild written]
    exact (located.mono (by simp [narrowChanges])).trans (reaches_openRow_narrow _)

set_option maxRecDepth 8000 in
/-- No build method of a class comes in by a narrow change. -/
theorem memberBuild_apart_narrow :
    ∀ change ∈ narrowChanges, Apart Anchor.memberBuild.pattern change.brought :=
  Change.apart_brought Spelled.memberBuild (by decide)

set_option maxRecDepth 8000 in
/-- The signature of the helper does not come in by a narrow change. -/
theorem helperSignature_apart_narrow :
    ∀ change ∈ narrowChanges, Apart [.literal Template.helperSignature] change.brought :=
  Change.apart_brought Spelled.helperSignature (by decide)

set_option maxRecDepth 8000 in
/-- The helper with a build method directly behind it is apart from what a narrow change cuts. -/
theorem helperAndBuild_apart_narrow :
    ∀ change ∈ narrowChanges, Apart Anchor.helperAndBuild change.cut :=
  Change.apart_cut Spelled.helperAndBuild (by decide)

/-- The signature of the helper never starts inside itself. -/
theorem helperSignature_closed : Pattern.Closed [.literal Template.helperSignature] :=
  Spelled.helperSignature.closed (by decide)

/-- The signature of the helper is not empty. -/
theorem helperSignature_solid : Pattern.isSolid [.literal Template.helperSignature] = true := rfl

/-- The signature of the helper is apart from what a rewrite of build methods cuts. -/
theorem helperSignature_apart_cut : ∀ change ∈ Stage.rewriteBuild.changes,
    Apart [.literal Template.helperSignature] change.cut :=
  Change.apart_cut Spelled.helperSignature (by decide)

set_option maxRecDepth 4000 in
/-- The helper method has its signature once, behind a newline and two blanks. -/
theorem helperSignature_once_helperMethod :
    StandsOnce [.literal Template.helperSignature] Template.helperMethod := by
  have parts : Template.helperMethod = Template.helperMethod.take 3 ++ Template.helperSignature ++
        Template.helperMethod.drop 41 ∧
      occursIn Template.helperSignature (Template.helperMethod.take 3) = false ∧
      occursIn Template.helperSignature (Template.helperMethod.drop 41) = false :=
    Text.of_literal (motive := fun helper => helper = helper.take 3 ++ Template.helperSignature ++
        helper.drop 41 ∧ occursIn Template.helperSignature (helper.take 3) = false ∧
      occursIn Template.helperSignature (helper.drop 41) = false) rfl (by decide)
  obtain ⟨split, before, behind⟩ := parts
  rw [← Bool.not_eq_true, ← Pattern.standsIn_literal] at before behind
  rw [split]
  exact helperSignature_closed.standsOnce_around (Pattern.accepts_literal.mpr rfl) before behind

/-- A build method of a class never starts inside itself. -/
theorem memberBuild_closed : Anchor.memberBuild.pattern.Closed :=
  Spelled.memberBuild.closed (by decide)

set_option maxRecDepth 4000 in
/-- A build method of a class shares at most the newline with the helper method in front of it. -/
theorem memberBuild_apart_helperBody :
    Apart Anchor.memberBuild.pattern [.literal Template.helperMethod.dropLast] :=
  Spelled.memberBuild.apart Spelled.helperBody (by decide)

/-- A build method of a class that stands where the helper is put in stands in front of the helper or
behind it. -/
theorem memberBuild_around_helper {left right before found after : Text}
    (described : Anchor.memberBuild.pattern.Accepts found)
    (split : before ++ found ++ after = left ++ Template.helperMethod ++ right) :
    (∃ gap, left = before ++ found ++ gap) ∨
      ∃ gap, before = left ++ Template.helperMethod.dropLast ++ gap := by
  have around : before ++ found ++ after =
      left ++ Template.helperMethod.dropLast ++ ("\n".toList ++ right) := by
    rw [split, ← List.append_assoc (left ++ _), List.append_assoc left _ "\n".toList,
      ← Template.helperMethod_eq]
  exact memberBuild_apart_helperBody described (Pattern.accepts_literal.mpr rfl) around

/-- The helper method stands once in a screen, and the first build method of a class starts where it
ends. -/
structure HelperAbove (source : Text) : Prop where
  /-- The helper method stands once. -/
  once : StandsOnce [.literal Template.helperMethod] source
  /-- What stands before the first build method of a class ends with it. -/
  above : ∃ front cut, Anchor.memberBuild.find? source = some cut ∧
    cut.before = front ++ Template.helperMethod

/-- What decides the place of the helper and is kept by a rewrite of build methods. -/
structure HelperKept (source : Text) : Prop where
  /-- The signature of the helper stands once. -/
  once : StandsOnce [.literal Template.helperSignature] source
  /-- A build method of a class stands directly behind the helper. -/
  above : StandsIn Anchor.helperAndBuild source
  /-- No build method of a class stands in front of the helper. -/
  first : ¬ InOrder [Anchor.memberBuild.pattern, [.literal Template.helperSignature]] source

/-- A rewrite of build methods keeps the place of the helper. -/
theorem HelperKept.after_rewriteBuild (kept : HelperKept source) :
    HelperKept (Stage.rewriteBuild.after source) where
  once := (Stage.reaches_after .rewriteBuild source).standsOnce helperSignature_closed
    helperSignature_solid helperSignature_apart_cut (helperSignature_apart_brought (by decide))
    kept.once
  above := (reaches_rewriteBuild_narrow source).standsIn helperAndBuild_apart_narrow kept.above
  first := by
    refine fun ordered => kept.first ((reaches_rewriteBuild_narrow source).inOrder_back ?_ ordered)
    simpa using And.intro memberBuild_apart_narrow helperSignature_apart_narrow

/-- A newline is no build method of a class. -/
theorem not_memberBuild_newline : ¬ Anchor.memberBuild.pattern.StandsIn "\n".toList :=
  Anchor.memberBuild_definite.find?_eq_none_iff.mp (by decide)

/-- With no build method of a class in front of it the helper brings none in. -/
theorem not_memberBuild_helper {before : Text}
    (absent : ¬ Anchor.memberBuild.pattern.StandsIn before) :
    ¬ Anchor.memberBuild.pattern.StandsIn (before ++ Template.helperMethod) := by
  rintro ⟨front, found, back, split, described⟩
  have around : front ++ found ++ back = before ++ Template.helperMethod ++ [] := by simp [split]
  rcases memberBuild_around_helper described around with ⟨gap, ahead⟩ | ⟨gap, behind⟩
  · exact absent ⟨front, found, gap, ahead, described⟩
  · have same : Template.helperMethod.dropLast ++ "\n".toList =
        Template.helperMethod.dropLast ++ (gap ++ found ++ back) := by
      rw [← Template.helperMethod_eq]
      simpa [behind] using split
    exact not_memberBuild_newline ⟨gap, found, back, List.append_cancel_left same, described⟩

/-- What is kept decides the place of the helper. -/
theorem HelperAbove.of_kept (kept : HelperKept source) : HelperAbove source := by
  obtain ⟨before, _, after, split, described⟩ := kept.above
  obtain ⟨helper, build, rfl, same, build_described⟩ := Pattern.accepts_append.mp described
  rw [Pattern.accepts_literal.mp same] at split
  obtain ⟨lead, signature, trail, inner, same⟩ := Template.helperSignature_standsIn_helperMethod
  rw [Pattern.accepts_literal.mp same] at inner
  have stands : StandsIn [.literal Template.helperMethod] source :=
    ⟨before, _, build ++ after, by simp [split], Pattern.accepts_literal.mpr rfl⟩
  have absent : ¬ Anchor.memberBuild.pattern.StandsIn before := by
    rintro ⟨front, found, gap, rfl, described⟩
    refine kept.first ⟨front, found, gap ++ Template.helperMethod ++ (build ++ after), ?_,
      described, gap ++ lead, Template.helperSignature, trail ++ (build ++ after), ?_,
      Pattern.accepts_literal.mpr rfl, trivial⟩
    · simp [split]
    · rw [inner]
      simp
  refine ⟨?_, before, ⟨before ++ Template.helperMethod, [], build, after⟩, ?_, rfl⟩
  · rw [inner] at stands ⊢
    exact kept.once.of_part stands
  · have first := Anchor.memberBuild_definite.find?_of_not_standsIn memberBuild_closed
      ⟨before ++ Template.helperMethod, [], build, after⟩ rfl build_described
      (not_memberBuild_helper absent)
    rw [← first, split]
    simp [Cut.whole]

/-- Put into a screen the signature of the helper stands once. -/
theorem helperSignature_once_of_insertHelper
    (written : (insertHelper source).output = some output) :
    StandsOnce [.literal Template.helperSignature] output := by
  have unmarked : ¬ StandsIn [.literal Template.helperSignature] source := by
    intro stands
    have marked := Pattern.standsIn_literal.mp
      (Template.helperMark_standsIn_helperSignature.trans stands)
    rw [insertHelper_output_eq_none_iff.mpr (.inl marked)] at written
    contradiction
  obtain ⟨cut, found, rfl⟩ := exists_of_insertHelper written
  rw [← Landmark.whole_of_find? found, Cut.whole_eq, List.append_assoc] at unmarked
  rw [List.append_assoc _ cut.found]
  have helper := Pattern.accepts_literal.mpr (rfl : Template.helperMethod = Template.helperMethod)
  refine helperSignature_once_helperMethod.between ?_ ?_ ?_ ?_
  · exact Spelled.helperSignature.avoids_start Spelled.helperMethod (by decide) helper _ _
  · exact Spelled.helperSignature.avoids_end Spelled.helperMethod (by decide) helper _ _
  · exact fun stands => unmarked (stands.append_right _)
  · exact fun stands => unmarked (stands.append_left _)

/-- With no build method of a class in front of it the helper is behind none. -/
theorem not_inOrder_helper {before right : Text} (once : StandsOnce
      [.literal Template.helperSignature] (before ++ Template.helperMethod ++ right))
    (absent : ¬ Anchor.memberBuild.pattern.StandsIn before) :
    ¬ InOrder [Anchor.memberBuild.pattern, [.literal Template.helperSignature]]
      (before ++ Template.helperMethod ++ right) := by
  rintro ⟨front, build, _, split, described, between, signature, rest, rfl, named, _⟩
  rcases memberBuild_around_helper described split.symm with ⟨gap, ahead⟩ | ⟨gap, behind⟩
  · exact absent ⟨front, build, gap, ahead, described⟩
  · -- Behind the helper there is no other signature.
    obtain ⟨lead, own, trail, inner, named'⟩ := Template.helperSignature_standsIn_helperMethod
    have first : before ++ Template.helperMethod ++ right =
        before ++ lead ++ own ++ (trail ++ right) := by
      rw [inner]
      simp
    have second : before ++ Template.helperMethod ++ right =
        front ++ build ++ between ++ signature ++ rest := by
      rw [split]
      simp
    have start := congrArg List.length (once.start_eq first named' second named)
    have sizes := congrArg List.length inner
    have full := List.length_pos_iff.mpr (Pattern.ne_nil_of_isSolid helperSignature_solid named')
    have full' := List.length_pos_iff.mpr
      (Pattern.ne_nil_of_isSolid Anchor.memberBuild_definite.solid described)
    simp only [behind, List.length_append, List.length_dropLast] at start sizes
    omega

/-- The helper put into a screen without its mark has its place. -/
theorem HelperKept.of_insertHelper (written : (insertHelper source).output = some output) :
    HelperKept output := by
  have once := helperSignature_once_of_insertHelper written
  obtain ⟨cut, search, rfl⟩ := exists_of_insertHelper written
  rw [List.append_assoc _ cut.found] at once ⊢
  refine ⟨once, ?_, not_inOrder_helper once
    (Anchor.memberBuild_definite.not_standsIn_before search)⟩
  refine ⟨cut.before, Template.helperMethod ++ cut.found, cut.after, by simp, ?_⟩
  exact Pattern.accepts_append.mpr ⟨_, _, rfl, Pattern.accepts_literal.mpr rfl,
    Anchor.memberBuild_definite.accepts_found search⟩

/-- In a screen that has a build method of a class, and not the mark of the helper, the helper comes
in. In what its stage writes, and in the retrofit, it stands once, and the first build method of a
class starts where it ends. -/
theorem helper_above_first_build (unmarked : occursIn Template.helperMark source = false)
    (member : Anchor.memberBuild.pattern.StandsIn source) :
    (∃ output, (insertHelper source).output = some output ∧ HelperAbove output) ∧
      HelperAbove (retrofit source) := by
  obtain ⟨output, written⟩ := exists_insertHelper unmarked member
  refine ⟨⟨output, written, .of_kept (.of_insertHelper written)⟩, ?_⟩
  obtain ⟨later, written'⟩ := exists_insertHelper_imported unmarked member
  have helped : Stage.insertHelper.after (Stage.insertImport.after source) = later :=
    Stage.after_of_some written'
  rw [retrofit_eq, helped]
  exact .of_kept (HelperKept.of_insertHelper written').after_rewriteBuild

/-- In the screen with a finished import, which the video's import separates from the build method,
the helper comes in above that method. -/
theorem helper_above_first_build_finishedImport :
    occursIn Template.helperMark finishedImport = false ∧
      Anchor.memberBuild.pattern.StandsIn finishedImport ∧
      (∃ output, (insertHelper finishedImport).output = some output ∧ HelperAbove output) ∧
      HelperAbove (retrofit finishedImport) := by
  have unmarked : occursIn Template.helperMark finishedImport = false := by decide
  have member : Anchor.memberBuild.pattern.StandsIn finishedImport :=
    Anchor.memberBuild_definite.find?_isSome_iff.mp (by decide)
  exact ⟨unmarked, member, helper_above_first_build unmarked member⟩

end Screen

end ScreenRetrofit
