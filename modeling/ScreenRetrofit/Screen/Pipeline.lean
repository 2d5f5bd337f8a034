import ScreenRetrofit.Screen.Stage

/-!
# Pipelines of edits

A pipeline applies stages in order, each to what the stages before it made of the screen. A
screen that no stage rewrote is left alone; the source afterwards is the left fold of the stages'
results (`result_run`).
-/

namespace ScreenRetrofit.Screen

/-- Stages in the order they are applied. -/
abbrev Pipeline := List Stage

namespace Pipeline

/-- The whole retrofit: the import, the helper, the build methods. -/
def videoRetrofit : Pipeline := Stage.all

/-- What the stages in order make of a screen. -/
def run : Pipeline → Text → Edited
  | [], _ => .leave []
  | stage :: stages, source =>
    let first := stage.apply source
    let later := run stages (first.result source)
    ⟨later.output <|> first.output, first.notices ++ later.notices⟩

/-- The source after a pipeline is the left fold of what each stage makes of it. -/
theorem result_run (pipeline : Pipeline) (source : Text) :
    (pipeline.run source).result source =
      pipeline.foldl (fun current stage => (stage.apply current).result current) source := by
  induction pipeline generalizing source with
  | nil => rfl
  | cons stage stages ih =>
    rw [List.foldl_cons, ← ih]
    simp only [run, Edited.result]
    cases (run stages ((stage.apply source).output.getD source)).output <;> simp

end Pipeline

end ScreenRetrofit.Screen
