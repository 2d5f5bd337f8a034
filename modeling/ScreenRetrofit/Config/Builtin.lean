import ScreenRetrofit.Config.Basic

/-!
# The built-in configuration

The game screens that are retrofitted when no configuration file is given, in the screens
directory of the project that the program is run in.
-/

namespace ScreenRetrofit.Config

/-- The directory of the game screens inside a project. -/
def defaultBaseDir : Path := .ofString "lib/presentation/screens/games"

/-- A group of screens by the first words of their file names. -/
private def screens (subject : String) (games : List String) : Group :=
  ⟨subject.toList, games.map fun game => game.toList ++ "_game.dart".toList⟩

/-- The built-in screens by subject. -/
def builtinGroups : List Group :=
  [screens "math" ["resta_magica", "multiplicacion_espacial", "division_detective",
      "geometria_constructora", "numeros_perdidos", "completa_patron"],
    screens "language" ["detectives_ortografia", "rima_magica", "sinonimos_antonimos",
      "aventura_comprension", "historias_locas", "inventor_palabras"],
    screens "science" ["exploradores_cuerpo", "sistema_solar", "cadena_alimenticia",
      "estados_materia", "planeta_tierra", "ecosistemas_mundo"],
    screens "creativity" ["disenador_monstruos", "mezcla_colores", "artista_emojis",
      "asociacion_creativa"]]

/-- The built-in configuration of a project directory. -/
def builtin (project : Path) : Config := ⟨project.join defaultBaseDir, builtinGroups⟩

end ScreenRetrofit.Config
