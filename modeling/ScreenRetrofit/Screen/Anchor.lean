import ScreenRetrofit.Pattern.Landmark

/-!
# Landmarks of a game screen

The five places in the source of a game screen that a retrofit looks for. Every pattern here is
delimited, so a landmark is found wherever a text that it describes stands.
-/

namespace ScreenRetrofit.Anchor

/-- A fixed text. -/
private def fixed (text : String) : Piece := .literal text.toList

/-- One or more blanks. -/
private def gap : Piece := .some .blank

/-- Any number of blanks. -/
private def space : Piece := .many .blank

/-- The signature of a build method, from its annotation to its closing parenthesis. -/
def buildSignature : Pattern :=
  [fixed "@override", gap, fixed "Widget build(BuildContext context)"]

/-- An import statement that ends its line; an edit goes after it. -/
def importLine : Landmark where
  head := [fixed "import ", .some (.except ';'), fixed ";\n"]
  tail := []

/-- A build method at the indentation of a class member; an edit goes above it, in front of the
newline that ends the line before. -/
def memberBuild : Landmark where
  head := []
  tail := [fixed "\n  @override", gap, fixed "Widget build(BuildContext context)"]

/-- A build method whose body starts by returning a scaffold; an edit goes to the top of the
body. -/
def scaffoldBuild : Landmark where
  head := buildSignature ++ [space, fixed "\x7b"]
  tail := [space, fixed "return Scaffold("]

/-- The opening of the commented area that holds the game's content. -/
def gameArea : Landmark where
  head := [fixed "// Área de juego", gap, fixed "Expanded(", gap, fixed "child:", gap,
    fixed "Center("]
  tail := []

/-- The closing of the layout around the game area. -/
def layoutClosing : Landmark where
  head := [fixed "),", gap, fixed "),", gap, fixed "),", gap, fixed "]", space, fixed ",", gap,
    fixed "),", gap, fixed "),", gap, fixed "),", gap, fixed ");"]
  tail := []

end ScreenRetrofit.Anchor
