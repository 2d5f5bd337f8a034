import ScreenRetrofit.Text.Quoted

/-!
# Paths

A path is kept as it was spelled. Joining looks at the spelling alone: an absolute path replaces
its base, and a slash is put between the two only where the base does not end with one.
The pieces of a path are the texts between its slashes (`joined_pieces`); `Path.Part` gives the
view in which two spellings of one path agree.
-/

namespace ScreenRetrofit

/-- A path as it is spelled. -/
structure Path where
  /-- The spelling. -/
  text : Text
  deriving DecidableEq, Repr

namespace Path

/-- The path with a spelling. -/
def ofString (spelling : String) : Path := ⟨spelling.toList⟩

/-- Whether a path starts at the root. -/
def isAbsolute (path : Path) : Bool := path.text.head? = some '/'

/-- A path seen from a base. -/
def join (base path : Path) : Path :=
  if path.isAbsolute then path
  else if base.text = [] ∨ base.text.getLast? = some '/' then ⟨base.text ++ path.text⟩
  else ⟨base.text ++ '/' :: path.text⟩

/-- An absolute path replaces its base. -/
theorem join_of_isAbsolute {path : Path} (base : Path) (absolute : path.isAbsolute = true) :
    base.join path = path := by simp [join, absolute]

/-- A path between double quotes. -/
def quoted (path : Path) : Text := Text.quoted path.text

/-- The texts between the slashes of a text; there is one more than there are slashes. -/
def cutAtSlashes : Text → List Text
  | [] => [[]]
  | c :: rest =>
    if c = '/' then [] :: cutAtSlashes rest
    else match cutAtSlashes rest with
      | [] => [[c]]
      | piece :: pieces => (c :: piece) :: pieces

/-- The texts between the slashes of a path. -/
def pieces (path : Path) : List Text := cutAtSlashes path.text

/-- Texts with a slash between each two. -/
def joinWithSlashes : List Text → Text
  | [] => []
  | [piece] => piece
  | piece :: pieces => piece ++ '/' :: joinWithSlashes pieces

/-- A text that is cut has at least one piece. -/
theorem cutAtSlashes_ne_nil (text : Text) : cutAtSlashes text ≠ [] := by
  cases text with
  | nil => simp [cutAtSlashes]
  | cons c rest =>
    simp only [cutAtSlashes]
    split
    · simp
    · split <;> simp

/-- Cutting at slashes loses nothing but them. -/
theorem joinWithSlashes_cutAtSlashes (text : Text) : joinWithSlashes (cutAtSlashes text) = text := by
  induction text with
  | nil => rfl
  | cons c rest ih =>
    cases cut : cutAtSlashes rest with
    | nil => exact absurd cut (cutAtSlashes_ne_nil rest)
    | cons piece pieces =>
      rw [cut] at ih
      by_cases slash : c = '/'
      · simp [cutAtSlashes, slash, cut, joinWithSlashes, ih]
      · cases pieces with
        | nil => simpa [cutAtSlashes, slash, cut, joinWithSlashes] using ih
        | cons => simpa [cutAtSlashes, slash, cut, joinWithSlashes] using ih

/-- A path is its pieces with slashes between them. -/
theorem joined_pieces (path : Path) : joinWithSlashes path.pieces = path.text :=
  joinWithSlashes_cutAtSlashes path.text

/-- Whether a piece adds nothing to the pieces before it: it is empty or a single dot. -/
def isFiller (piece : Text) : Bool := piece.isEmpty || piece = ['.']

/-- Pieces without the fillers at their end. -/
def dropFillers (pieces : List Text) : List Text :=
  (pieces.reverse.dropWhile isFiller).reverse

/-- How many pieces at the front say where a path starts rather than where it goes: the empty one
before the slash of an absolute path, or a single dot. -/
def startPieces (path : Path) : Nat :=
  if path.isAbsolute || path.pieces.head? = some ['.'] then 1 else 0

/-- The path without its last part, as it is spelled; a path of no parts and the root have
none. -/
def parent? (path : Path) : Option Path :=
  let start := path.pieces.take path.startPieces
  let steps := dropFillers (path.pieces.drop path.startPieces)
  let above := start ++ dropFillers steps.dropLast
  if steps = [] then
    if path.isAbsolute || path.text = [] then none else some ⟨[]⟩
  else if above = [[]] then some ⟨['/']⟩
  else some ⟨joinWithSlashes above⟩

end Path

end ScreenRetrofit
