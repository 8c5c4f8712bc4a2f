import ImportResolution.Text

/-!
Colors for a terminal: a text between the sequence that sets a color and the one that resets it.
Whether colors are used depends on the environment and on what the output is.
-/
namespace ImportResolution

/-- The variables of an environment and their values. -/
abbrev Environment := List (Text × Text)

/-- The value of a variable; one that is not set counts as empty. -/
def Environment.value (environment : Environment) (name : String) : Text :=
  (environment.lookup name.toList).getD []

/-- Whether colors are used. -/
structure Palette where
  enabled : Bool
  deriving DecidableEq, Repr

namespace Palette

/-- No colors. -/
def plain : Palette := ⟨false⟩

/-- Colors as the surroundings ask for them. `NO_COLOR` forbids them, `FORCE_COLOR` demands them,
and otherwise they are for terminals that are not dumb. Both variables have to hold something. -/
def detect (environment : Environment) (isTerminal : Bool) : Palette :=
  if !(environment.value "NO_COLOR").isEmpty then ⟨false⟩
  else if !(environment.value "FORCE_COLOR").isEmpty then ⟨true⟩
  else if !isTerminal then ⟨false⟩
  else ⟨environment.value "TERM" ≠ "dumb".toList⟩

/-- Colors as the surroundings ask for them, unless the user wants none. -/
def choose (environment : Environment) (isTerminal noColor : Bool) : Palette :=
  if noColor then plain else detect environment isTerminal

/-- The sequence that sets the look of the text after it, by the code of the look. -/
def sequence (code : String) : Text := '\x1b' :: '[' :: code.toList ++ ['m']

/-- A text between the sequences for some codes and the one that resets them. -/
def styled (palette : Palette) (codes : List String) (text : Text) : Text :=
  if palette.enabled then codes.flatMap sequence ++ text ++ sequence "0" else text

/-- Paths that were found. -/
def green (palette : Palette) (text : Text) : Text := palette.styled ["32"] text

/-- Core modules and notices. -/
def yellow (palette : Palette) (text : Text) : Text := palette.styled ["33"] text

/-- Files and directories of a configuration. -/
def cyan (palette : Palette) (text : Text) : Text := palette.styled ["36"] text

/-- Labels. -/
def dim (palette : Palette) (text : Text) : Text := palette.styled ["2"] text

/-- Errors, bold and red. -/
def error (palette : Palette) (text : Text) : Text := palette.styled ["1", "31"] text

end Palette
end ImportResolution
