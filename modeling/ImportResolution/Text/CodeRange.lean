import ImportResolution.Text

/-!
Character classes given as ranges of codes.
-/
namespace ImportResolution.Text

/-- An interval of character codes, both ends included. -/
abbrev CodeRange := Nat × Nat

/-- Whether the code of a character lies in one of the ranges. -/
def inRanges (ranges : List CodeRange) (c : Char) : Bool :=
  ranges.any fun range => range.1 ≤ c.toNat && c.toNat ≤ range.2

end ImportResolution.Text
