import ImportResolution.Text.CodeRange

/-!
Space separators: the characters of the general category of that name, as of Unicode 14.0.
-/
namespace ImportResolution.Text

/-- The codes of the space separators, the ordinary space among them. -/
def spaceRanges : List CodeRange :=
  [(0x20, 0x20), (0xA0, 0xA0), (0x1680, 0x1680), (0x2000, 0x200A), (0x202F, 0x202F),
   (0x205F, 0x205F), (0x3000, 0x3000)]

/-- Whether a character is a space separator. -/
def isSpaceSeparator (c : Char) : Bool := inRanges spaceRanges c

end ImportResolution.Text
