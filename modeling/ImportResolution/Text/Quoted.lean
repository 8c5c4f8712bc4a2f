import ImportResolution.Text.Printable

/-!
Quoted texts for messages: a text between quotes on one line, in which every character that has no
printed form is written as an escape.
-/
namespace ImportResolution.Text

/-- The quote that needs the fewest escapes: an apostrophe, unless the text has apostrophes and no
quotation mark. -/
def quoteFor (s : Text) : Char :=
  if s.contains '\'' && !s.contains '"' then '"' else '\''

/-- The written form of one character between the given quotes. The width of a numeric escape is
the least of two, four and eight digits that holds the code. -/
def quotedChar (quote c : Char) : Text :=
  if c = quote ∨ c = '\\' then ['\\', c]
  else if c = '\n' then ['\\', 'n']
  else if c = '\r' then ['\\', 'r']
  else if c = '\t' then ['\\', 't']
  else if isPrintable c then [c]
  else if c.toNat ≤ 0xFF then '\\' :: 'x' :: hex 2 c.toNat
  else if c.toNat ≤ 0xFFFF then '\\' :: 'u' :: hex 4 c.toNat
  else '\\' :: 'U' :: hex 8 c.toNat

/-- The text between quotes. -/
def quoted (s : Text) : Text :=
  let quote := quoteFor s
  quote :: s.flatMap (quotedChar quote) ++ [quote]

end ImportResolution.Text
