import ImportResolution.Relaxed.Rule
import ImportResolution.Relaxed.Document
import ImportResolution.Text.Letter
import ImportResolution.Text.Joining
import ImportResolution.Text.Blank

/-!
The grammar of the relaxed notation: JSON with comments, names without quotes, strings between
apostrophes, a comma after the last item, and more forms of numbers. The order in which the
alternatives stand decides which one is taken, and, through the places at which they fail, what
an error message points at.
-/
namespace ImportResolution.Relaxed.Rule

/-- The end of a line. -/
def lineEnd : Rule Unit :=
  (do let _ ← char '\r'; let _ ← char '\n')
    <|> (do let _ ← oneOf ['\r', '\n', '\u2028', '\u2029'])

/-- A comment to the end of the line, or between its marks. -/
def comment : Rule Unit :=
  (do
    literal ['/', '/']
    let _ ← many (do not lineEnd; any))
  <|> (do
    literal ['/', '*']
    let _ ← many (do not (literal ['*', '/']); any)
    literal ['*', '/'])

/-- One blank: a separator of any kind, or a comment. -/
def blank : Rule Unit :=
  (do let _ ← char ' ')
  <|> lineEnd
  <|> comment
  <|> (do let _ ← oneOf ['\t', '\x0b', '\x0c', '\u00a0', '\ufeff'])
  <|> (do ahead (ofClass Text.isSpaceSeparator); let _ ← any)

/-- Any number of blanks. -/
def blanks : Rule Unit := do let _ ← many blank

/-- A decimal digit. -/
def digit : Rule Char := satisfy Char.isDigit

/-- A hexadecimal digit. -/
def hexDigit : Rule Char := satisfy fun c => (Text.hexValue? c).isSome

/-- The character whose code is written by as many hexadecimal digits as asked for. -/
def hexCode : Nat → Nat → Rule Char
  | 0, code => found (Text.charOfCode code)
  | count + 1, code => do
    let c ← hexDigit
    hexCode count (code * 16 + (Text.hexValue? c).getD 0)

/-- The character that a letter after a backslash stands for. -/
def shortEscape? : Char → Option Char
  | 'b' => some '\x08'
  | 'f' => some '\x0c'
  | 'n' => some '\n'
  | 'r' => some '\r'
  | 't' => some '\t'
  | 'v' => some '\x0b'
  | '\'' => some '\''
  | '"' => some '"'
  | '\\' => some '\\'
  | _ => none

/-- What follows a backslash in a string. A character without a meaning of its own stands for
itself. -/
def escape : Rule Char :=
  (do
    let c ← satisfy fun c => (shortEscape? c).isSome
    return (shortEscape? c).getD c)
  <|> (do
    not ((do let _ ← oneOf ['x', 'u']) <|> (do let _ ← digit) <|> lineEnd)
    any)
  <|> (do
    let _ ← char '0'
    not digit
    return '\x00')
  <|> (do let _ ← char 'x'; hexCode 2 0)
  <|> (do let _ ← char 'u'; hexCode 4 0)

/-- One element of a string; the end of a line after a backslash stands for nothing. -/
def stringElement (quote : Char) : Rule (Option Char) :=
  (do
    not (oneOf ['\\', quote, '\r', '\n'])
    let c ← any
    return some c)
  <|> (do
    let _ ← char '\\'
    let c ← escape
    return some c)
  <|> (do
    let _ ← char '\\'
    lineEnd
    return none)

/-- A string between the given quotes. -/
def stringBetween (quote : Char) : Rule Text := do
  let _ ← char quote
  let elements ← many (stringElement quote)
  let _ ← char quote
  return elements.filterMap id

/-- A string. -/
def string : Rule Text := stringBetween '\'' <|> stringBetween '"'

/-- A backslash and a code, as part of a name. -/
def codeInName : Rule Char := do
  literal ['\\', 'u']
  hexCode 4 0

/-- Whether a character is an ASCII letter, a dollar sign or an underscore. -/
def isPlainNameStart (c : Char) : Bool :=
  c.isAlpha || c = '$' || c = '_'

/-- The first character of a name without quotes. -/
def nameStart : Rule Char :=
  satisfy isPlainNameStart <|> ofClass Text.isLetter <|> codeInName

/-- A further character of a name without quotes. -/
def namePart : Rule Char :=
  satisfy (fun c => isPlainNameStart c || c.isDigit)
  <|> ofClass (fun c => Text.isLetter c || Text.isJoining c)
  <|> codeInName
  <|> oneOf ['\u200c', '\u200d']

/-- A name without quotes. -/
def plainName : Rule Text := do
  let first ← nameStart
  let others ← many namePart
  return first :: others

/-- Whole digits: a single zero, or digits that do not start with one. -/
def whole : Rule Text :=
  (do
    let _ ← char '0'
    not digit
    return ['0'])
  <|> (do
    let first ← satisfy fun c => c.isDigit && c ≠ '0'
    let others ← many digit
    return first :: others)

/-- A point and the digits after it, of which there may be none. -/
def fraction : Rule Text := do
  let _ ← char '.'
  many digit

/-- An exponent: its sign and its digits, of which there may be none. -/
def exponent : Rule Text := do
  let _ ← oneOf ['e', 'E']
  (do
    let sign ← oneOf ['+', '-']
    let digits ← many digit
    return sign :: digits)
  <|> many digit

/-- A decimal without a sign; one that has no whole digits has a point. -/
def decimal : Rule Magnitude :=
  (do
    let digits ← whole
    let fraction? ← optional fraction
    let exponent? ← optional exponent
    return .decimal digits fraction? exponent?)
  <|> (do
    let digits ← fraction
    let exponent? ← optional exponent
    return .decimal [] (some digits) exponent?)

/-- A number without a sign. -/
def magnitude : Rule Magnitude :=
  (do
    let read ← decimal
    not nameStart
    return read)
  <|> (do
    literal ['0', 'x'] <|> literal ['0', 'X']
    let digits ← many1 hexDigit
    return .hexadecimal digits)
  <|> (do
    literal "Infinity".toList
    return .infinity)
  <|> (do
    literal "NaN".toList
    return .nan)

/-- A number. -/
def numeral : Rule Numeral :=
  (do
    let _ ← char '-'
    let read ← magnitude
    return ⟨true, read⟩)
  <|> (do
    let _ ← char '+'
    let read ← magnitude
    return ⟨false, read⟩)
  <|> (do
    let read ← magnitude
    return ⟨false, read⟩)

/-- Parts with commas between them, and perhaps one after the last. -/
def separated {α : Type} (part : Rule α) : Rule (List α) := do
  let first ← part
  let others ← many (do
    blanks
    let _ ← char ','
    blanks
    part)
  blanks
  let _ ← optional (char ',')
  return first :: others

/-- Parts between brackets, or brackets with nothing between them. -/
def bracketed {α : Type} (opening closing : Char) (part : Rule α) : Rule (List α) :=
  (do
    let _ ← char opening
    blanks
    let parts ← separated part
    blanks
    let _ ← char closing
    return parts)
  <|> (do
    let _ ← char opening
    blanks
    let _ ← char closing
    return [])

/-- A name, a colon and a value. -/
def memberNamed (name : Rule Text) (item : Rule Document) : Rule (Text × Document) := do
  let name ← name
  blanks
  let _ ← char ':'
  blanks
  let item ← item
  return (name, item)

/-- A member of an object. -/
def member (item : Rule Document) : Rule (Text × Document) :=
  memberNamed string item <|> memberNamed plainName item

/-- A value whose containers are nested no deeper than the first argument. -/
def value : Nat → Cursor → Reply Document
  | 0, c => fail c
  | depth + 1, c =>
    ((do literal "null".toList; return .null)
    <|> (do literal "true".toList; return .bool true)
    <|> (do literal "false".toList; return .bool false)
    <|> (Document.object <$> bracketed '{' '}' (member (value depth)))
    <|> (Document.array <$> bracketed '[' ']' (value depth))
    <|> (Document.string <$> string)
    <|> (Document.numeral <$> numeral)) c

/-- A document: one value with blanks around it. Its containers are nested no deeper than it is
long. -/
def document : Rule Document := fun c =>
  (do
    blanks
    let read ← value (c.rest.length + 1)
    blanks
    atEnd
    return read) c

end ImportResolution.Relaxed.Rule
