import ImportResolution.Json.Value

/-!
The strict notation of JSON, with `NaN`, `Infinity` and `-Infinity` as further literals. A reader
takes the text that is left and gives a value and the text left after it; a failure gives its cause
and how many characters were left at the place it names.
-/
namespace ImportResolution.Json

/-- Why a text is not a JSON document. -/
inductive Cause where
  | byteOrderMark
  | value
  | name
  | colon
  | comma
  | extraData
  | unterminatedString
  | controlCharacter
  | escape
  | unicodeEscape
  | integerTooLong (digits : Nat)
  deriving DecidableEq, Repr

/-- A cause and the number of characters left at the place of the failure. -/
abbrev Stop := Cause × Nat

/-- The text without the blanks at its start: space, tab, line feed and carriage return. -/
def skipBlanks (s : Text) : Text :=
  s.dropWhile fun c => c = ' ' || c = '\t' || c = '\n' || c = '\r'

/-- The code that four hexadecimal digits write. -/
def hexCode? (a b c d : Char) : Option Nat := do
  let a ← Text.hexValue? a
  let b ← Text.hexValue? b
  let c ← Text.hexValue? c
  let d ← Text.hexValue? d
  return ((a * 16 + b) * 16 + c) * 16 + d

/-- The character that a one-letter escape stands for. -/
def shortEscape? : Char → Option Char
  | '"' => some '"'
  | '\\' => some '\\'
  | '/' => some '/'
  | 'b' => some '\x08'
  | 'f' => some '\x0c'
  | 'n' => some '\n'
  | 'r' => some '\r'
  | 't' => some '\t'
  | _ => none

/-- The codes of a string from after its opening quote to its closing one. `opening` is the number
of characters left at the opening quote. A numeric escape has to be followed by something, since
the string has still to be closed. -/
def codes (opening : Nat) : Text → Except Stop (List Nat × Text)
  | [] => .error (.unterminatedString, opening)
  | '"' :: rest => .ok ([], rest)
  | '\\' :: [] => .error (.unterminatedString, opening)
  | '\\' :: 'u' :: a :: b :: c :: d :: rest =>
    if rest.isEmpty then .error (.unicodeEscape, rest.length + 5)
    else match hexCode? a b c d with
      | none => .error (.unicodeEscape, rest.length + 5)
      | some code => (codes opening rest).map fun (codes, left) => (code :: codes, left)
  | '\\' :: 'u' :: rest => .error (.unicodeEscape, rest.length + 1)
  | '\\' :: c :: rest =>
    match shortEscape? c with
    | none => .error (.escape, rest.length + 2)
    | some c => (codes opening rest).map fun (codes, left) => (c.toNat :: codes, left)
  | c :: rest =>
    if c < ' ' then .error (.controlCharacter, rest.length + 1)
    else (codes opening rest).map fun (codes, left) => (c.toNat :: codes, left)

/-- Characters of a list of codes, in which a high surrogate and a low one after it stand for one
character. -/
def joinSurrogates : List Nat → Text
  | [] => []
  | [code] => [Text.charOfCode code]
  | high :: low :: rest =>
    if 0xD800 ≤ high ∧ high < 0xDC00 ∧ 0xDC00 ≤ low ∧ low < 0xE000 then
      Text.charOfCode (0x10000 + (high - 0xD800) * 0x400 + (low - 0xDC00)) :: joinSurrogates rest
    else Text.charOfCode high :: joinSurrogates (low :: rest)

/-- A string, from after its opening quote. -/
def string (rest : Text) : Except Stop (Text × Text) :=
  (codes (rest.length + 1) rest).map fun (codes, left) => (joinSurrogates codes, left)

/-- The part of a number after its whole digits: the digits after the point. A point without a
digit after it is not part of the number. -/
def fraction : Text → Option Text × Text
  | '.' :: rest =>
    let digits := rest.takeWhile Char.isDigit
    if digits.isEmpty then (none, '.' :: rest) else (some digits, rest.dropWhile Char.isDigit)
  | s => (none, s)

/-- The exponent of a number. A mark without a digit after it is not part of the number. -/
def exponent : Text → Option Int × Text
  | [] => (none, [])
  | mark :: rest =>
    if mark = 'e' ∨ mark = 'E' then
      let (negative, unsigned) := match rest with
        | '-' :: more => (true, more)
        | '+' :: more => (false, more)
        | more => (false, more)
      let digits := unsigned.takeWhile Char.isDigit
      if digits.isEmpty then (none, mark :: rest)
      else
        let size : Int := Text.digitsValue digits
        (some (if negative then -size else size), unsigned.dropWhile Char.isDigit)
    else (none, mark :: rest)

/-- The whole digits of a number: a single zero, or digits that do not start with one. -/
def wholeDigits : Text → Text × Text
  | '0' :: rest => (['0'], rest)
  | s => (s.takeWhile Char.isDigit, s.dropWhile Char.isDigit)

/-- A number. One with a fraction or an exponent is binary, any other an integer. -/
def number (s : Text) : Except Stop (Json × Text) :=
  let (negative, unsigned) := match s with
    | '-' :: rest => (true, rest)
    | rest => (false, rest)
  let (whole, afterWhole) := wholeDigits unsigned
  if whole.isEmpty then .error (.value, s.length)
  else
    let (fraction?, afterFraction) := fraction afterWhole
    let (exponent?, left) := exponent afterFraction
    if fraction?.isNone ∧ exponent?.isNone then
      if digitLimit < whole.length then .error (.integerTooLong whole.length, s.length)
      else
        let size : Int := Text.digitsValue whole
        .ok (.int (if negative then -size else size), left)
    else
      let digits := fraction?.getD []
      let value := Binary64.ofDecimal negative (whole ++ digits)
        (exponent?.getD 0 - digits.length)
      .ok (.float value, left)

mutual

/-- A value. The first argument bounds the depth of the search. -/
def value : Nat → Text → Except Stop (Json × Text)
  | 0, s => .error (.value, s.length)
  | fuel + 1, s =>
    match s with
    | '"' :: rest => (string rest).map fun (text, left) => (.str text, left)
    | '{' :: rest =>
      match skipBlanks rest with
      | '}' :: left => .ok (.obj [], left)
      | inner => (members fuel inner).map fun (members, left) => (object members, left)
    | '[' :: rest =>
      match skipBlanks rest with
      | ']' :: left => .ok (.arr [], left)
      | inner => (items fuel inner).map fun (items, left) => (.arr items, left)
    | 'n' :: 'u' :: 'l' :: 'l' :: left => .ok (.null, left)
    | 't' :: 'r' :: 'u' :: 'e' :: left => .ok (.bool true, left)
    | 'f' :: 'a' :: 'l' :: 's' :: 'e' :: left => .ok (.bool false, left)
    | 'N' :: 'a' :: 'N' :: left => .ok (.float .nan, left)
    | 'I' :: 'n' :: 'f' :: 'i' :: 'n' :: 'i' :: 't' :: 'y' :: left =>
      .ok (.float (.infinity false), left)
    | '-' :: 'I' :: 'n' :: 'f' :: 'i' :: 'n' :: 'i' :: 't' :: 'y' :: left =>
      .ok (.float (.infinity true), left)
    | s => number s

/-- The items of an array from the first one on, and the closing bracket. -/
def items : Nat → Text → Except Stop (List Json × Text)
  | 0, s => .error (.value, s.length)
  | fuel + 1, s =>
    match value fuel s with
    | .error stop => .error stop
    | .ok (item, afterItem) =>
      match skipBlanks afterItem with
      | ']' :: left => .ok ([item], left)
      | ',' :: rest =>
        (items fuel (skipBlanks rest)).map fun (others, left) => (item :: others, left)
      | left => .error (.comma, left.length)

/-- The members of an object from the first one on, and the closing brace. -/
def members : Nat → Text → Except Stop (List (Text × Json) × Text)
  | 0, s => .error (.name, s.length)
  | fuel + 1, s =>
    match s with
    | '"' :: rest =>
      match string rest with
      | .error stop => .error stop
      | .ok (name, afterName) =>
        match skipBlanks afterName with
        | ':' :: afterColon =>
          match value fuel (skipBlanks afterColon) with
          | .error stop => .error stop
          | .ok (item, afterItem) =>
            match skipBlanks afterItem with
            | '}' :: left => .ok ([(name, item)], left)
            | ',' :: rest =>
              (members fuel (skipBlanks rest)).map
                fun (others, left) => ((name, item) :: others, left)
            | left => .error (.comma, left.length)
        | left => .error (.colon, left.length)
    | left => .error (.name, left.length)

end

/-- A document: one value with blanks around it. -/
def document (s : Text) : Except Stop Json :=
  match s with
  | '\uFEFF' :: _ => .error (.byteOrderMark, s.length)
  | _ =>
    match value (2 * s.length + 2) (skipBlanks s) with
    | .error stop => .error stop
    | .ok (read, afterValue) =>
      match skipBlanks afterValue with
      | [] => .ok read
      | left => .error (.extraData, left.length)

/-- Why a text is not a JSON document, and the number of characters before the place. -/
structure Fault where
  cause : Cause
  offset : Nat
  deriving DecidableEq, Repr

/-- Reads a document. -/
def parse (s : Text) : Except Fault Json :=
  match document s with
  | .ok read => .ok read
  | .error (cause, left) => .error ⟨cause, s.length - left⟩

/-- What a cause is called. -/
def Cause.message : Cause → Text
  | .byteOrderMark => "Unexpected UTF-8 BOM (decode using utf-8-sig)".toList
  | .value => "Expecting value".toList
  | .name => "Expecting property name enclosed in double quotes".toList
  | .colon => "Expecting ':' delimiter".toList
  | .comma => "Expecting ',' delimiter".toList
  | .extraData => "Extra data".toList
  | .unterminatedString => "Unterminated string starting at".toList
  | .controlCharacter => "Invalid control character at".toList
  | .escape => "Invalid \\escape".toList
  | .unicodeEscape => "Invalid \\uXXXX escape".toList
  | .integerTooLong digits =>
    "Exceeds the limit (4300 digits) for integer string conversion: value has ".toList
      ++ Text.ofNat digits
      ++ " digits; use sys.set_int_max_str_digits() to increase the limit".toList

/-- Whether the failure lies in the notation; an integer that is too long is well written. -/
def Fault.isSyntax (fault : Fault) : Bool :=
  match fault.cause with
  | .integerTooLong _ => false
  | _ => true

/-- The text of a failure, with its place in the document if the notation is at fault. -/
def Fault.message (fault : Fault) (s : Text) : Text :=
  if fault.isSyntax then
    let place := Position.ofOffset s fault.offset
    fault.cause.message ++ ": line ".toList ++ Text.ofNat place.line ++ " column ".toList
      ++ Text.ofNat place.column ++ " (char ".toList ++ Text.ofNat fault.offset ++ ")".toList
  else fault.cause.message

end ImportResolution.Json
