import ImportResolution.Json.Value
import ImportResolution.Number.Shortest

/-!
The written form of JSON values: printable ASCII only, a blank after commas and colons, and on
request one item a line. Numbers that are no number are written as the literals that the reader
takes for them.
-/
namespace ImportResolution.Json

/-- An escape of four hexadecimal digits. -/
def unicodeEscape (code : Nat) : Text := '\\' :: 'u' :: Text.hex 4 code

/-- The written form of one character of a string. A character beyond the first plane is written
as its surrogate pair. -/
def writtenChar (c : Char) : Text :=
  if c = '"' then ['\\', '"']
  else if c = '\\' then ['\\', '\\']
  else if c = '\n' then ['\\', 'n']
  else if c = '\r' then ['\\', 'r']
  else if c = '\t' then ['\\', 't']
  else if c = '\x0c' then ['\\', 'f']
  else if c = '\x08' then ['\\', 'b']
  else if ' ' ≤ c ∧ c ≤ '~' then [c]
  else if c.toNat ≤ 0xFFFF then unicodeEscape c.toNat
  else
    let pair := c.toNat - 0x10000
    unicodeEscape (0xD800 + pair / 0x400) ++ unicodeEscape (0xDC00 + pair % 0x400)

/-- A string between quotation marks. -/
def writtenString (s : Text) : Text := '"' :: s.flatMap writtenChar ++ ['"']

/-- A binary number. -/
def writtenFloat : Binary64 → Text
  | .nan => "NaN".toList
  | .infinity negative => if negative then "-Infinity".toList else "Infinity".toList
  | finite => finite.toText

/-- How the items of a container are set: on one line, or each on a line of its own that is
indented by two blanks for every container around it. -/
inductive Layout where
  | line
  | block (depth : Nat)

/-- The layout of the items of a container with the given layout. -/
def Layout.deeper : Layout → Layout
  | line => line
  | block depth => block (depth + 1)

/-- What stands before the first item, and before the closing bracket of a container that has
items. -/
def Layout.turn : Layout → Text
  | line => []
  | block depth => '\n' :: List.replicate (2 * depth) ' '

/-- What stands between two items. -/
def Layout.separator : Layout → Text
  | line => ", ".toList
  | block depth => ',' :: (block depth).turn

/-- Items between brackets; `within` is the layout of the items. -/
def bracketed (outer : Layout) (opening closing : Char) (parts : List Text) : Text :=
  match parts with
  | [] => [opening, closing]
  | parts =>
    opening :: outer.deeper.turn ++ List.intercalate outer.deeper.separator parts
      ++ outer.turn ++ [closing]

mutual

/-- The written form of a value in a layout. -/
def written (layout : Layout) : Json → Text
  | null => "null".toList
  | bool value => if value then "true".toList else "false".toList
  | int value => Text.ofInt value
  | float value => writtenFloat value
  | str value => writtenString value
  | arr items => bracketed layout '[' ']' (writtenItems layout.deeper items)
  | obj members => bracketed layout '{' '}' (writtenMembers layout.deeper members)

/-- The written forms of array items. -/
def writtenItems (layout : Layout) : List Json → List Text
  | [] => []
  | item :: rest => written layout item :: writtenItems layout rest

/-- The written forms of object members. -/
def writtenMembers (layout : Layout) : List (Text × Json) → List Text
  | [] => []
  | (name, value) :: rest =>
    (writtenString name ++ ": ".toList ++ written layout value) :: writtenMembers layout rest

end

mutual

/-- Whether every integer in the value is short enough to be written. -/
def isWritable : Json → Bool
  | int value => (Text.ofNat value.natAbs).length ≤ digitLimit
  | arr items => areWritable items
  | obj members => membersWritable members
  | _ => true

/-- Whether every integer in the items is short enough to be written. -/
def areWritable : List Json → Bool
  | [] => true
  | item :: rest => isWritable item && areWritable rest

/-- Whether every integer in the members is short enough to be written. -/
def membersWritable : List (Text × Json) → Bool
  | [] => true
  | (_, value) :: rest => isWritable value && membersWritable rest

end

/-- The value on one line. -/
def print (value : Json) : Text := written .line value

/-- The value with one item a line. -/
def printBlock (value : Json) : Text := written (.block 0) value

end ImportResolution.Json
