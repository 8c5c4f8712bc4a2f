import ImportResolution.Json.Value
import ImportResolution.Fault

/-!
Alias entries: a sign at the start of specifiers, and the directory below the project root that it
stands for. Entries are read from configurations leniently, a missing or unusable part has its
default.
-/
namespace ImportResolution

/-- An alias entry. The sign stands for the directory `suffix` below the root, the root itself if
`suffix` is empty; the options go to the module search. -/
structure AliasEntry where
  sign : Text
  suffix : Text
  options : List (Text × Json)
  deriving Repr

namespace AliasEntry

/-- The member that gives the sign. -/
def signMember : Text := "rootPathPrefix".toList

/-- The member that gives the suffix. -/
def suffixMember : Text := "rootPathSuffix".toList

/-- The sign of an entry that gives none. -/
def defaultSign : Text := ['~']

/-- A text without the slash at its end. A line feed at the very end does not hide the slash before
it. -/
def dropLastSlash : Text → Text
  | [] => []
  | ['/'] => []
  | ['/', '\n'] => ['\n']
  | c :: rest => c :: dropLastSlash rest

/-- A suffix without one slash at its start and one at its end. -/
def sanitize : Text → Text
  | '/' :: rest => dropLastSlash rest
  | s => dropLastSlash s

/-- The sign that a member gives: a text that is not empty, or else the default. -/
def signOf : Option Json → Text
  | some (.str (c :: rest)) => c :: rest
  | _ => defaultSign

/-- The suffix that a member gives: a text, sanitized, or else none. -/
def suffixOf : Option Json → Text
  | some (.str text) => sanitize text
  | _ => []

/-- The entry that members of an object give. All members but the two of its own are options. -/
def ofMembers (members : List (Text × Json)) : AliasEntry :=
  { sign := signOf (Json.find? members signMember)
    suffix := suffixOf (Json.find? members suffixMember)
    options := members.filter fun member =>
      member.1 ≠ signMember ∧ member.1 ≠ suffixMember }

/-- The entry that a value gives; one that is no object gives the default entry. -/
def ofJson : Json → AliasEntry
  | .obj members => ofMembers members
  | _ => ofMembers []

/-- The values that a configuration lists as entries: none for null, an object alone, the items of
an array and the characters of a text. -/
def listed : Json → Except Fault (List Json)
  | .null => .ok []
  | .obj members => .ok [.obj members]
  | .arr items => .ok items
  | .str text => .ok (text.map fun c => .str [c])
  | _ => .error .wrongType

/-- The entries of listed values; an empty list has the default entry. -/
def ofItems : List Json → List AliasEntry
  | [] => [ofMembers []]
  | items => items.map ofJson

/-- The entries that a configuration gives. -/
def ofConfiguration (configuration : Json) : Except Fault (List AliasEntry) :=
  (listed configuration).map ofItems

end AliasEntry
end ImportResolution
