import ImportResolution.Fault

/-!
Options of the module search. They come from configurations as JSON values of any type: an option
that counts as false has its default, a text stands for a list of one, an object for the list of
its names, and anything else is refused. Whether the items are texts shows only when they are
used.
-/
namespace ImportResolution.Module

/-- The options in effect. Their items are values, since an item that is never used does no
harm. -/
structure Options where
  extensions : List Json
  moduleDirectories : List Json
  paths : List Json
  deriving Repr

namespace Options

/-- The endings that are tried by default. -/
def defaultExtensions : List Text :=
  [".mjs".toList, ".js".toList, ".json".toList, ".node".toList]

/-- The name of the directories that hold packages by default. -/
def defaultModuleDirectory : Text := "node_modules".toList

/-- The items that an option lists. -/
def listed (default : List Text) (option? : Option Json) : Except Fault (List Json) :=
  match option? with
  | none => .ok (default.map .str)
  | some option =>
    if !option.truthy then .ok (default.map .str)
    else match option with
      | .str text => .ok [.str text]
      | .arr items => .ok items
      | .obj members => .ok (members.map fun member => .str member.1)
      | _ => .error .wrongType

/-- The options that the members of an object set; members of other names have no effect. -/
def ofMembers (members : List (Text × Json)) : Except Fault Options :=
  match listed defaultExtensions (Json.find? members "extensions".toList) with
  | .error fault => .error fault
  | .ok extensions =>
    match listed [defaultModuleDirectory] (Json.find? members "moduleDirectory".toList) with
    | .error fault => .error fault
    | .ok moduleDirectories =>
      match listed [] (Json.find? members "paths".toList) with
      | .error fault => .error fault
      | .ok paths => .ok { extensions, moduleDirectories, paths }

end Options

/-- The text of an item where a text is needed. -/
def itemText : Json → Except Fault Text
  | .str text => .ok text
  | _ => .error .wrongType

end ImportResolution.Module
