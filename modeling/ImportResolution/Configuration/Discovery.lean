import ImportResolution.Configuration.Plugin
import ImportResolution.Event
import ImportResolution.Host

/-!
Discovery of the configuration: from a directory upwards, the nearest directory that has one
decides. In a directory the configuration file comes first, in the relaxed notation, and then a
section of the manifest, in the strict one. A configuration that does not list the plugin decides
as well, against any alias; so does a fault.
-/
namespace ImportResolution.Configuration

/-- The name of the configuration file. -/
def defaultFileName : Text := ".babelrc".toList

/-- The name of the manifest. -/
def manifestName : Text := "package.json".toList

/-- The member of the manifest that holds a configuration. -/
def sectionMember : Text := "babel".toList

/-- A configuration of aliases: the listed entries, the directory that they are relative to, and
the file that they come from, if there is one. -/
structure Located where
  entries : List Json
  root : Text
  source? : Option Text
  deriving Repr

/-- The outcome of a discovery: a configuration of aliases, or a configuration without any. -/
inductive Discovery where
  | notListed
  | located (configuration : Located)
  deriving Repr

/-- The value of the configuration file of a directory and its path, if there is one. -/
def fromFile (h : Host) (directory : PlainPath) (fileName : Text) :
    Traced (Option (Json × Text)) :=
  if fileName.isEmpty then .answer none
  else
    let path := (directory.join (.ofText fileName)).toText
    match h.hasFile path with
    | .error fault => .fault fault
    | .ok false => .answer none
    | .ok true => do
      .report (.readingConfiguration path)
      match h.readRelaxed path with
      | .error fault => .fault (fault.toFault path)
      | .ok value => .answer (some (value, path))

/-- The section of the manifest of a directory and the path of the manifest, if it has one that
counts as present. -/
def fromManifest (h : Host) (directory : PlainPath) : Traced (Option (Json × Text)) :=
  let path := (directory.join (.ofText manifestName)).toText
  match h.hasFile path with
  | .error fault => .fault fault
  | .ok false => .answer none
  | .ok true =>
    match h.readJson path with
    | .error fault => .fault (fault.toFault path)
    | .ok manifest =>
      match manifest.member? sectionMember with
      | none => .answer none
      | some value =>
        if value.isSet then do
          .report (.usingSection path)
          return some (value, path)
        else .answer none

/-- The value in effect in a directory. The manifest is asked if the configuration file is missing
or its value does not count as present. -/
def inEffect (h : Host) (directory : PlainPath) (fileName : Text) :
    Traced (Option (Json × Text)) := do
  match ← fromFile h directory fileName with
  | some (value, path) =>
    if value.isSet then return some (value, path)
    else fromManifest h directory
  | none => fromManifest h directory

/-- The configuration of a directory. Only an object or an array is one. -/
def ofDirectory (h : Host) (directory : PlainPath) (fileName : Text) :
    Traced (Option (Json × Text)) := do
  match ← inEffect h directory fileName with
  | some (value, path) => return if value.isContainer then some (value, path) else none
  | none => return none

/-- What a configuration found in a directory decides. -/
def decide (directory : PlainPath) (value : Json) (source : Text) : Traced Discovery :=
  match plugin? value with
  | none => do
    .report (.pluginNotListed source pluginName)
    return .notListed
  | some listed => do
    .report (.configured source directory.toText)
    return .located ⟨entriesOf listed, directory.toText, some source⟩

/-- Discovery in a list of directories; if none of them decides, there is a configuration without
entries for the start. -/
def discoverIn (h : Host) (fileName start : Text) : List PlainPath → Traced Discovery
  | [] => do
    .report (.nothingFound start)
    return .located ⟨[], start, none⟩
  | directory :: rest => do
    match ← ofDirectory h directory fileName with
    | none => discoverIn h fileName start rest
    | some (value, source) => decide directory value source

/-- Discovery from a directory upwards. -/
def discover (h : Host) (start? : Option Text) (fileName : Text) : Traced Discovery :=
  match h.startingPoint start? with
  | .error fault => .fault fault
  | .ok start =>
    let plain := PlainPath.ofText start
    discoverIn h fileName plain.toText (plain :: plain.parents)

end ImportResolution.Configuration
