import ImportResolution.Json.Value

/-!
The plugin in a configuration: among the plugins that are listed, each by its name or by an array
that starts with its name, the first one of one of our names, with its options.
-/
namespace ImportResolution.Configuration

/-- The names of the plugin, the full one first. -/
def pluginNames : List Text := ["babel-plugin-root-import".toList, "root-import".toList]

/-- The full name of the plugin. -/
def pluginName : Text := "babel-plugin-root-import".toList

/-- The member that lists plugins. -/
def pluginsMember : Text := "plugins".toList

/-- What stands in the place of the name of a listed plugin. -/
def nameOf? : Json → Option Json
  | .str name => some (.str name)
  | .arr (first :: _) => some first
  | _ => none

/-- Whether a listed plugin is ours. -/
def isPlugin (listed : Json) : Bool :=
  match nameOf? listed with
  | some (.str name) => pluginNames.contains name
  | _ => false

/-- The plugin as a configuration lists it, if it does. -/
def plugin? (configuration : Json) : Option Json :=
  match configuration.member? pluginsMember with
  | some (.arr plugins) => plugins.find? isPlugin
  | _ => none

/-- The alias entries that a listed plugin is given: an array as it stands, any other value that
counts as true as the only entry, and none otherwise. -/
def entriesOf : Json → List Json
  | .arr (_ :: options :: _) =>
    if !options.truthy then []
    else match options with
      | .arr entries => entries
      | entry => [entry]
  | _ => []

end ImportResolution.Configuration
