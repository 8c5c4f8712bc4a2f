import ImportResolution.Alias.Application
import ImportResolution.Configuration.Discovery
import ImportResolution.Module.Reuse

/-!
Resolving imports: aliases first, from the configuration that is given or the one that is
discovered, and then the module search.
-/
namespace ImportResolution

/-- How a given configuration is understood. -/
inductive ConfigurationKind where
  /-- There is none. -/
  | unset
  /-- It lists alias entries. -/
  | aliases
  /-- It is an object without anything on aliases. -/
  | passthrough
  deriving DecidableEq, Repr

/-- The kind of a configuration: an array lists entries, and so does an object that gives a sign
or a suffix. -/
def ConfigurationKind.of : Json → ConfigurationKind
  | .arr _ => .aliases
  | .obj members =>
    if (Json.find? members AliasEntry.signMember).isSome
      || (Json.find? members AliasEntry.suffixMember).isSome then .aliases
    else .passthrough
  | _ => .unset

/-- A request to resolve a specifier that is imported from a file. -/
structure Request where
  specifier : Text
  file : Text
  configuration : Json
  fileName : Text
  root? : Option Text
  deriving Repr

namespace Request

/-- Resolves a specifier under alias entries that are relative to a root. -/
def resolveUnder (h : Host) (specifier file root : Text) (entries : List AliasEntry) :
    Traced Resolution :=
  let applied := Application.ofEntries specifier entries root
  match applied.entry? with
  | none => Module.resolve h applied.specifier file applied.options
  | some (_, entry) => do
    .report (.aliasMatched specifier entry.sign applied.specifier)
    let answer ← Module.resolve h applied.specifier file applied.options
    return if answer.found then { answer with strategy := .aliased } else answer

/-- Resolves a specifier under a configuration of aliases. -/
def resolveConfigured (h : Host) (specifier file root : Text) (configuration : Json) :
    Traced Resolution :=
  match AliasEntry.ofConfiguration configuration with
  | .error fault => .fault fault
  | .ok entries => resolveUnder h specifier file root entries

/-- Resolves a specifier under the configuration that is discovered from a root on. -/
def resolveDiscovered (h : Host) (specifier file root fileName : Text) : Traced Resolution := do
  match ← Configuration.discover h (some root) fileName with
  | .notListed => Module.resolve h specifier file []
  | .located configuration =>
    resolveConfigured h specifier file configuration.root (.arr configuration.entries)

/-- Answers a request. -/
def resolve (h : Host) (request : Request) : Traced Resolution :=
  match h.startingPoint request.root? with
  | .error fault => .fault fault
  | .ok start =>
    let root := (PlainPath.ofText start).toText
    match ConfigurationKind.of request.configuration with
    | .aliases =>
      resolveConfigured h request.specifier request.file root request.configuration
    | _ => resolveDiscovered h request.specifier request.file root request.fileName

/-- Sets the answer to a specifier: one that has an answer already keeps its place and takes the new
answer, any other stands last. -/
def setAnswer (answers : List (Text × Resolution)) (specifier : Text) (answer : Resolution) :
    List (Text × Resolution) :=
  if (answers.map (·.1)).contains specifier then
    answers.map fun named => if named.1 = specifier then (specifier, answer) else named
  else answers ++ [(specifier, answer)]

/-- Answers a request for one more specifier. -/
def resolveNext (h : Host) (request : Request) (answers : List (Text × Resolution))
    (specifier : Text) : Except Fault (List (Text × Resolution)) :=
  (resolve h { request with specifier }).outcome.map (setAnswer answers specifier)

/-- The answers to a request for several specifiers, which are asked for one after the other, up to
the first fault. -/
def resolveAll (h : Host) (request : Request) (specifiers : List Text) :
    Except Fault (List (Text × Resolution)) :=
  specifiers.foldlM (resolveNext h request) []

end Request
end ImportResolution
