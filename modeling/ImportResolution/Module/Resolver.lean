import ImportResolution.Module.Core
import ImportResolution.Module.Loading
import ImportResolution.Module.SearchPath

/-!
Resolving a specifier the way a Node runtime requires modules: core modules by name, absolute and
relative specifiers at their place, and all others in the module directories above the importing
file. That nothing is found is an answer and not a fault.
-/
namespace ImportResolution

/-- The way on which a specifier was found. -/
inductive Strategy where
  | aliased
  | relative
  | absolute
  | package
  | builtin
  | notFound
  deriving DecidableEq, Repr

/-- What a specifier means. -/
inductive Target where
  | missing
  | coreModule
  | file (path : Text)
  deriving DecidableEq, Repr

/-- The answer to a specifier, and the paths that were probed for it, in order. -/
structure Resolution where
  target : Target
  strategy : Strategy
  candidates : List Text
  deriving DecidableEq, Repr

namespace Resolution

/-- The answer that nothing was found. -/
def missing (candidates : List Text) : Resolution := ⟨.missing, .notFound, candidates⟩

/-- The answer for core modules. -/
def coreModule : Resolution := ⟨.coreModule, .builtin, []⟩

/-- Whether the specifier has a meaning. -/
def found (r : Resolution) : Bool :=
  match r.target with
  | .missing => false
  | _ => true

/-- The file that the specifier means, if it means one. -/
def path? (r : Resolution) : Option Text :=
  match r.target with
  | .file path => some path
  | _ => none

/-- Whether the specifier means something without a file. -/
def isBuiltin (r : Resolution) : Bool := r.found && r.path?.isNone

/-- The answer in the form that resolver plugins exchange. -/
def toJson (r : Resolution) : Json :=
  match r.target with
  | .missing => .obj [("found".toList, .bool false)]
  | .coreModule => .obj [("found".toList, .bool true), ("path".toList, .null)]
  | .file path => .obj [("found".toList, .bool true), ("path".toList, .str path)]

end Resolution

namespace Module

/-- Whether a specifier is relative to the importing file. -/
def isRelative (specifier : Text) : Bool :=
  specifier = Path.here || specifier = Path.up || "./".toList.isPrefixOf specifier
    || "../".toList.isPrefixOf specifier

/-- The answer that a search gives. -/
def Trail.resolution (strategy : Strategy) (t : Trail) : Except Fault Resolution :=
  match t.verdict with
  | .hit path => .ok ⟨.file path, strategy, t.candidates⟩
  | .miss => .ok (.missing t.candidates)
  | .failed fault => .error fault

/-- A search as a traced answer. -/
def Trail.traced (strategy : Strategy) (t : Trail) : Traced Resolution :=
  ⟨t.resolution strategy, t.events⟩

/-- Searches for a specifier that is imported from a directory. -/
def search (h : Host) (options : Options) (specifier directory : Text) : Traced Resolution :=
  if Path.isAbsolute specifier then
    (load h options.extensions (Path.normalize specifier)).traced .absolute
  else if isRelative specifier then
    (load h options.extensions (Path.normalize (Path.join directory specifier))).traced .relative
  else
    match searchPath h options directory with
    | .error fault => .fault fault
    | .ok directories =>
      (loadPackage h options.extensions specifier directories).traced .package

/-- Resolves a specifier that is imported from a file, under options that are well formed. -/
def resolveWith (h : Host) (options : Options) (specifier file : Text) : Traced Resolution :=
  if isCore specifier then .answer .coreModule
  else
    match h.absolute file with
    | .error fault => .fault fault
    | .ok file => search h options specifier (Path.dirname file)

/-- The file system's refusals count as finding nothing; other faults stay. -/
def containing (specifier file : Text) (t : Traced Resolution) : Traced Resolution :=
  match t.outcome with
  | .error (.system cause path?) =>
    ⟨.ok (.missing []), t.events ++ [.searchFailed specifier file (.system cause path?)]⟩
  | _ => t

/-- Resolves a specifier that is imported from a file, with options as a configuration gives
them. -/
def resolve (h : Host) (specifier file : Text) (options : List (Text × Json)) :
    Traced Resolution :=
  match Options.ofMembers options with
  | .error fault => .fault fault
  | .ok options => containing specifier file (resolveWith h options specifier file)

end Module
end ImportResolution
