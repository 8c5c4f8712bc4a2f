import ImportResolution.Host
import ImportResolution.Module.Options

/-!
The directories that are searched for a package: the module directories of every directory from
the importing one up to the root, nearest first, and then the extra paths. A directory that is
itself named like a module directory has none.
-/
namespace ImportResolution.Module

/-- The module directories of one directory. -/
def moduleDirectoriesOf (directory : Text) : List Json → Except Fault (List Text)
  | [] => .ok []
  | item :: rest =>
    match itemText item with
    | .error fault => .error fault
    | .ok name => (moduleDirectoriesOf directory rest).map (Path.join directory name :: ·)

/-- Whether a directory is named like one of the module directories. -/
def isModuleDirectory (names : List Json) (directory : Text) : Bool :=
  names.any fun
    | .str name => name == Path.basename directory
    | _ => false

/-- The module directories of a list of directories. -/
def levels (names : List Json) : List Text → Except Fault (List Text)
  | [] => .ok []
  | directory :: rest =>
    match (if isModuleDirectory names directory then .ok []
      else moduleDirectoriesOf directory names) with
    | .error fault => .error fault
    | .ok here => (levels names rest).map (here ++ ·)

/-- The absolute forms of the extra paths. -/
def extraPaths (h : Host) : List Json → Except Fault (List Text)
  | [] => .ok []
  | item :: rest =>
    match itemText item with
    | .error fault => .error fault
    | .ok path =>
      match h.absolute path with
      | .error fault => .error fault
      | .ok path => (extraPaths h rest).map (path :: ·)

/-- The directories that are searched for a package imported from a directory. -/
def searchPath (h : Host) (options : Options) (directory : Text) : Except Fault (List Text) :=
  match levels options.moduleDirectories (Path.ancestors directory) with
  | .error fault => .error fault
  | .ok found => (extraPaths h options.paths).map (found ++ ·)

end ImportResolution.Module
