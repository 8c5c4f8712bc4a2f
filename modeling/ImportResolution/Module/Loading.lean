import ImportResolution.Host
import ImportResolution.Module.Options
import ImportResolution.Module.Trail

/-!
Loading a target: first as a file, under its own name and then with each ending, and then as a
directory, through the main file that its manifest names and through its index.
-/
namespace ImportResolution.Module

/-- The name of the file that describes a package. -/
def manifestName : Text := "package.json".toList

/-- The name of the file that stands for its directory, without an ending. -/
def indexName : Text := "index".toList

/-- The member of a manifest that names the main file. -/
def mainMember : Text := "main".toList

/-- Probes one path. -/
def probe (h : Host) (path : Text) : Trail :=
  ⟨if h.isFile path then .hit path else .miss, [path], []⟩

/-- Probes a target with each of the endings. -/
def probeEndings (h : Host) (target : Text) : List Json → Trail
  | [] => .miss
  | ending :: rest =>
    match itemText ending with
    | .error fault => .failed fault
    | .ok ending => (probe h (target ++ ending)).orElse fun _ => probeEndings h target rest

/-- Loads a target as a file. -/
def loadFile (h : Host) (extensions : List Json) (target : Text) : Trail :=
  (probe h target).orElse fun _ => probeEndings h target extensions

/-- Loads the index of a directory. -/
def loadIndex (h : Host) (extensions : List Json) (directory : Text) : Trail :=
  loadFile h extensions (Path.join directory indexName)

/-- The main file that a manifest names by a text that is not empty. A manifest that cannot be read
names none, but that there is no room to read it is a fault. -/
def mainOf : Except ReadFault Json → Except Fault (Option Text)
  | .ok manifest =>
    match manifest.member? mainMember with
    | some (.str (c :: name)) => .ok (some (c :: name))
    | _ => .ok none
  | .error (.exhausted descent) => .error (.exhausted descent)
  | .error _ => .ok none

/-- What is reported about a manifest. -/
def manifestEvents (manifest : Text) : Except ReadFault Json → List Event
  | .ok _ => []
  | .error (.exhausted _) => []
  | .error fault => [.manifestIgnored manifest fault]

/-- Loads a directory through its main file: as a file, or through its index if it is another
directory. -/
def loadMain (h : Host) (extensions : List Json) (directory main : Text) : Trail :=
  let target := Path.normalize (Path.join directory main)
  (loadFile h extensions target).orElse fun _ =>
    if target = directory then .miss else loadIndex h extensions target

/-- Loads a target as a directory. -/
def loadDirectory (h : Host) (extensions : List Json) (directory : Text) : Trail :=
  if !h.isDirectory directory then .miss
  else
    let manifest := Path.join directory manifestName
    if !h.isFile manifest then loadIndex h extensions directory
    else
      let read := h.readJson manifest
      .after (manifestEvents manifest read) <|
        match mainOf read with
        | .error fault => .failed fault
        | .ok none => loadIndex h extensions directory
        | .ok (some main) =>
          (loadMain h extensions directory main).orElse fun _ => loadIndex h extensions directory

/-- Loads a target, as a file or as a directory. -/
def load (h : Host) (extensions : List Json) (target : Text) : Trail :=
  (loadFile h extensions target).orElse fun _ => loadDirectory h extensions target

/-- Loads a package from the first of the directories that has it. -/
def loadPackage (h : Host) (extensions : List Json) (name : Text) : List Text → Trail
  | [] => .miss
  | directory :: rest =>
    (load h extensions (Path.join directory name)).orElse fun _ =>
      loadPackage h extensions name rest

end ImportResolution.Module
