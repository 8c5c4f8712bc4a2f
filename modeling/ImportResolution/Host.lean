import ImportResolution.FileTree.Canonical
import ImportResolution.Fault
import ImportResolution.Path.Plain

/-!
The surroundings of a request: a file tree, a working directory, which may have been removed, and
the room that is left on the stack. All questions about files are asked here, so that one value
decides them all.
-/
namespace ImportResolution

/-- The room that is left on the stack when a request starts to read a file or to resolve a path. -/
structure Room where
  /-- How many containers of the strict notation can stand inside one another. -/
  containers : Nat
  /-- Whether there is no room for the reader of the relaxed notation to go through a text. What it
  takes of the stack for a container is its own matter. -/
  outgrown : Text → Bool
  /-- How many links can be followed inside one another. -/
  links : Nat

/-- The room on a stack of a thousand frames of which few are in use. -/
def Room.usual : Room where
  containers := 975
  outgrown s := (Json.tooDeep? .outside 100 s).isSome
  links := 975

namespace Room

/-- Reads a text in the strict notation, as far as there is room. -/
def parse (room : Room) (text : Text) : Except ReadFault Json :=
  match Json.overflow? room.containers text with
  | some container => .error (.exhausted (.container container))
  | none => (Json.parse text).mapError fun fault => .content (.strict fault text)

/-- Reads a text in the relaxed notation, as far as there is room. -/
def parseRelaxed (room : Room) (text : Text) : Except ReadFault Json :=
  if room.outgrown text then .error (.exhausted .relaxed)
  else (Relaxed.parse text).mapError fun fault => .content (.relaxed fault text)

end Room

/-- A file tree, the path of the working directory, if there is one, and the room on the stack. -/
structure Host where
  tree : FileTree
  directory? : Option Text
  room : Room

namespace Host

/-- The place of the working directory. -/
def start? (h : Host) : Option Place := h.directory?.map Place.ofPath

/-- What a path names; a link at its end is followed on request. -/
def lookup (h : Host) (follow : Bool) (p : Text) : Except FileTree.LookupFault (Place × Node) :=
  h.tree.lookup h.start? follow p

/-- Whether a path names a regular file. -/
def isFile (h : Host) (p : Text) : Bool :=
  match h.lookup true p with
  | .ok (_, node) => node.isFile
  | .error _ => false

/-- Whether a path names a directory. -/
def isDirectory (h : Host) (p : Text) : Bool :=
  match h.lookup true p with
  | .ok (_, node) => node.isDirectory
  | .error _ => false

/-- Whether a path names a regular file, where a name that is too long is a fault. -/
def hasFile (h : Host) (p : Text) : Except Fault Bool :=
  match h.lookup true p with
  | .ok (_, node) => .ok node.isFile
  | .error .nameTooLong => .error (.system .nameTooLong (some p))
  | .error _ => .ok false

/-- The target of the link that a path names, if it names one. -/
def linkTarget? (h : Host) (p : Text) : Option Text :=
  match h.lookup false p with
  | .ok (_, .link target) => some target
  | _ => none

/-- A text with every kind of line end written as a line feed. -/
def unifyLineEnds : Text → Text
  | [] => []
  | '\r' :: '\n' :: rest => '\n' :: unifyLineEnds rest
  | '\r' :: rest => '\n' :: unifyLineEnds rest
  | c :: rest => c :: unifyLineEnds rest

/-- The text that a content holds. -/
def contentText : Content → Except Utf8.Fault Text
  | .text value => .ok (unifyLineEnds value)
  | .octets bytes => (Utf8.decode bytes).map unifyLineEnds

/-- The text of the file that a path names. -/
def readText (h : Host) (p : Text) : Except ReadFault Text :=
  match h.lookup true p with
  | .ok (_, .file content) => (contentText content).mapError fun fault => .content (.encoding fault)
  | .ok (_, .sealedFile) => .error (.system .denied p)
  | .ok (_, .directory) => .error (.system .isDirectory p)
  | .ok (_, .link _) => .error (.system .tooManyLinks p)
  | .error .missing => .error (.system .missing p)
  | .error .notDirectory => .error (.system .notDirectory p)
  | .error .tooManyLinks => .error (.system .tooManyLinks p)
  | .error .nameTooLong => .error (.system .nameTooLong p)
  | .error .embeddedNull => .error .embeddedNull

/-- The value of the file that a path names, in the strict notation. -/
def readJson (h : Host) (p : Text) : Except ReadFault Json :=
  match h.readText p with
  | .error fault => .error fault
  | .ok text => h.room.parse text

/-- The value of the file that a path names, in the relaxed notation. -/
def readRelaxed (h : Host) (p : Text) : Except ReadFault Json :=
  match h.readText p with
  | .error fault => .error fault
  | .ok text => h.room.parseRelaxed text

/-- The working directory. -/
def workingDirectory (h : Host) : Except Fault Text :=
  match h.directory? with
  | some directory => .ok directory
  | none => .error .noWorkingDirectory

/-- The normal absolute form of a path. A relative path is seen from the working directory. -/
def absolute (h : Host) (p : Text) : Except Fault Text :=
  if Path.isAbsolute p then .ok (Path.normalize p)
  else h.workingDirectory.map fun directory => Path.normalize (Path.join directory p)

/-- The number of links after which a resolution is given up. An absolute path meets every link
under one name, and no link twice, so it meets no more than the tree has; a relative one may meet a
link under further names, one for every number of leading dots that fits into a path. -/
def resolutionLimit (h : Host) : Nat := h.tree.linkCount + FileTree.pathLimit

/-- The canonical form of a path: absolute, links resolved, missing parts kept. A path that leads
back to itself is a fault, and so is one with more links inside one another than there is room
for. -/
def canonical (h : Host) (p : Text) : Except Fault Text :=
  if p.contains '\x00' then .error .embeddedNull
  else
    let plain := (PlainPath.ofText p).toText
    if Canonical.overflows h.linkTarget? h.resolutionLimit h.room.links plain then
      .error (.exhausted .links)
    else
      match h.absolute (Canonical.resolve h.linkTarget? h.resolutionLimit plain) with
      | .error fault => .error fault
      | .ok path =>
        match h.lookup true path with
        | .error .tooManyLinks => .error (.linkLoop path)
        | _ => .ok path

/-- The canonical form of a path, or the working directory if the path is empty or absent. -/
def startingPoint (h : Host) (p? : Option Text) : Except Fault Text :=
  match p? with
  | some (c :: p) => h.canonical (c :: p)
  | _ => h.workingDirectory

end Host
end ImportResolution
