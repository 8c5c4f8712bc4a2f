import ImportResolution.Host
import ImportResolution.Json.Value

/-!
Snapshots of file trees as JSON values: an object from absolute paths to nodes. A text is the
content of a file, and an object has one member that says what the node is.
-/
namespace ImportResolution

/-- The octets that pairs of hexadecimal digits write. -/
def octetsOfHex? : Text → Option (List UInt8)
  | [] => some []
  | [_] => none
  | high :: low :: rest => do
    let high ← Text.hexValue? high
    let low ← Text.hexValue? low
    let others ← octetsOfHex? rest
    return (high * 16 + low).toUInt8 :: others

/-- The node that a value describes. -/
def Node.ofJson? : Json → Option Node
  | .str content => some (.file (.text content))
  | .obj [(kind, .str value)] =>
    if kind = "hex".toList then (octetsOfHex? value).map fun bytes => .file (.octets bytes)
    else if kind = "link".toList then some (.link value)
    else none
  | .obj [(kind, .bool true)] =>
    if kind = "dir".toList then some .directory
    else if kind = "unreadable".toList then some .sealedFile
    else none
  | _ => none

namespace FileTree

/-- The tree with the nodes that the members of an object describe. -/
def ofMembers? (members : List (Text × Json)) : Option FileTree :=
  members.foldlM (fun tree member =>
    (Node.ofJson? member.2).map (tree.insert (Place.ofPath member.1))) empty

/-- The tree that a value describes. -/
def ofJson? : Json → Option FileTree
  | .obj members => ofMembers? members
  | _ => none

end FileTree

namespace Host

/-- The host whose working directory is at the given path; it is made if it is not there. -/
def enter (h : Host) (directory? : Option Text) : Host :=
  match directory? with
  | none => { h with directory? := none }
  | some directory =>
    { h with
      tree := h.tree.insert (Place.ofPath directory) .directory
      directory? := some (Path.normalize directory) }

/-- The host with a tree and a working directory. -/
def ofTree (tree : FileTree) (directory? : Option Text) : Host :=
  enter ⟨tree, none, .usual⟩ directory?

/-- Writes a node at a path. -/
def write (h : Host) (path : Text) (node : Node) : Host :=
  { h with tree := h.tree.insert (Place.ofPath path) node }

/-- Removes what stands at a path and everything below it. -/
def remove (h : Host) (path : Text) : Host :=
  { h with tree := h.tree.erase (Place.ofPath path) }

end Host
end ImportResolution
