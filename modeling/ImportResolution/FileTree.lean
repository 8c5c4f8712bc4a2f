import ImportResolution.Path

/-!
File trees as values. A tree maps places to nodes; a place is the list of names on the way to it,
the last name first, so that the directory of a place is its tail.
-/
namespace ImportResolution

/-- The names on the way from the root to a place, the last one first. -/
abbrev Place := List Text

/-- What a file holds: a text, stored in UTF-8, or any octets. -/
inductive Content where
  | text (value : Text)
  | octets (bytes : List UInt8)
  deriving DecidableEq, Repr

/-- What stands at a place. A sealed file is a regular file that may not be read. -/
inductive Node where
  | file (content : Content)
  | sealedFile
  | directory
  | link (target : Text)
  deriving DecidableEq, Repr

/-- Whether a node is a regular file. -/
def Node.isFile : Node → Bool
  | file _ | sealedFile => true
  | _ => false

/-- Whether a node is a directory. -/
def Node.isDirectory : Node → Bool
  | directory => true
  | _ => false

/-- A file tree: the nodes below the root. -/
structure FileTree where
  nodes : List (Place × Node)
  deriving DecidableEq, Repr

namespace FileTree

/-- The tree that holds nothing but the root. -/
def empty : FileTree := ⟨[]⟩

/-- The node at a place of a list of nodes. -/
def find? (nodes : List (Place × Node)) (place : Place) : Option Node :=
  match nodes with
  | [] => none
  | (p, node) :: rest => if p = place then some node else find? rest place

/-- The node at a place. The root is a directory in every tree. -/
def node? (t : FileTree) (place : Place) : Option Node :=
  if place = [] then some .directory else find? t.nodes place

/-- Puts a node in a place in which nothing else stands from then on. -/
def set (t : FileTree) (place : Place) (node : Node) : FileTree :=
  ⟨(place, node) :: t.nodes.filter fun entry => !decide (entry.1 = place)⟩

@[simp] theorem node?_root (t : FileTree) : t.node? [] = some .directory := rfl

theorem find?_filter_of_ne (nodes : List (Place × Node)) {place other : Place} (h : other ≠ place) :
    find? (nodes.filter fun entry => !decide (entry.1 = place)) other = find? nodes other := by
  induction nodes with
  | nil => rfl
  | cons entry rest ih =>
    by_cases same : entry.1 = place
    · simp [find?, same, ih, h.symm]
    · simp [find?, same, ih]

/-- What was put in a place below the root stands there. -/
@[simp] theorem node?_set (t : FileTree) (name : Text) (above : Place) (node : Node) :
    (t.set (name :: above) node).node? (name :: above) = some node := by
  simp [set, node?, find?]

/-- All other places are as they were. -/
theorem node?_set_of_ne (t : FileTree) {place other : Place} (node : Node) (h : other ≠ place) :
    (t.set place node).node? other = t.node? other := by
  by_cases root : other = []
  · simp [node?, root]
  · simp [set, node?, root, find?, h.symm, find?_filter_of_ne _ h]

/-- Makes directories of a place and of the places above it where there is no node yet. -/
def addDirectories (t : FileTree) : Place → FileTree
  | [] => t
  | name :: above =>
    let t := t.addDirectories above
    match t.node? (name :: above) with
    | some _ => t
    | none => t.set (name :: above) .directory

/-- Puts a node in a place, with the directories above it. A directory is put only where there is
no node yet. -/
def insert (t : FileTree) (place : Place) (node : Node) : FileTree :=
  match place with
  | [] => t
  | name :: above =>
    let t := t.addDirectories above
    match node, t.node? (name :: above) with
    | .directory, some _ => t
    | node, _ => t.set (name :: above) node

/-- Removes the node at a place and everything below it. -/
def erase (t : FileTree) (place : Place) : FileTree :=
  ⟨t.nodes.filter fun entry => !(place.isSuffixOf entry.1)⟩

theorem find?_filter_of_kept (nodes : List (Place × Node)) {keeps : Place × Node → Bool}
    {place : Place} (kept : ∀ node, keeps (place, node) = true) :
    find? (nodes.filter keeps) place = find? nodes place := by
  induction nodes with
  | nil => rfl
  | cons entry rest ih =>
    by_cases same : entry.1 = place
    · have keep := kept entry.2
      rw [← same] at keep
      simp [keep, find?, same]
    · cases keep : keeps entry <;> simp [keep, find?, same, ih]

theorem find?_filter_of_dropped (nodes : List (Place × Node)) {keeps : Place × Node → Bool}
    {place : Place} (dropped : ∀ node, keeps (place, node) = false) :
    find? (nodes.filter keeps) place = none := by
  induction nodes with
  | nil => rfl
  | cons entry rest ih =>
    cases keep : keeps entry with
    | false => simp [keep, ih]
    | true =>
      have other : entry.1 ≠ place := by
        intro same
        have gone := dropped entry.2
        rw [← same, keep] at gone
        cases gone
      simp [keep, find?, other, ih]

/-- Below the root, nothing stands any more in the place that was erased. -/
@[simp] theorem node?_erase (t : FileTree) (name : Text) (above : Place) :
    (t.erase (name :: above)).node? (name :: above) = none := by
  simp [erase, node?, find?_filter_of_dropped]

/-- What is neither in the place nor below it is as it was. -/
theorem node?_erase_of_outside (t : FileTree) {place other : Place} (outside : ¬ place <:+ other) :
    (t.erase place).node? other = t.node? other := by
  have kept : place.isSuffixOf other = false := by
    rwa [← Bool.not_eq_true, List.isSuffixOf_iff_suffix]
  by_cases root : other = []
  · simp [node?, root]
  · simp [erase, node?, root, find?_filter_of_kept, kept]

/-- The number of links in a tree. -/
def linkCount (t : FileTree) : Nat :=
  t.nodes.countP fun entry => match entry.2 with
    | .link _ => true
    | _ => false

end FileTree

/-- The place that an absolute path names if no link is followed. -/
def Place.ofPath (p : Text) : Place := (Path.reduce true (Text.segments p)).reverse

end ImportResolution
