import ImportResolution.FileTree
import ImportResolution.Text.Utf8

/-!
Looking up paths in a file tree, component by component. A component is legal only after a
directory; two dots go to the directory above the one that was reached, links followed; and a link
is replaced by its target, at most forty times. The walk is cut into runs: a run goes on to the
next link or to the end, and it consumes its components one by one.
-/
namespace ImportResolution.FileTree

/-- Why a path leads nowhere. -/
inductive LookupFault where
  | missing
  | notDirectory
  | tooManyLinks
  | nameTooLong
  | embeddedNull
  deriving DecidableEq, Repr

/-- The greatest number of links that are followed for one path. -/
def linkLimit : Nat := 40

/-- The greatest number of octets of one component. -/
def nameLimit : Nat := 255

/-- The number of octets from which on a path is too long. -/
def pathLimit : Nat := 4096

/-- Where a run stops: at a node, with a fault, or before a link with the components after it. -/
inductive Stop where
  | arrived (place : Place) (node : Node)
  | failed (fault : LookupFault)
  | atLink (directory : Place) (target : Text) (rest : List Text)

/-- Goes from a place along components up to the next link that has to be followed. The last
component is followed only on request. -/
def run (t : FileTree) (follow : Bool) : Place → List Text → Stop
  | place, [] =>
    match t.node? place with
    | some node => .arrived place node
    | none => .failed .missing
  | place, name :: rest =>
    match t.node? place with
    | none => .failed .missing
    | some node =>
      if !node.isDirectory then .failed .notDirectory
      else if name = [] ∨ name = Path.here then run t follow place rest
      else if name = Path.up then run t follow place.tail rest
      else if nameLimit < Utf8.encodedLength name then .failed .nameTooLong
      else
        match t.node? (name :: place) with
        | none => .failed .missing
        | some (.link target) =>
          if rest = [] ∧ !follow then .arrived (name :: place) (.link target)
          else .atLink place target rest
        | some _ => run t follow (name :: place) rest

/-- Walks from a place along components with a given number of links still to be followed. -/
def walk (t : FileTree) (follow : Bool) :
    Nat → Place → List Text → Except LookupFault (Place × Node)
  | links, place, components =>
    match run t follow place components with
    | .arrived place node => .ok (place, node)
    | .failed fault => .error fault
    | .atLink directory target rest =>
      match links with
      | 0 => .error .tooManyLinks
      | links + 1 =>
        walk t follow links (if Path.isAbsolute target then [] else directory)
          (Text.segments target ++ rest)

theorem walk_of_arrived {t : FileTree} {follow : Bool} {here place : Place}
    {components : List Text} {node : Node}
    (ended : t.run follow here components = .arrived place node) (links : Nat) :
    t.walk follow links here components = .ok (place, node) := by
  unfold walk
  rw [ended]

theorem walk_of_failed {t : FileTree} {follow : Bool} {here : Place} {components : List Text}
    {fault : LookupFault} (ended : t.run follow here components = .failed fault) (links : Nat) :
    t.walk follow links here components = .error fault := by
  unfold walk
  rw [ended]

/-- Where two runs stop alike, it is at a link, or the walks end alike. -/
theorem link_or_walk_eq {t t' : FileTree} {follow follow' : Bool} {here : Place}
    {components : List Text} (same : t'.run follow' here components = t.run follow here components) :
    (∃ directory target rest, t.run follow here components = .atLink directory target rest) ∨
      ∀ links, t'.walk follow' links here components = t.walk follow links here components := by
  cases stop : t.run follow here components with
  | arrived place node =>
    refine .inr fun links => ?_
    rw [walk_of_arrived (same.trans stop), walk_of_arrived stop]
  | failed fault =>
    refine .inr fun links => ?_
    rw [walk_of_failed (same.trans stop), walk_of_failed stop]
  | atLink directory target rest => exact .inl ⟨directory, target, rest, rfl⟩

/-- Two walks end in related ways if from every place inside they stop at the same link, inside
again, or end in related ways. -/
theorem walk_rel {t t' : FileTree} {follow follow' : Bool}
    (R : Except LookupFault (Place × Node) → Except LookupFault (Place × Node) → Prop)
    (inside : Place → Prop) (root : inside [])
    (spent : R (.error .tooManyLinks) (.error .tooManyLinks))
    (runs : ∀ here components, inside here →
      (∃ directory target rest, t.run follow here components = .atLink directory target rest ∧
        t'.run follow' here components = .atLink directory target rest ∧ inside directory) ∨
      ∀ links, R (t.walk follow links here components) (t'.walk follow' links here components))
    (links : Nat) {here : Place} (start : inside here) (components : List Text) :
    R (t.walk follow links here components) (t'.walk follow' links here components) := by
  induction links generalizing here components with
  | zero =>
    rcases runs here components start with ⟨directory, target, rest, first, second, -⟩ | ended
    · unfold walk
      rw [first, second]
      exact spent
    · exact ended 0
  | succ links ih =>
    rcases runs here components start with ⟨directory, target, rest, first, second, inner⟩ | ended
    · -- both walks go on from the directory of the link or from the root
      have next : inside (if Path.isAbsolute target then [] else directory) := by
        split
        · exact root
        · exact inner
      unfold walk
      rw [first, second]
      exact ih next _
    · exact ended (links + 1)

/-- Looks up a path; a relative one starts at the place of the working directory, if there is
one. -/
def lookup (t : FileTree) (start? : Option Place) (follow : Bool) (p : Text) :
    Except LookupFault (Place × Node) :=
  if p.contains '\x00' then .error .embeddedNull
  else if p = [] then .error .missing
  else if pathLimit ≤ Utf8.encodedLength p then .error .nameTooLong
  else if Path.isAbsolute p then walk t follow linkLimit [] (Text.segments p)
  else match start? with
    | none => .error .missing
    | some start => walk t follow linkLimit start (Text.segments p)

end ImportResolution.FileTree
