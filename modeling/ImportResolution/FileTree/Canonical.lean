import ImportResolution.Path

/-!
Canonical paths: links resolved component by component, with what does not exist kept as it is.
The algorithm asks only one question about the tree, which path names a link and to what target.
A link that is met again while it is being resolved leads back to itself; there the resolution
stops, and the rest of the path is put behind the link as text.
-/
namespace ImportResolution.Canonical

/-- Links met so far, by the path under which they were met: resolved to a path, or still being
resolved. -/
abbrev Seen := List (Text × Option Text)

/-- Where a path stops that goes along components: at its end, at a link that leads back to
itself, or at a link met for the first time. -/
inductive Stop where
  | ended (path : Text)
  | loops (path : Text)
  | atLink (directory link target : Text) (rest : List Text)

/-- The directory above a path, where two dots that could not be resolved are kept. -/
def parent (path : Text) : Text :=
  if path = [] then Path.up
  else if Path.basename path = Path.up then
    Path.join (Path.join (Path.dirname path) Path.up) Path.up
  else Path.dirname path

/-- Goes along components up to the next link that is met for the first time. -/
def run (target? : Text → Option Text) (seen : Seen) : Text → List Text → Stop
  | path, [] => .ended path
  | path, name :: rest =>
    if name = [] ∨ name = Path.here then run target? seen path rest
    else if name = Path.up then run target? seen (parent path) rest
    else
      let next := Path.join path name
      match target? next with
      | none => run target? seen next rest
      | some target =>
        match seen.lookup next with
        | some (some resolved) => run target? seen resolved rest
        | some none => .loops (Path.join next (Text.ofSegments rest))
        | none => .atLink path next target rest

/-- The outcome of a resolution: a path, or the text at which a loop ended it. -/
inductive Outcome where
  | resolved (path : Text) (seen : Seen)
  | looping (path : Text)

/-- Resolves components from a path on. The first argument bounds the number of links. -/
def resolveFrom (target? : Text → Option Text) : Nat → Seen → Text → List Text → Outcome
  | links, seen, path, components =>
    match run target? seen path components with
    | .ended path => .resolved path seen
    | .loops path => .looping path
    | .atLink directory link target rest =>
      match links with
      | 0 => .looping (Path.join link (Text.ofSegments rest))
      | links + 1 =>
        let start := if Path.isAbsolute target then ['/'] else directory
        match resolveFrom target? links ((link, none) :: seen) start (Text.segments target) with
        | .looping path => .looping (Path.join path (Text.ofSegments rest))
        | .resolved path seen =>
          resolveFrom target? links ((link, some path) :: seen) path rest

/-- The canonical form of a path, absolute if the path is. `links` is the number of links there
are. -/
def resolve (target? : Text → Option Text) (links : Nat) (p : Text) : Text :=
  let start := if Path.isAbsolute p then ['/'] else []
  match resolveFrom target? links [] start (Text.segments p) with
  | .resolved path _ => path
  | .looping path => path

/-- Whether there is no room for the links that are followed inside one another when components are
resolved from a path on. A link takes its room only until its target is resolved. -/
def overflowsFrom (target? : Text → Option Text) : Nat → Nat → Seen → Text → List Text → Bool
  | links, room, seen, path, components =>
    match run target? seen path components with
    | .ended _ => false
    | .loops _ => false
    | .atLink directory link target rest =>
      match links, room with
      | 0, _ => false
      | _ + 1, 0 => true
      | links + 1, room + 1 =>
        let start := if Path.isAbsolute target then ['/'] else directory
        overflowsFrom target? links room ((link, none) :: seen) start (Text.segments target) ||
          match resolveFrom target? links ((link, none) :: seen) start (Text.segments target) with
          | .looping _ => false
          | .resolved path seen =>
            overflowsFrom target? links (room + 1) ((link, some path) :: seen) path rest

/-- Whether there is no room for the links that are followed inside one another when a path is
resolved. -/
def overflows (target? : Text → Option Text) (links room : Nat) (p : Text) : Bool :=
  let start := if Path.isAbsolute p then ['/'] else []
  overflowsFrom target? links room [] start (Text.segments p)

end ImportResolution.Canonical
