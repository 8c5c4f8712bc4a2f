import ImportResolution.Path

/-!
Plain paths: paths without empty segments and single dots. Two dots are kept, since the directory
that they lead to depends on links.
-/
namespace ImportResolution

/-- A path as the slashes of its root and its segments. -/
structure PlainPath where
  slashes : Nat
  names : List Text
  deriving DecidableEq, Repr

namespace PlainPath

/-- The plain path that a text denotes. -/
def ofText (p : Text) : PlainPath :=
  { slashes := Path.rootSlashes p
    names := (Text.segments p).filter fun segment => segment ≠ [] ∧ segment ≠ Path.here }

/-- The text of a plain path; an empty one is the current directory. -/
def toText (p : PlainPath) : Text :=
  let text := List.replicate p.slashes '/' ++ Text.ofSegments p.names
  if text.isEmpty then Path.here else text

/-- The second path as seen from the first. -/
def join (p q : PlainPath) : PlainPath :=
  if q.slashes ≠ 0 then q else { p with names := p.names ++ q.names }

/-- All proper initial parts of a list of names, longest first. -/
def initialParts : List Text → List (List Text)
  | [] => []
  | name :: rest => (initialParts rest).map (name :: ·) ++ [[]]

/-- The directories above a path, nearest first. -/
def parents (p : PlainPath) : List PlainPath :=
  (initialParts p.names).map fun names => { p with names }

end PlainPath
end ImportResolution
