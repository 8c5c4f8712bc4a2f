import ImportResolution.Text

/-!
Paths as text. The operations here look at the characters of a path only and never at a file tree:
joining, taking apart, and normalizing, which drops empty segments and single dots and lets two
dots remove the segment before them.
-/
namespace ImportResolution.Path

/-- The segment that stays where it is. -/
def here : Text := ['.']

/-- The segment that goes to the directory above. -/
def up : Text := ['.', '.']

/-- Whether a path starts at the root. -/
def isAbsolute (p : Text) : Bool := p.head? == some '/'

/-- The second path as seen from the first: itself if it is absolute, and otherwise put behind the
first with one slash between them. -/
def join (p q : Text) : Text :=
  if isAbsolute q then q
  else if p.isEmpty || p.getLast? == some '/' then p ++ q
  else p ++ '/' :: q

/-- The number of slashes that mark the root of a path: none if it is relative, two if it starts
with exactly two, and one otherwise. -/
def rootSlashes : Text → Nat
  | '/' :: '/' :: '/' :: _ => 1
  | '/' :: '/' :: _ => 2
  | '/' :: _ => 1
  | _ => 0

/-- Adds a segment to the segments read so far, the last of which comes first. Two dots remove the
segment before them; at the root they vanish, and in a relative path with nothing left to remove
they stay. -/
def push (rooted : Bool) (stack : List Text) (segment : Text) : List Text :=
  if segment = [] ∨ segment = here then stack
  else if segment = up then
    match stack with
    | [] => if rooted then [] else [up]
    | last :: before => if last = up then up :: stack else before
  else segment :: stack

/-- Segments with empty ones, single dots and removed ones left out. -/
def reduce (rooted : Bool) (segments : List Text) : List Text :=
  (segments.foldl (push rooted) []).reverse

/-- The normal form of a path. The empty path is the current directory. -/
def normalize (p : Text) : Text :=
  let slashes := rootSlashes p
  let normal := List.replicate slashes '/'
    ++ Text.ofSegments (reduce (slashes ≠ 0) (Text.segments p))
  if normal.isEmpty then here else normal

/-- What comes after the last slash. -/
def basename (p : Text) : Text := (p.reverse.takeWhile (· ≠ '/')).reverse

/-- Everything up to the last slash, that slash included. -/
def upToSlash (p : Text) : Text := (p.reverse.dropWhile (· ≠ '/')).reverse

/-- Everything before the last segment, without the slashes between them unless nothing else is
left. -/
def dirname (p : Text) : Text :=
  let before := upToSlash p
  if before.all (· = '/') then before else Text.dropTrailingSlashes before

theorem length_upToSlash_le (p : Text) : (upToSlash p).length ≤ p.length := by
  have := (List.dropWhile_sublist (l := p.reverse) (fun c => decide (c ≠ '/'))).length_le
  simpa [upToSlash] using this

theorem length_dirname_le (p : Text) : (dirname p).length ≤ p.length := by
  refine Nat.le_trans ?_ (length_upToSlash_le p)
  unfold dirname
  simp only
  split
  · exact Nat.le_refl _
  · have := (List.dropWhile_sublist (l := (upToSlash p).reverse)
      (fun c => decide (c = '/'))).length_le
    simpa [Text.dropTrailingSlashes] using this

theorem upToSlash_eq_of_length {p : Text} (h : (upToSlash p).length = p.length) :
    upToSlash p = p := by
  have sub := List.dropWhile_sublist (l := p.reverse) (fun c => decide (c ≠ '/'))
  have : p.reverse.dropWhile (fun c => decide (c ≠ '/')) = p.reverse :=
    sub.eq_of_length (by simpa [upToSlash] using h)
  rw [upToSlash, this, List.reverse_reverse]

/-- A directory name as long as its path is the path itself. -/
theorem dirname_eq_of_length {p : Text} (h : (dirname p).length = p.length) : dirname p = p := by
  have up_le := length_upToSlash_le p
  unfold dirname at h ⊢
  simp only at h ⊢
  split at h <;> rename_i all
  · rw [if_pos all]
    exact upToSlash_eq_of_length h
  · rw [if_neg all]
    have sub := List.dropWhile_sublist (l := (upToSlash p).reverse) (fun c => decide (c = '/'))
    have le := sub.length_le
    have same : (Text.dropTrailingSlashes (upToSlash p)).length = (upToSlash p).length := by
      simp only [Text.dropTrailingSlashes, List.length_reverse] at h le ⊢
      omega
    have kept : (upToSlash p).reverse.dropWhile (fun c => decide (c = '/'))
        = (upToSlash p).reverse :=
      sub.eq_of_length (by simpa [Text.dropTrailingSlashes] using same)
    have : Text.dropTrailingSlashes (upToSlash p) = upToSlash p := by
      simp [Text.dropTrailingSlashes, kept]
    rw [this] at h ⊢
    exact upToSlash_eq_of_length h

theorem length_dirname_lt {p : Text} (h : dirname p ≠ p) : (dirname p).length < p.length := by
  have := length_dirname_le p
  rcases Nat.lt_or_ge (dirname p).length p.length with lt | ge
  · exact lt
  · exact absurd (dirname_eq_of_length (Nat.le_antisymm this ge)) h

/-- A path and the directories above it, nearest first, as far as taking the directory name changes
anything. -/
def ancestors (p : Text) : List Text :=
  if dirname p = p then [p] else p :: ancestors (dirname p)
termination_by p.length
decreasing_by exact length_dirname_lt ‹_›

end ImportResolution.Path
