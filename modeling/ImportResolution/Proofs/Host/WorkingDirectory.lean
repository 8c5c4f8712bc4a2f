import ImportResolution.Proofs.FileTree.LinkFree
import ImportResolution.Proofs.Host.Root

/-! The working directory. Hosts with one tree differ in their working directories only, and they
tell the same of every absolute path: what it names, what can be read there, and what its canonical
form is. Resolving links of an absolute path asks about absolute paths alone. -/
namespace ImportResolution

namespace Canonical

variable {target? other? : Text → Option Text} {path : Text} {seen : Seen}

theorem isAbsolute_parent (absolute : Path.isAbsolute path = true) :
    Path.isAbsolute (parent path) = true := by
  unfold parent
  split
  · rename_i empty
    rw [empty] at absolute
    cases absolute
  · split
    · exact Path.isAbsolute_join (Path.isAbsolute_join (Path.isAbsolute_dirname absolute) _) _
    · exact Path.isAbsolute_dirname absolute

/-- Links that have been resolved are remembered with absolute paths. -/
def SeenAbsolute (seen : Seen) : Prop :=
  ∀ link path, seen.lookup link = some (some path) → Path.isAbsolute path = true

theorem seenAbsolute_nil : SeenAbsolute [] := by simp [SeenAbsolute]

theorem seenAbsolute_pending (known : SeenAbsolute seen) (link : Text) :
    SeenAbsolute ((link, none) :: seen) :=
  remembered_cons known link nofun

theorem seenAbsolute_resolved (known : SeenAbsolute seen) (link : Text)
    (absolute : Path.isAbsolute path = true) : SeenAbsolute ((link, some path) :: seen) := by
  refine remembered_cons known link ?_
  rintro _ ⟨⟩
  exact absolute

/-- The path that a target is resolved from. -/
theorem isAbsolute_start {directory : Text} (absolute : Path.isAbsolute directory = true)
    (target : Text) :
    Path.isAbsolute (if Path.isAbsolute target then ['/'] else directory) = true := by
  split
  · rfl
  · exact absolute

/-- A run that stops at an absolute path. -/
def Stop.Absolute : Stop → Prop
  | .ended path => Path.isAbsolute path = true
  | .loops path => Path.isAbsolute path = true
  | .atLink directory link _ _ =>
    Path.isAbsolute directory = true ∧ Path.isAbsolute link = true

/-- A resolution that leads to an absolute path and remembers no others. -/
def Outcome.Absolute : Outcome → Prop
  | .resolved path seen => Path.isAbsolute path = true ∧ SeenAbsolute seen
  | .looping path => Path.isAbsolute path = true

/-- From an absolute path, a run asks about absolute paths only, and stops at one. -/
theorem run_agrees (agree : ∀ path, Path.isAbsolute path = true → other? path = target? path)
    (known : SeenAbsolute seen) (absolute : Path.isAbsolute path = true) (components : List Text) :
    run other? seen path components = run target? seen path components ∧
      (run target? seen path components).Absolute := by
  -- the path gone so far stays absolute, whether by a name, by two dots or by a resolved link
  induction components generalizing path with
  | nil => exact ⟨rfl, absolute⟩
  | cons name rest ih =>
    have below := Path.isAbsolute_join absolute name
    unfold run
    split
    · exact ih absolute
    · split
      · exact ih (isAbsolute_parent absolute)
      · simp only [agree _ below]
        cases asked : target? (Path.join path name) with
        | none => exact ih below
        | some target =>
          cases met : seen.lookup (Path.join path name) with
          | none => exact ⟨rfl, absolute, below⟩
          | some before =>
            cases before with
            | none => exact ⟨rfl, Path.isAbsolute_join below _⟩
            | some resolved => exact ih (known _ _ met)

/-- So both stop alike. -/
theorem stops_alike {components : List Text} {stop : Stop}
    (agree : ∀ path, Path.isAbsolute path = true → other? path = target? path)
    (known : SeenAbsolute seen) (absolute : Path.isAbsolute path = true)
    (stopped : run target? seen path components = stop) :
    run other? seen path components = stop ∧ stop.Absolute :=
  stopped ▸ run_agrees agree known absolute components

theorem resolveFrom_agrees (links : Nat)
    (agree : ∀ path, Path.isAbsolute path = true → other? path = target? path)
    (known : SeenAbsolute seen) (absolute : Path.isAbsolute path = true) (components : List Text) :
    resolveFrom other? links seen path components = resolveFrom target? links seen path components ∧
      (resolveFrom target? links seen path components).Absolute := by
  -- both resolve the target of a link first, and alike, so they go on behind it from one path
  fun_induction resolveFrom target? links seen path components with
  | case1 links seen path components ended stopped =>
    obtain ⟨same, stops⟩ := stops_alike agree known absolute stopped
    rw [resolveFrom, same]
    exact ⟨rfl, stops, known⟩
  | case2 links seen path components looped stopped =>
    obtain ⟨same, stops⟩ := stops_alike agree known absolute stopped
    rw [resolveFrom, same]
    exact ⟨rfl, stops⟩
  | case3 seen path components directory link target rest stopped =>
    obtain ⟨same, stops⟩ := stops_alike agree known absolute stopped
    rw [resolveFrom, same]
    exact ⟨rfl, Path.isAbsolute_join stops.2 _⟩
  | case4 seen path components directory link target rest stopped links start looped followed ih =>
    obtain ⟨same, stops⟩ := stops_alike agree known absolute stopped
    obtain ⟨alike, inner⟩ :=
      ih (seenAbsolute_pending known link) (isAbsolute_start stops.1 target)
    rw [followed] at alike inner
    unfold start at alike
    rw [resolveFrom, same]
    simp only [alike]
    exact ⟨trivial, Path.isAbsolute_join inner _⟩
  | case5 seen path components directory link target rest stopped links start reached seen'
      followed ih ih' =>
    obtain ⟨same, stops⟩ := stops_alike agree known absolute stopped
    obtain ⟨alike, inner⟩ :=
      ih (seenAbsolute_pending known link) (isAbsolute_start stops.1 target)
    rw [followed] at alike inner
    unfold start at alike
    rw [resolveFrom, same]
    simp only [alike]
    exact ih' (seenAbsolute_resolved inner.2 link inner.1) inner.1

theorem overflowsFrom_agrees (links room : Nat)
    (agree : ∀ path, Path.isAbsolute path = true → other? path = target? path)
    (known : SeenAbsolute seen) (absolute : Path.isAbsolute path = true) (components : List Text) :
    overflowsFrom other? links room seen path components
      = overflowsFrom target? links room seen path components := by
  induction links generalizing room seen path components with
  | zero =>
    simp only [overflowsFrom.eq_def _ 0, (run_agrees agree known absolute components).1]
  | succ links ih =>
    obtain ⟨same, stops⟩ := run_agrees agree known absolute components
    simp only [overflowsFrom.eq_def _ (links + 1), same]
    cases stopped : run target? seen path components with
    | ended path => rfl
    | loops path => rfl
    | atLink directory link target rest =>
      rw [stopped] at stops
      cases room with
      | zero => rfl
      | succ room =>
        have pending := seenAbsolute_pending known link
        have started := isAbsolute_start stops.1 target
        obtain ⟨alike, inner⟩ :=
          resolveFrom_agrees links agree pending started (Text.segments target)
        simp only [ih room pending started, alike]
        congr 1
        cases followed : resolveFrom target? links ((link, none) :: seen)
            (if Path.isAbsolute target then ['/'] else directory) (Text.segments target) with
        | looping path => rfl
        | resolved path seen =>
          rw [followed] at inner
          exact ih (room + 1) (seenAbsolute_resolved inner.2 link inner.1) inner.1 rest

/-- The links of an absolute path take the same room. -/
theorem overflows_agrees (links room : Nat)
    (agree : ∀ path, Path.isAbsolute path = true → other? path = target? path)
    (absolute : Path.isAbsolute path = true) :
    overflows other? links room path = overflows target? links room path := by
  simp only [overflows, absolute, if_true]
  exact overflowsFrom_agrees links room agree seenAbsolute_nil rfl _

/-- An absolute path is resolved alike wherever the links under absolute paths are the same, and to
an absolute path. -/
theorem resolve_agrees (links : Nat)
    (agree : ∀ path, Path.isAbsolute path = true → other? path = target? path)
    (absolute : Path.isAbsolute path = true) :
    resolve other? links path = resolve target? links path ∧
      Path.isAbsolute (resolve target? links path) = true := by
  have root : Path.isAbsolute ['/'] = true := rfl
  obtain ⟨same, reached⟩ :=
    resolveFrom_agrees links agree seenAbsolute_nil root (Text.segments path)
  simp only [resolve, absolute, if_true, same]
  cases ended : resolveFrom target? links [] ['/'] (Text.segments path) with
  | resolved path seen =>
    rw [ended] at reached
    exact ⟨trivial, reached.1⟩
  | looping path =>
    rw [ended] at reached
    exact ⟨trivial, reached⟩

end Canonical

namespace Host

variable {h other : Host} {p : Text}

/-- Another host is the same one with another working directory. -/
structure Elsewhere (h other : Host) : Prop where
  tree : other.tree = h.tree
  room : other.room = h.room

theorem lookup_elsewhere (same : h.Elsewhere other) (absolute : Path.isAbsolute p = true)
    (follow : Bool) : other.lookup follow p = h.lookup follow p := by
  simp only [lookup, FileTree.lookup, same.tree, absolute, if_true]

theorem isFile_elsewhere (same : h.Elsewhere other) (absolute : Path.isAbsolute p = true) :
    other.isFile p = h.isFile p := by
  simp only [isFile, lookup_elsewhere same absolute]

theorem isDirectory_elsewhere (same : h.Elsewhere other) (absolute : Path.isAbsolute p = true) :
    other.isDirectory p = h.isDirectory p := by
  simp only [isDirectory, lookup_elsewhere same absolute]

theorem hasFile_elsewhere (same : h.Elsewhere other) (absolute : Path.isAbsolute p = true) :
    other.hasFile p = h.hasFile p := by
  simp only [hasFile, lookup_elsewhere same absolute]

theorem linkTarget?_elsewhere (same : h.Elsewhere other) (absolute : Path.isAbsolute p = true) :
    other.linkTarget? p = h.linkTarget? p := by
  simp only [linkTarget?, lookup_elsewhere same absolute]

theorem readText_elsewhere (same : h.Elsewhere other) (absolute : Path.isAbsolute p = true) :
    other.readText p = h.readText p := by
  simp only [readText, lookup_elsewhere same absolute]

theorem readJson_elsewhere (same : h.Elsewhere other) (absolute : Path.isAbsolute p = true) :
    other.readJson p = h.readJson p := by
  simp only [readJson, readText_elsewhere same absolute, same.room]

theorem readRelaxed_elsewhere (same : h.Elsewhere other) (absolute : Path.isAbsolute p = true) :
    other.readRelaxed p = h.readRelaxed p := by
  simp only [readRelaxed, readText_elsewhere same absolute, same.room]

/-- The canonical form of an absolute path is the same from everywhere. -/
theorem canonical_elsewhere (same : h.Elsewhere other) (absolute : Path.isAbsolute p = true) :
    other.canonical p = h.canonical p := by
  have plain : Path.isAbsolute (PlainPath.ofText p).toText = true :=
    PlainPath.isAbsolute_toText (Path.isAbsolute_iff_rootSlashes.mp absolute)
  have limit : other.resolutionLimit = h.resolutionLimit := by simp only [resolutionLimit, same.tree]
  obtain ⟨agrees, placed⟩ := Canonical.resolve_agrees h.resolutionLimit
    (fun _ => linkTarget?_elsewhere same) plain
  have spacious := Canonical.overflows_agrees h.resolutionLimit h.room.links
    (fun _ => linkTarget?_elsewhere same) plain
  simp only [canonical, limit, same.room, spacious, agrees, absolute_of_isAbsolute _ placed,
    lookup_elsewhere same (Path.isAbsolute_normalize placed)]

/-- A start that is given as an absolute path is the same from everywhere. -/
theorem startingPoint_elsewhere (same : h.Elsewhere other) (absolute : Path.isAbsolute p = true) :
    other.startingPoint (some p) = h.startingPoint (some p) := by
  cases p with
  | nil => cases absolute
  | cons c p => exact canonical_elsewhere same absolute

/-- So is the root of a request that gives one as an absolute path. -/
theorem rootOf_elsewhere (same : h.Elsewhere other) (absolute : Path.isAbsolute p = true) :
    other.rootOf (some p) = h.rootOf (some p) := by
  simp only [rootOf, startingPoint_elsewhere same absolute]

end Host
end ImportResolution
