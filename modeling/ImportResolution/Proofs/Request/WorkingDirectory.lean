import ImportResolution.Proofs.Module.WorkingDirectory
import ImportResolution.Proofs.Request.InEffect

/-! Requests from elsewhere. If the root and the importing file of a request are absolute, then the
working directory has no part in the discovery of a configuration, and it has one in the search only
where a configuration lists extra paths that are not absolute. -/
namespace ImportResolution

namespace Configuration

variable {h other : Host} {fileName start : Text} {directory : PlainPath}
  {directories : List PlainPath}

theorem fromFile_elsewhere (same : h.Elsewhere other) (rooted : directory.slashes ≠ 0)
    (fileName : Text) : fromFile other directory fileName = fromFile h directory fileName := by
  have absolute := PlainPath.isAbsolute_toText_join rooted (.ofText fileName)
  simp only [fromFile, Host.hasFile_elsewhere same absolute, Host.readRelaxed_elsewhere same absolute]

theorem fromManifest_elsewhere (same : h.Elsewhere other) (rooted : directory.slashes ≠ 0) :
    fromManifest other directory = fromManifest h directory := by
  have absolute := PlainPath.isAbsolute_toText_join rooted (.ofText manifestName)
  simp only [fromManifest, Host.hasFile_elsewhere same absolute, Host.readJson_elsewhere same absolute]

theorem ofDirectory_elsewhere (same : h.Elsewhere other) (rooted : directory.slashes ≠ 0)
    (fileName : Text) : ofDirectory other directory fileName = ofDirectory h directory fileName := by
  simp only [ofDirectory, inEffect, fromFile_elsewhere same rooted, fromManifest_elsewhere same rooted]

theorem discoverIn_elsewhere (same : h.Elsewhere other) (fileName start : Text)
    (rooted : ∀ directory ∈ directories, directory.slashes ≠ 0) :
    discoverIn other fileName start directories = discoverIn h fileName start directories := by
  induction directories with
  | nil => rfl
  | cons directory rest ih =>
    obtain ⟨first, others⟩ := List.forall_mem_cons.mp rooted
    simp only [discoverIn, ofDirectory_elsewhere same first, ih others]

/-- Discovery from an absolute path finds the same from everywhere. -/
theorem discover_elsewhere (same : h.Elsewhere other) (rooted : h.Rooted)
    (absolute : Path.isAbsolute start = true) (fileName : Text) :
    discover other (some start) fileName = discover h (some start) fileName := by
  unfold discover
  rw [Host.startingPoint_elsewhere same absolute]
  cases started : h.startingPoint (some start) with
  | error fault => rfl
  | ok place =>
    refine discoverIn_elsewhere same fileName _ ?_
    intro directory member
    rw [slashes_of_mem_asked member]
    exact Path.isAbsolute_iff_rootSlashes.mp (Host.isAbsolute_startingPoint rooted started)

end Configuration

namespace Request

open ImportResolution.Configuration

/-- A request whose root and importing file are given as absolute paths. -/
structure Placed (request : Request) : Prop where
  file : Path.isAbsolute request.file = true
  root : ∃ root, request.root? = some root ∧ Path.isAbsolute root = true

variable {h other : Host} {request : Request}

/-- The aliases in effect are the same from everywhere. -/
theorem aliases_elsewhere (same : h.Elsewhere other) (rooted : h.Rooted)
    (placed : request.Placed) : request.aliases other = request.aliases h := by
  obtain ⟨root, given, absolute⟩ := placed.root
  unfold aliases
  rw [given, Host.rootOf_elsewhere same absolute]
  refine Except.bind_congr ?_
  intro start located
  rw [discover_elsewhere same rooted (Host.isAbsolute_rootOf rooted located)]

/-- A request whose root and importing file are absolute is under the same aliases from everywhere,
and it is answered, or refused, alike as long as the extra paths that are searched for it are
absolute. -/
theorem answered_alike_elsewhere (same : h.Elsewhere other) (rooted : h.Rooted)
    (placed : request.Placed) :
    request.aliases other = request.aliases h ∧
    ((∀ inEffect, request.aliases h = .ok inEffect →
        Module.PathsPlaced (request.applied inEffect).specifier
          (request.applied inEffect).options) →
      (resolve other request).outcome = (resolve h request).outcome) := by
  have listed := aliases_elsewhere same rooted placed
  refine ⟨listed, ?_⟩
  intro extra
  rw [outcome_resolve, outcome_resolve, listed]
  refine Except.bind_congr ?_
  intro inEffect known
  rw [Module.resolve_elsewhere same rooted placed.file (extra inEffect known)]

/-- A project with a directory of shared files, which its configuration names without saying where
it is, and an empty directory beside the project. -/
def sharing (directory? : Option Text) : Host :=
  ⟨⟨[(Place.ofPath "/p/lib/x.js".toList, .file (.text [])),
    (Place.ofPath "/p/lib".toList, .directory),
    (Place.ofPath "/p/.babelrc".toList,
      .file (.text "\x7bplugins: [['root-import', \x7bpaths: 'lib'\x7d]]\x7d".toList)),
    (Place.ofPath "/p".toList, .directory),
    (Place.ofPath "/q".toList, .directory)]⟩, directory?, .usual⟩

theorem elsewhere_sharing (here? there? : Option Text) :
    (sharing there?).Elsewhere (sharing here?) :=
  ⟨rfl, rfl⟩

theorem rooted_sharing {directory : Text} (absolute : Path.isAbsolute directory = true) :
    (sharing (some directory)).Rooted := by
  intro other existing
  cases existing
  exact absolute

/-- The members of an entry that names that directory by an absolute path. -/
def placedPaths : List (Text × Json) :=
  [("extensions".toList, .str ".js".toList), ("paths".toList, .str "/p/lib".toList)]

/-- A request for a shared file under that entry. -/
def underPlacedPaths : Request :=
  ⟨"x".toList, "/a.js".toList, .arr [.obj placedPaths], [], some "/p".toList⟩

theorem aliases_underPlacedPaths :
    underPlacedPaths.aliases (sharing (some "/q".toList))
      = .ok ⟨[AliasEntry.ofMembers placedPaths], "/p".toList⟩ := by
  have located : (sharing (some "/q".toList)).rootOf (some "/p".toList) = .ok "/p".toList := by
    decide +kernel
  unfold aliases underPlacedPaths
  rw [located]
  rfl

theorem pathsPlaced_placedPaths (specifier : Text) : Module.PathsPlaced specifier placedPaths := by
  intro _ _ _ options accepted path listed
  have set : Module.Settings.SetBy
      ⟨[".js".toList], [Module.Options.defaultModuleDirectory], ["/p/lib".toList]⟩ placedPaths :=
    ⟨.one _ (by decide), .absent, .one _ (by decide)⟩
  rw [Module.ofMembers_of_setBy set] at accepted
  cases accepted
  obtain rfl : path = "/p/lib".toList := by simpa [Module.Settings.toOptions] using listed
  rfl

/-- The file is found by that path where the working directory has been removed, as it is from the
directory beside the project. -/
theorem answered_alike_elsewhere_removed :
    underPlacedPaths.Placed ∧
      (resolve (sharing none) underPlacedPaths).outcome
        = (resolve (sharing (some "/q".toList)) underPlacedPaths).outcome ∧
      (resolve (sharing none) underPlacedPaths).outcome
        = .ok ⟨.file "/p/lib/x.js".toList, .package,
            ["/node_modules/x".toList, "/node_modules/x.js".toList, "/p/lib/x".toList,
              "/p/lib/x.js".toList]⟩ := by
  have placed : underPlacedPaths.Placed := ⟨by decide, "/p".toList, rfl, by decide⟩
  obtain ⟨-, alike⟩ := answered_alike_elsewhere (elsewhere_sharing none (some "/q".toList))
    (rooted_sharing (by decide)) placed
  refine ⟨placed, alike ?_, by decide +kernel⟩
  intro inEffect listed
  obtain rfl := Except.ok.inj (listed.symm.trans aliases_underPlacedPaths)
  have applied : (underPlacedPaths.applied
      ⟨[AliasEntry.ofMembers placedPaths], "/p".toList⟩).options = placedPaths :=
    rfl
  rw [applied]
  exact pathsPlaced_placedPaths _

/-- A request for a shared file under the configuration of the project. -/
def underProject : Request :=
  ⟨"x".toList, "/a.js".toList, .null, defaultFileName, some "/p".toList⟩

/-- Where the configuration of a project names a directory without saying where it is, the answer
depends on the working directory, although the root and the importing file are absolute. -/
theorem relative_paths_not_alike :
    ¬ ∀ (h other : Host) (request : Request), h.Elsewhere other → h.Rooted → other.Rooted →
      request.Placed → (resolve other request).outcome = (resolve h request).outcome := by
  intro alike
  have same := alike (sharing (some "/p".toList)) (sharing (some "/q".toList)) underProject
    (elsewhere_sharing _ _) (rooted_sharing (by decide)) (rooted_sharing (by decide))
    ⟨by decide, "/p".toList, rfl, by decide⟩
  have inside :
      (resolve (sharing (some "/p".toList)) underProject).outcome.map (·.found) = .ok true := by
    decide +kernel
  have beside :
      (resolve (sharing (some "/q".toList)) underProject).outcome.map (·.found) = .ok false := by
    decide +kernel
  rw [same, inside] at beside
  cases beside

end Request
end ImportResolution
