import ImportResolution.Proofs.Module.Probed
import ImportResolution.Proofs.Module.WellFormed
import ImportResolution.Proofs.Path.Tidy

/-! Fixed points of resolution. A path that was found is itself a specifier, and resolving it gives
the same path at once if the path is normal. It is whenever its target is, and the targets of
specifiers that are absolute, relative or tidy are. -/
namespace ImportResolution

namespace PlainPath

variable {p : PlainPath} {slashes : Nat} {names : List Text}

/-- Whatever consists of names lies below its root. -/
theorem below_root (rooted : p.slashes ≠ 0) (plain : ∀ name ∈ p.names, Path.IsName name)
    (some : p.names ≠ []) : Path.Below (⟨p.slashes, []⟩ : PlainPath).toText p.toText := by
  refine ⟨p.names, some, plain, ?_⟩
  have root : ∀ name ∈ (⟨p.slashes, []⟩ : PlainPath).names, Path.IsName name := by simp
  exact (descend_toText (p := ⟨p.slashes, []⟩) rooted root plain).symm

theorem normalize_descend_root (rooted : slashes ≠ 0) (few : slashes ≤ 2)
    (valid : ∀ name ∈ names, Path.IsName name) :
    Path.normalize (Path.descend (⟨slashes, []⟩ : PlainPath).toText names)
      = Path.descend (⟨slashes, []⟩ : PlainPath).toText names := by
  have root : ∀ name ∈ (⟨slashes, []⟩ : PlainPath).names, Path.IsName name := by simp
  exact Path.normalize_descend (isAbsolute_toText rooted) (normalize_toText few root) valid

end PlainPath

namespace Host

variable {h : Host} {p path ending : Text} {slashes : Nat}

/-- Dots behind the root lead to the root, which is no file. -/
theorem isFile_root_dots (h : Host) (dots : p = Path.here ∨ p = Path.up) (rooted : slashes ≠ 0)
    (few : slashes ≤ 2) : h.isFile (List.replicate slashes '/' ++ p) = false := by
  obtain rfl | rfl : slashes = 1 ∨ slashes = 2 := by omega
  · rcases dots with rfl | rfl <;> rfl
  · rcases dots with rfl | rfl <;> rfl

/-- A file whose path is a normal path with an ending has a normal path. -/
theorem normalize_append_of_isFile (absolute : Path.isAbsolute p = true)
    (normal : Path.normalize p = p) (whole : '/' ∉ ending) (held : h.isFile (p ++ ending) = true) :
    Path.normalize (p ++ ending) = p ++ ending := by
  have rooted : (PlainPath.ofText p).slashes ≠ 0 := Path.isAbsolute_iff_rootSlashes.mp absolute
  have few : (PlainPath.ofText p).slashes ≤ 2 := Path.rootSlashes_le p
  have plain := PlainPath.names_of_normal absolute normal
  have written := PlainPath.toText_of_normal absolute normal
  -- at the root an ending is a name of its own, or dots that lead nowhere
  by_cases top : (PlainPath.ofText p).names = []
  · by_cases empty : ending = []
    · rwa [empty, List.append_nil]
    · by_cases dots : ending = Path.here ∨ ending = Path.up
      · rw [← written, PlainPath.toText_root rooted top, isFile_root_dots h dots rooted few] at held
        cases held
      · obtain ⟨moves, stays⟩ := not_or.mp dots
        have valid : Path.IsName ending := ⟨empty, moves, stays, whole⟩
        rw [← written, ← PlainPath.toText_child_root rooted top]
        refine PlainPath.normalize_toText few ?_
        exact List.forall_mem_append.mpr ⟨plain, by simpa using valid⟩
  · obtain ⟨names, -, valid, same⟩ :=
      Path.below_append (PlainPath.below_root rooted plain top) whole
    rw [← written, same]
    exact PlainPath.normalize_descend_root rooted few valid

end Host

namespace Module

variable {h : Host} {options : Options} {extensions : List Json} {members : List (Text × Json)}
  {target start directory specifier file other path : Text} {answer : Resolution}

/-- A specifier that has normal targets only: it is absolute or relative, or it and the names of the
module directories are tidy. -/
def WrittenTidily (options : Options) (specifier : Text) : Prop :=
  Path.isAbsolute specifier = true ∨ isRelative specifier = true ∨
    Path.Tidy specifier ∧ ∀ name, .str name ∈ options.moduleDirectories → Path.Tidy name

/-! ### Normal paths -/

theorem normal_of_isTarget (rooted : h.Rooted) (absolute : Path.isAbsolute directory = true)
    (normal : Path.normalize directory = directory) (written : WrittenTidily options specifier)
    (isTarget : IsTarget h options specifier directory target) :
    Path.normalize target = target := by
  cases isTarget with
  | absolute placed => exact Path.normalize_normalize placed
  | relative placed => exact Path.normalize_normalize (Path.isAbsolute_join absolute specifier)
  | package unplaced unrelated searched =>
    obtain ⟨tidy, names⟩ : Path.Tidy specifier ∧
        ∀ name, .str name ∈ options.moduleDirectories → Path.Tidy name := by
      rcases written with placed | related | tidy
      · simp [placed] at unplaced
      · simp [related] at unrelated
      · exact tidy
    cases searched with
    | level above listed =>
      have placed := Path.isAbsolute_ancestors absolute _ above
      have settled := Path.normalize_of_mem_ancestors absolute normal above
      exact Path.normalize_join_tidy (Path.isAbsolute_join placed _)
        (Path.normalize_join_tidy placed settled (names _ listed)) tidy
    | extra listed made =>
      exact Path.normalize_join_tidy (Host.isAbsolute_absolute rooted made)
        (Host.normalize_absolute rooted made) tidy

theorem isAbsolute_of_isTarget (rooted : h.Rooted) (absolute : Path.isAbsolute directory = true)
    (isTarget : IsTarget h options specifier directory target) : Path.isAbsolute target = true := by
  cases isTarget with
  | absolute placed => exact Path.isAbsolute_normalize placed
  | relative placed => exact Path.isAbsolute_normalize (Path.isAbsolute_join absolute specifier)
  | package unplaced unrelated searched =>
    exact Path.isAbsolute_join (isAbsolute_of_searched rooted absolute searched) specifier

theorem tidy_indexName : Path.Tidy indexName := by decide

/-- All that a search for a normal target starts from is normal. -/
theorem normal_of_start (absolute : Path.isAbsolute target = true)
    (normal : Path.normalize target = target) (starts : Start h extensions target start) :
    Path.isAbsolute start = true ∧ Path.normalize start = start := by
  have index {directory : Text} (absolute : Path.isAbsolute directory = true)
      (normal : Path.normalize directory = directory) :
      Path.isAbsolute (Path.join directory indexName) = true ∧
        Path.normalize (Path.join directory indexName) = Path.join directory indexName :=
    ⟨Path.isAbsolute_join absolute _, Path.normalize_join_tidy absolute normal tidy_indexName⟩
  have main (name : Text) : Path.isAbsolute (Path.normalize (Path.join target name)) = true ∧
      Path.normalize (Path.normalize (Path.join target name))
        = Path.normalize (Path.join target name) :=
    ⟨Path.isAbsolute_normalize (Path.isAbsolute_join absolute name),
      Path.normalize_normalize (Path.isAbsolute_join absolute name)⟩
  cases starts with
  | itself => exact ⟨absolute, normal⟩
  | index => exact index absolute normal
  | main read => exact main _
  | mainIndex read => exact index (main _).1 (main _).2

/-- Loading a normal target finds a normal path, as long as the endings name no directories. -/
theorem normal_of_load (absolute : Path.isAbsolute target = true)
    (normal : Path.normalize target = target)
    (whole : ∀ ending, .str ending ∈ extensions → '/' ∉ ending)
    (hit : (load h extensions target).verdict = .hit path) : Path.normalize path = path := by
  obtain ⟨held, earlier, last, -⟩ := (sound_load extensions absolute).hit path hit
  have probed : path ∈ (load h extensions target).candidates := by simp [last]
  obtain ⟨start, starts, ended⟩ := ended_of_load probed
  obtain ⟨placed, settled⟩ := normal_of_start absolute normal starts
  cases ended with
  | bare => exact settled
  | ending listed => exact Host.normalize_append_of_isFile placed settled (whole _ listed) held

/-! ### Found paths as specifiers -/

/-- The target itself is probed first. -/
theorem head?_candidates_load (h : Host) (extensions : List Json) (target : Text) :
    (load h extensions target).candidates.head? = some target := by
  cases held : h.isFile target <;> simp [load, loadFile, probe, held, Trail.orElse]
  split <;> simp

theorem load_of_isFile (held : h.isFile target = true) :
    load h extensions target = ⟨.hit target, [target], []⟩ := by
  simp [load, loadFile, probe, held, Trail.orElse]

/-- The path of a file means itself, at once, if and only if it is normal. -/
theorem resolve_self_iff (accepted : Options.ofMembers members = .ok options)
    (placed : Path.isAbsolute path = true) (held : h.isFile path = true)
    (absolute : Path.isAbsolute other = true) :
    (resolve h path other members).outcome = .ok ⟨.file path, .absolute, [path]⟩ ↔
      Path.normalize path = path := by
  constructor
  · intro again
    -- the first path probed is the normal form, and there is only one
    rcases answer_of_absolute placed accepted again with missing | loaded
    · cases missing
    · have candidates := candidates_of_resolution loaded
      have first := head?_candidates_load h options.extensions (Path.normalize path)
      rw [← candidates] at first
      simpa using first.symm
  · intro normal
    rw [resolve_absolute placed absolute, normal]
    simp only [loaded, accepted, load_of_isFile held]
    rfl

/-- A path that was found resolves to itself, with no other path probed, if and only if it is
normal; and it is if the specifier is absolute, relative or tidy and the endings name no
directories. -/
theorem resolve_found_iff_normal (rooted : h.Rooted) (absolute : Path.isAbsolute other = true)
    (answered : (resolve h specifier file members).outcome = .ok answer)
    (named : answer.path? = some path) :
    ((resolve h path other members).outcome = .ok ⟨.file path, .absolute, [path]⟩ ↔
      Path.normalize path = path) ∧
    ∀ options, Options.ofMembers members = .ok options → WrittenTidily options specifier →
      (∀ ending, .str ending ∈ options.extensions → '/' ∉ ending) →
      Path.normalize path = path := by
  obtain ⟨options, start, target, accepted, made, isTarget, hit⟩ := exists_target answered named
  obtain ⟨placed, held, -⟩ := (resolve_answers rooted answered).wellFormed.file path named
  refine ⟨resolve_self_iff accepted placed held absolute, ?_⟩
  intro options' accepted' written whole
  obtain rfl := Except.ok.inj (accepted.symm.trans accepted')
  have startPlaced := Host.isAbsolute_absolute rooted made
  have startNormal := Host.normalize_absolute rooted made
  have directory := Path.isAbsolute_dirname startPlaced
  have settled := Path.normalize_of_mem_ancestors startPlaced startNormal
    (Path.dirname_mem_ancestors start)
  exact normal_of_load (isAbsolute_of_isTarget rooted directory isTarget)
    (normal_of_isTarget rooted directory settled written isTarget) whole hit

/-- A file in a package. -/
def inPackage : Host :=
  ⟨⟨[(Place.ofPath "/p/node_modules/lib/x.js".toList, .file (.text [])),
    (Place.ofPath "/p/node_modules/lib".toList, .directory),
    (Place.ofPath "/p/node_modules".toList, .directory),
    (Place.ofPath "/p".toList, .directory)]⟩, some "/".toList, .usual⟩

theorem rooted_inPackage : inPackage.Rooted := by
  intro directory existing
  cases existing
  rfl

/-- A tidy specifier of the file is found under a path that stays the same. -/
theorem resolve_found_iff_normal_inPackage :
    (resolve inPackage "lib/x".toList "/p/a.js".toList []).outcome
        = .ok ⟨.file "/p/node_modules/lib/x.js".toList, .package,
            ["/p/node_modules/lib/x".toList, "/p/node_modules/lib/x.mjs".toList,
              "/p/node_modules/lib/x.js".toList]⟩ ∧
      Path.Tidy "lib/x".toList ∧
      (resolve inPackage "/p/node_modules/lib/x.js".toList "/q/b.js".toList []).outcome
        = .ok ⟨.file "/p/node_modules/lib/x.js".toList, .absolute,
            ["/p/node_modules/lib/x.js".toList]⟩ := by
  have answered : (resolve inPackage "lib/x".toList "/p/a.js".toList []).outcome
      = .ok ⟨.file "/p/node_modules/lib/x.js".toList, .package,
          ["/p/node_modules/lib/x".toList, "/p/node_modules/lib/x.mjs".toList,
            "/p/node_modules/lib/x.js".toList]⟩ := by
    decide +kernel
  have tidy : Path.Tidy "lib/x".toList := by decide +kernel
  obtain ⟨again, normal⟩ := resolve_found_iff_normal rooted_inPackage
    (show Path.isAbsolute "/q/b.js".toList = true by decide) answered rfl
  refine ⟨answered, tidy, again.mpr (normal _ rfl (.inr (.inr ⟨tidy, ?_⟩)) ?_)⟩
  · intro name listed
    obtain rfl : name = Options.defaultModuleDirectory := by simpa using listed
    decide +kernel
  · intro ending listed
    exact no_slash_of_default listed

/-- A path that was found need not resolve to itself: the slashes in the specifier of a package are
kept, and those in an absolute specifier are not. -/
theorem found_not_fixed :
    ¬ ∀ (h : Host) (specifier file other path : Text) (settings : Settings)
        (members : List (Text × Json)) (answer : Resolution),
      h.Rooted → settings.SetBy members → Path.isAbsolute file = true →
      Path.isAbsolute other = true → (resolve h specifier file members).outcome = .ok answer →
      answer.path? = some path →
      (resolve h path other members).outcome = .ok ⟨.file path, .absolute, [path]⟩ := by
  intro fixed
  have answered : (resolve inPackage "lib//x".toList "/p/a.js".toList []).outcome
      = .ok ⟨.file "/p/node_modules/lib//x.js".toList, .package,
          ["/p/node_modules/lib//x".toList, "/p/node_modules/lib//x.mjs".toList,
            "/p/node_modules/lib//x.js".toList]⟩ := by
    decide +kernel
  have again := fixed inPackage _ _ "/q/b.js".toList _ _ [] _ rooted_inPackage setBy_nil (by decide)
    (by decide) answered rfl
  have shortened : (resolve inPackage "/p/node_modules/lib//x.js".toList "/q/b.js".toList []).outcome
      = .ok ⟨.file "/p/node_modules/lib/x.js".toList, .absolute,
          ["/p/node_modules/lib/x.js".toList]⟩ := by
    rw [resolve_absolute (by decide) (by decide)]
    decide +kernel
  rw [shortened] at again
  exact absurd again (by decide +kernel)

end Module
end ImportResolution
