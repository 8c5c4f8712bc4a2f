import ImportResolution.Proofs.Module.Plan
import ImportResolution.Proofs.Request.InEffect

/-! Specifiers of directories. A target loses the slash or the dots at its end before it is loaded,
so however a specifier is written its target is read as a file first: a sibling of a directory, a
file of its name or of its name and an ending, is preferred to all that is in the directory. -/
namespace ImportResolution

namespace Module

/-- A specifier is written like a directory: nothing, a dot or two dots stand behind its last
slash. -/
def NamesDirectory (specifier : Text) : Prop :=
  ∃ last, (Text.segments specifier).getLast? = some last ∧
    (last = [] ∨ last = Path.here ∨ last = Path.up)

/-- A specifier that is absolute or relative, and so has one target. -/
def IsPlaced (specifier : Text) : Prop :=
  Path.isAbsolute specifier = true ∨ isRelative specifier = true

/-- The target of a placed specifier that is imported from a file. -/
def targetOf (file specifier : Text) : Text :=
  Path.normalize (Path.join (Path.dirname (Path.normalize file)) specifier)

namespace Plan

/-- The file that stands beside a directory under its name. -/
def sibling? (h : Host) (endings : List Text) (directory : Text) : Option Text :=
  (asFile endings directory).find? h.isFile

/-- The file that a directory is loaded through: its main file, or else its index. -/
def inside? (h : Host) (endings : List Text) (directory : Text) : Option Text :=
  (asDirectory h endings directory).find? h.isFile

end Plan

/-- A target is loaded as its sibling and, if it has none, as a directory. So it is loaded as a
directory exactly if the directory leads to the sibling, or if there is no sibling. If there is
none, there may be no room to load the directory. -/
structure SiblingFirst (h : Host) (endings : List Text) (target : Text)
    (outcome : Except Fault Resolution) : Prop where
  exhausted : ∀ descent, Plan.Overflows h endings descent target →
    outcome = .error (.exhausted descent)
  answered : (∀ descent, ¬ Plan.Overflows h endings descent target) →
    ∃ answer, outcome = .ok answer ∧
      answer.path? = (Plan.sibling? h endings target).or (Plan.inside? h endings target) ∧
      (answer.path? = Plan.inside? h endings target ↔
        ∀ path, Plan.sibling? h endings target = some path →
          Plan.inside? h endings target = some path)

variable {h : Host} {settings : Settings} {members : List (Text × Json)}
  {specifier file target : Text}

theorem or_eq_right_iff {first second : Option Text} :
    first.or second = second ↔ ∀ path, first = some path → second = some path := by
  cases first with
  | none => simp
  | some path => simp [eq_comm]

theorem siblingFirst_loaded (set : settings.SetBy members) (strategy : Strategy) (target : Text) :
    SiblingFirst h settings.extensions target (loaded h members strategy target) := by
  have made : loaded h members strategy target
      = contained ((load h (settings.extensions.map .str) target).resolution strategy) := by
    simp only [loaded, ofMembers_of_setBy set, Settings.toOptions]
  rw [made]
  cases ends_load h settings.extensions target with
  | exhausted descent full failed =>
    refine ⟨fun other again => ?_, fun fits => absurd full (fits descent)⟩
    rw [Trail.resolution, failed, Plan.overflows_unique full again]
    rfl
  | followed fits followed =>
    obtain ⟨answer, answered, -, path, -⟩ := resolution_of_follows strategy followed
    have first : answer.path? = (Plan.sibling? h settings.extensions target).or
        (Plan.inside? h settings.extensions target) := by
      rw [path, Plan.ofTarget, List.find?_append, Plan.sibling?, Plan.inside?]
    refine ⟨fun descent full => absurd full (fits descent), fun _ => ⟨answer, ?_, first, ?_⟩⟩
    · rw [answered]
      rfl
    · rw [first, or_eq_right_iff]

/-- However a placed specifier is written, only its target matters. -/
theorem siblingFirst_placed (set : settings.SetBy members) (absolute : Path.isAbsolute file = true)
    (placed : IsPlaced specifier) :
    SiblingFirst h settings.extensions (targetOf file specifier)
      (resolve h specifier file members).outcome := by
  rcases placed with rooted | relative
  · have target : targetOf file specifier = Path.normalize specifier := by
      simp [targetOf, Path.join, rooted]
    rw [resolve_absolute rooted absolute, target]
    exact siblingFirst_loaded set .absolute _
  · rw [resolve_relative relative absolute]
    exact siblingFirst_loaded set .relative _

theorem siblingFirst_labelled {endings : List Text} {outcome : Except Fault Resolution}
    (applied : Application) (first : SiblingFirst h endings target outcome) :
    SiblingFirst h endings target (outcome.map applied.labelled) := by
  refine ⟨fun descent full => ?_, fun fits => ?_⟩
  · rw [first.exhausted descent full]
    rfl
  · obtain ⟨answer, rfl, path, inside⟩ := first.answered fits
    exact ⟨applied.labelled answer, rfl, by simpa using path, by simpa using inside⟩

end Module

namespace Request

variable {h : Host}

/-- A target is loaded as a directory exactly if no sibling is preferred to what is in the
directory, be it the target of an absolute or relative specifier or one that an alias gives, and
whatever stands at the end of the specifier, as far as there is room to load it. -/
theorem inside_unless_sibling (rooted : h.Rooted) :
    (∀ (settings : Module.Settings) members specifier file, settings.SetBy members →
      Path.isAbsolute file = true → Module.IsPlaced specifier →
      Module.SiblingFirst h settings.extensions (Module.targetOf file specifier)
        (Module.resolve h specifier file members).outcome) ∧
    ∀ (settings : Module.Settings) (request : Request) inEffect entry,
      request.aliases h = .ok inEffect →
      inEffect.entries.find? (·.applies request.specifier) = some entry →
      settings.SetBy entry.options → Path.isAbsolute request.file = true →
      Module.SiblingFirst h settings.extensions (entry.anchored inEffect.root request.specifier)
        (resolve h request).outcome := by
  constructor
  · intro settings members specifier file set absolute placed
    exact Module.siblingFirst_placed set absolute placed
  · intro settings request inEffect entry listed first set absolute
    obtain ⟨place, applied⟩ :=
      Application.ofEntriesFrom_of_find? inEffect.root 0 [] first
    have made : request.applied inEffect
        = ⟨entry.anchored inEffect.root request.specifier, entry.options, some (place, entry)⟩ :=
      applied
    have below := isAbsolute_root_of_aliases rooted listed
    rw [outcome_resolve, listed]
    refine Module.siblingFirst_labelled (request.applied inEffect) ?_
    simp only [made]
    rw [Module.resolve_absolute (AliasEntry.isAbsolute_anchored entry below _) absolute,
      AliasEntry.normalize_anchored entry below]
    exact Module.siblingFirst_loaded set .absolute _

/-- A directory with an index, and beside it a file of its name with an ending. -/
def twofold : Host :=
  ⟨⟨[(Place.ofPath "/p/lib/index.js".toList, .file (.text [])),
    (Place.ofPath "/p/lib.js".toList, .file (.text [])),
    (Place.ofPath "/p/lib".toList, .directory),
    (Place.ofPath "/p".toList, .directory)]⟩, some "/".toList, .usual⟩

theorem rooted_twofold : twofold.Rooted := by
  intro directory existing
  cases existing
  rfl

/-- A request for that directory by the default alias. -/
def aliasedDirectory : Request :=
  ⟨"~/lib/".toList, "/x.js".toList, .arr [], [], some "/p".toList⟩

/-- With a slash at the end the sibling is preferred, both by place and by alias. There is room to
load the directory. -/
theorem inside_unless_sibling_twofold :
    (∀ descent, ¬ Module.Plan.Overflows twofold Module.Options.defaultExtensions descent
        "/p/lib".toList) ∧
      Module.SiblingFirst twofold Module.Options.defaultExtensions "/p/lib".toList
        (Module.resolve twofold "./lib/".toList "/p/app.js".toList []).outcome ∧
      Module.SiblingFirst twofold Module.Options.defaultExtensions "/p/lib".toList
        (resolve twofold aliasedDirectory).outcome ∧
      Module.Plan.sibling? twofold Module.Options.defaultExtensions "/p/lib".toList
        = some "/p/lib.js".toList ∧
      Module.Plan.inside? twofold Module.Options.defaultExtensions "/p/lib".toList
        = some "/p/lib/index.js".toList := by
  have target : Module.targetOf "/p/app.js".toList "./lib/".toList = "/p/lib".toList := by
    decide +kernel
  have anchored : (AliasEntry.ofMembers []).anchored "/p".toList "~/lib/".toList
      = "/p/lib".toList := by
    decide +kernel
  have located : twofold.rootOf (some "/p".toList) = .ok "/p".toList := by decide +kernel
  have listed : aliasedDirectory.aliases twofold
      = .ok ⟨[AliasEntry.ofMembers []], "/p".toList⟩ := by
    unfold aliases aliasedDirectory
    rw [located]
    rfl
  have applies : (AliasEntry.ofMembers []).applies "~/lib/".toList = true := by decide +kernel
  have spacious : twofold.Spacious := by decide +kernel
  obtain ⟨placed, aliased⟩ := inside_unless_sibling rooted_twofold
  refine ⟨fun _ full => Module.Plan.fits_of_spacious spacious [_] (.here full), ?_, ?_,
    by decide +kernel, by decide +kernel⟩
  · rw [← target]
    exact placed _ [] _ _ Module.setBy_nil rfl (.inr (by decide))
  · rw [← anchored]
    exact aliased _ _ _ _ listed (List.find?_cons_of_pos applies) Module.setBy_nil rfl

/-- A slash at the end does not make a directory of a specifier. -/
theorem slash_not_directory :
    ¬ ∀ (h : Host) (settings : Module.Settings) (members : List (Text × Json))
      (specifier file : Text), h.Rooted → settings.SetBy members →
      Path.isAbsolute file = true → Module.IsPlaced specifier → Module.NamesDirectory specifier →
      ∃ answer, (Module.resolve h specifier file members).outcome = .ok answer ∧
        answer.path?
          = Module.Plan.inside? h settings.extensions (Module.targetOf file specifier) := by
  intro asDirectory
  have answers :
      (Module.resolve twofold "./lib/".toList "/p/app.js".toList []).outcome.map (·.path?)
        = .ok (some "/p/lib.js".toList) := by
    decide +kernel
  have inside : Module.Plan.inside? twofold Module.Options.defaultExtensions
      (Module.targetOf "/p/app.js".toList "./lib/".toList) = some "/p/lib/index.js".toList := by
    decide +kernel
  obtain ⟨answer, answered, path⟩ := asDirectory twofold _ [] "./lib/".toList "/p/app.js".toList
    rooted_twofold Module.setBy_nil rfl (.inr (by decide)) ⟨[], by decide, .inl rfl⟩
  rw [answered, Except.map, path, inside] at answers
  cases answers

end Request
end ImportResolution
