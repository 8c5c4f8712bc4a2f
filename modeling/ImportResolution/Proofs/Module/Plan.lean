import ImportResolution.Module.Resolver
import ImportResolution.Proofs.Host.Room
import ImportResolution.Proofs.Module.Settings

/-! Plans of a search. A plan lists the paths that stand for a specifier, in order of precedence; it
reads manifests and asks which paths are directories, but it probes no file and stops nowhere. A
search probes exactly its plan, up to the first file, unless it comes to a manifest that there is no
room to read. -/
namespace ImportResolution.Module

namespace Plan

/-- A target as a file: the target itself, and then with each ending. -/
def asFile (endings : List Text) (target : Text) : List Text :=
  target :: endings.map (target ++ ·)

/-- The main file that the manifest of a directory names: a text that is not empty, in an object, in
a file that can be read. -/
def mainNamed? (h : Host) (directory : Text) : Option Text :=
  if h.isFile (Path.join directory manifestName) then
    match h.readJson (Path.join directory manifestName) with
    | .ok (.obj members) =>
      match Json.find? members mainMember with
      | some (.str main) => if main = [] then none else some main
      | _ => none
    | _ => none
  else none

/-- A directory through its main file: that file, and then the index of the directory of that name
unless it is the same directory. -/
def asMain (endings : List Text) (directory main : Text) : List Text :=
  let target := Path.normalize (Path.join directory main)
  asFile endings target
    ++ if target ≠ directory then asFile endings (Path.join target indexName) else []

/-- A target as a directory: its main file if its manifest names one, and then its index. -/
def asDirectory (h : Host) (endings : List Text) (directory : Text) : List Text :=
  if h.isDirectory directory then
    (match mainNamed? h directory with
      | some main => asMain endings directory main
      | none => [])
    ++ asFile endings (Path.join directory indexName)
  else []

/-- A target as a file and then as a directory. -/
def ofTarget (h : Host) (endings : List Text) (target : Text) : List Text :=
  asFile endings target ++ asDirectory h endings target

/-- The plan for a specifier that is imported from a file: one target for an absolute or a relative
specifier, and for any other the target of that name in each of the searched directories. -/
def ofSpecifier (h : Host) (settings : Settings) (cwd specifier file : Text) : List Text :=
  let directory := Path.dirname (Path.normalize file)
  if Path.isAbsolute specifier then ofTarget h settings.extensions (Path.normalize specifier)
  else if isRelative specifier then
    ofTarget h settings.extensions (Path.normalize (Path.join directory specifier))
  else (settings.searched cwd directory).flatMap fun searched =>
    ofTarget h settings.extensions (Path.join searched specifier)

/-- The targets that stand for a specifier: one for an absolute or a relative specifier, and for any
other one in each of the searched directories. -/
def targets (settings : Settings) (cwd specifier file : Text) : List Text :=
  let directory := Path.dirname (Path.normalize file)
  if Path.isAbsolute specifier then [Path.normalize specifier]
  else if isRelative specifier then [Path.normalize (Path.join directory specifier)]
  else (settings.searched cwd directory).map fun searched => Path.join searched specifier

/-- There is no room to load a target. It is no file, neither under its own name nor with an ending,
but a directory, and what there is no room for is its manifest. -/
structure Overflows (h : Host) (endings : List Text) (descent : Descent) (target : Text) :
    Prop where
  missed : ∀ path ∈ asFile endings target, h.isFile path = false
  reached : h.isDirectory target = true
  held : h.isFile (Path.join target manifestName) = true
  exhausted : h.readJson (Path.join target manifestName) = .error (.exhausted descent)

/-- There is no room to load one of some targets, and in the plans of those before it, for which
there is room, there is no file. -/
inductive OverflowsIn (h : Host) (endings : List Text) (descent : Descent) : List Text → Prop where
  | here (full : Overflows h endings descent target) :
      OverflowsIn h endings descent (target :: rest)
  | later (fits : ∀ other, ¬ Overflows h endings other target)
      (missed : ∀ path ∈ ofTarget h endings target, h.isFile path = false)
      (full : OverflowsIn h endings descent rest) : OverflowsIn h endings descent (target :: rest)

/-- There is no room to go through the plan of a specifier up to its first file. -/
def OverflowsFor (h : Host) (settings : Settings) (cwd specifier file : Text)
    (descent : Descent) : Prop :=
  OverflowsIn h settings.extensions descent (targets settings cwd specifier file)

/-- The way on which a specifier is found that is no core module. -/
def strategy (specifier : Text) : Strategy :=
  if Path.isAbsolute specifier then .absolute
  else if isRelative specifier then .relative
  else .package

end Plan

variable {h : Host} {cwd directory specifier file : Text} {settings : Settings}
  {members : List (Text × Json)} {endings : List Text} {descent : Descent}

/-! ### Room -/

/-- In a spacious tree there is room for every plan. -/
theorem Plan.fits_of_spacious (spacious : h.Spacious) (targets : List Text) :
    ¬ OverflowsIn h endings descent targets := by
  intro full
  induction full with
  | here full => exact Host.readJson_of_spacious spacious _ _ full.exhausted
  | later _ _ _ ih => exact ih

theorem Plan.overflows_unique {target : Text} {other : Descent}
    (full : Overflows h endings descent target) (again : Overflows h endings other target) :
    descent = other := by
  simpa using full.exhausted.symm.trans again.exhausted

/-- What a plan comes to first is one thing. -/
theorem Plan.overflowsIn_unique {targets : List Text} {other : Descent}
    (full : OverflowsIn h endings descent targets) (again : OverflowsIn h endings other targets) :
    descent = other := by
  induction full with
  | here full =>
    cases again with
    | here again => exact overflows_unique full again
    | later fits _ _ => exact absurd full (fits _)
  | later fits _ _ ih =>
    cases again with
    | here again => exact absurd again (fits _)
    | later _ _ again => exact ih again

/-- The plan of a specifier is made of the plans of its targets. -/
theorem Plan.ofSpecifier_targets (h : Host) (settings : Settings) (cwd specifier file : Text) :
    ofSpecifier h settings cwd specifier file
      = (targets settings cwd specifier file).flatMap (ofTarget h settings.extensions) := by
  unfold ofSpecifier targets
  simp only
  split
  · rw [List.flatMap_singleton]
  · split
    · rw [List.flatMap_singleton]
    · rw [List.flatMap_map]

/-! ### Following a plan -/

/-- A search that probes a plan in order, up to and including the first file. -/
structure Trail.Follows (h : Host) (trail : Trail) (plan : List Text) : Prop where
  verdict : trail.verdict = (plan.find? h.isFile).elim .miss .hit
  candidates : trail.candidates = plan.take (plan.findIdx h.isFile + 1)

theorem follows_miss : Trail.miss.Follows h [] := ⟨rfl, rfl⟩

theorem follows_probe (h : Host) (path : Text) : (probe h path).Follows h [path] := by
  cases held : h.isFile path <;> constructor <;> simp [probe, held, List.find?, List.findIdx_cons]

/-- What is probed of a plan that holds a file is probed whatever comes behind it. -/
theorem probed_append_of_some {isFile : Text → Bool} {plan : List Text} {path : Text}
    (found : plan.find? isFile = some path) (more : List Text) :
    (plan ++ more).take ((plan ++ more).findIdx isFile + 1)
      = plan.take (plan.findIdx isFile + 1) := by
  have within : plan.findIdx isFile < plan.length :=
    List.findIdx_lt_length.mpr ⟨path, List.mem_of_find?_eq_some found, List.find?_some found⟩
  rw [List.findIdx_append, if_pos within, List.take_append_of_le_length within]

/-- A plan that holds no file is probed as a whole before what comes behind it. -/
theorem probed_append_of_none {isFile : Text → Bool} {plan : List Text}
    (missed : plan.find? isFile = none) (more : List Text) :
    (plan ++ more).take ((plan ++ more).findIdx isFile + 1)
      = plan ++ more.take (more.findIdx isFile + 1) := by
  have past : plan.findIdx isFile = plan.length := by
    rw [List.findIdx_eq_length]
    intro path member
    simpa using List.find?_eq_none.mp missed path member
  rw [List.findIdx_append, past, if_neg (Nat.lt_irrefl _), Nat.add_comm _ plan.length,
    Nat.add_assoc, List.take_length_add_append]

/-- A plan that holds no file is probed as a whole. -/
theorem probed_of_none {isFile : Text → Bool} {plan : List Text}
    (missed : plan.find? isFile = none) : plan.take (plan.findIdx isFile + 1) = plan := by
  simpa using probed_append_of_none missed []

/-- A search that found something probes nothing more. -/
theorem follows_orElse_of_some {first : Trail} {second : Unit → Trail} {plan : List Text}
    {path : Text} (followed : first.Follows h plan) (found : plan.find? h.isFile = some path)
    (rest : List Text) : (first.orElse second).Follows h (plan ++ rest) := by
  have verdict : first.verdict = .hit path := by rw [followed.verdict, found]; rfl
  constructor
  · simp [Trail.orElse, verdict, found]
  · simp only [Trail.orElse, verdict, followed.candidates, probed_append_of_some found]

/-- A search that goes on where another one found nothing probes both plans, one behind the
other. -/
theorem follows_orElse {first : Trail} {second : Unit → Trail} {plan rest : List Text}
    (followed : first.Follows h plan) (next : (second ()).Follows h rest) :
    (first.orElse second).Follows h (plan ++ rest) := by
  -- the second search is asked only if the first plan holds no file
  cases found : plan.find? h.isFile with
  | some path => exact follows_orElse_of_some followed found rest
  | none =>
    have verdict : first.verdict = .miss := by rw [followed.verdict, found]; rfl
    constructor
    · simp [Trail.orElse, verdict, found, next.verdict]
    · simp only [Trail.orElse, verdict, followed.candidates, next.candidates, probed_of_none found,
        probed_append_of_none found]

theorem follows_after {trail : Trail} {plan : List Text} (events : List Event)
    (followed : trail.Follows h plan) : (trail.after events).Follows h plan :=
  ⟨followed.verdict, followed.candidates⟩

theorem follows_probeEndings (h : Host) (target : Text) (endings : List Text) :
    (probeEndings h target (endings.map .str)).Follows h (endings.map (target ++ ·)) := by
  induction endings with
  | nil => exact follows_miss
  | cons ending endings ih =>
    show Trail.Follows h ((probe h (target ++ ending)).orElse fun _ =>
      probeEndings h target (endings.map .str)) ([target ++ ending] ++ endings.map (target ++ ·))
    exact follows_orElse (follows_probe h _) ih

theorem follows_loadFile (h : Host) (endings : List Text) (target : Text) :
    (loadFile h (endings.map .str) target).Follows h (Plan.asFile endings target) :=
  follows_orElse (follows_probe h target) (follows_probeEndings h target endings)

theorem follows_loadMain (h : Host) (endings : List Text) (directory main : Text) :
    (loadMain h (endings.map .str) directory main).Follows h
      (Plan.asMain endings directory main) := by
  unfold loadMain Plan.asMain
  apply follows_orElse (follows_loadFile h endings _)
  by_cases same : Path.normalize (Path.join directory main) = directory
  · simpa [same] using follows_miss
  · simpa [same, loadIndex] using follows_loadFile h endings _

/-- The manifest that was read names the main file that the plan asks for, or there is no room to
read it. -/
theorem mainOf_readJson (held : h.isFile (Path.join directory manifestName) = true) :
    mainOf (h.readJson (Path.join directory manifestName)) = .ok (Plan.mainNamed? h directory) ∨
      ∃ descent,
        h.readJson (Path.join directory manifestName) = .error (.exhausted descent) := by
  simp only [Plan.mainNamed?, held, if_true]
  cases h.readJson (Path.join directory manifestName) with
  | error fault =>
    cases fault with
    | exhausted descent => exact .inr ⟨descent, rfl⟩
    | _ => exact .inl rfl
  | ok manifest =>
    refine .inl ?_
    cases manifest with
    | obj members =>
      simp only [mainOf, Json.member?]
      cases Json.find? members mainMember with
      | none => rfl
      | some value =>
        cases value with
        | str main => cases main <;> rfl
        | _ => rfl
    | _ => rfl

/-- Loading a directory follows its plan, if there is room to read its manifest. -/
theorem follows_loadDirectory (h : Host) (endings : List Text) (directory : Text)
    (fits : h.isDirectory directory = true → h.isFile (Path.join directory manifestName) = true →
      ∀ descent, h.readJson (Path.join directory manifestName) ≠ .error (.exhausted descent)) :
    (loadDirectory h (endings.map .str) directory).Follows h
      (Plan.asDirectory h endings directory) := by
  have index := follows_loadFile h endings (Path.join directory indexName)
  cases reached : h.isDirectory directory with
  | false => simpa [loadDirectory, Plan.asDirectory, reached] using follows_miss
  | true =>
    cases held : h.isFile (Path.join directory manifestName) with
    | false =>
      simpa [loadDirectory, loadIndex, Plan.asDirectory, Plan.mainNamed?, reached, held] using index
    | true =>
      rcases mainOf_readJson held with named | ⟨descent, exhausted⟩
      · simp only [loadDirectory, Plan.asDirectory, reached, held, Bool.not_true,
          Bool.false_eq_true, if_false, if_true, named]
        apply follows_after
        cases Plan.mainNamed? h directory with
        | none => exact index
        | some main => exact follows_orElse (follows_loadMain h endings directory main) index
      · exact absurd exhausted (fits reached held descent)

/-- A directory whose manifest there is no room to read is not loaded at all. -/
theorem loadDirectory_of_exhausted {extensions : List Json}
    (reached : h.isDirectory directory = true)
    (held : h.isFile (Path.join directory manifestName) = true)
    (exhausted : h.readJson (Path.join directory manifestName) = .error (.exhausted descent)) :
    loadDirectory h extensions directory = .failed (.exhausted descent) := by
  simp [loadDirectory, reached, held, exhausted, mainOf, manifestEvents, Trail.after, Trail.failed]

/-- How a search ends that has a plan: it follows the plan, for which there is room, or it comes to
what there is no room for. -/
inductive Trail.Ends (h : Host) (trail : Trail) (plan : List Text) (full : Descent → Prop) :
    Prop where
  | followed (fits : ∀ descent, ¬ full descent) (followed : trail.Follows h plan)
  | exhausted (descent : Descent) (overflows : full descent)
      (failed : trail.verdict = .failed (.exhausted descent))

/-- Loading a target follows its plan, if there is room. -/
theorem ends_load (h : Host) (endings : List Text) (target : Text) :
    (load h (endings.map .str) target).Ends h (Plan.ofTarget h endings target)
      fun descent => Plan.Overflows h endings descent target := by
  have file := follows_loadFile h endings target
  by_cases full : ∃ descent, Plan.Overflows h endings descent target
  · obtain ⟨descent, full⟩ := full
    refine .exhausted descent full ?_
    have missed : (Plan.asFile endings target).find? h.isFile = none := by simpa using full.missed
    rw [load, Trail.verdict_orElse, file.verdict, missed]
    simp only [Option.elim_none, loadDirectory_of_exhausted full.reached full.held full.exhausted]
    rfl
  · have fits : ∀ descent, ¬ Plan.Overflows h endings descent target :=
      fun descent overflows => full ⟨descent, overflows⟩
    refine .followed fits ?_
    cases found : (Plan.asFile endings target).find? h.isFile with
    | some path => exact follows_orElse_of_some file found _
    | none =>
      have missed : ∀ path ∈ Plan.asFile endings target, h.isFile path = false := by
        simpa using found
      refine follows_orElse file (follows_loadDirectory h endings target ?_)
      exact fun reached held descent exhausted => fits descent ⟨missed, reached, held, exhausted⟩

/-- Loads the first of some targets that leads to a file. -/
def loadFirst (h : Host) (extensions : List Json) : List Text → Trail
  | [] => .miss
  | target :: rest => (load h extensions target).orElse fun _ => loadFirst h extensions rest

theorem loadFirst_singleton (h : Host) (extensions : List Json) (target : Text) :
    loadFirst h extensions [target] = load h extensions target :=
  Trail.orElse_miss _

theorem loadPackage_eq (h : Host) (extensions : List Json) (name : Text)
    (directories : List Text) :
    loadPackage h extensions name directories
      = loadFirst h extensions (directories.map fun directory => Path.join directory name) := by
  induction directories with
  | nil => rfl
  | cons directory rest ih => rw [loadPackage, ih, List.map_cons, loadFirst]

/-- Loading the first of some targets follows their plans, one behind the other, as far as there is
room. -/
theorem ends_loadFirst (h : Host) (endings : List Text) (targets : List Text) :
    (loadFirst h (endings.map .str) targets).Ends h
      (targets.flatMap (Plan.ofTarget h endings))
      fun descent => Plan.OverflowsIn h endings descent targets := by
  induction targets with
  | nil => exact .followed nofun follows_miss
  | cons target rest ih =>
    rw [List.flatMap_cons]
    cases ends_load h endings target with
    | exhausted descent full failed =>
      exact .exhausted descent (.here full) (by rw [loadFirst, Trail.verdict_orElse, failed])
    | followed fits followed =>
      cases found : (Plan.ofTarget h endings target).find? h.isFile with
      | some path =>
        refine .followed ?_ (follows_orElse_of_some followed found _)
        rintro descent (full | ⟨-, missed, -⟩)
        · exact fits descent full
        · have none : (Plan.ofTarget h endings target).find? h.isFile = none := by
            simpa using missed
          rw [found] at none
          cases none
      | none =>
        have missed : ∀ path ∈ Plan.ofTarget h endings target, h.isFile path = false := by
          simpa using found
        cases ih with
        | followed fits' followed' =>
          refine .followed ?_ (follows_orElse followed followed')
          rintro descent (full | ⟨-, -, full⟩)
          · exact fits descent full
          · exact fits' descent full
        | exhausted descent full failed =>
          refine .exhausted descent (.later fits missed full) ?_
          rw [loadFirst, Trail.verdict_orElse, followed.verdict, found]
          exact failed

/-- A search loads the targets of its specifier, if the directories that a package is searched in
are those of the plan. -/
theorem search_listed (settings : Settings) (specifier file : Text)
    (listed : Path.isAbsolute specifier = false → isRelative specifier = false →
      searchPath h settings.toOptions (Path.dirname (Path.normalize file))
        = .ok (settings.searched cwd (Path.dirname (Path.normalize file)))) :
    search h settings.toOptions specifier (Path.dirname (Path.normalize file))
      = (loadFirst h (settings.extensions.map .str)
          (Plan.targets settings cwd specifier file)).traced (Plan.strategy specifier) := by
  unfold search Plan.targets Plan.strategy
  split
  · rw [loadFirst_singleton]
    rfl
  · rename_i unplaced
    split
    · rw [loadFirst_singleton]
      rfl
    · rename_i unrelated
      rw [listed (by simpa using unplaced) (by simpa using unrelated)]
      simp only [loadPackage_eq]
      rfl

/-- A search follows the plan of its specifier, as far as there is room. -/
theorem search_ends_listed (settings : Settings) (specifier file : Text)
    (listed : Path.isAbsolute specifier = false → isRelative specifier = false →
      searchPath h settings.toOptions (Path.dirname (Path.normalize file))
        = .ok (settings.searched cwd (Path.dirname (Path.normalize file)))) :
    ∃ trail : Trail, trail.Ends h (Plan.ofSpecifier h settings cwd specifier file)
        (Plan.OverflowsFor h settings cwd specifier file) ∧
      search h settings.toOptions specifier (Path.dirname (Path.normalize file))
        = trail.traced (Plan.strategy specifier) := by
  rw [search_listed settings specifier file listed, Plan.ofSpecifier_targets]
  exact ⟨_, ends_loadFirst h settings.extensions _, rfl⟩

/-- Where there is a working directory, a search follows the plan of its specifier, as far as there
is room. -/
theorem search_ends (settings : Settings) (existing : h.directory? = some cwd)
    (specifier file : Text) :
    ∃ trail : Trail, trail.Ends h (Plan.ofSpecifier h settings cwd specifier file)
        (Plan.OverflowsFor h settings cwd specifier file) ∧
      search h settings.toOptions specifier (Path.dirname (Path.normalize file))
        = trail.traced (Plan.strategy specifier) :=
  search_ends_listed settings specifier file fun _ _ => searchPath_of_settings existing _

/-- What a search that follows a plan answers. -/
theorem resolution_of_follows {trail : Trail} {plan : List Text} (strategy : Strategy)
    (followed : trail.Follows h plan) :
    ∃ answer, trail.resolution strategy = .ok answer ∧
      (answer.found = true ↔ ∃ path ∈ plan, h.isFile path = true) ∧
      answer.path? = plan.find? h.isFile ∧
      answer.candidates = plan.take (plan.findIdx h.isFile + 1) ∧
      answer.strategy = if answer.found then strategy else .notFound := by
  cases found : plan.find? h.isFile with
  | some path =>
    have verdict : trail.verdict = .hit path := by rw [followed.verdict, found]; rfl
    refine ⟨⟨.file path, strategy, trail.candidates⟩, by simp [Trail.resolution, verdict], ?_,
      rfl, followed.candidates, rfl⟩
    simp only [Resolution.found, true_iff]
    exact ⟨path, List.mem_of_find?_eq_some found, List.find?_some found⟩
  | none =>
    have verdict : trail.verdict = .miss := by rw [followed.verdict, found]; rfl
    refine ⟨.missing trail.candidates, by simp [Trail.resolution, verdict], ?_, rfl,
      followed.candidates, rfl⟩
    simp only [Resolution.missing, Resolution.found, Bool.false_eq_true, false_iff]
    rintro ⟨path, member, held⟩
    exact List.find?_eq_none.mp found path member held

/-- Searching lazily gives what the plan says, as long as there is room for the plan: a specifier
other than a core module is found if and only if its plan holds a file, as the first file of the
plan, and what was probed is the plan up to that file, or all of it. -/
theorem resolve_follows_plan (existing : h.directory? = some cwd) (set : settings.SetBy members)
    (notCore : isCore specifier = false) (absolute : Path.isAbsolute file = true)
    (fits : ∀ descent, ¬ Plan.OverflowsFor h settings cwd specifier file descent) :
    ∃ answer, (resolve h specifier file members).outcome = .ok answer ∧
      (answer.found = true ↔
        ∃ path ∈ Plan.ofSpecifier h settings cwd specifier file, h.isFile path = true) ∧
      answer.path? = (Plan.ofSpecifier h settings cwd specifier file).find? h.isFile ∧
      answer.candidates = (Plan.ofSpecifier h settings cwd specifier file).take
        ((Plan.ofSpecifier h settings cwd specifier file).findIdx h.isFile + 1) ∧
      answer.strategy = if answer.found then Plan.strategy specifier else .notFound := by
  obtain ⟨trail, ends, searched⟩ := search_ends settings existing specifier file
  have followed : trail.Follows h (Plan.ofSpecifier h settings cwd specifier file) := by
    cases ends with
    | followed _ followed => exact followed
    | exhausted descent full => exact absurd full (fits descent)
  obtain ⟨answer, answered, facts⟩ := resolution_of_follows (Plan.strategy specifier) followed
  refine ⟨answer, ?_, facts⟩
  have traced : resolveWith h settings.toOptions specifier file
      = trail.traced (Plan.strategy specifier) := by
    simp only [resolveWith, notCore, Bool.false_eq_true, if_false, Host.absolute, absolute, if_true]
    exact searched
  simp only [resolve, ofMembers_of_setBy set, traced, containing, Trail.traced, answered]

/-- A package below two directories, whose manifest names a directory as its main file. -/
def packaged : Host :=
  ⟨⟨[
    (Place.ofPath "/p/node_modules/lib/dist/index.js".toList, .file (.text [])),
    (Place.ofPath "/p/node_modules/lib/dist".toList, .directory),
    (Place.ofPath "/p/node_modules/lib/package.json".toList,
      .file (.text "\x7b\"main\": \"./dist/\"\x7d".toList)),
    (Place.ofPath "/p/node_modules/lib".toList, .directory),
    (Place.ofPath "/p/node_modules".toList, .directory),
    (Place.ofPath "/p".toList, .directory)]⟩, some "/".toList, .usual⟩

/-- The nearest place of the package is searched first, without success, and then its main file is
tried as a file before the index of the directory of that name. -/
theorem resolve_follows_plan_packaged :
    isCore "lib".toList = false ∧ Path.isAbsolute "/p/src/app.js".toList = true ∧
      ∃ answer, (resolve packaged "lib".toList "/p/src/app.js".toList
          [("extensions".toList, .str ".js".toList)]).outcome = .ok answer ∧
        answer.path? = some "/p/node_modules/lib/dist/index.js".toList ∧
        answer.candidates = ["/p/src/node_modules/lib".toList, "/p/src/node_modules/lib.js".toList,
          "/p/node_modules/lib".toList, "/p/node_modules/lib.js".toList,
          "/p/node_modules/lib/dist".toList, "/p/node_modules/lib/dist.js".toList,
          "/p/node_modules/lib/dist/index".toList, "/p/node_modules/lib/dist/index.js".toList] := by
  have set : Settings.SetBy ⟨[".js".toList], [Options.defaultModuleDirectory], []⟩
      [("extensions".toList, .str ".js".toList)] :=
    ⟨.one _ (by decide), .absent, .absent⟩
  have notCore : isCore "lib".toList = false := by decide +kernel
  have absolute : Path.isAbsolute "/p/src/app.js".toList = true := by decide
  have spacious : packaged.Spacious := by decide +kernel
  obtain ⟨answer, answered, _, path, candidates, _⟩ :=
    resolve_follows_plan (h := packaged) rfl set notCore absolute
      fun _ => Plan.fits_of_spacious spacious _
  refine ⟨notCore, absolute, answer, answered, path.trans ?_, candidates.trans ?_⟩
  · decide +kernel
  · decide +kernel

end ImportResolution.Module
