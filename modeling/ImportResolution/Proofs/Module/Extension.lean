import ImportResolution.Proofs.Module.Containment
import Mathlib.Data.List.Basic

/-! Extended options. One more extra path is searched after everything else, so it takes nothing
away from what a search finds without it; only where nothing is found, the search can come to a
manifest that there is no room to read. One more ending is tried last for each path from which a
target is loaded; it can only find a file earlier, and only with this ending, and no manifest is
read for it that was not read before. -/
namespace ImportResolution.Module

namespace Settings

/-- The settings with one more extra path. -/
def withPath (settings : Settings) (path : Text) : Settings :=
  { settings with paths := settings.paths ++ [path] }

/-- The settings with one more ending. -/
def withEnding (settings : Settings) (ending : Text) : Settings :=
  { settings with extensions := settings.extensions ++ [ending] }

end Settings

namespace Plan

variable {h : Host} {settings : Settings} {cwd specifier file : Text}

/-- The paths from which the main file of a directory is loaded. -/
def mainBases (directory main : Text) : List Text :=
  let target := Path.normalize (Path.join directory main)
  target :: if target ≠ directory then [Path.join target indexName] else []

/-- The paths from which a target is loaded, each of them as a file. -/
def bases (h : Host) (target : Text) : List Text :=
  target :: if h.isDirectory target then
    (match mainNamed? h target with
      | some main => mainBases target main
      | none => [])
    ++ [Path.join target indexName]
  else []

theorem asMain_eq (endings : List Text) (directory main : Text) :
    asMain endings directory main = (mainBases directory main).flatMap (asFile endings) := by
  simp only [asMain, mainBases, List.flatMap_cons]
  split <;> simp

theorem ofTarget_eq (h : Host) (endings : List Text) (target : Text) :
    ofTarget h endings target = (bases h target).flatMap (asFile endings) := by
  simp only [ofTarget, asDirectory, bases, List.flatMap_cons]
  congr 1
  split
  · rw [List.flatMap_append, List.flatMap_singleton]
    congr 1
    cases mainNamed? h target with
    | none => rfl
    | some main => exact asMain_eq endings target main
  · rfl

/-- A plan tries each path from which a target is loaded as a file. -/
theorem ofSpecifier_eq (h : Host) (settings : Settings) (cwd specifier file : Text) :
    ofSpecifier h settings cwd specifier file
      = ((targets settings cwd specifier file).flatMap (bases h)).flatMap
          (asFile settings.extensions) := by
  rw [ofSpecifier_targets, List.flatMap_assoc, funext (ofTarget_eq h settings.extensions)]

/-- With one more extra path, all other targets come first. -/
theorem targets_withPath (settings : Settings) (path cwd specifier file : Text) :
    ∃ more, targets (settings.withPath path) cwd specifier file
      = targets settings cwd specifier file ++ more := by
  unfold targets
  simp only
  split
  · exact ⟨[], (List.append_nil _).symm⟩
  · split
    · exact ⟨[], (List.append_nil _).symm⟩
    · refine ⟨[Path.join (Path.normalize (Path.join cwd path)) specifier], ?_⟩
      simp only [Settings.searched, Settings.withPath, List.map_append, List.append_assoc,
        List.map_cons, List.map_nil]
      rfl

theorem ofSpecifier_withPath (h : Host) (settings : Settings) (path cwd specifier file : Text) :
    ∃ more, ofSpecifier h (settings.withPath path) cwd specifier file
      = ofSpecifier h settings cwd specifier file ++ more := by
  obtain ⟨more, longer⟩ := targets_withPath settings path cwd specifier file
  refine ⟨(more.flatMap (bases h)).flatMap (asFile settings.extensions), ?_⟩
  rw [ofSpecifier_eq, longer, List.flatMap_append, List.flatMap_append, ofSpecifier_eq]
  rfl

/-- With one more ending, the same paths are tried as files. -/
theorem ofSpecifier_withEnding (h : Host) (settings : Settings)
    (ending cwd specifier file : Text) :
    ofSpecifier h (settings.withEnding ending) cwd specifier file
      = ((targets settings cwd specifier file).flatMap (bases h)).flatMap
          (asFile (settings.extensions ++ [ending])) :=
  ofSpecifier_eq h (settings.withEnding ending) cwd specifier file

theorem asFile_snoc (endings : List Text) (ending target : Text) :
    asFile (endings ++ [ending]) target = asFile endings target ++ [target ++ ending] := by
  simp [asFile]

theorem mem_ofTarget_snoc {endings : List Text} {path target : Text} (ending : Text)
    (planned : path ∈ ofTarget h endings target) :
    path ∈ ofTarget h (endings ++ [ending]) target := by
  rw [ofTarget_eq, List.mem_flatMap] at planned ⊢
  obtain ⟨base, member, tried⟩ := planned
  refine ⟨base, member, ?_⟩
  rw [asFile_snoc]
  exact List.mem_append_left _ tried

/-! ### Room for a longer plan -/

/-- If there is no room for the plans of some targets and of others behind them, there is none for
the first ones, or no file stands in their plans. -/
theorem overflowsIn_append {endings targets more : List Text} {descent : Descent}
    (full : OverflowsIn h endings descent (targets ++ more)) :
    OverflowsIn h endings descent targets ∨
      ∀ path ∈ targets.flatMap (ofTarget h endings), h.isFile path = false := by
  induction targets with
  | nil => exact .inr (by simp)
  | cons target rest ih =>
    cases full with
    | here full => exact .inl (.here full)
    | later fits missed full =>
      refine (ih full).imp (.later fits missed) fun others path planned => ?_
      rcases List.mem_append.mp planned with planned | planned
      · exact missed path planned
      · exact others path planned

/-- If there is no room with one more ending, there is none without it. -/
theorem overflowsIn_of_snoc {endings targets : List Text} {ending : Text} {descent : Descent}
    (full : OverflowsIn h (endings ++ [ending]) descent targets) :
    OverflowsIn h endings descent targets := by
  induction full with
  | here full =>
    refine .here ⟨fun path tried => full.missed path ?_, full.reached, full.held, full.exhausted⟩
    rw [asFile_snoc]
    exact List.mem_append_left _ tried
  | later fits missed _ ih =>
    refine .later (fun other overflows => ?_) ?_ ih
    · exact fits other ⟨fun path tried => missed path (List.mem_append_left _ tried),
        overflows.reached, overflows.held, overflows.exhausted⟩
    · exact fun path planned => missed path (mem_ofTarget_snoc ending planned)

end Plan

variable {h : Host} {settings : Settings} {plan more : List Text} {cwd specifier file path : Text}
  {members : List (Text × Json)} {answer answer' : Resolution}

/-! ### Plans with more at their end -/

theorem eq_of_path? (named : answer.path? = some path) :
    answer = ⟨.file path, answer.strategy, answer.candidates⟩ := by
  obtain ⟨target, strategy, candidates⟩ := answer
  cases target with
  | file other =>
    cases named
    rfl
  | _ => cases named

/-- What was found before a plan was made longer is found in the same way afterwards, and what was
not found had the whole shorter plan tried. -/
theorem exhausts_append (exhausts : Resolution.Exhausts h plan specifier answer)
    (longer : Resolution.Exhausts h (plan ++ more) specifier answer') :
    (answer.found = true → answer' = answer) ∧
      (answer.found = false → answer.candidates <+: answer'.candidates) := by
  cases found : plan.find? h.isFile with
  | some path =>
    have held : h.isFile path = true := List.find?_some found
    have member : path ∈ plan := List.mem_of_find?_eq_some found
    have isFound : answer.found = true := exhausts.found.mpr ⟨path, member, held⟩
    have isFound' : answer'.found = true :=
      longer.found.mpr ⟨path, List.mem_append_left _ member, held⟩
    have named : answer.path? = some path := exhausts.path.trans found
    have named' : answer'.path? = some path := by
      rw [longer.path, List.find?_append, found, Option.some_or]
    have probed : answer'.candidates = answer.candidates := by
      rw [longer.candidates, exhausts.candidates, probed_append_of_some found]
    refine ⟨fun _ => ?_, fun missing => ?_⟩
    · rw [eq_of_path? named', eq_of_path? named, longer.strategy, exhausts.strategy, isFound,
        isFound', probed]
    · rw [isFound] at missing
      cases missing
  | none =>
    have missing : answer.found = false := by
      rw [Bool.eq_false_iff, ne_eq, exhausts.found]
      rintro ⟨path, member, held⟩
      exact List.find?_eq_none.mp found path member held
    refine ⟨fun isFound => ?_, fun _ => ?_⟩
    · rw [missing] at isFound
      cases isFound
    · rw [longer.candidates, probed_append_of_none found, exhausts.candidates, probed_of_none found]
      exact List.prefix_append ..

/-! ### Plans with one more ending -/

/-- With one more ending the first file of a plan stays, or a path that is probed with and without
it is a file with this ending. -/
theorem find?_snoc {isFile : Text → Bool} {endings bases : List Text} (ending : Text)
    (found : (bases.flatMap (Plan.asFile endings)).find? isFile = some path) :
    ∃ path', (bases.flatMap (Plan.asFile (endings ++ [ending]))).find? isFile = some path' ∧
      (path' = path ∨ ∃ base, path' = base ++ ending ∧
        base ∈ (bases.flatMap (Plan.asFile endings)).take
          ((bases.flatMap (Plan.asFile endings)).findIdx isFile + 1) ∧
        base ∈ (bases.flatMap (Plan.asFile (endings ++ [ending]))).take
          ((bases.flatMap (Plan.asFile (endings ++ [ending]))).findIdx isFile + 1)) := by
  induction bases with
  | nil => cases found
  | cons base rest ih =>
    rw [List.flatMap_cons, List.find?_append] at found
    rw [List.flatMap_cons, List.flatMap_cons, List.find?_append]
    have tried : (Plan.asFile (endings ++ [ending]) base).find? isFile
        = ((Plan.asFile endings base).find? isFile).or ([base ++ ending].find? isFile) := by
      rw [Plan.asFile_snoc, List.find?_append]
    cases here : (Plan.asFile endings base).find? isFile with
    | some first =>
      rw [here, Option.some_or] at found tried
      exact ⟨first, by rw [tried, Option.some_or], .inl (Option.some.inj found)⟩
    | none =>
      rw [here, Option.none_or] at found tried
      cases ended : isFile (base ++ ending) with
      | true =>
        have last : [base ++ ending].find? isFile = some (base ++ ending) := by simp [ended]
        refine ⟨base ++ ending, by rw [tried, last, Option.some_or], .inr ⟨base, rfl, ?_, ?_⟩⟩
        · exact List.mem_cons_self ..
        · exact List.mem_cons_self ..
      | false =>
        have last : [base ++ ending].find? isFile = none := by simp [ended]
        rw [last] at tried
        rw [tried, Option.none_or, probed_append_of_none here, probed_append_of_none tried]
        obtain ⟨path', found', same | ⟨other, named, probed, probed'⟩⟩ := ih found
        · exact ⟨path', found', .inl same⟩
        · exact ⟨path', found', .inr ⟨other, named, List.mem_append_right _ probed,
            List.mem_append_right _ probed'⟩⟩

/-- One more ending keeps what was found: in its place may stand a path that was probed before it,
with this ending. -/
theorem exhausts_snoc {endings bases : List Text} {ending : Text}
    (exhausts : Resolution.Exhausts h (bases.flatMap (Plan.asFile endings)) specifier answer)
    (longer : Resolution.Exhausts h (bases.flatMap (Plan.asFile (endings ++ [ending]))) specifier
      answer') (isFound : answer.found = true) :
    answer'.found = true ∧ (answer'.path? ≠ answer.path? →
      ∃ base ∈ answer.candidates, base ∈ answer'.candidates ∧
        answer'.path? = some (base ++ ending)) := by
  obtain ⟨path, member, held⟩ := exhausts.found.mp isFound
  obtain ⟨first, found⟩ : ∃ first,
      (bases.flatMap (Plan.asFile endings)).find? h.isFile = some first :=
    Option.isSome_iff_exists.mp (List.find?_isSome.mpr ⟨path, member, held⟩)
  obtain ⟨path', found', alternatives⟩ := find?_snoc ending found
  refine ⟨longer.found.mpr ⟨path', List.mem_of_find?_eq_some found', List.find?_some found'⟩, ?_⟩
  rw [longer.path, exhausts.path, found, found', longer.candidates, exhausts.candidates]
  intro changed
  rcases alternatives with rfl | ⟨base, rfl, probed, probed'⟩
  · exact absurd rfl changed
  · exact ⟨base, probed, probed', rfl⟩

/-! ### Answers -/

/-- Where there is a working directory, a specifier other than a core module is answered from its
whole plan, if there is room for it. -/
theorem exists_exhausts (existing : h.directory? = some cwd) (set : settings.SetBy members)
    (notCore : isCore specifier = false) (absolute : Path.isAbsolute file = true)
    (fits : ∀ descent, ¬ Plan.OverflowsFor h settings cwd specifier file descent) :
    ∃ answer, (resolve h specifier file members).outcome = .ok answer ∧
      Resolution.Exhausts h (Plan.ofSpecifier h settings cwd specifier file) specifier answer := by
  have free : ¬ Stranded h settings specifier file := by
    intro stranded
    cases existing.symm.trans stranded.removed
  have roomy (descent : Descent) : ¬ Cramped h settings specifier file descent := by
    intro cramped
    apply fits descent
    simpa [existing, Path.join, absolute] using cramped.full
  obtain ⟨answer, answered, exhausts⟩ := resolveWith_exhausts notCore free roomy
  refine ⟨answer, ?_, ?_⟩
  · rw [resolve, ofMembers_of_setBy set, outcome_containing, answered]
    rfl
  · simpa [existing, Path.join, absolute] using exhausts

/-- Where something is found without it, there is room for one more extra path. -/
theorem fits_withPath (path : Text)
    (exhausts : Resolution.Exhausts h (Plan.ofSpecifier h settings cwd specifier file) specifier
      answer) (isFound : answer.found = true)
    (fits : ∀ descent, ¬ Plan.OverflowsFor h settings cwd specifier file descent)
    (descent : Descent) :
    ¬ Plan.OverflowsFor h (settings.withPath path) cwd specifier file descent := by
  intro full
  obtain ⟨more, extended⟩ := Plan.targets_withPath settings path cwd specifier file
  rw [Plan.OverflowsFor, extended] at full
  rcases Plan.overflowsIn_append full with full | missed
  · exact fits descent full
  · obtain ⟨found, member, held⟩ := exhausts.found.mp isFound
    rw [Plan.ofSpecifier_targets] at member
    rw [missed found member] at held
    cases held

/-- Extending the options of a search for which there is room is conservative. One more extra path
leaves every answer that found something as it is, and adds to what was probed in vain, if there is
room to search there. One more ending keeps everything that was found; if another file is found in
its place, it is a path that was probed before, with this ending. -/
theorem resolve_extended (existing : h.directory? = some cwd) (set : settings.SetBy members)
    (specifier : Text) (absolute : Path.isAbsolute file = true)
    (fits : isCore specifier = false →
      ∀ descent, ¬ Plan.OverflowsFor h settings cwd specifier file descent) :
    ∃ answer, (resolve h specifier file members).outcome = .ok answer ∧
      (∀ path members', (settings.withPath path).SetBy members' →
        (answer.found = true → (resolve h specifier file members').outcome = .ok answer) ∧
        (answer.found = false →
          (∀ descent, ¬ Plan.OverflowsFor h (settings.withPath path) cwd specifier file descent) →
          ∃ answer', (resolve h specifier file members').outcome = .ok answer' ∧
            answer.candidates <+: answer'.candidates)) ∧
      (∀ ending members', (settings.withEnding ending).SetBy members' →
        ∃ answer', (resolve h specifier file members').outcome = .ok answer' ∧
          (answer.found = true → answer'.found = true ∧ (answer'.path? ≠ answer.path? →
            ∃ base ∈ answer.candidates, base ∈ answer'.candidates ∧
              answer'.path? = some (base ++ ending)))) := by
  cases core : isCore specifier with
  | true =>
    have answered {members : List (Text × Json)} {settings : Settings}
        (set : settings.SetBy members) :
        (resolve h specifier file members).outcome = .ok .coreModule :=
      resolve_core (ofMembers_of_setBy set) core file
    refine ⟨_, answered set, fun path members' set' => ?_, fun ending members' set' => ?_⟩
    · exact ⟨fun _ => answered set', nofun⟩
    · exact ⟨_, answered set', fun _ => ⟨rfl, fun changed => absurd rfl changed⟩⟩
  | false =>
    have fits := fits core
    obtain ⟨answer, answered, exhausts⟩ := exists_exhausts existing set core absolute fits
    refine ⟨answer, answered, fun path members' set' => ?_, fun ending members' set' => ?_⟩
    · obtain ⟨more, extended⟩ := Plan.ofSpecifier_withPath h settings path cwd specifier file
      refine ⟨fun isFound => ?_, fun missing fits' => ?_⟩
      · obtain ⟨answer', answered', longer⟩ := exists_exhausts existing set' core absolute
          (fits_withPath path exhausts isFound fits)
        rw [extended] at longer
        rw [answered', (exhausts_append exhausts longer).1 isFound]
      · obtain ⟨answer', answered', longer⟩ := exists_exhausts existing set' core absolute fits'
        rw [extended] at longer
        exact ⟨answer', answered', (exhausts_append exhausts longer).2 missing⟩
    · obtain ⟨answer', answered', longer⟩ := exists_exhausts existing set' core absolute
        fun descent full => fits descent (Plan.overflowsIn_of_snoc full)
      rw [Plan.ofSpecifier_withEnding] at longer
      rw [Plan.ofSpecifier_eq] at exhausts
      exact ⟨answer', answered', exhausts_snoc exhausts longer⟩

/-- A directory with an index file, and beside it a file with another ending. -/
def besideIndex : Host :=
  ⟨⟨[(Place.ofPath "/p/lib/index.js".toList, .file (.text [])),
    (Place.ofPath "/p/lib".toList, .directory),
    (Place.ofPath "/p/lib.ts".toList, .file (.text [])),
    (Place.ofPath "/p".toList, .directory)]⟩, some "/p".toList, .usual⟩

/-- One more extra path changes nothing, and one more ending finds the file in place of the
index. -/
theorem resolve_extended_besideIndex :
    ∃ answer, answer.path? = some "/p/lib/index.js".toList ∧
      (resolve besideIndex "./lib".toList "/p/a.js".toList
        [("extensions".toList, .arr [.str ".js".toList])]).outcome = .ok answer ∧
      (resolve besideIndex "./lib".toList "/p/a.js".toList
        [("extensions".toList, .arr [.str ".js".toList]),
          ("paths".toList, .str "/q".toList)]).outcome = .ok answer ∧
      ∃ answer', answer'.path? = some "/p/lib.ts".toList ∧
        (resolve besideIndex "./lib".toList "/p/a.js".toList
          [("extensions".toList, .arr [.str ".js".toList, .str ".ts".toList])]).outcome
            = .ok answer' ∧
        ∃ base ∈ answer.candidates, base ∈ answer'.candidates ∧
          "/p/lib.ts".toList = base ++ ".ts".toList := by
  have set : Settings.SetBy ⟨[".js".toList], [Options.defaultModuleDirectory], []⟩
      [("extensions".toList, .arr [.str ".js".toList])] :=
    ⟨.many [".js".toList] (by decide), .absent, .absent⟩
  have extraPath : Settings.SetBy ⟨[".js".toList], [Options.defaultModuleDirectory], ["/q".toList]⟩
      [("extensions".toList, .arr [.str ".js".toList]), ("paths".toList, .str "/q".toList)] :=
    ⟨.many [".js".toList] (by decide), .absent, .one _ (by decide)⟩
  have extraEnding : Settings.SetBy
      ⟨[".js".toList, ".ts".toList], [Options.defaultModuleDirectory], []⟩
      [("extensions".toList, .arr [.str ".js".toList, .str ".ts".toList])] :=
    ⟨.many [".js".toList, ".ts".toList] (by decide), .absent, .absent⟩
  have index : (resolve besideIndex "./lib".toList "/p/a.js".toList
      [("extensions".toList, .arr [.str ".js".toList])]).outcome.map Resolution.path?
        = .ok (some "/p/lib/index.js".toList) := by decide +kernel
  have beside : (resolve besideIndex "./lib".toList "/p/a.js".toList
      [("extensions".toList, .arr [.str ".js".toList, .str ".ts".toList])]).outcome.map
        Resolution.path? = .ok (some "/p/lib.ts".toList) := by decide +kernel
  have spacious : besideIndex.Spacious := by decide +kernel
  obtain ⟨answer, answered, withPath, withEnding⟩ :=
    @resolve_extended besideIndex _ "/p".toList "/p/a.js".toList _ rfl set "./lib".toList
      (by decide) fun _ _ => Plan.fits_of_spacious spacious _
  obtain ⟨kept, -⟩ := withPath "/q".toList _ extraPath
  obtain ⟨answer'', answered'', more⟩ := withEnding ".ts".toList _ extraEnding
  rw [answered] at index
  rw [answered''] at beside
  have first : answer.path? = some "/p/lib/index.js".toList := Except.ok.inj index
  have second : answer''.path? = some "/p/lib.ts".toList := Except.ok.inj beside
  have found : answer.found = true := by rw [eq_of_path? first]; rfl
  obtain ⟨base, probed, probed', named⟩ := (more found).2 (by rw [first, second]; decide)
  exact ⟨answer, first, answered, kept found, answer'', second, answered'', base, probed, probed',
    Option.some.inj (second.symm.trans named)⟩

end ImportResolution.Module
