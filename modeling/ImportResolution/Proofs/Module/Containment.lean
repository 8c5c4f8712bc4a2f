import ImportResolution.Proofs.Module.Placed
import ImportResolution.Proofs.Module.Plan

/-! Containment: what the module search makes into an answer. Unreadable files, broken manifests,
links that lead back to themselves and refused names count as files that are not there. A working
directory that has been removed cuts a search short, and only where a relative path has to be seen
from it. What is not contained is a manifest that there is no room to read. -/
namespace ImportResolution.Module

variable {h : Host} {specifier file directory cwd : Text} {settings : Settings}
  {members : List (Text × Json)}

/-- A search that has to see a relative path from a working directory that has been removed: the
importing file, or an extra path on the way to a package. -/
structure Stranded (h : Host) (settings : Settings) (specifier file : Text) : Prop where
  removed : h.directory? = none
  notCore : isCore specifier = false
  needed : Path.isAbsolute file = false ∨
    (Path.isAbsolute file = true ∧ Path.isAbsolute specifier = false ∧
      isRelative specifier = false ∧ ∃ path ∈ settings.paths, Path.isAbsolute path = false)

/-- The answer of a search that tried its whole plan, up to the first file. -/
structure Resolution.Exhausts (h : Host) (plan : List Text) (specifier : Text)
    (answer : Resolution) : Prop where
  found : answer.found = true ↔ ∃ path ∈ plan, h.isFile path = true
  path : answer.path? = plan.find? h.isFile
  candidates : answer.candidates = plan.take (plan.findIdx h.isFile + 1)
  strategy : answer.strategy = if answer.found then Plan.strategy specifier else .notFound

/-- A path has an absolute form unless it is relative and the working directory has been removed. -/
theorem absolute_total (path : Text)
    (placed : h.directory? = none → Path.isAbsolute path = true) :
    h.absolute path = .ok (Path.normalize (Path.join (h.directory?.getD []) path)) := by
  cases existing : h.directory? with
  | some cwd => exact absolute_of_directory existing path
  | none => simp [Host.absolute, placed existing, Path.join]

theorem absolute_removed (removed : h.directory? = none) {path : Text}
    (relative : Path.isAbsolute path = false) :
    h.absolute path = .error .noWorkingDirectory := by
  simp [Host.absolute, relative, Host.workingDirectory, removed, Except.map]

/-- The first relative one of the extra paths ends the list. -/
theorem extraPaths_removed (removed : h.directory? = none) {paths : List Text}
    (relative : ∃ path ∈ paths, Path.isAbsolute path = false) :
    extraPaths h (paths.map .str) = .error .noWorkingDirectory := by
  induction paths with
  | nil => simp at relative
  | cons path rest ih =>
    cases absolute : Path.isAbsolute path with
    | false => simp [extraPaths, itemText, absolute_removed removed absolute]
    | true =>
      obtain ⟨other, member, unplaced⟩ := relative
      have later : ∃ path ∈ rest, Path.isAbsolute path = false := by
        rcases List.mem_cons.mp member with rfl | member
        · rw [absolute] at unplaced; cases unplaced
        · exact ⟨other, member, unplaced⟩
      simp [extraPaths, itemText, Host.absolute, absolute, ih later, Except.map]

/-- A stranded search is cut short. -/
theorem resolveWith_stranded (stranded : Stranded h settings specifier file) :
    (resolveWith h settings.toOptions specifier file).outcome = .error .noWorkingDirectory := by
  obtain ⟨removed, notCore, relative | ⟨absolute, unplaced, unrelated, extra⟩⟩ := stranded
  · simp [resolveWith, notCore, absolute_removed removed relative]
  · have cut : extraPaths h settings.toOptions.paths = .error .noWorkingDirectory :=
      extraPaths_removed removed extra
    have levelled : levels settings.toOptions.moduleDirectories
        (Path.ancestors (Path.dirname (Path.normalize file)))
          = .ok ((Path.ancestors (Path.dirname (Path.normalize file))).flatMap
              settings.directoriesOf) :=
      levels_texts _
    have listed : searchPath h settings.toOptions (Path.dirname (Path.normalize file))
        = .error .noWorkingDirectory := by
      simp [searchPath, levelled, cut, Except.map]
    simp [resolveWith, notCore, Host.absolute, absolute, search, unplaced, unrelated, listed]

/-- There is no room to answer a specifier: it has to be searched for, the search is not stranded,
and it comes to a manifest that there is no room to read. -/
structure Cramped (h : Host) (settings : Settings) (specifier file : Text) (descent : Descent) :
    Prop where
  notCore : isCore specifier = false
  free : ¬ Stranded h settings specifier file
  full : Plan.OverflowsFor h settings (h.directory?.getD []) specifier
    (Path.join (h.directory?.getD []) file) descent

/-- A search for anything but a core module that is not stranded runs to its end, as far as there is
room. -/
theorem resolveWith_ends (notCore : isCore specifier = false)
    (free : ¬ Stranded h settings specifier file) :
    ∃ trail : Trail, trail.Ends h (Plan.ofSpecifier h settings (h.directory?.getD []) specifier
        (Path.join (h.directory?.getD []) file)) (Cramped h settings specifier file) ∧
      resolveWith h settings.toOptions specifier file
        = trail.traced (Plan.strategy specifier) := by
  have fileMade : h.absolute file
      = .ok (Path.normalize (Path.join (h.directory?.getD []) file)) := by
    apply absolute_total
    intro removed
    cases absolute : Path.isAbsolute file with
    | true => rfl
    | false => exact absurd ⟨removed, notCore, .inl absolute⟩ free
  have listed : Path.isAbsolute specifier = false → isRelative specifier = false →
      ∀ path ∈ settings.paths,
        h.absolute path = .ok (Path.normalize (Path.join (h.directory?.getD []) path)) := by
    intro unplaced unrelated path member
    apply absolute_total
    intro removed
    cases placed : Path.isAbsolute path with
    | true => rfl
    | false =>
      -- a relative file strands the search just as well, so nothing has to be known of it
      refine absurd ⟨removed, notCore, ?_⟩ free
      cases absolute : Path.isAbsolute file with
      | false => exact .inl rfl
      | true => exact .inr ⟨rfl, unplaced, unrelated, path, member, placed⟩
  obtain ⟨trail, ends, searched⟩ :=
    search_ends_listed settings specifier (Path.join (h.directory?.getD []) file)
      fun unplaced unrelated => searchPath_of_absolute (listed unplaced unrelated) _
  refine ⟨trail, ?_, ?_⟩
  · cases ends with
    | followed fits followed =>
      exact .followed (fun descent cramped => fits _ cramped.full) followed
    | exhausted descent full failed => exact .exhausted descent ⟨notCore, free, full⟩ failed
  · simp only [resolveWith, notCore, Bool.false_eq_true, if_false, fileMade, searched]

/-- Where there is room, it has an answer. -/
theorem resolveWith_exhausts (notCore : isCore specifier = false)
    (free : ¬ Stranded h settings specifier file)
    (fits : ∀ descent, ¬ Cramped h settings specifier file descent) :
    ∃ answer, (resolveWith h settings.toOptions specifier file).outcome = .ok answer ∧
      Resolution.Exhausts h (Plan.ofSpecifier h settings (h.directory?.getD []) specifier
        (Path.join (h.directory?.getD []) file)) specifier answer := by
  obtain ⟨trail, ends, searched⟩ := resolveWith_ends notCore free
  cases ends with
  | followed _ followed =>
    obtain ⟨answer, answered, found, path, candidates, strategy⟩ :=
      resolution_of_follows (Plan.strategy specifier) followed
    exact ⟨answer, by rw [searched, Trail.traced, answered], found, path, candidates, strategy⟩
  | exhausted descent cramped => exact absurd cramped (fits descent)

/-- Where there is none, this is a fault, and nothing contains it. -/
theorem resolve_of_cramped (set : settings.SetBy members) {descent : Descent}
    (cramped : Cramped h settings specifier file descent) :
    (resolve h specifier file members).outcome = .error (.exhausted descent) := by
  obtain ⟨trail, ends, searched⟩ := resolveWith_ends cramped.notCore cramped.free
  cases ends with
  | followed fits => exact absurd cramped (fits descent)
  | exhausted other full failed =>
    have same : other = descent := Plan.overflowsIn_unique full.full cramped.full
    rw [resolve, ofMembers_of_setBy set, outcome_containing, searched, Trail.traced,
      Trail.resolution, failed, same]
    rfl

/-- Every request to the module search under well-formed options has an answer, unless there is no
room to read a manifest that the search comes to: that is the one fault that nothing contains. A
refusal of the file system cuts the search short if and only if the search is stranded, and then
nothing is found and no path was probed; otherwise a core module is found by its name, and any other
specifier is answered from its whole plan. -/
theorem resolve_contains (set : settings.SetBy members) :
    (∀ descent, Cramped h settings specifier file descent →
      (resolve h specifier file members).outcome = .error (.exhausted descent)) ∧
    ((∀ descent, ¬ Cramped h settings specifier file descent) →
      ∃ answer, (resolve h specifier file members).outcome = .ok answer ∧
        ((∃ fault, (resolveWith h settings.toOptions specifier file).outcome = .error fault) ↔
          Stranded h settings specifier file) ∧
        (Stranded h settings specifier file →
          (resolveWith h settings.toOptions specifier file).outcome = .error .noWorkingDirectory ∧
            answer = .missing []) ∧
        (¬ Stranded h settings specifier file →
          (resolveWith h settings.toOptions specifier file).outcome = .ok answer ∧
            (isCore specifier = true → answer = .coreModule) ∧
            (isCore specifier = false →
              Resolution.Exhausts h (Plan.ofSpecifier h settings (h.directory?.getD []) specifier
                (Path.join (h.directory?.getD []) file)) specifier answer))) := by
  refine ⟨fun _ => resolve_of_cramped set, fun fits => ?_⟩
  simp only [resolve, ofMembers_of_setBy set, outcome_containing]
  by_cases stranded : Stranded h settings specifier file
  · have cut := resolveWith_stranded stranded
    exact ⟨.missing [], by rw [cut]; rfl, by simp [cut, stranded], fun _ => ⟨cut, rfl⟩,
      fun free => absurd stranded free⟩
  · cases core : isCore specifier with
    | true =>
      have answered : (resolveWith h settings.toOptions specifier file).outcome
          = .ok .coreModule := by
        simp [resolveWith, core, Traced.answer]
      exact ⟨.coreModule, by rw [answered]; rfl, by simp [answered, stranded],
        fun absurdly => absurd absurdly stranded, fun _ => ⟨answered, fun _ => rfl, by simp⟩⟩
    | false =>
      obtain ⟨answer, answered, exhausts⟩ := resolveWith_exhausts core stranded fits
      exact ⟨answer, by rw [answered]; rfl, by simp [answered, stranded],
        fun absurdly => absurd absurdly stranded,
        fun _ => ⟨answered, by simp, fun _ => exhausts⟩⟩

/-- A package whose manifest is no text and whose index is a link that leads back to itself, seen
from a working directory that has been removed. -/
def broken : Host :=
  ⟨⟨[
    (Place.ofPath "/p/node_modules/lib/package.json".toList, .file (.octets [0x7b, 0xff])),
    (Place.ofPath "/p/node_modules/lib/index.js".toList, .link "index.js".toList),
    (Place.ofPath "/p/node_modules/lib".toList, .directory),
    (Place.ofPath "/p/node_modules".toList, .directory),
    (Place.ofPath "/p".toList, .directory)]⟩, none, .usual⟩

/-- The broken package is missing after the whole plan was tried, and a relative extra path strands
the same search. -/
theorem resolve_contains_broken :
    (∃ answer, (resolve broken "lib".toList "/p/a.js".toList
        [("extensions".toList, .str ".js".toList)]).outcome = .ok answer ∧
      answer.found = false ∧ answer.candidates.length = 6) ∧
    (∃ answer, (resolve broken "lib".toList "/p/a.js".toList
        [("paths".toList, .str "extra".toList)]).outcome = .ok answer ∧
      answer = .missing []) := by
  have notCore : isCore "lib".toList = false := by decide +kernel
  have spacious : broken.Spacious := by decide +kernel
  have fits {settings : Settings} (descent : Descent) :
      ¬ Cramped broken settings "lib".toList "/p/a.js".toList descent :=
    fun cramped => Plan.fits_of_spacious spacious _ cramped.full
  constructor
  · have set : Settings.SetBy ⟨[".js".toList], [Options.defaultModuleDirectory], []⟩
        [("extensions".toList, .str ".js".toList)] :=
      ⟨.one _ (by decide), .absent, .absent⟩
    obtain ⟨answer, answered, -, -, free⟩ :=
      (@resolve_contains broken "lib".toList "/p/a.js".toList _ _ set).2 fits
    have exhausts := (free fun stranded => by
      rcases stranded.needed with relative | ⟨-, -, -, path, member, -⟩
      · exact absurd relative (by decide)
      · simp at member).2.2 notCore
    refine ⟨answer, answered, ?_, ?_⟩
    · rw [Bool.eq_false_iff, ne_eq, exhausts.found]
      decide +kernel
    · rw [exhausts.candidates]
      decide +kernel
  · have set : Settings.SetBy ⟨Options.defaultExtensions, [Options.defaultModuleDirectory],
        ["extra".toList]⟩ [("paths".toList, .str "extra".toList)] :=
      ⟨.absent, .absent, .one _ (by decide)⟩
    obtain ⟨answer, answered, -, cut, -⟩ :=
      (@resolve_contains broken "lib".toList "/p/a.js".toList _ _ set).2 fits
    exact ⟨answer, answered, (cut ⟨rfl, notCore,
      .inr ⟨by decide, by decide, by decide, _, List.mem_singleton.mpr rfl, by decide⟩⟩).2⟩

/-- A directory with an index and a manifest that opens a thousand brackets. -/
def bracketed : Host :=
  ⟨⟨[
    (Place.ofPath "/p/lib/package.json".toList, .file (.text (List.replicate 1000 '['))),
    (Place.ofPath "/p/lib/index.js".toList, .file (.text [])),
    (Place.ofPath "/p/lib".toList, .directory),
    (Place.ofPath "/p".toList, .directory)]⟩, some "/".toList, .usual⟩

/-- Not every request has an answer: the reader of the manifest has no room for so many brackets,
and the index is not tried. -/
theorem bracketed_not_contained : ¬ ∀ (h : Host) (settings : Settings)
    (members : List (Text × Json)) (specifier file : Text), settings.SetBy members →
      ∃ answer, (resolve h specifier file members).outcome = .ok answer := by
  intro contains
  have set : Settings.SetBy
      ⟨Options.defaultExtensions, [Options.defaultModuleDirectory], []⟩ [] :=
    ⟨.absent, .absent, .absent⟩
  obtain ⟨answer, answered⟩ := contains bracketed _ _ "./lib".toList "/p/a.js".toList set
  have refused : (resolve bracketed "./lib".toList "/p/a.js".toList []).outcome
      = .error (.exhausted (.container .array)) := by
    decide +kernel
  rw [refused] at answered
  cases answered

end ImportResolution.Module
