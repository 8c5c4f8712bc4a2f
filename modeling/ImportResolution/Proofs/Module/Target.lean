import ImportResolution.Proofs.Host.Root
import ImportResolution.Proofs.Module.Placed

/-! Targets of a specifier. An absolute or a relative specifier has one target, and a package has
one in each of the searched directories; a file that is found is found by loading one of them. -/
namespace ImportResolution.Module

/-- A directory that is searched for a package: a module directory of a directory on the way up, or
the absolute form of an extra path. -/
inductive Searched (h : Host) (options : Options) (directory : Text) : Text → Prop where
  | level {level name : Text} (above : level ∈ Path.ancestors directory)
      (listed : .str name ∈ options.moduleDirectories) :
      Searched h options directory (Path.join level name)
  | extra {path searched : Text} (listed : .str path ∈ options.paths)
      (made : h.absolute path = .ok searched) : Searched h options directory searched

/-- What may be loaded for a specifier that is imported from a directory. -/
inductive IsTarget (h : Host) (options : Options) (specifier directory : Text) : Text → Prop where
  | absolute (placed : Path.isAbsolute specifier = true) :
      IsTarget h options specifier directory (Path.normalize specifier)
  | relative (placed : isRelative specifier = true) :
      IsTarget h options specifier directory (Path.normalize (Path.join directory specifier))
  | package {searched : Text} (unplaced : Path.isAbsolute specifier = false)
      (unrelated : isRelative specifier = false) (listed : Searched h options directory searched) :
      IsTarget h options specifier directory (Path.join searched specifier)

variable {h : Host} {options : Options} {names items : List Json} {directories found : List Text}
  {directory searched specifier file path : Text} {members : List (Text × Json)}
  {answer : Resolution}

/-! ### Searched directories -/

theorem mem_moduleDirectoriesOf (listed : moduleDirectoriesOf directory items = .ok found)
    (member : searched ∈ found) :
    ∃ name, .str name ∈ items ∧ searched = Path.join directory name := by
  induction items generalizing found with
  | nil =>
    cases listed
    cases member
  | cons item rest ih =>
    cases item with
    | str name =>
      obtain ⟨others, later, rfl⟩ := Except.map_eq_ok.mp listed
      rcases List.mem_cons.mp member with rfl | member
      · exact ⟨name, List.mem_cons_self .., rfl⟩
      · obtain ⟨name, listed, rfl⟩ := ih later member
        exact ⟨name, List.mem_cons_of_mem _ listed, rfl⟩
    | _ => cases listed

theorem mem_levels (listed : levels names directories = .ok found) (member : searched ∈ found) :
    ∃ level ∈ directories, ∃ name, .str name ∈ names ∧ searched = Path.join level name := by
  induction directories generalizing found with
  | nil =>
    cases listed
    cases member
  | cons directory rest ih =>
    unfold levels at listed
    split at listed
    · cases listed
    · rename_i here near
      obtain ⟨farther, later, rfl⟩ := Except.map_eq_ok.mp listed
      rcases List.mem_append.mp member with member | member
      · split at near
        · cases near
          cases member
        · exact ⟨directory, List.mem_cons_self .., mem_moduleDirectoriesOf near member⟩
      · obtain ⟨level, above, named⟩ := ih later member
        exact ⟨level, List.mem_cons_of_mem _ above, named⟩

theorem mem_extraPaths (listed : extraPaths h items = .ok found) (member : searched ∈ found) :
    ∃ path, .str path ∈ items ∧ h.absolute path = .ok searched := by
  induction items generalizing found with
  | nil =>
    cases listed
    cases member
  | cons item rest ih =>
    cases item with
    | str path =>
      unfold extraPaths at listed
      simp only [itemText] at listed
      split at listed
      · cases listed
      · rename_i made
        obtain ⟨others, later, rfl⟩ := Except.map_eq_ok.mp listed
        rcases List.mem_cons.mp member with rfl | member
        · exact ⟨path, List.mem_cons_self .., made⟩
        · obtain ⟨path, listed, made⟩ := ih later member
          exact ⟨path, List.mem_cons_of_mem _ listed, made⟩
    | _ => cases listed

/-- No other directories are searched. -/
theorem searched_of_searchPath (listed : searchPath h options directory = .ok found)
    (member : searched ∈ found) : Searched h options directory searched := by
  unfold searchPath at listed
  split at listed
  · cases listed
  · rename_i near ofLevels
    obtain ⟨others, extra, rfl⟩ := Except.map_eq_ok.mp listed
    rcases List.mem_append.mp member with member | member
    · obtain ⟨level, above, name, named, rfl⟩ := mem_levels ofLevels member
      exact .level above named
    · obtain ⟨path, listed, made⟩ := mem_extraPaths extra member
      exact .extra listed made

/-! ### Loaded targets -/

/-- A package that is found is found in one of the directories. -/
theorem hit_of_loadPackage {extensions : List Json} {name : Text}
    (hit : (loadPackage h extensions name directories).verdict = .hit path) :
    ∃ directory ∈ directories,
      (load h extensions (Path.join directory name)).verdict = .hit path := by
  induction directories with
  | nil => cases hit
  | cons directory rest ih =>
    unfold loadPackage at hit
    rw [Trail.verdict_orElse] at hit
    cases ended : (load h extensions (Path.join directory name)).verdict with
    | miss =>
      obtain ⟨later, member, loaded⟩ := ih (by simpa [ended] using hit)
      exact ⟨later, List.mem_cons_of_mem _ member, loaded⟩
    | hit other => exact ⟨directory, List.mem_cons_self .., by simpa [ended] using hit⟩
    | failed fault => simp [ended] at hit

theorem hit_of_resolution {trail : Trail} {strategy : Strategy}
    (answered : trail.resolution strategy = .ok answer) (named : answer.path? = some path) :
    trail.verdict = .hit path := by
  unfold Trail.resolution at answered
  split at answered
  · rename_i ended
    cases answered
    cases named
    exact ended
  · cases answered
    cases named
  · cases answered

theorem candidates_of_resolution {trail : Trail} {strategy : Strategy}
    (answered : trail.resolution strategy = .ok answer) : answer.candidates = trail.candidates := by
  unfold Trail.resolution at answered
  split at answered
  · cases answered
    rfl
  · cases answered
    rfl
  · cases answered

/-- A search that finds a file finds it by loading a target. -/
theorem exists_target_of_search
    (answered : (search h options specifier directory).outcome = .ok answer)
    (named : answer.path? = some path) :
    ∃ target, IsTarget h options specifier directory target ∧
      (load h options.extensions target).verdict = .hit path := by
  unfold search at answered
  split at answered
  · rename_i placed
    exact ⟨_, .absolute placed, hit_of_resolution answered named⟩
  · rename_i unplaced
    split at answered
    · rename_i placed
      exact ⟨_, .relative placed, hit_of_resolution answered named⟩
    · rename_i unrelated
      split at answered
      · cases answered
      · rename_i listed
        obtain ⟨searched, member, hit⟩ := hit_of_loadPackage (hit_of_resolution answered named)
        refine ⟨_, .package ?_ ?_ (searched_of_searchPath listed member), hit⟩
        · simpa using unplaced
        · simpa using unrelated

/-- The answer to an absolute specifier is what loading it gives, unless the search was cut short
before anything was probed. -/
theorem answer_of_absolute (placed : Path.isAbsolute specifier = true)
    (accepted : Options.ofMembers members = .ok options)
    (answered : (resolve h specifier file members).outcome = .ok answer) :
    answer = .missing [] ∨
      (load h options.extensions (Path.normalize specifier)).resolution .absolute = .ok answer := by
  have start : specifier.head? = some '/' := by simpa [Path.isAbsolute] using placed
  simp only [resolve, accepted, outcome_containing] at answered
  rcases contained_eq_ok.mp answered with ended | ⟨missing, -⟩
  · simp only [resolveWith, isCore_of_start (.inl start), Bool.false_eq_true, if_false] at ended
    split at ended
    · cases ended
    · simp only [search, placed, if_true] at ended
      exact .inr ended
  · exact .inl missing

/-- Where resolving a specifier gives a file, a target of the specifier was loaded. -/
theorem exists_target (answered : (resolve h specifier file members).outcome = .ok answer)
    (named : answer.path? = some path) :
    ∃ options start target, Options.ofMembers members = .ok options ∧ h.absolute file = .ok start ∧
      IsTarget h options specifier (Path.dirname start) target ∧
      (load h options.extensions target).verdict = .hit path := by
  unfold resolve at answered
  split at answered
  · cases answered
  · rename_i options accepted
    rw [outcome_containing] at answered
    -- what becomes of a refusal names no file
    rcases contained_eq_ok.mp answered with ended | ⟨rfl, -⟩
    · unfold resolveWith at ended
      split at ended
      · cases ended
        cases named
      · split at ended
        · cases ended
        · rename_i start made
          obtain ⟨target, isTarget, hit⟩ := exists_target_of_search ended named
          exact ⟨options, start, target, accepted, made, isTarget, hit⟩
    · cases named

end ImportResolution.Module
