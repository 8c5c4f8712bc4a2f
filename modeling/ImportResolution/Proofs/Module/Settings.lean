import ImportResolution.Module.SearchPath

/-! Settings are options whose items are texts, as a configuration that is written by the rules
gives them. Under settings nothing is refused: the directories to be searched for a package are a
list that only the working directory and the importing one decide. -/
namespace ImportResolution.Module

/-- The texts that an option lists. One that is absent or counts as false lists the default, and one
that holds anything but texts lists nothing. -/
inductive Lists (default : List Text) : Option Json → List Text → Prop where
  | absent : Lists default none default
  | blank (blank : value.truthy = false) : Lists default (some value) default
  | one (text : Text) (nonempty : text ≠ []) : Lists default (some (.str text)) [text]
  | many (texts : List Text) (nonempty : texts ≠ []) :
      Lists default (some (.arr (texts.map .str))) texts

/-- Options whose items are texts. -/
structure Settings where
  extensions : List Text
  moduleDirectories : List Text
  paths : List Text

namespace Settings

/-- The options with these items. -/
def toOptions (settings : Settings) : Options :=
  { extensions := settings.extensions.map .str
    moduleDirectories := settings.moduleDirectories.map .str
    paths := settings.paths.map .str }

/-- The members of an object set these settings, each of them by an option of its own. -/
structure SetBy (settings : Settings) (members : List (Text × Json)) : Prop where
  extensions : Lists Options.defaultExtensions (Json.find? members "extensions".toList)
    settings.extensions
  moduleDirectories : Lists [Options.defaultModuleDirectory]
    (Json.find? members "moduleDirectory".toList) settings.moduleDirectories
  paths : Lists [] (Json.find? members "paths".toList) settings.paths

end Settings

variable {default texts : List Text} {option? : Option Json} {settings : Settings}
  {members : List (Text × Json)} {h : Host} {cwd : Text}

theorem listed_of_lists (lists : Lists default option? texts) :
    Options.listed default option? = .ok (texts.map .str) := by
  cases lists with
  | absent => rfl
  | blank blank => simp [Options.listed, blank]
  | one text nonempty => simp [Options.listed, Json.truthy, nonempty]
  | many texts nonempty => simp [Options.listed, Json.truthy, nonempty]

/-- Members that set settings are accepted as options. -/
theorem ofMembers_of_setBy (set : settings.SetBy members) :
    Options.ofMembers members = .ok settings.toOptions := by
  simp only [Options.ofMembers, listed_of_lists set.extensions,
    listed_of_lists set.moduleDirectories, listed_of_lists set.paths, Settings.toOptions]

/-- Without members all settings have their defaults. -/
theorem setBy_nil :
    Settings.SetBy ⟨Options.defaultExtensions, [Options.defaultModuleDirectory], []⟩ [] :=
  ⟨.absent, .absent, .absent⟩

namespace Settings

/-- The module directories of one directory; one that is itself named like a module directory has
none. -/
def directoriesOf (settings : Settings) (directory : Text) : List Text :=
  if Path.basename directory ∈ settings.moduleDirectories then []
  else settings.moduleDirectories.map (Path.join directory)

/-- The directories that are searched for a package, seen from a working directory. -/
def searched (settings : Settings) (cwd directory : Text) : List Text :=
  (Path.ancestors directory).flatMap settings.directoriesOf
    ++ settings.paths.map fun path => Path.normalize (Path.join cwd path)

end Settings

theorem moduleDirectoriesOf_texts (directory : Text) (names : List Text) :
    moduleDirectoriesOf directory (names.map .str) = .ok (names.map (Path.join directory)) := by
  induction names with
  | nil => rfl
  | cons name names ih => simp [moduleDirectoriesOf, itemText, ih, Except.map]

theorem isModuleDirectory_texts (directory : Text) (names : List Text) :
    isModuleDirectory (names.map .str) directory = decide (Path.basename directory ∈ names) := by
  induction names with
  | nil => rfl
  | cons name names ih =>
    simp only [isModuleDirectory, List.map_cons, List.any_cons] at ih ⊢
    rw [ih, BEq.comm, Bool.eq_iff_iff]
    simp only [Bool.or_eq_true, beq_iff_eq, decide_eq_true_eq, List.mem_cons]

theorem levels_texts (directories : List Text) :
    levels (settings.moduleDirectories.map .str) directories
      = .ok (directories.flatMap settings.directoriesOf) := by
  induction directories with
  | nil => rfl
  | cons directory rest ih =>
    by_cases named : Path.basename directory ∈ settings.moduleDirectories
    · simp [levels, isModuleDirectory_texts, named, ih, Except.map, Settings.directoriesOf]
    · simp [levels, isModuleDirectory_texts, named, ih, Except.map, Settings.directoriesOf,
        moduleDirectoriesOf_texts]

/-- On two hosts that agree on what the extra paths mean, the same directories are searched. -/
theorem searchPath_congr {h h' : Host} {options : Options}
    (agree : ∀ path, .str path ∈ options.paths → h'.absolute path = h.absolute path)
    (directory : Text) : searchPath h' options directory = searchPath h options directory := by
  have extra (items : List Json)
      (agree : ∀ path, .str path ∈ items → h'.absolute path = h.absolute path) :
      extraPaths h' items = extraPaths h items := by
    induction items with
    | nil => rfl
    | cons item rest ih =>
      have later := ih fun path listed => agree path (List.mem_cons_of_mem _ listed)
      cases item with
      | str path =>
        unfold extraPaths
        simp only [itemText, agree path (List.mem_cons_self ..), later]
      | _ => rfl
  simp only [searchPath, extra options.paths agree]

/-- A path has an absolute form wherever there is a working directory. -/
theorem absolute_of_directory (existing : h.directory? = some cwd) (path : Text) :
    h.absolute path = .ok (Path.normalize (Path.join cwd path)) := by
  cases rooted : Path.isAbsolute path <;>
    simp [Host.absolute, Host.workingDirectory, existing, Path.join, rooted, Except.map]

theorem extraPaths_of_absolute {paths : List Text}
    (made : ∀ path ∈ paths, h.absolute path = .ok (Path.normalize (Path.join cwd path))) :
    extraPaths h (paths.map .str)
      = .ok (paths.map fun path => Path.normalize (Path.join cwd path)) := by
  induction paths with
  | nil => rfl
  | cons path paths ih =>
    obtain ⟨first, others⟩ := List.forall_mem_cons.mp made
    simp [extraPaths, itemText, first, ih others, Except.map]

/-- Under settings a search has its directories as soon as every extra path has its absolute
form. -/
theorem searchPath_of_absolute
    (made : ∀ path ∈ settings.paths, h.absolute path = .ok (Path.normalize (Path.join cwd path)))
    (directory : Text) :
    searchPath h settings.toOptions directory = .ok (settings.searched cwd directory) := by
  simp [searchPath, Settings.toOptions, levels_texts, extraPaths_of_absolute made, Except.map,
    Settings.searched]

/-- Under settings every search has its directories. -/
theorem searchPath_of_settings (existing : h.directory? = some cwd) (directory : Text) :
    searchPath h settings.toOptions directory = .ok (settings.searched cwd directory) :=
  searchPath_of_absolute (fun path _ => absolute_of_directory existing path) directory

end ImportResolution.Module
