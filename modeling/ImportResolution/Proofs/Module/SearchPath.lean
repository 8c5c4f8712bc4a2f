import ImportResolution.Proofs.Module.Settings
import ImportResolution.Proofs.Path.Ascent

/-! The directories that are searched for a package. The way up from the importing directory ends,
and every directory on it is asked once, nearest first, before the extra paths. A directory is
passed over for its last name alone: a module directory whose name has several segments, or a slash
behind them, is passed over exactly if its last segment is listed as well. -/
namespace ImportResolution.Module

variable {h : Host} {cwd directory level parent name plain : Text} {settings : Settings}
  {options : Options} {members : List (Text × Json)}

/-- What a search under accepted options goes through, if their module directories and extra paths
are texts; what else the options say does not matter. -/
theorem searchPath_of_accepted (existing : h.directory? = some cwd)
    (accepted : Options.ofMembers members = .ok options)
    (named : Lists [Options.defaultModuleDirectory] (Json.find? members "moduleDirectory".toList)
      settings.moduleDirectories)
    (extra : Lists [] (Json.find? members "paths".toList) settings.paths) (directory : Text) :
    searchPath h options directory = .ok (settings.searched cwd directory) := by
  unfold Options.ofMembers at accepted
  split at accepted
  · cases accepted
  · simp only [listed_of_lists named, listed_of_lists extra, Except.ok.injEq] at accepted
    rw [← accepted]
    show searchPath h settings.toOptions directory = _
    exact searchPath_of_settings existing directory

/-- The module directories of the directories on a way come one after the other, as the way does. -/
theorem searched_of_split {before after : List Text}
    (way : Path.ancestors directory = before ++ level :: after) :
    settings.searched cwd directory
      = before.flatMap settings.directoriesOf ++ settings.directoriesOf level
        ++ (after.flatMap settings.directoriesOf
          ++ settings.paths.map fun path => Path.normalize (Path.join cwd path)) := by
  simp only [Settings.searched, way, List.flatMap_append, List.flatMap_cons, List.append_assoc]

/-- The way up from the importing directory ends, and the directories to be searched are the module
directories of those on it, round by round, and then the extra paths. From a normal absolute
directory they are asked for each directory that some of its first names lead to, from all names
down to none: for every directory that it is or lies below, and for no directory before one below
it. -/
theorem searchPath_exact (existing : h.directory? = some cwd)
    (accepted : Options.ofMembers members = .ok options)
    (named : Lists [Options.defaultModuleDirectory] (Json.find? members "moduleDirectory".toList)
      settings.moduleDirectories)
    (extra : Lists [] (Json.find? members "paths".toList) settings.paths) (directory : Text) :
    (∃ rounds ≤ directory.length,
      (∀ round, Path.dirname^[round + 1] directory = Path.dirname^[round] directory
        ↔ rounds ≤ round) ∧
      searchPath h options directory
        = .ok (((List.range (rounds + 1)).flatMap fun round =>
              settings.directoriesOf (Path.dirname^[round] directory))
            ++ settings.paths.map fun path => Path.normalize (Path.join cwd path))) ∧
    (Path.isAbsolute directory = true → Path.normalize directory = directory →
      ∃ way : List Text,
        way = ((List.range ((PlainPath.ofText directory).names.length + 1)).reverse.map fun count =>
          ((PlainPath.ofText directory).upTo count).toText) ∧
        searchPath h options directory
          = .ok (way.flatMap settings.directoriesOf
              ++ settings.paths.map fun path => Path.normalize (Path.join cwd path)) ∧
        way.Pairwise (fun near far => Path.Below far near) ∧
        ∀ above, Path.isAbsolute above = true → Path.normalize above = above →
          (above ∈ way ↔ Path.Within above directory)) := by
  have searched := searchPath_of_accepted existing accepted named extra directory
  constructor
  · obtain ⟨rounds, few, ends, met⟩ := Path.exists_rounds directory
    refine ⟨rounds, few, ends, ?_⟩
    rw [searched, Settings.searched, met, List.flatMap_map]
  · intro absolute normal
    have plain := PlainPath.normal_ofText absolute normal
    have met := PlainPath.ancestors_upTo plain
    rw [PlainPath.toText_of_normal absolute normal] at met
    refine ⟨_, rfl, ?_, ?_, ?_⟩
    · rw [searched, Settings.searched, met]
    · refine List.pairwise_map.mpr (List.pairwise_reverse.mpr ?_)
      refine List.Pairwise.imp_of_mem ?_ List.pairwise_lt_range
      intro fewer more _ member less
      exact PlainPath.below_upTo plain less (by simpa [Nat.lt_succ_iff] using member)
    · intro above absolute' normal'
      rw [← met]
      exact Path.mem_ancestors_iff absolute normal absolute' normal'

/-- A host of which nothing but the working directory is known. -/
def workplace : Host := ⟨.empty, some "/p".toList, .usual⟩

/-- Options with two module directories and an extra path; the endings are not even texts. -/
def twoNames : List (Text × Json) :=
  [("extensions".toList, .arr [.int 5]),
    ("moduleDirectory".toList, .arr [.str "node_modules".toList, .str "web".toList]),
    ("paths".toList, .str "extra".toList)]

/-- The module directory on the way is passed over for both names. -/
theorem searchPath_exact_twoNames :
    ∃ options, Options.ofMembers twoNames = .ok options ∧
      searchPath workplace options "/p/node_modules/lib".toList
        = .ok ["/p/node_modules/lib/node_modules".toList, "/p/node_modules/lib/web".toList,
            "/p/node_modules".toList, "/p/web".toList, "/node_modules".toList, "/web".toList,
            "/p/extra".toList] := by
  have named : Lists [Options.defaultModuleDirectory]
      (Json.find? twoNames "moduleDirectory".toList) ["node_modules".toList, "web".toList] :=
    .many ["node_modules".toList, "web".toList] (by decide)
  have extra : Lists [] (Json.find? twoNames "paths".toList) ["extra".toList] := .one _ (by decide)
  refine ⟨_, rfl, ?_⟩
  obtain ⟨-, exact⟩ := @searchPath_exact workplace "/p".toList ⟨[], _, _⟩ _ twoNames rfl rfl named
    extra "/p/node_modules/lib".toList
  obtain ⟨way, met, searched, -⟩ := exact (by decide) (by decide)
  rw [searched, met]
  decide +kernel

/-- A directory has module directories unless its last name is listed. -/
theorem directoriesOf_eq_nil_iff (listed : name ∈ settings.moduleDirectories) :
    settings.directoriesOf level = [] ↔ Path.basename level ∈ settings.moduleDirectories := by
  unfold Settings.directoriesOf
  split
  · simp [*]
  · simp [*, List.ne_nil_of_mem listed]

/-- A module directory on the way up is passed over, none of its own module directories being
searched, exactly if the last segment of its name is listed; it is for a name of one segment. -/
theorem passed_over_iff (existing : h.directory? = some cwd)
    (accepted : Options.ofMembers members = .ok options)
    (named : Lists [Options.defaultModuleDirectory] (Json.find? members "moduleDirectory".toList)
      settings.moduleDirectories)
    (extra : Lists [] (Json.find? members "paths".toList) settings.paths)
    (absolute : Path.isAbsolute directory = true) (normal : Path.normalize directory = directory)
    (listed : name ∈ settings.moduleDirectories) (tidy : Path.Tidy plain)
    (written : name = plain ∨ name = plain ++ ['/']) (passed : level ∈ Path.ancestors directory)
    (above : parent ∈ Path.ancestors level)
    (placed : level = Path.normalize (Path.join parent name)) :
    ∃ before after, Path.ancestors directory = before ++ level :: after ∧
      searchPath h options directory
        = .ok (before.flatMap settings.directoriesOf ++ settings.directoriesOf level
            ++ (after.flatMap settings.directoriesOf
              ++ settings.paths.map fun path => Path.normalize (Path.join cwd path))) ∧
      (settings.directoriesOf level = [] ↔ Path.basename plain ∈ settings.moduleDirectories) ∧
      (Path.IsName name → settings.directoriesOf level = []) := by
  obtain ⟨before, after, way⟩ := List.append_of_mem passed
  have absoluteLevel := Path.isAbsolute_ancestors absolute level passed
  have normalLevel := Path.normalize_of_mem_ancestors absolute normal passed
  have absoluteParent := Path.isAbsolute_ancestors absoluteLevel parent above
  have normalParent := Path.normalize_of_mem_ancestors absoluteLevel normalLevel above
  have last : Path.basename level = Path.basename plain := by
    rw [placed]
    rcases written with rfl | rfl
    · exact Path.basename_normalize_join absoluteParent normalParent tidy
    · rw [Path.normalize_join_slash parent tidy]
      exact Path.basename_normalize_join absoluteParent normalParent tidy
  have decided : settings.directoriesOf level = []
      ↔ Path.basename plain ∈ settings.moduleDirectories := by
    rw [directoriesOf_eq_nil_iff listed, last]
  refine ⟨before, after, way, ?_, decided, fun valid => ?_⟩
  · rw [searchPath_of_accepted existing accepted named extra directory, searched_of_split way]
  · -- a name of one segment is its own last segment
    rcases written with rfl | rfl
    · have one : Text.segments name = [] ++ [name] := Text.segments_of_no_slash valid.no_slash
      rw [decided, Path.basename_of_segments one]
      exact listed
    · exact absurd (by simp) valid.no_slash

/-- Options with nothing but module directories of these names. -/
def directoriesNamed (names : List Text) : List (Text × Json) :=
  [("moduleDirectory".toList, .arr (names.map .str))]

/-- A name of two segments and a slash, and its last segment. -/
def overlapping : List Text := ["web/modules/".toList, "modules".toList]

/-- The directory on the way that the longer name leads to is passed over for the shorter one. -/
theorem passed_over_iff_overlapping :
    ∃ options, Options.ofMembers (directoriesNamed overlapping) = .ok options ∧
      Settings.directoriesOf ⟨[], overlapping, []⟩ "/p/web/modules".toList = [] ∧
      searchPath workplace options "/p/web/modules/lib".toList
        = .ok ["/p/web/modules/lib/web/modules/".toList, "/p/web/modules/lib/modules".toList,
            "/p/web/web/modules/".toList, "/p/web/modules".toList, "/p/web/modules/".toList,
            "/p/modules".toList, "/web/modules/".toList, "/modules".toList] := by
  have named : Lists [Options.defaultModuleDirectory]
      (Json.find? (directoriesNamed overlapping) "moduleDirectory".toList) overlapping :=
    .many overlapping (by decide)
  have placed : "/p/web/modules".toList
      = Path.normalize (Path.join "/p".toList "web/modules/".toList) := by decide
  refine ⟨_, rfl, ?_, by decide +kernel⟩
  obtain ⟨before, after, -, -, decided, -⟩ := @passed_over_iff workplace "/p".toList
    "/p/web/modules/lib".toList "/p/web/modules".toList "/p".toList "web/modules/".toList
    "web/modules".toList ⟨[], overlapping, []⟩ _ (directoriesNamed overlapping) rfl rfl named .absent
    (by decide) (by decide) (by decide) (by decide) (.inr (by decide)) (by decide +kernel)
    (by decide +kernel) placed
  exact decided.mpr (by decide)

/-- Being a module directory is not enough to be passed over: one whose name has two segments is
searched for another one directly inside. -/
theorem not_passed_over : ¬ ∀ (names : List Text) (options : Options)
    (directory level parent name : Text),
    Options.ofMembers (directoriesNamed names) = .ok options → names ≠ [] →
    (∀ name ∈ names, ∃ plain, Path.Tidy plain ∧ (name = plain ∨ name = plain ++ ['/'])) →
    Path.isAbsolute directory = true → Path.normalize directory = directory → name ∈ names →
    level ∈ Path.ancestors directory → parent ∈ Path.ancestors level →
    level = Path.normalize (Path.join parent name) →
    levels options.moduleDirectories [level] = .ok [] := by
  intro passed
  have ordinary : ∀ name ∈ ["web/modules".toList],
      ∃ plain, Path.Tidy plain ∧ (name = plain ∨ name = plain ++ ['/']) := by
    intro name member
    exact ⟨name, by rw [List.mem_singleton.mp member]; decide, .inl rfl⟩
  have none := passed ["web/modules".toList] _ "/p/web/modules/lib".toList
    "/p/web/modules".toList "/p".toList "web/modules".toList rfl (by decide) ordinary (by decide)
    (by decide) (by decide) (by decide +kernel) (by decide +kernel) (by decide)
  have some : levels [.str "web/modules".toList] ["/p/web/modules".toList]
      = .ok ["/p/web/modules/web/modules".toList] := by decide +kernel
  cases some.symm.trans none

end ImportResolution.Module
