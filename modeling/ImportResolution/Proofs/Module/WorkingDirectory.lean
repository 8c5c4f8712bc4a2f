import ImportResolution.Proofs.Host.WorkingDirectory
import ImportResolution.Proofs.Module.WellFormed

/-! Searches from elsewhere. A search goes along absolute paths, so it does not depend on the
working directory, with one exception: the extra paths of a package search are made absolute when it
begins. -/
namespace ImportResolution.Module

variable {h other : Host} {extensions : List Json} {target directory specifier file : Text}
  {options : Options} {members : List (Text × Json)} {directories : List Text}

/-! ### Loading -/

theorem probe_elsewhere (same : h.Elsewhere other) (absolute : Path.isAbsolute target = true) :
    probe other target = probe h target := by
  simp only [probe, Host.isFile_elsewhere same absolute]

theorem probeEndings_elsewhere (same : h.Elsewhere other)
    (absolute : Path.isAbsolute target = true) (extensions : List Json) :
    probeEndings other target extensions = probeEndings h target extensions := by
  induction extensions with
  | nil => rfl
  | cons ending rest ih =>
    unfold probeEndings
    cases itemText ending with
    | error fault => rfl
    | ok ending =>
      simp only [probe_elsewhere same (Path.isAbsolute_append absolute ending), ih]

theorem loadFile_elsewhere (same : h.Elsewhere other) (extensions : List Json)
    (absolute : Path.isAbsolute target = true) :
    loadFile other extensions target = loadFile h extensions target := by
  simp only [loadFile, probe_elsewhere same absolute, probeEndings_elsewhere same absolute]

theorem loadIndex_elsewhere (same : h.Elsewhere other) (extensions : List Json)
    (absolute : Path.isAbsolute directory = true) :
    loadIndex other extensions directory = loadIndex h extensions directory :=
  loadFile_elsewhere same extensions (Path.isAbsolute_join absolute indexName)

theorem loadMain_elsewhere (same : h.Elsewhere other) (extensions : List Json)
    (absolute : Path.isAbsolute directory = true) (main : Text) :
    loadMain other extensions directory main = loadMain h extensions directory main := by
  have placed := Path.isAbsolute_normalize (Path.isAbsolute_join absolute main)
  simp only [loadMain, loadFile_elsewhere same extensions placed,
    loadIndex_elsewhere same extensions placed]

theorem loadDirectory_elsewhere (same : h.Elsewhere other) (extensions : List Json)
    (absolute : Path.isAbsolute directory = true) :
    loadDirectory other extensions directory = loadDirectory h extensions directory := by
  have manifest := Path.isAbsolute_join absolute manifestName
  simp only [loadDirectory, Host.isDirectory_elsewhere same absolute,
    Host.isFile_elsewhere same manifest, Host.readJson_elsewhere same manifest,
    loadIndex_elsewhere same extensions absolute, loadMain_elsewhere same extensions absolute]

/-- An absolute target is loaded alike from everywhere. -/
theorem load_elsewhere (same : h.Elsewhere other) (extensions : List Json)
    (absolute : Path.isAbsolute target = true) :
    load other extensions target = load h extensions target := by
  simp only [load, loadFile_elsewhere same extensions absolute,
    loadDirectory_elsewhere same extensions absolute]

theorem loadPackage_elsewhere (same : h.Elsewhere other) (extensions : List Json) (name : Text)
    (absolute : ∀ directory ∈ directories, Path.isAbsolute directory = true) :
    loadPackage other extensions name directories = loadPackage h extensions name directories := by
  induction directories with
  | nil => rfl
  | cons directory rest ih =>
    obtain ⟨first, others⟩ := List.forall_mem_cons.mp absolute
    simp only [loadPackage, load_elsewhere same extensions (Path.isAbsolute_join first name),
      ih others]

/-! ### Searching -/

/-- A search from an absolute directory gives the same from everywhere, as long as it is not for a
package, or the extra paths mean the same. -/
theorem search_elsewhere (same : h.Elsewhere other) (rooted : h.Rooted)
    (absolute : Path.isAbsolute directory = true)
    (agree : Path.isAbsolute specifier = false → isRelative specifier = false →
      ∀ path, .str path ∈ options.paths → other.absolute path = h.absolute path) :
    search other options specifier directory = search h options specifier directory := by
  unfold search
  split
  · rename_i placed
    rw [load_elsewhere same _ (Path.isAbsolute_normalize placed)]
  · rename_i unplaced
    split
    · rw [load_elsewhere same _ (Path.isAbsolute_normalize (Path.isAbsolute_join absolute _))]
    · rename_i unrelated
      rw [searchPath_congr (agree (by simpa using unplaced) (by simpa using unrelated))]
      split
      · rfl
      · rename_i listed
        rw [loadPackage_elsewhere same _ _ (isAbsolute_searchPath rooted absolute listed)]

/-- The extra paths that the members of an object list are absolute, if the specifier is one of a
package. -/
def PathsPlaced (specifier : Text) (members : List (Text × Json)) : Prop :=
  isCore specifier = false → Path.isAbsolute specifier = false → isRelative specifier = false →
    ∀ options, Options.ofMembers members = .ok options →
      ∀ path, .str path ∈ options.paths → Path.isAbsolute path = true

/-- A specifier that an absolute file imports is resolved alike from everywhere, as long as the
extra paths that are searched for it are absolute. -/
theorem resolve_elsewhere (same : h.Elsewhere other) (rooted : h.Rooted)
    (absolute : Path.isAbsolute file = true) (placed : PathsPlaced specifier members) :
    resolve other specifier file members = resolve h specifier file members := by
  unfold resolve
  cases accepted : Options.ofMembers members with
  | error fault => rfl
  | ok options =>
    simp only
    congr 1
    unfold resolveWith
    cases core : isCore specifier with
    | true => simp only [if_true]
    | false =>
      -- an absolute file fixes the directory from which the search starts
      have start := Path.isAbsolute_dirname (Path.isAbsolute_normalize absolute)
      simp only [Host.absolute_of_isAbsolute _ absolute, Bool.false_eq_true, if_false]
      refine search_elsewhere same rooted start ?_
      intro unplaced unrelated path listed
      have extra := placed core unplaced unrelated options accepted path listed
      rw [Host.absolute_of_isAbsolute other extra, Host.absolute_of_isAbsolute h extra]

end ImportResolution.Module
