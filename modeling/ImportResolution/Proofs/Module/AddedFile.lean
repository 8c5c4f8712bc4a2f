import ImportResolution.Proofs.FileTree.AddedFile
import ImportResolution.Proofs.Module.Refusal

/-! Searches in a tree with one more file. A search that found something still finds something: the
same file, the one that was added, or what the added file names as the main file of its directory if
it is a manifest. Only a manifest that there is no room to read makes the search break off. -/
namespace ImportResolution

namespace Path

variable {p q : Text}

theorem prefix_join (relative : isAbsolute q = false) : p <+: join p q := by
  unfold join
  rw [relative]
  split
  · contradiction
  · split <;> exact List.prefix_append _ _

end Path

namespace Module

/-- A path at which something is found only since a file was added: it leads to that file, or it
lies at or behind the main file that a directory has by that file as its manifest. -/
inductive NewlyFound (after : Host) (place : Place) (path : Text) : Prop where
  | added (reached : after.Reaches path place)
  | redirected (directory main : Text) (held : after.isDirectory directory = true)
      (reached : after.Reaches (Path.join directory manifestName) place)
      (names : Plan.mainNamed? after directory = some main)
      (behind : Path.normalize (Path.join directory main) <+: path)

/-- A directory to which a file was added as its manifest, and there is no room to read it. -/
structure Outgrown (after : Host) (place : Place) (directory : Text) (descent : Descent) :
    Prop where
  held : after.isDirectory directory = true
  reached : after.Reaches (Path.join directory manifestName) place
  exhausted : after.readJson (Path.join directory manifestName) = .error (.exhausted descent)

/-- What becomes of the end of a search when a file is added: it is the same or a new find, or the
search breaks off at the added file. Where a fault cut the search short, nothing is promised. -/
inductive Verdict.Grows (after : Host) (place : Place) (first second : Verdict) : Prop where
  | kept (same : second = first)
  | found (path : Text) (hit : second = .hit path) (new : NewlyFound after place path)
  | full (directory : Text) (descent : Descent) (failed : second = .failed (.exhausted descent))
      (outgrown : Outgrown after place directory descent)
  | cut (fault : Fault) (failed : first = .failed fault)

variable {before after : Host} {place : Place} {path target directory main : Text}
  {endings : List Text}

theorem grows_orElse {first first' : Trail} {second second' : Unit → Trail}
    (grown : first.verdict.Grows after place first'.verdict)
    (next : (second ()).verdict.Grows after place (second' ()).verdict) :
    (first.orElse second).verdict.Grows after place (first'.orElse second').verdict := by
  rw [Trail.verdict_orElse, Trail.verdict_orElse]
  cases grown with
  | kept same =>
    rw [same]
    cases first.verdict with
    | miss => exact next
    | hit path => exact .kept rfl
    | failed fault => exact .kept rfl
  | found path hit new => exact .found path (by rw [hit]) new
  | full directory descent failed outgrown =>
    exact .full directory descent (by rw [failed]) outgrown
  | cut fault failed => exact .cut fault (by rw [failed])

theorem grows_probe (adds : before.AddsFile after place) (path : Text) :
    (probe before path).verdict.Grows after place (probe after path).verdict := by
  cases held : before.isFile path with
  | true => exact .kept (by simp [probe, held, Host.isFile_of_adds adds held])
  | false =>
    cases now : after.isFile path with
    | true =>
      exact .found path (by simp [probe, now]) (.added (Host.reaches_of_adds adds held now))
    | false => exact .kept (by simp [probe, held, now])

theorem grows_probeEndings (adds : before.AddsFile after place) (target : Text)
    (extensions : List Json) :
    (probeEndings before target extensions).verdict.Grows after place
      (probeEndings after target extensions).verdict := by
  induction extensions with
  | nil => exact .kept rfl
  | cons ending rest ih =>
    unfold probeEndings
    cases itemText ending with
    | error fault => exact .kept rfl
    | ok ending => exact grows_orElse (grows_probe adds (target ++ ending)) ih

theorem grows_loadFile (adds : before.AddsFile after place) (extensions : List Json)
    (target : Text) :
    (loadFile before extensions target).verdict.Grows after place
      (loadFile after extensions target).verdict :=
  grows_orElse (grows_probe adds target) (grows_probeEndings adds target extensions)

theorem grows_loadIndex (adds : before.AddsFile after place) (extensions : List Json)
    (directory : Text) :
    (loadIndex before extensions directory).verdict.Grows after place
      (loadIndex after extensions directory).verdict :=
  grows_loadFile adds extensions (Path.join directory indexName)

theorem grows_loadMain (adds : before.AddsFile after place) (extensions : List Json)
    (directory main : Text) :
    (loadMain before extensions directory main).verdict.Grows after place
      (loadMain after extensions directory main).verdict := by
  unfold loadMain
  apply grows_orElse (grows_loadFile adds extensions _)
  split
  · exact .kept rfl
  · exact grows_loadIndex adds extensions _

theorem prefix_of_mem_asFile (planned : path ∈ Plan.asFile endings target) : target <+: path := by
  rcases List.mem_cons.mp planned with rfl | planned
  · exact List.prefix_refl _
  · obtain ⟨ending, -, rfl⟩ := List.mem_map.mp planned
    exact List.prefix_append _ _

/-- All that is tried for a main file starts with its path. -/
theorem prefix_of_mem_asMain (planned : path ∈ Plan.asMain endings directory main) :
    Path.normalize (Path.join directory main) <+: path := by
  rcases List.mem_append.mp planned with planned | planned
  · exact prefix_of_mem_asFile planned
  · split at planned
    · exact (Path.prefix_join (by decide)).trans (prefix_of_mem_asFile planned)
    · cases planned

/-- A manifest that is added sends the search to its main file; if nothing is there, the directory
is loaded as before. If there is no room to read it, the search breaks off. -/
theorem grows_loadDirectory_of_manifest (adds : before.AddsFile after place)
    (held : after.isDirectory directory = true)
    (missed : before.isFile (Path.join directory manifestName) = false)
    (now : after.isFile (Path.join directory manifestName) = true) :
    (loadDirectory before (endings.map .str) directory).verdict.Grows after place
      (loadDirectory after (endings.map .str) directory).verdict := by
  have index := grows_loadIndex adds (endings.map .str) directory
  have reached := Host.reaches_of_adds adds missed now
  rcases mainOf_readJson now with read | ⟨descent, exhausted⟩
  · simp only [loadDirectory, ← Host.isDirectory_of_adds adds, held, missed, now, Bool.not_true,
      Bool.not_false, Bool.false_eq_true, if_false, if_true, read, Trail.after]
    cases names : Plan.mainNamed? after directory with
    | none => exact index
    | some main =>
      simp only [Trail.verdict_orElse, (follows_loadMain after endings directory main).verdict]
      cases found : (Plan.asMain endings directory main).find? after.isFile with
      | none => exact index
      | some path =>
        have behind := prefix_of_mem_asMain (List.mem_of_find?_eq_some found)
        exact .found path rfl (.redirected directory main held reached names behind)
  · rw [loadDirectory_of_exhausted held now exhausted]
    exact .full directory descent rfl ⟨held, reached, exhausted⟩

theorem grows_loadDirectory (adds : before.AddsFile after place) (endings : List Text)
    (directory : Text) :
    (loadDirectory before (endings.map .str) directory).verdict.Grows after place
      (loadDirectory after (endings.map .str) directory).verdict := by
  have index := grows_loadIndex adds (endings.map .str) directory
  have same := Host.isDirectory_of_adds adds directory
  cases held : before.isDirectory directory with
  | false => exact .kept (by simp [loadDirectory, same, held])
  | true =>
    rw [held] at same
    cases manifest : before.isFile (Path.join directory manifestName) with
    | true =>
      -- the manifest was there already and reads the same
      simp only [loadDirectory, same, held, manifest, Host.isFile_of_adds adds manifest,
        Host.readJson_of_adds adds manifest, Bool.not_true, Bool.false_eq_true, if_false,
        Trail.after]
      cases mainOf (before.readJson (Path.join directory manifestName)) with
      | error fault => exact .kept rfl
      | ok main? =>
        cases main? with
        | none => exact index
        | some main =>
          exact grows_orElse (grows_loadMain adds (endings.map .str) directory main) index
    | false =>
      cases now : after.isFile (Path.join directory manifestName) with
      | true => exact grows_loadDirectory_of_manifest adds same manifest now
      | false => simpa [loadDirectory, same, held, manifest, now] using index

/-- Loading a target keeps finding something, as far as there is room. Where an ending is no text, a
directory is never loaded, and the file that the target was loaded as is still there. -/
theorem grows_load (adds : before.AddsFile after place) (extensions : List Json) (target : Text) :
    (load before extensions target).verdict.Grows after place
      (load after extensions target).verdict := by
  have file := grows_loadFile adds extensions target
  rcases texts_or_noText extensions with ⟨endings, rfl⟩ | ⟨endings, item, rest, rfl, noText⟩
  · exact grows_orElse file (grows_loadDirectory adds endings target)
  · rwa [load_of_noText before target endings rest noText,
      load_of_noText after target endings rest noText]

theorem grows_loadPackage (adds : before.AddsFile after place) (extensions : List Json)
    (name : Text) (directories : List Text) :
    (loadPackage before extensions name directories).verdict.Grows after place
      (loadPackage after extensions name directories).verdict := by
  induction directories with
  | nil => exact .kept rfl
  | cons directory rest ih => exact grows_orElse (grows_load adds extensions _) ih

/-- An outcome in which something is found again that was found before a file was added: under the
same path or under one at which something is newly found. -/
def FoundAgain (after : Host) (place : Place) (answer : Resolution)
    (second : Except Fault Resolution) : Prop :=
  ∃ answer', second = .ok answer' ∧ answer'.found = true ∧
    (answer'.path? = answer.path? ∨
      ∃ path, answer'.path? = some path ∧ NewlyFound after place path)

/-- What becomes of an outcome when a file is added: an answer that found something is followed by
one that does. Only a manifest that there is no room to read leaves a search without an answer, and
it is the added file. -/
def Persists (after : Host) (place : Place) (first second : Except Fault Resolution) : Prop :=
  ∀ answer, first = .ok answer → answer.found = true →
    FoundAgain after place answer second ∨
      ∃ directory descent, Outgrown after place directory descent ∧
        second = .error (.exhausted descent)

theorem persists_refl (after : Host) (place : Place) (outcome : Except Fault Resolution) :
    Persists after place outcome outcome :=
  fun answer answered found => .inl ⟨answer, answered, found, .inl rfl⟩

theorem persists_resolution {trail trail' : Trail} (strategy : Strategy)
    (grown : trail.verdict.Grows after place trail'.verdict) :
    Persists after place (trail.resolution strategy) (trail'.resolution strategy) := by
  intro answer answered found
  unfold Trail.resolution at answered ⊢
  cases held : trail.verdict with
  | failed fault =>
    rw [held] at answered
    cases answered
  | miss =>
    rw [held] at answered
    cases answered
    cases found
  | hit path =>
    rw [held] at answered grown
    cases answered
    cases grown with
    | kept same =>
      exact .inl ⟨⟨.file path, strategy, trail'.candidates⟩, by rw [same], rfl, .inl rfl⟩
    | found path hit new => exact .inl ⟨_, by rw [hit], rfl, .inr ⟨path, rfl, new⟩⟩
    | full directory descent failed outgrown =>
      exact .inr ⟨directory, descent, outgrown, by rw [failed]⟩
    | cut fault failed => cases failed

theorem persists_contained {first second : Except Fault Resolution}
    (persists : Persists after place first second) :
    Persists after place (contained first) (contained second) := by
  intro answer answered found
  have reached : first = .ok answer := by
    match first, answered with
    | .ok _, answered => exact answered
    | .error (.system _ _), answered =>
      cases answered
      cases found
  rcases persists answer reached found with
    ⟨answer', answered', facts⟩ | ⟨directory, descent, outgrown, broken⟩
  · exact .inl ⟨answer', by rw [answered']; rfl, facts⟩
  · exact .inr ⟨directory, descent, outgrown, by rw [broken]; rfl⟩

theorem absolute_of_adds (adds : before.AddsFile after place) (path : Text) :
    after.absolute path = before.absolute path := by
  simp only [Host.absolute, Host.workingDirectory, adds.directory]

theorem search_persists (adds : before.AddsFile after place) (options : Options)
    (specifier directory : Text) :
    Persists after place (search before options specifier directory).outcome
      (search after options specifier directory).outcome := by
  unfold search
  split
  · exact persists_resolution .absolute (grows_load adds _ _)
  · split
    · exact persists_resolution .relative (grows_load adds _ _)
    · rw [searchPath_congr fun path _ => absolute_of_adds adds path]
      cases searchPath before options directory with
      | error fault => exact persists_refl after place _
      | ok directories =>
        exact persists_resolution .package (grows_loadPackage adds _ specifier directories)

/-- Resolving a specifier keeps finding something, whatever the options are, as far as there is
room. -/
theorem resolve_persists (adds : before.AddsFile after place) (specifier file : Text)
    (members : List (Text × Json)) :
    Persists after place (resolve before specifier file members).outcome
      (resolve after specifier file members).outcome := by
  unfold resolve
  cases Options.ofMembers members with
  | error fault => exact persists_refl after place _
  | ok options =>
    simp only [outcome_containing]
    apply persists_contained
    unfold resolveWith
    split
    · exact persists_refl after place _
    · rw [absolute_of_adds adds]
      cases before.absolute file with
      | error fault => exact persists_refl after place _
      | ok file => exact search_persists adds options specifier (Path.dirname file)

end Module
end ImportResolution
