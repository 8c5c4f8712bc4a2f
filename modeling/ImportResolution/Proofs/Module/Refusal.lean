import ImportResolution.Proofs.Module.Placed
import ImportResolution.Proofs.Module.Plan
import Mathlib.Data.List.Basic

/-! Refused options. A configuration gives options as values of any type, and a value that lists
nothing, or an item that is no text, is refused as soon as it is used. Here is said when that
happens; where there is a working directory, nothing else cuts a search short but a manifest that
there is no room to read. -/
namespace ImportResolution.Module

/-- An item that is no text. -/
def NoText (item : Json) : Prop := ∀ text, item ≠ .str text

/-- Values that count as true and list nothing: true, and the numbers other than zero. -/
inductive Unlistable : Json → Prop where
  | yes : Unlistable (.bool true)
  | integer (nonzero : value ≠ 0) : Unlistable (.int value)
  | fraction (nonzero : value.isZero = false) : Unlistable (.float value)

/-- The options that a search reads. -/
def optionNames : List Text := ["extensions".toList, "moduleDirectory".toList, "paths".toList]

/-- The endings run into an item that is no text: no file stands under the target itself, nor under
the target with an ending that comes before the item. -/
def EndingsFail (h : Host) (extensions : List Json) (target : Text) : Prop :=
  ∃ endings item rest, extensions = endings.map .str ++ item :: rest ∧ NoText item ∧
    ∀ path ∈ Plan.asFile endings target, h.isFile path = false

/-- The directories to be searched for a package cannot be listed: a name of module directories is
no text and some directory on the way up is searched, or an extra path is no text. -/
def DirectoriesFail (options : Options) (directory : Text) : Prop :=
  ((∃ item ∈ options.moduleDirectories, NoText item) ∧
    ∃ level ∈ Path.ancestors directory, isModuleDirectory options.moduleDirectories level = false) ∨
  ∃ item ∈ options.paths, NoText item

/-- A search uses an item that is no text. Whether the endings fail shows on the first target:
either a file is found there, or they fail, or all of them are texts. -/
def SearchFails (h : Host) (options : Options) (specifier directory : Text) : Prop :=
  if Path.isAbsolute specifier then EndingsFail h options.extensions (Path.normalize specifier)
  else if isRelative specifier then
    EndingsFail h options.extensions (Path.normalize (Path.join directory specifier))
  else DirectoriesFail options directory ∨
    ∃ first others, searchPath h options directory = .ok (first :: others) ∧
      EndingsFail h options.extensions (Path.join first specifier)

/-- A specifier is refused: an option lists nothing, or the search for the specifier uses an item
that is no text. A core module is not searched for, but its options have to be lists as well. -/
def Refuses (h : Host) (specifier file : Text) (members : List (Text × Json)) : Prop :=
  (∃ name ∈ optionNames, ∃ value, Json.find? members name = some value ∧ Unlistable value) ∨
  ∃ options, Options.ofMembers members = .ok options ∧ isCore specifier = false ∧
    SearchFails h options specifier (Path.dirname (Path.normalize file))

/-- The targets of a search, if its directories can be listed. -/
def targetsOf (h : Host) (options : Options) (specifier directory : Text) :
    Except Fault (List Text) :=
  if Path.isAbsolute specifier then .ok [Path.normalize specifier]
  else if isRelative specifier then .ok [Path.normalize (Path.join directory specifier)]
  else (searchPath h options directory).map
    fun directories => directories.map fun searched => Path.join searched specifier

/-- There is no room for a search: all of its endings are texts, and one of its targets
overflows. -/
def SearchOverflows (h : Host) (options : Options) (specifier directory : Text)
    (descent : Descent) : Prop :=
  ∃ endings targets, options.extensions = endings.map .str ∧
    targetsOf h options specifier directory = .ok targets ∧
    Plan.OverflowsIn h endings descent targets

/-- There is no room to search for a specifier under options that are lists. -/
def Overflows (h : Host) (specifier file : Text) (members : List (Text × Json))
    (descent : Descent) : Prop :=
  ∃ options, Options.ofMembers members = .ok options ∧ isCore specifier = false ∧
    SearchOverflows h options specifier (Path.dirname (Path.normalize file)) descent

/-- An outcome is the refusal of a wrong type under a condition, the want of room under another one,
and otherwise an answer. -/
structure Settles {α : Type} (outcome : Except Fault α) (condition : Prop)
    (full : Descent → Prop) : Prop where
  refused : condition → outcome = .error .wrongType
  exhausted : ∀ descent, full descent → outcome = .error (.exhausted descent)
  answered : ¬ condition → (∀ descent, ¬ full descent) → ∃ answer, outcome = .ok answer

/-- An outcome is the refusal of a wrong type under a condition, and otherwise an answer. -/
abbrev RefusedIff {α : Type} (outcome : Except Fault α) (condition : Prop) : Prop :=
  Settles outcome condition fun _ => False

section

variable {α β : Type} {outcome : Except Fault α} {whole : Except Fault β} {c d : Prop}
  {full full' : Descent → Prop}

namespace Settles

theorem congr (known : Settles outcome c full) (same : c ↔ d)
    (alike : ∀ descent, full descent ↔ full' descent) : Settles outcome d full' := by
  rwa [← propext same, ← funext fun descent => propext (alike descent)]

/-- What keeps answers and these two faults keeps what an outcome settles. -/
theorem through {f : Except Fault α → Except Fault β} (known : Settles outcome c full)
    (wrong : f (.error .wrongType) = .error .wrongType)
    (none : ∀ descent, f (.error (.exhausted descent)) = .error (.exhausted descent))
    (ok : ∀ answer, ∃ answer', f (.ok answer) = .ok answer') : Settles (f outcome) c full := by
  refine ⟨fun refused => ?_, fun descent exhausted => ?_, fun allowed fits => ?_⟩
  · rw [known.refused refused, wrong]
  · rw [known.exhausted descent exhausted, none]
  · obtain ⟨answer, answered⟩ := known.answered allowed fits
    rw [answered]
    exact ok answer

theorem map (f : α → β) (known : Settles outcome c full) : Settles (outcome.map f) c full :=
  known.through rfl (fun _ => rfl) fun answer => ⟨f answer, rfl⟩

/-- What starts with a step that needs no room and goes on with its answer is refused in either
part. -/
theorem step (first : RefusedIff outcome c)
    (cut : ∀ fault, outcome = .error fault → whole = .error fault)
    (rest : ∀ answer, outcome = .ok answer → Settles whole d full)
    (behind : ∀ descent, full descent → ¬ c) : Settles whole (c ∨ d) full := by
  by_cases refused : c
  · exact ⟨fun _ => cut _ (first.refused refused),
      fun descent none => absurd refused (behind descent none),
      fun neither => absurd (.inl refused) neither⟩
  · obtain ⟨answer, answered⟩ := first.answered refused fun _ => id
    exact (rest answer answered).congr (by simp [refused]) fun _ => Iff.rfl

theorem of_ok {answer : α} (answered : outcome = .ok answer) (never : ¬ c)
    (fits : ∀ descent, ¬ full descent) : Settles outcome c full :=
  ⟨fun refused => absurd refused never, fun descent none => absurd none (fits descent),
    fun _ _ => ⟨answer, answered⟩⟩

end Settles

namespace RefusedIff

theorem of_cases (refused : c → outcome = .error .wrongType)
    (answered : ¬ c → ∃ answer, outcome = .ok answer) : RefusedIff outcome c :=
  ⟨refused, fun _ => False.elim, fun allowed _ => answered allowed⟩

theorem congr (known : RefusedIff outcome c) (same : c ↔ d) : RefusedIff outcome d :=
  Settles.congr known same fun _ => Iff.rfl

theorem step (first : RefusedIff outcome c)
    (cut : ∀ fault, outcome = .error fault → whole = .error fault)
    (rest : ∀ answer, outcome = .ok answer → RefusedIff whole d) : RefusedIff whole (c ∨ d) :=
  Settles.step first cut rest fun _ => False.elim

theorem of_ok {answer : α} (answered : outcome = .ok answer) (never : ¬ c) : RefusedIff outcome c :=
  Settles.of_ok answered never fun _ => id

end RefusedIff

end

variable {h : Host} {cwd target file : Text} {item : Json} {extensions : List Json}

/-- A list of items is made of texts, or somewhere behind texts stands an item that is none. -/
theorem texts_or_noText (items : List Json) :
    (∃ texts : List Text, items = texts.map .str) ∨
      ∃ (texts : List Text) (item : Json) (rest : List Json),
        items = texts.map .str ++ item :: rest ∧ NoText item := by
  induction items with
  | nil => exact .inl ⟨[], rfl⟩
  | cons item rest ih =>
    cases item with
    | str text =>
      rcases ih with ⟨texts, rfl⟩ | ⟨texts, item, rest, rfl, noText⟩
      · exact .inl ⟨text :: texts, rfl⟩
      · exact .inr ⟨text :: texts, item, rest, rfl, noText⟩
    | _ => exact .inr ⟨[], _, rest, rfl, nofun⟩

theorem itemText_refusedIff (item : Json) : RefusedIff (itemText item) (NoText item) := by
  cases item with
  | str text => exact .of_ok rfl fun noText => noText text rfl
  | _ => exact .of_cases (fun _ => rfl) fun isText => absurd nofun isText

/-! ### Lists -/

theorem truthy_of_unlistable {value : Json} (unlistable : Unlistable value) :
    value.truthy = true := by
  cases unlistable with
  | yes => rfl
  | integer nonzero => simpa [Json.truthy] using nonzero
  | fraction nonzero => simpa [Json.truthy] using nonzero

theorem listed_refusedIff (default : List Text) (option? : Option Json) :
    RefusedIff (Options.listed default option?)
      (∃ value, option? = some value ∧ Unlistable value) := by
  cases option? with
  | none => exact .of_ok rfl (by simp)
  | some value =>
    refine RefusedIff.congr (c := Unlistable value) ?_ (by simp)
    cases truthy : value.truthy with
    | false =>
      refine .of_ok (by simp only [Options.listed, truthy]; rfl) ?_
      intro unlistable
      rw [truthy_of_unlistable unlistable] at truthy
      cases truthy
    | true =>
      have refused (unlistable : Unlistable value)
          (wrong : Options.listed default (some value) = .error .wrongType) :
          RefusedIff (Options.listed default (some value)) (Unlistable value) :=
        .of_cases (fun _ => wrong) fun listable => absurd unlistable listable
      cases value with
      | null => cases truthy
      | bool value =>
        cases value with
        | false => cases truthy
        | true => exact refused .yes rfl
      | int value =>
        exact refused (.integer (by simpa [Json.truthy] using truthy))
          (by simp only [Options.listed, truthy]; rfl)
      | float value =>
        exact refused (.fraction (by simpa [Json.truthy] using truthy))
          (by simp only [Options.listed, truthy]; rfl)
      | str text => exact .of_ok (by simp only [Options.listed, truthy]; rfl) (by rintro ⟨⟩)
      | arr items => exact .of_ok (by simp only [Options.listed, truthy]; rfl) (by rintro ⟨⟩)
      | obj members => exact .of_ok (by simp only [Options.listed, truthy]; rfl) (by rintro ⟨⟩)

/-- Options are refused exactly for a value that lists nothing. -/
theorem ofMembers_refusedIff (members : List (Text × Json)) :
    RefusedIff (Options.ofMembers members) (∃ name ∈ optionNames, ∃ value,
      Json.find? members name = some value ∧ Unlistable value) := by
  have extensions := listed_refusedIff Options.defaultExtensions
    (Json.find? members "extensions".toList)
  have moduleDirectories := listed_refusedIff [Options.defaultModuleDirectory]
    (Json.find? members "moduleDirectory".toList)
  have paths := listed_refusedIff [] (Json.find? members "paths".toList)
  refine RefusedIff.congr (extensions.step ?_ fun extensions first =>
    moduleDirectories.step ?_ fun moduleDirectories second =>
      paths.step (d := False) ?_ fun paths third =>
        .of_cases False.elim fun _ => ⟨⟨extensions, moduleDirectories, paths⟩, ?_⟩) ?_
  · intro fault held
    simp only [Options.ofMembers, held]
  · intro fault held
    simp only [Options.ofMembers, first, held]
  · intro fault held
    simp only [Options.ofMembers, first, second, held]
  · simp only [Options.ofMembers, first, second, third]
  · simp [optionNames]

theorem moduleDirectoriesOf_refusedIff (directory : Text) (items : List Json) :
    RefusedIff (moduleDirectoriesOf directory items) (∃ item ∈ items, NoText item) := by
  induction items with
  | nil => exact .of_ok rfl (by simp)
  | cons item rest ih =>
    refine RefusedIff.congr ((itemText_refusedIff item).step ?_ ?_)
      (List.exists_mem_cons_iff _ _ _).symm
    · intro fault held
      simp only [moduleDirectoriesOf, held]
    · intro name held
      simp only [moduleDirectoriesOf, held]
      exact ih.map _

/-- The module directories of some levels are refused if one of their names is no text and some
level is not skipped. -/
theorem levels_refusedIff (names : List Json) (directories : List Text) :
    RefusedIff (levels names directories) ((∃ item ∈ names, NoText item) ∧
      ∃ level ∈ directories, isModuleDirectory names level = false) := by
  induction directories with
  | nil => exact .of_ok rfl (by simp)
  | cons directory rest ih =>
    cases named : isModuleDirectory names directory with
    | true =>
      simp only [levels, named, if_true]
      exact RefusedIff.congr (ih.map _) (by simp [named])
    | false =>
      refine RefusedIff.congr
        ((moduleDirectoriesOf_refusedIff directory names).step ?_ fun here held => ?_) ?_
        (c := (∃ item ∈ names, NoText item) ∨ (∃ item ∈ names, NoText item) ∧
          ∃ level ∈ rest, isModuleDirectory names level = false)
      · intro fault held
        simp only [levels, named, Bool.false_eq_true, if_false, held]
      · simp only [levels, named, Bool.false_eq_true, if_false, held]
        exact ih.map _
      · constructor
        · rintro (odd | ⟨odd, _⟩) <;> exact ⟨odd, directory, List.mem_cons_self .., named⟩
        · rintro ⟨odd, -⟩
          exact .inl odd

/-- Where there is a working directory, extra paths are refused exactly for an item that is no
text. -/
theorem extraPaths_refusedIff (existing : h.directory? = some cwd) (items : List Json) :
    RefusedIff (extraPaths h items) (∃ item ∈ items, NoText item) := by
  induction items with
  | nil => exact .of_ok rfl (by simp)
  | cons item rest ih =>
    refine RefusedIff.congr ((itemText_refusedIff item).step ?_ ?_)
      (List.exists_mem_cons_iff _ _ _).symm
    · intro fault held
      simp only [extraPaths, held]
    · intro path held
      simp only [extraPaths, held, absolute_of_directory existing]
      exact ih.map _

theorem searchPath_refusedIff (existing : h.directory? = some cwd) (options : Options)
    (directory : Text) :
    RefusedIff (searchPath h options directory) (DirectoriesFail options directory) := by
  refine (levels_refusedIff options.moduleDirectories (Path.ancestors directory)).step ?_ ?_
  · intro fault held
    simp only [searchPath, held]
  · intro found held
    simp only [searchPath, held]
    exact (extraPaths_refusedIff existing options.paths).map _

/-! ### Endings -/

/-- Endings with an item that is no text find a file before they come to it, or are refused. -/
theorem verdict_loadFile_of_noText (h : Host) (target : Text) (endings : List Text)
    (rest : List Json) (noText : NoText item) :
    (loadFile h (endings.map .str ++ item :: rest) target).verdict
      = ((Plan.asFile endings target).find? h.isFile).elim (.failed .wrongType) .hit := by
  have refused : (probeEndings h target (item :: rest)).verdict = .failed .wrongType := by
    simp only [probeEndings, (itemText_refusedIff item).refused noText]
    rfl
  have behind : (probeEndings h target (endings.map .str ++ item :: rest)).verdict
      = ((endings.map (target ++ ·)).find? h.isFile).elim (.failed .wrongType) .hit := by
    induction endings with
    | nil => exact refused
    | cons ending endings ih =>
      have first : probeEndings h target ((ending :: endings).map .str ++ item :: rest)
          = (probe h (target ++ ending)).orElse fun _ =>
            probeEndings h target (endings.map .str ++ item :: rest) := rfl
      rw [first, Trail.verdict_orElse, ih]
      cases held : h.isFile (target ++ ending) <;> simp [probe, held]
  rw [loadFile, Trail.verdict_orElse, behind]
  cases held : h.isFile target <;> simp [probe, held, Plan.asFile]

/-- Where an item is no text, a target is loaded as a file or not at all. -/
theorem load_of_noText (h : Host) (target : Text) (endings : List Text) (rest : List Json)
    (noText : NoText item) :
    load h (endings.map .str ++ item :: rest) target
      = loadFile h (endings.map .str ++ item :: rest) target := by
  have verdict := verdict_loadFile_of_noText h target endings rest noText
  unfold load Trail.orElse
  cases found : (Plan.asFile endings target).find? h.isFile <;> simp [verdict, found]

theorem load_of_endingsFail (fails : EndingsFail h extensions target) :
    (load h extensions target).verdict = .failed .wrongType := by
  obtain ⟨endings, item, rest, rfl, noText, missing⟩ := fails
  have missed : (Plan.asFile endings target).find? h.isFile = none := by simpa using missing
  rw [load_of_noText h target endings rest noText,
    verdict_loadFile_of_noText h target endings rest noText, missed]
  rfl

/-- With endings that do not fail a target is loaded as a file, or all of them are texts. -/
theorem load_hits_or_texts (passes : ¬ EndingsFail h extensions target) :
    (∃ path, (load h extensions target).verdict = .hit path) ∨
      ∃ endings : List Text, extensions = endings.map .str := by
  rcases texts_or_noText extensions with texts | ⟨endings, item, rest, rfl, noText⟩
  · exact .inr texts
  · refine .inl ?_
    rw [load_of_noText h target endings rest noText,
      verdict_loadFile_of_noText h target endings rest noText]
    cases found : (Plan.asFile endings target).find? h.isFile with
    | some path => exact ⟨path, rfl⟩
    | none =>
      have missing : ∀ path ∈ Plan.asFile endings target, h.isFile path = false := by
        simpa using found
      exact absurd ⟨endings, item, rest, rfl, noText, missing⟩ passes

/-- A list with an item that is no text is no list of texts. -/
theorem not_texts {texts endings : List Text} {rest : List Json} (noText : NoText item) :
    texts.map .str ++ item :: rest ≠ endings.map .str := by
  intro same
  have member : item ∈ endings.map Json.str := same ▸ by simp
  obtain ⟨text, -, rfl⟩ := List.mem_map.mp member
  exact noText text rfl

theorem settles_resolution {trail : Trail} {condition : Prop} {full : Descent → Prop}
    (strategy : Strategy) (failed : condition → trail.verdict = .failed .wrongType)
    (exhausted : ∀ descent, full descent → trail.verdict = .failed (.exhausted descent))
    (ended : ¬ condition → (∀ descent, ¬ full descent) → ∀ fault, trail.verdict ≠ .failed fault) :
    Settles (trail.resolution strategy) condition full := by
  refine ⟨fun refused => ?_, fun descent none => ?_, fun allowed fits => ?_⟩
  · simp [Trail.resolution, failed refused]
  · simp [Trail.resolution, exhausted descent none]
  · unfold Trail.resolution
    cases held : trail.verdict with
    | hit path => exact ⟨_, rfl⟩
    | miss => exact ⟨_, rfl⟩
    | failed fault => exact absurd held (ended allowed fits fault)

/-- Loading the first of some targets is refused exactly if the endings fail for the first one, and
there is no room for it exactly if the endings are texts and there is none to go through the
plan. -/
theorem loadFirst_settles (h : Host) (extensions : List Json) (targets : List Text)
    (strategy : Strategy) :
    Settles ((loadFirst h extensions targets).resolution strategy)
      (∃ first others, targets = first :: others ∧ EndingsFail h extensions first)
      fun descent => ∃ endings, extensions = endings.map .str ∧
        Plan.OverflowsIn h endings descent targets := by
  have refused : (∃ first others, targets = first :: others ∧ EndingsFail h extensions first) →
      (loadFirst h extensions targets).verdict = .failed .wrongType := by
    rintro ⟨first, others, rfl, fails⟩
    rw [loadFirst, Trail.verdict_orElse, load_of_endingsFail fails]
  rcases texts_or_noText extensions with ⟨endings, rfl⟩ | ⟨texts, item, rest, rfl, noText⟩
  · have same {endings' : List Text} (texts : endings.map Json.str = endings'.map .str) :
        endings = endings' :=
      List.map_injective_iff.mpr (fun _ _ same => Json.str.inj same) texts
    cases ends_loadFirst h endings targets with
    | followed fits followed =>
      refine settles_resolution strategy refused ?_ fun _ _ fault => ?_
      · rintro descent ⟨endings', texts, full⟩
        exact absurd (same texts ▸ full) (fits descent)
      · rw [followed.verdict]
        cases (targets.flatMap (Plan.ofTarget h endings)).find? h.isFile <;> simp
    | exhausted descent overflows failed =>
      refine settles_resolution strategy refused ?_ fun _ fits => ?_
      · rintro other ⟨endings', texts, full⟩
        rw [failed, Plan.overflowsIn_unique overflows (same texts ▸ full)]
      · exact absurd ⟨endings, rfl, overflows⟩ (fits descent)
  · refine settles_resolution strategy refused ?_ fun passes _ => ?_
    · rintro descent ⟨endings, same, -⟩
      exact absurd same (not_texts noText)
    · cases targets with
      | nil => simp [loadFirst, Trail.miss]
      | cons first others =>
        have passes : ¬ EndingsFail h (texts.map .str ++ item :: rest) first :=
          fun fails => passes ⟨first, others, rfl, fails⟩
        rcases load_hits_or_texts passes with ⟨path, hit⟩ | ⟨endings, same⟩
        · simp [loadFirst, Trail.verdict_orElse, hit]
        · exact absurd same (not_texts noText)

/-! ### Searches -/

theorem search_settles (existing : h.directory? = some cwd) (options : Options)
    (specifier directory : Text) :
    Settles (search h options specifier directory).outcome
      (SearchFails h options specifier directory)
      (SearchOverflows h options specifier directory) := by
  unfold search SearchFails SearchOverflows targetsOf
  split
  · rw [← loadFirst_singleton]
    exact (loadFirst_settles h options.extensions _ .absolute).congr (by simp) (by simp)
  · split
    · rw [← loadFirst_singleton]
      exact (loadFirst_settles h options.extensions _ .relative).congr (by simp) (by simp)
    · refine Settles.step (searchPath_refusedIff existing options directory) ?_ ?_ ?_
      · intro fault held
        simp only [held, Traced.outcome_fault]
      · intro directories held
        simp only [held, loadPackage_eq, Except.map, Except.ok.injEq]
        refine (loadFirst_settles h options.extensions _ .package).congr ?_ (by simp)
        cases directories <;> simp
      · rintro descent ⟨endings, targets, -, listed, -⟩ fails
        rw [(searchPath_refusedIff existing options directory).refused fails] at listed
        cases listed

theorem contained_settles {outcome : Except Fault Resolution} {condition : Prop}
    {full : Descent → Prop} (known : Settles outcome condition full) :
    Settles (contained outcome) condition full :=
  known.through rfl (fun _ => rfl) fun answer => ⟨answer, rfl⟩

/-- Resolving a specifier from an absolute file is refused for a wrong type if the specifier is
refused, breaks off if there is no room to search for it, and otherwise has an answer. -/
theorem resolve_settles (existing : h.directory? = some cwd) (specifier : Text)
    (absolute : Path.isAbsolute file = true) (members : List (Text × Json)) :
    Settles (resolve h specifier file members).outcome (Refuses h specifier file members)
      (Overflows h specifier file members) := by
  refine Settles.step (ofMembers_refusedIff members) ?_ ?_ ?_
  · intro fault held
    simp only [resolve, held, Traced.outcome_fault]
  · intro options accepted
    simp only [resolve, accepted, outcome_containing]
    apply contained_settles
    cases core : isCore specifier with
    | true =>
      simp only [resolveWith, core, if_true]
      exact .of_ok rfl (by simp) (by simp [Overflows, core])
    | false =>
      simp only [resolveWith, core, Bool.false_eq_true, if_false, Host.absolute, absolute, if_true]
      exact (search_settles existing options specifier _).congr (by simp)
        (by simp [Overflows, accepted, core])
  · rintro descent ⟨options, accepted, -, -⟩ unlistable
    rw [(ofMembers_refusedIff members).refused unlistable] at accepted
    cases accepted

end ImportResolution.Module
