import ImportResolution.Proofs.Host.Root
import ImportResolution.Proofs.Module.Plan
import ImportResolution.Proofs.Module.Placed
import ImportResolution.Proofs.Module.Target
import ImportResolution.Proofs.Path.Descent

/-! Well-formed answers. A search probes absolute paths only, it stops at the first file that it
probes, and that file is its answer; so the parts of an answer agree with each other and with the
file tree, whatever the options are. -/
namespace ImportResolution

/-- An answer whose parts agree. It names no strategy exactly if nothing was found, and core modules
alone are found without a file and without a probe. A file that was found is the last path that was
probed and the only one of them that is a file. -/
structure Resolution.WellFormed (h : Host) (answer : Resolution) : Prop where
  missing : answer.found = false ↔ answer.strategy = .notFound
  pathless : answer.found = false → answer.path? = none
  coreModule : (answer.found = true ∧ answer.path? = none) ↔ answer.strategy = .builtin
  unprobed : answer.strategy = .builtin → answer.candidates = []
  file : ∀ path, answer.path? = some path → Path.isAbsolute path = true ∧ h.isFile path = true ∧
    ∃ earlier, answer.candidates = earlier ++ [path] ∧
      ∀ candidate ∈ earlier, h.isFile candidate = false
  absolute : ∀ candidate ∈ answer.candidates, Path.isAbsolute candidate = true

namespace Module

variable {h : Host} {directories found : List Text} {options : Options}
  {target directory specifier file : Text}

/-- A trail of absolute paths that ends at the first file among them, or has none. -/
structure Trail.Sound (h : Host) (trail : Trail) : Prop where
  absolute : ∀ candidate ∈ trail.candidates, Path.isAbsolute candidate = true
  hit : ∀ path, trail.verdict = .hit path → h.isFile path = true ∧
    ∃ earlier, trail.candidates = earlier ++ [path] ∧
      ∀ candidate ∈ earlier, h.isFile candidate = false
  missed : trail.verdict = .miss → ∀ candidate ∈ trail.candidates, h.isFile candidate = false

theorem sound_miss : Trail.miss.Sound h := ⟨nofun, nofun, nofun⟩

theorem sound_failed (fault : Fault) : (Trail.failed fault).Sound h := ⟨nofun, nofun, nofun⟩

theorem sound_after {trail : Trail} (events : List Event) (sound : trail.Sound h) :
    (trail.after events).Sound h :=
  ⟨sound.absolute, sound.hit, sound.missed⟩

theorem sound_probe {path : Text} (absolute : Path.isAbsolute path = true) :
    (probe h path).Sound h := by
  constructor
  · simpa [probe] using absolute
  · intro other hit
    cases held : h.isFile path with
    | true =>
      obtain rfl : path = other := by simpa [probe, held] using hit
      exact ⟨held, [], rfl, by simp⟩
    | false => simp [probe, held] at hit
  · intro missed
    cases held : h.isFile path with
    | true => simp [probe, held] at missed
    | false => simpa [probe] using held

/-- A search that goes on where a sound one found nothing is sound, since all that was probed before
is no file. -/
theorem sound_orElse {first : Trail} {second : Unit → Trail} (sound : first.Sound h)
    (next : (second ()).Sound h) : (first.orElse second).Sound h := by
  unfold Trail.orElse
  split
  · rename_i ended
    constructor
    · intro candidate member
      rcases List.mem_append.mp member with member | member
      · exact sound.absolute candidate member
      · exact next.absolute candidate member
    · intro path hit
      obtain ⟨held, earlier, candidates, others⟩ := next.hit path hit
      refine ⟨held, first.candidates ++ earlier, by simp [candidates], ?_⟩
      intro candidate member
      rcases List.mem_append.mp member with member | member
      · exact sound.missed ended candidate member
      · exact others candidate member
    · intro missed candidate member
      rcases List.mem_append.mp member with member | member
      · exact sound.missed ended candidate member
      · exact next.missed missed candidate member
  · exact sound

/-! ### Loading -/

theorem sound_probeEndings (absolute : Path.isAbsolute target = true) (extensions : List Json) :
    (probeEndings h target extensions).Sound h := by
  induction extensions with
  | nil => exact sound_miss
  | cons ending rest ih =>
    unfold probeEndings
    cases itemText ending with
    | error fault => exact sound_failed fault
    | ok ending => exact sound_orElse (sound_probe (Path.isAbsolute_append absolute ending)) ih

theorem sound_loadFile (extensions : List Json) (absolute : Path.isAbsolute target = true) :
    (loadFile h extensions target).Sound h :=
  sound_orElse (sound_probe absolute) (sound_probeEndings absolute extensions)

theorem sound_loadIndex (extensions : List Json) (absolute : Path.isAbsolute directory = true) :
    (loadIndex h extensions directory).Sound h :=
  sound_loadFile extensions (Path.isAbsolute_join absolute indexName)

theorem sound_loadMain (extensions : List Json) (absolute : Path.isAbsolute directory = true)
    (main : Text) : (loadMain h extensions directory main).Sound h := by
  have placed := Path.isAbsolute_normalize (Path.isAbsolute_join absolute main)
  unfold loadMain
  refine sound_orElse (sound_loadFile extensions placed) ?_
  split
  · exact sound_miss
  · exact sound_loadIndex extensions placed

theorem sound_loadDirectory (extensions : List Json) (absolute : Path.isAbsolute directory = true) :
    (loadDirectory h extensions directory).Sound h := by
  have index := sound_loadIndex (h := h) extensions absolute
  unfold loadDirectory
  split
  · exact sound_miss
  · simp only
    split
    · exact index
    · apply sound_after
      split
      · exact sound_failed _
      · exact index
      · exact sound_orElse (sound_loadMain extensions absolute _) index

theorem sound_load (extensions : List Json) (absolute : Path.isAbsolute target = true) :
    (load h extensions target).Sound h :=
  sound_orElse (sound_loadFile extensions absolute) (sound_loadDirectory extensions absolute)

/-- Loading a package from absolute directories is sound. -/
theorem sound_loadPackage (extensions : List Json) (name : Text)
    (absolute : ∀ directory ∈ directories, Path.isAbsolute directory = true) :
    (loadPackage h extensions name directories).Sound h := by
  induction directories with
  | nil => exact sound_miss
  | cons directory rest ih =>
    obtain ⟨first, others⟩ := List.forall_mem_cons.mp absolute
    exact sound_orElse (sound_load extensions (Path.isAbsolute_join first name)) (ih others)

/-! ### Directories to be searched -/

/-- From an absolute directory only absolute directories are searched. -/
theorem isAbsolute_of_searched {place : Text} (rooted : h.Rooted)
    (absolute : Path.isAbsolute directory = true) (searched : Searched h options directory place) :
    Path.isAbsolute place = true := by
  cases searched with
  | level above named =>
    exact Path.isAbsolute_join (Path.isAbsolute_ancestors absolute _ above) _
  | extra named made => exact Host.isAbsolute_absolute rooted made

theorem isAbsolute_searchPath (rooted : h.Rooted) (absolute : Path.isAbsolute directory = true)
    (listed : searchPath h options directory = .ok found) :
    ∀ searched ∈ found, Path.isAbsolute searched = true := by
  intro searched member
  exact isAbsolute_of_searched rooted absolute (searched_of_searchPath listed member)

/-! ### Answers -/

/-- The strategy under which a specifier is found. -/
def strategyOf (specifier : Text) : Strategy :=
  if isCore specifier then .builtin else Plan.strategy specifier

variable {answer : Resolution} {strategy : Strategy}

/-- A well-formed answer that names a strategy if something was found. What is built in is always
found. -/
structure Answers (h : Host) (strategy : Strategy) (answer : Resolution) : Prop where
  wellFormed : answer.WellFormed h
  named : answer.strategy = if answer.found then strategy else .notFound
  certain : strategy = .builtin → answer.found = true

theorem answers_missing {candidates : List Text} (plain : strategy ≠ .builtin)
    (absolute : ∀ candidate ∈ candidates, Path.isAbsolute candidate = true) :
    Answers h strategy (.missing candidates) where
  wellFormed :=
    { missing := by simp [Resolution.missing, Resolution.found]
      pathless := fun _ => rfl
      coreModule := by simp [Resolution.missing, Resolution.found]
      unprobed := nofun
      file := nofun
      absolute }
  named := rfl
  certain := fun core => absurd core plain

theorem answers_coreModule (h : Host) : Answers h .builtin .coreModule where
  wellFormed :=
    { missing := by simp [Resolution.coreModule, Resolution.found]
      pathless := fun _ => rfl
      coreModule := by simp [Resolution.coreModule, Resolution.found, Resolution.path?]
      unprobed := fun _ => rfl
      file := nofun
      absolute := nofun }
  named := rfl
  certain := fun _ => rfl

theorem answers_file {path : Text} {candidates earlier : List Text} (plain : strategy ≠ .builtin)
    (named : strategy ≠ .notFound) (held : h.isFile path = true)
    (last : candidates = earlier ++ [path])
    (others : ∀ candidate ∈ earlier, h.isFile candidate = false)
    (absolute : ∀ candidate ∈ candidates, Path.isAbsolute candidate = true) :
    Answers h strategy ⟨.file path, strategy, candidates⟩ where
  wellFormed :=
    { missing := by simpa [Resolution.found] using named
      pathless := nofun
      coreModule := by simpa [Resolution.found, Resolution.path?] using plain
      unprobed := fun core => absurd core plain
      file := by
        intro other same
        cases same
        exact ⟨absolute path (by simp [last]), held, earlier, last, others⟩
      absolute }
  named := rfl
  certain := fun core => absurd core plain

/-- A sound search gives a well-formed answer, if it is not cut short. -/
theorem answers_resolution {trail : Trail} (sound : trail.Sound h) (plain : strategy ≠ .builtin)
    (named : strategy ≠ .notFound) (answered : trail.resolution strategy = .ok answer) :
    Answers h strategy answer := by
  unfold Trail.resolution at answered
  cases ended : trail.verdict with
  | failed fault => simp [ended] at answered
  | miss =>
    obtain rfl : Resolution.missing trail.candidates = answer := by simpa [ended] using answered
    exact answers_missing plain sound.absolute
  | hit path =>
    obtain rfl : ⟨.file path, strategy, trail.candidates⟩ = answer := by
      simpa [ended] using answered
    obtain ⟨held, earlier, last, others⟩ := sound.hit path ended
    exact answers_file plain named held last others sound.absolute

theorem search_answers (rooted : h.Rooted) (absolute : Path.isAbsolute directory = true)
    (answered : (search h options specifier directory).outcome = .ok answer) :
    Answers h (Plan.strategy specifier) answer := by
  unfold search at answered
  unfold Plan.strategy
  split at answered <;> rename_i placed
  · rw [if_pos placed]
    exact answers_resolution (sound_load _ (Path.isAbsolute_normalize placed)) nofun nofun answered
  · rw [if_neg placed]
    split at answered <;> rename_i relative
    · rw [if_pos relative]
      have target := Path.isAbsolute_normalize (Path.isAbsolute_join absolute specifier)
      exact answers_resolution (sound_load _ target) nofun nofun answered
    · rw [if_neg relative]
      split at answered
      · cases answered
      · rename_i listed
        have searched := isAbsolute_searchPath rooted absolute listed
        exact answers_resolution (sound_loadPackage _ specifier searched) nofun nofun answered

theorem contained_answers {outcome : Except Fault Resolution} (plain : strategy ≠ .builtin)
    (answers : outcome = .ok answer → Answers h strategy answer)
    (answered : contained outcome = .ok answer) : Answers h strategy answer := by
  rcases contained_eq_ok.mp answered with ended | ⟨rfl, -⟩
  · exact answers ended
  · exact answers_missing plain (by simp)

theorem planStrategy_ne_builtin (specifier : Text) : Plan.strategy specifier ≠ .builtin := by
  unfold Plan.strategy
  split
  · nofun
  · split <;> nofun

/-- Resolving a specifier gives well-formed answers only, each of them under the strategy of the
specifier. -/
theorem resolve_answers (rooted : h.Rooted) {members : List (Text × Json)}
    (answered : (resolve h specifier file members).outcome = .ok answer) :
    Answers h (strategyOf specifier) answer := by
  unfold resolve at answered
  unfold strategyOf
  split at answered
  · cases answered
  · rw [outcome_containing] at answered
    unfold resolveWith at answered
    split at answered <;> rename_i core
    · cases answered
      rw [if_pos core]
      exact answers_coreModule h
    · rw [if_neg core]
      refine contained_answers (planStrategy_ne_builtin specifier) (fun answered => ?_) answered
      split at answered
      · cases answered
      · rename_i made
        have absolute := Path.isAbsolute_dirname (Host.isAbsolute_absolute rooted made)
        exact search_answers rooted absolute answered

theorem strategyOf_eq_builtin : strategyOf specifier = .builtin ↔ isCore specifier = true := by
  unfold strategyOf
  split <;> rename_i core
  · simp [core]
  · simp [core, planStrategy_ne_builtin]

theorem strategyOf_ne_aliased (specifier : Text) : strategyOf specifier ≠ .aliased := by
  unfold strategyOf Plan.strategy
  split
  · nofun
  · split
    · nofun
    · split <;> nofun

/-- An answer is built in if and only if that is the way on which its specifier is found. -/
theorem builtin_iff (answers : Answers h strategy answer) :
    answer.strategy = .builtin ↔ strategy = .builtin := by
  constructor
  · intro builtin
    rw [answers.named] at builtin
    split at builtin
    · exact builtin
    · cases builtin
  · intro core
    rw [answers.named, if_pos (answers.certain core), core]

theorem aliased_iff (answers : Answers h strategy answer) :
    answer.strategy = .aliased ↔ answer.found = true ∧ strategy = .aliased := by
  rw [answers.named]
  split <;> rename_i found
  · simp [found]
  · simp [found]

end Module
end ImportResolution
