import ImportResolution.Module.Resolver

/-! Placed specifiers: those that are absolute or relative. They name one target, and apart from the
name of the strategy the answer to them depends on nothing else. -/
namespace ImportResolution

/-- The answer with another strategy, if something was found. -/
def Resolution.relabel (strategy : Strategy) (answer : Resolution) : Resolution :=
  if answer.found then { answer with strategy } else answer

namespace Module

variable {h : Host} {specifier file target : Text} {members : List (Text × Json)}

/-- No core module has a name that starts like a path. -/
theorem core_specifiers_start : ∀ specifier ∈ coreSpecifiers,
    specifier.head? ≠ some '/' ∧ specifier.head? ≠ some '.' := by
  decide +kernel

theorem isCore_of_start (start : specifier.head? = some '/' ∨ specifier.head? = some '.') :
    isCore specifier = false := by
  cases core : isCore specifier with
  | false => rfl
  | true =>
    have member : specifier ∈ coreSpecifiers := by simpa [isCore] using core
    have ⟨slash, dot⟩ := core_specifiers_start specifier member
    rcases start with start | start
    · exact absurd start slash
    · exact absurd start dot

/-- An outcome in which the refusals of the file system count as finding nothing. -/
def contained : Except Fault Resolution → Except Fault Resolution
  | .error (.system _ _) => .ok (.missing [])
  | outcome => outcome

theorem outcome_containing (specifier file : Text) (traced : Traced Resolution) :
    (containing specifier file traced).outcome = contained traced.outcome := by
  unfold containing contained
  cases held : traced.outcome with
  | ok answer => exact held
  | error fault =>
    cases fault with
    | system cause path? => rfl
    | _ => exact held

/-- An answer stands, or it is what becomes of a refusal. -/
theorem contained_eq_ok {outcome : Except Fault Resolution} {answer : Resolution} :
    contained outcome = .ok answer ↔ outcome = .ok answer ∨
      answer = .missing [] ∧ ∃ cause path?, outcome = .error (.system cause path?) := by
  cases outcome with
  | ok other => simp [contained]
  | error fault => cases fault <;> simp [contained, eq_comm]

/-- A core module is found whatever is in the tree, as long as the options are lists. -/
theorem resolve_core {options : Options} (accepted : Options.ofMembers members = .ok options)
    (core : isCore specifier = true) (file : Text) :
    (resolve h specifier file members).outcome = .ok .coreModule := by
  simp only [resolve, accepted, outcome_containing, resolveWith, core, if_true]
  rfl

/-- The outcome of loading one target under the options that the members of an object set. -/
def loaded (h : Host) (members : List (Text × Json)) (strategy : Strategy) (target : Text) :
    Except Fault Resolution :=
  match Options.ofMembers members with
  | .error fault => .error fault
  | .ok options => contained ((load h options.extensions target).resolution strategy)

/-- An absolute specifier means its normal form, whatever file imports it. -/
theorem resolve_absolute (placed : Path.isAbsolute specifier = true)
    (absolute : Path.isAbsolute file = true) :
    (resolve h specifier file members).outcome
      = loaded h members .absolute (Path.normalize specifier) := by
  have start : specifier.head? = some '/' := by simpa [Path.isAbsolute] using placed
  have notCore := isCore_of_start (.inl start)
  unfold resolve loaded
  cases Options.ofMembers members with
  | error fault => rfl
  | ok options =>
    simp only [outcome_containing]
    simp [resolveWith, notCore, Host.absolute, absolute, search, placed, Trail.traced]

theorem start_of_isRelative (relative : isRelative specifier = true) :
    specifier.head? = some '.' := by
  simp only [isRelative, Bool.or_eq_true, decide_eq_true_eq, List.isPrefixOf_iff_prefix] at relative
  rcases relative with ((rfl | rfl) | ⟨rest, rfl⟩) | ⟨rest, rfl⟩ <;> rfl

/-- A relative specifier means its normal form below the directory of the importing file. -/
theorem resolve_relative (relative : isRelative specifier = true)
    (absolute : Path.isAbsolute file = true) :
    (resolve h specifier file members).outcome
      = loaded h members .relative
          (Path.normalize (Path.join (Path.dirname (Path.normalize file)) specifier)) := by
  have start := start_of_isRelative relative
  have notCore := isCore_of_start (.inr start)
  have unplaced : Path.isAbsolute specifier = false := by simp [Path.isAbsolute, start]
  unfold resolve loaded
  cases Options.ofMembers members with
  | error fault => rfl
  | ok options =>
    simp only [outcome_containing]
    simp [resolveWith, notCore, Host.absolute, absolute, search, unplaced, relative, Trail.traced]

theorem resolve_dotted (rest : Text) (absolute : Path.isAbsolute file = true) :
    (resolve h ('.' :: '/' :: rest) file members).outcome
      = loaded h members .relative
          (Path.normalize (Path.join (Path.dirname (Path.normalize file)) ('.' :: '/' :: rest))) :=
  resolve_relative (by simp [isRelative]) absolute

theorem map_relabel_contained (strategy : Strategy) (outcome : Except Fault Resolution) :
    (contained outcome).map (Resolution.relabel strategy)
      = contained (outcome.map (Resolution.relabel strategy)) := by
  cases outcome with
  | ok answer => rfl
  | error fault => cases fault <;> rfl

/-- The strategy under which a target is loaded is a name and nothing else. -/
theorem relabel_loaded (strategy other : Strategy) (target : Text) :
    (loaded h members other target).map (Resolution.relabel strategy)
      = loaded h members strategy target := by
  unfold loaded
  cases Options.ofMembers members with
  | error fault => rfl
  | ok options =>
    simp only [map_relabel_contained]
    congr 1
    unfold Trail.resolution
    cases (load h options.extensions target).verdict <;> rfl

end Module
end ImportResolution
