import ImportResolution.Proofs.Alias.Spelling
import ImportResolution.Proofs.Configuration.Decision

/-! Aliases in effect. A request is answered in two steps: first it is found out which alias entries
are in effect and what they are relative to, from the request or by discovery, and then the
specifier is resolved under them. Where the plugin is not listed no entries are in effect. -/
namespace ImportResolution

namespace Resolution

@[simp] theorem found_relabel (strategy : Strategy) (answer : Resolution) :
    (answer.relabel strategy).found = answer.found := by
  unfold relabel
  split <;> rfl

@[simp] theorem path?_relabel (strategy : Strategy) (answer : Resolution) :
    (answer.relabel strategy).path? = answer.path? := by
  unfold relabel
  split <;> rfl

@[simp] theorem candidates_relabel (strategy : Strategy) (answer : Resolution) :
    (answer.relabel strategy).candidates = answer.candidates := by
  unfold relabel
  split <;> rfl

@[simp] theorem strategy_relabel (strategy : Strategy) (answer : Resolution) :
    (answer.relabel strategy).strategy = if answer.found then strategy else answer.strategy := by
  unfold relabel
  split <;> rfl

end Resolution

namespace AliasEntry

variable {root : Text}

/-- Below an absolute root an entry makes an absolute path of every specifier. -/
theorem isAbsolute_anchored (entry : AliasEntry) (rooted : Path.isAbsolute root = true)
    (specifier : Text) :
    Path.isAbsolute (entry.anchored root specifier) = true :=
  Path.isAbsolute_normalize (Path.isAbsolute_join rooted _)

theorem normalize_anchored (entry : AliasEntry) (rooted : Path.isAbsolute root = true)
    (specifier : Text) :
    Path.normalize (entry.anchored root specifier) = entry.anchored root specifier :=
  Path.normalize_normalize (Path.isAbsolute_join rooted _)

end AliasEntry

namespace Application

/-- Whether an entry applied. -/
def matched (applied : Application) : Bool := applied.entry?.isSome

/-- An answer under the name of the alias that it is owed to, if it is owed to one. -/
def labelled (applied : Application) (answer : Resolution) : Resolution :=
  if applied.matched then answer.relabel .aliased else answer

@[simp] theorem found_labelled (applied : Application) (answer : Resolution) :
    (applied.labelled answer).found = answer.found := by
  unfold labelled
  split <;> simp

@[simp] theorem path?_labelled (applied : Application) (answer : Resolution) :
    (applied.labelled answer).path? = answer.path? := by
  unfold labelled
  split <;> simp

/-- A specifier is replaced by the first entry that applies, or, where none does, stays as it is. -/
theorem ofEntries_cases (specifier root : Text) (entries : List AliasEntry) :
    (∃ entry place, entries.find? (·.applies specifier) = some entry ∧
      ofEntries specifier entries root
        = ⟨entry.anchored root specifier, entry.options, some (place, entry)⟩) ∨
    (entries.find? (·.applies specifier) = none ∧
      ∃ options, ofEntries specifier entries root = ⟨specifier, options, none⟩) := by
  cases first : entries.find? (·.applies specifier) with
  | some entry =>
    obtain ⟨place, applied⟩ := ofEntriesFrom_of_find? root 0 [] first
    exact .inl ⟨entry, place, rfl, applied⟩
  | none => exact .inr ⟨rfl, _, ofEntries_of_passed (by simpa using first)⟩

/-- An entry applied if there is one that does. -/
theorem matched_ofEntries (specifier root : Text) (entries : List AliasEntry) :
    (ofEntries specifier entries root).matched = true
      ↔ ∃ entry ∈ entries, entry.applies specifier = true := by
  rcases ofEntries_cases specifier root entries with
    ⟨entry, place, first, applied⟩ | ⟨passed, options, applied⟩
  · simp only [applied, matched, Option.isSome_some, true_iff]
    exact ⟨entry, List.mem_of_find?_eq_some first, by simpa using List.find?_some first⟩
  · simpa [applied, matched] using passed

end Application

/-- Alias entries, and the root that they are relative to. -/
structure Aliases where
  entries : List AliasEntry
  root : Text

namespace Request

open ImportResolution.Configuration

/-- The aliases in effect for a request. -/
def aliases (h : Host) (request : Request) : Except Fault Aliases :=
  (h.rootOf request.root?).bind fun root =>
    match ConfigurationKind.of request.configuration with
    | .aliases => (AliasEntry.ofConfiguration request.configuration).map (⟨·, root⟩)
    | _ => (discover h (some root) request.fileName).outcome.map fun
      | .notListed => ⟨[], root⟩
      | .located configuration => ⟨AliasEntry.ofItems configuration.entries, configuration.root⟩

/-- What aliases make of the specifier of a request. -/
def applied (request : Request) (aliases : Aliases) : Application :=
  Application.ofEntries request.specifier aliases.entries aliases.root

variable {h : Host} {request : Request} {inEffect : Aliases}

/-- Under alias entries a specifier is resolved as what they make of it. -/
theorem outcome_resolveUnder (h : Host) (specifier file root : Text) (entries : List AliasEntry) :
    (resolveUnder h specifier file root entries).outcome
      = (Module.resolve h (Application.ofEntries specifier entries root).specifier file
          (Application.ofEntries specifier entries root).options).outcome.map
        (Application.ofEntries specifier entries root).labelled := by
  unfold resolveUnder
  generalize Application.ofEntries specifier entries root = applied
  obtain ⟨target, options, entry⟩ := applied
  cases entry with
  | none =>
    simp only
    cases (Module.resolve h target file options).outcome <;> rfl
  | some entry =>
    simp only [Traced.outcome_bind, Traced.outcome_report]
    cases (Module.resolve h target file options).outcome <;> rfl

/-- A request is answered under the aliases in effect, or by the fault that there are none to be
had. -/
theorem outcome_resolve (h : Host) (request : Request) :
    (resolve h request).outcome = (request.aliases h).bind fun inEffect =>
      (Module.resolve h (request.applied inEffect).specifier request.file
        (request.applied inEffect).options).outcome.map (request.applied inEffect).labelled := by
  have under : (resolve h request).outcome = (request.aliases h).bind fun inEffect =>
      (resolveUnder h request.specifier request.file inEffect.root inEffect.entries).outcome := by
    unfold resolve aliases Host.rootOf
    cases h.startingPoint request.root? with
    | error fault => rfl
    | ok start =>
      simp only [Except.map, Except.bind]
      generalize (PlainPath.ofText start).toText = root
      have discovered : (resolveDiscovered h request.specifier request.file root
            request.fileName).outcome
          = ((discover h (some root) request.fileName).outcome.map fun
            | .notListed => Aliases.mk [] root
            | .located configuration =>
              ⟨AliasEntry.ofItems configuration.entries, configuration.root⟩).bind
            fun inEffect => (resolveUnder h request.specifier request.file inEffect.root
              inEffect.entries).outcome := by
        rw [resolveDiscovered, Traced.outcome_bind]
        cases (discover h (some root) request.fileName).outcome with
        | error fault => rfl
        | ok found => cases found <;> rfl
      cases ConfigurationKind.of request.configuration with
      | aliases =>
        simp only [resolveConfigured]
        cases AliasEntry.ofConfiguration request.configuration <;> rfl
      | unset => exact discovered
      | passthrough => exact discovered
  rw [under]
  simp only [outcome_resolveUnder, applied]

/-! ### The root of the aliases -/

theorem isAbsolute_asked {start : Text} (absolute : Path.isAbsolute start = true)
    {directory : PlainPath} (member : directory ∈ asked start) :
    Path.isAbsolute directory.toText = true := by
  apply PlainPath.isAbsolute_toText
  rw [slashes_of_mem_asked member]
  exact Path.isAbsolute_iff_rootSlashes.mp absolute

/-- Aliases are relative to an absolute root, be it given or discovered. -/
theorem isAbsolute_root_of_aliases (rooted : h.Rooted)
    (listed : request.aliases h = .ok inEffect) : Path.isAbsolute inEffect.root = true := by
  obtain ⟨root, located, listed⟩ := Except.bind_eq_ok.mp listed
  have absolute := Host.isAbsolute_rootOf rooted located
  split at listed
  · obtain ⟨entries, -, rfl⟩ := Except.map_eq_ok.mp listed
    exact absolute
  · obtain ⟨discovery, found, rfl⟩ := Except.map_eq_ok.mp listed
    cases discovery with
    | notListed => exact absolute
    | located configuration =>
      obtain ⟨start, started⟩ : ∃ start, h.startingPoint (some root) = .ok start := by
        cases started : h.startingPoint (some root) with
        | ok start => exact ⟨start, rfl⟩
        | error fault => simp [discover, started] at found
      obtain ⟨directory, member, same⟩ := root_of_located started found
      show Path.isAbsolute configuration.root = true
      rw [same]
      exact isAbsolute_asked (Host.isAbsolute_startingPoint rooted started) member

end Request
end ImportResolution
