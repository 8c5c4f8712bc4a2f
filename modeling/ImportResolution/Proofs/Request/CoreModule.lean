import ImportResolution.Proofs.Request.Refusal

/-! Core modules under aliases. Aliases are applied before anything is resolved, so a core module is
found as one exactly if no alias in effect applies to its name; an alias whose sign is the name, or
the first part of the name, takes its place. -/
namespace ImportResolution

namespace Application

/-- The options in force are those of an entry, if there are any entries. -/
theorem options_ofEntries (specifier root : Text) (entries : List AliasEntry) :
    (ofEntries specifier entries root).options = [] ∨
      ∃ entry ∈ entries, (ofEntries specifier entries root).options = entry.options := by
  have passed (index : Nat) (options : List (Text × Json)) :
      (ofEntriesFrom specifier root index options entries).options = options ∨
        ∃ entry ∈ entries,
          (ofEntriesFrom specifier root index options entries).options = entry.options := by
    induction entries generalizing index options with
    | nil => exact .inl rfl
    | cons entry rest ih =>
      refine .inr ?_
      unfold ofEntriesFrom
      split
      · exact ⟨entry, List.mem_cons_self .., rfl⟩
      · rcases ih (index + 1) entry.options with same | ⟨later, member, same⟩
        · exact ⟨entry, List.mem_cons_self .., same⟩
        · exact ⟨later, List.mem_cons_of_mem _ member, same⟩
  exact passed 0 []

end Application

namespace Request

open ImportResolution.Configuration

variable {h : Host} {request : Request} {root : Text} {inEffect : Aliases}

/-- Options as a configuration that is written by the rules gives them, in every entry in effect. -/
structure WellTyped (inEffect : Aliases) : Prop where
  set : ∀ entry ∈ inEffect.entries, ∃ settings : Module.Settings, settings.SetBy entry.options

/-- Well-typed options are accepted, whichever of them are in force. -/
theorem accepted_of_wellTyped (typed : WellTyped inEffect) (request : Request) :
    ∃ options, Module.Options.ofMembers (request.applied inEffect).options = .ok options := by
  rcases Application.options_ofEntries request.specifier inEffect.root inEffect.entries with
    empty | ⟨entry, member, same⟩
  · exact ⟨_, by rw [applied, empty]; rfl⟩
  · obtain ⟨settings, set⟩ := typed.set entry member
    exact ⟨settings.toOptions, by rw [applied, same, Module.ofMembers_of_setBy set]⟩

/-- An answer that is owed to an alias is no core module. -/
theorem labelled_ne_coreModule {applied : Application} (matched : applied.matched = true)
    (answer : Resolution) : applied.labelled answer ≠ .coreModule := by
  intro core
  have found : answer.found = true := by
    rw [← Application.found_labelled applied answer, core]
    rfl
  have strategy : (applied.labelled answer).strategy = .aliased := by
    simp [Application.labelled, matched, found]
  rw [core] at strategy
  cases strategy

/-- The name of a core module means the core module if and only if no alias in effect applies to it;
the first alias that does makes a path of the name, which is then resolved like any other. -/
theorem core_iff_unaliased (located : h.rootOf request.root? = .ok root)
    (discovered : ConfigurationKind.of request.configuration ≠ .aliases →
      ∃ found, (discover h (some root) request.fileName).outcome = .ok found)
    (core : Module.isCore request.specifier = true) :
    ∃ inEffect, request.aliases h = .ok inEffect ∧
      (WellTyped inEffect →
        ((resolve h request).outcome = .ok .coreModule ↔
          ∀ entry ∈ inEffect.entries, entry.applies request.specifier = false)) ∧
      ∀ entry, inEffect.entries.find? (·.applies request.specifier) = some entry →
        (resolve h request).outcome
          = (Module.resolve h (entry.anchored inEffect.root request.specifier) request.file
              entry.options).outcome.map (Resolution.relabel .aliased) := by
  obtain ⟨inEffect, listed⟩ := exists_aliases located discovered
  have under := outcome_resolve h request
  rw [listed] at under
  simp only [Except.bind] at under
  refine ⟨inEffect, listed, ?_, ?_⟩
  · intro typed
    constructor
    · intro answered
      rw [under] at answered
      obtain ⟨answer, -, label⟩ := Except.map_eq_ok.mp answered
      have unmatched : (request.applied inEffect).matched ≠ true := fun matched =>
        labelled_ne_coreModule matched answer label
      simpa [applied, Application.matched_ofEntries] using unmatched
    · intro passed
      obtain ⟨options, accepted⟩ := accepted_of_wellTyped typed request
      rcases Application.ofEntries_cases request.specifier inEffect.root inEffect.entries with
        ⟨entry, place, first, -⟩ | ⟨-, options, made⟩
      · have applies : entry.applies request.specifier = true := by simpa using List.find?_some first
        rw [passed entry (List.mem_of_find?_eq_some first)] at applies
        cases applies
      · have same : request.applied inEffect = ⟨request.specifier, options, none⟩ := made
        rw [under, same]
        rw [same] at accepted
        rw [Module.resolve_core accepted core]
        rfl
  · intro entry first
    obtain ⟨place, made⟩ := Application.ofEntriesFrom_of_find? inEffect.root 0 [] first
    have same : request.applied inEffect
        = ⟨entry.anchored inEffect.root request.specifier, entry.options, some (place, entry)⟩ :=
      made
    rw [under, same]
    rfl

/-- A project with a file of the name of a part of a core module. -/
def shadowing : Host :=
  ⟨⟨[(Place.ofPath "/p/promises.js".toList, .file (.text [])),
    (Place.ofPath "/p".toList, .directory)]⟩, some "/".toList, .usual⟩

/-- The members of an entry whose sign is the name of a core module. -/
def coreSign : List (Text × Json) := [("rootPathPrefix".toList, .str "fs".toList)]

/-- A request for a core module under that entry. -/
def underCoreSign (specifier : Text) : Request :=
  ⟨specifier, "/a.js".toList, .arr [.obj coreSign], [], some "/p".toList⟩

theorem aliases_underCoreSign (specifier : Text) :
    shadowing.rootOf (some "/p".toList) = .ok "/p".toList ∧
      (underCoreSign specifier).aliases shadowing
        = .ok ⟨[AliasEntry.ofMembers coreSign], "/p".toList⟩ := by
  have located : shadowing.rootOf (some "/p".toList) = .ok "/p".toList := by decide +kernel
  refine ⟨located, ?_⟩
  unfold aliases underCoreSign
  rw [located]
  rfl

theorem wellTyped_coreSign :
    WellTyped ⟨[AliasEntry.ofMembers coreSign], "/p".toList⟩ := by
  constructor
  intro entry member
  obtain rfl := List.mem_singleton.mp member
  have options : (AliasEntry.ofMembers coreSign).options = [] := by decide +kernel
  rw [options]
  exact ⟨_, Module.setBy_nil⟩

/-- With the scheme in front of it, the name of the core module is not the sign. -/
theorem core_iff_unaliased_scheme :
    Module.isCore "node:fs/promises".toList = true ∧
      shadowing.rootOf (some "/p".toList) = .ok "/p".toList ∧
      (resolve shadowing (underCoreSign "node:fs/promises".toList)).outcome = .ok .coreModule := by
  have core : Module.isCore "node:fs/promises".toList = true := by decide +kernel
  obtain ⟨located, listed⟩ := aliases_underCoreSign "node:fs/promises".toList
  refine ⟨core, located, ?_⟩
  have named : Module.isCore (underCoreSign "node:fs/promises".toList).specifier = true := core
  obtain ⟨inEffect, given, builtin, -⟩ :=
    core_iff_unaliased located (fun unlisted => absurd rfl unlisted) named
  obtain rfl := Except.ok.inj (given.symm.trans listed)
  refine (builtin wellTyped_coreSign).mpr ?_
  intro entry member
  obtain rfl := List.mem_singleton.mp member
  decide +kernel

/-- A core module is not found under every configuration: an alias takes its place. -/
theorem core_not_certain :
    ¬ ∀ (h : Host) (request : Request) (root : Text), h.rootOf request.root? = .ok root →
      (ConfigurationKind.of request.configuration ≠ .aliases →
        ∃ found, (discover h (some root) request.fileName).outcome = .ok found) →
      Module.isCore request.specifier = true →
      (∀ inEffect, request.aliases h = .ok inEffect → WellTyped inEffect) →
      (resolve h request).outcome = .ok .coreModule := by
  intro certain
  obtain ⟨located, listed⟩ := aliases_underCoreSign "fs/promises".toList
  have builtin := certain shadowing (underCoreSign "fs/promises".toList) "/p".toList located
    (fun unlisted => absurd rfl unlisted) (by decide +kernel) (by
      intro inEffect given
      obtain rfl := Except.ok.inj (given.symm.trans listed)
      exact wellTyped_coreSign)
  have aliased : (resolve shadowing (underCoreSign "fs/promises".toList)).outcome
      = .ok ⟨.file "/p/promises.js".toList, .aliased, ["/p/promises".toList,
          "/p/promises.mjs".toList, "/p/promises.js".toList]⟩ := by
    decide +kernel
  rw [aliased] at builtin
  cases builtin

end Request
end ImportResolution
