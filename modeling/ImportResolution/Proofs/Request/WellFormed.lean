import ImportResolution.Proofs.Module.WellFormed
import ImportResolution.Proofs.Request.InEffect

/-! Well-formed answers to requests. An entry that applies makes an absolute path of the specifier,
so an alias never leads to a core module, and a request that it answers is answered by a file. -/
namespace ImportResolution.Request

variable {h : Host} {request : Request} {inEffect : Aliases} {answer : Resolution}

/-- An answer stays well formed under the name of an alias, unless it is a core module. -/
theorem wellFormed_relabel (wellFormed : answer.WellFormed h) (plain : answer.strategy ≠ .builtin) :
    (answer.relabel .aliased).WellFormed h := by
  cases found : answer.found with
  | false =>
    have same : answer.relabel .aliased = answer := by simp [Resolution.relabel, found]
    rwa [same]
  | true =>
    have filed : answer.path? ≠ none := fun absent =>
      plain (wellFormed.coreModule.mp ⟨found, absent⟩)
    exact
      { missing := by simp [found]
        pathless := by simp [found]
        coreModule := by simp [found, filed]
        unprobed := by simp [found]
        file := by simpa using wellFormed.file
        absolute := by simpa using wellFormed.absolute }

/-- What an entry makes of a specifier is no core module. -/
theorem strategyOf_anchored {entry : AliasEntry} {root specifier : Text}
    (rooted : Path.isAbsolute root = true) :
    Module.strategyOf (entry.anchored root specifier) = .absolute := by
  have placed := AliasEntry.isAbsolute_anchored entry rooted specifier
  have start : (entry.anchored root specifier).head? = some '/' := by
    simpa [Path.isAbsolute] using placed
  simp [Module.strategyOf, Module.isCore_of_start (.inl start), Module.Plan.strategy, placed]

/-- Under aliases that are relative to an absolute root, an answer is well formed and names the
alias if one applied. -/
theorem answers_under (rooted : h.Rooted) (absolute : Path.isAbsolute inEffect.root = true)
    (answered : (Module.resolve h (request.applied inEffect).specifier request.file
      (request.applied inEffect).options).outcome.map (request.applied inEffect).labelled
        = .ok answer) :
    Module.Answers h
      (if (request.applied inEffect).matched then .aliased else Module.strategyOf request.specifier)
      answer := by
  obtain ⟨previous, reached, rfl⟩ := Except.map_eq_ok.mp answered
  have answers := Module.resolve_answers rooted reached
  rcases Application.ofEntries_cases request.specifier inEffect.root inEffect.entries with
    ⟨entry, place, first, applied⟩ | ⟨passed, options, applied⟩
  · have matched : (request.applied inEffect).matched = true := by
      simp [Request.applied, applied, Application.matched]
    have strategy : Module.strategyOf (request.applied inEffect).specifier = .absolute := by
      rw [Request.applied, applied]
      exact strategyOf_anchored absolute
    rw [strategy] at answers
    have plain : previous.strategy ≠ .builtin := by
      rw [answers.named]
      split <;> simp
    rw [if_pos matched, Application.labelled, if_pos matched]
    refine ⟨wellFormed_relabel answers.wellFormed plain, ?_, by simp⟩
    cases found : previous.found with
    | false => simpa [found] using answers.named
    | true => simp [found]
  · have unmatched : (request.applied inEffect).matched = false := by
      simp [Request.applied, applied, Application.matched]
    have specifier : (request.applied inEffect).specifier = request.specifier := by
      simp [Request.applied, applied]
    rw [specifier] at answers
    simpa [unmatched, Application.labelled] using answers

/-- Every answer is well formed. A specifier is built in if and only if it is a core module and no
alias in effect applies to it, and the strategy is the alias if and only if something was found and
an alias in effect applies. -/
theorem resolve_wellFormed (rooted : h.Rooted) :
    (∀ specifier file members answer,
      (Module.resolve h specifier file members).outcome = .ok answer →
        answer.WellFormed h ∧
          (answer.strategy = .builtin ↔ Module.isCore specifier = true)) ∧
    ∀ request answer, (resolve h request).outcome = .ok answer →
      ∃ inEffect, request.aliases h = .ok inEffect ∧ answer.WellFormed h ∧
        (answer.strategy = .builtin ↔ Module.isCore request.specifier = true ∧
          ∀ entry ∈ inEffect.entries, entry.applies request.specifier = false) ∧
        (answer.strategy = .aliased ↔ answer.found = true ∧
          ∃ entry ∈ inEffect.entries, entry.applies request.specifier = true) := by
  constructor
  · intro specifier file members answer answered
    have answers := Module.resolve_answers rooted answered
    exact ⟨answers.wellFormed, (Module.builtin_iff answers).trans Module.strategyOf_eq_builtin⟩
  · intro request answer answered
    rw [outcome_resolve] at answered
    obtain ⟨inEffect, listed, answered⟩ := Except.bind_eq_ok.mp answered
    have answers :=
      answers_under rooted (isAbsolute_root_of_aliases rooted listed) answered
    have matched : (request.applied inEffect).matched = true ↔
        ∃ entry ∈ inEffect.entries, entry.applies request.specifier = true :=
      Application.matched_ofEntries _ _ _
    refine ⟨inEffect, listed, answers.wellFormed, ?_, ?_⟩
    · rw [Module.builtin_iff answers]
      split <;> rename_i applied
      · obtain ⟨entry, member, applies⟩ := matched.mp applied
        simp only [reduceCtorEq, false_iff, not_and]
        intro _ unmatched
        rw [unmatched entry member] at applies
        cases applies
      · rw [Module.strategyOf_eq_builtin]
        have unmatched : ∀ entry ∈ inEffect.entries, entry.applies request.specifier = false := by
          simpa [matched] using applied
        exact ⟨fun core => ⟨core, unmatched⟩, And.left⟩
    · rw [Module.aliased_iff answers, ← matched]
      split <;> rename_i applied
      · simp [applied]
      · simp [applied, Module.strategyOf_ne_aliased]

/-- A file that is found by an alias is the last of the paths that were probed. -/
theorem resolve_wellFormed_signed :
    signed.Rooted ∧
      ∃ answer, (resolve signed ⟨"@/b".toList, "/x.js".toList, .arr [.obj libraryMembers], [],
          some "/p".toList⟩).outcome = .ok answer ∧
        answer.WellFormed signed ∧ answer.strategy = .aliased ∧
        answer.path? = some "/p/lib/b.js".toList := by
  have rooted : signed.Rooted := by
    intro directory existing
    cases existing
    rfl
  have answered : (resolve signed ⟨"@/b".toList, "/x.js".toList, .arr [.obj libraryMembers], [],
      some "/p".toList⟩).outcome
      = .ok ⟨.file "/p/lib/b.js".toList, .aliased,
          ["/p/lib/b".toList, "/p/lib/b.mjs".toList, "/p/lib/b.js".toList]⟩ := by
    decide +kernel
  obtain ⟨inEffect, listed, wellFormed, _, aliased⟩ :=
    (resolve_wellFormed rooted).2 _ _ answered
  exact ⟨rooted, _, answered, wellFormed, rfl, rfl⟩

end ImportResolution.Request
