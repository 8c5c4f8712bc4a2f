import ImportResolution.Proofs.Request.Refusal

/-! Requests for several specifiers. Each specifier is answered as if it stood alone, so a list of
answers depends on which specifiers were asked for, and neither on how often nor on what stands
beside them. A fault of the root or of discovery comes before any specifier is looked at and is the
same for all lists but the empty one; of the faults of single specifiers the first one counts. -/
namespace ImportResolution.Request

open ImportResolution.Configuration

variable {h : Host} {request : Request} {specifier : Text} {earlier rest specifiers : List Text}
  {answers made : List (Text × Resolution)} {answer : Resolution} {fault : Fault}

/-- How a request ends that asks for one specifier alone. -/
def alone (h : Host) (request : Request) (specifier : Text) : Except Fault Resolution :=
  (resolve h { request with specifier }).outcome

/-- The discovery that a request without aliases of its own begins with. -/
def discovery (h : Host) (request : Request) : Except Fault Discovery :=
  (h.rootOf request.root?).bind fun root => (discover h (some root) request.fileName).outcome

/-- Answers to a list of specifiers: each specifier once, in the order in which they first stand in
the list, and with the answer that it has alone. -/
structure AnswersEach (h : Host) (request : Request) (specifiers : List Text)
    (answers : List (Text × Resolution)) : Prop where
  names : answers.map (·.1) = specifiers.eraseDups
  alone : ∀ named ∈ answers, request.alone h named.1 = .ok named.2

/-! ### One more specifier -/

/-- A repeated specifier does not stand in the list of the distinct ones again. -/
theorem eraseDups_concat (earlier : List Text) (specifier : Text) :
    (earlier ++ [specifier]).eraseDups
      = if specifier ∈ earlier then earlier.eraseDups else earlier.eraseDups ++ [specifier] := by
  rw [List.eraseDups_append]
  by_cases repeated : specifier ∈ earlier <;> simp [List.removeAll, repeated, List.eraseDups_cons]

/-- A specifier that is asked for again gets the answer that it has. -/
theorem setAnswer_of_same (present : specifier ∈ answers.map (·.1))
    (same : ∀ named ∈ answers, named.1 = specifier → named.2 = answer) :
    setAnswer answers specifier answer = answers := by
  rw [setAnswer, if_pos (by simpa using present)]
  conv_rhs => rw [← List.map_id answers]
  refine List.map_congr_left fun named member => ?_
  split
  · rename_i here
    rw [← here, ← same named member here]
    rfl
  · rfl

theorem setAnswer_of_new (absent : specifier ∉ answers.map (·.1)) (answer : Resolution) :
    setAnswer answers specifier answer = answers ++ [(specifier, answer)] := by
  rw [setAnswer, if_neg (by simpa using absent)]

/-- The specifiers that have an answer are those that were asked for. -/
theorem AnswersEach.mem_names (each : AnswersEach h request specifiers answers) :
    specifier ∈ answers.map (·.1) ↔ specifier ∈ specifiers := by
  rw [each.names, List.mem_eraseDups]

/-- One more answer keeps what the answers so far are. -/
theorem AnswersEach.setAnswer (each : AnswersEach h request earlier answers)
    (answered : request.alone h specifier = .ok answer) :
    AnswersEach h request (earlier ++ [specifier]) (setAnswer answers specifier answer) := by
  by_cases repeated : specifier ∈ earlier
  · have same : ∀ named ∈ answers, named.1 = specifier → named.2 = answer := by
      intro named member here
      have held := each.alone named member
      rw [here, answered] at held
      exact (Except.ok.inj held).symm
    rw [setAnswer_of_same (each.mem_names.mpr repeated) same]
    exact ⟨by rw [eraseDups_concat, if_pos repeated, each.names], each.alone⟩
  · rw [setAnswer_of_new fun present => repeated (each.mem_names.mp present)]
    refine ⟨?_, ?_⟩
    · rw [List.map_append, each.names, eraseDups_concat, if_neg repeated]
      rfl
    · intro named member
      rcases List.mem_append.mp member with held | last
      · exact each.alone named held
      · obtain rfl := List.mem_singleton.mp last
        exact answered

/-! ### Whole lists -/

theorem resolveNext_eq (h : Host) (request : Request) (answers : List (Text × Resolution))
    (specifier : Text) :
    resolveNext h request answers specifier
      = (request.alone h specifier).map (setAnswer answers specifier) := rfl

/-- With an answer to its first specifier a list goes on. -/
theorem foldlM_of_answered (answered : request.alone h specifier = .ok answer) :
    (specifier :: rest).foldlM (resolveNext h request) answers
      = rest.foldlM (resolveNext h request) (setAnswer answers specifier answer) := by
  rw [List.foldlM_cons, resolveNext_eq, answered]
  rfl

/-- With a fault of its first specifier it ends. -/
theorem foldlM_of_fault (failed : request.alone h specifier = .error fault) :
    (specifier :: rest).foldlM (resolveNext h request) answers = .error fault := by
  rw [List.foldlM_cons, resolveNext_eq, failed]
  rfl

/-- Going through a list keeps what the answers are, whatever had been asked for before. -/
theorem AnswersEach.foldlM (each : AnswersEach h request earlier answers)
    (gone : specifiers.foldlM (resolveNext h request) answers = .ok made) :
    AnswersEach h request (earlier ++ specifiers) made := by
  -- what has been gone through moves from one list to the other, and the invariant with it
  induction specifiers generalizing earlier answers with
  | nil =>
    obtain rfl := Except.ok.inj gone
    simpa using each
  | cons specifier rest ih =>
    cases outcome : request.alone h specifier with
    | error fault =>
      rw [foldlM_of_fault outcome] at gone
      cases gone
    | ok answer =>
      rw [foldlM_of_answered outcome] at gone
      simpa using ih (each.setAnswer outcome) gone

/-- Where every specifier has an answer, so has the list. -/
theorem exists_answers
    (answered : ∀ specifier ∈ specifiers, ∃ answer, request.alone h specifier = .ok answer)
    (answers : List (Text × Resolution)) :
    ∃ made, specifiers.foldlM (resolveNext h request) answers = .ok made := by
  induction specifiers generalizing answers with
  | nil => exact ⟨answers, rfl⟩
  | cons specifier rest ih =>
    obtain ⟨answer, outcome⟩ := answered specifier List.mem_cons_self
    rw [foldlM_of_answered outcome]
    exact ih (fun other member => answered other (List.mem_cons_of_mem _ member)) _

theorem answersEach_of_resolveAll (gone : resolveAll h request specifiers = .ok answers) :
    AnswersEach h request specifiers answers := by
  have none : AnswersEach h request [] [] := ⟨rfl, by simp⟩
  simpa using none.foldlM gone

/-- A specifier of the list is looked up in the answers. -/
theorem AnswersEach.lookup (each : AnswersEach h request specifiers answers)
    (member : specifier ∈ specifiers) :
    ∃ answer, request.alone h specifier = .ok answer ∧ answers.lookup specifier = some answer := by
  cases found : answers.lookup specifier with
  | none =>
    obtain ⟨named, inside, rfl⟩ := List.mem_map.mp (each.mem_names.mpr member)
    simpa using List.lookup_eq_none_iff.mp found named inside
  | some answer =>
    obtain ⟨before, after, rfl, -⟩ := List.lookup_eq_some_iff.mp found
    exact ⟨answer, each.alone (specifier, answer) (by simp), rfl⟩

/-- A list fails with the fault of its first specifier that has no answer. -/
theorem foldlM_eq_error_iff :
    specifiers.foldlM (resolveNext h request) answers = .error fault ↔
      ∃ before first after, specifiers = before ++ first :: after ∧
        (∀ specifier ∈ before, ∃ answer, request.alone h specifier = .ok answer) ∧
        request.alone h first = .error fault := by
  constructor
  · intro failed
    induction specifiers generalizing answers with
    | nil => cases failed
    | cons specifier rest ih =>
      cases outcome : request.alone h specifier with
      | error other =>
        rw [foldlM_of_fault outcome] at failed
        obtain rfl := Except.error.inj failed
        exact ⟨[], specifier, rest, rfl, by simp, outcome⟩
      | ok answer =>
        rw [foldlM_of_answered outcome] at failed
        obtain ⟨before, first, after, rfl, answered, failing⟩ := ih failed
        refine ⟨specifier :: before, first, after, rfl, ?_, failing⟩
        intro other member
        rcases List.mem_cons.mp member with rfl | member
        · exact ⟨answer, outcome⟩
        · exact answered other member
  · rintro ⟨before, first, after, rfl, answered, failing⟩
    obtain ⟨made, gone⟩ := exists_answers answered answers
    rw [List.foldlM_append, gone]
    exact foldlM_of_fault failing

/-! ### Faults of discovery -/

/-- Where discovery fails there are no aliases to be had. -/
theorem aliases_of_undiscovered (unlisted : ConfigurationKind.of request.configuration ≠ .aliases)
    (failed : request.discovery h = .error fault) : request.aliases h = .error fault := by
  unfold discovery at failed
  unfold aliases
  cases located : h.rootOf request.root? with
  | error other =>
    rw [located] at failed
    obtain rfl := Except.error.inj failed
    rfl
  | ok root =>
    rw [located] at failed
    simp only [Except.bind] at failed ⊢
    rw [failed]
    cases kind : ConfigurationKind.of request.configuration with
    | aliases => exact absurd kind unlisted
    | _ => rfl

/-- Every specifier fails then, and in the same way. -/
theorem alone_of_undiscovered (unlisted : ConfigurationKind.of request.configuration ≠ .aliases)
    (failed : request.discovery h = .error fault) (specifier : Text) :
    request.alone h specifier = .error fault := by
  have unknown : aliases h { request with specifier } = .error fault :=
    aliases_of_undiscovered unlisted failed
  rw [alone, outcome_resolve, unknown]
  rfl

/-! ### Independence -/

/-- The specifiers of a list are answered independently of each other. If each of them has an answer
the list has the same answers, each distinct specifier once, in the order of their first places; a
list of some of these specifiers, in another order or with other repetitions, gives each of them
the same answer; if some fail the list fails as the first of them does; and a fault of discovery is
that of every list but the empty one. -/
theorem resolveAll_independent (h : Host) (request : Request) :
    (∀ specifiers, (∀ specifier ∈ specifiers, ∃ answer, request.alone h specifier = .ok answer) →
      ∃ answers, resolveAll h request specifiers = .ok answers ∧
        AnswersEach h request specifiers answers) ∧
    (∀ specifiers others answers, resolveAll h request specifiers = .ok answers →
      others ⊆ specifiers → ∃ otherAnswers, resolveAll h request others = .ok otherAnswers ∧
        ∀ specifier ∈ others, ∃ answer, request.alone h specifier = .ok answer ∧
          answers.lookup specifier = some answer ∧ otherAnswers.lookup specifier = some answer) ∧
    (∀ specifiers fault, resolveAll h request specifiers = .error fault ↔
      ∃ before first after, specifiers = before ++ first :: after ∧
        (∀ specifier ∈ before, ∃ answer, request.alone h specifier = .ok answer) ∧
        request.alone h first = .error fault) ∧
    (∀ fault, ConfigurationKind.of request.configuration ≠ .aliases →
      request.discovery h = .error fault →
      resolveAll h request [] = .ok [] ∧
        ∀ specifiers, specifiers ≠ [] → resolveAll h request specifiers = .error fault) := by
  refine ⟨?_, ?_, fun _ _ => foldlM_eq_error_iff, ?_⟩
  · intro specifiers answered
    obtain ⟨answers, gone⟩ := exists_answers answered []
    exact ⟨answers, gone, answersEach_of_resolveAll gone⟩
  · intro specifiers others answers gone included
    have each := answersEach_of_resolveAll gone
    have answered : ∀ specifier ∈ others, ∃ answer, request.alone h specifier = .ok answer := by
      intro specifier member
      obtain ⟨answer, outcome, -⟩ := each.lookup (included member)
      exact ⟨answer, outcome⟩
    obtain ⟨otherAnswers, otherGone⟩ := exists_answers answered []
    refine ⟨otherAnswers, otherGone, fun specifier member => ?_⟩
    obtain ⟨answer, outcome, found⟩ := each.lookup (included member)
    obtain ⟨same, otherOutcome, otherFound⟩ :=
      (answersEach_of_resolveAll otherGone).lookup member
    obtain rfl := Except.ok.inj (outcome.symm.trans otherOutcome)
    exact ⟨answer, outcome, found, otherFound⟩
  · intro fault unlisted failed
    refine ⟨rfl, fun specifiers nonempty => ?_⟩
    obtain ⟨first, after, rfl⟩ := List.exists_cons_of_ne_nil nonempty
    exact foldlM_eq_error_iff.mpr
      ⟨[], first, after, rfl, by simp, alone_of_undiscovered unlisted failed first⟩

/-- A project whose configuration file breaks off. -/
def brokenOff : Host :=
  ⟨⟨[(Place.ofPath "/p/a.js".toList, .file (.text [])),
    (Place.ofPath "/p/.babelrc".toList, .file (.text "\x7b".toList)),
    (Place.ofPath "/p".toList, .directory)]⟩, some "/".toList, .usual⟩

/-- A request that leaves its aliases to discovery. -/
def leftToDiscovery : Request :=
  ⟨[], "/a.js".toList, .null, defaultFileName, some "/p".toList⟩

/-- The only file of the project, as an alias finds it. -/
def aliasedFile : Resolution :=
  ⟨.file "/p/a.js".toList, .aliased, ["/p/a".toList, "/p/a.js".toList]⟩

/-- Among endings of which the second is no text, what is found before it keeps its answer in every
list, and what is not found is the fault of the list; left to discovery, all lists fail alike. -/
theorem resolveAll_independent_mixed :
    (∃ answers otherAnswers,
      resolveAll brokenOff mixedEndings ["~/a".toList, "fs".toList, "~/a".toList] = .ok answers ∧
        answers.map (·.1) = ["~/a".toList, "fs".toList] ∧
        resolveAll brokenOff mixedEndings ["fs".toList, "~/a".toList] = .ok otherAnswers ∧
        otherAnswers.lookup "~/a".toList = some aliasedFile) ∧
      resolveAll brokenOff mixedEndings ["~/a".toList, "~/b".toList, "fs".toList]
        = .error .wrongType ∧
      resolveAll brokenOff leftToDiscovery ["fs".toList, "~/a".toList]
        = .error (.configuration "/p/.babelrc".toList
            (.relaxed (.unexpected 1) "\x7b".toList)) := by
  obtain ⟨answered, included, failed, -⟩ := resolveAll_independent brokenOff mixedEndings
  have found : mixedEndings.alone brokenOff "~/a".toList = .ok aliasedFile := by decide +kernel
  have core : mixedEndings.alone brokenOff "fs".toList = .ok .coreModule := by decide +kernel
  have refused : mixedEndings.alone brokenOff "~/b".toList = .error .wrongType := by
    decide +kernel
  refine ⟨?_, (failed _ _).mpr ⟨["~/a".toList], _, _, rfl, ?_, refused⟩, ?_⟩
  · have each : ∀ specifier ∈ ["~/a".toList, "fs".toList, "~/a".toList],
        ∃ answer, mixedEndings.alone brokenOff specifier = .ok answer := by
      intro specifier member
      rcases List.mem_cons.mp member with rfl | member
      · exact ⟨_, found⟩
      · rcases List.mem_pair.mp member with rfl | rfl
        · exact ⟨_, core⟩
        · exact ⟨_, found⟩
    obtain ⟨answers, gone, made⟩ := answered _ each
    obtain ⟨otherAnswers, otherGone, looked⟩ :=
      included _ ["fs".toList, "~/a".toList] answers gone (by simp)
    obtain ⟨answer, outcome, -, held⟩ := looked "~/a".toList (by simp)
    obtain rfl := Except.ok.inj (found.symm.trans outcome)
    exact ⟨answers, otherAnswers, gone, made.names.trans (by decide), otherGone, held⟩
  · exact List.forall_mem_singleton.mpr ⟨_, found⟩
  · obtain ⟨-, -, -, undiscovered⟩ := resolveAll_independent brokenOff leftToDiscovery
    have spoiled : (leftToDiscovery.discovery brokenOff).map (fun _ => ())
        = .error (.configuration "/p/.babelrc".toList
            (.relaxed (.unexpected 1) "\x7b".toList)) := by decide +kernel
    exact (undiscovered _ (by decide) (Except.map_eq_error.mp spoiled)).2 _ (by simp)

end ImportResolution.Request
