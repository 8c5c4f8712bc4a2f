import ImportResolution.Module.Reuse

/-! Resolvers that are used more than once. A use of a resolver ends as the search alone does, and
adds the paths that it probes to the list at hand, however it ends. Since every specifier has a list
of its own, what a resolver was asked before has no part in an answer, and what it is asked later
changes none. -/
namespace ImportResolution.Module

variable {h : Host} {options : Options} {r : Resolver} {α β : Type}

/-! ### Uses step by step -/

namespace Use

@[simp] theorem on_pure (a : α) : (pure a : Use α).on r = (.ok a, r) := rfl

@[simp] theorem on_bind (use : Use α) (next : α → Use β) :
    (use >>= next).on r = match use.on r with
      | (.ok a, r) => (next a).on r
      | (.error fault, r) => (.error fault, r) := by
  unfold on
  rw [ExceptT.run_bind, StateT.run_bind]
  rcases use.run.run r with ⟨_ | _, _⟩ <;> rfl

@[simp] theorem on_modify (change : Resolver → Resolver) :
    (modify change : Use Unit).on r = (.ok (), change r) := rfl

@[simp] theorem on_get : (get : Use Resolver).on r = (.ok r, r) := rfl

@[simp] theorem on_lift (outcome : Except Fault α) :
    (liftM outcome : Use α).on r = (outcome, r) := rfl

@[simp] theorem on_newList : newList.on r = (.ok r.lists.length, r.addList) := rfl

end Use

/-! ### Searches -/

/-- How a use of a resolver ends when its search does. -/
def Verdict.outcome : Verdict → Except Fault (Option Text)
  | .hit path => .ok (some path)
  | .miss => .ok none
  | .failed fault => .error fault

/-- The resolver after a search: its list at hand has the paths that were probed. -/
def Resolver.having (r : Resolver) (t : Trail) : Resolver :=
  { r with lists := r.lists.modify r.current (· ++ t.candidates), log := r.log ++ t.events }

/-- With some options, a use of a resolver does what a search does. -/
def Records (options : Options) (use : Use (Option Text)) (t : Trail) : Prop :=
  ∀ r : Resolver, r.options = options → use.on r = (t.verdict.outcome, r.having t)

theorem Resolver.having_nothing {t : Trail} (probes : t.candidates = []) (events : t.events = []) :
    r.having t = r := by
  have same : r.lists.modify r.current (fun list => list) = r.lists := List.modify_id _ _
  simp [having, probes, events, same]

/-- A search after one that found nothing adds to what that one has left. -/
theorem Resolver.having_orElse {first : Trail} (missed : first.verdict = .miss)
    (second : Unit → Trail) :
    r.having (first.orElse second) = (r.having first).having (second ()) := by
  have joined :
      (fun list => list ++ (second ()).candidates) ∘ (fun list => list ++ first.candidates)
        = fun list => list ++ (first.candidates ++ (second ()).candidates) := by
    funext list
    simp
  simp [having, Trail.orElse, missed, List.modify_modify_eq, joined]

theorem records_miss : Records options (pure none) .miss := by
  intro r _
  rw [Use.on_pure, Resolver.having_nothing rfl rfl]
  rfl

theorem records_orElse {first second : Use (Option Text)} {s : Trail} {t : Unit → Trail}
    (firstly : Records options first s) (secondly : Records options second (t ())) :
    Records options (first.orElse second) (s.orElse t) := by
  intro r held
  rw [Use.orElse, Use.on_bind, firstly r held]
  cases ended : s.verdict with
  | hit path => simp [Verdict.outcome, Trail.orElse, ended]
  | failed fault => simp [Verdict.outcome, Trail.orElse, ended]
  | miss =>
    rw [Resolver.having_orElse ended, Trail.verdict_orElse, ended]
    exact secondly (r.having s) held

/-- What depends on nothing but the options of a resolver. -/
theorem records_get {use : Resolver → Use (Option Text)} {t : Trail}
    (records : ∀ r, r.options = options → Records options (use r) t) :
    Records options (get >>= use) t := by
  intro r held
  rw [Use.on_bind, Use.on_get]
  exact records r held r held

/-- A fault ends a search before it goes on. -/
theorem records_lift {outcome : Except Fault α} {next : α → Use (Option Text)} {t : Trail}
    (failed : ∀ fault, outcome = .error fault → t = .failed fault)
    (records : ∀ a, outcome = .ok a → Records options (next a) t) :
    Records options (liftM outcome >>= next) t := by
  intro r held
  rw [Use.on_bind, Use.on_lift]
  cases outcome with
  | error fault =>
    rw [failed fault rfl, Resolver.having_nothing rfl rfl]
    rfl
  | ok a => exact records a rfl r held

theorem records_probe (path : Text) :
    Records options (Use.probe h path) (probe h path) := by
  intro r _
  have noted : r.note path = r.having (probe h path) := by
    simp [Resolver.note, Resolver.having, probe]
  simp only [Use.probe, Use.on_bind, Use.on_modify, Use.on_pure, noted]
  cases found : h.isFile path <;> simp [probe, found, Verdict.outcome]

theorem records_probeEndings (target : Text) (endings : List Json) :
    Records options (Use.probeEndings h target endings) (probeEndings h target endings) := by
  induction endings with
  | nil => exact records_miss
  | cons ending rest ih =>
    refine records_lift (fun fault refused => ?_) (fun text read => ?_)
    · rw [probeEndings, refused]
    · rw [probeEndings, read]
      exact records_orElse (records_probe _) ih

theorem records_loadFile (target : Text) :
    Records options (Use.loadFile h target) (loadFile h options.extensions target) := by
  refine records_orElse (records_probe target) (records_get fun r held => ?_)
  rw [held]
  exact records_probeEndings target options.extensions

theorem records_loadIndex (directory : Text) :
    Records options (Use.loadIndex h directory) (loadIndex h options.extensions directory) :=
  records_loadFile _

theorem records_loadMain (directory main : Text) :
    Records options (Use.loadMain h directory main)
      (loadMain h options.extensions directory main) := by
  refine records_orElse (records_loadFile _) ?_
  split
  · exact records_miss
  · exact records_loadIndex _

theorem records_readMain {next : Option Text → Use (Option Text)} {t : Trail} (manifest : Text)
    (failed : ∀ fault, mainOf (h.readJson manifest) = .error fault → t = .failed fault)
    (records : ∀ main?, mainOf (h.readJson manifest) = .ok main? →
      Records options (next main?) t) :
    Records options (Use.readMain h manifest >>= next)
      (.after (manifestEvents manifest (h.readJson manifest)) t) := by
  intro r held
  have reported : (r.report (manifestEvents manifest (h.readJson manifest))).having t
      = r.having (.after (manifestEvents manifest (h.readJson manifest)) t) := by
    simp [Resolver.report, Resolver.having, Trail.after]
  have taken := records_lift failed records (r.report (manifestEvents manifest
    (h.readJson manifest))) held
  rw [Use.on_bind] at taken
  simp only [Use.readMain, Use.on_bind, Use.on_modify]
  rw [taken, reported]
  rfl

theorem records_loadDirectory (directory : Text) :
    Records options (Use.loadDirectory h directory)
      (loadDirectory h options.extensions directory) := by
  unfold Use.loadDirectory loadDirectory
  split
  · exact records_miss
  · simp only
    split
    · exact records_loadIndex directory
    · refine records_readMain _ (fun fault unread => ?_) (fun main? read => ?_)
      · rw [unread]
      · rw [read]
        cases main? with
        | none => exact records_loadIndex directory
        | some main =>
          exact records_orElse (records_loadMain directory main) (records_loadIndex directory)

theorem records_load (target : Text) :
    Records options (Use.load h target) (load h options.extensions target) :=
  records_orElse (records_loadFile target) (records_loadDirectory target)

theorem records_loadPackage (name : Text) (directories : List Text) :
    Records options (Use.loadPackage h name directories)
      (loadPackage h options.extensions name directories) := by
  induction directories with
  | nil => exact records_miss
  | cons directory rest ih => exact records_orElse (records_load _) ih

/-! ### Asking -/

/-- Between two states of a resolver, its options stay and its lists do too, as far as they were
there. -/
structure Kept (r r' : Resolver) : Prop where
  options : r'.options = r.options
  lists : r.lists <+: r'.lists

theorem Kept.trans {r r' r'' : Resolver} (first : Kept r r') (second : Kept r' r'') : Kept r r'' :=
  ⟨second.options.trans first.options, first.lists.trans second.lists⟩

/-- An answer is read as before. -/
theorem Kept.read {r r' : Resolver} (kept : Kept r r') {reply : Reply}
    (there : reply.candidates < r.lists.length) : r'.read reply = r.read reply := by
  obtain ⟨more, extended⟩ := kept.lists
  simp [Resolver.read, ← extended, List.getD_eq_getElem?_getD, List.getElem?_append_left there]

/-- What asking a resolver once comes to: the answer, as it is read then, is the answer of the
search alone, and the resolver reports what that search reports. -/
structure Asked (r : Resolver) (result : Except Fault Reply × Resolver)
    (alone : Traced Resolution) : Prop where
  kept : Kept r result.2
  log : result.2.log = r.log ++ alone.events
  outcome : result.1.map result.2.read = alone.outcome
  there : ∀ reply, result.1 = .ok reply → reply.candidates < result.2.lists.length

/-- The resolver with a new list at hand. -/
def Resolver.begun (r : Resolver) : Resolver := r.addList.turnTo r.lists.length

theorem Resolver.lists_begun_having (r : Resolver) (t : Trail) :
    (r.begun.having t).lists = r.lists ++ [t.candidates] := by
  simp [begun, having, turnTo, addList, List.modify_eq_take_drop]

theorem kept_begun_having (r : Resolver) (t : Trail) : Kept r (r.begun.having t) :=
  ⟨rfl, by rw [r.lists_begun_having]; exact List.prefix_append _ _⟩

/-- An answer with the new list has the paths of the search. -/
theorem asked_having (r : Resolver) (t : Trail) (target : Target) (strategy : Strategy) :
    Asked r (.ok ⟨target, strategy, r.lists.length⟩, r.begun.having t)
      ⟨.ok ⟨target, strategy, t.candidates⟩, t.events⟩ where
  kept := kept_begun_having r t
  log := rfl
  outcome := by simp [Except.map, Resolver.read, r.lists_begun_having]
  there := by simp [r.lists_begun_having]

/-- A fault leaves the new list with the paths that were probed up to it. -/
theorem asked_fault (r : Resolver) (t : Trail) (fault : Fault) :
    Asked r (.error fault, r.begun.having t) ⟨.error fault, t.events⟩ where
  kept := kept_begun_having r t
  log := rfl
  outcome := rfl
  there := by simp

theorem asked_reply (strategy : Strategy) {search : Use (Option Text)} {t : Trail}
    (records : Records r.options search t) :
    Asked r ((Use.reply strategy search).on r.begun) (t.traced strategy) := by
  rw [Use.reply, Use.on_bind, records r.begun rfl, Trail.traced, Trail.resolution]
  cases t.verdict with
  | hit path => exact asked_having r t (.file path) strategy
  | miss => exact asked_having r t .missing .notFound
  | failed fault => exact asked_fault r t fault

theorem asked_search (specifier directory : Text) :
    Asked r ((Use.search h specifier directory).on r.begun)
      (search h r.options specifier directory) := by
  unfold Use.search search
  split
  · exact asked_reply .absolute (records_load _)
  split
  · exact asked_reply .relative (records_load _)
  · cases found : searchPath h r.options directory with
    | error fault =>
      refine asked_reply (t := .failed fault) .package (records_get fun r' held => ?_)
      rw [held, found]
      exact records_lift (fun _ same => by cases same; rfl) nofun
    | ok directories =>
      refine asked_reply .package (records_get fun r' held => ?_)
      rw [held, found]
      refine records_lift nofun (fun _ same => ?_)
      cases same
      exact records_loadPackage specifier directories

/-- The answer for a core module has a list of its own. -/
theorem asked_core (r : Resolver) :
    Asked r (.ok ⟨.coreModule, .builtin, r.begun.lists.length⟩, r.begun.addList)
      (.answer .coreModule) where
  kept := ⟨rfl, by simp [Resolver.begun, Resolver.addList, Resolver.turnTo]⟩
  log := by simp [Resolver.begun, Resolver.addList, Resolver.turnTo, Traced.answer]
  outcome := by
    simp [Except.map, Resolver.read, Resolver.addList, Traced.answer, Resolution.coreModule]
  there := by simp [Resolver.addList]

/-- A resolver answers as the search alone does, whatever it was asked before. -/
theorem asked_ask (h : Host) (r : Resolver) (specifier file : Text) :
    Asked r (r.ask h specifier file) (resolveWith h r.options specifier file) := by
  have unchanged : r.begun.having .miss = r.begun := Resolver.having_nothing rfl rfl
  unfold Resolver.ask Use.resolve resolveWith
  simp only [Use.on_bind, Use.on_newList, Use.on_modify]
  change Asked r (Use.on _ r.begun) _
  split
  · exact asked_core r
  · rw [Use.on_bind, Use.on_lift]
    cases h.absolute file with
    | error fault =>
      have asked := asked_fault r .miss fault
      rw [unchanged] at asked
      exact asked
    | ok file => exact asked_search specifier (Path.dirname file)

/-! ### Runs -/

theorem kept_after (h : Host) (r : Resolver) (calls : List (Text × Text)) :
    Kept r (r.after h calls) := by
  induction calls generalizing r with
  | nil => exact ⟨rfl, List.prefix_rfl⟩
  | cons call rest ih => exact (asked_ask h r call.1 call.2).kept.trans (ih _)

/-- A resolver carries nothing from one specifier to the next. Whatever it was asked before, and
however that ended, it answers as a new one with its options does, or fails as that one does; and
whatever it is asked later leaves the answer as it is. -/
theorem Resolver.reuse_isolated (h : Host) (options : Options) (earlier later : List (Text × Text))
    (specifier file : Text) :
    let reused := ((new options).after h earlier).ask h specifier file
    let alone := (new options).ask h specifier file
    reused.1.map reused.2.read = alone.1.map alone.2.read ∧
      reused.1.map (reused.2.after h later).read = reused.1.map reused.2.read := by
  intro reused alone
  have asked : Asked _ reused _ := asked_ask h ((new options).after h earlier) specifier file
  have askedAlone : Asked _ alone _ := asked_ask h (new options) specifier file
  rw [(kept_after h (new options) earlier).options] at asked
  refine ⟨asked.outcome.trans askedAlone.outcome.symm, ?_⟩
  have kept := kept_after h reused.2 later
  cases ended : reused.1 with
  | error fault => rfl
  | ok reply => exact congrArg Except.ok (kept.read (asked.there reply ended))

/-- An ending that is no text cuts a search short after one probe, and the list keeps that probe. A
core module has a list for the search and one for the answer. -/
example : ((Resolver.new ⟨[.null], [], []⟩).after ⟨⟨[]⟩, some "/".toList, .usual⟩
    [("./a".toList, "/p/x.js".toList), ("fs".toList, "/p/x.js".toList)]).lists
      = [[], ["/p/a".toList], [], []] := by
  decide +kernel

/-- Asked for one specifier after the other, a resolver answers as the searches alone do, up to the
first fault; and the answers are read at the end as they were given. -/
theorem kept_askEach (h : Host) (r : Resolver) (calls : List (Text × Text)) :
    Kept r (r.askEach h calls).2 ∧
      (r.askEach h calls).1.map (·.map (r.askEach h calls).2.read)
        = calls.mapM fun call => (resolveWith h r.options call.1 call.2).outcome := by
  induction calls generalizing r with
  | nil => exact ⟨⟨rfl, List.prefix_rfl⟩, rfl⟩
  | cons call rest ih =>
    have asked := asked_ask h r call.1 call.2
    rw [Resolver.askEach, List.mapM_cons, ← asked.outcome]
    rcases answered : r.ask h call.1 call.2 with ⟨fault | reply, r'⟩ <;> rw [answered] at asked
    · exact ⟨asked.kept, rfl⟩
    · obtain ⟨kept, read⟩ := ih r'
      have same := kept.read (asked.there reply rfl)
      refine ⟨asked.kept.trans kept, ?_⟩
      rw [← asked.kept.options, ← read]
      simp only
      rcases rested : r'.askEach h rest with ⟨_ | replies, last⟩
      · rfl
      · rw [rested] at same
        show Except.ok (last.read reply :: replies.map last.read)
          = Except.ok (r'.read reply :: replies.map last.read)
        rw [same]

/-- Resolving one specifier after the other gives what resolving each of them alone gives. -/
theorem resolveEach_eq_mapM (h : Host) (options : Options) (calls : List (Text × Text)) :
    resolveEach h options calls
      = calls.mapM fun call => (resolveWith h options call.1 call.2).outcome :=
  (kept_askEach h (.new options) calls).2

end ImportResolution.Module
