import ImportResolution.Proofs.Module.Refusal
import ImportResolution.Proofs.Request.InEffect

/-! Refused requests. Once the aliases in effect are known, the options of the entry that applies,
or else of the last one, can keep a request from an answer, and a value of a wrong type does so
exactly if it is used. An unreadable tree never does, but one that there is no room for does: links
on the way to the root that are too many inside one another, or a manifest whose containers are. -/
namespace ImportResolution.Request

open ImportResolution.Configuration

variable {h : Host} {request : Request} {cwd root : Text}

/-- The aliases in effect are known if the root is and discovery, where it is used, returns. -/
theorem exists_aliases (located : h.rootOf request.root? = .ok root)
    (discovered : ConfigurationKind.of request.configuration ≠ .aliases →
      ∃ found, (discover h (some root) request.fileName).outcome = .ok found) :
    ∃ inEffect, request.aliases h = .ok inEffect := by
  simp only [aliases, located, Except.bind]
  by_cases listed : ConfigurationKind.of request.configuration = .aliases
  · simp only [listed]
    obtain ⟨entries, given⟩ :
        ∃ entries, AliasEntry.ofConfiguration request.configuration = .ok entries := by
      cases kind : request.configuration with
      | arr items => exact ⟨_, rfl⟩
      | obj members => exact ⟨_, rfl⟩
      | _ => simp [kind, ConfigurationKind.of] at listed
    exact ⟨⟨entries, root⟩, by rw [given]; rfl⟩
  · obtain ⟨found, outcome⟩ := discovered listed
    rw [outcome]
    cases kind : ConfigurationKind.of request.configuration with
    | aliases => exact absurd kind listed
    | _ => exact ⟨_, rfl⟩

/-- What becomes of a request from a directory that has a canonical form without loops. If there is
no room to follow the links of the directory, the request breaks off. Otherwise it is refused for a
wrong type if the options that are in force for it are refused, breaks off if there is no room to
search under them, and is answered in all other cases. Nothing else goes wrong. -/
theorem answered_unless_refused {start : Text} (existing : h.directory? = some cwd)
    (absolute : Path.isAbsolute request.file = true) (given : request.root? = some start)
    (rooted : Path.isAbsolute start = true) (clean : start.contains '\x00' = false)
    (loopless : ∀ path, h.canonical start ≠ .error (.linkLoop path)) :
    (h.LinksOverflow start → (resolve h request).outcome = .error (.exhausted .links)) ∧
    (¬ h.LinksOverflow start → ∃ root, h.rootOf request.root? = .ok root ∧
      ((ConfigurationKind.of request.configuration ≠ .aliases →
          ∃ found, (discover h (some root) request.fileName).outcome = .ok found) →
        ∃ inEffect, request.aliases h = .ok inEffect ∧
          Module.Settles (resolve h request).outcome
            (Module.Refuses h (request.applied inEffect).specifier request.file
              (request.applied inEffect).options)
            (Module.Overflows h (request.applied inEffect).specifier request.file
              (request.applied inEffect).options))) := by
  have started : h.startingPoint request.root? = h.canonical start := by
    rw [given]
    cases start with
    | nil => cases rooted
    | cons c rest => rfl
  obtain ⟨full, canonical⟩ := Host.canonical_settled existing clean loopless
  constructor
  · intro overflows
    simp only [resolve, started, full overflows, Traced.outcome_fault]
  · intro fits
    obtain ⟨path, found⟩ := canonical fits
    have located : h.rootOf request.root? = .ok (PlainPath.ofText path).toText := by
      rw [Host.rootOf, started, found]
      rfl
    refine ⟨_, located, fun discovered => ?_⟩
    obtain ⟨inEffect, listed⟩ := exists_aliases located discovered
    refine ⟨inEffect, listed, ?_⟩
    rw [outcome_resolve, listed]
    exact (Module.resolve_settles existing _ absolute _).map _

/-- A directory with one file. -/
def lone : Host :=
  ⟨⟨[(Place.ofPath "/p/a.js".toList, .file (.text [])),
    (Place.ofPath "/p".toList, .directory)]⟩, some "/".toList, .usual⟩

/-- A request with endings of which the second is no text. -/
def mixedEndings : Request :=
  ⟨"~/a".toList, "/a.js".toList,
    .arr [.obj [("extensions".toList, .arr [.str ".js".toList, .null])]], [], some "/p".toList⟩

/-- A request for a core module with a number in the place of endings. -/
def numberedEndings : Request :=
  ⟨"fs".toList, "/a.js".toList, .arr [.obj [("extensions".toList, .int 5)]], [], some "/p".toList⟩

/-- An item that is no text does no harm behind the ending under which a file is found. -/
theorem answered_unless_refused_unused :
    lone.canonical "/p".toList = .ok "/p".toList ∧ ¬ lone.LinksOverflow "/p".toList ∧
      (∃ inEffect, mixedEndings.aliases lone = .ok inEffect ∧
        Module.Settles (resolve lone mixedEndings).outcome
          (Module.Refuses lone (mixedEndings.applied inEffect).specifier "/a.js".toList
            (mixedEndings.applied inEffect).options)
          (Module.Overflows lone (mixedEndings.applied inEffect).specifier "/a.js".toList
            (mixedEndings.applied inEffect).options)) ∧
      (resolve lone mixedEndings).outcome
        = .ok ⟨.file "/p/a.js".toList, .aliased, ["/p/a".toList, "/p/a.js".toList]⟩ := by
  have canonical : lone.canonical "/p".toList = .ok "/p".toList := by decide +kernel
  have fits : ¬ lone.LinksOverflow "/p".toList := by
    unfold Host.LinksOverflow
    decide +kernel
  refine ⟨canonical, fits, ?_, by decide +kernel⟩
  have loopless (path : Text) : lone.canonical "/p".toList ≠ .error (.linkLoop path) := by
    rw [canonical]
    nofun
  obtain ⟨root, -, settled⟩ :=
    (@answered_unless_refused lone mixedEndings _ _ rfl rfl rfl rfl (by decide) loopless).2 fits
  exact settled fun unlisted => absurd rfl unlisted

/-- Not every request is answered: a number in the place of endings is refused even for a core
module. -/
theorem answer_not_certain :
    ¬ ∀ (h : Host) (request : Request) (cwd root : Text), h.directory? = some cwd →
      Path.isAbsolute request.file = true → h.rootOf request.root? = .ok root →
      (ConfigurationKind.of request.configuration ≠ .aliases →
        ∃ found, (discover h (some root) request.fileName).outcome = .ok found) →
      ∃ answer, (resolve h request).outcome = .ok answer := by
  intro certain
  have located : lone.rootOf (some "/p".toList) = .ok "/p".toList := by decide +kernel
  have refused : (resolve lone numberedEndings).outcome = .error .wrongType := by decide +kernel
  obtain ⟨answer, answered⟩ := certain lone numberedEndings "/".toList "/p".toList rfl rfl located
    (fun unlisted => absurd rfl unlisted)
  rw [refused] at answered
  cases answered

end ImportResolution.Request
