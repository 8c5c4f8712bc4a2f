import ImportResolution.Proofs.Alias.Spelling
import ImportResolution.Proofs.Configuration.Decision
import ImportResolution.Proofs.Host.Canonical

/-! Discovered and given configurations. A request without aliases of its own is answered as if the
entries that discovery locates had been given, with the directory that decided as the root, as long
as that directory is the canonical form of itself. -/
namespace ImportResolution

/-- The root of a configuration that is located without entries. -/
def Configuration.Discovery.bareRoot? : Discovery → Option Text
  | .located ⟨[], root, _⟩ => some root
  | _ => none

namespace Request

open ImportResolution.Configuration

variable {h : Host} {specifier file fileName root : Text} {root? : Option Text}
  {configuration : Json}

/-- A request without aliases of its own is answered under the configuration discovered from its
root on. -/
theorem resolve_unlisted (specifier file fileName : Text)
    (unlisted : ConfigurationKind.of configuration ≠ .aliases)
    (located : h.rootOf root? = .ok root) :
    resolve h ⟨specifier, file, configuration, fileName, root?⟩
      = resolveDiscovered h specifier file root fileName := by
  obtain ⟨start, started, rfl⟩ := Host.rootOf_ok located
  simp only [resolve, started]

theorem startingPoint_of_fixed {p : PlainPath} (fixed : h.canonical p.toText = .ok p.toText) :
    h.startingPoint (some p.toText) = .ok p.toText := by
  obtain ⟨c, rest, written⟩ := List.exists_cons_of_ne_nil p.toText_ne_nil
  rw [written] at fixed ⊢
  exact fixed

/-- Where the root of a request is a canonical form, discovery starts there. -/
theorem startingPoint_root (located : h.rootOf root? = .ok root)
    (fixed : h.canonical root = .ok root) : h.startingPoint (some root) = .ok root := by
  obtain ⟨start, started, rfl⟩ := Host.rootOf_ok located
  exact startingPoint_of_fixed fixed

/-- A directory that was asked is the root of a request that gives it, if it is the canonical form
of itself. -/
theorem rootOf_asked {directory : PlainPath} (member : directory ∈ asked root)
    (fixed : h.canonical directory.toText = .ok directory.toText) :
    h.rootOf (some directory.toText) = .ok directory.toText := by
  have proper : directory.Proper := by
    rcases List.mem_cons.mp member with rfl | above
    · exact PlainPath.proper_ofText root
    · exact PlainPath.proper_of_mem_parents (PlainPath.proper_ofText root) above
  simp [Host.rootOf, startingPoint_of_fixed fixed, Except.map, PlainPath.ofText_toText proper]

/-- Without a loop every directory that was asked is the canonical form of itself. -/
theorem canonical_asked {directory : PlainPath} (fixed : h.canonical root = .ok root)
    (loopless : h.Loopless root) (member : directory ∈ asked root) :
    h.canonical directory.toText = .ok directory.toText := by
  obtain ⟨p, free, rfl⟩ := Host.linkFree_of_canonical loopless fixed
  have clean := (Host.canonical_ok fixed).1
  rw [asked, PlainPath.ofText_toText (Canonical.proper_of_linkFree free)] at member
  rcases List.mem_cons.mp member with rfl | above
  · exact fixed
  · obtain ⟨free, part⟩ := Host.linkFree_of_mem_parents free above
    exact Host.canonical_of_linkFree free (Text.contains_of_start clean part)

/-- A request without aliases of its own is answered as if the entries that discovery locates had
been given with their root; as a plain search if the plugin is not listed; and by the fault of
discovery. The located root has to be the canonical form of itself, as it is unless the root of the
request meets a loop of links. -/
theorem discovered_like_listed (specifier file fileName : Text)
    (unlisted : ConfigurationKind.of configuration ≠ .aliases)
    (located : h.rootOf root? = .ok root) (fixed : h.canonical root = .ok root) :
    (∀ found, (discover h (some root) fileName).outcome = .ok (.located found) →
      h.Loopless root ∨ h.canonical found.root = .ok found.root →
      (resolve h ⟨specifier, file, configuration, fileName, root?⟩).outcome
        = (resolve h ⟨specifier, file, .arr found.entries, fileName, some found.root⟩).outcome) ∧
    ((discover h (some root) fileName).outcome = .ok .notListed →
      (resolve h ⟨specifier, file, configuration, fileName, root?⟩).outcome
        = (Module.resolve h specifier file []).outcome) ∧
    (∀ fault, (discover h (some root) fileName).outcome = .error fault →
      (resolve h ⟨specifier, file, configuration, fileName, root?⟩).outcome = .error fault) := by
  rw [resolve_unlisted specifier file fileName unlisted located, resolveDiscovered,
    Traced.outcome_bind]
  refine ⟨?_, ?_, ?_⟩
  · intro found discovered settled
    obtain ⟨directory, member, rootHere⟩ :=
      root_of_located (startingPoint_root located fixed) discovered
    rw [rootHere] at settled
    -- given as a root, the directory is resolved once more
    have canonical : h.canonical directory.toText = .ok directory.toText := by
      rcases settled with loopless | canonical
      · exact canonical_asked fixed loopless member
      · exact canonical
    have given := rootOf_asked member canonical
    rw [← rootHere] at given
    rw [discovered, resolve_listed given]
    rfl
  · intro discovered
    rw [discovered]
    rfl
  · intro fault discovered
    rw [discovered]
    rfl

theorem located_of_bareRoot? {outcome : Except Fault Discovery}
    (bare : outcome.map Discovery.bareRoot? = .ok (some root)) :
    ∃ source?, outcome = .ok (.located ⟨[], root, source?⟩) := by
  match outcome, bare with
  | .ok (.located ⟨[], other, source?⟩), bare =>
    have same : other = root := by simpa [Except.map, Discovery.bareRoot?] using bare
    exact ⟨source?, by rw [same]⟩

/-- A project whose configuration lists the plugin by its name alone, with a link to it. -/
def project : Host :=
  ⟨⟨[(Place.ofPath "/p/app".toList, .directory),
    (Place.ofPath "/p/b.js".toList, .file (.text [])),
    (Place.ofPath "/p/.babelrc".toList, .file (.text "\x7bplugins: ['root-import']\x7d".toList)),
    (Place.ofPath "/p".toList, .directory),
    (Place.ofPath "/l".toList, .link "p".toList)]⟩, some "/".toList, .usual⟩

/-- A root below the directory that decides, and behind a link, agrees with that directory. -/
theorem discovered_like_listed_above :
    project.rootOf (some "/l/app".toList) = .ok "/p/app".toList ∧
      project.Loopless "/p/app".toList ∧
      (resolve project ⟨"~/b".toList, "/x.js".toList, .obj [], defaultFileName,
          some "/l/app".toList⟩).outcome
        = (resolve project ⟨"~/b".toList, "/x.js".toList, .arr [], defaultFileName,
            some "/p".toList⟩).outcome ∧
      (resolve project ⟨"~/b".toList, "/x.js".toList, .arr [], defaultFileName,
          some "/p".toList⟩).outcome
        = .ok ⟨.file "/p/b.js".toList, .aliased,
            ["/p/b".toList, "/p/b.mjs".toList, "/p/b.js".toList]⟩ := by
  have located : project.rootOf (some "/l/app".toList) = .ok "/p/app".toList := by decide +kernel
  have fixed : project.canonical "/p/app".toList = .ok "/p/app".toList := by decide +kernel
  have loopless : project.Loopless "/p/app".toList := by decide +kernel
  have bare : (discover project (some "/p/app".toList) defaultFileName).outcome.map
      Discovery.bareRoot? = .ok (some "/p".toList) := by decide +kernel
  obtain ⟨source?, discovered⟩ := located_of_bareRoot? bare
  have unlisted : ConfigurationKind.of (.obj []) ≠ .aliases := by decide
  obtain ⟨agrees, _, _⟩ := discovered_like_listed "~/b".toList "/x.js".toList defaultFileName
    unlisted located fixed
  exact ⟨located, loopless, agrees _ discovered (.inl loopless), by decide +kernel⟩

/-- A project behind a link, with a link in it that leads back to itself. -/
def looping : Host :=
  ⟨⟨[(Place.ofPath "/q/x".toList, .link "missing/../x/../../p/l/x".toList),
    (Place.ofPath "/q/.babelrc".toList, .file (.text "\x7bplugins: ['root-import']\x7d".toList)),
    (Place.ofPath "/q/m.js".toList, .file (.text [])),
    (Place.ofPath "/q".toList, .directory),
    (Place.ofPath "/p/l".toList, .link "/q".toList),
    (Place.ofPath "/p".toList, .directory)]⟩, some "/".toList, .usual⟩

/-- A loop of links can leave a root that is the canonical form of itself below a directory that is
not: there the two answers name different files. -/
theorem canonical_root_not_enough : ¬ ∀ (h : Host) (specifier file fileName root : Text)
    (root? : Option Text) (configuration : Json) (found : Located),
    ConfigurationKind.of configuration ≠ .aliases → h.rootOf root? = .ok root →
    h.canonical root = .ok root →
    (discover h (some root) fileName).outcome = .ok (.located found) →
    (resolve h ⟨specifier, file, configuration, fileName, root?⟩).outcome
      = (resolve h ⟨specifier, file, .arr found.entries, fileName, some found.root⟩).outcome := by
  intro agrees
  have bare : (discover looping (some "/p/l/x".toList) defaultFileName).outcome.map
      Discovery.bareRoot? = .ok (some "/p/l".toList) := by decide +kernel
  obtain ⟨source?, discovered⟩ := located_of_bareRoot? bare
  have same := agrees looping "~/m".toList "/a.js".toList defaultFileName "/p/l/x".toList
    (some "/p/l/x".toList) .null _ (by decide) (by decide +kernel) (by decide +kernel) discovered
  have differ : (resolve looping ⟨"~/m".toList, "/a.js".toList, .null, defaultFileName,
        some "/p/l/x".toList⟩).outcome
      ≠ (resolve looping ⟨"~/m".toList, "/a.js".toList, .arr [], defaultFileName,
        some "/p/l".toList⟩).outcome := by decide +kernel
  exact differ same

end Request
end ImportResolution
