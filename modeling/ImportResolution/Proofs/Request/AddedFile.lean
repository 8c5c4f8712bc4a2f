import ImportResolution.Proofs.Module.AddedFile
import ImportResolution.Proofs.Request.InEffect

/-! Requests in a tree with one more file. What was found is found again, as the same file or for
the sake of the new one. The exception is a manifest that there is no room to read: creating it
breaks the imports of its directory. -/
namespace ImportResolution

namespace Request

variable {before after : Host} {place : Place} {first second : Except Fault Resolution}

/-- The name of the strategy has no part in what persists. -/
theorem persists_labelled (applied : Application)
    (persists : Module.Persists after place first second) :
    Module.Persists after place (first.map applied.labelled) (second.map applied.labelled) := by
  intro answer answered found
  obtain ⟨previous, reached, rfl⟩ := Except.map_eq_ok.mp answered
  rcases persists previous reached (by simpa using found) with
    ⟨next, again, nextFound, path⟩ | ⟨directory, descent, outgrown, broken⟩
  · exact .inl ⟨applied.labelled next, Except.map_eq_ok.mpr ⟨next, again, rfl⟩,
      by simpa using nextFound, by simpa using path⟩
  · exact .inr ⟨directory, descent, outgrown, by rw [broken]; rfl⟩

theorem aliases_of_listed {request : Request}
    (listed : ConfigurationKind.of request.configuration = .aliases)
    (same : after.startingPoint request.root? = before.startingPoint request.root?) :
    request.aliases after = request.aliases before := by
  simp only [aliases, Host.rootOf, same, listed]

/-- A file that is added to a tree breaks no import, be it resolved under any options or under
listed aliases whose root stays the same: what was found is found again, under the same path or
under one that leads to the added file or follows from it as a manifest. It does break an import if
it is the manifest of a directory and there is no room to read it. -/
theorem found_after_addition (adds : before.AddsFile after place) :
    (∀ specifier file members, Module.Persists after place
      (Module.resolve before specifier file members).outcome
      (Module.resolve after specifier file members).outcome) ∧
    ∀ request : Request, ConfigurationKind.of request.configuration = .aliases →
      after.startingPoint request.root? = before.startingPoint request.root? →
      Module.Persists after place (resolve before request).outcome
        (resolve after request).outcome := by
  refine ⟨Module.resolve_persists adds, ?_⟩
  intro request listed same
  rw [outcome_resolve, outcome_resolve, aliases_of_listed listed same]
  cases request.aliases before with
  | error fault => exact Module.persists_refl after place (.error fault)
  | ok inEffect =>
    exact persists_labelled (request.applied inEffect) (Module.resolve_persists adds _ _ _)

/-- A directory that is loaded through its index. -/
def indexed : Host :=
  ⟨⟨[(Place.ofPath "/p/lib/index.js".toList, .file (.text [])),
    (Place.ofPath "/p/lib/main.js".toList, .file (.text [])),
    (Place.ofPath "/p/lib".toList, .directory),
    (Place.ofPath "/p".toList, .directory)]⟩, some "/".toList, .usual⟩

/-- The place of its manifest. -/
def manifestPlace : Place := Place.ofPath "/p/lib/package.json".toList

/-- A manifest that names another file than the index. -/
def mainManifest : Node := .file (.text "\x7b\"main\": \"main\"\x7d".toList)

/-- The same directory with the manifest. -/
def described : Host := { indexed with tree := indexed.tree.set manifestPlace mainManifest }

/-- A request for the directory by the default alias. -/
def aliasedLibrary : Request :=
  ⟨"~/lib".toList, "/x.js".toList, .arr [], [], some "/p".toList⟩

/-- A manifest that is added sends an import to another file, both by its place and by an alias. -/
theorem found_after_addition_manifest :
    indexed.AddsFile described manifestPlace ∧
      Module.Persists described manifestPlace
        (Module.resolve indexed "./lib".toList "/p/app.js".toList []).outcome
        (Module.resolve described "./lib".toList "/p/app.js".toList []).outcome ∧
      Module.Persists described manifestPlace (resolve indexed aliasedLibrary).outcome
        (resolve described aliasedLibrary).outcome ∧
      (resolve indexed aliasedLibrary).outcome.map (·.path?)
        = .ok (some "/p/lib/index.js".toList) ∧
      (resolve described aliasedLibrary).outcome.map (·.path?)
        = .ok (some "/p/lib/main.js".toList) := by
  have vacant : indexed.tree.node? manifestPlace = none := by decide +kernel
  have adds : indexed.AddsFile described manifestPlace := by
    unfold described
    exact ⟨FileTree.addsFile_set indexed.tree vacant rfl, rfl, rfl⟩
  have same : described.startingPoint (some "/p".toList)
      = indexed.startingPoint (some "/p".toList) := by
    decide +kernel
  obtain ⟨placed, aliased⟩ := found_after_addition adds
  refine ⟨adds, placed _ _ _, aliased aliasedLibrary rfl same, ?_, ?_⟩
  · decide +kernel
  · decide +kernel

/-- The same directory with a manifest that opens a thousand brackets. -/
def overgrown : Host :=
  { indexed with
    tree := indexed.tree.set manifestPlace (.file (.text (List.replicate 1000 '['))) }

/-- Not every file can be added: a manifest of a thousand brackets breaks an import that the index
served. -/
theorem overgrown_not_found : ¬ ∀ (before after : Host) (place : Place) (specifier file : Text)
    (answer : Resolution), before.AddsFile after place →
      (Module.resolve before specifier file []).outcome = .ok answer → answer.found = true →
        ∃ answer', (Module.resolve after specifier file []).outcome = .ok answer' ∧
          answer'.found = true := by
  intro persists
  have vacant : indexed.tree.node? manifestPlace = none := by decide +kernel
  have adds : indexed.AddsFile overgrown manifestPlace := by
    unfold overgrown
    exact ⟨FileTree.addsFile_set indexed.tree vacant rfl, rfl, rfl⟩
  have served : (Module.resolve indexed "./lib".toList "/p/a.js".toList []).outcome
      = .ok ⟨.file "/p/lib/index.js".toList, .relative, ["/p/lib".toList, "/p/lib.mjs".toList,
          "/p/lib.js".toList, "/p/lib.json".toList, "/p/lib.node".toList, "/p/lib/index".toList,
          "/p/lib/index.mjs".toList, "/p/lib/index.js".toList]⟩ := by
    decide +kernel
  have broken : (Module.resolve overgrown "./lib".toList "/p/a.js".toList []).outcome
      = .error (.exhausted (.container .array)) := by
    decide +kernel
  obtain ⟨answer', again, -⟩ :=
    persists indexed overgrown manifestPlace "./lib".toList "/p/a.js".toList _ adds served rfl
  rw [broken] at again
  cases again

end Request
end ImportResolution
