import ImportResolution.Proofs.Alias.Spelling
import ImportResolution.Proofs.Module.Probed
import ImportResolution.Proofs.Module.WellFormed
import ImportResolution.Proofs.Path.Below

/-! Aliased imports stay below the root. If the suffix of an entry and what stands behind its sign
never climb above their start, then the entry leads to the root or to a place below it, however many
slashes there are; and a search there leaves the root only if an ending or the main file of a
manifest leads out of it. -/
namespace ImportResolution

namespace Module

/-- A path that a search for a target may probe without leaving a root: the root or a place below
it, or, if the target is the root itself, the root with an ending. -/
inductive Confined (root target : Text) (extensions : List Json) (path : Text) : Prop where
  | inside (within : Path.Within root path)
  | beside (whole : target = root) (listed : .str ending ∈ extensions)
      (same : path = root ++ ending)

variable {h : Host} {root target start path specifier file : Text} {extensions : List Json}
  {options : Options} {members : List (Text × Json)} {answer : Resolution}

theorem isName_indexName : Path.IsName indexName :=
  ⟨by decide, by decide, by decide, by decide⟩

/-- What an ending is put to stays confined: below the root it stays there, and at the root it
stands beside it. -/
theorem confined_of_ended (place : Path.Below root start ∨ start = root ∧ target = root)
    (whole : ∀ ending, .str ending ∈ extensions → '/' ∉ ending)
    (ended : Ended extensions start path) : Confined root target extensions path := by
  rcases place with below | ⟨rfl, same⟩
  · cases ended with
    | bare => exact .inside (.inr below)
    | ending listed => exact .inside (.inr (Path.below_append below (whole _ listed)))
  · cases ended with
    | bare => exact .inside (.inl rfl)
    | ending listed => exact .beside same listed rfl

/-- All that a search for a target inside a root starts from is inside it, and is the root only if
the target is. -/
theorem place_of_start (absolute : Path.isAbsolute target = true)
    (normal : Path.normalize target = target) (within : Path.Within root target)
    (mains : ∀ main, ReadsMain h extensions target main →
      Path.isAbsolute main = false ∧ Path.NeverClimbs (PlainPath.ofText main).names)
    (starts : Start h extensions target start) :
    Path.Below root start ∨ start = root ∧ target = root := by
  have inside (place : Path.Within target start) :
      Path.Below root start ∨ start = root ∧ target = root := by
    rcases within with rfl | below
    · rcases place with rfl | further
      · exact .inr ⟨rfl, rfl⟩
      · exact .inl further
    · exact .inl (Path.below_of_below_within below place)
  have ofMain {main : Text} (read : ReadsMain h extensions target main) :
      Path.Within target (Path.normalize (Path.join target main)) := by
    obtain ⟨relative, level⟩ := mains main read
    exact Path.within_normalize_join absolute normal relative level
  cases starts with
  | itself => exact inside (.inl rfl)
  | index => exact .inl (Path.below_join within isName_indexName)
  | main read => exact inside (ofMain read)
  | mainIndex read =>
    exact inside (.inr (Path.below_join (ofMain read) isName_indexName))

/-- Loading a target inside a root probes confined paths only. -/
theorem load_confined (absolute : Path.isAbsolute target = true)
    (normal : Path.normalize target = target) (within : Path.Within root target)
    (whole : ∀ ending, .str ending ∈ extensions → '/' ∉ ending)
    (mains : ∀ main, ReadsMain h extensions target main →
      Path.isAbsolute main = false ∧ Path.NeverClimbs (PlainPath.ofText main).names) :
    ∀ path ∈ (load h extensions target).candidates, Confined root target extensions path := by
  intro path probed
  obtain ⟨start, starts, ended⟩ := ended_of_load probed
  exact confined_of_ended (place_of_start absolute normal within mains starts) whole ended

end Module

/-- An entry leads to the root or to a place below it if its suffix and the rest of the specifier
never climb above their start. -/
theorem AliasEntry.within_anchored {entry : AliasEntry} {root specifier : Text}
    (rooted : Path.isAbsolute root = true) (normal : Path.normalize root = root)
    (applies : entry.applies specifier = true)
    (level : Path.NeverClimbs ((PlainPath.ofText entry.suffix).names
      ++ (PlainPath.ofText (specifier.drop entry.sign.length)).names)) :
    Path.Within root (entry.anchored root specifier) := by
  have relative : Path.isAbsolute (entry.spelled specifier) = false := by
    simp [AliasEntry.spelled, Path.isAbsolute]
  rw [AliasEntry.anchored_eq root applies]
  exact Path.within_normalize_join rooted normal relative (by rwa [AliasEntry.names_spelled])

namespace Application

open ImportResolution.Module

/-- A specifier that an entry applies to becomes the root or a place below it, and a search for it
probes and finds nothing outside, except beside the root if it is a search for the root itself. This
needs a suffix and a rest of the specifier that never climb above their start, endings without a
slash, and a main file, where one is read, that is relative and never climbs either. -/
theorem confined_below_root {entries : List AliasEntry} {entry : AliasEntry}
    {root specifier : Text} {applied : Application}
    (first : entries.find? (·.applies specifier) = some entry)
    (made : ofEntries specifier entries root = applied)
    (rooted : Path.isAbsolute root = true) (normal : Path.normalize root = root)
    (level : Path.NeverClimbs ((PlainPath.ofText entry.suffix).names
      ++ (PlainPath.ofText (specifier.drop entry.sign.length)).names)) :
    Path.Within root applied.specifier ∧
    ∀ (h : Host) (options : Options), Options.ofMembers applied.options = .ok options →
      (∀ ending, .str ending ∈ options.extensions → '/' ∉ ending) →
      (∀ main, ReadsMain h options.extensions applied.specifier main →
        Path.isAbsolute main = false ∧ Path.NeverClimbs (PlainPath.ofText main).names) →
      (∀ path ∈ (load h options.extensions applied.specifier).candidates,
        Confined root applied.specifier options.extensions path) ∧
      ∀ file answer,
        (Module.resolve h applied.specifier file applied.options).outcome = .ok answer →
        ∀ path, path ∈ answer.candidates ∨ answer.path? = some path →
          Confined root applied.specifier options.extensions path := by
  have applies : entry.applies specifier = true := by simpa using List.find?_some first
  obtain ⟨place, given⟩ := ofEntriesFrom_of_find? root 0 [] first
  obtain rfl : ⟨entry.anchored root specifier, entry.options, some (place, entry)⟩ = applied :=
    given.symm.trans made
  have within := AliasEntry.within_anchored rooted normal applies level
  have joined := Path.isAbsolute_join rooted (Text.dropSlashes (entry.rewrite specifier))
  have placed : Path.isAbsolute (entry.anchored root specifier) = true :=
    Path.isAbsolute_normalize joined
  have settled : Path.normalize (entry.anchored root specifier) = entry.anchored root specifier :=
    Path.normalize_normalize joined
  refine ⟨within, ?_⟩
  intro h options accepted whole mains
  have probed := load_confined placed settled within whole mains
  refine ⟨probed, ?_⟩
  intro file answer answered path named
  rcases answer_of_absolute placed accepted answered with rfl | loaded
  · rcases named with candidate | hit
    · cases candidate
    · cases hit
  · rw [settled] at loaded
    have sound := sound_load (h := h) options.extensions placed
    have answers := answers_resolution sound (by decide) (by decide) loaded
    rw [← candidates_of_resolution loaded] at probed
    rcases named with candidate | hit
    · exact probed path candidate
    · obtain ⟨-, -, earlier, last, -⟩ := answers.wellFormed.file path hit
      exact probed path (by simp [last])

/-- A library whose manifest names a main file by a detour. -/
def detour : Host :=
  ⟨⟨[(Place.ofPath "/p/lib/m.js".toList, .file (.text [])),
    (Place.ofPath "/p/lib/package.json".toList,
      .file (.text "\x7b\"main\": \"./d/../m\"\x7d".toList)),
    (Place.ofPath "/p/lib".toList, .directory),
    (Place.ofPath "/p".toList, .directory)]⟩, some "/".toList, .usual⟩

/-- An entry for the library, whose suffix keeps a slash at its start. -/
def slashedEntry : AliasEntry := ⟨"@".toList, "/lib".toList, []⟩

/-- Neither the slashes nor the double dots in the rest of the specifier and in the manifest lead
out of the root. -/
theorem confined_below_root_detour :
    Path.NeverClimbs ((PlainPath.ofText slashedEntry.suffix).names
        ++ (PlainPath.ofText ("@//a/..".toList.drop 1)).names) ∧
      Path.Within "/p".toList "/p/lib".toList ∧
      ∃ answer, (Module.resolve detour "/p/lib".toList "/x.js".toList []).outcome = .ok answer ∧
        answer.path? = some "/p/lib/m.js".toList ∧
        ∀ path ∈ answer.candidates, Confined "/p".toList "/p/lib".toList
          (Options.defaultExtensions.map .str) path := by
  have level : Path.NeverClimbs ((PlainPath.ofText slashedEntry.suffix).names
      ++ (PlainPath.ofText ("@//a/..".toList.drop slashedEntry.sign.length)).names) := by
    decide +kernel
  have anchored : slashedEntry.anchored "/p".toList "@//a/..".toList = "/p/lib".toList := by
    decide +kernel
  have applies : slashedEntry.applies "@//a/..".toList = true := by decide +kernel
  have made : ofEntries "@//a/..".toList [slashedEntry] "/p".toList
      = ⟨"/p/lib".toList, [], some (0, slashedEntry)⟩ := by
    unfold ofEntries ofEntriesFrom
    rw [if_pos applies, anchored]
    rfl
  have named : Plan.mainNamed? detour "/p/lib".toList = some "./d/../m".toList := by decide +kernel
  obtain ⟨within, confined⟩ := confined_below_root (List.find?_cons_of_pos applies) made rfl
    (by decide +kernel) level
  have mains : ∀ main, ReadsMain detour (Options.defaultExtensions.map .str) "/p/lib".toList main →
      Path.isAbsolute main = false ∧ Path.NeverClimbs (PlainPath.ofText main).names := by
    intro main read
    obtain rfl : "./d/../m".toList = main := Option.some.inj (named.symm.trans read.named)
    decide +kernel
  obtain ⟨-, confined⟩ := confined detour ⟨Options.defaultExtensions.map .str, _, _⟩ rfl
    (fun _ => no_slash_of_default) mains
  have answered : (Module.resolve detour "/p/lib".toList "/x.js".toList []).outcome
      = .ok ⟨.file "/p/lib/m.js".toList, .absolute,
          ["/p/lib".toList, "/p/lib.mjs".toList, "/p/lib.js".toList, "/p/lib.json".toList,
            "/p/lib.node".toList, "/p/lib/m".toList, "/p/lib/m.mjs".toList,
            "/p/lib/m.js".toList]⟩ := by
    rw [Module.resolve_absolute (by decide) (by decide)]
    decide +kernel
  refine ⟨level, within, _, answered, rfl, ?_⟩
  intro path candidate
  exact confined _ _ answered path (.inl candidate)

end Application
end ImportResolution
