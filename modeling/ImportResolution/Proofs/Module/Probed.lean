import ImportResolution.Proofs.Module.Plan

/-! The paths that loading a target can probe. There are few paths to start from, the target, its
index and, if a manifest is read for the target, the main file that it names and the index there;
and each is probed as it stands or with one of the endings. -/
namespace ImportResolution.Module

/-- The main file that is read for a target: there is no file for the target itself, the target is a
directory, and its manifest names the main file. -/
structure ReadsMain (h : Host) (extensions : List Json) (target main : Text) : Prop where
  missed : (loadFile h extensions target).verdict = .miss
  held : h.isDirectory target = true
  named : Plan.mainNamed? h target = some main

/-- The paths from which loading a target starts. -/
inductive Start (h : Host) (extensions : List Json) (target : Text) : Text → Prop where
  | itself : Start h extensions target target
  | index : Start h extensions target (Path.join target indexName)
  | main (read : ReadsMain h extensions target main) :
      Start h extensions target (Path.normalize (Path.join target main))
  | mainIndex (read : ReadsMain h extensions target main) :
      Start h extensions target (Path.join (Path.normalize (Path.join target main)) indexName)

/-- A path as it stands, or with one of the endings. -/
inductive Ended (extensions : List Json) (path : Text) : Text → Prop where
  | bare : Ended extensions path path
  | ending (listed : .str ending ∈ extensions) : Ended extensions path (path ++ ending)

variable {h : Host} {extensions : List Json} {target directory main path : Text}

/-- No ending that is tried by default leads anywhere else. -/
theorem no_slash_of_default {ending : Text}
    (listed : .str ending ∈ Options.defaultExtensions.map Json.str) : '/' ∉ ending := by
  have whole : ∀ ending ∈ Options.defaultExtensions, '/' ∉ ending := by decide
  exact whole ending (by simpa using listed)

/-- What is probed is probed by the first search, or by the second one after the first has found
nothing. -/
theorem mem_candidates_orElse {first : Trail} {second : Unit → Trail}
    (probed : path ∈ (first.orElse second).candidates) :
    path ∈ first.candidates ∨ first.verdict = .miss ∧ path ∈ (second ()).candidates := by
  cases ended : first.verdict with
  | miss => simpa [Trail.orElse, ended] using probed
  | hit found => exact .inl (by simpa [Trail.orElse, ended] using probed)
  | failed fault => exact .inl (by simpa [Trail.orElse, ended] using probed)

theorem ended_of_probeEndings (probed : path ∈ (probeEndings h target extensions).candidates) :
    ∃ ending, .str ending ∈ extensions ∧ path = target ++ ending := by
  induction extensions with
  | nil => cases probed
  | cons item rest ih =>
    cases item with
    | str ending =>
      rcases mem_candidates_orElse probed with here | ⟨-, later⟩
      · exact ⟨ending, List.mem_cons_self .., List.mem_singleton.mp here⟩
      · obtain ⟨ending, listed, rfl⟩ := ih later
        exact ⟨ending, List.mem_cons_of_mem _ listed, rfl⟩
    | _ => cases probed

theorem ended_of_loadFile (probed : path ∈ (loadFile h extensions target).candidates) :
    Ended extensions target path := by
  rcases mem_candidates_orElse probed with here | ⟨-, later⟩
  · obtain rfl := List.mem_singleton.mp here
    exact .bare
  · obtain ⟨ending, listed, rfl⟩ := ended_of_probeEndings later
    exact .ending listed

theorem ended_of_loadMain (read : ReadsMain h extensions target main)
    (probed : path ∈ (loadMain h extensions target main).candidates) :
    ∃ start, Start h extensions target start ∧ Ended extensions start path := by
  rcases mem_candidates_orElse probed with file | ⟨-, index⟩
  · exact ⟨_, .main read, ended_of_loadFile file⟩
  · split at index
    · cases index
    · exact ⟨_, .mainIndex read, ended_of_loadFile index⟩

theorem ended_of_loadDirectory (missed : (loadFile h extensions target).verdict = .miss)
    (probed : path ∈ (loadDirectory h extensions target).candidates) :
    ∃ start, Start h extensions target start ∧ Ended extensions start path := by
  have ofIndex (probed : path ∈ (loadIndex h extensions target).candidates) :
      ∃ start, Start h extensions target start ∧ Ended extensions start path :=
    ⟨_, .index, ended_of_loadFile probed⟩
  cases held : h.isDirectory target with
  | false =>
    simp only [loadDirectory, held, Bool.not_false, if_true] at probed
    cases probed
  | true =>
    cases manifest : h.isFile (Path.join target manifestName) with
    | false => exact ofIndex (by simpa [loadDirectory, held, manifest] using probed)
    | true =>
      rcases mainOf_readJson manifest with read | ⟨descent, exhausted⟩
      · simp only [loadDirectory, held, manifest, Bool.not_true, Bool.false_eq_true, if_false,
          read, Trail.after] at probed
        cases named : Plan.mainNamed? h target with
        | none => exact ofIndex (by simpa [named] using probed)
        | some main =>
          simp only [named] at probed
          rcases mem_candidates_orElse probed with main | ⟨-, index⟩
          · exact ended_of_loadMain ⟨missed, held, named⟩ main
          · exact ofIndex index
      · rw [loadDirectory_of_exhausted held manifest exhausted] at probed
        cases probed

/-- Whatever is probed for a target starts from one of its few paths. -/
theorem ended_of_load (probed : path ∈ (load h extensions target).candidates) :
    ∃ start, Start h extensions target start ∧ Ended extensions start path := by
  rcases mem_candidates_orElse probed with file | ⟨missed, directory⟩
  · exact ⟨_, .itself, ended_of_loadFile file⟩
  · exact ended_of_loadDirectory missed directory

end ImportResolution.Module
