import ImportResolution.Proofs.Configuration.Decision
import ImportResolution.Proofs.FileTree.RemovedEntry
import ImportResolution.Proofs.Host.Root
import ImportResolution.Proofs.Relaxed.Strict

/-! Configuration files that hold a scalar. A scalar that counts as absent leaves the word to the
manifest, as if there were no such file. Any other scalar is no configuration either, but it keeps
the manifest from being asked, so that the directory is passed whatever its manifest holds. -/
namespace ImportResolution.Configuration

open PlainPath (ofText)

/-- Two paths that lead to the same node. -/
def LeadAlike (h : Host) (path other : Text) : Prop :=
  ∃ found, h.lookup true path = .ok found ∧ h.lookup true other = .ok found

/-- The configuration file of a directory on the way up holds a scalar, and in the second host its
entry is gone. The way starts in the same place. A manifest may be that very file, as long as it can
be read as one. -/
structure ScalarRemoved (h h' : Host) (start? : Option Text) (start fileName : Text)
    (directory : PlainPath) (value : Json) : Prop where
  rooted : h.Rooted
  named : fileName ≠ []
  started : h.startingPoint start? = .ok start
  started' : h'.startingPoint start? = .ok start
  member : directory ∈ asked start
  read : fileReading h directory fileName = .value value
  scalar : value.isContainer = false
  removes : h.Removes h' (directory.join (ofText fileName)).toText
  strict : ∀ near ∈ asked start,
    LeadAlike h (near.join (ofText manifestName)).toText (directory.join (ofText fileName)).toText →
    ∃ manifest, manifestReading h near = .value manifest

/-- The manifest of a directory decides what is discovered, if it decides anything and all nearer
directories are passed. -/
def HeedsManifest (h : Host) (start? : Option Text) (start fileName : Text)
    (directory : PlainPath) : Prop :=
  ∀ nearer farther outcome, asked start = nearer ++ directory :: farther →
    (∀ near ∈ nearer, Passes h fileName near) → Decides h [] directory outcome →
    (discover h start? fileName).outcome = outcome

variable {h h' : Host} {start? : Option Text} {start fileName path : Text}
  {directory near : PlainPath} {value : Json} {saying : Saying}
  {parse : Text → Except ReadFault Json} {place : Place} {node : Node}

/-! ### Readings -/

/-- When an entry is removed, a file is read as before, or it was the file of that entry and is
absent. -/
theorem reading_loses (loses : FileTree.Loses place node (h.lookup true path) (h'.lookup true path))
    (parse : Text → Except ReadFault Json) :
    reading h' parse path = reading h parse path ∨
      h.lookup true path = .ok (place, node) ∧ reading h' parse path = .absent := by
  cases loses with
  | kept same => exact .inl (by simp only [reading, same])
  | lost found missed => exact .inr ⟨found, by simp only [reading, missed]⟩
  | unseen fault failed blocked missed =>
    refine .inl ?_
    rcases blocked with rfl | rfl <;> simp only [reading, failed, missed]

theorem isAbsolute_asked_join (removed : ScalarRemoved h h' start? start fileName directory value)
    (asked : near ∈ asked start) (name : Text) :
    Path.isAbsolute (near.join (ofText name)).toText = true := by
  apply PlainPath.isAbsolute_toText_join
  rw [slashes_of_mem_asked asked]
  exact Path.isAbsolute_iff_rootSlashes.mp
    (Host.isAbsolute_startingPoint removed.rooted removed.started)

/-- Where the entry of a directory is removed, every configuration file is read as before, or it is
that very file and is absent. -/
theorem fileReading_removed (removed : ScalarRemoved h h' start? start fileName directory value)
    (asked : near ∈ asked start) :
    fileReading h' near fileName = fileReading h near fileName ∨
      fileReading h near fileName = .value value ∧ fileReading h' near fileName = .absent ∧
        LeadAlike h (near.join (ofText fileName)).toText
          (directory.join (ofText fileName)).toText := by
  obtain ⟨place, content, text, found, decoded, parsed⟩ := file_of_reading removed.read
  have loses := Host.lookup_loses removed.removes (isAbsolute_asked_join removed removed.member _)
    found rfl (isAbsolute_asked_join removed asked fileName)
  rcases reading_loses loses h.room.parseRelaxed with same | ⟨there, gone⟩
  · refine .inl ?_
    rw [fileReading, removed.removes.room]
    exact same
  · rw [← removed.removes.room] at gone
    refine .inr ⟨?_, gone, _, there, found⟩
    simp only [fileReading, reading, there, decoded, parsed]

/-- And every manifest is read as before, or it held no object and is absent. -/
theorem manifestReading_removed
    (removed : ScalarRemoved h h' start? start fileName directory value)
    (asked : near ∈ asked start) :
    manifestReading h' near = manifestReading h near ∨
      manifestReading h' near = .absent ∧
        ∃ manifest, manifestReading h near = .value manifest ∧ manifest.isContainer = false := by
  obtain ⟨place, content, text, found, decoded, parsed⟩ := file_of_reading removed.read
  have loses := Host.lookup_loses removed.removes (isAbsolute_asked_join removed removed.member _)
    found rfl (isAbsolute_asked_join removed asked manifestName)
  rcases reading_loses loses h.room.parse with same | ⟨there, gone⟩
  · refine .inl ?_
    rw [manifestReading, removed.removes.room]
    exact same
  · rw [← removed.removes.room] at gone
    obtain ⟨manifest, read⟩ := removed.strict near asked ⟨_, there, found⟩
    refine .inr ⟨gone, manifest, read, ?_⟩
    -- what both notations read is of one kind
    obtain ⟨_, _, text', again, decoded', strict⟩ := file_of_reading read
    cases there.symm.trans again
    cases decoded.symm.trans decoded'
    obtain ⟨value', relaxed, kind, -⟩ := Relaxed.parse_of_strict (Room.parse_eq_ok.mp strict).2
    cases relaxed.symm.trans (Room.parseRelaxed_eq_ok.mp parsed).2
    exact kind.symm.trans removed.scalar

/-! ### Manifests alone -/

/-- Where the configuration file is silent, a directory says what its manifest says alone. -/
theorem says_iff_of_silent (silent : Silent h fileName near) :
    Says h fileName near saying ↔ Says h [] near saying := by
  have alone : Silent h [] near := .unnamed rfl
  constructor
  · intro said
    cases said with
    | fileFailed named read =>
      cases silent with
      | unnamed unnamed => exact absurd unnamed named
      | absent other => cases read.symm.trans other
      | blank other => cases read.symm.trans other
    | file named read present =>
      cases silent with
      | unnamed unnamed => exact absurd unnamed named
      | absent other => cases read.symm.trans other
      | blank other blank =>
        cases read.symm.trans other
        exact absurd blank present
    | manifestFailed _ read => exact .manifestFailed alone read
    | manifest _ read held present => exact .manifest alone read held present
    | noManifest _ read => exact .noManifest alone read
    | noSection _ read blank => exact .noSection alone read blank
  · intro said
    cases said with
    | fileFailed named read => exact absurd rfl named
    | file named read present => exact absurd rfl named
    | manifestFailed _ read => exact .manifestFailed silent read
    | manifest _ read held present => exact .manifest silent read held present
    | noManifest _ read => exact .noManifest silent read
    | noSection _ read blank => exact .noSection silent read blank

/-- Manifests say what they said. -/
theorem says_alone_removed (removed : ScalarRemoved h h' start? start fileName directory value)
    (asked : near ∈ asked start) (said : Says h [] near saying) : Says h' [] near saying := by
  have alone : Silent h' [] near := .unnamed rfl
  rcases manifestReading_removed removed asked with same | ⟨gone, manifest, read, scalar⟩
  · cases said with
    | fileFailed named read => exact absurd rfl named
    | file named read present => exact absurd rfl named
    | manifestFailed _ read => exact .manifestFailed alone (same.trans read)
    | manifest _ read held present => exact .manifest alone (same.trans read) held present
    | noManifest _ read => exact .noManifest alone (same.trans read)
    | noSection _ read blank => exact .noSection alone (same.trans read) blank
  · -- a scalar has no section, and neither has a manifest that is not there
    cases said with
    | fileFailed named read => exact absurd rfl named
    | file named read present => exact absurd rfl named
    | manifestFailed _ other => cases read.symm.trans other
    | manifest _ other =>
      cases read.symm.trans other
      cases scalar
    | noManifest _ other => cases read.symm.trans other
    | noSection _ other => exact .noManifest alone gone

/-- A directory says what it said if the scalar counts as absent, or if its file is another one. -/
theorem says_removed (removed : ScalarRemoved h h' start? start fileName directory value)
    (asked : near ∈ asked start)
    (heard : Blank value ∨ fileReading h' near fileName = fileReading h near fileName)
    (said : Says h fileName near saying) : Says h' fileName near saying := by
  have by_manifest (silent : Silent h fileName near) (silent' : Silent h' fileName near) :
      Says h' fileName near saying :=
    (says_iff_of_silent silent').mpr
      (says_alone_removed removed asked ((says_iff_of_silent silent).mp said))
  rcases fileReading_removed removed asked with same | ⟨read, gone, -⟩
  · by_cases silent : Silent h fileName near
    · exact by_manifest silent (silent_congr same silent)
    · cases said with
      | fileFailed named read => exact .fileFailed named (same.trans read)
      | file named read present => exact .file named (same.trans read) present
      | manifestFailed other | manifest other | noManifest other | noSection other =>
        exact absurd other silent
  · rcases heard with blank | same
    · exact by_manifest (.blank read blank) (.absent gone)
    · cases gone.symm.trans (same.trans read)

/-- A directory whose file holds the scalar is passed, if the scalar counts as present, whatever its
manifest holds. -/
theorem passes_of_scalar (removed : ScalarRemoved h h' start? start fileName directory value)
    (present : ¬ Blank value) (read : fileReading h near fileName = .value value) :
    Passes h fileName near :=
  .scalar (.file removed.named read present) removed.scalar

/-- A silent configuration file lets the manifest decide. -/
theorem heedsManifest_of_silent (started : h.startingPoint start? = .ok start)
    (silent : Silent h fileName directory) :
    HeedsManifest h start? start fileName directory := by
  intro nearer farther outcome way passed decides
  have decides' := decides_of_kept (fun _ => (says_iff_of_silent silent).mpr) decides
  exact outcome_of_discovers (.decided started way passed decides')

theorem fileReading_vacant (removed : ScalarRemoved h h' start? start fileName directory value) :
    fileReading h' directory fileName = .absent := by
  obtain ⟨place, content, text, found, -⟩ := file_of_reading removed.read
  have vacant := Host.lookup_removed removed.removes
    (isAbsolute_asked_join removed removed.member fileName) found rfl
  simp only [fileReading, reading, vacant]

/-- A scalar that counts as present may be removed, as long as no directory that has it in its
configuration file has a manifest that decides. -/
theorem discover_of_idle (removed : ScalarRemoved h h' start? start fileName directory value)
    (present : ¬ Blank value)
    (idle : ∀ near ∈ asked start,
      LeadAlike h (near.join (ofText fileName)).toText
        (directory.join (ofText fileName)).toText → Passes h [] near) :
    (discover h' start? fileName).outcome = (discover h start? fileName).outcome := by
  have kept (near) (member : near ∈ asked start) :
      (∀ saying, Says h fileName near saying → Says h' fileName near saying) ∨
        Passes h fileName near ∧ Passes h' fileName near := by
    rcases fileReading_removed removed member with same | ⟨read, gone, alike⟩
    · exact .inl fun _ => says_removed removed member (.inr same)
    · refine .inr ⟨passes_of_scalar removed present read, ?_⟩
      -- without the file the manifest is heard, which says nothing that decides
      refine passes_of_kept (fun _ said => ?_) (idle near member alike)
      exact (says_iff_of_silent (.absent gone)).mpr (says_alone_removed removed member said)
  refine discover_congr removed.started removed.started' (fun near member passes => ?_)
    (fun near member outcome decides => ?_)
  · rcases kept near member with alike | ⟨-, passes'⟩
    · exact passes_of_kept alike passes
    · exact passes'
  · rcases kept near member with alike | ⟨passes, -⟩
    · exact decides_of_kept alike decides
    · exact absurd decides (not_decides_of_passes passes)

/-- A scalar in a configuration file and the removal of the file. One that counts as absent makes no
difference: discovery ends alike, and the manifest of the directory is heard. Any other lets the
directory be passed, where without the file its manifest is heard; discovery ends alike if in every
directory whose configuration file this is, the manifest says nothing that decides. -/
theorem scalar_removed (removed : ScalarRemoved h h' start? start fileName directory value) :
    (∀ saying, Says h [] directory saying → Says h' [] directory saying) ∧
      (Blank value →
        (discover h' start? fileName).outcome = (discover h start? fileName).outcome ∧
          HeedsManifest h start? start fileName directory) ∧
      (¬ Blank value →
        Passes h fileName directory ∧ HeedsManifest h' start? start fileName directory ∧
          ((∀ near ∈ asked start,
              LeadAlike h (near.join (ofText fileName)).toText
                (directory.join (ofText fileName)).toText → Passes h [] near) →
            (discover h' start? fileName).outcome = (discover h start? fileName).outcome)) := by
  refine ⟨fun saying => says_alone_removed removed removed.member, fun blank => ⟨?_, ?_⟩,
    fun present => ⟨passes_of_scalar removed present removed.read, ?_, ?_⟩⟩
  · have alike (near) (member : near ∈ asked start) (saying) :
        Says h fileName near saying → Says h' fileName near saying :=
      says_removed removed member (.inl blank)
    exact discover_congr removed.started removed.started'
      (fun near member => passes_of_kept (alike near member))
      (fun near member _ => decides_of_kept (alike near member))
  · exact heedsManifest_of_silent removed.started (.blank removed.read blank)
  · exact heedsManifest_of_silent removed.started' (.absent (fileReading_vacant removed))
  · exact discover_of_idle removed present

/-- A project whose configuration file is a link to a file with the given text, and whose manifest
has a section. -/
def linkedFile (text : Text) : Host :=
  ⟨⟨[(Place.ofPath "/p/.babelrc".toList, .link "conf/babelrc".toList),
    (Place.ofPath "/p/conf/babelrc".toList, .file (.text text)),
    (Place.ofPath "/p/conf".toList, .directory),
    (Place.ofPath "/p/package.json".toList,
      .file (.text "\x7b\"babel\": \x7b\"plugins\": [\"root-import\"]\x7d\x7d".toList)),
    (Place.ofPath "/p".toList, .directory)]⟩, some "/p".toList, .usual⟩

/-- The project without the link. -/
def unlinkedFile (text : Text) : Host :=
  { linkedFile text with tree := (linkedFile text).tree.erase (Place.ofPath "/p/.babelrc".toList) }

/-- The file that a discovery names as its source, if it names one. -/
def Discovery.source? : Discovery → Option Text
  | .notListed => none
  | .located configuration => configuration.source?

/-- Whether a file is read as a value of some kind. -/
def Reading.holds (kind : Json → Bool) : Reading → Bool
  | .value value => kind value
  | _ => false

theorem scalarRemoved_linkedFile (text : Text) {kind : Json → Bool}
    (scalars : ∀ value, kind value = true → value.isContainer = false)
    (read : (fileReading (linkedFile text) (ofText "/p".toList) defaultFileName).holds kind = true)
    (named : (linkedFile text).lookup false "/p/.babelrc".toList
      = .ok (Place.ofPath "/p/.babelrc".toList, .link "conf/babelrc".toList))
    (apart : ∀ near ∈ asked "/p".toList,
      (linkedFile text).lookup true (near.join (ofText manifestName)).toText
        ≠ (linkedFile text).lookup true "/p/.babelrc".toList) :
    ∃ value, kind value = true ∧ ScalarRemoved (linkedFile text) (unlinkedFile text) none
      "/p".toList defaultFileName (ofText "/p".toList) value := by
  have path : ((ofText "/p".toList).join (ofText defaultFileName)).toText
      = "/p/.babelrc".toList := by
    decide
  cases held : fileReading (linkedFile text) (ofText "/p".toList) defaultFileName with
  | absent | failed =>
    rw [held] at read
    cases read
  | value value =>
    rw [held] at read
    refine ⟨value, read, ?_, by decide, rfl, rfl, by decide, held, scalars value read, ?_, ?_⟩
    · rintro directory ⟨⟩
      decide
    · rw [path]
      exact ⟨⟨_, _, named, rfl⟩, rfl, rfl⟩
    · rintro near member ⟨found, first, second⟩
      rw [path] at second
      exact absurd (first.trans second.symm) (apart near member)

/-- Null leaves the word to the manifest, with and without the link to it. -/
theorem scalar_removed_null :
    ∃ value, ScalarRemoved (linkedFile "null".toList) (unlinkedFile "null".toList) none "/p".toList
        defaultFileName (ofText "/p".toList) value ∧ Blank value ∧
      (discover (unlinkedFile "null".toList) none defaultFileName).outcome
        = (discover (linkedFile "null".toList) none defaultFileName).outcome ∧
      (discover (linkedFile "null".toList) none defaultFileName).outcome.map Discovery.source?
        = .ok (some "/p/package.json".toList) := by
  have scalars (value : Json) (unset : (!value.isSet) = true) : value.isContainer = false := by
    simp only [Json.isSet, Bool.not_or, Bool.and_eq_true, Bool.not_eq_true'] at unset
    exact unset.1
  obtain ⟨value, unset, removed⟩ := scalarRemoved_linkedFile "null".toList scalars
    (by decide +kernel) (by decide +kernel) (by decide +kernel)
  have blank : Blank value := blank_iff.mpr (by simpa using unset)
  obtain ⟨-, silent, -⟩ := scalar_removed removed
  exact ⟨value, removed, blank, (silent blank).1, by decide +kernel⟩

/-- Not every scalar leaves the word to the manifest: where the configuration file holds true, the
manifest is not heard. -/
theorem scalar_not_silent : ¬ ∀ (h h' : Host) (start? : Option Text) (start fileName : Text)
    (directory : PlainPath) (value : Json),
    ScalarRemoved h h' start? start fileName directory value →
    (discover h' start? fileName).outcome = (discover h start? fileName).outcome := by
  intro silent
  have scalars (value : Json) (scalar : (!value.isContainer) = true) :
      value.isContainer = false := by
    simpa using scalar
  obtain ⟨value, -, removed⟩ := scalarRemoved_linkedFile "true".toList scalars
    (by decide +kernel) (by decide +kernel) (by decide +kernel)
  have same := congrArg (Except.map Discovery.source?) (silent _ _ _ _ _ _ _ removed)
  have differ : (discover (unlinkedFile "true".toList) none defaultFileName).outcome.map
        Discovery.source?
      ≠ (discover (linkedFile "true".toList) none defaultFileName).outcome.map
          Discovery.source? := by
    decide +kernel
  exact differ same

end ImportResolution.Configuration
