import ImportResolution.Alias.Entry
import ImportResolution.Proofs.Configuration.Decision
import ImportResolution.Proofs.Host.LineEnds
import ImportResolution.Proofs.Host.Linkless
import ImportResolution.Proofs.Path.Below

/-! The two carriers of a configuration. A text that is a value in the strict notation says the same
in the configuration file of a directory and as the section of its manifest, and discovery from
anywhere below ends alike but for the file that it names. What the relaxed notation reads otherwise
are pairs of surrogates that are both written as escapes. -/
namespace ImportResolution

namespace Configuration

open PlainPath (ofText)

variable {h h' : Host} {directory near : PlainPath} {fileName t start : Text} {v value : Json}
  {outcome : Except Fault Discovery}

/-! ### Paths in what a directory says -/

theorem path_of_failed_reading {parse : Text → Except ReadFault Json} {path other : Text}
    {fault : ContentFault} (read : reading h parse path = .failed (.configuration other fault)) :
    other = path := by
  unfold reading at read
  split at read
  · split at read
    · cases read
      rfl
    · split at read
      · rename_i refused _
        cases refused <;> cases read
        rfl
      · cases read
  · cases read
  · cases read
  · cases read

/-- A directory names one of its two files as the source of a value. -/
theorem source_of_said {source : Text} (said : Says h fileName near (.value value source)) :
    source = (near.join (ofText fileName)).toText ∨
      source = (near.join (ofText manifestName)).toText := by
  cases said with
  | file named read present => exact .inl rfl
  | manifest silent read held present => exact .inr rfl

/-- A directory blames one of its two files for a content that is no configuration. -/
theorem path_of_failed {path : Text} {fault : ContentFault}
    (decides : Decides h fileName near (.error (.configuration path fault))) :
    path = (near.join (ofText fileName)).toText ∨
      path = (near.join (ofText manifestName)).toText := by
  cases decides with
  | failed said =>
    cases said with
    | fileFailed named read => exact .inl (path_of_failed_reading read)
    | manifestFailed silent read => exact .inr (path_of_failed_reading read)

/-! ### The two hosts -/

/-- The host with a text as the configuration file of a directory. -/
def inFile (h : Host) (directory : PlainPath) (fileName t : Text) : Host :=
  { h with tree := h.tree.set (fileName :: directory.names.reverse) (.file (.text t)) }

/-- The host with a text as the section of the manifest of a directory, and without the
configuration file there. -/
def inManifest (h : Host) (directory : PlainPath) (fileName t : Text) : Host :=
  let without := h.tree.erase (fileName :: directory.names.reverse)
  let manifest : Node := .file (.text (Json.sectionText sectionMember t))
  { h with tree := without.set (manifestName :: directory.names.reverse) manifest }

/-- A directory of a tree without links can carry a text in either file: the name of the
configuration file is a name of its own, no directory is in the way of the manifest, both files can
be reached by their paths, and there is room for both to be read. -/
structure Carries (h : Host) (directory : PlainPath) (fileName t : Text) : Prop where
  linkless : h.tree.Linkless
  named : Path.IsName fileName
  other : fileName ≠ manifestName
  closed : h.tree.node? (manifestName :: directory.names.reverse) ≠ some .directory
  file : (inFile h directory fileName t).isFile (directory.child fileName).toText = true
  manifest : (inManifest h directory fileName t).isFile (directory.child manifestName).toText = true
  fileFits : h.room.outgrown (Host.unifyLineEnds t) = false
  manifestFits : Json.overflow? h.room.containers
    (Host.unifyLineEnds (Json.sectionText sectionMember t)) = none

/-- The places in which the two hosts differ. -/
def Changed (directory : PlainPath) (fileName : Text) (place : Place) : Prop :=
  place = fileName :: directory.names.reverse ∨ place = manifestName :: directory.names.reverse

theorem ne_nil_of_changed {place : Place} (changed : Changed directory fileName place) :
    place ≠ [] := by
  rcases changed with rfl | rfl <;> simp

theorem isName_manifestName : Path.IsName manifestName := by
  constructor <;> decide

theorem linkless_inFile (linkless : h.tree.Linkless) :
    (inFile h directory fileName t).tree.Linkless :=
  FileTree.linkless_set linkless (by simp) _

theorem linkless_inManifest (linkless : h.tree.Linkless) :
    (inManifest h directory fileName t).tree.Linkless :=
  FileTree.linkless_set (FileTree.linkless_erase linkless _) (by simp) _

theorem places_differ (carries : Carries h directory fileName t) :
    fileName :: directory.names.reverse ≠ manifestName :: directory.names.reverse := by
  simpa using carries.other

/-- Nothing stands in the place of the configuration file if the manifest carries the text. -/
theorem vacant_inManifest (carries : Carries h directory fileName t) :
    (inManifest h directory fileName t).tree.node? (fileName :: directory.names.reverse) = none := by
  simp only [inManifest]
  rw [FileTree.node?_set_of_ne _ _ (places_differ carries), FileTree.node?_erase]

/-- The two hosts differ in the two files alone. -/
theorem alikeBut_carriers (carries : Carries h directory fileName t) :
    (inFile h directory fileName t).tree.AlikeBut (inManifest h directory fileName t).tree
      (Changed directory fileName) where
  closed place changed := by
    rcases changed with rfl | rfl
    · simp [inFile]
    · simp only [inFile]
      rw [FileTree.node?_set_of_ne _ _ (places_differ carries).symm]
      exact carries.closed
  closed' place changed := by
    rcases changed with rfl | rfl
    · simp [vacant_inManifest carries]
    · simp [inManifest]
  elsewhere place outside := by
    have aside : place ≠ fileName :: directory.names.reverse := by
      rintro rfl
      exact outside _ (.inl rfl) (List.suffix_refl _)
    have aside' : place ≠ manifestName :: directory.names.reverse := by
      rintro rfl
      exact outside _ (.inr rfl) (List.suffix_refl _)
    simp only [inFile, inManifest]
    rw [FileTree.node?_set_of_ne _ _ aside', FileTree.node?_set_of_ne _ _ aside,
      FileTree.node?_erase_of_outside _ (outside _ (.inl rfl))]

/-! ### What the two hosts read -/

theorem reading_of_text {parse : Text → Except ReadFault Json} {path : Text} {place : Place}
    (found : h.lookup true path = .ok (place, .file (.text t)))
    (accepted : parse (Host.unifyLineEnds t) = .ok v) : reading h parse path = .value v := by
  simp only [reading, found, Host.contentText, accepted]

theorem reading_of_misses {parse : Text → Except ReadFault Json} {path : Text}
    {fault : FileTree.LookupFault} (misses : fault.Misses)
    (failed : h.lookup true path = .error fault) : reading h parse path = .absent := by
  rcases misses with rfl | rfl <;> simp only [reading, failed]

/-- A file in another place is read alike by both. -/
theorem reading_aside (carries : Carries h directory fileName t)
    (parse : Text → Except ReadFault Json) {p : PlainPath} (normal : p.Normal)
    (aside : ¬ Changed directory fileName p.names.reverse) :
    reading (inManifest h directory fileName t) parse p.toText
      = reading (inFile h directory fileName t) parse p.toText := by
  rcases Host.lookup_alike (linkless_inFile carries.linkless) (linkless_inManifest carries.linkless)
    (alikeBut_carriers carries) (fun _ => ne_nil_of_changed) normal.rooted normal.plain with
    same | ⟨fault, fault', misses, misses', failed, failed'⟩ | ⟨there, -⟩
  · simp only [reading, same]
  · rw [reading_of_misses misses failed, reading_of_misses misses' failed']
  · exact absurd there aside

/-- Strictly below the directory, both hosts read the same files. -/
theorem readings_below (carries : Carries h directory fileName t) (normal : near.Normal)
    {further : List Text} (some : further ≠ []) (below : near = directory.under further) :
    fileReading (inManifest h directory fileName t) near fileName
        = fileReading (inFile h directory fileName t) near fileName ∧
      manifestReading (inManifest h directory fileName t) near
        = manifestReading (inFile h directory fileName t) near := by
  have deeper : directory.names.length < near.names.length := by
    have := List.length_pos_iff.mpr some
    simp only [below, PlainPath.under, List.length_append]
    omega
  have aside (name : Text) : ¬ Changed directory fileName (near.child name).names.reverse := by
    rintro (same | same) <;>
    · have := congrArg List.length same
      simp at this
      omega
  simp only [fileReading, manifestReading, near.join_name carries.named,
    near.join_name isName_manifestName]
  exact ⟨reading_aside carries _ (PlainPath.normal_child normal carries.named) (aside _),
    reading_aside carries _ (PlainPath.normal_child normal isName_manifestName) (aside _)⟩

/-- The path of the configuration file leads to the text. -/
theorem lookup_inFile (carries : Carries h directory fileName t) (normal : directory.Normal) :
    (inFile h directory fileName t).lookup true (directory.child fileName).toText
      = .ok ((directory.child fileName).names.reverse, .file (.text t)) := by
  have below := PlainPath.normal_child normal carries.named
  exact Host.lookup_of_isFile (linkless_inFile carries.linkless) below.rooted below.plain
    carries.file (by simp [inFile])

/-- The configuration file is read, and as the same value if the text has no escaped pairs. -/
theorem fileReading_inFile (carries : Carries h directory fileName t) (normal : directory.Normal)
    (accepted : Json.parse t = .ok v) :
    ∃ v', fileReading (inFile h directory fileName t) directory fileName = .value v' ∧
      v'.isContainer = v.isContainer ∧ (Json.PairFree t → v' = v) := by
  obtain ⟨v', read, kind, same⟩ := Relaxed.parse_of_strict (Json.parse_unified accepted)
  refine ⟨v', ?_, kind, fun free => same (Json.pairFree_unified free)⟩
  rw [fileReading, directory.join_name carries.named]
  exact reading_of_text (lookup_inFile carries normal)
    (Room.parseRelaxed_eq_ok.mpr ⟨carries.fileFits, read⟩)

/-- Where the manifest carries the text there is no configuration file. -/
theorem fileReading_inManifest (carries : Carries h directory fileName t)
    (normal : directory.Normal) :
    fileReading (inManifest h directory fileName t) directory fileName = .absent := by
  have below := PlainPath.normal_child normal carries.named
  have vacant : (inManifest h directory fileName t).tree.node?
      (directory.child fileName).names.reverse = none := by
    simpa using vacant_inManifest carries
  rw [fileReading, directory.join_name carries.named]
  rcases Host.lookup_alike (linkless_inFile carries.linkless) (linkless_inManifest carries.linkless)
    (alikeBut_carriers carries) (fun _ => ne_nil_of_changed) below.rooted below.plain with
    same | ⟨fault, fault', misses, misses', failed, failed'⟩ | ⟨-, -, ended⟩
  · have there := FileTree.node?_of_lookup (same.trans (lookup_inFile carries normal))
    rw [vacant] at there
    cases there
  · exact reading_of_misses misses' failed'
  · rw [FileTree.run, vacant] at ended
    exact reading_of_misses (.inl rfl) ended

/-- The manifest is read as an object with the value as its section. -/
theorem manifestReading_inManifest (carries : Carries h directory fileName t)
    (normal : directory.Normal) (accepted : Json.parse t = .ok v) :
    manifestReading (inManifest h directory fileName t) directory
      = .value (.obj [(sectionMember, v)]) := by
  have below := PlainPath.normal_child normal isName_manifestName
  have stands : (inManifest h directory fileName t).tree.node?
      (directory.child manifestName).names.reverse
        = some (.file (.text (Json.sectionText sectionMember t))) := by
    simp [inManifest]
  have found := Host.lookup_of_isFile (linkless_inManifest carries.linkless) below.rooted below.plain
    carries.manifest stands
  have read := Json.parse_unified (Json.parse_sectionText sectionMember accepted)
  rw [manifestReading, directory.join_name isName_manifestName]
  exact reading_of_text found (Room.parse_eq_ok.mpr ⟨carries.manifestFits, read⟩)

/-! ### Agreement -/

/-- A discovery with one file in place of another as its source. -/
def Discovery.moveSource (file file' : Text) : Discovery → Discovery
  | .notListed => .notListed
  | .located ⟨entries, root, source?⟩ =>
    .located ⟨entries, root, if source? = some file then some file' else source?⟩

/-- What a directory decides stays as it is if one moves another directory's file. -/
theorem moveSource_of_decides {file file' : Text} (decides : Decides h fileName near outcome)
    (first : (near.join (ofText fileName)).toText ≠ file)
    (second : (near.join (ofText manifestName)).toText ≠ file) :
    outcome.map (Discovery.moveSource file file') = outcome := by
  cases decides with
  | failed said => rfl
  | notListed said container unlisted => rfl
  | @located value source listed said container lists =>
    have other : source ≠ file := by
      rcases source_of_said said with rfl | rfl
      · exact first
      · exact second
    simp [Except.map, Discovery.moveSource, other]

/-- What an object or an array decides, wherever it comes from. -/
theorem decides_of_said {source : Text} (said : Says h fileName directory (.value v source))
    (container : v.isContainer = true) :
    Decides h fileName directory (decide directory v source).outcome := by
  cases lists : plugin? v with
  | none =>
    have unlisted : ∀ listed, ¬ ListsFirst v listed := by
      intro listed first
      rw [listsFirst_iff, lists] at first
      cases first
    simpa [decide, lists, Except.bind] using Decides.notListed said container unlisted
  | some listed =>
    have first := listsFirst_iff.mpr lists
    simpa [decide, lists, Except.bind] using Decides.located said container first

/-- Decisions never fail, and name the source that they are told. -/
theorem outcome_decide (directory : PlainPath) (v : Json) (source source' : Text) :
    ∃ found, (decide directory v source).outcome = .ok found ∧
      (decide directory v source').outcome = .ok (found.moveSource source source') := by
  unfold decide
  cases plugin? v with
  | none => exact ⟨.notListed, rfl, rfl⟩
  | some listed =>
    refine ⟨.located ⟨entriesOf listed, directory.toText, some source⟩, rfl, ?_⟩
    simp [Discovery.moveSource, Except.bind]

/-- How discovery ends with either carrier: at a directory strictly below, which decides for both
alike, or at the directory itself, for the values that its two files are read as. -/
inductive Ends (h : Host) (start fileName t : Text) (directory : PlainPath)
    (found found' : Except Fault Discovery) : Prop where
  | below (further : List Text) (strictly : further ≠ [])
      (normal : (directory.under further).Normal) (member : directory.under further ∈ asked start)
      (decides : Decides (inFile h directory fileName t) fileName (directory.under further) found)
      (same : found' = found)
  | here (v v' : Json)
      (decided : found = (decide directory v (directory.join (ofText fileName)).toText).outcome)
      (decided' : found'
        = (decide directory v' (directory.join (ofText manifestName)).toText).outcome)
      (same : Json.PairFree t → v = v')

theorem startingPoint_inFile (carries : Carries h directory fileName t) (start? : Option Text) :
    (inFile h directory fileName t).startingPoint start? = h.startingPoint start? :=
  Host.startingPoint_linkless carries.linkless (linkless_inFile carries.linkless) rfl rfl start?

theorem startingPoint_inManifest (carries : Carries h directory fileName t)
    (start? : Option Text) :
    (inManifest h directory fileName t).startingPoint start? = h.startingPoint start? :=
  Host.startingPoint_linkless carries.linkless (linkless_inManifest carries.linkless) rfl rfl
    start?

/-- What is said strictly below the directory is said with either carrier. -/
theorem says_below (carries : Carries h directory fileName t) (normal : near.Normal)
    {further : List Text} (some : further ≠ []) (below : near = directory.under further)
    (saying : Saying) (said : Says (inFile h directory fileName t) fileName near saying) :
    Says (inManifest h directory fileName t) fileName near saying := by
  obtain ⟨file, manifest⟩ := readings_below carries normal some below
  exact says_congr file manifest said

theorem not_blank_of_container (container : v.isContainer = true) : ¬ Blank v := by
  simp [blank_iff, Json.isSet, container]

/-- With the text in the configuration file, the directory decides by the value that it is read
as. -/
theorem decides_inFile (carries : Carries h directory fileName t) (normal : directory.Normal)
    (accepted : Json.parse t = .ok v) (container : v.isContainer = true) :
    ∃ v', Decides (inFile h directory fileName t) fileName directory
        (decide directory v' (directory.join (ofText fileName)).toText).outcome ∧
      (Json.PairFree t → v' = v) := by
  obtain ⟨v', read, kind, same⟩ := fileReading_inFile carries normal accepted
  have container' : v'.isContainer = true := kind.trans container
  have said : Says (inFile h directory fileName t) fileName directory
      (.value v' (directory.join (ofText fileName)).toText) :=
    .file carries.named.nonempty read (not_blank_of_container container')
  exact ⟨v', decides_of_said said container', same⟩

/-- With the text in the manifest, the directory decides by its value. -/
theorem decides_inManifest (carries : Carries h directory fileName t) (normal : directory.Normal)
    (accepted : Json.parse t = .ok v) (container : v.isContainer = true) :
    Decides (inManifest h directory fileName t) fileName directory
      (decide directory v (directory.join (ofText manifestName)).toText).outcome := by
  have silent : Silent (inManifest h directory fileName t) fileName directory :=
    .absent (fileReading_inManifest carries normal)
  have said : Says (inManifest h directory fileName t) fileName directory
      (.value v (directory.join (ofText manifestName)).toText) :=
    .manifest silent (manifestReading_inManifest carries normal accepted) (by simp [Json.find?])
      (not_blank_of_container container)
  exact decides_of_said said container

theorem ends_of_carries {start? : Option Text} (carries : Carries h directory fileName t)
    (started : h.startingPoint start? = .ok start) (normalStart : (ofText start).Normal)
    (member : directory ∈ asked start) (accepted : Json.parse t = .ok v)
    (container : v.isContainer = true) :
    Ends h start fileName t directory
      (discover (inFile h directory fileName t) start? fileName).outcome
      (discover (inManifest h directory fileName t) start? fileName).outcome := by
  have startedFile := (startingPoint_inFile carries start?).trans started
  have startedManifest := (startingPoint_inManifest carries start?).trans started
  obtain ⟨names, down⟩ := PlainPath.exists_under member
  obtain ⟨nearer, way, below⟩ := directory.way_up names
  rw [down] at normalStart
  rw [← down] at way
  have normal : directory.Normal := by
    simpa [PlainPath.under] using PlainPath.normal_under normalStart List.nil_prefix
  -- with either carrier, all directories strictly below say the same
  have kept (near : PlainPath) (member : near ∈ nearer) (saying : Saying)
      (said : Says (inFile h directory fileName t) fileName near saying) :
      Says (inManifest h directory fileName t) fileName near saying := by
    obtain ⟨further, strictly, part, same⟩ := below near member
    exact says_below carries (same ▸ PlainPath.normal_under normalStart part) strictly same saying
      said
  rcases all_passed_or_decided (inFile h directory fileName t) fileName nearer with
    passed | ⟨nearest, near, farther, outcome, split, passed, decides⟩
  · obtain ⟨v', decides, same⟩ := decides_inFile carries normal accepted container
    have decides' := decides_inManifest carries normal accepted container
    have passed' : ∀ near ∈ nearer, Passes (inManifest h directory fileName t) fileName near :=
      fun near member => passes_of_kept (kept near member) (passed near member)
    exact .here v' v (outcome_of_discovers (.decided startedFile way passed decides))
      (outcome_of_discovers (.decided startedManifest way passed' decides')) same
  · have nearHere : near ∈ nearer := by simp [split]
    have way' : asked start = nearest ++ near :: (farther ++ directory :: directory.parents) := by
      rw [asked, way, split, List.append_assoc, List.cons_append]
    have passed' : ∀ other ∈ nearest, Passes (inManifest h directory fileName t) fileName other :=
      fun other member => passes_of_kept (kept other (by simp [split, member])) (passed other member)
    have decides' := decides_of_kept (kept near nearHere) decides
    have found := outcome_of_discovers (.decided startedFile way' passed decides)
    have found' := outcome_of_discovers (.decided startedManifest way' passed' decides')
    obtain ⟨further, strictly, part, rfl⟩ := below near nearHere
    refine .below further strictly (PlainPath.normal_under normalStart part) (by simp [way']) ?_ ?_
    · rwa [found]
    · rw [found, found']

/-- The two carriers of a configuration agree. From every start at a directory or below it, a text
that is an object or an array in the strict notation is found alike in the configuration file of the
directory and as the section of its manifest, but for the source, if it has no pair of escaped
surrogates. Whatever it has, discovery fails for both alike, a directory strictly below is to blame,
and never the text in the configuration file. -/
theorem carriers_agree {start? : Option Text} (carries : Carries h directory fileName t)
    (rooted : h.Rooted)
    (normal : ∀ path, h.directory? = some path → Path.normalize path = path)
    (started : h.startingPoint start? = .ok start) (member : directory ∈ asked start)
    (accepted : Json.parse t = .ok v) (container : v.isContainer = true) :
    (Json.PairFree t →
      (discover (inManifest h directory fileName t) start? fileName).outcome
        = (discover (inFile h directory fileName t) start? fileName).outcome.map
            (Discovery.moveSource (directory.join (ofText fileName)).toText
              (directory.join (ofText manifestName)).toText)) ∧
      (∀ fault,
        (discover (inManifest h directory fileName t) start? fileName).outcome = .error fault ↔
          (discover (inFile h directory fileName t) start? fileName).outcome = .error fault) ∧
      (∀ fault, (discover (inFile h directory fileName t) start? fileName).outcome = .error fault →
        ∃ further, further ≠ [] ∧ directory.under further ∈ asked start ∧
          Decides (inFile h directory fileName t) fileName (directory.under further)
            (.error fault)) ∧
      ∀ fault, (discover (inFile h directory fileName t) start? fileName).outcome
        ≠ .error (.configuration (directory.join (ofText fileName)).toText fault) := by
  have normalStart : (ofText start).Normal :=
    PlainPath.normal_ofText (Host.isAbsolute_startingPoint rooted started)
      (Host.normalize_startingPoint rooted normal started)
  have ends := ends_of_carries carries started normalStart member accepted container
  generalize (discover (inFile h directory fileName t) start? fileName).outcome = found,
    (discover (inManifest h directory fileName t) start? fileName).outcome = found' at ends ⊢
  cases ends with
  | here v v' decided decided' same =>
    obtain ⟨outcome, named, named'⟩ := outcome_decide directory v
      (directory.join (ofText fileName)).toText (directory.join (ofText manifestName)).toText
    obtain ⟨other, ended, -⟩ := outcome_decide directory v'
      (directory.join (ofText manifestName)).toText []
    refine ⟨fun free => ?_, ?_, ?_, ?_⟩
    · rw [decided, decided', ← same free, named, named']
      rfl
    all_goals simp [decided, named, decided', ended]
  | below further strictly normal member decides same =>
    subst same
    have normalHere : directory.Normal := by
      simpa [PlainPath.under] using PlainPath.normal_under normal List.nil_prefix
    have apart {name : Text} (valid : Path.IsName name) :
        ((directory.under further).join (ofText name)).toText
          ≠ (directory.join (ofText fileName)).toText :=
      PlainPath.join_under_ne normalHere normal strictly valid carries.named
    refine ⟨fun _ => ?_, fun fault => Iff.rfl, ?_, ?_⟩
    · exact (moveSource_of_decides decides (apart carries.named) (apart isName_manifestName)).symm
    · rintro fault rfl
      exact ⟨further, strictly, member, decides⟩
    · rintro fault rfl
      rcases path_of_failed decides with blamed | blamed
      · exact apart carries.named blamed.symm
      · exact apart isName_manifestName blamed.symm

/-- A project without a configuration, but for a scalar below its top. -/
def unconfigured : Host :=
  ⟨⟨[(Place.ofPath "/p/app/package.json".toList, .file (.text "\x7b\"babel\": 1\x7d".toList)),
    (Place.ofPath "/p/app".toList, .directory),
    (Place.ofPath "/p/package.json".toList, .file (.text "\x7b\x7d".toList)),
    (Place.ofPath "/p".toList, .directory)]⟩, some "/p".toList, .usual⟩

/-- A configuration with one sign, which is spelled as given. -/
def signSpelled (spelling : Text) : Text :=
  "\x7b\"plugins\": [[\"root-import\", \x7b\"rootPathPrefix\": \"".toList ++ spelling
    ++ "\"\x7d]]\x7d".toList

/-- The signs of the entries that were located, and their source. -/
def Discovery.outline : Discovery → List (Option Text) × Option Text
  | .notListed => ([], none)
  | .located ⟨entries, _, source?⟩ => (entries.map fun entry =>
    match entry.member? AliasEntry.signMember with
    | some (.str sign) => some sign
    | _ => none, source?)

theorem carries_unconfigured {spelling : Text}
    (file : (inFile unconfigured (ofText "/p".toList) defaultFileName
      (signSpelled spelling)).isFile "/p/.babelrc".toList = true)
    (manifest : (inManifest unconfigured (ofText "/p".toList) defaultFileName
      (signSpelled spelling)).isFile "/p/package.json".toList = true)
    (fileFits : Room.usual.outgrown (Host.unifyLineEnds (signSpelled spelling)) = false)
    (manifestFits : Json.overflow? Room.usual.containers
      (Host.unifyLineEnds (Json.sectionText sectionMember (signSpelled spelling))) = none) :
    Carries unconfigured (ofText "/p".toList) defaultFileName (signSpelled spelling) where
  linkless := by
    intro place target member
    simp [unconfigured] at member
  named := by constructor <;> decide
  other := by decide
  closed := by decide
  file := file
  manifest := manifest
  fileFits := fileFits
  manifestFits := manifestFits

theorem rooted_unconfigured : unconfigured.Rooted := by
  rintro directory ⟨⟩
  decide

theorem normal_unconfigured :
    ∀ path, unconfigured.directory? = some path → Path.normalize path = path := by
  rintro path ⟨⟩
  decide

theorem exists_container_of_map {outcome : Except Json.Fault Json}
    (read : outcome.map Json.isContainer = .ok true) :
    ∃ v, outcome = .ok v ∧ v.isContainer = true :=
  Except.map_eq_ok.mp read

/-- From a directory below, which is passed, a sign is found in the one file as in the other. -/
theorem carriers_agree_below :
    (discover (inFile unconfigured (ofText "/p".toList) defaultFileName (signSpelled "é".toList))
        (some "app".toList) defaultFileName).outcome.map Discovery.outline
      = .ok ([some "é".toList], some "/p/.babelrc".toList) ∧
    (discover (inManifest unconfigured (ofText "/p".toList) defaultFileName
        (signSpelled "é".toList)) (some "app".toList) defaultFileName).outcome
      = (discover (inFile unconfigured (ofText "/p".toList) defaultFileName
          (signSpelled "é".toList)) (some "app".toList) defaultFileName).outcome.map
            (Discovery.moveSource "/p/.babelrc".toList "/p/package.json".toList) := by
  have read : (Json.parse (signSpelled "é".toList)).map Json.isContainer = .ok true := by
    decide +kernel
  obtain ⟨v, accepted, container⟩ := exists_container_of_map read
  have started : unconfigured.startingPoint (some "app".toList) = .ok "/p/app".toList := by
    decide +kernel
  have carries := @carries_unconfigured "é".toList (by decide +kernel) (by decide +kernel)
    (by decide +kernel) (by decide +kernel)
  obtain ⟨agree, -⟩ := carriers_agree carries rooted_unconfigured normal_unconfigured started
    (by decide +kernel) accepted container
  exact ⟨by decide +kernel, agree (Json.pairFree_of_plain (by decide))⟩

/-- An escaped pair makes a difference: the manifest has the character, and the configuration file
two halves that are no characters. -/
theorem carriers_differ : ¬ ∀ (h : Host) (directory : PlainPath) (fileName t start : Text)
    (start? : Option Text) (v : Json), Carries h directory fileName t → h.Rooted →
    (∀ path, h.directory? = some path → Path.normalize path = path) →
    h.startingPoint start? = .ok start → directory ∈ asked start → Json.parse t = .ok v →
    v.isContainer = true →
    (discover (inManifest h directory fileName t) start? fileName).outcome
      = (discover (inFile h directory fileName t) start? fileName).outcome.map
          (Discovery.moveSource (directory.join (ofText fileName)).toText
            (directory.join (ofText manifestName)).toText) := by
  intro agrees
  have read : (Json.parse (signSpelled "\\ud83d\\ude00".toList)).map Json.isContainer
      = .ok true := by decide +kernel
  obtain ⟨v, accepted, container⟩ := exists_container_of_map read
  have started : unconfigured.startingPoint (some "/p".toList) = .ok "/p".toList := by
    decide +kernel
  have carries := @carries_unconfigured "\\ud83d\\ude00".toList (by decide +kernel)
    (by decide +kernel) (by decide +kernel) (by decide +kernel)
  have same := agrees unconfigured (ofText "/p".toList) defaultFileName _ "/p".toList _ v carries
    rooted_unconfigured normal_unconfigured started (by decide +kernel) accepted container
  have differ : (discover (inManifest unconfigured (ofText "/p".toList) defaultFileName
        (signSpelled "\\ud83d\\ude00".toList)) (some "/p".toList) defaultFileName).outcome.map
          Discovery.outline
      ≠ ((discover (inFile unconfigured (ofText "/p".toList) defaultFileName
          (signSpelled "\\ud83d\\ude00".toList)) (some "/p".toList) defaultFileName).outcome.map
            (Discovery.moveSource ((ofText "/p".toList).join (ofText defaultFileName)).toText
              ((ofText "/p".toList).join (ofText manifestName)).toText)).map Discovery.outline := by
    decide +kernel
  exact differ (congrArg (Except.map Discovery.outline) same)

end Configuration
end ImportResolution
