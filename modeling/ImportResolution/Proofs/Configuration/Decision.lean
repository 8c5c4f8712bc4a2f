import ImportResolution.Configuration.Discovery
import ImportResolution.Proofs.Host.Room

/-! The directory that decides. What a directory says about the configuration is stated here rule by
rule, from what its two files hold, and without the steps in which discovery asks for them.
Discovery gives what the nearest directory says that decides anything, be it a fault. -/
namespace ImportResolution.Configuration

/-- How reading a file as a value ends, if there is one. -/
inductive Reading where
  | absent
  | failed (fault : Fault)
  | value (value : Json)

/-- The file at a path, read in a notation. What is no regular file counts as absent; a name that is
too long, a file that may not be read, octets that are no text and a text that is no value are
faults, each with the path; so is a text for which there is no room, but without the path. -/
def reading (h : Host) (parse : Text → Except ReadFault Json) (path : Text) : Reading :=
  match h.lookup true path with
  | .ok (_, .file content) =>
    match Host.contentText content with
    | .error fault => .failed (.configuration path (.encoding fault))
    | .ok text =>
      match parse text with
      | .error fault => .failed (fault.toFault path)
      | .ok value => .value value
  | .ok (_, .sealedFile) => .failed (.system .denied (some path))
  | .error .nameTooLong => .failed (.system .nameTooLong (some path))
  | _ => .absent

/-- The configuration file of a directory, in the relaxed notation. -/
def fileReading (h : Host) (directory : PlainPath) (fileName : Text) : Reading :=
  reading h h.room.parseRelaxed (directory.join (.ofText fileName)).toText

/-- The manifest of a directory, in the strict notation. -/
def manifestReading (h : Host) (directory : PlainPath) : Reading :=
  reading h h.room.parse (directory.join (.ofText manifestName)).toText

/-- The values that count as absent. -/
inductive Blank : Json → Prop where
  | null : Blank .null
  | no : Blank (.bool false)
  | zero : Blank (.int 0)
  | fraction (zero : value.isZero = true) : Blank (.float value)
  | empty : Blank (.str [])

/-- The configuration file leaves the word to the manifest: its name is empty, it is absent, or its
value counts as absent. -/
inductive Silent (h : Host) (fileName : Text) (directory : PlainPath) : Prop where
  | unnamed (unnamed : fileName = [])
  | absent (read : fileReading h directory fileName = .absent)
  | blank (read : fileReading h directory fileName = .value value) (blank : Blank value)

/-- What a directory says: nothing, a fault, or a value and the file that supplied it. -/
inductive Saying where
  | nothing
  | failed (fault : Fault)
  | value (value : Json) (source : Text)

/-- What the two files of a directory say together. The manifest is heard only if the configuration
file is silent, and only its section counts. -/
inductive Says (h : Host) (fileName : Text) (directory : PlainPath) : Saying → Prop where
  | fileFailed (named : fileName ≠ []) (read : fileReading h directory fileName = .failed fault) :
      Says h fileName directory (.failed fault)
  | file (named : fileName ≠ []) (read : fileReading h directory fileName = .value value)
      (present : ¬ Blank value) :
      Says h fileName directory (.value value (directory.join (.ofText fileName)).toText)
  | manifestFailed (silent : Silent h fileName directory)
      (read : manifestReading h directory = .failed fault) :
      Says h fileName directory (.failed fault)
  | manifest (silent : Silent h fileName directory)
      (read : manifestReading h directory = .value (.obj members))
      (held : Json.find? members sectionMember = some value) (present : ¬ Blank value) :
      Says h fileName directory (.value value (directory.join (.ofText manifestName)).toText)
  | noManifest (silent : Silent h fileName directory)
      (read : manifestReading h directory = .absent) : Says h fileName directory .nothing
  | noSection (silent : Silent h fileName directory)
      (read : manifestReading h directory = .value value)
      (blank : ∀ entry, value.member? sectionMember = some entry → Blank entry) :
      Says h fileName directory .nothing

/-- A listed plugin is ours if it is one of our names, or an array that starts with one. -/
inductive Ours : Json → Prop where
  | bare (name : Text) (known : name ∈ pluginNames) : Ours (.str name)
  | array (name : Text) (known : name ∈ pluginNames) (rest : List Json) :
      Ours (.arr (.str name :: rest))

/-- A configuration lists this plugin as the first one of ours. -/
def ListsFirst (configuration listed : Json) : Prop :=
  ∃ members before after, configuration = .obj members ∧
    Json.find? members pluginsMember = some (.arr (before ++ listed :: after)) ∧
    Ours listed ∧ ∀ other ∈ before, ¬ Ours other

/-- A directory decides by a fault, or by an object or an array: against any alias if that does not
list the plugin, and otherwise for the entries of the first plugin listed, with the directory as
their root. -/
inductive Decides (h : Host) (fileName : Text) (directory : PlainPath) :
    Except Fault Discovery → Prop where
  | failed (said : Says h fileName directory (.failed fault)) :
      Decides h fileName directory (.error fault)
  | notListed (said : Says h fileName directory (.value value source))
      (container : value.isContainer = true) (unlisted : ∀ listed, ¬ ListsFirst value listed) :
      Decides h fileName directory (.ok .notListed)
  | located (said : Says h fileName directory (.value value source))
      (container : value.isContainer = true) (lists : ListsFirst value listed) :
      Decides h fileName directory
        (.ok (.located ⟨entriesOf listed, directory.toText, some source⟩))

/-- A directory that says nothing, or nothing but a scalar, is passed. -/
inductive Passes (h : Host) (fileName : Text) (directory : PlainPath) : Prop where
  | nothing (said : Says h fileName directory .nothing)
  | scalar (said : Says h fileName directory (.value value source))
      (scalar : value.isContainer = false)

/-- The directories that discovery asks in turn. -/
def asked (start : Text) : List PlainPath :=
  PlainPath.ofText start :: (PlainPath.ofText start).parents

theorem slashes_of_mem_asked {start : Text} {directory : PlainPath}
    (member : directory ∈ asked start) :
    directory.slashes = (PlainPath.ofText start).slashes := by
  rcases List.mem_cons.mp member with rfl | above
  · rfl
  · obtain ⟨names, -, rfl⟩ := List.mem_map.mp above
    rfl

/-- What discovery finds: the refusal of the start, the decision of the nearest directory that makes
one, or no entries at all for the start. -/
inductive Discovers (h : Host) (start? : Option Text) (fileName : Text) :
    Except Fault Discovery → Prop where
  | unstarted (refused : h.startingPoint start? = .error fault) :
      Discovers h start? fileName (.error fault)
  | decided (started : h.startingPoint start? = .ok start)
      (way : asked start = nearer ++ directory :: farther)
      (passed : ∀ near ∈ nearer, Passes h fileName near)
      (decides : Decides h fileName directory outcome) : Discovers h start? fileName outcome
  | undecided (started : h.startingPoint start? = .ok start)
      (passed : ∀ near ∈ asked start, Passes h fileName near) :
      Discovers h start? fileName (.ok (.located ⟨[], (PlainPath.ofText start).toText, none⟩))

variable {h : Host} {fileName start : Text} {directory : PlainPath} {value listed : Json}
  {first second : Saying} {outcome : Except Fault Discovery}

theorem blank_iff : Blank value ↔ value.isSet = false := by
  constructor
  · rintro (_ | _ | _ | zero | _)
    · rfl
    · rfl
    · rfl
    · simp [Json.isSet, Json.isContainer, Json.truthy, zero]
    · rfl
  · intro unset
    cases value with
    | null => exact .null
    | bool value => cases value with
      | false => exact .no
      | true => cases unset
    | int value =>
      have : value = 0 := by simpa [Json.isSet, Json.isContainer, Json.truthy] using unset
      exact this ▸ .zero
    | float value =>
      exact .fraction (by simpa [Json.isSet, Json.isContainer, Json.truthy] using unset)
    | str value =>
      have : value = [] := by simpa [Json.isSet, Json.isContainer, Json.truthy] using unset
      exact this ▸ .empty
    | arr items => cases unset
    | obj members => cases unset

/-- Asking whether there is a regular file and then reading it amounts to one reading. -/
theorem reading_eq (h : Host) (parse : Text → Except ReadFault Json) (path : Text) :
    reading h parse path = match h.hasFile path with
      | .error fault => .failed fault
      | .ok false => .absent
      | .ok true =>
        match h.readText path with
        | .error fault => .failed (fault.toFault path)
        | .ok text =>
          match parse text with
          | .error fault => .failed (fault.toFault path)
          | .ok value => .value value := by
  unfold reading Host.hasFile Host.readText
  cases h.lookup true path with
  | error fault => cases fault <;> rfl
  | ok found =>
    obtain ⟨place, node⟩ := found
    cases node with
    | file content =>
      simp only [Node.isFile]
      cases Host.contentText content <;> rfl
    | _ => rfl

/-- A value is what a notation makes of the text of a regular file. -/
theorem file_of_reading {parse : Text → Except ReadFault Json} {path : Text}
    (read : reading h parse path = .value value) :
    ∃ place content text, h.lookup true path = .ok (place, .file content) ∧
      Host.contentText content = .ok text ∧ parse text = .ok value := by
  unfold reading at read
  split at read
  · rename_i place content found
    split at read
    · cases read
    · rename_i text decoded
      split at read
      · cases read
      · rename_i parsed
        cases read
        exact ⟨place, content, text, found, decoded, parsed⟩
  all_goals cases read

theorem outcome_fromFile (named : fileName ≠ []) :
    (fromFile h directory fileName).outcome = match fileReading h directory fileName with
      | .absent => .ok none
      | .failed fault => .error fault
      | .value value => .ok (some (value, (directory.join (.ofText fileName)).toText)) := by
  have : fileName.isEmpty = false := by simpa using named
  simp only [fromFile, fileReading, reading_eq, this, Bool.false_eq_true, if_false]
  generalize (directory.join (.ofText fileName)).toText = path
  cases h.hasFile path with
  | error fault => rfl
  | ok held =>
    cases held with
    | false => rfl
    | true =>
      simp only [Traced.outcome_bind, Traced.outcome_report, Except.bind, Host.readRelaxed]
      cases h.readText path with
      | error fault => rfl
      | ok text =>
        simp only
        cases h.room.parseRelaxed text <;> rfl

theorem outcome_fromManifest (h : Host) (directory : PlainPath) :
    (fromManifest h directory).outcome = match manifestReading h directory with
      | .absent => .ok none
      | .failed fault => .error fault
      | .value manifest =>
        match manifest.member? sectionMember with
        | none => .ok none
        | some value =>
          if value.isSet then
            .ok (some (value, (directory.join (.ofText manifestName)).toText))
          else .ok none := by
  simp only [fromManifest, manifestReading, reading_eq]
  generalize (directory.join (.ofText manifestName)).toText = path
  cases h.hasFile path with
  | error fault => rfl
  | ok held =>
    cases held with
    | false => rfl
    | true =>
      simp only [Host.readJson]
      cases h.readText path with
      | error fault => rfl
      | ok text =>
        simp only
        cases h.room.parse text with
        | error fault => rfl
        | ok manifest =>
          simp only
          cases manifest.member? sectionMember with
          | none => rfl
          | some value =>
            simp only
            cases value.isSet <;> rfl

/-- What the outcome of asking a directory for the value in effect says. -/
def Saying.ofOutcome : Except Fault (Option (Json × Text)) → Saying
  | .error fault => .failed fault
  | .ok none => .nothing
  | .ok (some (value, source)) => .value value source

/-- A silent configuration file leaves the outcome to the manifest. -/
theorem outcome_of_silent (silent : Silent h fileName directory) :
    (inEffect h directory fileName).outcome = (fromManifest h directory).outcome := by
  simp only [inEffect, Traced.outcome_bind]
  by_cases named : fileName = []
  · have unasked : (fromFile h directory fileName).outcome = .ok none := by
      simp [fromFile, named, Traced.answer]
    rw [unasked]
    rfl
  · rw [outcome_fromFile named]
    cases silent with
    | unnamed unnamed => exact absurd unnamed named
    | absent read =>
      rw [read]
      rfl
    | blank read blank =>
      rw [read]
      simp [Except.bind, blank_iff.mp blank]

/-- A configuration file that is heard decides the outcome, whatever the manifest holds. -/
theorem outcome_of_file (named : fileName ≠ [])
    (read : fileReading h directory fileName = .value value) (present : ¬ Blank value) :
    (inEffect h directory fileName).outcome
      = .ok (some (value, (directory.join (.ofText fileName)).toText)) := by
  have set : value.isSet = true := by simpa [blank_iff] using present
  simp only [inEffect, Traced.outcome_bind, outcome_fromFile named, read, Except.bind, set, if_true]
  rfl

/-- What a directory says is the outcome of asking it. -/
theorem outcome_of_said {saying : Saying} (said : Says h fileName directory saying) :
    .ofOutcome (inEffect h directory fileName).outcome = saying := by
  cases said with
  | fileFailed named read =>
    simp [inEffect, outcome_fromFile named, read, Except.bind, Saying.ofOutcome]
  | file named read present => rw [outcome_of_file named read present, Saying.ofOutcome]
  | manifestFailed silent read =>
    rw [outcome_of_silent silent, outcome_fromManifest, read, Saying.ofOutcome]
  | @manifest members value silent read held present =>
    have set : value.isSet = true := by simpa [blank_iff] using present
    rw [outcome_of_silent silent, outcome_fromManifest, read]
    simp [Json.member?, held, set, Saying.ofOutcome]
  | noManifest silent read =>
    rw [outcome_of_silent silent, outcome_fromManifest, read, Saying.ofOutcome]
  | @noSection manifest silent read blank =>
    rw [outcome_of_silent silent, outcome_fromManifest, read]
    cases held : manifest.member? sectionMember with
    | none => simp [held, Saying.ofOutcome]
    | some entry => simp [held, blank_iff.mp (blank entry held), Saying.ofOutcome]

theorem says_unique (said : Says h fileName directory first)
    (again : Says h fileName directory second) : first = second :=
  (outcome_of_said said).symm.trans (outcome_of_said again)

/-- A directory that is passed decides nothing. -/
theorem not_decides_of_passes (passes : Passes h fileName directory) :
    ¬ Decides h fileName directory outcome := by
  intro decides
  cases passes with
  | nothing said =>
    cases decides with
    | failed other | notListed other | located other => cases says_unique said other
  | scalar said scalar =>
    cases decides with
    | failed other => cases says_unique said other
    | notListed other container | located other container =>
      cases says_unique said other
      cases scalar.symm.trans container

/-- Every directory says something. -/
theorem exists_saying (h : Host) (fileName : Text) (directory : PlainPath) :
    ∃ saying, Says h fileName directory saying := by
  have silent_said (silent : Silent h fileName directory) :
      ∃ saying, Says h fileName directory saying := by
    cases read : manifestReading h directory with
    | absent => exact ⟨_, .noManifest silent read⟩
    | failed fault => exact ⟨_, .manifestFailed silent read⟩
    | value manifest =>
      by_cases blank : ∀ entry, manifest.member? sectionMember = some entry → Blank entry
      · exact ⟨_, .noSection silent read blank⟩
      · obtain ⟨entry, held, present⟩ : ∃ entry,
            manifest.member? sectionMember = some entry ∧ ¬ Blank entry := by
          simpa using blank
        cases manifest with
        | obj members => exact ⟨_, .manifest silent read held present⟩
        | _ => cases held
  by_cases named : fileName = []
  · exact silent_said (.unnamed named)
  · cases read : fileReading h directory fileName with
    | absent => exact silent_said (.absent read)
    | failed fault => exact ⟨_, .fileFailed named read⟩
    | value value =>
      by_cases blank : Blank value
      · exact silent_said (.blank read blank)
      · exact ⟨_, .file named read blank⟩

theorem ours_iff : Ours listed ↔ isPlugin listed = true := by
  constructor
  · rintro (⟨name, known⟩ | ⟨name, known, rest⟩) <;> simpa [isPlugin, nameOf?] using known
  · intro plugin
    match listed with
    | .str name => exact .bare name (by simpa [isPlugin, nameOf?] using plugin)
    | .arr (.str name :: rest) => exact .array name (by simpa [isPlugin, nameOf?] using plugin) rest

theorem listsFirst_iff : ListsFirst value listed ↔ plugin? value = some listed := by
  constructor
  · rintro ⟨members, before, after, rfl, held, ours, others⟩
    simp only [plugin?, Json.member?, held, List.find?_eq_some_iff_append]
    refine ⟨ours_iff.mp ours, before, after, rfl, ?_⟩
    intro other member
    simpa [ours_iff] using others other member
  · intro found
    unfold plugin? at found
    split at found
    · rename_i plugins held
      obtain ⟨plugin, before, after, rfl, others⟩ := List.find?_eq_some_iff_append.mp found
      cases value with
      | obj members =>
        refine ⟨members, before, after, rfl, held, ours_iff.mpr plugin, ?_⟩
        intro other member
        simpa [ours_iff] using others other member
      | _ => cases held
    · cases found

/-- Discovery does with a directory what the directory says. -/
theorem outcome_discoverIn (directory : PlainPath) (rest : List PlainPath) :
    (discoverIn h fileName start (directory :: rest)).outcome
      = match Saying.ofOutcome (inEffect h directory fileName).outcome with
        | .failed fault => .error fault
        | .nothing => (discoverIn h fileName start rest).outcome
        | .value value source =>
          if value.isContainer then (decide directory value source).outcome
          else (discoverIn h fileName start rest).outcome := by
  simp only [discoverIn, ofDirectory, Traced.outcome_bind]
  cases (inEffect h directory fileName).outcome with
  | error fault => rfl
  | ok said =>
    match said with
    | none => rfl
    | some (value, source) =>
      simp only [Except.bind, Saying.ofOutcome]
      cases value.isContainer <;> rfl

theorem discoverIn_of_passes (passes : Passes h fileName directory) (rest : List PlainPath) :
    (discoverIn h fileName start (directory :: rest)).outcome
      = (discoverIn h fileName start rest).outcome := by
  cases passes with
  | nothing said => rw [outcome_discoverIn, outcome_of_said said]
  | scalar said scalar => simp [outcome_discoverIn, outcome_of_said said, scalar]

theorem discoverIn_of_decides (decides : Decides h fileName directory outcome)
    (rest : List PlainPath) :
    (discoverIn h fileName start (directory :: rest)).outcome = outcome := by
  cases decides with
  | failed said => rw [outcome_discoverIn, outcome_of_said said]
  | @notListed value source said container unlisted =>
    have absent : plugin? value = none := by
      cases found : plugin? value with
      | none => rfl
      | some listed => exact absurd (listsFirst_iff.mpr found) (unlisted listed)
    rw [outcome_discoverIn, outcome_of_said said]
    simp only [container, if_true, decide, absent]
    rfl
  | located said container lists =>
    rw [outcome_discoverIn, outcome_of_said said]
    simp only [container, if_true, decide, listsFirst_iff.mp lists]
    rfl

/-- A directory is passed or decides. -/
theorem passes_or_decides (h : Host) (fileName : Text) (directory : PlainPath) :
    Passes h fileName directory ∨ ∃ outcome, Decides h fileName directory outcome := by
  obtain ⟨saying, said⟩ := exists_saying h fileName directory
  cases saying with
  | nothing => exact .inl (.nothing said)
  | failed fault => exact .inr ⟨_, .failed said⟩
  | value value source =>
    cases container : value.isContainer with
    | false => exact .inl (.scalar said container)
    | true =>
      by_cases lists : ∃ listed, ListsFirst value listed
      · obtain ⟨listed, lists⟩ := lists
        exact .inr ⟨_, .located said container lists⟩
      · exact .inr ⟨_, .notListed said container (fun listed first => lists ⟨listed, first⟩)⟩

theorem discoverIn_of_all_passed (start : Text) (nearer rest : List PlainPath)
    (passed : ∀ near ∈ nearer, Passes h fileName near) :
    (discoverIn h fileName start (nearer ++ rest)).outcome
      = (discoverIn h fileName start rest).outcome := by
  induction nearer with
  | nil => rfl
  | cons near nearer ih =>
    rw [List.cons_append, discoverIn_of_passes (passed near (by simp)),
      ih (fun near member => passed near (by simp [member]))]

/-- Of any directories either all are passed or a nearest one decides. -/
theorem all_passed_or_decided (h : Host) (fileName : Text) (directories : List PlainPath) :
    (∀ near ∈ directories, Passes h fileName near) ∨
      ∃ nearer directory farther outcome, directories = nearer ++ directory :: farther ∧
        (∀ near ∈ nearer, Passes h fileName near) ∧ Decides h fileName directory outcome := by
  induction directories with
  | nil => exact .inl (by simp)
  | cons directory rest ih =>
    rcases passes_or_decides h fileName directory with passes | ⟨outcome, decides⟩
    · rcases ih with passed | ⟨nearer, further, farther, outcome, rfl, passed, decides⟩
      · refine .inl ?_
        intro near member
        rcases List.mem_cons.mp member with rfl | member
        · exact passes
        · exact passed near member
      · refine .inr ⟨directory :: nearer, further, farther, outcome, rfl, ?_, decides⟩
        intro near member
        rcases List.mem_cons.mp member with rfl | member
        · exact passes
        · exact passed near member
    · exact .inr ⟨[], directory, rest, outcome, rfl, by simp, decides⟩

theorem outcome_of_discovers {start? : Option Text} (found : Discovers h start? fileName outcome) :
    (discover h start? fileName).outcome = outcome := by
  cases found with
  | unstarted refused => simp [discover, refused]
  | decided started way passed decides =>
    unfold asked at way
    simp only [discover, started, way, discoverIn_of_all_passed _ _ _ passed,
      discoverIn_of_decides decides]
  | @undecided start started passed =>
    have all := discoverIn_of_all_passed (PlainPath.ofText start).toText _ [] passed
    rw [List.append_nil] at all
    simp only [discover, started]
    exact all

theorem exists_discovers (h : Host) (start? : Option Text) (fileName : Text) :
    ∃ outcome, Discovers h start? fileName outcome := by
  cases started : h.startingPoint start? with
  | error fault => exact ⟨_, .unstarted started⟩
  | ok start =>
    rcases all_passed_or_decided h fileName (asked start) with
      passed | ⟨nearer, directory, farther, outcome, way, passed, decides⟩
    · exact ⟨_, .undecided started passed⟩
    · exact ⟨_, .decided started way passed decides⟩

/-- Discovery always gives what is to be found. -/
theorem discovers_outcome (h : Host) (start? : Option Text) (fileName : Text) :
    Discovers h start? fileName (discover h start? fileName).outcome := by
  obtain ⟨outcome, found⟩ := exists_discovers h start? fileName
  rwa [outcome_of_discovers found]

/-- The nearest directory that decides determines the outcome of discovery alone, be it a fault; and
if none decides, there are no entries for the start. A text that is no value is the fault of a
configuration and comes with its path, if there is room to read up to what is wrong with it. -/
theorem discover_eq_iff (h : Host) (start? : Option Text) (fileName : Text)
    (outcome : Except Fault Discovery) :
    (discover h start? fileName).outcome = outcome ↔ Discovers h start? fileName outcome := by
  constructor
  · rintro rfl
    exact discovers_outcome h start? fileName
  · exact outcome_of_discovers

/-- A directory with a manifest that opens a thousand brackets. -/
def bracketed : Host :=
  ⟨⟨[(Place.ofPath "/p/package.json".toList, .file (.text (List.replicate 1000 '['))),
    (Place.ofPath "/p".toList, .directory)]⟩, some "/".toList, .usual⟩

/-- Not every manifest that is no JSON is reported with its path: there is no room to read so many
brackets, and the fault that says so has none. -/
theorem brackets_not_reported : ¬ ∀ (h : Host) (start text : Text) (place : Place)
    (fault : Json.Fault), h.startingPoint (some start) = .ok start →
      h.lookup true ((PlainPath.ofText start).join (.ofText manifestName)).toText
        = .ok (place, .file (.text text)) →
      Json.parse text = .error fault →
      (discover h (some start) []).outcome
        = .error (.configuration ((PlainPath.ofText start).join (.ofText manifestName)).toText
            (.strict fault text)) := by
  intro reported
  have started : bracketed.startingPoint (some "/p".toList) = .ok "/p".toList := by decide +kernel
  have held : bracketed.lookup true
      ((PlainPath.ofText "/p".toList).join (.ofText manifestName)).toText
        = .ok (Place.ofPath "/p/package.json".toList, .file (.text (List.replicate 1000 '['))) := by
    decide +kernel
  have ended : (discover bracketed (some "/p".toList) []).outcome.map (fun _ => ())
      = .error (.exhausted (.container .array)) := by
    decide +kernel
  have same := reported bracketed _ _ _ _ started held (Json.parse_brackets 1000)
  rw [same] at ended
  cases ended

/-- The root of a configuration that is located is one of the directories asked. -/
theorem root_of_located {start? : Option Text} {configuration : Located}
    (started : h.startingPoint start? = .ok start)
    (found : (discover h start? fileName).outcome = .ok (.located configuration)) :
    ∃ directory ∈ asked start, configuration.root = directory.toText := by
  have discovers := discovers_outcome h start? fileName
  rw [found] at discovers
  cases discovers with
  | decided started' way passed decides =>
    rw [started] at started'
    cases started'
    cases decides
    exact ⟨_, by simp [way], rfl⟩
  | undecided started' passed =>
    rw [started] at started'
    cases started'
    exact ⟨_, List.mem_cons_self .., rfl⟩

/-! ### Two hosts -/

section
variable {h' : Host} {near : PlainPath} {fileName' : Text}

theorem silent_congr (file : fileReading h' near fileName = fileReading h near fileName)
    (silent : Silent h fileName near) : Silent h' fileName near := by
  cases silent with
  | unnamed unnamed => exact .unnamed unnamed
  | absent read => exact .absent (file.trans read)
  | blank read blank => exact .blank (file.trans read) blank

/-- What a directory says is a matter of its two files. -/
theorem says_congr {saying : Saying}
    (file : fileReading h' near fileName = fileReading h near fileName)
    (manifest : manifestReading h' near = manifestReading h near)
    (said : Says h fileName near saying) : Says h' fileName near saying := by
  have kept : Silent h fileName near → Silent h' fileName near := silent_congr file
  cases said with
  | fileFailed named read => exact .fileFailed named (file.trans read)
  | file named read present => exact .file named (file.trans read) present
  | manifestFailed silent read => exact .manifestFailed (kept silent) (manifest.trans read)
  | manifest silent read held present =>
    exact .manifest (kept silent) (manifest.trans read) held present
  | noManifest silent read => exact .noManifest (kept silent) (manifest.trans read)
  | noSection silent read blank => exact .noSection (kept silent) (manifest.trans read) blank

/-- Whether a directory is passed is a matter of what it says. -/
theorem passes_of_kept
    (kept : ∀ saying, Says h fileName near saying → Says h' fileName' near saying)
    (passes : Passes h fileName near) : Passes h' fileName' near := by
  cases passes with
  | nothing said => exact .nothing (kept _ said)
  | scalar said scalar => exact .scalar (kept _ said) scalar

/-- So is what it decides. -/
theorem decides_of_kept
    (kept : ∀ saying, Says h fileName near saying → Says h' fileName' near saying)
    (decides : Decides h fileName near outcome) : Decides h' fileName' near outcome := by
  cases decides with
  | failed said => exact .failed (kept _ said)
  | notListed said container unlisted => exact .notListed (kept _ said) container unlisted
  | located said container lists => exact .located (kept _ said) container lists

/-- Discovery from one start ends alike if all directories on the way are passed or decide alike. -/
theorem discover_congr {start? : Option Text} (started : h.startingPoint start? = .ok start)
    (started' : h'.startingPoint start? = .ok start)
    (passes : ∀ near ∈ asked start, Passes h fileName near → Passes h' fileName near)
    (decides : ∀ near ∈ asked start, ∀ outcome,
      Decides h fileName near outcome → Decides h' fileName near outcome) :
    (discover h' start? fileName).outcome = (discover h start? fileName).outcome := by
  have discovers := discovers_outcome h start? fileName
  generalize (discover h start? fileName).outcome = outcome at discovers ⊢
  cases discovers with
  | unstarted refused =>
    rw [started] at refused
    cases refused
  | @decided start' nearer directory farther _ found way passed decided =>
    cases started.symm.trans found
    refine outcome_of_discovers (.decided started' way (fun near member => ?_) ?_)
    · exact passes near (by simp [way, member]) (passed near member)
    · exact decides directory (by simp [way]) _ decided
  | undecided found passed =>
    cases started.symm.trans found
    exact outcome_of_discovers (.undecided started' fun near member =>
      passes near member (passed near member))

end

end ImportResolution.Configuration
