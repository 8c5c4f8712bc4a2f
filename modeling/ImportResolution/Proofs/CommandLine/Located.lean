import ImportResolution.Proofs.CommandLine.Reading
import ImportResolution.Proofs.CommandLine.Report
import ImportResolution.Proofs.Configuration.Agreement
import ImportResolution.Proofs.Configuration.Distinct
import ImportResolution.Proofs.Host.NullFree
import ImportResolution.Proofs.Host.Room
import ImportResolution.Proofs.Json.Depth
import ImportResolution.Proofs.Request.InEffect

/-! What the command `locate` shows is what the command `resolve` uses. The entries and the root
that are shown, read back and given to a request, lead to the same output as the directory from
which they were located. -/
namespace ImportResolution.CommandLine

open ImportResolution.Configuration

variable {h : Host} {environment : Environment} {isTerminal : Bool}
  {specifier file directory fileName start root : Text} {root? : Option Text}

/-- The arguments that show the configuration located from a directory. -/
def locateLine (directory fileName : Text) : List Text :=
  ["locate".toList, directory, "--config-file".toList, fileName, "--json".toList]

/-- The arguments that resolve a specifier under the configuration located from a root. -/
def resolveNamed (specifier file root fileName : Text) : List Text :=
  ["resolve".toList, specifier, file, "--root".toList, root, "--config-file".toList, fileName]

/-- The arguments that resolve a specifier under a configuration that is given. -/
def resolveGiven (specifier file root configuration : Text) : List Text :=
  ["resolve".toList, specifier, file, "--root".toList, root, "--config".toList, configuration]

theorem operand_of_isAbsolute {text : Text} (absolute : Path.isAbsolute text = true) :
    Operand text := by
  have slash : text.head? = some '/' := by simpa [Path.isAbsolute] using absolute
  simp [Operand, slash]

/-! ### The line that is shown -/

/-- A run of the command `locate` in the exchanged form shows what discovery locates, or says that
nothing is listed. -/
theorem run_locate (directoryPlain : Operand directory) (namePlain : Operand fileName) :
    run h environment isTerminal (locateLine directory fileName)
      = (runLocate h (Palette.choose environment isTerminal false)
          ⟨some directory, fileName, true, false⟩).output
          (Palette.choose environment isTerminal false) false := by
  simp only [run, locateLine, parse_locate directoryPlain namePlain, runCommand, Command.noColor]

/-- A run of `locate` that ends well located a configuration that can be written, and wrote it. -/
theorem located_of_exit (directoryPlain : Operand directory) (namePlain : Operand fileName)
    (ended : (run h environment isTerminal (locateLine directory fileName)).ending = .exit 0) :
    ∃ located, (discover h (some directory) fileName).outcome = .ok (.located located) ∧
      Json.areWritable located.entries = true ∧
      (run h environment isTerminal (locateLine directory fileName)).stdout
        = (locatedJson located).printBlock ++ ['\n'] := by
  rw [run_locate directoryPlain namePlain] at ended ⊢
  unfold runLocate at ended ⊢
  simp only at ended ⊢
  cases found : (discover h (some directory) fileName).outcome with
  | error fault =>
    rw [found] at ended
    simp only [Answer.output, Answer.failure] at ended
    cases failure : Failure.ofFault fault <;> simp [failure, statusError] at ended
  | ok discovery =>
    cases discovery with
    | notListed =>
      rw [found] at ended
      cases ended
    | located located =>
      rw [found] at ended
      simp only [showLocated, if_true] at ended ⊢
      cases writable : (Json.arr located.entries).isWritable with
      | false =>
        rw [writable] at ended
        cases ended
      | true => exact ⟨located, rfl, writable, by simp [Answer.output, line]⟩

/-- The line that says that nothing is listed is written for no other outcome. -/
theorem notListed_of_line (directoryPlain : Operand directory) (namePlain : Operand fileName)
    (shown : (run h environment isTerminal (locateLine directory fileName)).stdout
      = "\x7b\"configured\": false\x7d\n".toList) :
    (discover h (some directory) fileName).outcome = .ok .notListed := by
  rw [run_locate directoryPlain namePlain] at shown
  unfold runLocate at shown
  simp only at shown
  -- the second character tells the line from a configuration, which goes on with a line end there
  have second := congrArg (·[1]?) shown
  have quote : "\x7b\"configured\": false\x7d\n".toList[1]? = some '"' := by decide +kernel
  simp only [quote] at second
  clear shown quote
  cases found : (discover h (some directory) fileName).outcome with
  | error fault =>
    rw [found] at second
    simp only [Answer.output, Answer.failure] at second
    cases failure : Failure.ofFault fault <;> simp [failure] at second
  | ok discovery =>
    cases discovery with
    | notListed => rfl
    | located located =>
      rw [found] at second
      simp only [showLocated, if_true] at second
      split at second
      · simp [Answer.output, line, locatedJson, Json.printBlock, Json.written, Json.writtenMembers,
          Json.bracketed, Json.Layout.deeper, Json.Layout.turn] at second
      · simp [Answer.output, Answer.failure] at second

/-- The configuration that is shown is read back as it is, if there are no binary numbers in it. -/
theorem shown_read {located : Located} {payload : Json} {entries : List Json}
    (writable : Json.areWritable located.entries = true)
    (distinct : ∀ entry ∈ located.entries, Json.Distinct entry)
    (read : Json.parse ((locatedJson located).printBlock ++ ['\n']) = .ok payload)
    (rooted : payload.member? "root".toList = some (.str root))
    (listed : payload.member? "entries".toList = some (.arr entries))
    (free : Json.FloatFree (.arr entries)) : root = located.root ∧ entries = located.entries := by
  have feed : Json.Blanks ['\n'] := by simp [Json.Blanks, Json.isBlank]
  have members : ∀ m ∈ [("configured".toList, Json.bool true), ("root".toList, .str located.root),
      ("source".toList, (located.source?.map Json.str).getD .null),
      ("entries".toList, .arr located.entries)], Json.Distinct m.2 := by
    simp only [List.forall_mem_cons]
    refine ⟨.scalar rfl, .scalar rfl, ?_, .arr distinct, by simp⟩
    cases located.source? <;> exact .scalar rfl
  have source : Json.isWritable ((located.source?.map Json.str).getD .null) = true := by
    cases located.source? <;> rfl
  obtain ⟨back, reread, comes⟩ := Json.parse_written_obj (.block 0)
    (by simp [Json.membersWritable, Json.isWritable, writable, source]) (by simp) members feed
  rw [Json.printBlock, locatedJson, reread] at read
  cases read
  obtain ⟨_, held, rootBack⟩ := Json.find?_of_comesBack comes rooted
  obtain ⟨_, held', entriesBack⟩ := Json.find?_of_comesBack comes listed
  cases held
  cases held'
  have sameRoot := rootBack (.inr (.str root))
  have sameEntries := entriesBack (.inr free)
  cases sameRoot
  cases sameEntries
  exact ⟨rfl, rfl⟩

/-! ### The directory that is used -/

/-- Of its arguments, a report takes no notice but of the specifier and the form that is asked
for. -/
theorem report_congr {first second : ResolveArguments} (palette : Palette)
    (outcome : Except Fault Resolution) (specifier : first.specifier = second.specifier)
    (json : first.json = second.json) :
    first.report palette outcome = second.report palette outcome := by
  cases outcome with
  | ok answer => simp only [ResolveArguments.report, specifier, json]
  | error fault => rfl

/-- Where the directory that is given resolves to the canonical form of itself and meets no loop,
it is the root of a request, and discovery from this root is discovery from the directory. -/
theorem root_of_settled (started : h.startingPoint root? = .ok start)
    (fixed : h.canonical start = .ok start) (loopless : h.Loopless start) :
    h.rootOf root? = .ok start ∧ discover h (some start) fileName = discover h root? fileName := by
  obtain ⟨p, free, rfl⟩ := Host.linkFree_of_canonical loopless fixed
  have written := PlainPath.ofText_toText (Canonical.proper_of_linkFree free)
  have again := Request.startingPoint_of_fixed fixed
  refine ⟨by simp [Host.rootOf, started, Except.map, written], ?_⟩
  simp only [discover, again, started]

/-- A directory from which the same directory is used in the end, wherever it is resolved: an
absolute one that meets no loop of links, or one that resolves to such a directory, in its canonical
form. -/
def Settles (h : Host) (directory : Text) : Prop :=
  h.Loopless directory ∨ ∀ start, h.startingPoint (some directory) = .ok start →
    h.canonical start = .ok start ∧ h.Loopless start

theorem settled_start (storable : h.LinksStorable) (settles : Settles h directory)
    (started : h.startingPoint (some directory) = .ok start) :
    h.canonical start = .ok start ∧ h.Loopless start := by
  rcases settles with loopless | settled
  · cases directory with
    | nil => cases loopless.1
    | cons c rest => exact Host.settled_of_canonical storable loopless started
  · exact settled start started

theorem isAbsolute_located {located : Located} (storable : h.LinksStorable)
    (settles : Settles h directory)
    (found : (discover h (some directory) fileName).outcome = .ok (.located located)) :
    Path.isAbsolute located.root = true := by
  cases started : h.startingPoint (some directory) with
  | error fault => simp [discover, started, Traced.fault] at found
  | ok start =>
    obtain ⟨near, member, rootHere⟩ := root_of_located started found
    rw [rootHere]
    exact Request.isAbsolute_asked (settled_start storable settles started).2.1 member

/-- A request under a directory that settles is answered by what discovery from it finds: as if the
entries that are located had been given, or by the plain search. -/
theorem answered_as_discovered (specifier file : Text) (storable : h.LinksStorable)
    (settles : Settles h directory) :
    (∀ located, (discover h (some directory) fileName).outcome = .ok (.located located) →
      (Request.resolve h ⟨specifier, file, .null, fileName, some directory⟩).outcome
        = (Request.resolve h ⟨specifier, file, .arr located.entries, defaultFileName,
            some located.root⟩).outcome) ∧
    ((discover h (some directory) fileName).outcome = .ok .notListed →
      (Request.resolve h ⟨specifier, file, .null, fileName, some directory⟩).outcome
        = (Module.resolve h specifier file []).outcome) := by
  cases started : h.startingPoint (some directory) with
  | error fault => simp [discover, started, Traced.fault]
  | ok start =>
    have unlisted : ConfigurationKind.of .null ≠ .aliases := by decide
    obtain ⟨fixed, loopless⟩ := settled_start storable settles started
    obtain ⟨rooted, same⟩ := @root_of_settled h fileName start _ started fixed loopless
    rw [Request.resolve_unlisted specifier file fileName unlisted rooted,
      Request.resolveDiscovered, Traced.outcome_bind, same]
    constructor
    · intro located found
      obtain ⟨near, member, rootHere⟩ := root_of_located started found
      have given := Request.rootOf_asked member (Request.canonical_asked fixed loopless member)
      rw [← rootHere] at given
      rw [found, Request.resolve_listed given]
      rfl
    · intro found
      rw [found]
      rfl

/-- What the command `locate` shows is what the command `resolve` uses: the root and the entries
that are shown, read back and given, lead to the output that the directory leads to. Where there was
room to read them back there is room to read what is given. If the plugin is not listed, the
specifier is resolved by the plain search. -/
theorem located_is_used (specifierPlain : Operand specifier) (filePlain : Operand file)
    (directoryPlain : Operand directory) (namePlain : Operand fileName)
    (storable : h.LinksStorable) (settles : Settles h directory) :
    (∀ payload root entries,
      (run h environment isTerminal (locateLine directory fileName)).ending = .exit 0 →
      h.room.parse (run h environment isTerminal (locateLine directory fileName)).stdout
        = .ok payload →
      payload.member? "root".toList = some (.str root) →
      payload.member? "entries".toList = some (.arr entries) → Json.FloatFree (.arr entries) →
      run h environment isTerminal (resolveNamed specifier file directory fileName)
        = run h environment isTerminal
            (resolveGiven specifier file root (Json.arr entries).print)) ∧
    ((run h environment isTerminal (locateLine directory fileName)).stdout
        = "\x7b\"configured\": false\x7d\n".toList →
      run h environment isTerminal (resolveNamed specifier file directory fileName)
        = ResolveArguments.report
            ⟨specifier, some file, .absent, fileName, some directory, false, false⟩
            (Palette.choose environment isTerminal false)
            ((h.absolute file).bind fun file => (Module.resolve h specifier file []).outcome)) := by
  have named := parse_resolve_named specifierPlain filePlain directoryPlain namePlain
  have searched :
      run h environment isTerminal (resolveNamed specifier file directory fileName) = _ :=
    run_resolve named .absent
  constructor
  · intro payload root entries ended read rooted listed free
    obtain ⟨located, found, writable, shown⟩ := located_of_exit directoryPlain namePlain ended
    have distinct := distinct_of_located found
    rw [shown] at read
    obtain ⟨roomy, read⟩ := Room.parse_eq_ok.mp read
    have deep : (Json.arr entries).depth ≤ h.room.containers :=
      (Nat.lt_of_lt_of_le (Json.depth_lt_of_member listed) (Json.depth_of_parse read roomy)).le
    obtain ⟨rfl, rfl⟩ := shown_read writable distinct read rooted listed free
    have rootPlain : Operand located.root :=
      operand_of_isAbsolute (isAbsolute_located storable settles found)
    have printed : Operand (Json.arr located.entries).print := by
      obtain ⟨rest, written⟩ : ∃ rest, (Json.arr located.entries).print = '[' :: rest := by
        unfold Json.print Json.written Json.bracketed
        split <;> exact ⟨_, rfl⟩
      simp [Operand, written]
    have configured : (Given.text (Json.arr located.entries).print).Configures h.room
        (.arr located.entries) := by
      have reread := Json.parse_written (v := .arr located.entries) .line writable (.arr distinct)
        free Json.blanks_nil
      have fits := (Json.overflow?_written Json.blanks_nil reread).mpr deep
      rw [List.append_nil] at reread fits
      exact .text fits reread
    have given : run h environment isTerminal (resolveGiven specifier file located.root
        (Json.arr located.entries).print) = _ :=
      run_resolve (parse_resolve_given specifierPlain filePlain rootPlain printed) configured
    have agree := fun file => (answered_as_discovered specifier file storable settles).1 _ found
    rw [searched, given]
    simp only [ResolveArguments.outcome, ResolveArguments.request, agree]
    exact report_congr _ _ rfl rfl
  · intro shown
    have found := notListed_of_line directoryPlain namePlain shown
    have agree := fun file => (answered_as_discovered specifier file storable settles).2 found
    simp only [searched, ResolveArguments.outcome, ResolveArguments.request, agree]

/-- The root that is shown, and the sign of the only entry, if there is nothing more to it. -/
def signShown? (payload : Json) : Option (Text × Text) :=
  match payload.member? "root".toList, payload.member? "entries".toList with
  | some (.str root), some (.arr [.obj [(name, .str sign)]]) =>
    if name = AliasEntry.signMember then some (root, sign) else none
  | _, _ => none

theorem shown_of_sign {ε : Type} {outcome : Except ε Json} {sign : Text}
    (shown : outcome.map signShown? = .ok (some (root, sign))) :
    ∃ payload, outcome = .ok payload ∧ payload.member? "root".toList = some (.str root) ∧
      payload.member? "entries".toList
        = some (.arr [.obj [(AliasEntry.signMember, .str sign)]]) := by
  obtain ⟨payload, read, one⟩ := Except.map_eq_ok.mp shown
  refine ⟨payload, read, ?_⟩
  unfold signShown? at one
  split at one
  · rename_i rooted listed
    split at one
    · rename_i same
      cases one
      exact ⟨rooted, same ▸ listed⟩
    · cases one
  · cases one

theorem floatFree_sign (sign : Text) :
    Json.FloatFree (.arr [.obj [(AliasEntry.signMember, .str sign)]]) :=
  .arr (by simpa using .obj (by simpa using .str sign))

/-- A project with a link to it, whose sign has a letter beyond ASCII, and with a second
configuration that lists nothing. -/
def linked : Host :=
  ⟨⟨[(Place.ofPath "/p/app".toList, .directory),
    (Place.ofPath "/p/b.js".toList, .file (.text [])),
    (Place.ofPath "/p/.babelrc".toList, .file (.text
      "\x7bplugins: [['root-import', \x7brootPathPrefix: 'é'\x7d]]\x7d".toList)),
    (Place.ofPath "/p/bare".toList, .file (.text "\x7b\x7d".toList)),
    (Place.ofPath "/p".toList, .directory),
    (Place.ofPath "/l".toList, .link "p".toList)]⟩, some "/".toList, .usual⟩

/-- From a directory behind a link, the sign is shown as an escape and used as itself. -/
theorem located_is_used_linked :
    run linked [] false (resolveNamed "é/b".toList "/x.js".toList "/l/app".toList
        ".babelrc".toList)
      = run linked [] false (resolveGiven "é/b".toList "/x.js".toList "/p".toList
        "[\x7b\"rootPathPrefix\": \"\\u00e9\"\x7d]".toList) ∧
    run linked [] false (resolveNamed "é/b".toList "/x.js".toList "/l/app".toList
        ".babelrc".toList) = ⟨.exit 0, "/p/b.js\n".toList, []⟩ ∧
    (run linked [] false (resolveNamed "./b".toList "p/x.js".toList "/l/app".toList
        "bare".toList)).stdout = "/p/b.js\n".toList := by
  have storable : linked.LinksStorable := by
    intro place target member
    simp [linked] at member
    rw [member.2]
    decide
  have settles : Settles linked "/l/app".toList := .inl (by decide +kernel)
  have ended : (run linked [] false (locateLine "/l/app".toList ".babelrc".toList)).ending
      = .exit 0 := by decide +kernel
  have shown : (linked.room.parse (run linked [] false
      (locateLine "/l/app".toList ".babelrc".toList)).stdout).map signShown?
        = .ok (some ("/p".toList, "é".toList)) := by decide +kernel
  have bare : (run linked [] false (locateLine "/l/app".toList "bare".toList)).stdout
      = "\x7b\"configured\": false\x7d\n".toList := by decide +kernel
  have printed : (Json.arr [.obj [(AliasEntry.signMember, .str "é".toList)]]).print
      = "[\x7b\"rootPathPrefix\": \"\\u00e9\"\x7d]".toList := by decide +kernel
  obtain ⟨payload, read, rooted, listed⟩ := shown_of_sign shown
  obtain ⟨same, -⟩ := @located_is_used linked [] false "é/b".toList "/x.js".toList "/l/app".toList
    ".babelrc".toList (by decide) (by decide) (by decide) (by decide) storable settles
  obtain ⟨-, plain⟩ := @located_is_used linked [] false "./b".toList "p/x.js".toList
    "/l/app".toList "bare".toList (by decide) (by decide) (by decide) (by decide) storable settles
  have agree := same payload _ _ ended read rooted listed (floatFree_sign _)
  rw [printed] at agree
  refine ⟨agree, by decide +kernel, ?_⟩
  rw [plain bare]
  decide +kernel

/-- The way down through directories whose names are as long as names may be. -/
def longWay : Text := Text.ofSegments (List.replicate 16 (List.replicate 63 '😀'))

/-- A link at the end of a long way, and configurations in front of the way and around the target of
the link. -/
def farDown : Host :=
  let configuration : Node := .file (.text
    "\x7bplugins: [['root-import', \x7brootPathPrefix: '~'\x7d]]\x7d".toList)
  ⟨⟨[(Place.ofPath ('/' :: longWay ++ "/l".toList), .link "/a/q".toList),
    (Place.ofPath "/a/q".toList, .directory),
    (Place.ofPath "/a/m.js".toList, .file (.text [])),
    (Place.ofPath "/a/.babelrc".toList, configuration),
    (Place.ofPath "/a".toList, .directory),
    (Place.ofPath "/.babelrc".toList, configuration)]
    ++ (List.range 16).map fun above =>
      (List.replicate (above + 1) (List.replicate 63 '😀'), .directory)⟩, some "/".toList,
    .usual⟩

/-- The link from the root, as a path that is too long while the dots in front stand there, and
short enough once it is made absolute. -/
def dotted : Text :=
  (List.replicate 17 "../".toList).flatten ++ longWay ++ "/l".toList

/-- A relative directory that meets no loop is not enough. Its links may be out of reach at first,
and then the directory that it resolves to resolves further: `locate` stops at the first, and
`resolve` does not. -/
theorem relative_directory_not_enough : ¬ ∀ (h : Host) (environment : Environment)
    (isTerminal : Bool) (specifier file directory fileName root : Text) (payload : Json)
    (entries : List Json), Operand specifier → Operand file → Operand directory →
    Operand fileName → h.LinksStorable →
    (Canonical.resolveFrom h.linkTarget? h.resolutionLimit []
      (if Path.isAbsolute directory then ['/'] else [])
      (Text.segments (PlainPath.ofText directory).toText)).isResolved = true →
    (run h environment isTerminal (locateLine directory fileName)).ending = .exit 0 →
    h.room.parse (run h environment isTerminal (locateLine directory fileName)).stdout
      = .ok payload →
    payload.member? "root".toList = some (.str root) →
    payload.member? "entries".toList = some (.arr entries) → Json.FloatFree (.arr entries) →
    run h environment isTerminal (resolveNamed specifier file directory fileName)
      = run h environment isTerminal
          (resolveGiven specifier file root (Json.arr entries).print) := by
  intro agrees
  have storable : farDown.LinksStorable := by
    intro place target member
    simp [farDown] at member
    rw [member.2]
    decide
  have shown : (farDown.room.parse
      (run farDown [] false (locateLine dotted ".babelrc".toList)).stdout).map signShown?
      = .ok (some ("/".toList, "~".toList)) := by decide +kernel
  obtain ⟨payload, read, rooted, listed⟩ := shown_of_sign shown
  have unlooped : (Canonical.resolveFrom farDown.linkTarget? farDown.resolutionLimit []
      (if Path.isAbsolute dotted then ['/'] else [])
      (Text.segments (PlainPath.ofText dotted).toText)).isResolved = true := by decide +kernel
  have ended : (run farDown [] false (locateLine dotted ".babelrc".toList)).ending = .exit 0 := by
    decide +kernel
  have same := agrees farDown [] false "~/m".toList "/x.js".toList dotted ".babelrc".toList
    "/".toList payload _ (by decide) (by decide) (by decide) (by decide) storable unlooped ended
    read rooted listed (floatFree_sign _)
  have differ : (run farDown [] false (resolveNamed "~/m".toList "/x.js".toList dotted
        ".babelrc".toList)).ending
      ≠ (run farDown [] false (resolveGiven "~/m".toList "/x.js".toList "/".toList
        (Json.arr [.obj [(AliasEntry.signMember, .str "~".toList)]]).print)).ending := by
    decide +kernel
  exact differ (congrArg Output.ending same)

end ImportResolution.CommandLine
