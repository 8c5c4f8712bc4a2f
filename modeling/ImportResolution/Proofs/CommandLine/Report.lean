import ImportResolution.CommandLine.Run
import ImportResolution.Proofs.Json.Nesting
import ImportResolution.Proofs.Json.RoundTrip

/-! Reports: what a run of the command `resolve` writes, and how it ends, as a function of what the
library answers. An answer is written as one line, in the form that was asked for, and decides the
status; colors and switches of the output never change it. -/
namespace ImportResolution.CommandLine

variable {h : Host} {environment : Environment} {isTerminal : Bool} {argv : List Text}
  {arguments : ResolveArguments} {configuration : Json}

/-- The configurations that an argument stands for: null without it, and otherwise what its text
spells, if there is room to read it. -/
inductive Given.Configures (room : Room) : Given → Json → Prop where
  | absent : Configures room .absent .null
  | text {text : Text} {value : Json} (fits : Json.overflow? room.containers text = none)
      (read : Json.parse text = .ok value) : Configures room (.text text) value

theorem readConfiguration_of_configures {room : Room} {given : Given}
    (configured : given.Configures room configuration) :
    readConfiguration room given = .ok configuration := by
  cases configured with
  | absent => rfl
  | text fits read => simp only [readConfiguration, fits, read]

/-- What the library answers to the arguments of the command `resolve`. -/
def ResolveArguments.outcome (h : Host) (arguments : ResolveArguments) (configuration : Json) :
    Except Fault Resolution :=
  match arguments.file? with
  | none => .error .wrongType
  | some file => (h.absolute file).bind fun file =>
      ((arguments.request file configuration).resolve h).outcome

/-- What is written for an outcome of the command `resolve`, and how the run ends. -/
def ResolveArguments.report (arguments : ResolveArguments) (palette : Palette) :
    Except Fault Resolution → Output
  | .ok answer =>
    ⟨.exit (if answer.found then statusFound else statusNotFound),
      resolutionLine palette arguments.specifier arguments.json answer, []⟩
  | .error fault =>
    match Failure.ofFault fault with
    | .reported message =>
      ⟨.exit statusError, [], line (palette.error ("Error: ".toList ++ message))⟩
    | .raised fault => ⟨.raised fault, [], []⟩

/-- A run of the command `resolve` reports what the library answers. -/
theorem run_resolve
    (parsed : parseArguments argv = .ok ⟨some (.resolve arguments), false⟩)
    (configured : arguments.configuration.Configures h.room configuration) :
    run h environment isTerminal argv
      = arguments.report (Palette.choose environment isTerminal arguments.noColor)
          (arguments.outcome h configuration) := by
  have failing : ∀ (palette : Palette) (fault : Fault) (events : List Event),
      (Answer.failure (.ofFault fault) events).output palette false
        = arguments.report palette (.error fault) := by
    intro palette fault events
    simp only [ResolveArguments.report, Answer.failure, Answer.output]
    cases Failure.ofFault fault <;> rfl
  simp only [run, parsed, runCommand, Command.noColor, runResolve,
    readConfiguration_of_configures configured, ResolveArguments.outcome]
  cases arguments.file? with
  | none => exact failing _ .wrongType []
  | some file =>
    simp only
    cases h.absolute file with
    | error fault => exact failing _ fault []
    | ok file =>
      simp only [Except.bind]
      cases ((arguments.request file configuration).resolve h).outcome with
      | error fault => exact failing _ fault _
      | ok answer => rfl

/-! ### What is shown -/

/-- A text as it is shown: as it stands, or between the sequences that set a look and the one that
resets it. -/
inductive Shown (text : Text) : Text → Prop where
  | plain : Shown text text
  | styled (codes : List String) :
      Shown text (codes.flatMap Palette.sequence ++ text ++ Palette.sequence "0")

theorem shown_styled (palette : Palette) (codes : List String) (text : Text) :
    Shown text (palette.styled codes text) := by
  unfold Palette.styled
  split
  · exact .styled codes
  · exact .plain

/-- An answer in words. -/
def wording (specifier : Text) (answer : Resolution) : Text :=
  match answer.target with
  | .file path => path
  | .coreModule => specifier ++ " (builtin)".toList
  | .missing => specifier ++ ": not found".toList

theorem resolutionLine_plain (palette : Palette) (specifier : Text) (answer : Resolution) :
    ∃ shown, Shown (wording specifier answer) shown ∧
      resolutionLine palette specifier false answer = shown ++ ['\n'] := by
  unfold resolutionLine wording
  cases answer.target with
  | file path => exact ⟨_, shown_styled palette ["32"] _, rfl⟩
  | coreModule => exact ⟨_, shown_styled palette ["33"] _, rfl⟩
  | missing => exact ⟨_, shown_styled palette ["1", "31"] _, rfl⟩

/-! ### Answers in the exchanged form -/

theorem toJson_cases (answer : Resolution) :
    answer.toJson = .obj [("found".toList, .bool false)] ∨
      answer.toJson = .obj [("found".toList, .bool true), ("path".toList, .null)] ∨
      ∃ path, answer.toJson = .obj [("found".toList, .bool true), ("path".toList, .str path)] := by
  unfold Resolution.toJson
  cases answer.target with
  | missing => exact .inl rfl
  | coreModule => exact .inr (.inl rfl)
  | file path => exact .inr (.inr ⟨path, rfl⟩)

theorem isWritable_toJson (answer : Resolution) : answer.toJson.isWritable = true := by
  rcases toJson_cases answer with same | same | ⟨path, same⟩ <;> rw [same] <;> rfl

theorem distinct_toJson (answer : Resolution) : Json.Distinct answer.toJson := by
  rcases toJson_cases answer with same | same | ⟨path, same⟩ <;> rw [same]
  · exact .obj (by simp) (by simpa using .scalar rfl)
  · exact .obj (by simp) (by simpa using ⟨.scalar rfl, .scalar rfl⟩)
  · exact .obj (by simp) (by simpa using ⟨.scalar rfl, .scalar rfl⟩)

theorem floatFree_toJson (answer : Resolution) : Json.FloatFree answer.toJson := by
  rcases toJson_cases answer with same | same | ⟨path, same⟩ <;> rw [same]
  · exact .obj (by simpa using .bool false)
  · exact .obj (by simpa using ⟨.bool true, .null⟩)
  · exact .obj (by simpa using ⟨.bool true, .str path⟩)

/-- The line of an answer in the exchanged form is one line, and is read as the answer. -/
theorem print_toJson (answer : Resolution) :
    '\n' ∉ answer.toJson.print ∧ Json.parse (answer.toJson.print ++ ['\n']) = .ok answer.toJson := by
  have feed : Json.Blanks ['\n'] := by simp [Json.Blanks, Json.isBlank]
  refine ⟨?_, Json.parse_written .line (isWritable_toJson answer) (distinct_toJson answer)
    (floatFree_toJson answer) feed⟩
  have clean : ∀ s, '\n' ∉ Json.writtenString s := fun s member =>
    (Json.writtenString_spelled s).printable _ member (by decide)
  rcases toJson_cases answer with same | same | ⟨path, same⟩ <;> rw [same] <;>
    simp [Json.print, Json.written, Json.writtenMembers, Json.bracketed, Json.Layout.deeper,
      Json.Layout.turn, Json.Layout.separator, List.intercalate, List.intersperse, clean]

/-! ### Runs -/

/-- What a run of the command `resolve` tells of an outcome of the library: the status says whether
something was found, and the standard output says what, as one line in the form that was asked for.
A malformed configuration is a message to the user; every other fault stays what it is. -/
structure Reports (arguments : ResolveArguments) (outcome : Except Fault Resolution)
    (output : Output) : Prop where
  status : ∀ answer, outcome = .ok answer → output.stderr = [] ∧
    (output.ending = .exit 0 ↔ answer.found = true) ∧
    (output.ending = .exit 1 ↔ answer.found = false)
  exchanged : ∀ answer, outcome = .ok answer → arguments.json = true →
    ∃ text, '\n' ∉ text ∧ output.stdout = text ++ ['\n'] ∧
      Json.parse output.stdout = .ok answer.toJson
  worded : ∀ answer, outcome = .ok answer → arguments.json = false →
    ∃ shown, Shown (wording arguments.specifier answer) shown ∧ output.stdout = shown ++ ['\n']
  malformed : ∀ path content, outcome = .error (.configuration path content) →
    output.ending = .exit 2 ∧ output.stdout = [] ∧
      ∃ shown, Shown ("Error: ".toList ++ (Fault.configuration path content).message) shown ∧
        output.stderr = shown ++ ['\n']
  raised : ∀ fault, outcome = .error fault → (∀ path content, fault ≠ .configuration path content) →
    output = ⟨.raised fault, [], []⟩

theorem reports_report (arguments : ResolveArguments) (palette : Palette)
    (outcome : Except Fault Resolution) :
    Reports arguments outcome (arguments.report palette outcome) where
  status := by
    rintro answer rfl
    cases found : answer.found <;>
      simp [ResolveArguments.report, found, statusFound, statusNotFound]
  exchanged := by
    rintro answer rfl json
    have ⟨single, read⟩ := print_toJson answer
    refine ⟨answer.toJson.print, single, ?_, ?_⟩ <;>
      simp only [ResolveArguments.report, json, resolutionLine, if_true, line]
    exact read
  worded := by
    rintro answer rfl json
    simp only [ResolveArguments.report, json]
    exact resolutionLine_plain palette arguments.specifier answer
  malformed := by
    rintro path content rfl
    exact ⟨rfl, rfl, _, shown_styled palette ["1", "31"] _, rfl⟩
  raised := by
    rintro fault rfl other
    cases fault with
    | configuration path content => exact absurd rfl (other path content)
    | _ => rfl

/-- The form of the output and its colors have no part in how a run ends, and in the exchanged form
colors have no part in the output. -/
theorem report_recast (arguments : ResolveArguments) (palette palette' : Palette)
    (json noColor : Bool) (outcome : Except Fault Resolution) :
    (ResolveArguments.report { arguments with json, noColor } palette' outcome).ending
        = (arguments.report palette outcome).ending ∧
      (json = true → arguments.json = true →
        (ResolveArguments.report { arguments with json, noColor } palette' outcome).stdout
          = (arguments.report palette outcome).stdout) := by
  cases outcome with
  | ok answer =>
    refine ⟨rfl, ?_⟩
    rintro rfl asked
    simp [ResolveArguments.report, resolutionLine, asked]
  | error fault =>
    simp only [ResolveArguments.report]
    cases Failure.ofFault fault <;> exact ⟨rfl, fun _ _ => rfl⟩

/-- The command `resolve` reports faithfully what the library answers to its arguments, whatever the
order in which they stand. Colors, the environment and the kind of the output neither change how it
ends nor what it writes in the exchanged form. -/
theorem run_reports
    (parsed : parseArguments argv = .ok ⟨some (.resolve arguments), false⟩)
    (configured : arguments.configuration.Configures h.room configuration) :
    Reports arguments (arguments.outcome h configuration) (run h environment isTerminal argv) ∧
      ∀ environment' isTerminal' argv' json noColor,
        parseArguments argv' = .ok ⟨some (.resolve { arguments with json, noColor }), false⟩ →
          (run h environment' isTerminal' argv').ending
              = (run h environment isTerminal argv).ending ∧
            (json = true → arguments.json = true →
              (run h environment' isTerminal' argv').stdout
                = (run h environment isTerminal argv).stdout) := by
  constructor
  · rw [run_resolve parsed configured]
    exact reports_report arguments _ _
  · intro environment' isTerminal' argv' json noColor parsed'
    rw [run_resolve parsed configured, run_resolve parsed' configured]
    exact report_recast arguments _ _ json noColor _

/-- A file with a letter beyond ASCII in its name. -/
def lettered : Host :=
  ⟨⟨[
    (Place.ofPath "/p/ä.js".toList, .file (.text [])),
    (Place.ofPath "/p".toList, .directory)]⟩, some "/p".toList, .usual⟩

/-- The letter is written as an escape and read as itself. -/
theorem run_reports_lettered :
    (run lettered [] true ["resolve".toList, "~/ä".toList, "b.js".toList, "--json".toList,
        "--config".toList, "[]".toList]).ending = .exit 0 ∧
      Json.parse (run lettered [] true ["resolve".toList, "~/ä".toList, "b.js".toList,
          "--json".toList, "--config".toList, "[]".toList]).stdout
        = .ok (.obj [("found".toList, .bool true), ("path".toList, .str "/p/ä.js".toList)]) := by
  have parsed : parseArguments ["resolve".toList, "~/ä".toList, "b.js".toList, "--json".toList,
      "--config".toList, "[]".toList] = .ok ⟨some (.resolve ⟨"~/ä".toList, some "b.js".toList,
        .text "[]".toList, ".babelrc".toList, none, true, false⟩), false⟩ := by
    decide +kernel
  have configured : (Given.text "[]".toList).Configures lettered.room (.arr []) :=
    .text (Json.overflow?_of_length (by decide)) (Json.parse_eq_ok_iff.mpr
      ⟨[], "[]".toList, [], rfl, Json.blanks_nil, Json.blanks_nil, .emptyArray Json.blanks_nil⟩)
  obtain ⟨reports, -⟩ := run_reports (h := lettered) parsed configured
  have answered : ResolveArguments.outcome lettered ⟨"~/ä".toList, some "b.js".toList,
      .text "[]".toList, ".babelrc".toList, none, true, false⟩ (.arr [])
        = .ok ⟨.file "/p/ä.js".toList, .aliased, ["/p/ä".toList, "/p/ä.mjs".toList,
            "/p/ä.js".toList]⟩ := by
    decide +kernel
  obtain ⟨text, -, -, read⟩ := reports.exchanged _ answered rfl
  exact ⟨(reports.status _ answered).2.1.mpr rfl, read⟩

end ImportResolution.CommandLine
