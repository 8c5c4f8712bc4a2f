import ImportResolution.Proofs.CommandLine.Reading
import ImportResolution.Proofs.CommandLine.Report
import ImportResolution.Proofs.Json.Overlong

/-! Configurations that cannot be read. An argument that is no document ends the run before anything
else is looked at. A fault of the notation is a message to the user, in one line; an integer that is
too long is nobody's to handle, and leaves the run as a fault. -/
namespace ImportResolution

/-- The digits of a number are on one line. -/
theorem Json.ofNat_single_line (n : Nat) : '\n' ∉ Text.ofNat n := by
  intro inside
  have digit : Char.isDigit '\n' = true := Json.digits_ofNat n '\n' inside
  have other : Char.isDigit '\n' = false := by decide
  rw [other] at digit
  cases digit

theorem Json.Cause.single_line (cause : Json.Cause) : '\n' ∉ cause.message := by
  cases cause with
  | integerTooLong digits =>
    intro inside
    rcases List.mem_append.mp inside with inside | inside
    · rcases List.mem_append.mp inside with inside | inside
      · exact absurd inside (by decide +kernel)
      · exact Json.ofNat_single_line digits inside
    · exact absurd inside (by decide +kernel)
  | _ => decide +kernel

/-- The text of a fault is a single line. -/
theorem Json.Fault.single_line (fault : Json.Fault) (s : Text) : '\n' ∉ fault.message s := by
  unfold Json.Fault.message
  split
  · simp [fault.cause.single_line, Json.ofNat_single_line]
  · exact fault.cause.single_line

/-- Errors are set off within a line. -/
theorem Palette.error_single_line {text : Text} (single : '\n' ∉ text) (palette : Palette) :
    '\n' ∉ palette.error text := by
  unfold Palette.error Palette.styled
  split
  · simp [Palette.sequence, single]
  · exact single

namespace CommandLine

variable {h : Host} {environment : Environment} {isTerminal debug : Bool} {argv : List Text}
  {arguments : ResolveArguments} {text : Text} {fault : Json.Fault}

/-- A run refuses a configuration: it ends with status two, and all that it writes is one line to
the standard error, which says why. -/
structure Refuses (output : Output) (reason : Text) : Prop where
  status : output.ending = .exit 2
  silent : output.stdout = []
  message : ∃ shown, Shown ("Error: --config is not valid JSON: ".toList ++ reason) shown ∧
    '\n' ∉ shown ∧ output.stderr = shown ++ ['\n']

/-- A run whose configuration is no document ends with the fault of the document, if there is room
to read up to it. -/
theorem run_unreadable
    (parsed : parseArguments argv = .ok ⟨some (.resolve arguments), debug⟩)
    (given : arguments.configuration = .text text)
    (fits : Json.overflow? h.room.containers text = none)
    (unreadable : Json.parse text = .error fault) :
    run h environment isTerminal argv
      = match fault.cause with
        | .integerTooLong digits => ⟨.raised (.integerUnreadable digits), [], []⟩
        | _ => ⟨.exit statusError, [],
            line ((Palette.choose environment isTerminal arguments.noColor).error
              ("Error: ".toList ++ ("--config is not valid JSON: ".toList
                ++ fault.message text)))⟩ := by
  simp only [run, parsed, runCommand, Command.noColor, runResolve, readConfiguration, given, fits,
    unreadable]
  cases fault.cause <;> cases debug <;> rfl

/-- A report on a fault of the notation refuses the configuration. -/
theorem refuses_reported (palette : Palette) (fault : Json.Fault) (text : Text) :
    Refuses ⟨.exit statusError, [], line (palette.error
      ("Error: ".toList ++ ("--config is not valid JSON: ".toList ++ fault.message text)))⟩
      (fault.message text) where
  status := rfl
  silent := rfl
  message := by
    have single : '\n' ∉ "Error: --config is not valid JSON: ".toList ++ fault.message text := by
      simp [fault.single_line text]
    exact ⟨_, shown_styled palette ["1", "31"] _, Palette.error_single_line single palette, rfl⟩

/-- A configuration with a fault of the notation is refused, whatever the file tree, the environment
and the other arguments are, if there is room to read up to the fault. The one other reason for
which a text is no document is an integer that is too long and stands in it where the fault says:
nobody handles it, and the run ends with a fault and without a word. -/
theorem refused_unless_overlong
    (parsed : parseArguments argv = .ok ⟨some (.resolve arguments), debug⟩)
    (given : arguments.configuration = .text text)
    (fits : Json.overflow? h.room.containers text = none)
    (unreadable : Json.parse text = .error fault) :
    (fault.isSyntax = true →
      Refuses (run h environment isTerminal argv) (fault.message text)) ∧
    (fault.isSyntax = false →
      (∀ reason, ¬ Refuses (run h environment isTerminal argv) reason) ∧
      ∃ (before : Text) (n : Json.Numeral) (after : Text), text = before ++ (n.text ++ after) ∧
        before.length = fault.offset ∧ n.Integral ∧ digitLimit < n.whole.length ∧
        run h environment isTerminal argv
          = ⟨.raised (.integerUnreadable n.whole.length), [], []⟩) := by
  have ended : run h environment isTerminal argv = _ := run_unreadable parsed given fits unreadable
  constructor
  · intro misspelled
    have reported := refuses_reported
      (Palette.choose environment isTerminal arguments.noColor) fault text
    rw [ended]
    unfold Json.Fault.isSyntax at misspelled
    split
    · next overlong => simp [overlong] at misspelled
    · exact reported
  · intro wellWritten
    obtain ⟨before, n, after, cut, place, integral, long, cause⟩ :=
      Json.parse_overlong unreadable wellWritten
    rw [cause] at ended
    refine ⟨fun reason refuses => ?_, before, n, after, cut, place, integral, long, ended⟩
    have status := refuses.status
    rw [ended] at status
    cases status

/-- No files, and a working directory that is gone. -/
def adrift : Host := ⟨⟨[]⟩, none, .usual⟩

/-- A mark at the start of a document is refused before the file is looked for, with the log on. -/
theorem refused_unless_overlong_mark :
    Refuses (run adrift [("FORCE_COLOR".toList, "1".toList)] false
        ["--debug".toList, "resolve".toList, "x".toList, "a.js".toList, "--config".toList,
          "\uFEFF{}".toList])
      "Unexpected UTF-8 BOM (decode using utf-8-sig): line 1 column 1 (char 0)".toList := by
  have parsed : parseArguments ["--debug".toList, "resolve".toList, "x".toList, "a.js".toList,
      "--config".toList, "\uFEFF{}".toList] = .ok ⟨some (.resolve ⟨"x".toList, some "a.js".toList,
        .text "\uFEFF{}".toList, ".babelrc".toList, none, false, false⟩), true⟩ := by
    decide +kernel
  have unreadable : Json.parse "\uFEFF{}".toList = .error ⟨.byteOrderMark, 0⟩ := rfl
  have reason : Json.Fault.message ⟨.byteOrderMark, 0⟩ "\uFEFF{}".toList
      = "Unexpected UTF-8 BOM (decode using utf-8-sig): line 1 column 1 (char 0)".toList := by
    decide +kernel
  rw [← reason]
  have fits : Json.overflow? adrift.room.containers "\uFEFF{}".toList = none :=
    Json.overflow?_of_length (by decide)
  exact (refused_unless_overlong parsed rfl fits unreadable).1 rfl

/-- An integer with one digit more than are converted. -/
def overlong : Text := List.replicate (digitLimit + 1) '1'

/-- Not every text that is no document is refused: an integer that is too long ends the run with a
fault. -/
theorem overlong_not_refused :
    ¬ ∀ (h : Host) (environment : Environment) (isTerminal debug : Bool) (argv : List Text)
        (arguments : ResolveArguments) (text : Text) (fault : Json.Fault),
      parseArguments argv = .ok ⟨some (.resolve arguments), debug⟩ →
      arguments.configuration = .text text → Json.overflow? h.room.containers text = none →
      Json.parse text = .error fault →
      ∃ reason, Refuses (run h environment isTerminal argv) reason := by
  intro always
  have parsed : parseArguments ["resolve".toList, "x".toList, "a.js".toList, "--root".toList,
      "/".toList, "--config".toList, overlong] = .ok ⟨some (.resolve _), false⟩ :=
    parse_resolve_given (by decide) (by decide) (by decide) (by decide)
  have stopped : (Json.parse overlong).map (fun _ => ()) = .error ⟨.integerTooLong 4301, 0⟩ := by
    decide +kernel
  have unreadable := Except.map_eq_error.mp stopped
  have fits : Json.overflow? adrift.room.containers overlong = none := by decide +kernel
  obtain ⟨reason, refuses⟩ := always adrift [] false false _ _ _ _ parsed rfl fits unreadable
  have ended : run adrift [] false _ = _ := run_unreadable parsed rfl fits unreadable
  have status := refuses.status
  rw [ended] at status
  cases status

end CommandLine
end ImportResolution
