import ImportResolution.CommandLine.Interface
import ImportResolution.Json.Printer
import ImportResolution.Resolution
import ImportResolution.Terminal.Palette

/-!
Running the tool: from arguments, environment and file tree to what is written and how the run
ends. A specifier that is not found and a plugin that is not configured end it with status one,
usage errors and malformed configurations with status two; all other faults are not the tool's to
handle.
-/
namespace ImportResolution.CommandLine

/-- How a run ends: with a status, or with a fault that nobody handles. -/
inductive Ending where
  | exit (status : Nat)
  | raised (fault : Fault)
  deriving DecidableEq, Repr

/-- What a run writes, and how it ends. -/
structure Output where
  ending : Ending
  stdout : Text
  stderr : Text
  deriving DecidableEq, Repr

/-- The status when the specifier was found. -/
def statusFound : Nat := 0

/-- The status when the specifier was not found or the plugin is not configured. -/
def statusNotFound : Nat := 1

/-- The status after an error of the user. -/
def statusError : Nat := 2

/-- A line of output. -/
def line (text : Text) : Text := text ++ ['\n']

/-- The name of a reporter in the log. -/
def reporterName : Reporter → Text
  | .discovery => "rootalias.config_locator".toList
  | .resolution => "rootalias.alias_resolver".toList
  | .search => "rootalias.node_resolver".toList

/-- The line of an event in the log. -/
def logLine (event : Event) : Text :=
  line ("DEBUG:".toList ++ reporterName event.reporter ++ ":".toList ++ event.message)

/-- What is written instead of running a command. -/
def dismissed : Dismissal → Output
  | .help part => ⟨.exit 0, part.help, []⟩
  | .version => ⟨.exit 0, line (programName.toList ++ ' ' :: version.toList), []⟩
  | .misuse part message =>
    ⟨.exit 2, [], part.usage ++ line (part.name.toList ++ ": error: ".toList ++ message)⟩

/-- Why a command writes no answer: a message to the user, or a fault. -/
inductive Failure where
  | reported (message : Text)
  | raised (fault : Fault)
  deriving DecidableEq, Repr

/-- A malformed configuration is reported, any other fault raised. -/
def Failure.ofFault : Fault → Failure
  | .configuration path fault => .reported (Fault.configuration path fault).message
  | fault => .raised fault

/-- What a command has to say: the standard output and the status or the failure. -/
structure Answer where
  stdout : Text
  result : Except Failure Nat
  events : List Event

/-- The answer of a command that fails before it writes anything. -/
def Answer.failure (failure : Failure) (events : List Event) : Answer :=
  ⟨[], .error failure, events⟩

/-- The configuration in an argument; without the argument it is null. Neither an integer with too
many digits nor a text for which there is no room is reported as a fault of the notation. -/
def readConfiguration (room : Room) : Given → Except Failure Json
  | .absent => .ok .null
  | .noText => .error (.raised .wrongType)
  | .text text =>
    match Json.overflow? room.containers text with
    | some container => .error (.raised (.exhausted (.container container)))
    | none =>
      match Json.parse text with
      | .ok value => .ok value
      | .error fault =>
        match fault.cause with
        | .integerTooLong digits => .error (.raised (.integerUnreadable digits))
        | _ => .error (.reported ("--config is not valid JSON: ".toList ++ fault.message text))

/-- The line that answers the command `resolve`. -/
def resolutionLine (palette : Palette) (specifier : Text) (json : Bool) (answer : Resolution) :
    Text :=
  line <|
    if json then answer.toJson.print
    else match answer.target with
      | .coreModule => palette.yellow (specifier ++ " (builtin)".toList)
      | .file path => palette.green path
      | .missing => palette.error (specifier ++ ": not found".toList)

/-- The request that the arguments of the command `resolve` make. -/
def ResolveArguments.request (arguments : ResolveArguments) (file : Text) (configuration : Json) :
    Request where
  specifier := arguments.specifier
  file := file
  configuration := configuration
  fileName := arguments.fileName
  root? := arguments.root?

/-- Runs the command `resolve`. -/
def runResolve (h : Host) (palette : Palette) (arguments : ResolveArguments) : Answer :=
  match readConfiguration h.room arguments.configuration with
  | .error failure => .failure failure []
  | .ok configuration =>
    match arguments.file? with
    | none => .failure (.raised .wrongType) []
    | some file =>
      match h.absolute file with
      | .error fault => .failure (.ofFault fault) []
      | .ok file =>
        let traced := (arguments.request file configuration).resolve h
        match traced.outcome with
        | .error fault => .failure (.ofFault fault) traced.events
        | .ok answer =>
          { stdout := resolutionLine palette arguments.specifier arguments.json answer
            result := .ok (if answer.found then statusFound else statusNotFound)
            events := traced.events }

/-- A configuration of aliases in the form in which it is printed. -/
def locatedJson (configuration : Configuration.Located) : Json :=
  .obj [("configured".toList, .bool true), ("root".toList, .str configuration.root),
    ("source".toList, (configuration.source?.map Json.str).getD .null),
    ("entries".toList, .arr configuration.entries)]

/-- The lines that show a configuration before its entries. -/
def locatedLines (palette : Palette) (configuration : Configuration.Located) : Text :=
  let source := match configuration.source? with
    | some source => palette.cyan source
    | none => "(none, using defaults)".toList
  line (palette.dim "root:".toList ++ "    ".toList ++ palette.cyan configuration.root)
    ++ line (palette.dim "source:".toList ++ "  ".toList ++ source)

/-- The answer that shows a configuration. Its entries come last, and an integer in them that has
too many digits ends the run there. -/
def showLocated (palette : Palette) (json : Bool) (configuration : Configuration.Located)
    (events : List Event) : Answer :=
  let entries := Json.arr configuration.entries
  if json then
    if entries.isWritable then
      ⟨line (locatedJson configuration).printBlock, .ok statusFound, events⟩
    else .failure (.raised .integerUnwritable) events
  else
    let before := locatedLines palette configuration
    if entries.isWritable then
      ⟨before ++ line (palette.dim "entries:".toList ++ ' ' :: entries.print), .ok statusFound,
        events⟩
    else ⟨before, .error (.raised .integerUnwritable), events⟩

/-- The line that says that the plugin is not configured. -/
def notListedLine (palette : Palette) (json : Bool) : Text :=
  line <|
    if json then (Json.obj [("configured".toList, .bool false)]).print
    else palette.yellow "root-import plugin is not configured".toList

/-- Runs the command `locate`. -/
def runLocate (h : Host) (palette : Palette) (arguments : LocateArguments) : Answer :=
  let traced := Configuration.discover h arguments.directory? arguments.fileName
  match traced.outcome with
  | .error fault => .failure (.ofFault fault) traced.events
  | .ok .notListed =>
    ⟨notListedLine palette arguments.json, .ok statusNotFound, traced.events⟩
  | .ok (.located configuration) =>
    showLocated palette arguments.json configuration traced.events

/-- Runs a command. -/
def runCommand (h : Host) (palette : Palette) : Command → Answer
  | .resolve arguments => runResolve h palette arguments
  | .locate arguments => runLocate h palette arguments

/-- The output for an answer; events are shown on request. -/
def Answer.output (answer : Answer) (palette : Palette) (debug : Bool) : Output :=
  let log := if debug then answer.events.flatMap logLine else []
  match answer.result with
  | .ok status => ⟨.exit status, answer.stdout, log⟩
  | .error (.reported message) =>
    ⟨.exit statusError, answer.stdout,
      log ++ line (palette.error ("Error: ".toList ++ message))⟩
  | .error (.raised fault) => ⟨.raised fault, answer.stdout, log⟩

/-- Runs the tool. -/
def run (h : Host) (environment : Environment) (isTerminal : Bool) (arguments : List Text) :
    Output :=
  match parseArguments arguments with
  | .error dismissal => dismissed dismissal
  | .ok invocation =>
    match invocation.command? with
    | none => dismissed (.help .main)
    | some command =>
      let palette := Palette.choose environment isTerminal command.noColor
      (runCommand h palette command).output palette invocation.debug

end ImportResolution.CommandLine
