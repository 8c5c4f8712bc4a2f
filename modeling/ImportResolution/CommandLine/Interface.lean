import ImportResolution.CommandLine.Arguments
import ImportResolution.Configuration.Discovery

/-!
The commands of the tool, their switches and operands, and the texts that explain them.
-/
namespace ImportResolution.CommandLine

/-- The name under which the tool speaks of itself. -/
def programName : String := "rootalias"

/-- The version of the tool. -/
def version : String := "1.0.0"

/-- The version of the form in which answers are exchanged. -/
def interfaceVersion : Nat := 2

/-- What a switch is for. -/
inductive Key where
  | help
  | version
  | debug
  | configuration
  | fileName
  | root
  | json
  | noColor
  deriving DecidableEq, Repr

/-- A switch with its names. -/
def switchNamed (key : Key) (kind : SwitchKind) (names : List String) : Switch Key :=
  ⟨key, names.map String.toList, kind⟩

/-- The switches of the tool itself, and the command with everything after it. -/
def mainSignature : Signature Key where
  switches :=
    [switchNamed .help .final ["-h", "--help"], switchNamed .version .final ["-v", "--version"],
     switchNamed .debug .flag ["--debug"]]
  operands := [("<command>".toList, .remainder)]

/-- The switches and operands of the command that resolves a specifier. -/
def resolveSignature : Signature Key where
  switches :=
    [switchNamed .help .final ["-h", "--help"],
     switchNamed .configuration .value ["--config"],
     switchNamed .fileName .value ["--config-file"],
     switchNamed .root .value ["--root"],
     switchNamed .json .flag ["--json"],
     switchNamed .noColor .flag ["--no-color"]]
  operands := [("source".toList, .one), ("file".toList, .one)]

/-- The switches and operands of the command that shows the configuration. -/
def locateSignature : Signature Key where
  switches :=
    [switchNamed .help .final ["-h", "--help"],
     switchNamed .fileName .value ["--config-file"],
     switchNamed .json .flag ["--json"],
     switchNamed .noColor .flag ["--no-color"]]
  operands := [("directory".toList, .optional)]

/-- A part of the tool that reads arguments of its own. -/
inductive Part where
  | main
  | resolve
  | locate
  deriving DecidableEq, Repr

/-- The commands by name. -/
def commands : List (Text × Part) := [("resolve".toList, .resolve), ("locate".toList, .locate)]

/-- Lines, each with its line feed. -/
def lines (texts : List String) : Text := texts.flatMap fun text => text.toList ++ ['\n']

/-- What a part is called in its messages. -/
def Part.name : Part → String
  | main => "rootalias"
  | resolve => "rootalias resolve"
  | locate => "rootalias locate"

/-- How a part is used, in short. -/
def Part.usage : Part → Text
  | main => lines ["usage: rootalias [-h] [-v] [--debug] <command> ..."]
  | resolve => lines
    ["usage: rootalias resolve [-h] [--config CONFIG] [--config-file CONFIG_FILE]",
     "                         [--root ROOT] [--json] [--no-color]",
     "                         source file"]
  | locate => lines
    ["usage: rootalias locate [-h] [--config-file CONFIG_FILE] [--json] [--no-color]",
     "                        [directory]"]

/-- How a part is used, in full. -/
def Part.help : Part → Text
  | main => main.usage ++ lines
    ["",
     "Resolve babel-plugin-root-import aliases to real files",
     "",
     "positional arguments:",
     "  <command>",
     "    resolve      Resolve an import specifier",
     "    locate       Show the root-import configuration in effect",
     "",
     "options:",
     "  -h, --help     show this help message and exit",
     "  -v, --version  show program's version number and exit",
     "  --debug        Enable debug logging",
     "",
     "Run 'rootalias <command> --help' for more information on a command."]
  | resolve => resolve.usage ++ lines
    ["",
     "Resolve an import specifier, rewriting root-import aliases first.",
     "",
     "positional arguments:",
     "  source                Import specifier, e.g. ~/utils or ./helpers",
     "  file                  File containing the import",
     "",
     "options:",
     "  -h, --help            show this help message and exit",
     "  --config CONFIG       Alias configuration as JSON, e.g. '[\x7b\"rootPathPrefix\":",
     "                        \"@\"\x7d]'",
     "  --config-file CONFIG_FILE",
     "                        Babel config file name (default: .babelrc)",
     "  --root ROOT           Project root, and where config discovery starts",
     "                        (default: cwd)",
     "  --json                Output the result as JSON",
     "  --no-color            Disable colored output",
     "",
     "Example: rootalias resolve \"~/utils/helpers\" src/app.js"]
  | locate => locate.usage ++ lines
    ["",
     "Walk up from a directory and print the babel root-import configuration.",
     "",
     "positional arguments:",
     "  directory             Directory to start from (default: cwd)",
     "",
     "options:",
     "  -h, --help            show this help message and exit",
     "  --config-file CONFIG_FILE",
     "                        Babel config file name (default: .babelrc)",
     "  --json                Output as JSON",
     "  --no-color            Disable colored output",
     "",
     "Example: rootalias locate /my/project/src"]

/-- What a switch or an operand is given: nothing, a text, or, after two dashes have been dropped,
something that is no text. -/
inductive Given where
  | absent
  | text (value : Text)
  | noText
  deriving DecidableEq, Repr

/-- The text that was given; without one there is none. -/
def Given.text? : Given → Option Text
  | text value => some value
  | _ => none

/-- What the arguments of the command `resolve` say. The file is missing if what stands in its
place is no single text. -/
structure ResolveArguments where
  specifier : Text
  file? : Option Text
  configuration : Given
  fileName : Text
  root? : Option Text
  json : Bool
  noColor : Bool
  deriving DecidableEq, Repr

/-- What the arguments of the command `locate` say. -/
structure LocateArguments where
  directory? : Option Text
  fileName : Text
  json : Bool
  noColor : Bool
  deriving DecidableEq, Repr

/-- A command with its arguments. -/
inductive Command where
  | resolve (arguments : ResolveArguments)
  | locate (arguments : LocateArguments)
  deriving DecidableEq, Repr

/-- Whether a command is to do without colors. -/
def Command.noColor : Command → Bool
  | resolve arguments => arguments.noColor
  | locate arguments => arguments.noColor

/-- What all arguments say: the command, if there is one, and whether events are shown. -/
structure Invocation where
  command? : Option Command
  debug : Bool
  deriving DecidableEq, Repr

/-- Why there is nothing to run: an explanation was asked for, or the arguments are wrong. -/
inductive Dismissal where
  | help (part : Part)
  | version
  | misuse (part : Part) (message : Text)
  deriving DecidableEq, Repr

/-- What was last given to a switch. -/
def lastGiven (settings : List (Setting Key)) (key : Key) : Given :=
  match settings.reverse.find? (·.key = key) with
  | none => .absent
  | some setting =>
    match setting.value? with
    | some value => .text value
    | none => .noText

/-- The name of the configuration file: the usual one if the switch is absent, and none if it is
given no text. -/
def fileNameGiven (settings : List (Setting Key)) : Text :=
  match lastGiven settings .fileName with
  | .absent => Configuration.defaultFileName
  | .text value => value
  | .noText => []

/-- Whether a switch was given. -/
def isGiven (settings : List (Setting Key)) (key : Key) : Bool :=
  settings.any (·.key = key)

/-- The dismissal that a halt means in a part. -/
def dismissal (part : Part) : Halt Key → Dismissal
  | .final .version => .version
  | .final _ => .help part
  | .misuse message => .misuse part message

/-- The argument of an operand that takes a single one. -/
def single? : Option (List Text) → Option Text
  | some [text] => some text
  | _ => none

/-- The arguments of the command `resolve`. -/
def resolveArguments (parsed : Parsed Key) : ResolveArguments where
  specifier := (single? parsed.operands[0]?).getD []
  file? := single? parsed.operands[1]?
  configuration := lastGiven parsed.settings .configuration
  fileName := fileNameGiven parsed.settings
  root? := (lastGiven parsed.settings .root).text?
  json := isGiven parsed.settings .json
  noColor := isGiven parsed.settings .noColor

/-- The arguments of the command `locate`. -/
def locateArguments (parsed : Parsed Key) : LocateArguments where
  directory? := single? parsed.operands[0]?
  fileName := fileNameGiven parsed.settings
  json := isGiven parsed.settings .json
  noColor := isGiven parsed.settings .noColor

/-- Reads the arguments of a command. Gives the command and the arguments that belong to
nothing. -/
def parseCommand (part : Part) (arguments : List Text) :
    Except Dismissal (Option Command × List Text) :=
  match part with
  | .main => .ok (none, arguments)
  | .resolve =>
    match resolveSignature.parse arguments with
    | .error halt => .error (dismissal .resolve halt)
    | .ok parsed => .ok (some (.resolve (resolveArguments parsed)), parsed.extras)
  | .locate =>
    match locateSignature.parse arguments with
    | .error halt => .error (dismissal .locate halt)
    | .ok parsed => .ok (some (.locate (locateArguments parsed)), parsed.extras)

/-- The message for a command that there is none of. -/
def unknownCommand (name : Text) : Text :=
  "argument <command>: invalid choice: ".toList ++ name.quoted ++ " (choose from ".toList
    ++ Text.joinWith ", " (commands.map fun command => command.1.quoted) ++ ")".toList

/-- Reads the command and its arguments, if there is a command. -/
def parseOperands : List (List Text) → Except Dismissal (Option Command × List Text)
  | (name :: arguments) :: _ =>
    match commands.lookup name with
    | none => .error (.misuse .main (unknownCommand name))
    | some part => parseCommand part arguments
  | _ => .ok (none, [])

/-- Reads all arguments. Arguments that belong to nothing are refused in the end, those before the
command first. -/
def parseArguments (arguments : List Text) : Except Dismissal Invocation :=
  match mainSignature.parse arguments with
  | .error halt => .error (dismissal .main halt)
  | .ok parsed =>
    match parseOperands parsed.operands with
    | .error dismissal => .error dismissal
    | .ok (command?, extras) =>
      match parsed.extras ++ extras with
      | [] => .ok ⟨command?, isGiven parsed.settings .debug⟩
      | extras => .error (.misuse .main ("unrecognized arguments: ".toList
          ++ Text.joinWith " " extras))

end ImportResolution.CommandLine
