import ImportResolution.CommandLine.Run
import ImportResolution.FileTree.Snapshot
import ImportResolution.Json.Reader

/-!
The command line. The file tree is given as a JSON snapshot on the standard input, and the working
directory and the look of the output by the environment.
-/
open ImportResolution

/-- The variables of the environment that matter to a run. -/
def readEnvironment : IO Environment := do
  let mut environment : Environment := []
  for name in ["NO_COLOR", "FORCE_COLOR", "TERM", "PWD"] do
    if let some value ← IO.getEnv name then
      environment := (name.toList, value.toList) :: environment
  return environment

/-- The host that the standard input and the environment describe. -/
def readHost (environment : Environment) : IO (Option Host) := do
  let input ← (← IO.getStdin).getLine
  let tree? := match Json.parse input.toList with
    | .ok snapshot => FileTree.ofJson? snapshot
    | .error _ => none
  let directory := match environment.value "PWD" with
    | [] => ['/']
    | directory => directory
  return tree?.map (Host.ofTree · (some directory))

/-- Runs the tool on the arguments. -/
def main (arguments : List String) : IO UInt32 := do
  let environment ← readEnvironment
  match ← readHost environment with
  | none =>
    (← IO.getStderr).putStrLn "The standard input holds no snapshot of a file tree."
    return 2
  | some host =>
    let stdout ← IO.getStdout
    let output :=
      CommandLine.run host environment (← stdout.isTty) (arguments.map String.toList)
    stdout.putStr (String.ofList output.stdout)
    let stderr ← IO.getStderr
    stderr.putStr (String.ofList output.stderr)
    match output.ending with
    | .exit status => return status.toUInt32
    | .raised fault =>
      stderr.putStrLn (String.ofList fault.message)
      return 1
