import Foreman.Shell.Host

/-!
# `Foreman.Main` — the program
-/

namespace Foreman

/-- What a path leads to. -/
def readContents (path : String) : IO Contents := do
  if path.contains '\x00' then return .error .nullInPath
  try return .ok (← IO.FS.readBinFile path)
  catch
    | .noFileOrDirectory .. => return .error .missing
    | .permissionDenied .. => return .error .denied
    | .inappropriateType _ code _ => return .error (if code = 21 then .directory else .blocked)
    | e => throw e

/-- The files that commands find: the workflow file, if it is in the present folder. -/
def startFiles (path : String) (contents : Contents) : Shell.Files :=
  match contents with
  | .ok data =>
    if path.contains '/' then {}
    else Shell.Files.provide {} path (data.toList.map fun b => Char.ofNat b.toNat)
  | .error _ => {}

/-- The text that explains the arguments. -/
def usage : String :=
  "Validate, schedule and run a task DAG across a pool of agents.\n\n" ++
  "Usage: agentdag [OPTIONS]\n\n" ++
  "Options:\n" ++
  "      --config <PATH>          Path to the workflow file [default: Workflow.toml]\n" ++
  "      --log-level <LEVEL>      Logging level (error, warn, info, debug, trace)\n" ++
  "      --dry-run                Print the plan, but run no task\n" ++
  "      --dot                    Print the dependency graph and exit\n" ++
  "      --max-concurrency <N>    Override the concurrency of the workflow file\n" ++
  "  -h, --help                   Print help\n" ++
  "  -V, --version                Print version\n"

/-- How refused arguments are reported. -/
def Refusal.text : Refusal → String
  | helpWanted => usage
  | versionWanted => "agentdag 0.1.0\n"
  | repeatedOption => "error: an option cannot be used several times\n"
  | badValue => "error: a value is missing or not possible\n"
  | badNumber => "error: a value is not a number\n"
  | unexpectedValue => "error: an option takes no value\n"
  | unknownArgument => "error: unexpected argument found\n"

/-- Runs the program. -/
def start (arguments : List String) : IO UInt32 := do
  match Arguments.parse arguments with
  | .error r =>
    if r.exitStatus = 0 then IO.print r.text else IO.eprint r.text
    return r.exitStatus.toUInt32
  | .ok a =>
    let contents ← readContents a.config
    let outcome := launch a (Shell.host (startFiles a.config contents) contents Report.seconds)
    IO.print outcome.stdout
    IO.eprint outcome.stderr
    match outcome.error with
    | none => return 0
    | some e =>
      IO.eprintln ("agentdag error: " ++ e.message)
      return 1

end Foreman

/-- The entry of the program. -/
def main (arguments : List String) : IO UInt32 := Foreman.start arguments
