import SyncLayer.Fib.Program
import SyncLayer.Logging.Line

/-!
# The command line of the contention driver

What the driver does is decided by its arguments, its environment, the configuration file that
the environment names, and whether its log file can be opened. They are found out here, and what
the run leaves is written.
-/

namespace SyncLayer.CommandLine

/-- The name that the driver goes by. -/
def program : String := "fib_contention"

/-- The variables of the environment. -/
def readEnvironment : IO Environment := do
  let bindings ← Fib.variableNames.filterMapM (fun name => do
    return (← IO.getEnv name).map (fun value => (name, value.toUTF8)))
  return { bindings }

/-- The error of the operating system behind an error of reading or writing. -/
def systemError : IO.Error → SystemError
  | .noFileOrDirectory .. => .notFound
  | .permissionDenied .. => .notPermitted
  | .inappropriateType .. => .isDirectory
  | .otherError code _ | .noSuchThing _ code _ | .invalidArgument _ code _
  | .resourceExhausted _ code _ | .illegalOperation code _ => { code := code.toNat }
  | _ => { code := 5 }

/-- What reading the configuration file gives. -/
def readFile (env : Environment) : IO FileContents := do
  let some path := env.lookup Config.fileVariable | return .error .notFound
  try
    return .ok (← IO.FS.readBinFile path)
  catch e => return .error (systemError e)

/-- Open a log file, after making its directory if need be. -/
def openLog (f : LogFile) : IO Bool := do
  let touch : IO Unit := IO.FS.withFile f.path .append (fun _ => pure ())
  try
    touch
    return true
  catch _ =>
    try
      IO.FS.createDirAll f.directory
      touch
      return true
    catch _ => return false

/-- Write the events of a run to the console and to the file that is logged to. -/
def writeLog (log : LogConfig) (events : List LogEvent) : IO Unit := do
  for e in events do
    IO.eprint (e.consoleLine log)
  if let some f := log.file? then
    IO.FS.withFile f.path .append (fun file =>
      file.putStr (String.join (events.map LogEvent.fileLine)))

end SyncLayer.CommandLine

open SyncLayer SyncLayer.CommandLine in
/-- Run the driver with arguments; its exit code. -/
def main (arguments : List String) : IO UInt32 := do
  let env ← readEnvironment
  let isLogOpen ←
    match Fib.logFile? arguments env with
    | some f => openLog f
    | none => pure true
  let file ← readFile env
  let outcome := Fib.invoke program arguments env (fun _ => file) isLogOpen
  IO.eprint outcome.stderr
  IO.print outcome.stdout
  if let some log := outcome.log then
    writeLog log outcome.events
  return .ofNat outcome.code
