import SyncLayer.Fib.Arguments
import SyncLayer.Fib.Number
import SyncLayer.Logging.File
import SyncLayer.Logging.Filter
import SyncLayer.Session.Process

/-!
# The contention driver

The driver sets the layer up, computes the same Fibonacci number once for every worker, prints
each on a line of its own, and shuts the layer down. A configuration that cannot be had is
warned about, and the defaults stay in force.

A run crashes where it can have no filter of events, where its log file cannot be opened, where
there is no room for its workers, and where the number is too great for a word. In the last case a
run with workers at the same time goes on without them.
-/

namespace SyncLayer.Fib

/-- What a run of the driver leaves. A run that logs at all has a configuration of logging, even
if no event is logged. -/
structure Outcome where
  code : Nat
  stdout : String := ""
  stderr : String := ""
  log : Option LogConfig := none
  events : List LogEvent := []

namespace Outcome

/-- The outcome of a run that is declined. -/
def declined (message : String) : Outcome :=
  { code := 2, stderr := message ++ "\n" }

/-- The code of a run that crashes. -/
def crashCode : Nat := 101

/-- The outcome of a run that crashes before anything is done. -/
def crashed : Outcome :=
  { code := crashCode }

end Outcome

/-! ### Events -/

/-- The events of the installation of a configuration. -/
def installEvents (c : Config) (s : Settings) : List LogEvent :=
  [{ level := .debug, target := "typthon_sync::config"
     fields := [("message", .text "sync configuration applied"), ("config", .text c.shown.line)] },
    { level := .info, target := "typthon_sync::config"
      fields :=
        [("message", .text "synchronization layer configured"),
          ("threshold", .number c.contentionThreshold.toNat),
          ("cycles_per_sec", .number s.cyclesPerSecond.toNat)] },
    { level := .info, target := "typthon_sync"
      fields :=
        [("message", .text "typthon sync layer initialized"), ("backend", .text "futex"),
          ("lock_stats", .boolean false), ("time_refcounts", .boolean false)] }]

/-- The event of the lock that the workers share. -/
def lockEvent : LogEvent :=
  { level := .debug, target := "lock"
    fields := [("message", .text "registered lock"), ("lock", .text "globals dict")] }

/-- The field of the time that the workers took. -/
def elapsedField : String := "elapsed_ms"

/-- Milliseconds that stand for the time that the workers took. -/
def nominalElapsed : Nat := 0

/-- The events of the end of a run. -/
def endEvents (options : Options) : List LogEvent :=
  [{ level := .info, target := "fib_contention"
     fields :=
       [("message", .text "fib run complete"), ("workers", .number options.workers.toNat),
         ("serial", .boolean options.serial), (elapsedField, .number nominalElapsed)] },
    { level := .info, target := "typthon_sync"
      fields := [("message", .text "typthon sync layer shutting down")] }]

/-- The event of the end of a worker that fails. -/
def failureEvent : LogEvent :=
  { level := .error, target := "fib_contention"
    fields := [("message", .text "worker thread panicked")] }

/-! ### Workers -/

/-- The number of workers that there is room for at the same time. -/
def workerLimit : Nat := 32767

/-- Whether there is room for the workers. Those that come one after another need none. -/
def fits (options : Options) : Bool :=
  options.serial || options.workers.toNat ≤ workerLimit

/-- The line of a worker, if a word can hold its number. -/
def line? (options : Options) : Option String :=
  if options.depth.toNat ≤ depthLimit then
    some (Decimal.text (number options.depth.toNat) ++ "\n")
  else none

/-- What the workers print, and the events of those that fail. They crash the run if there is no
room for them, or if one fails that others would come after. -/
def work? (options : Options) : Option (String × List LogEvent) :=
  let workers := options.workers.toNat
  if !fits options then none
  else
    match line? options with
    | some line => some (String.join (List.replicate workers line), [])
    | none =>
      if options.serial ∧ workers ≠ 0 then none
      else some ("", List.replicate workers failureEvent)

/-! ### Runs -/

/-- The variables of the environment that the driver reads. -/
def variableNames : List String :=
  [Config.fileVariable, Config.thresholdVariable, Config.rateVariable, Config.calibrateVariable,
    Config.intervalVariable, Config.formatVariable, LogConfig.levelVariable,
    LogConfig.fileVariable, LogConfig.jsonVariable, LogFilter.filterVariable]

/-- The filter of events of an environment, if there can be one. -/
def filter? (env : Environment) : Option LogFilter :=
  LogFilter.ofEnvironment? env (.ofEnvironment env)

/-- The warning about an error. -/
def warning (e : LayerError) : String :=
  "warning: " ++ e.message?.getD "configuration error: failed to parse config" ++ "\n"

/-- Run the driver on an environment and files, with its log file open if it has one. -/
def run (env : Environment) (files : String → FileContents) (filter : LogFilter)
    (options : Options) :
  Outcome
  :=
  let (result, settings) := Session.setUp env files {} Session.nominalMeasurement
  let (stderr, installed) :=
    match result with
    | .ok c => ("", installEvents c settings)
    | .error e => (warning e, [])
  let log := some (LogConfig.ofEnvironment env)
  let logged (events : List LogEvent) := (installed ++ lockEvent :: events).filter filter.lets
  match work? options with
  | some (stdout, events) =>
    { code := 0, stdout, stderr, log, events := logged (events ++ endEvents options) }
  | none => { code := Outcome.crashCode, stderr, log, events := logged [] }

/-- The file that a run logs to, if it comes to that and has one. -/
def logFile? (arguments : List String) (env : Environment) : Option LogFile :=
  match Options.ofArguments arguments, filter? env with
  | .ok _, some _ => (LogConfig.ofEnvironment env).file?
  | _, _ => none

/-- Run the driver as a program with a name and arguments. The log file can be opened or not. -/
def invoke (program : String) (arguments : List String) (env : Environment)
    (files : String → FileContents) (isLogOpen : Bool) :
  Outcome
  :=
  match Options.ofArguments arguments with
  | .error e => .declined (e.message program)
  | .ok options =>
    match filter? env with
    | some filter => if isLogOpen then run env files filter options else .crashed
    | none => .crashed

end SyncLayer.Fib
