import SyncLayer.Session.Answer

/-!
# Steps on the process

The settings of the process, the statistics of its threads, the registry of its locks, and
what is printed about them.
-/

namespace SyncLayer.Session

/-- A measurement that stands for the one of a calibration; it shows the rate of the
platform. -/
def nominalMeasurement : Measurement :=
  { cycles := 130000000, nanoseconds := 50000000 }

/-- The settings as they are read back. -/
def settingsView : Deed Outcome SettingsView := do
  return .of (← get).settings

/-- Change the settings, and read them back. -/
def changeSettings (f : Settings → Settings) : Deed Outcome Outcome := do
  modify (fun w => { w with settings := f w.settings })
  return .settings (← settingsView)

/-- Install a configuration, and read the settings back. -/
def apply (c : Config) : Deed Outcome Outcome := do
  modify (fun w => { w with settings := w.settings.install c nominalMeasurement })
  let view ← settingsView
  if c.calibrateClock ∧ c.cyclesPerSecond = none then
    return .settings { view with rate := none }
  else return .settings view

/-- Set the process up: the configuration that is found is installed, and where none is found
nothing changes. -/
def setUp (env : Environment) (files : String → FileContents) (s : Settings) (m : Measurement) :
  Except LayerError Config × Settings
  :=
  match Config.discover env files with
  | .ok c => (.ok c, s.install c m)
  | .error e => (.error (.config e), s)

/-- Set the process up, and read the settings back. -/
def setUpStep (env : Environment) (files : String → FileContents) (quietly : Bool) :
  Deed Outcome Outcome
  := do
  let w ← get
  let (result, settings) := setUp env files w.settings nominalMeasurement
  set { w with settings }
  return .setUp (if quietly then none else some result) (← settingsView)

/-! ### Statistics of threads -/

/-- Print the totals after merging the thread's shadow into them, and reset them. Totals
without operations are reset too, but not printed. -/
def printSummary (t : ThreadId) (stdout : Sink) : Deed Outcome (Except Fault Unit × Sink) := do
  flush t
  let w ← get
  let totals := w.totals
  set { w with totals := Tally.zero }
  if totals.operations = 0 then return (.ok (), stdout)
  match stdout.writeText (totals.formatted w.settings ++ "\n") with
  | (.ok _, stdout) => return (.ok (), stdout)
  | (.error (.system e), stdout) => return (.error (.printFailed e), stdout)
  | (.error _, stdout) => return (.error (.printFailed .brokenPipe), stdout)

/-! ### The registry -/

/-- What the registry sees of its locks. -/
def entries (w : World Outcome) : List LockEntry :=
  w.registry.filterMap (fun place => w.locks[place]?.map (fun l => .ofLock l.lock.base))

/-- The world with the counters of registered locks reset whose entries are. -/
def resetWritten (before after : List LockEntry) (w : World Outcome) : World Outcome :=
  let written := (w.registry.zip (before.zip after)).filter (fun e => e.2.1 != e.2.2)
  written.foldl (fun w e => w.changeLock e.1 (TimedLock.mapBase Lock.resetStats)) w

/-- Write the reports of the registered locks. -/
def writeReports (sink : Sink) :
  Deed Outcome (Except Fault (Except WriteError Unit) × Sink)
  := do
  let w ← get
  let before := entries w
  let (r, after, sink) := LockEntry.writeAll w.settings before sink
  set (resetWritten before after w)
  return (r, sink)

/-- Print the reports of the registered locks. An error of writing is not passed on. -/
def printReports (stdout : Sink) : Deed Outcome (Except Fault Unit × Sink) := do
  let (r, stdout) ← writeReports stdout
  return (r.map (fun _ => ()), stdout)

/-- Print the reports of the registered locks and the totals. -/
def printAll (t : ThreadId) (stdout : Sink) : Deed Outcome (Except Fault Unit × Sink) := do
  let (r, stdout) ← printReports stdout
  match r with
  | .ok _ => printSummary t stdout
  | .error f => return (.error f, stdout)

/-- What was printed, with the end of printing. -/
def printed (r : Except Fault Unit × Sink) : Outcome :=
  .printed r.1 r.2.text

end SyncLayer.Session
