import SyncLayer.Json.Value
import SyncLayer.Text.Shown

/-!
# Configurations

A configuration says from which delay on an acquisition counts as contended, how cycles are
converted to seconds, how often threads merge their statistics, and in which format reports are
written.
-/

namespace SyncLayer

/-- The format of statistics reports. -/
inductive StatsFormat where
  | text
  | json
deriving DecidableEq, Repr

/-- The name of a format. -/
def StatsFormat.name : StatsFormat → String
  | .text => "text"
  | .json => "json"

/-- The format with a given name. -/
def StatsFormat.ofName? (name : String) : Option StatsFormat :=
  if name = "text" then some .text
  else if name = "json" then some .json
  else none

/-- The number of a format. -/
def StatsFormat.code : StatsFormat → Nat
  | .text => 0
  | .json => 1

/-- A format as it is shown. -/
def StatsFormat.shown : StatsFormat → Text.Shown
  | .text => .word "Text"
  | .json => .word "Json"

/-- The contention threshold in cycles where nothing else is configured. -/
def defaultThreshold : UInt64 := 250

/-- A configuration. Without a rate the clock is calibrated if `calibrateClock` says so, and the
rate of the platform is used otherwise. With a flush interval of zero threads keep their
statistics until they end. -/
structure Config where
  contentionThreshold : UInt64 := defaultThreshold
  cyclesPerSecond : Option UInt64 := none
  calibrateClock : Bool := false
  flushInterval : UInt64 := 0
  statsFormat : StatsFormat := .text
deriving DecidableEq, Repr

namespace Config

/-- The configuration where nothing is configured. -/
def default : Config := {}

instance : Inhabited Config := ⟨default⟩

/-- A configuration as it is shown. -/
def shown (c : Config) : Text.Shown :=
  .record "SyncConfig"
    [("contention_threshold_cycles", .number c.contentionThreshold.toNat),
      ("cycles_per_second", .option (fun (n : UInt64) => .number n.toNat) c.cyclesPerSecond),
      ("calibrate_clock", .boolean c.calibrateClock),
      ("refcount_flush_interval", .number c.flushInterval.toNat),
      ("stats_format", c.statsFormat.shown)]

/-- A configuration as a JSON value. -/
def json (c : Config) : Json :=
  .object
    [("contention_threshold_cycles", .natural c.contentionThreshold.toNat),
      ("cycles_per_second", (c.cyclesPerSecond.map (fun n => Json.natural n.toNat)).getD .null),
      ("calibrate_clock", .boolean c.calibrateClock),
      ("refcount_flush_interval", .natural c.flushInterval.toNat),
      ("stats_format", .text c.statsFormat.name)]

end Config

end SyncLayer
