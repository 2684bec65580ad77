import SyncLayer.Error.Config
import SyncLayer.Text.Blank
import SyncLayer.Text.LowerCase

/-!
# Overrides

Variables of the environment override the fields of a configuration, each its own field. The
texts of numbers may have blanks around them; the names of formats and truth values are read up
to case. The fields are visited in a fixed order, and the first text that means nothing decides
the error.
-/

namespace SyncLayer.Config

/-- The variable that names the configuration file. -/
def fileVariable : String := "TYPTHON_SYNC_CONFIG"

/-- The variable of the contention threshold. -/
def thresholdVariable : String := "TYPTHON_SYNC_CONTENTION_THRESHOLD"

/-- The variable of the conversion rate. -/
def rateVariable : String := "TYPTHON_SYNC_CYCLES_PER_SEC"

/-- The variable of calibration. -/
def calibrateVariable : String := "TYPTHON_SYNC_CALIBRATE"

/-- The variable of the flush interval. -/
def intervalVariable : String := "TYPTHON_SYNC_FLUSH_INTERVAL"

/-- The variable of the report format. -/
def formatVariable : String := "TYPTHON_SYNC_STATS_FORMAT"

/-! ### Texts of values -/

/-- The number that a text denotes for a field. -/
def readNumber (key : String) (s : String) : Except ConfigError UInt64 :=
  match Decimal.readUInt64? (Text.trim s.toList) with
  | some n => .ok n
  | none => .error (.invalidValue key s)

/-- The rate that a text denotes; zero leaves the rate open. -/
def readRate (s : String) : Except ConfigError (Option UInt64) := do
  let n ← readNumber "cycles_per_second" s
  return if n = 0 then none else some n

/-- Whether a text switches calibration on. -/
def readSwitch (s : String) : Bool :=
  s == "1" || Text.readsAs "true" s

/-- The format that a text names. -/
def readFormat (s : String) : Except ConfigError StatsFormat :=
  if Text.readsAs "text" s then .ok .text
  else if Text.readsAs "json" s then .ok .json
  else .error (.invalidValue "stats_format" s)

/-! ### Overriding -/

/-- The value of a field: what its variable denotes, or the old value if it is not set. -/
def overridden {α : Type} (read : String → Except ConfigError α) (old : α) :
  Option String → Except ConfigError α
  | some s => read s
  | none => .ok old

/-- The configuration with the fields replaced whose variables are set. -/
def withOverrides (c : Config) (lookup : String → Option String) : Except ConfigError Config := do
  let contentionThreshold ←
    overridden (readNumber "contention_threshold_cycles") c.contentionThreshold
      (lookup thresholdVariable)
  let cyclesPerSecond ← overridden readRate c.cyclesPerSecond (lookup rateVariable)
  let calibrateClock ←
    overridden (fun s => .ok (readSwitch s)) c.calibrateClock (lookup calibrateVariable)
  let flushInterval ←
    overridden (readNumber "refcount_flush_interval") c.flushInterval (lookup intervalVariable)
  let statsFormat ← overridden readFormat c.statsFormat (lookup formatVariable)
  return { contentionThreshold, cyclesPerSecond, calibrateClock, flushInterval, statsFormat }

end SyncLayer.Config
