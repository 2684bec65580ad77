import SyncLayer.Config.Source

/-!
# Configurations of logging

From which level on events are logged, to which file besides the console, and whether the
console shows them as JSON.
-/

namespace SyncLayer

/-- The level of an event, from the most detailed to the most severe. -/
inductive LogLevel where
  | trace
  | debug
  | info
  | warn
  | error
deriving DecidableEq, Repr

namespace LogLevel

/-- The levels, the most detailed first. -/
def all : List LogLevel :=
  [trace, debug, info, warn, error]

/-- The name of a level. -/
def name : LogLevel → String
  | trace => "trace"
  | debug => "debug"
  | info => "info"
  | warn => "warn"
  | error => "error"

/-- The name of a level in capitals. -/
def label : LogLevel → String
  | trace => "TRACE"
  | debug => "DEBUG"
  | info => "INFO"
  | warn => "WARN"
  | error => "ERROR"

/-- How severe a level is. -/
def severity : LogLevel → Nat
  | trace => 0
  | debug => 1
  | info => 2
  | warn => 3
  | error => 4

/-- The level that a text names up to case; a text that names none stands for `info`. -/
def ofText (s : String) : LogLevel :=
  (all.find? (fun level => Text.readsAs level.name s)).getD info

end LogLevel

/-- A configuration of logging. -/
structure LogConfig where
  level : LogLevel := .info
  path : Option String := none
  json : Bool := false
deriving DecidableEq, Repr

namespace LogConfig

/-- The file that is logged to where no other is named. -/
def defaultFile : String := "typthon_sync.log"

/-- The configuration where nothing is configured. -/
def default : LogConfig := {}

/-- The configuration for the search for errors. -/
def verbose : LogConfig :=
  { level := .trace, path := some defaultFile }

/-- The variable of the level. -/
def levelVariable : String := "TYPTHON_SYNC_LOG_LEVEL"

/-- The variable of the file. -/
def fileVariable : String := "TYPTHON_SYNC_LOG_FILE"

/-- The variable that asks for JSON by being set. -/
def jsonVariable : String := "TYPTHON_SYNC_LOG_JSON"

/-- The configuration that the variables of an environment give. -/
def ofEnvironment (env : Environment) : LogConfig :=
  { level := ((env.lookup levelVariable).map LogLevel.ofText).getD .info
    path := env.lookup fileVariable
    json := (env.lookup jsonVariable).isSome }

end LogConfig

end SyncLayer
