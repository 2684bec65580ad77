import SyncLayer.Config.Overrides

/-!
# Sources of a configuration

A configuration comes from a file, whose path a variable of the environment may give, and from
the other variables, which override it.
-/

namespace SyncLayer

/-- The variables of an environment and their values. -/
structure Environment where
  bindings : List (String × ByteArray)

/-- The value of a variable. One that is no text counts as unset. -/
def Environment.lookup (env : Environment) (name : String) : Option String :=
  (env.bindings.find? (fun v => v.1 == name)).bind (fun v => String.fromUTF8? v.2)

/-- What reading a file gives: its bytes, or why it cannot be read. -/
abbrev FileContents := Except SystemError ByteArray

/-- The text of a file. -/
def FileContents.text : FileContents → Except ReadError String
  | .error e => .error (.system e)
  | .ok bytes =>
    match String.fromUTF8? bytes with
    | some s => .ok s
    | none => .error .notUtf8

namespace Config

/-- The configuration that a text denotes. -/
def parse (s : String) : Except ConfigError Config :=
  (ofDocument s.toList).mapError .document

/-- The configuration of a file. -/
def load (file : FileContents) : Except ConfigError Config := do
  let s ← (FileContents.text file).mapError .read
  parse s

/-- The configuration of the named file, if one is named, before overrides. -/
def ofFile (env : Environment) (files : String → FileContents) : Except ConfigError Config :=
  match env.lookup fileVariable with
  | some path => load (files path)
  | none => .ok default

/-- The configuration of the named file with the overrides of the environment. -/
def discover (env : Environment) (files : String → FileContents) : Except ConfigError Config := do
  let c ← ofFile env files
  c.withOverrides env.lookup

/-- The default configuration with the overrides of the environment. -/
def ofEnvironment (env : Environment) : Except ConfigError Config :=
  default.withOverrides env.lookup

end Config

end SyncLayer
