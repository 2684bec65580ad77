import SyncLayer.Config.Document
import SyncLayer.Error.System

/-!
# Errors of configurations and of the platform

A configuration cannot be had if its file cannot be read, if the file's document cannot be used,
or if a value given for one of its fields means nothing.
-/

namespace SyncLayer

/-- Why a file cannot be read. -/
inductive ReadError where
  | system (e : SystemError)
  | notUtf8
deriving DecidableEq, Repr

namespace ReadError

/-- The text of an error of reading. -/
def message : ReadError → String
  | system e => e.text
  | notUtf8 => "stream did not contain valid UTF-8"

/-- An error of reading as it is shown. -/
def shown : ReadError → Text.Shown
  | system e =>
    .record "Os" [("code", .number e.code), ("kind", .word e.kind), ("message", .text e.message)]
  | notUtf8 => .record "Error" [("kind", .word "InvalidData"), ("message", .text notUtf8.message)]

end ReadError

/-- Why a configuration cannot be had. -/
inductive ConfigError where
  | read (e : ReadError)
  | document (e : DocumentError)
  | invalidValue (key value : String)
deriving DecidableEq, Repr

namespace ConfigError

/-- The text of what caused an error, where the error is not its own cause. -/
def source? : ConfigError → Option String
  | read e => some e.message
  | document e => e.message?
  | invalidValue _ _ => none

/-- The text of an error. Only for a document that is refused as a whole there is none. -/
def message? : ConfigError → Option String
  | read e => some ("failed to read config: " ++ e.message)
  | document e => e.message?.map ("failed to parse config: " ++ ·)
  | invalidValue key value => some ("invalid value for " ++ key ++ ": " ++ Text.quoted value)

/-- An error as it is shown. An error about a document is not taken apart. -/
def shown : ConfigError → Text.Shown
  | read e => .applied "Io" [e.shown]
  | document e => .applied "Parse" [.text (e.message?.getD "")]
  | invalidValue key value =>
    .record "InvalidValue" [("key", .text key), ("value", .text value)]

end ConfigError

/-- Why the layer fails: a call of the platform failed, or there is no configuration. -/
inductive LayerError where
  | platform (operation : String) (e : SystemError)
  | config (e : ConfigError)
deriving DecidableEq, Repr

namespace LayerError

/-- The text of what caused an error. -/
def source? : LayerError → Option String
  | platform _ _ => none
  | config e => e.message?

/-- The text of an error. -/
def message? : LayerError → Option String
  | platform operation e => some (operation ++ " failed: " ++ e.text)
  | config e => e.message?.map ("configuration error: " ++ ·)

/-- An error as it is shown. -/
def shown : LayerError → Text.Shown
  | platform operation e =>
    .record "Platform" [("op", .text operation), ("code", .number e.code)]
  | config e => .applied "Config" [e.shown]

end LayerError

end SyncLayer
