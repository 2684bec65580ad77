import SyncLayer.Json.Value
import SyncLayer.Logging.Event

/-!
# Lines of a log

An event is logged as one line. The console shows it as text, or as a JSON object where the
configuration asks for JSON; a file always holds text.
-/

namespace SyncLayer

namespace LogValue

/-- A value as a JSON value. -/
def json : LogValue → Json
  | text s => .text s
  | number n => .natural n
  | boolean b => .boolean b

/-- A value as it is logged as text. -/
def words : LogValue → String
  | text s => s
  | number n => Decimal.text n
  | boolean b => if b then "true" else "false"

end LogValue

namespace LogEvent

/-- An event as a JSON value. -/
def json (e : LogEvent) : Json :=
  .object
    [("level", .text e.level.label),
      ("fields", .object (e.fields.map (fun f => (f.1, f.2.json)))),
      ("target", .text e.target)]

/-- An event as it is logged as text. -/
def words (e : LogEvent) : String :=
  let field : String × LogValue → String
    | ("message", v) => v.words
    | (name, v) => name ++ "=" ++ v.words
  e.level.label ++ " " ++ e.target ++ ": " ++ " ".intercalate (e.fields.map field)

/-- An event as the console shows it. -/
def consoleLine (c : LogConfig) (e : LogEvent) : String :=
  (if c.json then e.json.compact else e.words) ++ "\n"

/-- An event as a file holds it. -/
def fileLine (e : LogEvent) : String :=
  e.words ++ "\n"

end LogEvent

end SyncLayer
