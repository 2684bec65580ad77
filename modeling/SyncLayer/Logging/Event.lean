import SyncLayer.Logging.Config

/-!
# Events

What happens in the layer is told in events.
-/

namespace SyncLayer

/-- The value of a field of an event. -/
inductive LogValue where
  | text (s : String)
  | number (n : Nat)
  | boolean (b : Bool)
deriving DecidableEq, Repr

/-- An event: its level, its target, and its fields. -/
structure LogEvent where
  level : LogLevel
  target : String
  fields : List (String × LogValue)
deriving DecidableEq, Repr

/-- Whether an event has a field. -/
def LogEvent.has (e : LogEvent) (field : String) : Bool :=
  (e.fields.lookup field).isSome

end SyncLayer
