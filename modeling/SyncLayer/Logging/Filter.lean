import SyncLayer.Logging.Directive
import SyncLayer.Logging.Event
import SyncLayer.Text.Order

/-!
# Filters of events

A filter is a list of directives. Of those that concern an event the most specific one decides:
the one with the longest target, then one with a field before one without, then the one whose
field comes last in the order of texts. Of directives that agree in all of this the latest one
counts.
-/

namespace SyncLayer

namespace LogDirective

/-- Whether a directive concerns an event. -/
def concerns (d : LogDirective) (e : LogEvent) : Bool :=
  !d.isForSpans && d.target.all (fun t => t.toList.isPrefixOf e.target.toList)
    && d.field.all e.has

/-- The length of a target in bytes, one more for having one. -/
def targetSize (d : LogDirective) : Nat :=
  (d.target.map (fun t => t.utf8ByteSize + 1)).getD 0

/-- Whether a directive counts before another one that concerns the same event. -/
def precedes (d e : LogDirective) : Bool :=
  if d.targetSize = e.targetSize then
    match d.field, e.field with
    | some a, some b => !Text.comesBefore a.toList b.toList
    | none, some _ => false
    | _, none => true
  else e.targetSize < d.targetSize

end LogDirective

/-- A filter of events. -/
structure LogFilter where
  directives : List LogDirective
deriving DecidableEq, Repr

namespace LogFilter

/-- The filter that logs one target and its parts from a level on. -/
def ofTarget (target : String) (level : LogLevel) : LogFilter :=
  { directives := [{ level := some level, target := some target }] }

/-- The filter that a text denotes: directives with commas between them. Without directives it
lets errors through. -/
def read (s : String) : Except DirectiveError LogFilter := do
  let directives ← ((Text.pieces ',' s.toList).filter (!·.isEmpty)).mapM LogDirective.read
  return { directives := if directives.isEmpty then [{ level := some .error }] else directives }

/-- The directive that decides about an event. -/
def decisive? (f : LogFilter) (e : LogEvent) : Option LogDirective :=
  (f.directives.filter (·.concerns e)).foldl
    (fun best d => if best.all d.precedes then some d else best) none

/-- Whether a filter lets an event through. -/
def lets (f : LogFilter) (e : LogEvent) : Bool :=
  match f.decisive? e with
  | some { level := some level, .. } => level.severity ≤ e.level.severity
  | _ => false

/-- The variable that holds a filter. -/
def filterVariable : String := "RUST_LOG"

/-- The filter of an environment: the one in its variable or, where there is none or a malformed
one, the one that logs the layer's own events from the configured level on. From a torn one no
filter can be had. -/
def ofEnvironment? (env : Environment) (c : LogConfig) : Option LogFilter :=
  match (env.lookup filterVariable).map read with
  | some (.ok f) => some f
  | some (.error .torn) => none
  | some (.error .malformed) | none => some (ofTarget "typthon_sync" c.level)

end LogFilter

end SyncLayer
