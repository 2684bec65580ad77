import SyncLayer.Config.Settings
import SyncLayer.Contention.Counters
import SyncLayer.Output.Sink
import SyncLayer.Text.Lines

/-!
# Reports of contention

The counters of a lock are reported in lines, each behind the lock's description in brackets, or
as one JSON object. The lines on delays stand only in the report of a lock with contended
acquisitions. There is no report if the acquisitions are too many for their number.
-/

namespace SyncLayer.Counters

/-- The decimal text of a 64-bit number. -/
private def numeral (n : UInt64) : String :=
  Decimal.text n.toNat

/-- The text of a number with a fixed number of places. -/
private def fixed (places : Nat) (x : Binary64) : String :=
  String.ofList (x.fixed places)

/-- The lines of a report without what stands in front of them. -/
def figures (s : Settings) (total : UInt64) (c : Counters) : List String :=
  let counts :=
    [numeral total ++ " total locks",
      numeral c.uncontended ++ " locks without contention",
      numeral c.contended ++ " locks with contention"]
  let delays :=
    [numeral c.totalDelay ++ " contention total delay in cycles",
      fixed 6 (s.seconds c.totalDelay) ++ " contention total delay in cpu-seconds",
      fixed 2 c.averageDelay ++ " contention average delay in cycles",
      numeral c.maxDelay ++ " contention max delay in cycles"]
  if 0 < c.contended then counts ++ delays else counts

/-- The report in lines. -/
def report (s : Settings) (description : String) (c : Counters) : Except Fault String := do
  let total ← c.total
  return Text.joinLines ((c.figures s total).map (fun line => "[" ++ description ++ "] " ++ line))

/-- The counters as a JSON value. -/
def json (c : Counters) : Json :=
  .object
    [("contention_count", .natural c.contended.toNat),
      ("contention_max_delay", .natural c.maxDelay.toNat),
      ("contention_total_delay", .natural c.totalDelay.toNat),
      ("no_contention_count", .natural c.uncontended.toNat)]

/-- The report as a JSON value. -/
def jsonReport (s : Settings) (description : String) (c : Counters) : Except Fault Json := do
  let total ← c.total
  return .object
    [("contention_average_delay", .real c.averageDelay),
      ("contention_total_seconds", .real (s.seconds c.totalDelay)),
      ("lock", .text description),
      ("stats", c.json),
      ("total", .natural total.toNat)]

/-- The report in the format that is in force. -/
def formatted (s : Settings) (description : String) (c : Counters) : Except Fault String :=
  match s.format with
  | .text => c.report s description
  | .json => (c.jsonReport s description).map Json.compact

/-- Write the report, and then a line end. -/
def write (s : Settings) (description : String) (c : Counters) :
  Attempt Sink (Except WriteError Unit)
  := do
  let text ← Attempt.ofExcept (c.formatted s description)
  Attempt.ofRun (fun sink =>
    match sink.writeText text with
    | (.error e, sink) => (.ok (.error e), sink)
    | (.ok (), sink) =>
      let (r, sink) := sink.writeText "\n"
      (.ok r, sink))

end SyncLayer.Counters
