import SyncLayer.Config.Settings
import SyncLayer.Tally.Basic
import SyncLayer.Text.Lines

/-!
# Reports of tallies

A tally is reported in four lines or as one JSON object.
-/

namespace SyncLayer.Tally

/-- The seconds that the operations took. -/
def seconds (s : Settings) (t : Tally) : Binary64 :=
  s.seconds t.cycles

/-- The mean cycles of an operation, and zero if there are none. -/
def averageCycles (t : Tally) : Binary64 :=
  if t.operations = 0 then .zero else .quotient t.cycles.toNat t.operations.toNat

/-- The lines of a report without what stands in front of them. -/
def figures (s : Settings) (t : Tally) : List String :=
  [Decimal.text t.operations.toNat ++ " total calls",
    Decimal.text t.cycles.toNat ++ " total time spent, in cycles",
    String.ofList ((t.seconds s).fixed 6) ++ " total time spent, in seconds",
    String.ofList (t.averageCycles.fixed 2) ++ " average cycles for an incref/decref"]

/-- The report in lines. -/
def report (s : Settings) (t : Tally) : String :=
  Text.joinLines ((t.figures s).map (fun line => "[incref/decref] " ++ line))

/-- The report as a JSON value. -/
def jsonReport (s : Settings) (t : Tally) : Json :=
  .object
    [("average_cycles", .real t.averageCycles),
      ("refcounts", .object
        [("total_refcount_ops", .natural t.operations.toNat),
          ("total_refcount_time", .natural t.cycles.toNat)]),
      ("total_seconds", .real (t.seconds s))]

/-- The report in the format that is in force. -/
def formatted (s : Settings) (t : Tally) : String :=
  match s.format with
  | .text => t.report s
  | .json => (t.jsonReport s).compact

/-- The totals of a process as they are shown. -/
def summaryShown (t : Tally) : Text.Shown :=
  .record "RefcountSummary"
    [("total_refcount_ops", .number t.operations.toNat),
      ("total_refcount_time", .number t.cycles.toNat)]

end SyncLayer.Tally
