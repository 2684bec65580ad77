import SyncLayer.Contention.Report
import SyncLayer.Json.Reader
import SyncLayer.Tally.Report
import SyncLayer.Text.Pieces

/-!
# Reading reports

What can be read in the reports of locks and of tallies. A JSON report is read as a JSON value, in
which every figure stands behind its name. In a report in lines a figure stands between the
description in brackets and its label.
-/

namespace SyncLayer

namespace Json

/-- The text that a value is. -/
def asText? : Json → Option String
  | text s => some s
  | _ => none

/-- The number of 64 bits that a value is. -/
def asUInt64? : Json → Option UInt64
  | natural n => if n < UInt64.size then some (UInt64.ofNat n) else none
  | _ => none

/-- The real number that a value is. -/
def asReal? : Json → Option Binary64
  | real x => some x
  | _ => none

end Json

/-- The counters that a JSON value holds. -/
def Counters.ofJson? (v : Json) : Option Counters := do
  let uncontended ← (v.field? "no_contention_count").bind Json.asUInt64?
  let contended ← (v.field? "contention_count").bind Json.asUInt64?
  let totalDelay ← (v.field? "contention_total_delay").bind Json.asUInt64?
  let maxDelay ← (v.field? "contention_max_delay").bind Json.asUInt64?
  some { uncontended, contended, totalDelay, maxDelay }

/-- The tally that a JSON value holds. -/
def Tally.ofJson? (v : Json) : Option Tally := do
  let operations ← (v.field? "total_refcount_ops").bind Json.asUInt64?
  let cycles ← (v.field? "total_refcount_time").bind Json.asUInt64?
  some { operations, cycles }

/-- What the JSON report of a lock says. -/
structure LockReport where
  description : String
  total : UInt64
  counters : Counters
  averageDelay : Binary64
  totalSeconds : Binary64
deriving DecidableEq, Repr

/-- What the JSON report of a lock says, from its value. -/
def LockReport.ofJson? (v : Json) : Option LockReport := do
  let description ← (v.field? "lock").bind Json.asText?
  let total ← (v.field? "total").bind Json.asUInt64?
  let counters ← (v.field? "stats").bind Counters.ofJson?
  let averageDelay ← (v.field? "contention_average_delay").bind Json.asReal?
  let totalSeconds ← (v.field? "contention_total_seconds").bind Json.asReal?
  some { description, total, counters, averageDelay, totalSeconds }

/-- What the JSON report of a tally says. -/
structure TallyReport where
  tally : Tally
  averageCycles : Binary64
  totalSeconds : Binary64
deriving DecidableEq, Repr

/-- What the JSON report of a tally says, from its value. -/
def TallyReport.ofJson? (v : Json) : Option TallyReport := do
  let tally ← (v.field? "refcounts").bind Tally.ofJson?
  let averageCycles ← (v.field? "average_cycles").bind Json.asReal?
  let totalSeconds ← (v.field? "total_seconds").bind Json.asReal?
  some { tally, averageCycles, totalSeconds }

/-! ### Reports in lines -/

/-- What the lines of a report of a lock say: the total, both counts, and if any acquisition was
contended, the sum of the delays and the longest of them. -/
structure Figures where
  total : Nat
  uncontended : Nat
  contended : Nat
  delays : Option (Nat × Nat)
deriving DecidableEq, Repr

namespace Figures

/-- What stands behind the last bracket of a line. -/
def said (line : List Char) : List Char :=
  (line.reverse.takeWhile (· ≠ ']')).reverse

/-- The number that a line says, if it stands in front of a label. -/
def figure? (label : String) (line : List Char) : Option Nat :=
  match said line with
  | ' ' :: rest =>
    let ds := rest.takeWhile Char.isDigit
    if ds ≠ [] ∧ rest.dropWhile Char.isDigit = ' ' :: label.toList then some (Decimal.value ds)
    else none
  | _ => none

/-- What the lines on delays say, if there are any. -/
def delays? : List (List Char) → Option (Option (Nat × Nat))
  | [] => some none
  | [total, _, _, longest] => do
    let totalDelay ← figure? "contention total delay in cycles" total
    let maxDelay ← figure? "contention max delay in cycles" longest
    some (some (totalDelay, maxDelay))
  | _ => none

/-- What the lines of a report say. -/
def read? (report : String) : Option Figures :=
  match Text.pieces '\n' report.toList with
  | total :: uncontended :: contended :: rest => do
    let total ← figure? "total locks" total
    let uncontended ← figure? "locks without contention" uncontended
    let contended ← figure? "locks with contention" contended
    let delays ← delays? rest
    some { total, uncontended, contended, delays }
  | _ => none

end Figures

end SyncLayer
