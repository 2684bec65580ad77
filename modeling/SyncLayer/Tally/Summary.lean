import SyncLayer.Output.Sink
import SyncLayer.Tally.Recorder
import SyncLayer.Tally.Report

/-!
# Threads that print summaries

What a thread does to print a summary of the totals, one access to what threads share after the
other. It merges its own shadow, it takes the totals, and it writes what it took at once. It takes
totals without operations too, but writes nothing of them. What it took it does not put back,
whether that could be written or not.
-/

namespace SyncLayer

/-- Where a thread stands with a summary: it prints none; it merges its own shadow; it takes the
totals; or before it writes what it took. -/
inductive SummaryPhase where
  | idle
  | merging
  | taking
  | writing (u : Tally)
deriving DecidableEq, Repr

/-- What is seen of a step: what a thread does to tallies; that it has taken totals for a summary,
or totals without operations, of which there is none; that it has written a whole summary, with the
settings in force; and that it has failed to. -/
inductive SummaryEvent where
  | tallies (e : TallyEvent)
  | picks (u : Tally)
  | skips (u : Tally)
  | writes (s : Settings) (u : Tally)
  | fails (s : Settings) (u : Tally)
deriving DecidableEq, Repr

/-- What is printed of totals. -/
def Tally.summary (s : Settings) (u : Tally) : String :=
  u.formatted s ++ "\n"

namespace SummaryPhase

/-- What a thread does with the totals that it has taken. -/
def taken (u : Tally) : SummaryEvent × SummaryPhase :=
  if u.operations = 0 then (.skips u, idle) else (.picks u, writing u)

/-- Write a summary: what is seen of it, and the sink behind it. -/
def write (s : Settings) (u : Tally) (stdout : Sink) : SummaryEvent × Sink :=
  match stdout.writeText (u.summary s) with
  | (.ok _, stdout) => (.writes s u, stdout)
  | (.error _, stdout) => (.fails s u, stdout)

end SummaryPhase

end SyncLayer
