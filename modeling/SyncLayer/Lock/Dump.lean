import SyncLayer.Lock.Holder

/-!
# Dumps of counters

What a thread does to report the counters of a lock and to set them to zero, one access after the
other. It loads the counters, writes their report, and stores zeros, in the same order in which it
loaded them. It does not hold the lock meanwhile.
-/

namespace SyncLayer

/-- One of the counters of a lock. -/
inductive CounterField where
  | uncontended
  | contended
  | totalDelay
  | maxDelay
deriving DecidableEq, Repr

namespace CounterField

/-- A counter. -/
def get (c : Counters) : CounterField → UInt64
  | uncontended => c.uncontended
  | contended => c.contended
  | totalDelay => c.totalDelay
  | maxDelay => c.maxDelay

/-- Counters with another number in one of them. -/
def put (n : UInt64) (c : Counters) : CounterField → Counters
  | uncontended => { c with uncontended := n }
  | contended => { c with contended := n }
  | totalDelay => { c with totalDelay := n }
  | maxDelay => { c with maxDelay := n }

/-- The counter behind another one, in the order in which they are loaded and set to zero. -/
def next? : CounterField → Option CounterField
  | uncontended => some contended
  | contended => some totalDelay
  | totalDelay => some maxDelay
  | maxDelay => none

end CounterField

/-- Where a dump stands: there is none; before it loads a counter, with what it has loaded; before
it writes the report; or before it sets a counter to zero. -/
inductive DumpPhase where
  | idle
  | loading (f : CounterField) (seen : Counters)
  | writing (seen : Counters)
  | clearing (f : CounterField)
deriving DecidableEq, Repr

/-- What is seen of a step of a dump: that it starts, loads a counter, or writes the report of what
it has loaded; that it fails to, because there is no such report; and that it sets a counter to
zero. -/
inductive DumpEvent where
  | starts
  | loads (f : CounterField)
  | reports (seen : Counters)
  | faults (f : Fault)
  | clears (f : CounterField)
deriving DecidableEq, Repr

namespace DumpPhase

/-- What a dump does next, if everything can be written: what is seen of it, what the lock keeps,
and where the dump stands behind it. -/
def access (stats : LockStats) : DumpPhase → DumpEvent × LockStats × DumpPhase
  | idle => (.starts, stats, loading .uncontended .zero)
  | loading f seen =>
    let seen := f.put (f.get stats.counters) seen
    (.loads f, stats, match f.next? with
      | some g => loading g seen
      | none => writing seen)
  | writing seen =>
    match seen.total with
    | .ok _ => (.reports seen, stats, clearing .uncontended)
    | .error f => (.faults f, stats, idle)
  | clearing f =>
    (.clears f, stats.change (fun c => f.put 0 c), match f.next? with
      | some g => clearing g
      | none => idle)

end DumpPhase

end SyncLayer
