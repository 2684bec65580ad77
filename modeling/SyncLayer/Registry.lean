import SyncLayer.Lock.Any

/-!
# Registry

Locks register so that their statistics can be written together. Each lock is registered once
and keeps the place of its first registration. Whoever writes the reports resets the counters
of a lock when its report is written, and keeps them if it could not be.
-/

namespace SyncLayer

/-- Register a lock. -/
def registerLock (lock : Nat) (registry : List Nat) : List Nat :=
  if lock ∈ registry then registry else registry ++ [lock]

/-- What the registry sees of a lock. -/
structure LockEntry where
  description : String
  counters : Counters
deriving DecidableEq, Repr

namespace LockEntry

/-- What the registry sees of a lock. -/
def ofLock (l : Lock) : LockEntry :=
  { description := l.description, counters := l.stats.counters }

/-- An entry with its counters at zero. -/
def reset (e : LockEntry) : LockEntry :=
  { e with counters := .zero }

/-- Write the reports of the entries in turn and reset their counters. The first report that
cannot be written, or does not exist, ends it; its entry and those behind it stay as they
are. -/
def writeAll (s : Settings) :
  List LockEntry → Sink → Except Fault (Except WriteError Unit) × List LockEntry × Sink
  | [], sink => (.ok (.ok ()), [], sink)
  | e :: rest, sink =>
    match (e.counters.write s e.description).on sink with
    | (.ok (.ok ()), sink) =>
      let (r, rest, sink) := writeAll s rest sink
      (r, e.reset :: rest, sink)
    | (r, sink) => (r, e :: rest, sink)

end LockEntry

end SyncLayer
