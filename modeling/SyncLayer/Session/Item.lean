import SyncLayer.Lock.Any
import SyncLayer.RefCount.Basic
import SyncLayer.Tally.Report

/-!
# Items of a session

A session works on items that it makes and names: locks, counts, statistics, tallies, and
handles of counted objects.
-/

namespace SyncLayer.Session

/-- Where the delay of an acquisition comes from: it is measured, or the next of a list, and
zero behind its end. -/
inductive DelaySource where
  | measured
  | scripted (delays : List UInt64)
deriving DecidableEq, Repr

namespace DelaySource

/-- A delay in cycles that stands for one of a thread that slept. -/
def asleep : UInt64 := 10000000

/-- A delay in cycles that stands for one of a thread that did not wait. -/
def awake : UInt64 := 1

/-- The next delay, and the source behind it. -/
def next (slept : Bool) : DelaySource → UInt64 × DelaySource
  | measured => (if slept then asleep else awake, measured)
  | scripted [] => (0, scripted [])
  | scripted (d :: ds) => (d, scripted ds)

end DelaySource

/-- A lock and the source of its delays. -/
structure TimedLock where
  lock : AnyLock
  delays : DelaySource
deriving DecidableEq, Repr

namespace TimedLock

/-- Acquire a lock that does not block, as a thread that slept before or did not. -/
def acquire (s : Settings) (site : Site) (slept : Bool) (me : ThreadId) (l : TimedLock) :
  TimedLock
  :=
  if l.lock.isOutermost me then
    let (delay, delays) := l.delays.next slept
    let inner := if slept then Lock.acquireWoken s delay site else Lock.acquire s delay site
    { lock := l.lock.acquireBy inner me, delays }
  else { l with lock := l.lock.acquireBy id me }

/-- Change the lock itself, or the one inside a recursive lock. -/
def mapBase (f : Lock → Lock) (l : TimedLock) : TimedLock :=
  { l with lock := l.lock.mapBase f }

/-- Whether the statistics of a lock hold measured delays, which no two runs share. -/
def isMeasured (l : TimedLock) : Bool :=
  l.delays == .measured && l.lock.base.stats.isOn

end TimedLock

/-- What runs when a count becomes zero: nothing, a hook that notes it, one that notes it and
takes a new reference, or one that fails. -/
inductive Hook where
  | none
  | note
  | revive
  | fail
deriving DecidableEq, Repr

/-- A count and how often its hook ran. -/
structure HookedCount where
  references : RefCount
  freed : Nat := 0
deriving DecidableEq, Repr

namespace HookedCount

/-- An operation on the count. -/
def onCount (a : Attempt RefCount Int64) : Attempt HookedCount Int64 :=
  Attempt.within HookedCount.references (fun h references => { h with references }) a

/-- Run a hook. -/
def run : Hook → Attempt HookedCount Unit
  | .none => pure ()
  | .note => modify (fun h => { h with freed := h.freed + 1 })
  | .revive => do
    modify (fun h => { h with freed := h.freed + 1 })
    let _ ← onCount RefCount.increment
  | .fail => throw .hookFailed

/-- Count a reference away and run the hook if none is left. -/
def decrement (hook : Hook) : Attempt HookedCount Int64 :=
  RefCount.thenIfZero (onCount RefCount.decrement) (run hook)

end HookedCount

/-- An item. Locks and objects have places of their own, because they outlive the names that
items give them. -/
inductive Item where
  | lock (place : Nat)
  | native (word : LockWord)
  | mutex (word : LockWord) (value : UInt64)
  | stats (s : LockStats)
  | shadow (t : Tally)
  | totals (t : Tally)
  | count (c : HookedCount)
  | handle (object : Nat)
  | raw (object : Nat)
  | gone
deriving DecidableEq, Repr

/-- What a thread gives back when it ends. -/
inductive Guard where
  | lock (place : Nat)
  | mutex (id : String)
deriving DecidableEq, Repr

end SyncLayer.Session
