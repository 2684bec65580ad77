import SyncLayer.Lock.Contender
import SyncLayer.Lock.Instrumented

/-!
# Threads that use an instrumented lock

What a thread does to acquire an instrumented lock and to release it, one access after the other.
Once the thread has taken the word it counts the acquisition, which is a single access unless the
acquisition was contended; it stores its site, and it notes that the lock is held. From then on the
lock is acquired. A release notes that the lock is not held before it gives the word back.
-/

namespace SyncLayer

namespace Counters

/-- Count an acquisition, which was contended or not. -/
def count (contended : Bool) (c : Counters) : Counters :=
  if contended then { c with contended := c.contended + 1 }
  else { c with uncontended := c.uncontended + 1 }

/-- Add the delay of a contended acquisition. -/
def addDelay (delay : UInt64) (c : Counters) : Counters :=
  { c with totalDelay := c.totalDelay + delay }

/-- Keep the delay of a contended acquisition if it is the longest. -/
def raiseDelay (delay : UInt64) (c : Counters) : Counters :=
  { c with maxDelay := max c.maxDelay delay }

end Counters

/-- Change the counters, if anything is counted. -/
def LockStats.change (f : Counters → Counters) : LockStats → LockStats
  | off => off
  | on threshold c => on threshold (f c)

/-- How a thread acquires a lock: it waits until the lock is free, or it takes the lock only if it
is. -/
inductive HolderCall where
  | acquire
  | tryAcquire
deriving DecidableEq, Repr

namespace HolderCall

/-- What is asked of the word. -/
def native : HolderCall → LockCall
  | acquire => .lock
  | tryAcquire => .tryLock

/-- The delay that is counted, where a clock showed one. -/
def delay (measured : UInt64) : HolderCall → UInt64
  | acquire => measured
  | tryAcquire => 0

end HolderCall

/-- Where a thread stands: in no call; in one that takes the word; before it counts the
acquisition, adds its delay, keeps the delay if it is the longest, stores its site, or notes that
the lock is held; behind all that; and, in a release, before it notes that the lock is not held, or
in the call that gives the word back. -/
inductive HolderPhase where
  | outside
  | taking (c : HolderCall) (site : Site)
  | counting (site : Site) (delay : UInt64)
  | adding (site : Site) (delay : UInt64)
  | raising (site : Site) (delay : UInt64)
  | signing (site : Site)
  | noting (site : Site)
  | holding (site : Site)
  | leaving
  | givingBack
deriving DecidableEq, Repr

/-- What is seen of a step that does not concern the word: that a thread starts a call; that it
counts the acquisition as contended or not, or does not count; that it adds its delay, keeps it if
it is the longest, or stores its site; that it notes that the lock is held, behind which it has
acquired the lock; and that it starts a release, or notes there that the lock is not held. -/
inductive HolderEvent where
  | calls (c : HolderCall) (site : Site)
  | counts (contended : Bool)
  | passes
  | adds
  | raises
  | signs
  | acquires (site : Site)
  | leaves
  | clears
deriving DecidableEq, Repr

/-- What the thread asks of the word behind such a step, if it does. -/
def HolderEvent.native? : HolderEvent → Option LockCall
  | calls c _ => some c.native
  | clears => some .unlock
  | _ => none

namespace HolderPhase

/-- The access that a thread does next, unless that is one to the word: what is seen of it, the
lock, and where the thread stands behind it. -/
def access (s : Settings) (l : Lock) : HolderPhase → Option (HolderEvent × Lock × HolderPhase)
  | counting site delay =>
    match l.stats.threshold? s with
    | none => some (.passes, l, signing site)
    | some threshold =>
      if delay ≤ threshold then
        some (.counts false, { l with stats := l.stats.change (.count false) }, signing site)
      else
        some (.counts true, { l with stats := l.stats.change (.count true) }, adding site delay)
  | adding site delay =>
    some (.adds, { l with stats := l.stats.change (.addDelay delay) }, raising site delay)
  | raising site delay =>
    some (.raises, { l with stats := l.stats.change (.raiseDelay delay) }, signing site)
  | signing site => some (.signs, { l with site := some site }, noting site)
  | noting site => some (.acquires site, { l with held := true }, holding site)
  | leaving => some (.clears, { l with held := false }, givingBack)
  | outside | taking _ _ | holding _ | givingBack => none

/-- Where a thread stands behind a step that concerns the word, by what it is there: it goes on
when its call has ended. -/
def goOn (x : Contender) (measured : UInt64) : HolderPhase → HolderPhase
  | taking c site =>
    if x.phase ≠ .outside then taking c site
    else if x.holds then counting site (c.delay measured)
    else outside
  | givingBack => if x.phase ≠ .outside then givingBack else outside
  | p => p

end HolderPhase

end SyncLayer
